import ChipEight.Host.Folder
import ChipEight.Main
import ChipEight.Proofs.BoundedStack
import ChipEight.Proofs.ConsoleHistory
import ChipEight.Proofs.DecimalDigits
import ChipEight.Proofs.Decoding
import ChipEight.Proofs.Drawing
import ChipEight.Proofs.Dumps
import ChipEight.Proofs.Faults
import ChipEight.Proofs.Interleaving
import ChipEight.Proofs.Listing
import ChipEight.Proofs.Loading
import ChipEight.Proofs.Locality
import ChipEight.Proofs.Modes
import ChipEight.Proofs.Overlay
import ChipEight.Proofs.PixelCount
import ChipEight.Proofs.RandomStream
import ChipEight.Proofs.Reachable
import ChipEight.Proofs.RegisterArithmetic
import ChipEight.Proofs.Repaint
import ChipEight.Proofs.Subroutine
import ChipEight.Proofs.Waiting
import ChipEight.Proofs.Headless
import ChipEight.Proofs.Options
import ChipEight.Proofs.Threshold
import ChipEight.Proofs.Timers
