import ChipEight.Proofs.Cycle
import ChipEight.Proofs.Decoding
import ChipEight.Proofs.HexText
import ChipEight.Proofs.Loading

/-!
# Listings, fetches and program images

Two neighbouring cells are read as one opcode in three places: by whoever writes a program
image, by the fetch of a cycle, and by a listing, whose addresses may be negative and then
count from the end of memory.

What is proved here:

* **images** — `Opcode.image`, a list of opcodes as bytes, high byte first, and
  `wordAt_of_loaded`: once it is loaded the opcodes stand in memory;
* **three readers** — `fetch_of_reach`: a fetch reads the opcode that a listing shows, and
  `listingLine_eq`: the listing names the table line that the machine goes by;
* **lines** — `visited`, the addresses that a listing reads, in order;
  `listingLines_of_reach`: all lines, if every one of them can be read, and
  `listingLines_of_not_reach`: otherwise the first that cannot be read is reported;
  `readLine?_lineText`: whoever cuts a line at its colon has its parts again;
* **the whole listing** — `listing_agrees`.
-/

namespace ChipEight

/-! ## Images -/

namespace Opcode

/-- An opcode as two bytes, the high one first. -/
def bytes (w : Opcode) : List Byte := [BitVec.ofNat 8 (w.toNat / 256), BitVec.ofNat 8 w.toNat]

/-- A program given by its opcodes. -/
def image (ws : List Opcode) : List Byte := ws.flatMap bytes

@[simp] theorem image_cons (w : Opcode) (ws : List Opcode) :
    image (w :: ws) = w.bytes ++ image ws := rfl

theorem length_image (ws : List Opcode) : (image ws).length = 2 * ws.length := by
  induction ws with
  | nil => rfl
  | cons w ws ih =>
    rw [image_cons, List.length_append, ih, List.length_cons, bytes]
    simp only [List.length_cons, List.length_nil]
    omega

/-- The two bytes of an opcode stand at twice its place and behind it. -/
theorem getElem?_image {ws : List Opcode} {w : Opcode} {i : Nat} (h : ws[i]? = some w) :
    (image ws)[2 * i]? = some (BitVec.ofNat 8 (w.toNat / 256)) ∧
      (image ws)[2 * i + 1]? = some (BitVec.ofNat 8 w.toNat) := by
  induction ws generalizing i with
  | nil => simp at h
  | cons v ws ih =>
    cases i with
    | zero =>
      rw [List.getElem?_cons_zero, Option.some.injEq] at h
      subst h
      exact ⟨rfl, rfl⟩
    | succ i => exact ih h

theorem toNat_append (high low : Byte) :
    (high ++ low : Opcode).toNat = 256 * high.toNat + low.toNat := by
  rw [BitVec.toNat_append, ← Nat.shiftLeft_add_eq_or_of_lt low.isLt, Nat.shiftLeft_eq]
  omega

/-- Two bytes make up the opcode that they were taken from. -/
theorem append_bytes (w : Opcode) :
    (BitVec.ofNat 8 (w.toNat / 256) ++ BitVec.ofNat 8 w.toNat : Opcode) = w := by
  have hw := w.isLt
  apply BitVec.eq_of_toNat_eq
  rw [toNat_append, BitVec.toNat_ofNat, BitVec.toNat_ofNat]
  omega

end Opcode

/-! ## Three readers -/

namespace Memory

/-- Whether a signed address leads to a cell. -/
def Reach (a : Int) : Prop := -4096 ≤ a ∧ a < 4096

instance (a : Int) : Decidable (Reach a) := inferInstanceAs (Decidable (_ ∧ _))

/-- The word at a signed address: two cells, each of them counted modulo the size of
memory. -/
def wordAt (m : Memory) (a : Int) : Opcode :=
  m.cell (a % 4096).toNat ++ m.cell ((a + 1) % 4096).toNat

theorem toNat_wordAt (m : Memory) (a : Int) :
    (m.wordAt a).toNat
      = 256 * (m.cell (a % 4096).toNat).toNat + (m.cell ((a + 1) % 4096).toNat).toNat :=
  Opcode.toNat_append _ _

theorem signedCell_of_reach {a : Int} (m : Memory) (h : Reach a) :
    m.signedCell a = .ok (m.cell (a % 4096).toNat) := if_pos h

theorem signedCell_of_not_reach {a : Int} (m : Memory) (h : ¬ Reach a) :
    m.signedCell a = .error (.noSuchCell a) := if_neg h

end Memory

namespace Machine

variable {m m' : Machine} {program : List Byte} {ws : List Opcode}

/-- **Fetch and listing.**  A fetch from two cells that exist reads the word that stands
there. -/
theorem fetch_of_reach (m : Machine) {a : Int} (h₀ : 0 ≤ a) (h : a ≤ 4094) :
    { m with pc := BitVec.ofInt 16 a }.fetch = .ok (m.memory.wordAt a) := by
  have hpc : (BitVec.ofInt 16 a).toNat = a.toNat := by
    rw [BitVec.toNat_ofInt]
    omega
  refine fetch_eq_ok_iff.2 ⟨?_, ?_⟩
  · simp only [hpc]
    omega
  · have hhigh : min a.toNat 4095 = (a % 4096).toNat := by omega
    have hlow : a.toNat + 1 = ((a + 1) % 4096).toNat := by omega
    simp only [opcode, hpc, hhigh, hlow, Memory.wordAt]

/-- A cell of a program that was loaded. -/
theorem cell_of_loaded (h : m.Loaded program m') {k : Nat} {b : Byte}
    (hb : program[k]? = some b) : m'.memory.cell (programStart + k) = b := by
  obtain ⟨hk, rfl⟩ := List.getElem?_eq_some_iff.1 hb
  obtain ⟨-, hread⟩ := readMemory_eq_ok_iff.1 h.read_back
  have hcell := congrArg (·[k]?) hread
  simpa [Memory.read, hk] using hcell

/-- **Images and listing.**  The opcodes of an image that was loaded stand in memory. -/
theorem wordAt_of_loaded (h : m.Loaded (Opcode.image ws) m') (hlength : ws.length ≤ 1792)
    {i : Nat} {w : Opcode} (hw : ws[i]? = some w) :
    m'.memory.wordAt (programStart + 2 * i) = w := by
  obtain ⟨hi, -⟩ := List.getElem?_eq_some_iff.1 hw
  obtain ⟨hhigh, hlow⟩ := Opcode.getElem?_image hw
  have hfirst : (((programStart : Int) + 2 * i) % 4096).toNat = programStart + 2 * i := by
    simp only [programStart]
    omega
  have hsecond : (((programStart : Int) + 2 * i + 1) % 4096).toNat
      = programStart + (2 * i + 1) := by
    simp only [programStart]
    omega
  rw [Memory.wordAt, hfirst, hsecond, cell_of_loaded h hhigh, cell_of_loaded h hlow,
    Opcode.append_bytes]

end Machine

/-! ## Lines -/

namespace Memory

/-- Where the opcodes of a listing stand. -/
def places (n : Nat) (start : Int) : List Int := (List.range n).map fun i : Nat => start + 2 * i

/-- The addresses that a listing reads, in order. -/
def visited (n : Nat) (start : Int) : List Int := (places n start).flatMap fun a => [a, a + 1]

/-- The first opcode comes before the others. -/
theorem places_succ (n : Nat) (start : Int) :
    places (n + 1) start = start :: places n (start + 2) := by
  have hshift (i : Nat) : start + 2 * ((i : Int) + 1) = start + 2 + 2 * i := by omega
  simp [places, List.range_succ_eq_map, Function.comp_def, hshift]

theorem visited_succ (n : Nat) (start : Int) :
    visited (n + 1) start = start :: (start + 1) :: visited n (start + 2) := by
  rw [visited, places_succ]
  rfl

theorem mem_visited_iff {n : Nat} {start a : Int} :
    a ∈ visited n start ↔ ∃ i : Nat, i < n ∧ (a = start + 2 * i ∨ a = start + 2 * i + 1) := by
  simp only [visited, places, List.mem_flatMap, List.mem_map, List.mem_range, List.mem_cons,
    List.not_mem_nil, or_false]
  constructor
  · rintro ⟨_, ⟨i, hi, rfl⟩, ha⟩
    exact ⟨i, hi, ha⟩
  · rintro ⟨i, hi, ha⟩
    exact ⟨_, ⟨i, hi, rfl⟩, ha⟩

variable {n : Nat} {start : Int}

/-- The lines of `n` opcodes whose cells all exist.  The induction is on their number. -/
theorem listingLines_of_reach (m : Memory) (h : ∀ a ∈ visited n start, Reach a) :
    m.listingLines n start
      = .ok ((places n start).map fun a => listingLine a (m.wordAt a)) := by
  induction n generalizing start with
  | zero => rfl
  | succ n ih =>
    simp only [visited_succ, List.forall_mem_cons] at h
    obtain ⟨hfirst, hsecond, hrest⟩ := h
    rw [listingLines, signedCell_of_reach m hfirst, signedCell_of_reach m hsecond, ih hrest,
      places_succ]
    rfl

/-- A listing with an address that leads nowhere reports the first such address. -/
theorem listingLines_of_not_reach (m : Memory) {before after : List Int} {a : Int}
    (hvisited : visited n start = before ++ a :: after) (hbefore : ∀ b ∈ before, Reach b)
    (ha : ¬ Reach a) : m.listingLines n start = .error (.noSuchCell a) := by
  induction n generalizing start before with
  | zero => simp [visited, places] at hvisited
  | succ n ih =>
    rw [visited_succ] at hvisited
    cases before with
    | nil =>
      obtain ⟨rfl, -⟩ := List.cons.inj hvisited
      rw [listingLines, signedCell_of_not_reach m ha]
      rfl
    | cons b before =>
      simp only [List.cons_append, List.cons.injEq] at hvisited
      obtain ⟨rfl, hvisited⟩ := hvisited
      simp only [List.forall_mem_cons] at hbefore
      obtain ⟨hfirst, hbefore⟩ := hbefore
      rw [listingLines, signedCell_of_reach m hfirst]
      cases before with
      | nil =>
        obtain ⟨rfl, -⟩ := List.cons.inj hvisited
        rw [signedCell_of_not_reach m ha]
        rfl
      | cons b before =>
        simp only [List.cons_append, List.cons.injEq] at hvisited
        obtain ⟨rfl, hvisited⟩ := hvisited
        simp only [List.forall_mem_cons] at hbefore
        obtain ⟨hsecond, hbefore⟩ := hbefore
        rw [signedCell_of_reach m hsecond, ih hvisited hbefore]
        rfl

/-- If not all addresses lead to cells, one of them is the first that does not. -/
theorem exists_first_not_reach {addresses : List Int} (h : ¬ ∀ a ∈ addresses, Reach a) :
    ∃ before a after, addresses = before ++ a :: after ∧ (∀ b ∈ before, Reach b) ∧ ¬ Reach a := by
  induction addresses with
  | nil => simp at h
  | cons a rest ih =>
    by_cases ha : Reach a
    · have hrest : ¬ ∀ b ∈ rest, Reach b := fun hall => h (List.forall_mem_cons.2 ⟨ha, hall⟩)
      obtain ⟨before, b, after, rfl, hbefore, hb⟩ := ih hrest
      exact ⟨a :: before, b, after, rfl, List.forall_mem_cons.2 ⟨ha, hbefore⟩, hb⟩
    · exact ⟨[], a, rest, rfl, List.forall_mem_nil _, ha⟩

end Memory

/-! ## The whole listing -/

/-- The table line that a word is executed by. -/
def Opcode.entry (w : Opcode) : Entry := (Entry.table[Operation.position w]?).getD Entry.unknown

theorem Opcode.entry_eq (w : Opcode) : w.entry = Entry.ofInt w.toNat := by
  have hw : BitVec.ofInt 16 w.toNat = w := by simp
  rw [entry, Entry.ofInt_eq, hw, Operation.ofOpcode?_eq, Entry.table, List.getElem?_map]

/-- The machine does what is registered under the name in that line. -/
theorem Machine.execute_entry (m : Machine) (w : Opcode) :
    m.execute w = m.executeNamed w.entry.label (Opcode.fields w) := by
  have hw : BitVec.ofInt 16 w.toNat = w := by simp
  have hexecute := m.execute_eq_executeNamed w.toNat
  rwa [hw, ← Opcode.entry_eq] at hexecute

/-- An address, an opcode and a mnemonic, as people read them. -/
def lineText (address : Int) (w : Opcode) (mnemonic : String) : List Char :=
  Text.Hex.signed 3 address ++ ": ".toList ++ Text.Hex.padded 4 w.toNat ++ "  ".toList
    ++ mnemonic.toList

/-- The address, the opcode and the mnemonic in a line. -/
def readLine? (text : List Char) : Option (Int × Opcode × String) := do
  let behind := text.dropWhile (· != ':')
  let address ← Text.Hex.readInt? (text.takeWhile (· != ':'))
  let word ← Text.Hex.readNat? ((behind.drop 2).take 4)
  return (address, BitVec.ofNat 16 word, String.ofList (behind.drop 8))

/-- No colon stands in an address. -/
theorem bne_colon_of_mem_signed {width : Nat} {address : Int} {c : Char}
    (hc : c ∈ Text.Hex.signed width address) : (c != ':') = true := by
  rcases Text.Hex.eq_or_isSome_of_mem_signed hc with rfl | hdigit
  · rfl
  · exact bne_iff_ne.2 fun hcolon => absurd (hcolon ▸ hdigit) (by decide)

/-- **A line** is read back: its opcode always has four digits. -/
theorem readLine?_lineText (address : Int) (w : Opcode) (mnemonic : String) :
    readLine? (lineText address w mnemonic) = some (address, w, mnemonic) := by
  let more : List Char := Text.Hex.padded 4 w.toNat ++ ("  ".toList ++ mnemonic.toList)
  have hline : lineText address w mnemonic = Text.Hex.signed 3 address ++ ':' :: ' ' :: more := by
    simp [lineText, more]
  have hlength : (Text.Hex.padded 4 w.toNat).length = 4 := Text.Hex.length_padded w.isLt
  have hword : more.take 4 = Text.Hex.padded 4 w.toNat := List.take_left' hlength
  have hmnemonic : more.drop 6 = mnemonic.toList := by
    rw [show 6 = 4 + 2 from rfl, ← List.drop_drop, List.drop_left' hlength]
    rfl
  have haddress :
      (lineText address w mnemonic).takeWhile (· != ':') = Text.Hex.signed 3 address := by
    rw [hline, List.takeWhile_append_of_pos fun c => bne_colon_of_mem_signed]
    exact List.append_nil _
  have hbehind : (lineText address w mnemonic).dropWhile (· != ':') = ':' :: ' ' :: more := by
    rw [hline, List.dropWhile_append_of_pos fun c => bne_colon_of_mem_signed]
    rfl
  rw [readLine?, haddress, hbehind, Text.Hex.readInt?_signed]
  show (Text.Hex.readNat? (more.take 4)).bind _ = _
  rw [hword, Text.Hex.readNat?_padded]
  show some (address, BitVec.ofNat 16 w.toNat, String.ofList (more.drop 6)) = _
  rw [hmnemonic, String.ofList_toList, BitVec.ofNat_toNat, BitVec.setWidth_eq]

/-- **A line** names the table line that its opcode is executed by. -/
theorem listingLine_eq (address : Int) (w : Opcode) :
    listingLine address w = lineText address w w.entry.mnemonic := by
  rw [Opcode.entry_eq]
  rfl

namespace Memory

/-- **A listing whose addresses all lead to cells.**  It shows the word at each place. -/
theorem listing_of_reach (m : Memory) {length start : Int} {n : Nat}
    (hn : n = (length / 2).toNat) (h : ∀ a ∈ visited n start, Reach a) :
    ∃ lines, m.listing length start = .ok lines ∧ lines.length = n ∧
      ∀ i : Nat, i < n → lines[i]? = some (lineText (start + 2 * i)
        (m.wordAt (start + 2 * i)) (m.wordAt (start + 2 * i)).entry.mnemonic) := by
  subst hn
  refine ⟨_, listingLines_of_reach m h, ?_, fun i hi => ?_⟩
  · simp [places]
  · rw [List.getElem?_map, places, List.getElem?_map, List.getElem?_range hi, ← listingLine_eq]
    rfl

end Memory

open Memory (visited Reach) in
/-- **Listings, fetches and images agree.**  Opcodes that are loaded as an image, high bytes
first, are what a fetch reads and what a listing of the image shows, each with its address
and the mnemonic of the table line that it is executed by.  A listing from any address and
of any length reads the two cells of one opcode after the other.  If all of their addresses
lead to cells, negative ones counted from the end, it shows the opcodes there, and these
are what a fetch would read; otherwise it is refused with the first address that leads
nowhere.  A line loses nothing of what it shows. -/
theorem listing_agrees :
    (∀ (m : Machine) (ws : List Opcode), ws.length ≤ 1792 →
      ∃ m' lines, m.load (Opcode.image ws) = .ok m' ∧
        m'.memory.listing (Opcode.image ws).length programStart = .ok lines ∧
        lines.length = ws.length ∧
        ∀ (i : Nat) (w : Opcode), ws[i]? = some w →
          { m' with pc := BitVec.ofInt 16 (programStart + 2 * i) }.fetch = .ok w ∧
            lines[i]? = some (lineText (programStart + 2 * i) w w.entry.mnemonic) ∧
            ∀ m₁ : Machine, m₁.execute w = m₁.executeNamed w.entry.label (Opcode.fields w)) ∧
      (∀ (m : Machine) (length start : Int),
        let n := (max 0 (length / 2)).toNat
        ((∀ a ∈ visited n start, Reach a) →
          ∃ lines, m.memory.listing length start = .ok lines ∧ lines.length = n ∧
            ∀ i : Nat, i < n →
              ∃ w : Opcode,
                w.toNat = 256 * (m.memory.cell ((start + 2 * i) % 4096).toNat).toNat
                  + (m.memory.cell ((start + 2 * i + 1) % 4096).toNat).toNat ∧
                lines[i]? = some (lineText (start + 2 * i) w w.entry.mnemonic) ∧
                (0 ≤ start + 2 * i → start + 2 * i ≤ 4094 →
                  { m with pc := BitVec.ofInt 16 (start + 2 * i) }.fetch = .ok w)) ∧
          ((¬ ∀ a ∈ visited n start, Reach a) →
            ∃ before a after, visited n start = before ++ a :: after ∧
              (∀ b ∈ before, Reach b) ∧ ¬ Reach a ∧
              m.memory.listing length start = .error (.noSuchCell a) ∧
              (Refusal.noSuchCell a).message
                = s!"index {a} is out of bounds for axis 0 with size 4096")) ∧
      ∀ (address : Int) (w : Opcode) (mnemonic : String),
        readLine? (lineText address w mnemonic) = some (address, w, mnemonic) := by
  refine ⟨fun m ws hlength => ?_, fun m length start => ?_, readLine?_lineText⟩
  · have hsize := Opcode.length_image ws
    have hfits : (Opcode.image ws).length ≤ 3584 := by omega
    obtain ⟨m', hm', hloaded⟩ := Machine.load_of_fits (m := m) hfits
    have hstart : (programStart : Int) = 512 := rfl
    have hreach : ∀ a ∈ visited ws.length programStart, Reach a := by
      intro a ha
      obtain ⟨i, hi, ha⟩ := Memory.mem_visited_iff.1 ha
      unfold Reach
      omega
    have hn : ws.length = (((Opcode.image ws).length : Int) / 2).toNat := by omega
    obtain ⟨lines, hlines, hcount, hshown⟩ := m'.memory.listing_of_reach hn hreach
    refine ⟨m', lines, hm', hlines, hcount, fun i w hw => ?_⟩
    obtain ⟨hi, -⟩ := List.getElem?_eq_some_iff.1 hw
    have hword := Machine.wordAt_of_loaded hloaded hlength hw
    have hline := hshown i hi
    have hfetch := m'.fetch_of_reach (a := programStart + 2 * i) (by omega) (by omega)
    rw [hword] at hline hfetch
    exact ⟨hfetch, hline, fun m₁ => m₁.execute_entry w⟩
  · intro n
    have hn : n = (length / 2).toNat := by omega
    refine ⟨fun hreach => ?_, fun hnot => ?_⟩
    · obtain ⟨lines, hlines, hcount, hshown⟩ := m.memory.listing_of_reach hn hreach
      refine ⟨lines, hlines, hcount, fun i hi => ?_⟩
      exact ⟨_, m.memory.toNat_wordAt _, hshown i hi, fun h₀ h => m.fetch_of_reach h₀ h⟩
    · obtain ⟨before, a, after, hvisited, hbefore, ha⟩ := Memory.exists_first_not_reach hnot
      have hlisting := m.memory.listingLines_of_not_reach hvisited hbefore ha
      rw [hn] at hlisting
      exact ⟨before, a, after, hvisited, hbefore, ha, hlisting, rfl⟩

open Memory (visited Reach) in
/-- A listing of two opcodes that were loaded; one of the opcode made of the last cell and
the first; and one that runs past the end in its second opcode. -/
theorem listing_agrees_edges :
    let m := Machine.powerOn ⟨0, 0⟩ .canonical
    (∃ m' lines, m.load (Opcode.image [0x6A02, 0x1200]) = .ok m' ∧
        m'.memory.listing 4 0x200 = .ok lines ∧
        lines[0]? = some "200: 6A02  LD Vx, byte".toList ∧
        lines[1]? = some "202: 1200  JP addr".toList) ∧
      (∃ lines, m.memory.listing 3 (-1) = .ok lines ∧ lines.length = 1 ∧
        lines[0]? = some "-01: 0000  SYS addr".toList) ∧
      ∃ a, 4096 ≤ a ∧ m.memory.listing 4 4094 = .error (.noSuchCell a) := by
  intro m
  obtain ⟨himages, hlistings, -⟩ := listing_agrees
  refine ⟨?_, ?_, ?_⟩
  · obtain ⟨m', lines, hm', hlines, -, hshown⟩ := himages m [0x6A02, 0x1200] (by decide)
    obtain ⟨-, hfirst, -⟩ := hshown 0 0x6A02 rfl
    obtain ⟨-, hsecond, -⟩ := hshown 1 0x1200 rfl
    have hload : lineText 0x200 0x6A02 "LD Vx, byte" = "200: 6A02  LD Vx, byte".toList := by
      decide +kernel
    have hjump : lineText 0x202 0x1200 "JP addr" = "202: 1200  JP addr".toList := by
      decide +kernel
    exact ⟨m', lines, hm', hlines, hfirst.trans (congrArg some hload),
      hsecond.trans (congrArg some hjump)⟩
  · obtain ⟨hall, -⟩ := hlistings m 3 (-1)
    obtain ⟨lines, hlines, hcount, hshown⟩ := hall (by decide)
    obtain ⟨w, hw, hline, -⟩ := hshown 0 (by decide)
    obtain rfl : w = 0 := BitVec.eq_of_toNat_eq (hw.trans (by decide +kernel))
    have hedge : lineText (-1) 0 "SYS addr" = "-01: 0000  SYS addr".toList := by
      decide +kernel
    exact ⟨lines, hlines, hcount, hline.trans (congrArg some hedge)⟩
  · obtain ⟨-, hnot⟩ := hlistings m 4 4094
    obtain ⟨before, a, after, hvisited, -, ha, hlisting, -⟩ := hnot (by decide)
    have hmem : a ∈ visited 2 4094 := by
      rw [show visited 2 4094 = before ++ a :: after from hvisited]
      exact List.mem_append_right _ List.mem_cons_self
    obtain ⟨i, hi, hplace⟩ := Memory.mem_visited_iff.1 hmem
    unfold Reach at ha
    exact ⟨a, by omega, hlisting⟩

end ChipEight
