/-!
# Fixed-point text

A floating-point number with a fixed number of decimal places.  The number is
decoded from its bits and rounded exactly: to the nearest multiple of the last
place, and a tie to the even one.

* `FixedPoint.roundDiv` — a quotient of naturals, rounded;
* `FixedPoint.Format.text` — the number in at least the width of the format.
-/

namespace ChipEight.Text.FixedPoint

/-! ## Rounding -/

/-- The natural number nearest to `n / d`, the even one of two. -/
def roundDiv (n d : Nat) : Nat :=
  let q := n / d
  let r := n % d
  if 2 * r < d then q
  else if d < 2 * r then q + 1
  else q + q % 2

/-- The number nearest to `m * 2 ^ e`, the even one of two. -/
def roundScaled (m : Nat) (e : Int) : Nat :=
  if 0 ≤ e then m * Nat.pow 2 e.toNat else roundDiv m (Nat.pow 2 (-e).toNat)

/-! ## Decoding -/

/-- A floating-point number taken apart. -/
inductive Decoded where
  /-- The number `m * 2 ^ e`. -/
  | finite (m : Nat) (e : Int)
  | infinite
  | notANumber
  deriving DecidableEq

/-- The sign bit. -/
def isNegative (bits : UInt64) : Bool := bits.toNat / Nat.pow 2 63 == 1

/-- The magnitude that the bits stand for. -/
def decode (bits : UInt64) : Decoded :=
  let exponent : Nat := bits.toNat / Nat.pow 2 52 % Nat.pow 2 11
  let fraction : Nat := bits.toNat % Nat.pow 2 52
  if exponent = 2047 then if fraction = 0 then .infinite else .notANumber
  else if exponent = 0 then .finite fraction (-1074)
  else .finite (Nat.pow 2 52 + fraction) ((exponent : Int) - 1075)

/-! ## Text -/

/-- How many characters to fill up to, with spaces on the left, and how many
decimal places to show. -/
structure Format where
  width : Nat
  places : Nat

namespace Format

/-- A number of units of the last place. -/
def unsigned (f : Format) (units : Nat) : List Char :=
  (toString (units / Nat.pow 10 f.places)).toList ++
    '.' :: (toString (units % Nat.pow 10 f.places)).toList.leftpad f.places '0'

/-- The text of a number.  Its sign is kept even where it rounds to zero. -/
def text (f : Format) (v : Float) : String :=
  let sign := if isNegative v.toBits then ['-'] else []
  let chars := match decode v.toBits with
    | .finite m e => sign ++ f.unsigned (roundScaled (m * Nat.pow 10 f.places) e)
    | .infinite => sign ++ "inf".toList
    | .notANumber => "nan".toList
  String.ofList (chars.leftpad f.width ' ')

end Format

end ChipEight.Text.FixedPoint
