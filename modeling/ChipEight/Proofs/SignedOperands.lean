import ChipEight.Arithmetic
import ChipEight.Word

/-!
# Arithmetic on signed operands

On the machine the operations `8xyk` only ever see bytes.  As functions they take any two
signed integers of 32 bits, where sums, differences and doubles may wrap.

What is proved here:

* **values** — `toInt_lowByte`, `toInt_sum`, `toInt_difference`, `toInt_double`: cut down to a byte
  they are exact, because 256 divides `2 ^ 32`;
* **the shift to the right** — `toInt_half` and `two_mul_half_add_bit`: nothing is lost, also of a
  negative integer;
* **flags** — `toInt_indicator`: a flag is the number of the condition that it tells;
* **the carry** — `carry_iff` and `carry_iff_of_wraps`: it is exact down to the operand below
  which `255 - a` wraps, and off by `2 ^ 32` from there on;
* **the whole** — `exact_on_signed`.
-/

namespace ChipEight

namespace Arithmetic

/-! ## Values -/

/-- The lowest bits of an integer are its remainder by a power of two. -/
theorem toInt_and_low {k : Nat} (hk : k < 31) (v : Int32) :
    (v &&& Int32.ofNat (Nat.pow 2 k - 1)).toInt = v.toInt % (Nat.pow 2 k : Nat) := by
  have hpos : 0 < Nat.pow 2 k := Nat.pow_pos (by decide)
  have hle : Nat.pow 2 k ≤ Nat.pow 2 30 := Nat.pow_le_pow_right (by decide) (by omega)
  have hmax : Nat.pow 2 30 = 0x40000000 := by decide
  have hdvd : Nat.pow 2 k ∣ 0x100000000 := Nat.pow_dvd_pow 2 (n := 32) (by omega)
  have hlt : v.toBitVec.toNat % Nat.pow 2 k < Nat.pow 2 k := Nat.mod_lt _ hpos
  have hbits : (v &&& Int32.ofNat (Nat.pow 2 k - 1)).toBitVec.toNat
      = v.toBitVec.toNat % Nat.pow 2 k := by
    show v.toBitVec.toNat &&& ((Nat.pow 2 k - 1) % 0x100000000) = _
    rw [Nat.mod_eq_of_lt (by omega)]
    exact Nat.and_two_pow_sub_one_eq_mod _ k
  -- what is left is too small to have a sign
  have hsigned : (v &&& Int32.ofNat (Nat.pow 2 k - 1)).toInt
      = ((v &&& Int32.ofNat (Nat.pow 2 k - 1)).toBitVec.toNat : Int) :=
    BitVec.toInt_eq_toNat_of_lt (by rw [hbits]; omega)
  rw [hsigned, hbits, toInt_emod (Int.natCast_dvd_natCast.2 hdvd)]
  rfl

/-- Cutting off an integer at a byte is exact, also for negative ones. -/
theorem toInt_lowByte (v : Int32) : (lowByte v).toInt = v.toInt % 256 :=
  toInt_and_low (k := 8) (by decide) v

theorem toInt_sum (a b : Int32) : (lowByte (a + b)).toInt = (a.toInt + b.toInt) % 256 := by
  rw [toInt_lowByte, toInt_add_emod (by decide)]

theorem toInt_difference (a b : Int32) :
    (lowByte (a - b)).toInt = (a.toInt - b.toInt) % 256 := by
  rw [toInt_lowByte, toInt_sub_emod (by decide)]

/-- Doubling may wrap, and the low byte does not notice. -/
theorem toInt_double (a : Int32) : (double a).toInt = 2 * a.toInt % 256 := by
  have hshift : a <<< 1 = a + a := by
    apply Int32.toBitVec_inj.1
    apply BitVec.eq_of_toNat_eq
    show (a.toBitVec <<< 1).toNat = (a.toBitVec + a.toBitVec).toNat
    rw [BitVec.toNat_shiftLeft, BitVec.toNat_add, Nat.shiftLeft_eq, Nat.pow_one, Nat.mul_two]
  unfold double
  rw [hshift, toInt_sum, Int.two_mul]

/-! ## The shift to the right -/

/-- The bit that a shift to the right drops is the remainder by two. -/
theorem toInt_and_one (v : Int32) : (v &&& 1).toInt = v.toInt % 2 :=
  toInt_and_low (k := 1) (by decide) v

/-- Shifting to the right rounds down. -/
theorem toInt_half (a : Int32) : (a >>> 1).toInt = a.toInt / 2 := by
  show (a.toBitVec.sshiftRight 1).toInt = a.toBitVec.toInt / 2
  rw [BitVec.toInt_sshiftRight, Int.shiftRight_eq_div_pow]
  rfl

/-- An integer is made up of its half, rounded down, and the bit that falls out. -/
theorem two_mul_half_add_bit (a : Int32) : 2 * (a >>> 1).toInt + (a &&& 1).toInt = a.toInt := by
  rw [toInt_half, toInt_and_one]
  exact Int.mul_ediv_add_emod a.toInt 2

/-! ## Flags -/

theorem toInt_indicator (p : Prop) [Decidable p] :
    (indicator p).toInt = if p then 1 else 0 := by
  unfold indicator
  split <;> rfl

/-- A comparison of wrapping integers is one of exact ones. -/
theorem gt_iff_toInt_lt {a b : Int32} : a > b ↔ b.toInt < a.toInt := Int32.lt_iff_toInt_lt

/-! ## The carry -/

/-- The carry is read off a difference, which is exact as long as that does not wrap. -/
theorem carry_iff {a b : Int32} (ha : -2147483392 ≤ a.toInt) :
    b > 255 - a ↔ 255 < a.toInt + b.toInt := by
  have hsub : (255 - a).toInt = 255 - a.toInt := by
    have hmax : a.toInt < 2147483648 := Int32.toInt_lt a
    rw [Int32.toInt_sub]
    exact Int.bmod_eq_of_le (by simp; omega) (by simp; omega)
  rw [gt_iff_toInt_lt, hsub]
  omega

/-- Where `255 - a` wraps, the carry is read off a difference that is `2 ^ 32` too small. -/
theorem carry_iff_of_wraps {a b : Int32} (ha : a.toInt < -2147483392) :
    b > 255 - a ↔ 255 < a.toInt + b.toInt + 4294967296 := by
  have hmin : -2147483648 ≤ a.toInt := Int32.le_toInt a
  have hsub : (255 - a).toInt = 255 - a.toInt - 4294967296 := by
    rw [Int32.toInt_sub, ← Int.sub_bmod_right]
    exact Int.bmod_eq_of_le (by simp; omega) (by simp; omega)
  rw [gt_iff_toInt_lt, hsub]
  omega

/-! ## The whole -/

/-- **Arithmetic on signed operands.**  Sums, differences and doubles, cut down to a byte, are
those of the exact integers modulo 256, whether or not they wrap on the way.  The canonical shift
to the right loses nothing.  The flags of the two subtractions tell whether `a` is greater and
whether it is not, so that one of them is set.  The carry tells whether the exact sum exceeds
255, as long as `255 - a` does not wrap; where it does, no sum exceeds 255, and the carry tells
whether it exceeds `255 - 2 ^ 32`. -/
theorem exact_on_signed (mode : Mode) (a b : Int32) :
    (Arithmetic.add.apply mode a b).value.toInt = (a.toInt + b.toInt) % 256 ∧
    (Arithmetic.sub.apply mode a b).value.toInt = (a.toInt - b.toInt) % 256 ∧
    (Arithmetic.subn.apply mode a b).value.toInt = (a.toInt - b.toInt) % 256 ∧
    (Arithmetic.shl.apply mode a b).value.toInt = 2 * a.toInt % 256 ∧
    (Arithmetic.shr.apply .transcribed a b).value.toInt = 2 * a.toInt % 256 ∧
    (∃ bit : Int32, (Arithmetic.shr.apply .canonical a b).flag = some bit ∧
      (bit.toInt = 0 ∨ bit.toInt = 1) ∧
      2 * (Arithmetic.shr.apply .canonical a b).value.toInt + bit.toInt = a.toInt) ∧
    (∃ greater atMost : Int32, (Arithmetic.sub.apply mode a b).flag = some greater ∧
      (Arithmetic.subn.apply mode a b).flag = some atMost ∧
      greater.toInt = (if a.toInt > b.toInt then 1 else 0) ∧
      atMost.toInt = (if ¬ a.toInt > b.toInt then 1 else 0) ∧
      greater.toInt + atMost.toInt = 1) ∧
    ∃ carry : Int32, (Arithmetic.add.apply mode a b).flag = some carry ∧
      (-2147483392 ≤ a.toInt → carry.toInt = if a.toInt + b.toInt > 255 then 1 else 0) ∧
      (a.toInt < -2147483392 → ¬ a.toInt + b.toInt > 255 ∧
        carry.toInt = if a.toInt + b.toInt > 255 - 4294967296 then 1 else 0) := by
  have hbit : (a &&& 1).toInt = 0 ∨ (a &&& 1).toInt = 1 := by
    rw [toInt_and_one]
    omega
  have hgreater : (indicator (a > b)).toInt = if a.toInt > b.toInt then 1 else 0 := by
    simp only [toInt_indicator, gt_iff_toInt_lt, gt_iff_lt]
  have hatMost : (indicator (¬ a > b)).toInt = if ¬ a.toInt > b.toInt then 1 else 0 := by
    simp only [toInt_indicator, gt_iff_toInt_lt, gt_iff_lt]
  have hcarry (h : -2147483392 ≤ a.toInt) :
      (indicator (b > 255 - a)).toInt = if a.toInt + b.toInt > 255 then 1 else 0 := by
    simp only [toInt_indicator, carry_iff h, gt_iff_lt]
  have hwraps (h : a.toInt < -2147483392) : (indicator (b > 255 - a)).toInt
      = if a.toInt + b.toInt > 255 - 4294967296 then 1 else 0 := by
    have hiff : 255 < a.toInt + b.toInt + 4294967296 ↔ a.toInt + b.toInt > 255 - 4294967296 := by
      omega
    simp only [toInt_indicator, carry_iff_of_wraps h, hiff]
  have hmax : b.toInt < 2147483648 := Int32.toInt_lt b
  refine ⟨toInt_sum a b, toInt_difference a b, toInt_difference a b, toInt_double a,
    toInt_double a, ⟨_, rfl, hbit, two_mul_half_add_bit a⟩,
    ⟨_, _, rfl, rfl, hgreater, hatMost, ?_⟩, ⟨_, rfl, hcarry, fun h => ⟨by omega, hwraps h⟩⟩⟩
  rw [hgreater, hatMost]
  split <;> simp_all

/-- At the upper end the sum wraps and the carry is right; with the least operand for which
`255 - a` does not wrap the carry is right; one below, it is not. -/
theorem exact_on_signed_edges :
    let top : Int32 := 2147483647
    let least : Int32 := -2147483392
    (top.toInt + top.toInt) % 256 = 254 ∧
      (Arithmetic.add.apply .canonical top top).value.toInt = 254 ∧
      -2147483392 ≤ top.toInt ∧
      (Arithmetic.add.apply .canonical top top).flag.map Int32.toInt = some 1 ∧
      -2147483392 ≤ least.toInt ∧
      (Arithmetic.add.apply .canonical least top).flag.map Int32.toInt = some 0 ∧
      (least - 1).toInt < -2147483392 ∧
      (Arithmetic.add.apply .canonical (least - 1) top).flag.map Int32.toInt = some 1 := by
  intro top least
  obtain ⟨hsum, -, -, -, -, -, -, carry, hflag, hexact, -⟩ := exact_on_signed .canonical top top
  obtain ⟨-, -, -, -, -, -, -, carry', hflag', hexact', -⟩ := exact_on_signed .canonical least top
  obtain ⟨-, -, -, -, -, -, -, carry'', hflag'', -, hwraps⟩ :=
    exact_on_signed .canonical (least - 1) top
  refine ⟨by decide, hsum.trans (by decide), by decide, ?_, by decide, ?_, by decide, ?_⟩
  · rw [hflag, Option.map_some, hexact (by decide)]
    decide
  · rw [hflag', Option.map_some, hexact' (by decide)]
    decide
  · rw [hflag'', Option.map_some, (hwraps (by decide)).2]
    decide

end Arithmetic

end ChipEight
