import ChipEight.Host.Session
import Mathlib.Data.Int.Bitwise
import Mathlib.Tactic.IntervalCases

/-!
# One table, two readings

The instruction table is read twice: by the disassembler on integers of any size
and sign, and by the machine on the sixteen bits that it fetched.

What is proved here:

* **bits** — `selectBits_eq_land`: the bits that a mask selects are the
  two's-complement conjunction, and `selectBits_eq_toNat`: the low sixteen bits
  decide them;
* **first match** — `ofInt_eq` and `selects_position`: both readings stop at the
  same line, the first that accepts;
* **overlaps** — `overlap_of_accepts`: entries that accept a common word agree on
  the bits that both masks select.  Only `SYS` overlaps with others, so a word
  belongs to the entry whose pattern it carries (`ofOpcode?_of_accepts`);
* **gaps** — `forall_not_accepts_iff`: the words that no entry accepts, read off
  their first and last digits;
* **handlers** — `withOperands_eq`: an instruction is read from the record of fields
  that is handed to its handler, and `execute_eq_executeNamed`: the machine finds that
  handler by the name in the table;
* **the whole table** — `decoders_agree`.
-/

namespace ChipEight

/-! ## Selected bits -/

/-- The selected bits are those of the conjunction in two's complement. -/
theorem selectBits_eq_land (k : Int) (mask : Nat) :
    (selectBits k mask : Int) = Int.land k mask := by
  cases k with
  | ofNat m => rfl
  | negSucc m =>
    refine congrArg Int.ofNat (Nat.eq_of_testBit_eq fun i => ?_)
    show (mask ^^^ (m &&& mask)).testBit i = (Nat.ldiff mask m).testBit i
    rw [Nat.testBit_ldiff, Nat.testBit_xor, Nat.testBit_and]
    cases mask.testBit i <;> cases m.testBit i <;> rfl

/-- A mask of sixteen bits selects from the low sixteen bits only. -/
theorem selectBits_eq_toNat (k : Int) (mask : Word) :
    selectBits k mask.toNat = (BitVec.ofInt 16 k &&& mask).toNat := by
  refine Nat.eq_of_testBit_eq fun i => ?_
  have hmask : mask.toNat.testBit i = mask.getLsbD i := BitVec.testBit_toNat mask
  rw [BitVec.testBit_toNat, BitVec.getLsbD_and]
  by_cases hi : i < 16
  · cases k with
    | ofNat m =>
      have hk : (BitVec.ofInt 16 (Int.ofNat m)).getLsbD i = m.testBit i := by
        rw [Int.ofNat_eq_natCast, BitVec.ofInt_natCast, BitVec.getLsbD_ofNat]
        simp [hi]
      rw [selectBits, Nat.testBit_and, hmask, hk]
    | negSucc m =>
      have hk : (BitVec.ofInt 16 (Int.negSucc m)).getLsbD i = !m.testBit i := by
        rw [BitVec.ofInt_negSucc_eq_not_ofNat, BitVec.getLsbD_not, BitVec.getLsbD_ofNat]
        simp [hi]
      rw [selectBits, Nat.testBit_xor, Nat.testBit_and, hmask, hk]
      cases mask.getLsbD i <;> cases m.testBit i <;> rfl
  · -- past the sixteenth bit the mask selects nothing
    have hhigh : mask.getLsbD i = false := BitVec.getLsbD_of_ge mask i (Nat.le_of_not_lt hi)
    cases k with
    | ofNat m => simp [selectBits, hmask, hhigh]
    | negSucc m => simp [selectBits, hmask, hhigh]

/-- An opcode is the low sixteen bits of its number. -/
theorem Opcode.ofInt_toNat (w : Opcode) : BitVec.ofInt 16 (w.toNat : Int) = w := by
  rw [BitVec.ofInt_natCast, BitVec.ofNat_toNat, BitVec.setWidth_eq]

namespace Entry

theorem accepts_iff {e : Entry} {w : Opcode} :
    e.accepts w = true ↔ (w &&& e.mask).toNat = e.pattern.toNat := by
  rw [accepts, beq_iff_eq, BitVec.toNat_inj]

/-- Both readings ask the same of an entry. -/
theorem acceptsInt_eq (e : Entry) (k : Int) : e.acceptsInt k = e.accepts (BitVec.ofInt 16 k) := by
  rw [Bool.eq_iff_iff, accepts_iff, acceptsInt, beq_iff_eq, selectBits_eq_toNat]

/-! ## First match -/

/-- Line `i` of the table asks for a pattern that the bits of `k` have. -/
def SelectedAt (k : Int) (i : Nat) : Prop :=
  ∃ e, table[i]? = some e ∧ Int.land k e.mask.toNat = e.pattern.toNat

theorem selectedAt_iff {k : Int} {i : Nat} :
    SelectedAt k i ↔
      ∃ op, Operation.all[i]? = some op ∧ op.entry.accepts (BitVec.ofInt 16 k) = true := by
  have hland (e : Entry) : Int.land k e.mask.toNat = e.pattern.toNat ↔
      e.accepts (BitVec.ofInt 16 k) = true := by
    rw [← selectBits_eq_land, Int.natCast_inj, selectBits_eq_toNat, accepts_iff]
  simp only [SelectedAt, table, List.getElem?_map, Option.map_eq_some_iff, hland]
  constructor
  · rintro ⟨e, ⟨op, hop, rfl⟩, he⟩
    exact ⟨op, hop, he⟩
  · rintro ⟨op, hop, he⟩
    exact ⟨op.entry, ⟨op, hop, rfl⟩, he⟩

end Entry

namespace Operation

/-- The operation of a word stands at its position. -/
theorem ofOpcode?_eq (w : Opcode) : ofOpcode? w = all[position w]? :=
  List.find?_eq_getElem?_findIdx

theorem accepts_of_ofOpcode? {w : Opcode} {op : Operation} (h : ofOpcode? w = some op) :
    op.entry.accepts w = true :=
  List.find?_some (p := fun op : Operation => op.entry.accepts w) h

theorem position_le (w : Opcode) : position w ≤ 35 := List.findIdx_le_length

theorem position_eq_iff {w : Opcode} :
    position w = 35 ↔ ∀ op ∈ all, op.entry.accepts w = false := List.findIdx_eq_length

theorem ofOpcode?_eq_none_iff {w : Opcode} : ofOpcode? w = none ↔ position w = 35 := by
  rw [position_eq_iff, ofOpcode?, List.find?_eq_none]
  simp

end Operation

namespace Entry

open Operation (position)

/-- **First match.**  The position of the low sixteen bits is a line that selects
the integer, and none of the lines before it does. -/
theorem selects_position (k : Int) :
    let p := position (BitVec.ofInt 16 k)
    (p < 35 → SelectedAt k p) ∧ ∀ i, SelectedAt k i → p ≤ i := by
  intro p
  refine ⟨fun hp => ?_, fun i hi => ?_⟩
  · have haccepts : Operation.all[p].entry.accepts (BitVec.ofInt 16 k) = true :=
      List.findIdx_getElem (p := fun op : Operation => op.entry.accepts (BitVec.ofInt 16 k))
    exact selectedAt_iff.2 ⟨_, List.getElem?_eq_getElem hp, haccepts⟩
  · obtain ⟨op, hop, haccepts⟩ := selectedAt_iff.1 hi
    obtain ⟨hlt, rfl⟩ := List.getElem?_eq_some_iff.1 hop
    refine Nat.le_of_not_lt fun hbefore => ?_
    rw [List.not_of_lt_findIdx hbefore] at haccepts
    cases haccepts

/-- The disassembler shows the entry of the operation that the machine finds. -/
theorem ofInt_eq (k : Int) :
    ofInt k = ((Operation.ofOpcode? (BitVec.ofInt 16 k)).map Operation.entry).getD unknown := by
  simp only [ofInt, table, List.find?_map, Operation.ofOpcode?, Function.comp_def, acceptsInt_eq]

/-- No operation is listed as unknown. -/
theorem entry_ne_unknown (op : Operation) : op.entry ≠ unknown := by
  have h : ∀ op ∈ Operation.all, op.entry ≠ unknown := by decide
  exact h op (Operation.mem_all op)

theorem ofInt_eq_unknown_iff {k : Int} :
    ofInt k = unknown ↔ position (BitVec.ofInt 16 k) = 35 := by
  rw [← Operation.ofOpcode?_eq_none_iff, ofInt_eq]
  cases h : Operation.ofOpcode? (BitVec.ofInt 16 k) with
  | none => simp
  | some op => simp [entry_ne_unknown op]

/-! ## Overlapping entries -/

/-- Entries that accept a common word agree on the bits that both masks select. -/
theorem overlap_of_accepts {e e' : Entry} {w : Opcode} (h : e.accepts w = true)
    (h' : e'.accepts w = true) : e.pattern &&& e'.mask = e'.pattern &&& e.mask := by
  rw [accepts, beq_iff_eq] at h h'
  rw [← h, ← h', BitVec.and_assoc, BitVec.and_assoc, BitVec.and_comm e.mask]

end Entry

namespace Operation

/-- In the table only `SYS` overlaps with other entries, and both of them stand
before it. -/
theorem eq_of_overlap {a b : Operation}
    (h : a.entry.pattern &&& b.entry.mask = b.entry.pattern &&& a.entry.mask) :
    a = b ∨ (a = .sys ∧ (b = .clear ∨ b = .ret)) ∨ (b = .sys ∧ (a = .clear ∨ a = .ret)) := by
  have hall : ∀ a ∈ all, ∀ b ∈ all,
      a.entry.pattern &&& b.entry.mask = b.entry.pattern &&& a.entry.mask →
        a = b ∨ (a = .sys ∧ (b = .clear ∨ b = .ret)) ∨ (b = .sys ∧ (a = .clear ∨ a = .ret)) := by
    decide +kernel
  exact hall a (mem_all a) b (mem_all b) h

/-- The bits outside the mask of an entry do not matter to it. -/
theorem accepts_filled (op : Operation) (rest : Word) :
    op.entry.accepts (op.entry.pattern ||| (rest &&& ~~~op.entry.mask)) = true := by
  have hall : ∀ op ∈ all, op.entry.pattern &&& op.entry.mask = op.entry.pattern := by
    decide +kernel
  have houtside : rest &&& ~~~op.entry.mask &&& op.entry.mask = 0 := by
    rw [BitVec.and_assoc, BitVec.and_comm (~~~op.entry.mask), BitVec.and_not_self]
    exact BitVec.and_zero
  rw [Entry.accepts, beq_iff_eq, BitVec.and_or_distrib_right, houtside, hall op (mem_all op)]
  exact BitVec.or_zero

/-- `CLS` and `RET` are single words. -/
theorem eq_of_accepts_clear {w : Opcode} (h : clear.entry.accepts w = true) : w = 0x00E0 := by
  rw [Entry.accepts, beq_iff_eq] at h
  exact (BitVec.and_allOnes (x := w)).symm.trans h

theorem eq_of_accepts_ret {w : Opcode} (h : ret.entry.accepts w = true) : w = 0x00EE := by
  rw [Entry.accepts, beq_iff_eq] at h
  exact (BitVec.and_allOnes (x := w)).symm.trans h

/-- **A word belongs to the entry whose pattern it carries**, except that two
words of `SYS` are operations of their own. -/
theorem ofOpcode?_of_accepts {op : Operation} {w : Opcode} (h : op.entry.accepts w = true) :
    ofOpcode? w = some op ∨
      (op = .sys ∧ w = 0x00E0 ∧ ofOpcode? w = some .clear) ∨
      (op = .sys ∧ w = 0x00EE ∧ ofOpcode? w = some .ret) := by
  have hsome : (ofOpcode? w).isSome = true := List.find?_isSome.2 ⟨op, mem_all op, h⟩
  obtain ⟨found, hfound⟩ := Option.isSome_iff_exists.1 hsome
  have haccepts := accepts_of_ofOpcode? hfound
  rcases eq_of_overlap (Entry.overlap_of_accepts h haccepts) with
    rfl | ⟨rfl, rfl | rfl⟩ | ⟨-, rfl | rfl⟩
  · exact .inl hfound
  · exact .inr (.inl ⟨rfl, eq_of_accepts_clear haccepts, hfound⟩)
  · exact .inr (.inr ⟨rfl, eq_of_accepts_ret haccepts, hfound⟩)
  · exact .inl (by rw [eq_of_accepts_clear h]; decide)
  · exact .inl (by rw [eq_of_accepts_ret h]; decide)

/-- Every word that an entry other than that of `SYS` accepts is decoded to it. -/
theorem ofOpcode?_of_accepts_of_ne {op : Operation} {w : Opcode} (h : op.entry.accepts w = true)
    (hne : op ≠ .sys) : ofOpcode? w = some op := by
  rcases ofOpcode?_of_accepts h with hop | ⟨rfl, -⟩ | ⟨rfl, -⟩
  · exact hop
  · exact absurd rfl hne
  · exact absurd rfl hne

end Operation

/-! ## Words that no entry accepts -/

namespace Opcode

/-- The first nibble. -/
def top (w : Opcode) : Nat := w.toNat / 0x1000

theorem top_lt (w : Opcode) : top w < 16 := by
  have := w.isLt
  unfold top
  omega

theorem top_ofDigits {t x y n : Nat} (ht : t < 16) (hx : x < 16) (hy : y < 16) (hn : n < 16) :
    top (ofDigits t x y n) = t := by
  unfold top
  rw [toNat_ofDigits ht hx hy hn]
  omega

/-- A mask in two parts selects the sum of what the parts select. -/
theorem toNat_and_or {w a b : Word} (h : a &&& b = 0) :
    (w &&& (a ||| b)).toNat = (w &&& a).toNat + (w &&& b).toNat := by
  have hdisjoint : (w &&& a) &&& (w &&& b) = 0 := by
    calc (w &&& a) &&& (w &&& b) = (w &&& w) &&& (a &&& b) := by ac_rfl
      _ = 0 := by rw [h]; exact BitVec.and_zero
  rw [← BitVec.toNat_add_of_and_eq_zero hdisjoint, BitVec.add_eq_or_of_and_eq_zero _ _ hdisjoint,
    BitVec.and_or_distrib_left]

/-! The four masks of the table. -/

theorem toNat_and_all (w : Opcode) : (w &&& 0xFFFF).toNat = 0x1000 * top w + (nnn w).toNat :=
   (congrArg BitVec.toNat BitVec.and_allOnes).trans (toNat_eq w)

theorem toNat_and_top (w : Opcode) : (w &&& 0xF000).toNat = 0x1000 * top w := by
  have hlow : (w &&& 0x0FFF).toNat = w.toNat % 0x1000 := Nat.and_two_pow_sub_one_eq_mod w.toNat 12
  have hsum : (w &&& 0xFFFF).toNat = (w &&& 0xF000).toNat + (w &&& 0x0FFF).toNat :=
    toNat_and_or (a := 0xF000) (b := 0x0FFF) (by decide)
  rw [toNat_and_all, hlow, toNat_nnn] at hsum
  omega

theorem toNat_and_n (w : Opcode) : (w &&& 0xF00F).toNat = 0x1000 * top w + (n w).val := by
  have hlow : (w &&& 0x000F).toNat = w.toNat % 0x10 := Nat.and_two_pow_sub_one_eq_mod w.toNat 4
  rw [val_n, ← hlow, ← toNat_and_top]
  exact toNat_and_or (a := 0xF000) (b := 0x000F) (by decide)

theorem toNat_and_nn (w : Opcode) : (w &&& 0xF0FF).toNat = 0x1000 * top w + (nn w).toNat := by
  have hlow : (w &&& 0x00FF).toNat = w.toNat % 0x100 := Nat.and_two_pow_sub_one_eq_mod w.toNat 8
  rw [toNat_nn, ← hlow, ← toNat_and_top]
  exact toNat_and_or (a := 0xF000) (b := 0x00FF) (by decide)

end Opcode

/-! ## Opcodes that end alike

The opcodes `txyn` whose second digit is the only operand of the operation that the other three
tell. -/

section

variable (op : Operation) {t y n : Nat} (hmask : op.entry.mask = 0xF0FF)
  (hdigits : t < 16 ∧ y < 16 ∧ n < 16)
  (hpattern : op.entry.pattern.toNat = 0x1000 * t + 16 * y + n)
include hmask hdigits hpattern

theorem Operation.accepts_endingWith_iff {w : Opcode} :
    op.entry.accepts w = true ↔ w = Opcode.ofDigits t (Opcode.x w) y n := by
  obtain ⟨ht, hy, hn⟩ := hdigits
  have hword := Opcode.toNat_ofDigits ht (Opcode.x w).isLt hy hn
  rw [Entry.accepts_iff, hmask, Opcode.toNat_and_nn, hpattern, ← BitVec.toNat_inj, hword,
    Opcode.top, Opcode.nn_eq, Opcode.toNat_eq w, Opcode.nnn_eq]
  omega

namespace Instruction

theorem decode?_endingWith {make : Register → Instruction}
    (hmake : ∀ w, op.withOperands w = make (Opcode.x w)) (x : Register) :
    decode? (Opcode.ofDigits t x y n) = some (make x) := by
  have hx : Opcode.x (Opcode.ofDigits t x y n) = x :=
    Fin.ext (Opcode.x_ofDigits hdigits.1 x.isLt hdigits.2.1 hdigits.2.2)
  have hop : Operation.ofOpcode? (Opcode.ofDigits t x y n) = some op := by
    apply Operation.ofOpcode?_of_accepts_of_ne
    · rw [Operation.accepts_endingWith_iff op hmask hdigits hpattern, hx]
    · rintro rfl
      cases hmask
  rw [decode?, hop, Option.map_some, hmake, hx]

/-- No other opcodes have the operation. -/
theorem eq_ofDigits_of_decode? {w : Opcode} {i : Instruction} (h : decode? w = some i)
    (hi : i.operation = op) : w = Opcode.ofDigits t (Opcode.x w) y n := by
  have hop : Operation.ofOpcode? w = some op := by
    rw [← map_operation_decode?, h, Option.map_some, hi]
  exact (Operation.accepts_endingWith_iff op hmask hdigits hpattern).1
    (Operation.accepts_of_ofOpcode? hop)

end Instruction

end

namespace Opcode

/-- Under three of the first nibbles only some endings mean anything, and the word
has another. -/
def Unassigned (w : Opcode) : Prop :=
  (top w = 0x8 ∧ (n w).val ∉ [0x0, 0x1, 0x2, 0x3, 0x4, 0x5, 0x6, 0x7, 0xE]) ∨
    (top w = 0xE ∧ (nn w).toNat ∉ [0x9E, 0xA1]) ∨
    (top w = 0xF ∧ (nn w).toNat ∉ [0x07, 0x0A, 0x15, 0x18, 0x1E, 0x29, 0x33, 0x55, 0x65])

/-- The gaps of the table.  Every entry asks for a first nibble, so the table is
gone through once for each of the sixteen. -/
theorem forall_not_accepts_iff {w : Opcode} :
    (∀ op ∈ Operation.all, op.entry.accepts w = false) ↔ Unassigned w := by
  simp only [Operation.all, List.forall_mem_cons, Bool.eq_false_iff, ne_eq, Entry.accepts_iff,
    Operation.entry, Arithmetic.entry, toNat_and_all, toNat_and_top, toNat_and_n, toNat_and_nn,
    Unassigned]
  have htop := top_lt w
  have hlast : (n w).val < 16 := (n w).isLt
  have hending : (nn w).toNat < 256 := (nn w).isLt
  generalize top w = t at htop
  generalize (n w).val = last at hlast
  generalize (nn w).toNat = ending at hending
  interval_cases t
  case «8» => simp; omega
  case «14» => simp; omega
  case «15» => simp; omega
  all_goals simp

end Opcode

/-! ## Handlers by name -/

/-- The fields of a word that handlers may read, the word itself included. -/
structure Opcode.Fields where
  raw : Opcode
  x : Register
  y : Register
  n : Fin 16
  nn : Byte
  nnn : Word

/-- The fields of a word. -/
def Opcode.fields (w : Opcode) : Opcode.Fields where
  raw := w
  x := x w
  y := y w
  n := n w
  nn := nn w
  nnn := nnn w

namespace Operation

/-- The operation that is registered under a name. -/
def named? (label : String) : Option Operation := all.find? (·.entry.label == label)

/-- No two operations share a name. -/
theorem named?_label (op : Operation) : named? op.entry.label = some op := by
  have h : ∀ op ∈ all, named? op.entry.label = some op := by decide +kernel
  exact h op (mem_all op)

/-- The instruction that the handler of an operation carries out when fields are handed to it. -/
def taking (f : Opcode.Fields) : Operation → Instruction
  | .clear => .clear
  | .ret => .ret
  | .sys => .sys f.nnn
  | .jump => .jump f.nnn
  | .call => .call f.nnn
  | .skipByte => .skipByte f.x f.nn
  | .skipNotByte => .skipNotByte f.x f.nn
  | .skipEqual => .skipEqual f.x f.y
  | .loadByte => .loadByte f.x f.nn
  | .addByte => .addByte f.x f.nn
  | .arithmetic op => .arithmetic op f.x f.y
  | .skipNotEqual => .skipNotEqual f.x f.y
  | .loadIndex => .loadIndex f.nnn
  | .jumpOffset => .jumpOffset f.nnn
  | .random => .random f.x f.nn
  | .draw => .draw f.x f.y f.n
  | .skipKey => .skipKey f.x
  | .skipNoKey => .skipNoKey f.x
  | .getDelay => .getDelay f.x
  | .waitKey => .waitKey f.x
  | .setDelay => .setDelay f.x
  | .setSound => .setSound f.x
  | .addIndex => .addIndex f.x
  | .glyph => .glyph f.x
  | .decimal => .decimal f.x
  | .store => .store f.x
  | .restore => .restore f.x

/-- An instruction is read from the fields of its word. -/
theorem withOperands_eq (op : Operation) (w : Opcode) :
    op.withOperands w = op.taking (Opcode.fields w) := by
  cases op <;> rfl

/-- What the handler of an operation makes of a machine and the fields of an opcode. -/
def handle (op : Operation) (m : Machine) (f : Opcode.Fields) : Outcome where
  machine := (op.taking f).perform m
  failures := ((op.taking f).failure? m).toList

end Operation

/-- What is done under the name of a table line; under any other name the host gets
a notice. -/
def Machine.executeNamed (m : Machine) (label : String) (f : Opcode.Fields) : Outcome :=
  match Operation.named? label with
  | some op => op.handle m f
  | none => { machine := m, notices := [⟨f.raw, m.pc⟩] }

/-- The machine does what is registered under the name that the disassembler finds. -/
theorem Machine.execute_eq_executeNamed (m : Machine) (k : Int) :
    m.execute (BitVec.ofInt 16 k)
      = m.executeNamed (Entry.ofInt k).label (Opcode.fields (BitVec.ofInt 16 k)) := by
  rw [Entry.ofInt_eq, Machine.execute, Instruction.decode?]
  cases h : Operation.ofOpcode? (BitVec.ofInt 16 k) with
  | none => rfl
  | some op =>
    rw [Option.map_some, Option.map_some, Option.getD_some, Machine.executeNamed,
      Operation.named?_label, Operation.withOperands_eq]
    rfl

/-! ## The whole table -/

open Operation (position ofOpcode?) in
/-- **Disassembler and machine decode alike.**  For every integer, its low sixteen
bits have the position of the line that the disassembler shows, the first to
select the integer, or position 35 when it shows none; and an integer is executed
as its low sixteen bits, by the handler with the name shown, which is handed the
word and fields that are made up of its digits.  Position 35 is that of the unassigned words, and
every line has all the words that carry its pattern, but for two of `SYS`. -/
theorem decoders_agree :
    (∀ k : Int,
      let w : Opcode := BitVec.ofInt 16 k
      let f := Opcode.fields w
      (w.toNat : Int) = k % 0x10000 ∧
        Entry.ofInt k = (Entry.table[position w]?).getD Entry.unknown ∧
        (Entry.ofInt k = Entry.unknown ↔ position w = 35) ∧
        (position w ≤ 35 ∧ (position w < 35 → Entry.SelectedAt k (position w)) ∧
          ∀ i, Entry.SelectedAt k i → position w ≤ i) ∧
        (∀ s : Session, s.execute k = s.execute (k % 0x10000)) ∧
        (∀ m : Machine, m.execute w = m.executeNamed (Entry.ofInt k).label f) ∧
        f.nnn.toNat = f.x.val * 256 + f.y.val * 16 + f.n.val ∧
        f.nn.toNat = f.y.val * 16 + f.n.val ∧
        (f.raw = w ∧ Opcode.top w < 16 ∧ f.raw.toNat = 4096 * Opcode.top w + f.nnn.toNat)) ∧
      (∀ w : Opcode, position w = 35 ↔ Opcode.Unassigned w) ∧
      ∀ (op : Operation) (rest : Word),
        let w := op.entry.pattern ||| (rest &&& ~~~op.entry.mask)
        ofOpcode? w = some op ∨
          (op = .sys ∧ w = 0x00E0 ∧ ofOpcode? w = some .clear) ∨
          (op = .sys ∧ w = 0x00EE ∧ ofOpcode? w = some .ret) := by
  refine ⟨fun k => ?_, fun w => ?_, fun op rest => ?_⟩
  · intro w f
    have hmod : (w.toNat : Int) = k % 0x10000 := by
      rw [BitVec.toNat_ofInt]
      omega
    have hsame : BitVec.ofInt 16 (k % 0x10000) = w := by
      rw [← hmod, BitVec.ofInt_natCast, BitVec.ofNat_toNat, BitVec.setWidth_eq]
    have hentry : Entry.ofInt k = (Entry.table[position w]?).getD Entry.unknown := by
      rw [Entry.ofInt_eq, Operation.ofOpcode?_eq, Entry.table, List.getElem?_map]
    obtain ⟨hselected, hleast⟩ := Entry.selects_position k
    refine ⟨hmod, hentry, Entry.ofInt_eq_unknown_iff,
      ⟨Operation.position_le w, hselected, hleast⟩, fun s => ?_,
      fun m => m.execute_eq_executeNamed k, ?_, ?_, rfl, Opcode.top_lt w, Opcode.toNat_eq w⟩
    · rw [Session.execute, Session.execute, hsame]
    · have hnnn := Opcode.nnn_eq w
      show (Opcode.nnn w).toNat = (Opcode.x w).val * 256 + (Opcode.y w).val * 16 + (Opcode.n w).val
      omega
    · have hnn := Opcode.nn_eq w
      show (Opcode.nn w).toNat = (Opcode.y w).val * 16 + (Opcode.n w).val
      omega
  · rw [Operation.position_eq_iff, Opcode.forall_not_accepts_iff]
  · exact Operation.ofOpcode?_of_accepts (Operation.accepts_filled op rest)

end ChipEight
