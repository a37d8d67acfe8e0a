import ChipEight.Fault
import Std.Data.String.ToInt
import Std.Data.String.ToNat

/-!
# Reports tell faults apart

The report of a fault is all that a host gets to see of it.  `message_injective`
says that nothing is lost: faults with the same report are equal, numbers
included.

The four descriptions begin differently, and within one of them a number ends
where the next letter or blank stands (`digits_append_inj`).
-/

namespace ChipEight

/-! ## Numbers in a text -/

theorem toDigits_inj {a b : Nat} (h : Nat.toDigits 10 a = Nat.toDigits 10 b) : a = b := by
  apply Nat.repr_injective
  rw [Nat.repr_eq_ofList_toDigits, Nat.repr_eq_ofList_toDigits, h]

/-- A text that begins with a number and goes on with anything but a digit determines the number
and the rest. -/
theorem digits_append_inj {a b : Nat} {r s : List Char} (hr : ∀ c ∈ r.head?, c.isDigit = false)
    (hs : ∀ c ∈ s.head?, c.isDigit = false)
    (h : Nat.toDigits 10 a ++ r = Nat.toDigits 10 b ++ s) : a = b ∧ r = s := by
  have hdigits (n : Nat) : ∀ d ∈ Nat.toDigits 10 n, d.isDigit = true := fun d hd =>
    Nat.isDigit_of_mem_toDigits (by decide) (by decide) hd
  have hcut (n : Nat) {t : List Char} (ht : ∀ c ∈ t.head?, c.isDigit = false) :
      (Nat.toDigits 10 n ++ t).takeWhile Char.isDigit = Nat.toDigits 10 n := by
    rw [List.takeWhile_append_of_pos (hdigits n)]
    cases t with
    | nil => rw [List.takeWhile_nil, List.append_nil]
    | cons c t =>
      have hc : c.isDigit = false := ht c rfl
      rw [List.takeWhile_cons_of_neg (by simp [hc]), List.append_nil]
  have hnumber : Nat.toDigits 10 a = Nat.toDigits 10 b := by
    rw [← hcut a hr, h, hcut b hs]
  exact ⟨toDigits_inj hnumber, List.append_cancel_left (hnumber ▸ h)⟩

theorem digits_cons_inj {a b : Nat} {c : Char} {r s : List Char} (hc : c.isDigit = false)
    (h : Nat.toDigits 10 a ++ c :: r = Nat.toDigits 10 b ++ c :: s) : a = b ∧ r = s := by
  obtain ⟨hnumber, hrest⟩ := digits_append_inj (by simp [hc]) (by simp [hc]) h
  exact ⟨hnumber, (List.cons.inj hrest).2⟩

namespace Fault

/-! ## The four descriptions -/

theorem toList_description_stackOverflow (depth : Int) :
    (stackOverflow depth).description.toList =
      "stack overflow: ".toList
        ++ (depth.repr.toList ++ " return addresses already stacked".toList) := by
  show ("stack overflow: " ++ depth.repr ++ " return addresses already stacked").toList = _
  rw [String.toList_append, String.toList_append, List.append_assoc]

theorem toList_description_outOfRange (length start : Nat) :
    (outOfRange length start).description.toList =
      "memory access out of range: ".toList
        ++ (Nat.toDigits 10 length ++ ' ' :: ("bytes at ".toList ++ Nat.toDigits 10 start)) := by
  show ("memory access out of range: " ++ length.repr ++ " bytes at " ++ start.repr).toList = _
  rw [String.toList_append, String.toList_append, String.toList_append, Nat.toList_repr,
    Nat.toList_repr, List.append_assoc, List.append_assoc]
  rfl

theorem toList_description_noSuchKey (x : Register) (key : Byte) :
    (noSuchKey x key).description.toList =
      "key index out of range: V".toList
        ++ (Nat.toDigits 10 x.val ++ ' ' :: ("holds ".toList ++ Nat.toDigits 10 key.toNat)) := by
  show ("key index out of range: V" ++ x.val.repr ++ " holds " ++ key.toNat.repr).toList = _
  rw [String.toList_append, String.toList_append, String.toList_append, Nat.toList_repr,
    Nat.toList_repr, List.append_assoc, List.append_assoc]
  rfl

/-- The seventh letter of the description tells the four apart. -/
theorem toList_description_seventh (f : Fault) :
    f.description.toList[6]? = some (match f with
      | .stackOverflow _ => 'o'
      | .stackUnderflow => 'u'
      | .outOfRange _ _ => ' '
      | .noSuchKey _ _ => 'd') := by
  cases f with
  | stackOverflow depth => rw [toList_description_stackOverflow]; rfl
  | stackUnderflow => rfl
  | outOfRange length start => rw [toList_description_outOfRange]; rfl
  | noSuchKey x key => rw [toList_description_noSuchKey]; rfl

/-! ## Descriptions and reports -/

theorem description_injective {f g : Fault} (h : f.description = g.description) : f = g := by
  have hseventh := f.toList_description_seventh
  rw [h, g.toList_description_seventh, Option.some.injEq] at hseventh
  have hlist := congrArg String.toList h
  cases f with
  | stackOverflow depth =>
    cases g with
    | stackOverflow depth' =>
      rw [toList_description_stackOverflow, toList_description_stackOverflow,
        List.append_cancel_left_eq, List.append_cancel_right_eq, String.toList_inj] at hlist
      rw [Int.repr_injective hlist]
    | _ => cases hseventh
  | stackUnderflow =>
    cases g with
    | stackUnderflow => rfl
    | _ => cases hseventh
  | outOfRange length start =>
    cases g with
    | outOfRange length' start' =>
      rw [toList_description_outOfRange, toList_description_outOfRange,
        List.append_cancel_left_eq] at hlist
      obtain ⟨hlength, hrest⟩ := digits_cons_inj rfl hlist
      rw [hlength, toDigits_inj (List.append_cancel_left hrest)]
    | _ => cases hseventh
  | noSuchKey x key =>
    cases g with
    | noSuchKey x' key' =>
      rw [toList_description_noSuchKey, toList_description_noSuchKey,
        List.append_cancel_left_eq] at hlist
      obtain ⟨hx, hrest⟩ := digits_cons_inj rfl hlist
      rw [Fin.ext hx, BitVec.eq_of_toNat_eq (toDigits_inj (List.append_cancel_left hrest))]
    | _ => cases hseventh

/-- **Nothing is lost in a report.**  Faults with the same report are equal. -/
theorem message_injective {f g : Fault} (h : f.message = g.message) : f = g := by
  refine description_injective (String.toList_inj.1 ?_)
  have hlist := congrArg String.toList h
  rwa [message, message, String.toList_append, String.toList_append,
    List.append_cancel_right_eq] at hlist

end Fault

end ChipEight
