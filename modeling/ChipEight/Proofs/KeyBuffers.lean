import ChipEight.Host.Refusal
import ChipEight.Keypad
import ChipEight.Proofs.Messages
import Mathlib.Data.List.FinRange
import Mathlib.Data.Set.List

/-!
# Buffers for the keypad

A buffer may be nested to any depth.  It is rectangular when the items of each of its rows have a
shape in common, and then its own shape, the lengths along its axes, says whether it can be
latched: only sixteen entries in one row can.

What is proved here:

* **shapes** — `HasShape`, the rectangular buffers with the lengths along their axes, and
  `shape_of_hasShape`: measuring the first items is enough for them;
* **acceptance** — `keypad?_eq_some_iff` for any buffer, and `isSome_keypad?_iff` for a
  rectangular one;
* **the text of a shape** — `shapeText_injective` and `message_keyBufferShape_injective`: what a
  host is told of a buffer determines its shape.
-/

namespace ChipEight

namespace KeyBuffer

/-! ## Shapes -/

/-- A buffer is rectangular, with these lengths along its axes.  An empty row has one axis. -/
inductive HasShape : KeyBuffer → List Nat → Prop where
  | entry (pressed : Bool) : HasShape (.entry pressed) []
  | nil : HasShape (.row []) [0]
  | row {items : List KeyBuffer} {shape : List Nat} (hne : items ≠ [])
    (hitems : ∀ b ∈ items, HasShape b shape) : HasShape (.row items) (items.length :: shape)

variable {b : KeyBuffer} {s : List Nat} {keys : Keypad}

theorem shape_of_hasShape (h : b.HasShape s) : b.shape = s := by
  induction h with
  | entry pressed => rfl
  | nil => rfl
  | @row items shape hne hitems ih =>
    cases items with
    | nil => exact absurd rfl hne
    | cons b bs => rw [KeyBuffer.shape, ih b List.mem_cons_self, List.length_cons]

/-- A row of entries. -/
theorem hasShape_row_entries {entries : List Bool} (h : entries ≠ []) :
    (row (entries.map .entry)).HasShape [entries.length] := by
  rw [← List.length_map (f := KeyBuffer.entry)]
  refine .row (by simpa using h) fun b hb => ?_
  obtain ⟨pressed, -, rfl⟩ := List.mem_map.1 hb
  exact .entry pressed

/-! ## Acceptance -/

theorem pressed?_eq_some_iff {pressed : Bool} : b.pressed? = some pressed ↔ b = .entry pressed := by
  cases b <;> simp [pressed?]

/-- All items of a row are entries, or there is no list of their values. -/
theorem mapM_pressed?_eq_some_iff {items : List KeyBuffer} {entries : List Bool} :
    items.mapM pressed? = some entries ↔ items = entries.map .entry := by
  induction items generalizing entries with
  | nil => simp [eq_comm]
  | cons b items ih =>
    rw [List.mapM_cons]
    constructor
    · intro h
      obtain ⟨pressed, hb, h⟩ := Option.bind_eq_some_iff.1 h
      obtain ⟨rest, hrest, h⟩ := Option.bind_eq_some_iff.1 h
      cases h
      rw [pressed?_eq_some_iff.1 hb, ih.1 hrest, List.map_cons]
    · intro h
      cases entries with
      | nil => cases h
      | cons pressed rest =>
        obtain ⟨rfl, hrest⟩ := List.cons.inj h
        rw [ih.2 hrest]
        rfl

/-- **What can be latched**: a row of sixteen entries. -/
theorem keypad?_eq_some_iff : b.keypad? = some keys ↔ b = .row (keys.toList.map .entry) := by
  cases b with
  | entry pressed => simp [keypad?]
  | row items =>
    rw [keypad?, row.injEq, ← mapM_pressed?_eq_some_iff]
    cases items.mapM pressed? with
    | none => simp
    | some entries =>
      have hlist : keys.toList.length = 16 := keys.length_toList
      by_cases hlen : entries.length = 16
      · simp only [Option.bind_eq_bind, Option.bind_some, dif_pos hlen, Option.some.injEq]
        rw [← Vector.toList_inj]
        rfl
      · have hne : entries ≠ keys.toList := fun heq => hlen (heq ▸ hlist)
        simp [hlen, hne]

/-- A rectangular buffer with no axes is an entry, so a row of such is a row of entries. -/
theorem entries_of_hasShape_nil {items : List KeyBuffer} (h : ∀ b ∈ items, b.HasShape []) :
    ∃ entries : List Bool, items = entries.map .entry := by
  have hrange : ∀ b ∈ items, b ∈ Set.range entry := by
    intro b hb
    cases h b hb with
    | entry pressed => exact ⟨pressed, rfl⟩
  obtain ⟨entries, hentries⟩ := (Set.range_list_map entry).ge hrange
  exact ⟨entries, hentries.symm⟩

/-- A rectangular buffer can be latched exactly when it is a row of sixteen. -/
theorem isSome_keypad?_iff (h : b.HasShape s) : b.keypad?.isSome = true ↔ s = [16] := by
  rw [Option.isSome_iff_exists]
  constructor
  · rintro ⟨keys, hkeys⟩
    have hlist : keys.toList.length = 16 := keys.length_toList
    have hne : keys.toList ≠ [] := fun hnil => by rw [hnil] at hlist; cases hlist
    rw [keypad?_eq_some_iff.1 hkeys] at h
    rw [← shape_of_hasShape h, shape_of_hasShape (hasShape_row_entries hne), hlist]
  · intro hs
    cases h with
    | entry pressed => cases hs
    | nil => cases hs
    | row hne hitems =>
      obtain ⟨hlen, rfl⟩ := List.cons.inj hs
      obtain ⟨entries, rfl⟩ := entries_of_hasShape_nil hitems
      rw [List.length_map] at hlen
      exact ⟨⟨entries.toArray, by simpa using hlen⟩, keypad?_eq_some_iff.2 rfl⟩

/-! ## Flat buffers -/

/-- The flat buffer that says something of each of the sixteen keys. -/
def flat (values : Fin 16 → KeyValue) : KeyBuffer :=
  .row ((List.finRange 16).map fun k => .entry (values k).pressed)

theorem keypad?_flat (values : Fin 16 → KeyValue) :
    (flat values).keypad? = some (Vector.ofFn fun k => (values k).pressed) := by
  rw [keypad?_eq_some_iff, flat, Vector.toList_ofFn, List.ofFn_eq_map, List.map_map]
  rfl

end KeyBuffer

/-! ## The text of a shape -/

namespace Refusal

/-- The text of the lengths behind another one. -/
def shapeTail : List Nat → List Char
  | [] => [')']
  | n :: ns => ',' :: ' ' :: (Nat.toDigits 10 n ++ shapeTail ns)

/-- The text behind the first length, where a comma stands in any case. -/
def afterFirst : List Nat → List Char
  | [] => [',', ')']
  | n :: ns => shapeTail (n :: ns)

theorem toList_intercalate_repr (n : Nat) (ns : List Nat) :
    (", ".intercalate ((n :: ns).map Nat.repr)).toList ++ [')']
      = Nat.toDigits 10 n ++ shapeTail ns := by
  induction ns generalizing n with
  | nil => simp [shapeTail]
  | cons k ns ih =>
    rw [shapeTail, ← ih]
    simp

theorem toList_shapeText_cons (n : Nat) (ns : List Nat) :
    (shapeText (n :: ns)).toList = '(' :: (Nat.toDigits 10 n ++ afterFirst ns) := by
  cases ns with
  | nil =>
    show ("(" ++ n.repr ++ ",)").toList = _
    rw [String.toList_append, String.toList_append, Nat.toList_repr]
    rfl
  | cons k ns =>
    show ("(" ++ ", ".intercalate ((n :: k :: ns).map Nat.repr) ++ ")").toList = _
    rw [String.toList_append, String.toList_append, afterFirst, ← toList_intercalate_repr]
    rfl

/-- No length goes on into what stands behind it. -/
theorem head?_shapeTail (ns : List Nat) : ∀ c ∈ (shapeTail ns).head?, c.isDigit = false := by
  cases ns <;> simp [shapeTail]

theorem head?_afterFirst (ns : List Nat) : ∀ c ∈ (afterFirst ns).head?, c.isDigit = false := by
  cases ns <;> simp [afterFirst, shapeTail]

theorem shapeTail_injective {ns ks : List Nat} (h : shapeTail ns = shapeTail ks) : ns = ks := by
  induction ns generalizing ks with
  | nil =>
    cases ks with
    | nil => rfl
    | cons k ks => cases h
  | cons n ns ih =>
    cases ks with
    | nil => cases h
    | cons k ks =>
      have hrest : Nat.toDigits 10 n ++ shapeTail ns = Nat.toDigits 10 k ++ shapeTail ks :=
        (List.cons.inj (List.cons.inj h).2).2
      obtain ⟨rfl, htail⟩ := digits_append_inj (head?_shapeTail ns) (head?_shapeTail ks) hrest
      rw [ih htail]

theorem afterFirst_injective {ns ks : List Nat} (h : afterFirst ns = afterFirst ks) : ns = ks := by
  cases ns with
  | nil =>
    cases ks with
    | nil => rfl
    | cons k ks => cases h
  | cons n ns =>
    cases ks with
    | nil => cases h
    | cons k ks => exact shapeTail_injective h

/-- There is always more than a closing parenthesis behind the opening one, if there is a
length. -/
theorem shapeText_nil_ne (n : Nat) (ns : List Nat) : shapeText [] ≠ shapeText (n :: ns) := by
  intro h
  have hlist : ['(', ')'] = '(' :: (Nat.toDigits 10 n ++ afterFirst ns) := by
    rw [← toList_shapeText_cons, ← h]
    rfl
  have hlong : 2 ≤ (afterFirst ns).length := by cases ns <;> simp [afterFirst, shapeTail]
  have hlength := congrArg List.length hlist
  simp only [List.length_cons, List.length_append, List.length_nil] at hlength
  omega

/-- **The text of a shape determines it.** -/
theorem shapeText_injective {s s' : List Nat} (h : shapeText s = shapeText s') : s = s' := by
  cases s with
  | nil =>
    cases s' with
    | nil => rfl
    | cons k ks => exact absurd h (shapeText_nil_ne k ks)
  | cons n ns =>
    cases s' with
    | nil => exact absurd h.symm (shapeText_nil_ne n ns)
    | cons k ks =>
      have hlist := congrArg String.toList h
      rw [toList_shapeText_cons, toList_shapeText_cons] at hlist
      obtain ⟨rfl, hrest⟩ :=
        digits_append_inj (head?_afterFirst ns) (head?_afterFirst ks) (List.cons.inj hlist).2
      rw [afterFirst_injective hrest]

theorem message_keyBufferShape_injective {s s' : List Nat}
    (h : (keyBufferShape s).message = (keyBufferShape s').message) : s = s' := by
  have htext (s : List Nat) : (keyBufferShape s).message.toList
      = "Key buffer must hold 16 entries, got shape ".toList ++ (shapeText s).toList :=
    String.toList_append
  have hlist := congrArg String.toList h
  rw [htext, htext, List.append_cancel_left_eq] at hlist
  exact shapeText_injective (String.toList_inj.1 hlist)

end Refusal

end ChipEight
