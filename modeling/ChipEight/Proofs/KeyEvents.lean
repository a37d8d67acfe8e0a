import ChipEight.Proofs.KeyBuffers
import ChipEight.Proofs.Requests
import Mathlib.Data.List.Induction

/-!
# Key events

A host latches one key, or all of them from a buffer.  Both come to the same keypad: what a key
holds is what was last said of it, in whatever way, and a call that is refused has said nothing.

What is proved here:

* **one event** — `request_cases`: it is refused and covers no key, or changes the keys that it
  covers and nothing else;
* **many events** — `heedAll_eq`: they change nothing but the keypad, and `down_heedAll`: a key
  ends as the last event that covers it has it;
* **the whole** — `latching_agrees`.
-/

namespace ChipEight

/-! ## Keys -/

namespace Keypad

/-- Whether a key is down. -/
def down (keys : Keypad) (k : Fin 16) : Bool := keys.get k

/-- Keypads on which every key is the same. -/
theorem ext_down {a b : Keypad} (h : ∀ k, a.down k = b.down k) : a = b :=
  Vector.ext fun i hi => h ⟨i, hi⟩

theorem down_ofFn (f : Fin 16 → Bool) (k : Fin 16) : down (Vector.ofFn f) k = f k :=
  Vector.getElem_ofFn k.isLt

theorem down_released (k : Fin 16) : released.down k = false := Vector.getElem_replicate k.isLt

theorem down_latch (keys : Keypad) (k j : Fin 16) (pressed : Bool) :
    (keys.latch k pressed).down j = if k = j then pressed else keys.down j := by
  simp only [Fin.ext_iff]
  exact Vector.getElem_set k.isLt j.isLt

end Keypad

/-! ## Events -/

/-- A call of a host that latches keys. -/
inductive KeyEvent where
  /-- Latch the key with this number. -/
  | one (key : Int) (value : KeyValue)
  /-- Latch all keys from a buffer. -/
  | all (buffer : KeyBuffer)

namespace KeyEvent

/-- The request that a host makes. -/
def action : KeyEvent → Action
  | .one key value => .setKey key value.pressed
  | .all buffer => .setKeys buffer

/-- What an event says of a key, if it covers the key.  One that is refused covers none. -/
def value? : KeyEvent → Fin 16 → Option Bool
  | .one key value, k => if key = k.val then some value.pressed else none
  | .all buffer, k => buffer.keypad?.map fun keys => keys.down k

/-- What the last event that covers a key says of it. -/
def last? (events : List KeyEvent) (k : Fin 16) : Option Bool :=
  events.reverse.findSome? (·.value? k)

/-- The keypad after an event. -/
def latched (e : KeyEvent) (keys : Keypad) : Keypad :=
  Vector.ofFn fun k => (e.value? k).getD (keys.down k)

/-- Events that latch the keys of a list, one by one in its order. -/
def oneByOne (values : Fin 16 → KeyValue) (order : List (Fin 16)) : List KeyEvent :=
  order.map fun k => .one k.val (values k)

theorem down_latched (e : KeyEvent) (keys : Keypad) (k : Fin 16) :
    (e.latched keys).down k = (e.value? k).getD (keys.down k) := Keypad.down_ofFn _ k

theorem last?_append_singleton (events : List KeyEvent) (e : KeyEvent) (k : Fin 16) :
    last? (events ++ [e]) k = (e.value? k).or (last? events k) := by
  rw [last?, List.reverse_append, List.reverse_singleton, List.singleton_append,
    List.findSome?_cons, last?]
  cases e.value? k <;> rfl

theorem value?_one (k j : Fin 16) (value : KeyValue) :
    (one k.val value).value? j = if k = j then some value.pressed else none := by
  simp only [value?, Int.ofNat_inj, Fin.ext_iff]

theorem value?_flat (values : Fin 16 → KeyValue) (k : Fin 16) :
    (all (.flat values)).value? k = some (values k).pressed := by
  rw [value?, KeyBuffer.keypad?_flat, Option.map_some]
  exact congrArg some (Keypad.down_ofFn _ k)

/-- One by one the keys of the list are covered, whatever its order and however often they stand
in it. -/
theorem last?_oneByOne (values : Fin 16 → KeyValue) (order : List (Fin 16)) (k : Fin 16) :
    last? (oneByOne values order) k = if k ∈ order then some (values k).pressed else none := by
  induction order using List.reverseRecOn with
  | nil => rfl
  | append_singleton order j ih =>
    rw [oneByOne, List.map_append, List.map_singleton, last?_append_singleton]
    rw [oneByOne] at ih
    rw [ih, value?_one]
    by_cases hj : j = k
    · subst hj
      simp
    · have hmem : k ∈ order ++ [j] ↔ k ∈ order := by simp [Ne.symm hj]
      rw [if_neg hj, Option.none_or]
      simp only [hmem]

end KeyEvent

/-! ## Events on a machine -/

namespace Machine

open KeyEvent (last? last?_append_singleton last?_oneByOne oneByOne value?_flat)

/-- An event, as a request on the machine. -/
def request (m : Machine) : KeyEvent → Except Refusal Machine
  | .one key value => m.setKey key value.pressed
  | .all buffer => m.setKeys buffer

/-- The machine after an event, which may have been refused. -/
def heed (m : Machine) (e : KeyEvent) : Machine :=
  match m.request e with
  | .ok m' => m'
  | .error _ => m

/-- The machine after a list of events, refused ones included. -/
def heedAll (m : Machine) (events : List KeyEvent) : Machine := events.foldl heed m

variable {m m' : Machine} {e : KeyEvent} {k : Fin 16}

theorem request_one_of_mem (m : Machine) (k : Fin 16) (value : KeyValue) :
    m.request (.one k.val value) = .ok (m.latch k value.pressed) := by
  have hk : 0 ≤ (k.val : Int) ∧ (k.val : Int) < 16 := by omega
  rw [request, setKey, dif_pos hk]
  rfl

theorem request_one_of_not_mem {key : Int} (h : ¬ (0 ≤ key ∧ key < 16)) (m : Machine)
    (value : KeyValue) : m.request (.one key value) = .error (.noSuchKey key) := dif_neg h

theorem request_all_of_some {buffer : KeyBuffer} {keys : Keypad} (h : buffer.keypad? = some keys)
    (m : Machine) : m.request (.all buffer) = .ok (m.latchAll keys) := by
  rw [request, setKeys, h]

theorem request_all_of_none {buffer : KeyBuffer} (h : buffer.keypad? = none) (m : Machine) :
    m.request (.all buffer) = .error (.keyBufferShape buffer.shape) := by
  rw [request, setKeys, h]

/-! ## One event -/

/-- **One event** is refused and covers no key, or changes the keys that it covers and nothing
else. -/
theorem request_cases (m : Machine) (e : KeyEvent) :
    ((∀ k, e.value? k = none) ∧ ∃ reason, m.request e = .error reason) ∨
      (∃ k v, e.value? k = some v) ∧ m.request e = .ok (m.latchAll (e.latched m.keypad)) := by
  cases e with
  | one key value =>
    by_cases h : 0 ≤ key ∧ key < 16
    · obtain ⟨k, rfl⟩ : ∃ k : Fin 16, (k.val : Int) = key :=
        ⟨⟨key.toNat, by omega⟩, Int.toNat_of_nonneg h.1⟩
      refine .inr ⟨⟨k, value.pressed, if_pos rfl⟩, ?_⟩
      have hkeypad : m.keypad.latch k value.pressed
          = (KeyEvent.one k.val value).latched m.keypad := by
        refine Keypad.ext_down fun j => ?_
        rw [Keypad.down_latch, KeyEvent.down_latched, KeyEvent.value?_one]
        split <;> rfl
      rw [request_one_of_mem, latch, hkeypad, latchAll]
    · refine .inl ⟨fun k => if_neg (by omega), _, request_one_of_not_mem h m value⟩
  | all buffer =>
    cases hkeys : buffer.keypad? with
    | none =>
      exact .inl ⟨fun k => by rw [KeyEvent.value?, hkeys]; rfl, _, request_all_of_none hkeys m⟩
    | some keys =>
      have hvalue (k : Fin 16) : (KeyEvent.all buffer).value? k = some (keys.down k) := by
        rw [KeyEvent.value?, hkeys]
        rfl
      have hkeypad : keys = (KeyEvent.all buffer).latched m.keypad := by
        refine Keypad.ext_down fun k => ?_
        rw [KeyEvent.down_latched, hvalue]
        rfl
      refine .inr ⟨⟨0, _, hvalue 0⟩, ?_⟩
      rw [request_all_of_some hkeys, ← hkeypad]

theorem heed_eq (m : Machine) (e : KeyEvent) : m.heed e = m.latchAll (e.latched m.keypad) := by
  rw [heed]
  rcases m.request_cases e with ⟨hnone, reason, hrefused⟩ | ⟨-, hgranted⟩
  · have hkeypad : e.latched m.keypad = m.keypad := by
      refine Keypad.ext_down fun k => ?_
      rw [KeyEvent.down_latched, hnone]
      rfl
    rw [hrefused, hkeypad]
    rfl
  · rw [hgranted]

theorem down_heed (m : Machine) (e : KeyEvent) (k : Fin 16) :
    (m.heed e).keypad.down k = (e.value? k).getD (m.keypad.down k) := by
  rw [heed_eq]
  exact e.down_latched m.keypad k

/-! ## Many events -/

@[simp] theorem heedAll_cons (m : Machine) (e : KeyEvent) (rest : List KeyEvent) :
    m.heedAll (e :: rest) = (m.heed e).heedAll rest := rfl

theorem heedAll_append_singleton (m : Machine) (events : List KeyEvent) (e : KeyEvent) :
    m.heedAll (events ++ [e]) = (m.heedAll events).heed e := by
  rw [heedAll, List.foldl_append]
  rfl

theorem latchAll_latchAll (m : Machine) (keys keys' : Keypad) :
    (m.latchAll keys).latchAll keys' = m.latchAll keys' := rfl

theorem exists_heedAll_eq (m : Machine) (events : List KeyEvent) :
    ∃ keys, m.heedAll events = m.latchAll keys := by
  induction events generalizing m with
  | nil => exact ⟨m.keypad, rfl⟩
  | cons e rest ih =>
    obtain ⟨keys, hkeys⟩ := ih (m.heed e)
    rw [heedAll_cons, hkeys, heed_eq]
    exact ⟨keys, m.latchAll_latchAll _ keys⟩

/-- Events change the keypad and nothing else. -/
theorem heedAll_eq (m : Machine) (events : List KeyEvent) :
    m.heedAll events = m.latchAll (m.heedAll events).keypad := by
  obtain ⟨keys, hkeys⟩ := m.exists_heedAll_eq events
  rw [hkeys]
  rfl

/-- **Many events.**  A key holds what the last event that covers it says of it.  The induction is
on the events from the last, which is the one that decides. -/
theorem down_heedAll (m : Machine) (events : List KeyEvent) (k : Fin 16) :
    (m.heedAll events).keypad.down k = (last? events k).getD (m.keypad.down k) := by
  induction events using List.reverseRecOn with
  | nil => rfl
  | append_singleton events e ih =>
    rw [heedAll_append_singleton, down_heed, ih, last?_append_singleton]
    cases e.value? k <;> rfl

/-- A flat buffer has the same effect as the single events of all keys, in any order. -/
theorem heedAll_oneByOne {order : List (Fin 16)} (horder : ∀ k, k ∈ order) (m : Machine)
    (values : Fin 16 → KeyValue) :
    m.heedAll (oneByOne values order) = m.heed (.all (.flat values)) := by
  have hkeypad : (m.heedAll (oneByOne values order)).keypad
      = (KeyEvent.all (.flat values)).latched m.keypad := by
    refine Keypad.ext_down fun k => ?_
    rw [down_heedAll, last?_oneByOne, if_pos (horder k), KeyEvent.down_latched, value?_flat]
  rw [heedAll_eq, hkeypad, ← heed_eq]

end Machine

/-! ## Requests of a host -/

namespace Session

open KeyEvent (last? oneByOne value?_flat)

variable {s : Session} {e : KeyEvent}

theorem perform_action (s : Session) (e : KeyEvent) :
    s.perform e.action = s.update (s.machine.request e) := by
  cases e <;> rfl

theorem session_perform_action (s : Session) (e : KeyEvent) :
    (s.perform e.action).session = { s with machine := s.machine.heed e } := by
  rw [perform_action, Machine.heed]
  cases s.machine.request e <;> rfl

theorem performAll_action (s : Session) (events : List KeyEvent) :
    s.performAll (events.map KeyEvent.action)
      = { s with machine := s.machine.heedAll events } := by
  induction events generalizing s with
  | nil => rfl
  | cons e rest ih =>
    rw [List.map_cons, performAll_cons, session_perform_action, ih]
    rfl

/-- The calls that are granted are those that cover a key. -/
theorem granted_iff : (s.perform e.action).outcome = .ok .done ↔ ∃ k v, e.value? k = some v := by
  rw [perform_action]
  rcases s.machine.request_cases e with ⟨hnone, reason, hrefused⟩ | ⟨hsome, hgranted⟩
  · rw [hrefused]
    simp [update, refuse, hnone]
  · rw [hgranted]
    exact ⟨fun _ => hsome, fun _ => rfl⟩

/-- **Latching all keys and latching them one by one agree.**  A flat buffer of sixteen comes to
the sixteen single calls, in any order.  After calls of both kinds, granted and refused, a key
holds what the last granted one that covers it says of it, and nothing but the keypad has changed.
A call for a key that does not exist, or with a rectangular buffer that is not a row of sixteen,
is refused and changes nothing, and from what the host is told of such a buffer its shape can be
read off. -/
theorem latching_agrees (s : Session) :
    (∀ (values : Fin 16 → KeyValue) (order : List (Fin 16)), (∀ k, k ∈ order) →
      (s.setKeys (.flat values)).outcome = .ok .done ∧
        (∀ (t : Session) (k : Fin 16),
          (t.setKey k.val (values k).pressed).outcome = .ok .done) ∧
        s.performAll (order.map fun k => .setKey k.val (values k).pressed)
          = (s.setKeys (.flat values)).session ∧
        ∀ k,
          (s.setKeys (.flat values)).session.machine.keypad.down k = (values k).pressed) ∧
      (∀ events : List KeyEvent,
        let keys := (s.performAll (events.map KeyEvent.action)).machine.keypad
        s.performAll (events.map KeyEvent.action)
            = { s with machine := { s.machine with keypad := keys } } ∧
          ∀ k, keys.down k = (last? events k).getD (s.machine.keypad.down k)) ∧
      (∀ e : KeyEvent, (s.perform e.action).outcome = .ok .done ↔ ∃ k v, e.value? k = some v) ∧
      (∀ (key : Int) (pressed : Bool), ¬ (0 ≤ key ∧ key < 16) →
        s.setKey key pressed = s.refuse (.noSuchKey key)) ∧
      ∀ (buffer : KeyBuffer) (shape : List Nat), buffer.HasShape shape → shape ≠ [16] →
        s.setKeys buffer = s.refuse (.keyBufferShape shape) ∧
          (Refusal.keyBufferShape shape).message
            = "Key buffer must hold 16 entries, got shape " ++ Refusal.shapeText shape ∧
          ∀ shape', (Refusal.keyBufferShape shape').message
            = (Refusal.keyBufferShape shape).message → shape' = shape := by
  refine ⟨fun values order horder => ?_, fun events => ?_, fun e => granted_iff,
    fun key pressed hkey => ?_, fun buffer shape hshape hne => ?_⟩
  · have hmap : order.map (fun k => Action.setKey k.val (values k).pressed)
        = (oneByOne values order).map KeyEvent.action := by
      rw [oneByOne, List.map_map]
      rfl
    have hall : (s.setKeys (.flat values)).session
        = { s with machine := s.machine.heed (.all (.flat values)) } :=
      s.session_perform_action (.all (.flat values))
    refine ⟨granted_iff (e := .all (.flat values)).2 ⟨0, _, value?_flat values 0⟩,
      fun t k => granted_iff (e := .one k.val (values k)).2 ⟨k, _, if_pos rfl⟩, ?_, fun k => ?_⟩
    · rw [hmap, performAll_action, Machine.heedAll_oneByOne horder, hall]
    · rw [hall, Machine.down_heed, value?_flat]
      rfl
  · rw [performAll_action]
    refine ⟨?_, s.machine.down_heedAll events⟩
    rw [s.machine.heedAll_eq events]
    rfl
  · have hrefused := s.perform_action (.one key (.bool pressed))
    rwa [Machine.request_one_of_not_mem hkey] at hrefused
  · have hnone : buffer.keypad? = none := by
      rw [← Option.not_isSome_iff_eq_none, KeyBuffer.isSome_keypad?_iff hshape]
      exact hne
    have hrefused := s.perform_action (.all buffer)
    rw [Machine.request_all_of_none hnone, KeyBuffer.shape_of_hasShape hshape] at hrefused
    exact ⟨hrefused, rfl, fun shape' h => Refusal.message_keyBufferShape_injective h⟩

/-- From the last key to the first, with a number for each of them, which is zero for one; and
three calls that are refused. -/
theorem latching_agrees_backwards :
    let s := opened ⟨0, 0⟩ .canonical 1
    let values : Fin 16 → KeyValue := fun k => .int (k.val - 3)
    s.performAll ((List.finRange 16).reverse.map fun k => .setKey k.val (values k).pressed)
        = (s.setKeys (.flat values)).session ∧
      (s.setKeys (.flat values)).session.machine.keypad.down 0 = true ∧
      (s.setKeys (.flat values)).session.machine.keypad.down 3 = false ∧
      s.setKey 16 true = s.refuse (.noSuchKey 16) ∧
      s.setKeys (.entry true) = s.refuse (.keyBufferShape []) ∧
      s.setKeys (.row [.row [], .row []]) = s.refuse (.keyBufferShape [2, 0]) ∧
      (Refusal.keyBufferShape [2, 0]).message
        = "Key buffer must hold 16 entries, got shape (2, 0)" := by
  intro s values
  obtain ⟨hall, -, -, hkey, hshape⟩ := latching_agrees s
  obtain ⟨-, -, hsession, hkeypad⟩ := hall values (List.finRange 16).reverse (by decide)
  have hrows : (KeyBuffer.row [.row [], .row []]).HasShape [2, 0] := by
    refine .row (by simp) fun b hb => ?_
    obtain rfl : b = .row [] := by simpa using hb
    exact .nil
  obtain ⟨hrefused, hmessage, -⟩ := hshape _ _ hrows (by decide)
  exact ⟨hsession, (hkeypad 0).trans (by decide), (hkeypad 3).trans (by decide),
    hkey 16 true (by decide), (hshape _ _ (.entry true) (by decide)).1, hrefused,
    hmessage.trans (by decide)⟩

end Session

end ChipEight
