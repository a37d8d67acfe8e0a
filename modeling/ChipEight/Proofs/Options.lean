import ChipEight.CommandLine.Arguments
import Mathlib.Data.List.Basic

/-!
# The level on the command line

The level of the console is one setting among others: it takes part in nothing else that
the arguments are read for.  A command line that is accepted with one level is accepted
with any other, and all other settings are the same.

What is proved here:

* **one token** — `read_operand`, `read_separator` and `read_switch_none`: what reading does
  with the tokens that are looked behind;
* **in front of the switch** — `read_append_switch`: what stands there is read without
  looking at the switch;
* **behind the switch** — `read_setLevel`: another level beforehand is another level
  afterwards, unless a later switch gives one;
* **behind a separator** — `extras_of_separator`: there is no switch, and too many
  arguments;
* **command lines** — `ofArguments_of_level`.
-/

namespace ChipEight.CommandLine

/-! ## One token -/

namespace Token

/-- Tokens without the separator in front of them. -/
def pastSeparator : List Token → List Token
  | .separator :: rest => rest
  | ts => ts

/-- The operand in front of other tokens, if there is one. -/
def operandFirst? : List Token → Option (String × List Token)
  | .operand text :: rest => some (text, rest)
  | _ => none

variable {ts rest : List Token} {t : Token}

theorem pastSeparator_of_ne (h : ∀ rest, ts = .separator :: rest → False) :
    pastSeparator ts = ts := by
  cases ts with
  | nil => rfl
  | cons t ts =>
    cases t with
    | separator => exact (h ts rfl).elim
    | _ => rfl

theorem operandFirst?_of_ne (h : ∀ text rest, ts = .operand text :: rest → False) :
    operandFirst? ts = none := by
  cases ts with
  | nil => rfl
  | cons t ts =>
    cases t with
    | operand text => exact (h text ts rfl).elim
    | _ => rfl

theorem pastSeparator_append_of_ne (h : ∀ rest, ts = .separator :: rest → False)
    (ht : t ≠ .separator) : pastSeparator (ts ++ t :: rest) = ts ++ t :: rest := by
  refine pastSeparator_of_ne fun rest' heq => ?_
  cases ts with
  | nil => exact ht (List.cons.inj heq).1
  | cons u ts =>
    obtain ⟨rfl, -⟩ := List.cons.inj heq
    exact h ts rfl

theorem operandFirst?_append_of_ne (h : ∀ text rest, ts = .operand text :: rest → False)
    (ht : ∀ text, t ≠ .operand text) : operandFirst? (ts ++ t :: rest) = none := by
  refine operandFirst?_of_ne fun text rest' heq => ?_
  cases ts with
  | nil => exact ht text (List.cons.inj heq).1
  | cons u ts =>
    obtain ⟨rfl, -⟩ := List.cons.inj heq
    exact h text ts rfl

end Token

namespace Draft

open Token

variable {d d' : Draft} {ts rest : List Token} {level : Option Level}

theorem read_operand (d : Draft) (text : String) (rest : List Token) :
    d.read (.operand text :: rest) =
      if d.program.isNone then (d.named text).read (pastSeparator rest)
      else (d.extra text).read rest := by
  cases rest with
  | nil => simp [read, pastSeparator]
  | cons t rest => cases t <;> simp [read, pastSeparator]

theorem read_separator (d : Draft) (rest : List Token) :
    d.read (.separator :: rest) =
      match d.program, operandFirst? rest with
      | none, some (text, rest) => (d.named text).read rest
      | _, _ => (d.extra "--").read rest := by
  cases hp : d.program <;> cases rest with
  | nil => simp [read, operandFirst?]
  | cons t rest => cases t <;> simp [read, operandFirst?, hp]

theorem read_switch_none (d : Draft) (s : Switch) (rest : List Token) :
    d.read (.switch s none :: rest) =
      if s.takesValue then
        match operandFirst? rest with
        | some (value, rest) => d.assign s value >>= (read · rest)
        | none => .error (.usage (.missingValue s))
      else d.turnOn s >>= (read · rest) := by
  cases rest with
  | nil => simp [read, operandFirst?]
  | cons t rest => cases t <;> simp [read, operandFirst?]

/-! ## In front of the switch -/

/-- **What stands in front of a switch** is read without looking at it: a switch is
neither the value of another nor next to the name of the program. -/
theorem read_append_switch (d : Draft) (ts : List Token) (s : Switch) (v : Option String)
    (rest : List Token) :
    d.read (ts ++ .switch s v :: rest) = d.read ts >>= (read · (.switch s v :: rest)) := by
  fun_induction Draft.read d ts with
  | case1 d => rfl
  | case2 d text h ts ih => simpa [read_operand, h, pastSeparator] using ih
  | case3 d text h ts hts ih =>
    simpa [read_operand, h, pastSeparator_append_of_ne hts] using ih
  | case4 d text ts h ih => simpa [read_operand, h] using ih
  | case5 d h text ts ih =>
    rw [Option.isNone_iff_eq_none] at h
    simpa [read_separator, h, operandFirst?] using ih
  | case6 d h ts hts ih =>
    rw [Option.isNone_iff_eq_none] at h
    simpa [read_separator, h, operandFirst?_append_of_ne hts] using ih
  | case7 d ts h ih =>
    rw [Option.isNone_iff_eq_none] at h
    simpa [read_separator, h] using ih
  | case8 d text ts ih => exact ih
  | case9 d letters ts => rfl
  | case10 d s' value ts ih => simp [read, ih]
  | case11 d s' h value ts ih => simp [read_switch_none, h, operandFirst?, ih]
  | case12 d s' h ts hts =>
    rw [List.cons_append, read_switch_none, if_pos h, operandFirst?_append_of_ne hts (by simp)]
    rfl
  | case13 d s' ts h ih => simp [read_switch_none, h, ih]

/-! ## Behind the switch -/

/-- The draft with another level. -/
def setLevel (d : Draft) (level : Option Level) : Draft :=
  { d with settings := { d.settings with level := level } }

/-- The draft with another level, unless one was said since. -/
def setLevelUnless (said : Bool) (level : Option Level) (d : Draft) : Draft :=
  if said then d else d.setLevel level

@[simp] theorem program_setLevel (d : Draft) : (d.setLevel level).program = d.program := rfl

@[simp] theorem named_setLevel (d : Draft) (text : String) :
    (d.setLevel level).named text = (d.named text).setLevel level := rfl

@[simp] theorem extra_setLevel (d : Draft) (text : String) :
    (d.setLevel level).extra text = (d.extra text).setLevel level := rfl

theorem turnOn_setLevel (d : Draft) (s : Switch) :
    (d.setLevel level).turnOn s = (d.turnOn s).map (·.setLevel level) := by
  cases s <;> rfl

/-- The values of other switches are used as before. -/
theorem assign_setLevel (d : Draft) {s : Switch} (h : s ≠ .logLevel) (text : String) :
    (d.setLevel level).assign s text = (d.assign s text).map (·.setLevel level) := by
  cases s with
  | logLevel => exact absurd rfl h
  | cycles =>
    rw [assign, assign]
    cases value Text.Numeral.read? (.notAnInteger .cycles text) text <;> rfl
  | seed =>
    rw [assign, assign]
    cases value Text.Numeral.read? (.notAnInteger .seed text) text <;> rfl
  | _ => rfl

/-- The same switch again takes its place. -/
theorem assign_logLevel_setLevel (d : Draft) (text : String) :
    (d.setLevel level).assign .logLevel text = d.assign .logLevel text := rfl

/-- The name of a level is its value. -/
theorem assign_name (d : Draft) (l : Level) :
    d.assign .logLevel l.name = .ok (d.setLevel (some l)) := by
  cases l <;> rfl

end Draft

/-- Whether a token gives the level of the console. -/
def Token.saysLevel : Token → Bool
  | .switch .logLevel _ => true
  | _ => false

namespace Draft

open Token

variable {d d' : Draft} {ts rest : List Token} {level : Option Level}

/-- A switch with its value, and the tokens behind it. -/
theorem assign_read_setLevel
    (ih : ∀ next : Draft, (next.setLevel level).read ts
      = (next.read ts).map (setLevelUnless (ts.any saysLevel) level))
    (d : Draft) (s : Switch) (text : String) (v : Option String) :
    ((d.setLevel level).assign s text >>= (read · ts))
      = (d.assign s text >>= (read · ts)).map
          (setLevelUnless (saysLevel (.switch s v) || ts.any saysLevel) level) := by
  by_cases hs : s = .logLevel
  · subst hs
    have hid : setLevelUnless (saysLevel (.switch .logLevel v) || ts.any saysLevel) level = id :=
      rfl
    rw [assign_logLevel_setLevel, hid, Except.map_id]
    rfl
  · have hsilent : saysLevel (.switch s v) = false := by
      cases s <;> first | rfl | exact absurd rfl hs
    rw [assign_setLevel d hs, hsilent, Bool.false_or]
    cases d.assign s text with
    | error e => rfl
    | ok next => exact ih next

/-- **Another level beforehand** is another level afterwards, unless one of the tokens
gives one.  The induction follows the reading. -/
theorem read_setLevel (d : Draft) (ts : List Token) (level : Option Level) :
    (d.setLevel level).read ts =
      (d.read ts).map (setLevelUnless (ts.any saysLevel) level) := by
  fun_induction Draft.read d ts with
  | case1 d => rfl
  | case2 d text h ts ih => simpa [read_operand, h, pastSeparator, saysLevel] using ih
  | case3 d text h ts hts ih =>
    simpa [read_operand, h, pastSeparator_of_ne hts, saysLevel] using ih
  | case4 d text ts h ih => simpa [read_operand, h, saysLevel] using ih
  | case5 d h text ts ih =>
    rw [Option.isNone_iff_eq_none] at h
    simpa [read_separator, h, operandFirst?, saysLevel] using ih
  | case6 d h ts hts ih =>
    rw [Option.isNone_iff_eq_none] at h
    simpa [read_separator, h, operandFirst?_of_ne hts, saysLevel] using ih
  | case7 d ts h ih =>
    rw [Option.isNone_iff_eq_none] at h
    simpa [read_separator, h, saysLevel] using ih
  | case8 d text ts ih => exact ih
  | case9 d letters ts => rfl
  | case10 d s value ts ih => exact assign_read_setLevel ih d s value _
  | case11 d s h value ts ih =>
    rw [read_switch_none, if_pos h]
    exact assign_read_setLevel ih d s value none
  | case12 d s h ts hts =>
    rw [read_switch_none, if_pos h, operandFirst?_of_ne hts]
    rfl
  | case13 d s ts h ih =>
    have hsilent : saysLevel (.switch s none) = false := by
      cases s <;> first | rfl | exact absurd rfl h
    rw [read_switch_none, if_neg h, turnOn_setLevel, List.any_cons, hsilent, Bool.false_or]
    cases d.turnOn s with
    | error e => rfl
    | ok next => exact ih next

/-- The switch itself, with the name of a level. -/
theorem read_level (d : Draft) (l : Level) (ts : List Token) :
    d.read (.switch .logLevel none :: .operand l.name :: ts) =
      (d.read ts).map (setLevelUnless (ts.any saysLevel) (some l)) := by
  have htakes : Switch.logLevel.takesValue = true := rfl
  rw [← read_setLevel, read_switch_none, if_pos htakes]
  simp only [operandFirst?, assign_name]
  rfl

theorem finish_setLevelUnless (said : Bool) (level : Option Level) (d : Draft) :
    (setLevelUnless said level d).finish =
      d.finish.map fun s => if said then s else { s with level := level } := by
  obtain ⟨program, settings, extras⟩ := d
  cases said <;> cases program <;> cases extras <;> rfl

/-! ## Behind a separator -/

theorem bind_eq_ok {α : Type} {r : Except Stop Draft} {next : Draft → Except Stop α} {a : α}
    (h : r >>= next = .ok a) : ∃ d, r = .ok d ∧ next d = .ok a := by
  cases r with
  | error e => cases h
  | ok d => exact ⟨d, rfl, h⟩

/-- Once the program is named, operands are too many. -/
theorem extras_of_operands {texts : List String} (hd : d.program.isNone = false)
    (h : d.read (texts.map .operand) = .ok d') : d'.extras = d.extras ++ texts := by
  induction texts generalizing d with
  | nil =>
    obtain rfl : d = d' := Except.ok.inj h
    exact (List.append_nil _).symm
  | cons text texts ih =>
    rw [List.map_cons, read_operand, if_neg (by simp [hd])] at h
    have hextra : (d.extra text).program.isNone = false := hd
    rw [ih hextra h, extra, List.append_assoc, List.singleton_append]

/-- Of two operands behind a separator, one at most names the program. -/
theorem extras_of_separator_first {texts : List String} (htexts : 2 ≤ texts.length)
    (h : d.read (.separator :: texts.map .operand) = .ok d') : d'.extras ≠ [] := by
  cases texts with
  | nil => simp at htexts
  | cons text rest =>
    rw [read_separator] at h
    cases hd : d.program with
    | none =>
      rw [hd] at h
      have hnamed : (d.named text).program.isNone = false := rfl
      have hrest : rest ≠ [] := by
        rintro rfl
        simp at htexts
      rw [extras_of_operands hnamed h]
      simp [hrest]
    | some _ =>
      rw [hd] at h
      have hextra : (d.extra "--").program.isNone = false := by simp [extra, hd]
      have hall : (d.extra "--").read ((text :: rest).map .operand) = .ok d' := h
      rw [extras_of_operands hextra hall]
      simp

/-- **Two operands behind a separator** are one too many, whatever stands in front.  The
induction follows the reading of what stands in front. -/
theorem extras_of_separator {texts : List String} (htexts : 2 ≤ texts.length)
    (hread : d.read (ts ++ .separator :: texts.map .operand) = .ok d') : d'.extras ≠ [] := by
  fun_induction Draft.read d ts generalizing d' with
  | case1 d => exact extras_of_separator_first htexts hread
  | case2 d text h ts ih =>
    rw [List.cons_append, read_operand, if_pos h] at hread
    exact ih hread
  | case3 d text h ts hts ih =>
    rw [List.cons_append, read_operand, if_pos h] at hread
    cases ts with
    | nil =>
      -- the separator disappears behind the name, and all operands are left
      have hnamed : (d.named text).program.isNone = false := rfl
      have hsome : texts ≠ [] := by
        rintro rfl
        simp at htexts
      rw [extras_of_operands hnamed hread]
      simp [hsome]
    | cons t ts =>
      rw [pastSeparator_of_ne (by simpa using hts)] at hread
      exact ih hread
  | case4 d text ts h ih =>
    rw [List.cons_append, read_operand, if_neg h] at hread
    exact ih hread
  | case5 d h text ts ih =>
    rw [Option.isNone_iff_eq_none] at h
    rw [List.cons_append, read_separator, h] at hread
    exact ih hread
  | case6 d h ts hts ih =>
    rw [Option.isNone_iff_eq_none] at h
    rw [List.cons_append, read_separator, h, operandFirst?_append_of_ne hts (by simp)] at hread
    exact ih hread
  | case7 d ts h ih =>
    rw [List.cons_append, read_separator] at hread
    cases hd : d.program with
    | none => simp [hd] at h
    | some _ =>
      rw [hd] at hread
      exact ih hread
  | case8 d text ts ih => exact ih hread
  | case9 d letters ts => cases hread
  | case10 d s value ts ih =>
    rw [List.cons_append, read] at hread
    obtain ⟨next, -, hrest⟩ := bind_eq_ok hread
    exact ih next hrest
  | case11 d s h value ts ih =>
    rw [List.cons_append, read_switch_none, if_pos h] at hread
    simp only [List.cons_append, operandFirst?] at hread
    obtain ⟨next, -, hrest⟩ := bind_eq_ok hread
    exact ih next hrest
  | case12 d s h ts hts =>
    rw [List.cons_append, read_switch_none, if_pos h,
      operandFirst?_append_of_ne hts (by simp)] at hread
    cases hread
  | case13 d s ts h ih =>
    rw [List.cons_append, read_switch_none, if_neg h] at hread
    obtain ⟨next, -, hrest⟩ := bind_eq_ok hread
    exact ih next hrest

/-- Arguments that are too many are not accepted. -/
theorem extras_of_finish {settings : Settings} (h : d.finish = .ok settings) : d.extras = [] := by
  rw [finish] at h
  split at h <;> first | assumption | cases h

end Draft

/-! ## Command lines -/

namespace Token

/-- Arguments in front of any separator are sorted one by one. -/
theorem ofArguments_append {before : List String} (h : "--" ∉ before) (rest : List String) :
    ofArguments (before ++ rest) = (do
      let ts ← ofArguments before
      let us ← ofArguments rest
      return ts ++ us) := by
  induction before with
  | nil => cases hrest : ofArguments rest <;> simp [ofArguments, hrest] <;> rfl
  | cons s before ih =>
    rw [List.mem_cons, not_or] at h
    obtain ⟨hs, hbefore⟩ := h
    rw [List.cons_append, ofArguments, ofArguments, if_neg (Ne.symm hs), if_neg (Ne.symm hs),
      ih hbefore]
    cases ofArgument s with
    | error e => rfl
    | ok t =>
      cases ofArguments before with
      | error e => rfl
      | ok ts => cases ofArguments rest <;> rfl

/-- The switch and the name of a level. -/
theorem ofArguments_level (l : Level) (after : List String) :
    ofArguments ("--log-level" :: l.name :: after) = (do
      let us ← ofArguments after
      return .switch .logLevel none :: .operand l.name :: us) := by
  have hswitch : ofArgument "--log-level" = .ok (.switch .logLevel none) := rfl
  have hvalue : ofArgument l.name = .ok (.operand l.name) := by cases l <;> rfl
  have hne : l.name ≠ "--" := by cases l <;> decide
  rw [ofArguments, if_neg (by decide), hswitch, ofArguments, if_neg hne, hvalue]
  cases ofArguments after <;> rfl

/-- Whether arguments give the level of the console. -/
def levelSaid (arguments : List String) : Bool :=
  match ofArguments arguments with
  | .ok ts => ts.any saysLevel
  | .error _ => false

end Token

namespace Settings

open Token

variable {before after : List String} {l : Level} {settings : Settings}

/-- **A level among other arguments** decides the level in the settings and nothing else,
and not even that if another one follows. -/
theorem ofArguments_level (h : "--" ∉ before) (after : List String) :
    ∃ r : Except Stop Settings, ∀ l : Level,
      ofArguments (before ++ "--log-level" :: l.name :: after) =
        r.map fun s => if levelSaid after then s else { s with level := some l } := by
  cases hbefore : Token.ofArguments before with
  | error e =>
    refine ⟨.error (.usage e), fun l => ?_⟩
    rw [ofArguments, ofArguments_append h, hbefore]
    rfl
  | ok ts =>
    cases hafter : Token.ofArguments after with
    | error e =>
      refine ⟨.error (.usage e), fun l => ?_⟩
      rw [ofArguments, ofArguments_append h, hbefore, Token.ofArguments_level, hafter]
      rfl
    | ok us =>
      refine ⟨Draft.read {} ts >>= (Draft.read · us) >>= Draft.finish, fun l => ?_⟩
      have htokens : Token.ofArguments (before ++ "--log-level" :: l.name :: after)
          = .ok (ts ++ .switch .logLevel none :: .operand l.name :: us) := by
        rw [ofArguments_append h, hbefore, Token.ofArguments_level, hafter]
        rfl
      rw [ofArguments, htokens, levelSaid, hafter]
      simp only [Draft.read_append_switch, Draft.read_level]
      cases Draft.read {} ts with
      | error e => rfl
      | ok d =>
        cases hread : d.read us with
        | error e => simp [bind, Except.bind, hread, Except.map]
        | ok d' =>
          simp only [bind, Except.bind, hread]
          exact d'.finish_setLevelUnless _ _

/-- No separator stands in front of two arguments that are accepted. -/
theorem separator_notMem {a b : String}
    (h : ofArguments (before ++ a :: b :: after) = .ok settings) : "--" ∉ before := by
  intro hmem
  obtain ⟨first, rest, rfl, hfirst⟩ := List.eq_append_cons_of_mem hmem
  have hlength : 2 ≤ (rest ++ a :: b :: after).length := by
    rw [List.length_append, List.length_cons, List.length_cons]
    omega
  rw [List.append_assoc, List.cons_append, ofArguments, ofArguments_append hfirst] at h
  cases hts : Token.ofArguments first with
  | error e =>
    rw [hts] at h
    cases h
  | ok ts =>
    have hrest : Token.ofArguments ("--" :: (rest ++ a :: b :: after))
        = .ok (.separator :: (rest ++ a :: b :: after).map .operand) := if_pos rfl
    rw [hts, hrest] at h
    obtain ⟨d, hread, hfinish⟩ := Draft.bind_eq_ok h
    exact Draft.extras_of_separator hlength hread (Draft.extras_of_finish hfinish)

/-- **Any level for any other.**  A command line that is accepted with one level is
accepted with every other, and gives the same settings but for the level. -/
theorem ofArguments_of_level
    (h : ofArguments (before ++ "--log-level" :: l.name :: after) = .ok settings) (l' : Level) :
    (levelSaid after = false → settings.level = some l) ∧
      ofArguments (before ++ "--log-level" :: l'.name :: after) =
        .ok (if levelSaid after then settings else { settings with level := some l' }) := by
  obtain ⟨r, hr⟩ := ofArguments_level (separator_notMem h) after
  rw [hr l] at h
  rw [hr l']
  cases r with
  | error e => cases h
  | ok s =>
    obtain rfl := Except.ok.inj h
    cases levelSaid after with
    | true => exact ⟨by simp, rfl⟩
    | false => exact ⟨fun _ => rfl, rfl⟩

end Settings

end ChipEight.CommandLine
