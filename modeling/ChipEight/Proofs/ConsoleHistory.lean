import ChipEight.Console
import Mathlib.Data.List.Basic
import Mathlib.Data.List.Flatten
import Mathlib.Data.List.Induction

/-!
# What a console goes through

A host calls a console to set its threshold and to show messages, in any order and at any
times, and a call that is refused leaves the console as it was.  Names of levels are put into
capitals when the threshold is set, and taken as they are when a message is shown.

What is proved here:

* **names** — `Level.ofName?_eq_some_iff`, `Level.ofName?_eq_none_iff`: which texts are levels;
* **one call** — `respond_write`, `respond_log_of_name`, `respond_setLevel_of_name` and their
  refusals; `console_respond`: the threshold is all that changes;
* **many calls** — `after_eq`: the threshold is the one chosen last;
* **a run of messages** — `printed_raised`, `refused_raised`: a higher threshold leaves out the
  records below it, and refuses what the lower one does;
* **the whole** — `history_decides`.
-/

namespace ChipEight

/-! ## Names -/

namespace Level

/-- The five names. -/
def names : List String := all.map name

theorem mem_all (l : Level) : l ∈ all := by
  cases l <;> decide

theorem name_mem_names (l : Level) : l.name ∈ names := List.mem_map_of_mem (mem_all l)

/-- **Names** are taken as they are. -/
theorem ofName?_eq_some_iff {s : String} {l : Level} : ofName? s = some l ↔ s = l.name := by
  constructor
  · intro h
    have hname := List.find?_some h
    exact (beq_iff_eq.1 hname).symm
  · rintro rfl
    exact ofName?_name l

theorem ofName?_eq_none_iff {s : String} : ofName? s = none ↔ s ∉ names := by
  constructor
  · intro h hmem
    obtain ⟨l, -, rfl⟩ := List.mem_map.1 hmem
    rw [ofName?_name] at h
    cases h
  · intro h
    cases hlevel : ofName? s with
    | none => rfl
    | some l => exact absurd (ofName?_eq_some_iff.1 hlevel ▸ name_mem_names l) h

theorem name_inj {l l' : Level} : l.name = l'.name ↔ l = l' := by
  rw [← ofName?_eq_some_iff, ofName?_name, Option.some.injEq]

end Level

namespace Console

open Text (Uppercase.map)

/-! ## Calls -/

/-- A call of a host on a console. -/
inductive Call where
  | setLevel (name : String)
  /-- Show a record, whose level is one of the five. -/
  | write (record : Record)
  /-- Show a message under a level given by its name. -/
  | log (level message : String)

namespace Call

/-- Whether a call shows a message. -/
def isMessage : Call → Bool
  | .setLevel _ => false
  | _ => true

/-- The name that a call sets the threshold to, unless it is refused. -/
def chosen? : Call → Option String
  | .setLevel name => if Uppercase.map name ∈ Level.names then some (Uppercase.map name) else none
  | _ => none

/-- Whether a call shows a message under a level from `l` on. -/
def isFrom (l : Level) : Call → Bool
  | .setLevel _ => false
  | .write record => l.rank ≤ record.level.rank
  | .log level _ => (Level.ofName? level).any fun l' => l.rank ≤ l'.rank

end Call

/-- What a call gives. -/
structure Answer where
  console : Console
  /-- The text of every record printed. -/
  printed : List String := []
  refusal : Option ConsoleError := none

/-- What a message gives, of which the text is empty if it is not shown. -/
def answer (c : Console) : Except ConsoleError String → Answer
  | .ok text => { console := c, printed := if text = "" then [] else [text] }
  | .error e => { console := c, refusal := some e }

/-- What a call gives at a time. -/
def respond (c : Console) (now : Float) : Call → Answer
  | .setLevel name =>
    match c.setLevel name with
    | .ok c' => { console := c' }
    | .error e => { console := c, refusal := some e }
  | .write record => c.answer (c.write now record)
  | .log level message => c.answer (c.log now level message)

/-- Calls and the times when they are made. -/
abbrev History := List (Float × Call)

/-- The console after a history, refused calls included. -/
def after (c : Console) (history : History) : Console :=
  history.foldl (fun c e => (c.respond e.1 e.2).console) c

/-- A part of all answers in a history, in order. -/
def collect {α : Type} (part : Answer → List α) (c : Console) : History → List α
  | [] => []
  | (now, call) :: rest =>
    let a := c.respond now call
    part a ++ a.console.collect part rest

/-- The texts of the records printed in a history, in order. -/
def printed (c : Console) (history : History) : List String := c.collect Answer.printed history

/-- The reasons of the calls refused in a history, in order. -/
def refused (c : Console) (history : History) : List ConsoleError :=
  c.collect (fun a => a.refusal.toList) history

/-- The name that a history sets the threshold to at last. -/
def lastChosen? (history : History) : Option String := history.reverse.findSome? (·.2.chosen?)

/-- A level as a console shows it that has a colour for it: its name, filled up to eight
characters on the left, in brackets. -/
def badgeText (c : Console) (l : Level) : String :=
  let brackets := "[" ++ String.ofList (l.name.toList.leftpad 8 ' ') ++ "]"
  if c.coloured then l.colour?.getD "" ++ brackets ++ "\x1b[0m" else brackets

variable {c : Console} {now : Float} {call : Call}

/-! ## One call -/

theorem badge_eq (c : Console) (l : Level) :
    c.badge l = if c.coloured = true ∧ l = .critical then .error (.colourless .critical)
      else .ok (c.badgeText l) := by
  have htext : c.badgeText l
      = if c.coloured then l.colour?.getD "" ++ bracket l ++ resetColour else bracket l := rfl
  rw [badge, htext]
  cases hcoloured : c.coloured with
  | false => simp
  | true => cases l <;> simp [Level.colour?]

theorem line_ne_empty (badge message : String) : c.line now badge message ≠ "" := by
  intro h
  have hlength := congrArg String.length h
  simp [line, String.length_append] at hlength

/-- **One call**: a record. -/
theorem respond_write (c : Console) (now : Float) (r : Record) :
    c.respond now (.write r) =
      if c.threshold.rank ≤ r.level.rank then
        if c.coloured = true ∧ r.level = .critical then
          { console := c, refusal := some (.colourless .critical) }
        else
          { console := c, printed := [c.line now (c.badgeText r.level) r.message] }
      else { console := c } := by
  rw [respond, write, badge_eq]
  by_cases hrank : c.threshold.rank ≤ r.level.rank
  · rw [if_pos (by simpa [admits] using hrank), if_pos hrank]
    by_cases hbadge : c.coloured = true ∧ r.level = .critical
    · rw [if_pos hbadge, if_pos hbadge]
      rfl
    · rw [if_neg hbadge, if_neg hbadge]
      show { console := c, printed := if c.line _ _ _ = "" then _ else _ : Answer } = _
      rw [if_neg (line_ne_empty _ _)]
  · rw [if_neg (by simpa [admits] using hrank), if_neg hrank]
    rfl

/-- **One call**: a message under the name of a level. -/
theorem respond_log_of_name (c : Console) (now : Float) (l : Level) (message : String) :
    c.respond now (.log l.name message) = c.respond now (.write ⟨l, message⟩) := by
  rw [respond, respond, log, Level.ofName?_name]

theorem respond_log_of_notMem {level : String} (h : level ∉ Level.names) (c : Console)
    (now : Float) (message : String) :
    c.respond now (.log level message) = { console := c, refusal := some (.notALevel level) } := by
  rw [respond, log, Level.ofName?_eq_none_iff.2 h]
  rfl

theorem setLevel_of_name {name : String} {l : Level} (h : Uppercase.map name = l.name)
    (c : Console) : c.setLevel name = .ok { c with threshold := l } := by
  simp only [setLevel, Level.ofName?_eq_some_iff.2 h]

theorem setLevel_of_notMem {name : String} (h : Uppercase.map name ∉ Level.names) (c : Console) :
    c.setLevel name = .error (.unknownLevel (Uppercase.map name)) := by
  simp only [setLevel, Level.ofName?_eq_none_iff.2 h]

/-- **One call**: the threshold. -/
theorem respond_setLevel_of_name {name : String} {l : Level} (h : Uppercase.map name = l.name)
    (c : Console) (now : Float) :
    c.respond now (.setLevel name) = { console := { c with threshold := l } } := by
  rw [respond, setLevel_of_name h]

theorem respond_setLevel_of_notMem {name : String} (h : Uppercase.map name ∉ Level.names)
    (c : Console) (now : Float) :
    c.respond now (.setLevel name)
      = { console := c, refusal := some (.unknownLevel (Uppercase.map name)) } := by
  rw [respond, setLevel_of_notMem h]

/-- A message is shown as a record of its level, or refused for want of one, on every console. -/
theorem respond_of_isMessage (h : call.isMessage = true) (now : Float) :
    (∃ r, (∀ c : Console, c.respond now call = c.respond now (.write r)) ∧
        ∀ l, call.isFrom l = decide (l.rank ≤ r.level.rank)) ∨
      ∃ e, (∀ c : Console, c.respond now call = { console := c, refusal := some e }) ∧
        ∀ l, call.isFrom l = false := by
  cases call with
  | setLevel name => cases h
  | write r => exact .inl ⟨r, fun c => rfl, fun l => rfl⟩
  | log level message =>
    cases hlevel : Level.ofName? level with
    | none =>
      refine .inr ⟨_, fun c => respond_log_of_notMem (Level.ofName?_eq_none_iff.1 hlevel) c now
        message, fun l => ?_⟩
      simp [Call.isFrom, hlevel]
    | some l' =>
      obtain rfl := Level.ofName?_eq_some_iff.1 hlevel
      refine .inl ⟨⟨l', message⟩, fun c => c.respond_log_of_name now l' message, fun l => ?_⟩
      simp [Call.isFrom]

theorem console_of_isMessage (h : call.isMessage = true) (c : Console) (now : Float) :
    (c.respond now call).console = c := by
  rcases respond_of_isMessage h now with ⟨r, hwrite, -⟩ | ⟨e, hrefused, -⟩
  · rw [hwrite, respond_write]
    split
    · split <;> rfl
    · rfl
  · rw [hrefused]

/-- **One call** changes the threshold at most, and to the level that it chooses. -/
theorem console_respond (c : Console) (now : Float) (call : Call) :
    ∃ l : Level, (c.respond now call).console = { c with threshold := l } ∧
      l.name = call.chosen?.getD c.threshold.name := by
  cases call with
  | setLevel name =>
    by_cases hname : Uppercase.map name ∈ Level.names
    · obtain ⟨l, -, hl⟩ := List.mem_map.1 hname
      refine ⟨l, by rw [respond_setLevel_of_name hl.symm], ?_⟩
      rw [Call.chosen?, if_pos hname]
      exact hl
    · refine ⟨c.threshold, by rw [respond_setLevel_of_notMem hname], ?_⟩
      rw [Call.chosen?, if_neg hname]
      rfl
  | write record => exact ⟨c.threshold, console_of_isMessage rfl c now, rfl⟩
  | log level message => exact ⟨c.threshold, console_of_isMessage rfl c now, rfl⟩

/-! ## Many calls -/

theorem after_append_singleton (c : Console) (history : History) (e : Float × Call) :
    c.after (history ++ [e]) = ((c.after history).respond e.1 e.2).console := by
  rw [after, List.foldl_append]
  rfl

theorem lastChosen?_append_singleton (history : History) (e : Float × Call) :
    lastChosen? (history ++ [e]) = e.2.chosen?.or (lastChosen? history) := by
  rw [lastChosen?, List.reverse_append, List.reverse_singleton, List.singleton_append,
    List.findSome?_cons, lastChosen?]
  cases e.2.chosen? <;> rfl

/-- **Many calls** change the threshold at most, and to the level chosen last.  The induction is
on the calls from the last, which is the one that decides. -/
theorem after_eq (c : Console) (history : History) :
    ∃ l : Level, c.after history = { c with threshold := l } ∧
      l.name = (lastChosen? history).getD c.threshold.name := by
  induction history using List.reverseRecOn with
  | nil => exact ⟨c.threshold, rfl, rfl⟩
  | append_singleton history e ih =>
    obtain ⟨l, hafter, hname⟩ := ih
    obtain ⟨l', hrespond, hname'⟩ := (c.after history).console_respond e.1 e.2
    refine ⟨l', ?_, ?_⟩
    · rw [after_append_singleton, hrespond, hafter]
    · rw [hname', hafter, hname, lastChosen?_append_singleton]
      cases e.2.chosen? <;> rfl

/-! ## A run of messages -/

section

variable {run : History} {l : Level}

/-- Messages do not change the console, so that each is answered as if it were the only one. -/
theorem collect_of_messages {α : Type} (part : Answer → List α)
    (h : ∀ e ∈ run, e.2.isMessage = true) (c : Console) :
    c.collect part run = run.flatMap fun e => part (c.respond e.1 e.2) := by
  induction run with
  | nil => rfl
  | cons e rest ih =>
    rw [collect, List.flatMap_cons, console_of_isMessage (h e List.mem_cons_self),
      ih fun e' he' => h e' (List.mem_cons_of_mem _ he')]

theorem rank_le_critical (l : Level) : l.rank ≤ Level.critical.rank := by
  cases l <;> decide

/-- A message on a console with a higher threshold: what is below is not printed, and the same
messages are refused. -/
theorem respond_raised (hcall : call.isMessage = true) (hl : c.threshold.rank ≤ l.rank)
    (now : Float) :
    ({ c with threshold := l }.respond now call).printed
        = (if call.isFrom l then (c.respond now call).printed else []) ∧
      ({ c with threshold := l }.respond now call).refusal = (c.respond now call).refusal := by
  rcases respond_of_isMessage hcall now with ⟨r, hwrite, hfrom⟩ | ⟨e, hrefused, hfrom⟩
  · rw [hwrite, hwrite, hfrom, respond_write, respond_write]
    by_cases hrank : l.rank ≤ r.level.rank
    · have hlow : c.threshold.rank ≤ r.level.rank := Nat.le_trans hl hrank
      rw [if_pos hrank, if_pos hlow, if_pos (decide_eq_true hrank)]
      by_cases hbadge : c.coloured = true ∧ r.level = .critical
      · rw [if_pos hbadge, if_pos hbadge]
        exact ⟨rfl, rfl⟩
      · rw [if_neg hbadge, if_neg hbadge]
        exact ⟨rfl, rfl⟩
    · -- what is left out is not of the highest level, which alone can be refused
      have hbadge : ¬ (c.coloured = true ∧ r.level = .critical) := by
        rintro ⟨-, hcritical⟩
        exact hrank (hcritical ▸ rank_le_critical l)
      rw [if_neg hrank, if_neg hbadge, if_neg (by simpa using hrank)]
      refine ⟨rfl, ?_⟩
      split <;> rfl
  · rw [hrefused, hrefused, hfrom]
    exact ⟨rfl, rfl⟩

/-- **A run of messages** on a console with a higher threshold. -/
theorem printed_raised (hrun : ∀ e ∈ run, e.2.isMessage = true) (hl : c.threshold.rank ≤ l.rank) :
    { c with threshold := l }.printed run = c.printed (run.filter fun e => e.2.isFrom l) := by
  have hfiltered (e : Float × Call) (he : e ∈ run.filter fun e => e.2.isFrom l) :
      e.2.isMessage = true := hrun e (List.mem_filter.1 he).1
  rw [printed, printed, collect_of_messages _ hrun, collect_of_messages _ hfiltered]
  clear hfiltered
  induction run with
  | nil => rw [List.filter_nil, List.flatMap_nil, List.flatMap_nil]
  | cons e rest ih =>
    rw [List.flatMap_cons, ih fun e' he' => hrun e' (List.mem_cons_of_mem _ he'),
      (respond_raised (hrun e List.mem_cons_self) hl e.1).1, List.filter_cons]
    cases e.2.isFrom l with
    | true => rw [if_pos rfl, if_pos rfl, List.flatMap_cons]
    | false => rw [if_neg Bool.false_ne_true, if_neg Bool.false_ne_true, List.nil_append]

theorem sublist_printed_raised (hrun : ∀ e ∈ run, e.2.isMessage = true)
    (hl : c.threshold.rank ≤ l.rank) :
    ({ c with threshold := l }.printed run).Sublist (c.printed run) := by
  rw [printed, printed, collect_of_messages _ hrun, collect_of_messages _ hrun]
  refine List.Sublist.flatMap_right run fun e he => ?_
  rw [(respond_raised (hrun e he) hl e.1).1]
  split
  · exact List.Sublist.refl _
  · exact List.nil_sublist _

theorem refused_raised (hrun : ∀ e ∈ run, e.2.isMessage = true) (hl : c.threshold.rank ≤ l.rank) :
    { c with threshold := l }.refused run = c.refused run := by
  rw [refused, refused, collect_of_messages _ hrun, collect_of_messages _ hrun]
  exact List.flatMap_congr fun e he => by rw [(respond_raised (hrun e he) hl e.1).2]

end

/-! ## The whole -/

/-- **The history decides.**  A console is opened with a threshold by a name that is a level in
capitals, and with no other.  Whatever it is called for then, its threshold is what the last call
that was granted chose, or else the first one.  A call that sets the threshold is refused just if
its name is no level in capitals.  A message under a name that is no level as it stands is refused;
under the name of a level it is printed as one record if the level is at least the threshold, and
otherwise not; only the highest level is refused where levels are shown in colour.  What is
refused prints nothing and changes nothing.  On a console with a higher threshold a run of
messages prints the records from it on, in their order, and the same messages are refused. -/
theorem history_decides (name level : String) (coloured : Bool) (opened : Float) :
    (Uppercase.map level ∉ Level.names →
      start name level coloured opened = .error (.unknownLevel (Uppercase.map level))) ∧
    (Uppercase.map level ∈ Level.names →
      ∃ c, start name level coloured opened = .ok c ∧ ∀ history : History,
        let d := c.after history
        (d.name = name ∧ d.coloured = coloured ∧ d.opened = opened ∧
          d.threshold.name = (lastChosen? history).getD (Uppercase.map level) ∧
          d.threshold.name ∈ Level.names) ∧
        (∀ now spelled,
          (Uppercase.map spelled ∉ Level.names → d.respond now (.setLevel spelled) =
            { console := d, printed := []
              refusal := some (.unknownLevel (Uppercase.map spelled)) }) ∧
          ∀ l : Level, Uppercase.map spelled = l.name → d.respond now (.setLevel spelled) =
            { console := { d with threshold := l }, printed := [], refusal := none }) ∧
        (∀ now spelled message, spelled ∉ Level.names → d.respond now (.log spelled message) =
          { console := d, printed := [], refusal := some (.notALevel spelled) }) ∧
        (∀ now (l : Level) message,
          d.respond now (.write ⟨l, message⟩) = d.respond now (.log l.name message) ∧
          (l.rank < d.threshold.rank → d.respond now (.log l.name message) =
            { console := d, printed := [], refusal := none }) ∧
          (coloured = true → l = .critical → d.respond now (.log l.name message) =
            { console := d, printed := [], refusal := some (.colourless .critical) }) ∧
          (d.threshold.rank ≤ l.rank → ¬ (coloured = true ∧ l = .critical) →
            d.respond now (.log l.name message) =
              { console := d
                printed := ["[" ++ elapsedFormat.text (now - opened) ++ "s]" ++ d.badgeText l
                  ++ "[" ++ name ++ "] " ++ message ++ "\n"]
                refusal := none })) ∧
        ∀ (l : Level) (run : History), d.threshold.rank ≤ l.rank →
          (∀ e ∈ run, e.2.isMessage = true) →
          let raised := { d with threshold := l }
          raised.printed run = d.printed (run.filter fun e => e.2.isFrom l) ∧
            (raised.printed run).Sublist (d.printed run) ∧
            raised.refused run = d.refused run) := by
  refine ⟨fun hlevel => setLevel_of_notMem hlevel _, fun hlevel => ?_⟩
  obtain ⟨first, -, hfirst⟩ := List.mem_map.1 hlevel
  refine ⟨_, setLevel_of_name hfirst.symm _, fun history => ?_⟩
  intro d
  obtain ⟨last, hafter, hlast⟩ := after_eq
    { name := name, coloured := coloured, opened := opened, threshold := first } history
  have hd : d = { name := name, coloured := coloured, opened := opened, threshold := last } :=
    hafter
  have hcoloured : d.coloured = coloured := by rw [hd]
  refine ⟨⟨by rw [hd], hcoloured, by rw [hd], ?_, d.threshold.name_mem_names⟩,
    fun now spelled => ⟨fun h => respond_setLevel_of_notMem h d now,
      fun l hl => respond_setLevel_of_name hl d now⟩,
    fun now spelled message h => respond_log_of_notMem h d now message,
    fun now l message => ⟨(respond_log_of_name d now l message).symm, ?_, ?_, ?_⟩,
    fun l run hl hrun =>
      ⟨printed_raised hrun hl, sublist_printed_raised hrun hl, refused_raised hrun hl⟩⟩
  · rw [hd, ← hfirst]
    exact hlast
  · intro hrank
    rw [respond_log_of_name, respond_write, if_neg (by show ¬ _ ≤ l.rank; omega)]
  · rintro hc rfl
    rw [respond_log_of_name, respond_write, if_pos (rank_le_critical _),
      if_pos ⟨hcoloured.trans hc, rfl⟩]
  · intro hrank hbadge
    rw [respond_log_of_name, respond_write, if_pos hrank, if_neg (by rwa [hcoloured]), line, hd]

/-- A console with colours on which the threshold is set twice to no level and once to one, in
other letters: then a message below the threshold, one at it, one under a name in small letters
and one of the highest level; and two messages after the threshold is raised, of which one is
printed, but not the other. -/
theorem history_decides_mixed :
    let history : History := [(1, .setLevel "loud"), (2, .write ⟨.info, "on"⟩),
      (3, .setLevel "Warnıng"), (4, .log "error" "off"), (5, .setLevel "verbose")]
    let run : History := [(7, .log "WARNING" "low"), (8, .write ⟨.error, "high"⟩)]
    ∃ c, start "chipjax" "info" true 0 = .ok c ∧
      let d := c.after history
      d.threshold = .warning ∧
        (d.respond 6 (.log "INFO" "on")).printed = [] ∧
        (d.respond 6 (.log "ERROR" "off")).printed
          = ["[" ++ elapsedFormat.text (6 - 0) ++ "s]\x1b[31m[   ERROR]\x1b[0m[chipjax] off\n"] ∧
        (d.respond 6 (.log "error" "off")).refusal = some (.notALevel "error") ∧
        (d.respond 6 (.log "CRITICAL" "off")).refusal = some (.colourless .critical) ∧
        { d with threshold := .error }.printed run = d.printed [(8, .write ⟨.error, "high"⟩)] := by
  intro history run
  obtain ⟨c, hstart, hhistory⟩ := (history_decides "chipjax" "info" true 0).2 (by decide)
  refine ⟨c, hstart, ?_⟩
  intro d
  obtain ⟨⟨-, hcoloured, -, hname, -⟩, -, hunknown, hlog, hraised⟩ := hhistory history
  have hthreshold : d.threshold = .warning := Level.name_inj.1 (hname.trans (by decide))
  have hrank : d.threshold.rank = 2 := congrArg Level.rank hthreshold
  obtain ⟨-, hbelow, -, -⟩ := hlog 6 .info "on"
  obtain ⟨-, -, -, hshown⟩ := hlog 6 .error "off"
  obtain ⟨-, -, hcolourless, -⟩ := hlog 6 .critical "off"
  have hbadge : d.badgeText .error = "\x1b[31m[   ERROR]\x1b[0m" := by
    rw [badgeText, show d.coloured = true from hcoloured]
    decide
  have hbehind : "s]" ++ ("\x1b[31m[   ERROR]\x1b[0m" ++ ("[" ++ ("chipjax" ++ ("] " ++ ("off"
      ++ "\n"))))) = "s]\x1b[31m[   ERROR]\x1b[0m[chipjax] off\n" := by
    decide
  refine ⟨hthreshold, ?_, ?_, ?_, ?_, ?_⟩
  · rw [show d.respond 6 (.log "INFO" "on") = _ from hbelow (by rw [hrank]; decide)]
  · rw [show d.respond 6 (.log "ERROR" "off") = _ from hshown (by rw [hrank]; decide) (by decide)]
    show ["[" ++ elapsedFormat.text (6 - 0) ++ "s]" ++ d.badgeText .error ++ "[" ++ "chipjax"
      ++ "] " ++ "off" ++ "\n"] = _
    simp only [hbadge, String.append_assoc, hbehind]
  · rw [hunknown 6 "error" "off" (by decide)]
  · rw [show d.respond 6 (.log "CRITICAL" "off") = _ from hcolourless rfl rfl]
  · exact (hraised .error run (by rw [hrank]; decide) (by simp [run, Call.isMessage])).1

end Console

end ChipEight
