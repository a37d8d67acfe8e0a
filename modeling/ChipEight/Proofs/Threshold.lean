import ChipEight.Proofs.Headless
import ChipEight.Proofs.Options

/-!
# The threshold of the console

The console hides the lines below its threshold, and does nothing else: no request and no
run looks at the console, and what it shows does not come back.

What is proved here:

* **one request** — `Indifferent`: it gives the same on every console, of which each shows
  its part; `indifferent_perform`, for every request but the one that sets the threshold;
* **many requests** — `observed_others`: requests that set the threshold may stand
  anywhere among the others, which give the same;
* **cycles** — `drive_indifferent`, by induction on their number;
* **runs** — `run_indifferent`: the lines of a run, the dumps behind them and the way it
  ends are fixed before the console is chosen;
* **the level on the command line** — `level_only_filters`.
-/

namespace ChipEight

/-! ## One request -/

/-- Whether a request sets the threshold of the console. -/
def Action.setsLevel : Action → Bool
  | .setLevel _ => true
  | _ => false

/-- Requests without those that set the threshold. -/
def Action.others (actions : List Action) : List Action := actions.filter fun a => !a.setsLevel

namespace Session

/-- The session with another console. -/
def withConsole (s : Session) (c : Console) : Session := { s with console := c }

@[simp] theorem withConsole_withConsole (s : Session) (c c' : Console) :
    (s.withConsole c).withConsole c' = s.withConsole c' := rfl

/-- A request that does the same on every console, of which each shows its part of the
same lines. -/
def Indifferent (s : Session) (request : Session → Response) : Prop :=
  ∃ (s' : Session) (lines : List Record) (outcome : Except Refusal Reply), ∀ c,
    request (s.withConsole c) =
      { session := s'.withConsole c
        records := (s.withConsole c).shown lines
        outcome := outcome }

variable {s : Session} {a : Action} {c c' : Console}

theorem indifferent_update (s : Session) (r : Except Refusal Machine) :
    s.Indifferent (·.update r) := by
  cases r with
  | ok m => exact ⟨{ s with machine := m }, [], .ok .done, fun _ => rfl⟩
  | error reason => exact ⟨s, [], .error reason, fun _ => rfl⟩

theorem indifferent_repainting (s : Session) (m : Machine) : s.Indifferent (·.repainting m) :=
  ⟨{ s with machine := m.acknowledge }, [], .ok (.repaint m.redraw), fun _ => rfl⟩

/-- A request that runs the machine, if what it grants is. -/
theorem indifferent_conclude (o : Outcome) {granted : Session → Machine → Response}
    (h : ∀ m, s.Indifferent (granted · m)) : s.Indifferent fun s => s.conclude o (granted s) := by
  cases hresult : o.result with
  | error f =>
    refine ⟨s, o.notices.map Notice.record, .error (.fault f), fun c => ?_⟩
    show (s.withConsole c).conclude o (granted (s.withConsole c)) = _
    rw [conclude_of_error hresult]
    rfl
  | ok m =>
    obtain ⟨s', lines, outcome, hgranted⟩ := h m
    refine ⟨s', o.notices.map Notice.record, outcome, fun c => ?_⟩
    show (s.withConsole c).conclude o (granted (s.withConsole c)) = _
    rw [conclude_of_ok hresult, show granted (s.withConsole c) m = _ from hgranted c]
    rfl

theorem indifferent_loadFile (s : Session) (name : String)
    (contents : Except FileError (List Byte)) : s.Indifferent (·.loadFile name contents) := by
  cases contents with
  | error e => exact ⟨s, _, .error (.file e), fun _ => rfl⟩
  | ok program =>
    cases hload : s.machine.load program with
    | error reason => exact ⟨s, _, .error reason, fun _ => loadFile_of_refused hload⟩
    | ok m => exact ⟨{ s with machine := m }, _, .ok .done, fun _ => loadFile_of_ok hload⟩

/-- **One request** but the one that sets the threshold. -/
theorem indifferent_perform (s : Session) (ha : a.setsLevel = false) :
    s.Indifferent (·.perform a) := by
  cases a with
  | step => exact indifferent_conclude s.machine.step s.indifferent_repainting
  | frame => exact indifferent_conclude (s.machine.run s.frameLength) s.indifferent_repainting
  | run n =>
    exact indifferent_conclude (s.machine.run n) fun m => s.indifferent_update (.ok m)
  | execute opcode =>
    exact indifferent_conclude (s.machine.execute (BitVec.ofInt 16 opcode))
      fun m => s.indifferent_update (.ok m)
  | tick => exact s.indifferent_update (.ok s.machine.tick)
  | acknowledge => exact s.indifferent_update (.ok s.machine.acknowledge)
  | reset => exact s.indifferent_update (.ok (.powerOn s.key s.machine.mode))
  | load program => exact s.indifferent_update (s.machine.load program)
  | loadFile name contents => exact s.indifferent_loadFile name contents
  | setKey key pressed => exact s.indifferent_update (s.machine.setKey key pressed)
  | setKeys buffer => exact s.indifferent_update (s.machine.setKeys buffer)
  | setLevel name => cases ha

/-- A request that sets the threshold changes nothing but the console. -/
theorem session_of_setsLevel (s : Session) (ha : a.setsLevel = true) :
    ∃ c, (s.perform a).session = s.withConsole c := by
  cases a with
  | setLevel name =>
    rw [perform, setLevel]
    cases s.console.setLevel name with
    | ok c => exact ⟨c, rfl⟩
    | error e => exact ⟨s.console, rfl⟩
  | _ => cases ha

/-! ## Many requests -/

/-- What a host learns of requests, those apart that set the threshold: the result or the
refusal of each, and what it makes of the session but for the console. -/
def observed (s : Session) : List Action → List (Except Refusal Reply × Session)
  | [] => []
  | a :: rest =>
    let response := s.perform a
    let later := response.session.observed rest
    if a.setsLevel then later
    else (response.outcome, response.session.withConsole {}) :: later

theorem observed_cons (s : Session) (a : Action) (rest : List Action) :
    s.observed (a :: rest) =
      if a.setsLevel then (s.perform a).session.observed rest
      else ((s.perform a).outcome, (s.perform a).session.withConsole {})
        :: (s.perform a).session.observed rest := rfl

/-- **Many requests**, on two consoles, those that set the threshold left out on one.  The
induction is on the list, and the consoles do not stay the same. -/
theorem observed_others (s : Session) (c c' : Console) (actions : List Action) :
    (s.withConsole c).observed actions = (s.withConsole c').observed (Action.others actions) ∧
      ((s.withConsole c).performAll actions).withConsole {}
        = ((s.withConsole c').performAll (Action.others actions)).withConsole {} := by
  induction actions generalizing s c c' with
  | nil => exact ⟨rfl, rfl⟩
  | cons a rest ih =>
    cases ha : a.setsLevel with
    | true =>
      have hothers : Action.others (a :: rest) = Action.others rest :=
        List.filter_cons_of_neg (by simp [ha])
      obtain ⟨d, hd⟩ := (s.withConsole c).session_of_setsLevel ha
      rw [withConsole_withConsole] at hd
      rw [hothers, observed_cons, performAll_cons, if_pos ha, hd]
      exact ih s d c'
    | false =>
      have hothers : Action.others (a :: rest) = a :: Action.others rest :=
        List.filter_cons_of_pos (by simp [ha])
      have hsilent : ¬ a.setsLevel = true := by simp [ha]
      obtain ⟨s', lines, outcome, hperform⟩ := s.indifferent_perform ha
      have hc : (s.withConsole c).perform a = _ := hperform c
      have hc' : (s.withConsole c').perform a = _ := hperform c'
      obtain ⟨hobserved, hlast⟩ := ih s' c c'
      rw [hothers, observed_cons, observed_cons, performAll_cons, performAll_cons,
        if_neg hsilent, if_neg hsilent, hc, hc']
      exact ⟨congrArg _ hobserved, hlast⟩

end Session

namespace CommandLine

/-! ## Cycles -/

/-- **Cycles** are the same on every console.  The induction is on their number. -/
theorem drive_indifferent (s : Session) (redraws n : Nat) :
    ∃ (s' : Session) (redraws' : Nat) (lines : List Record) (stop : Option Refusal), ∀ c records,
      drive n { session := s.withConsole c, redraws := redraws, records := records } =
        ({ session := s'.withConsole c
           redraws := redraws'
           records := records ++ (s.withConsole c).shown lines }, stop) := by
  induction n generalizing s redraws with
  | zero => exact ⟨s, redraws, [], none, fun c records => by simp [drive, Session.shown]⟩
  | succ n ih =>
    obtain ⟨s₁, lines, outcome, hperform⟩ := s.indifferent_perform (a := .step) rfl
    have hstep (c : Console) : (s.withConsole c).step = _ := hperform c
    cases outcome with
    | error reason =>
      refine ⟨s, redraws, lines, some reason, fun c records => ?_⟩
      rw [drive, hstep]
    | ok reply =>
      obtain ⟨s', redraws', more, stop, hdrive⟩ := ih s₁ (redraws + repaints reply)
      refine ⟨s', redraws', lines ++ more, stop, fun c records => ?_⟩
      have hshown : (s₁.withConsole c).shown more = (s.withConsole c).shown more := rfl
      rw [drive, hstep]
      simp only [hdrive, hshown, append_append, Session.shown_append]

/-! ## Runs -/

/-- The records among these whose own level is at least `l`. -/
def atLeast (l : Level) (lines : List Record) : List Record :=
  lines.filter fun r => l.rank ≤ r.level.rank

theorem atLeast_append (l : Level) (lines more : List Record) :
    atLeast l (lines ++ more) = atLeast l lines ++ atLeast l more := List.filter_append _ _

/-- The settings with another level. -/
def Settings.withLevel (settings : Settings) (l : Level) : Settings :=
  { settings with level := some l }

/-- The session with the console of a run at a level. -/
def atLevel (s : Session) (l : Level) : Session := s.withConsole { threshold := l }

/-- The session of a run, or the reason why there is none, is fixed before the level is. -/
theorem Settings.session_withLevel (settings : Settings) :
    (∃ ending, ∀ l, (settings.withLevel l).session = .error ending) ∨
      ∃ s, ∀ l, (settings.withLevel l).session = .ok (atLevel s l) := by
  cases hseed : settings.seed with
  | none =>
    refine .inl ⟨.valueless .seed, fun l => ?_⟩
    simp [session, withLevel, hseed]
  | some seed =>
    let mode := if settings.transcribed then Mode.transcribed else Mode.canonical
    cases hstart : Session.start seed mode 1 with
    | error reason =>
      refine .inl ⟨.refused reason, fun l => ?_⟩
      simp [session, withLevel, hseed, hstart, mode]
    | ok s =>
      refine .inr ⟨s, fun l => ?_⟩
      obtain ⟨key, -, rfl⟩ := Session.opened_of_start hstart
      simp [session, withLevel, hseed, hstart, mode]
      rfl

/-- A report with the lines from level `l` on, and texts behind them. -/
def reportAt (l : Level) (lines : List Record) (texts : List (List Char)) (ending : Ending) :
    Report where
  items := log (atLeast l lines) ++ texts.map .text
  ending := ending

/-- Dumps are texts. -/
theorem exists_texts (settings : Settings) (m : Machine) :
    ∃ texts : List (List Char), dumps settings m = texts.map .text := by
  refine ⟨(if settings.dumpDisplay then [m.display.dump Display.onGlyph Display.offGlyph] else [])
    ++ (if settings.dumpMemory then [m.memory.dump 16] else []), ?_⟩
  rw [dumps, List.map_append]
  cases settings.dumpDisplay <;> cases settings.dumpMemory <;> rfl

/-- **A program in memory.** -/
theorem runLoaded_indifferent (settings : Settings) (s : Session) (lines : List Record) :
    ∃ lines' texts ending, ∀ l,
      (settings.withLevel l).runLoaded (log (atLeast l lines)) (atLevel s l)
        = reportAt l lines' texts ending := by
  cases hcycles : settings.cycles with
  | none =>
    refine ⟨lines, [], .valueless .cycles, fun l => ?_⟩
    simp [Settings.runLoaded, Settings.withLevel, hcycles, reportAt]
  | some cycles =>
    obtain ⟨s', redraws, more, stop, hdrive⟩ := drive_indifferent s 0 cycles.toNat
    have hdrive (l : Level) : drive cycles.toNat { session := atLevel s l } = _ :=
      hdrive { threshold := l } #[]
    have hcycles (l : Level) : (settings.withLevel l).cycles = some cycles := hcycles
    cases stop with
    | some reason =>
      refine ⟨lines ++ more ++ [.machineFault s'.machine.pc reason.message], [], .exit 2,
        fun l => ?_⟩
      simp only [Settings.runLoaded, hcycles, hdrive, conclude, reportAt, atLeast_append,
        log_append, Array.toList_appendList, List.nil_append, List.map_nil, List.append_nil]
      rfl
    | none =>
      obtain ⟨texts, htexts⟩ := exists_texts settings s'.machine
      refine ⟨lines ++ more ++ [.summary cycles redraws s'.machine.pc], texts, .exit 0,
        fun l => ?_⟩
      simp only [Settings.runLoaded, hcycles, hdrive, conclude, reportAt, atLeast_append,
        log_append, Array.toList_appendList, List.nil_append, ← htexts]
      rfl

/-- **Runs.**  The lines of a run, the dumps behind them and the way it ends are fixed
before the level is chosen. -/
theorem run_indifferent (settings : Settings) (read : String → Except FileError (List Byte)) :
    ∃ lines texts ending, ∀ l, (settings.withLevel l).run read = reportAt l lines texts ending := by
  obtain ⟨ending, hsession⟩ | ⟨s, hsession⟩ := settings.session_withLevel
  · refine ⟨[], [], ending, fun l => ?_⟩
    rw [Settings.run, hsession]
    rfl
  · obtain ⟨s₁, lines, outcome, hperform⟩ :=
      s.indifferent_loadFile settings.program (read settings.program)
    have hload (l : Level) : (atLevel s l).loadFile (settings.withLevel l).program
        (read (settings.withLevel l).program) = _ := hperform { threshold := l }
    cases outcome with
    | ok reply =>
      obtain ⟨lines', texts, ending, hrun⟩ := runLoaded_indifferent settings s₁ lines
      refine ⟨lines', texts, ending, fun l => ?_⟩
      rw [Settings.run, hsession, ← hrun]
      simp only [hload]
      rfl
    | error reason =>
      refine ⟨lines ++ lastWords settings.program reason, [], .ofRefusal reason, fun l => ?_⟩
      rw [Settings.run_of_refused (hsession l) (congrArg Response.records (hload l))
        (congrArg Response.outcome (hload l)), reportAt, List.map_nil, List.append_nil]
      rfl

/-! ## The level on the command line -/

/-- Whether an item is printed at a level: texts always are. -/
def Item.shownAt (l : Level) : Item → Bool
  | .record r => l.rank ≤ r.level.rank
  | .text _ => true

/-- The lowest level prints all lines, of which the others print a part. -/
theorem items_reportAt (l : Level) (lines : List Record) (texts : List (List Char))
    (ending : Ending) :
    (reportAt l lines texts ending).items
      = (reportAt .debug lines texts ending).items.filter (Item.shownAt l) := by
  have hall : atLeast .debug lines = lines := List.filter_eq_self.2 fun r _ => by simp [Level.rank]
  have htexts : (texts.map Item.text).filter (Item.shownAt l) = texts.map Item.text :=
    List.filter_eq_self.2 fun item hitem => by
      obtain ⟨text, -, rfl⟩ := List.mem_map.1 hitem
      rfl
  rw [reportAt, reportAt, hall, List.filter_append, htexts, log, log, List.filter_map]
  rfl

/-- **A run at a level** prints what the run at the lowest level prints, without the
records below. -/
theorem run_withLevel (settings : Settings) (read : String → Except FileError (List Byte))
    (l : Level) :
    let loud := (settings.withLevel .debug).run read
    let quiet := (settings.withLevel l).run read
    quiet.ending = loud.ending ∧ quiet.items = loud.items.filter (Item.shownAt l) := by
  intro loud quiet
  obtain ⟨lines, texts, ending, hrun⟩ := run_indifferent settings read
  have hloud : loud = reportAt .debug lines texts ending := hrun .debug
  have hquiet : quiet = reportAt l lines texts ending := hrun l
  rw [hloud, hquiet]
  exact ⟨rfl, items_reportAt l lines texts ending⟩

theorem run_of_accepted {read : String → Except FileError (List Byte)} {arguments : List String}
    {settings : Settings} (h : Settings.ofArguments arguments = .ok settings) :
    run read arguments = settings.run read := by
  rw [run, h]

/-- Two command lines that are accepted and ask for the same, but for the level. -/
theorem run_of_levels {read : String → Except FileError (List Byte)}
    {arguments arguments' : List String} {settings : Settings} {l : Level}
    (hloud : Settings.ofArguments arguments = .ok (settings.withLevel .debug))
    (hquiet : Settings.ofArguments arguments' = .ok (settings.withLevel l)) :
    (run read arguments').ending = (run read arguments).ending ∧
      (run read arguments').items = (run read arguments).items.filter (Item.shownAt l) := by
  rw [run_of_accepted hloud, run_of_accepted hquiet]
  exact run_withLevel settings read l

open Token (levelSaid) in
/-- **The level only filters.**  Of two command lines that are accepted and ask for the same,
one at the lowest level and one at level `l`, the second ends the same way and prints the
same, without the records whose own level is below `l`.  This is so for a command line
with the lowest level in it, and the same with `l` in its place, unless one of the
arguments behind gives another level, which then counts for both.  And requests that set
the threshold of a session may be put anywhere among others, or left out: every other
request has the same result or the same refusal, and makes the same of the session. -/
theorem level_only_filters :
    (∀ (read : String → Except FileError (List Byte)) (arguments arguments' : List String)
        (settings : Settings) (l : Level),
      Settings.ofArguments arguments = .ok { settings with level := some .debug } →
      Settings.ofArguments arguments' = .ok { settings with level := some l } →
      let loud := run read arguments
      let quiet := run read arguments'
      quiet.ending = loud.ending ∧ quiet.items = loud.items.filter (Item.shownAt l)) ∧
    (∀ (read : String → Except FileError (List Byte)) (before after : List String)
        (settings : Settings) (l : Level),
      Settings.ofArguments (before ++ "--log-level" :: "DEBUG" :: after) = .ok settings →
      let loud := run read (before ++ "--log-level" :: "DEBUG" :: after)
      let quiet := run read (before ++ "--log-level" :: l.name :: after)
      (levelSaid after = false →
        quiet.ending = loud.ending ∧ quiet.items = loud.items.filter (Item.shownAt l)) ∧
      (levelSaid after = true → quiet = loud)) ∧
    ∀ (s : Session) (c : Console) (actions actions' : List Action),
      Action.others actions = Action.others actions' →
      s.observed actions = (s.withConsole c).observed actions' ∧
        (s.performAll actions).withConsole {}
          = ((s.withConsole c).performAll actions').withConsole {} := by
  refine ⟨?_, ?_, ?_⟩
  · intro read arguments arguments' settings l hloud hquiet loud quiet
    exact run_of_levels hloud hquiet
  · intro read before after settings l hloud loud quiet
    obtain ⟨hlevel, hquiet⟩ := Settings.ofArguments_of_level (l := .debug) hloud l
    refine ⟨fun hsilent => ?_, fun hsaid => ?_⟩
    · have hsettings : settings = settings.withLevel .debug := by
        rw [Settings.withLevel, ← hlevel hsilent]
      rw [hsilent] at hquiet
      rw [hsettings] at hloud
      exact run_of_levels hloud hquiet
    · rw [hsaid] at hquiet
      exact (run_of_accepted hquiet).trans (run_of_accepted hloud).symm
  · intro s c actions actions' hothers
    obtain ⟨hobserved, hlast⟩ := s.observed_others s.console s.console actions
    obtain ⟨hobserved', hlast'⟩ := s.observed_others c s.console actions'
    rw [← hothers] at hobserved' hlast'
    exact ⟨hobserved.trans hobserved'.symm, hlast.trans hlast'.symm⟩

/-- Two spellings of the switch; a level for the lowest one, and one that a later switch
overrules; and a cycle among requests that set the threshold, one of them to no level. -/
theorem level_only_filters_among_others :
    (∀ read,
      let loud := run read ["--log-level=DEBUG", "rom.ch8"]
      let quiet := run read ["rom.ch8", "--log", "WARNING"]
      quiet.ending = loud.ending ∧ quiet.items = loud.items.filter (Item.shownAt .warning)) ∧
      (∀ read,
        let loud := run read ["rom.ch8", "--log-level", "DEBUG", "--dump-memory"]
        let quiet := run read ["rom.ch8", "--log-level", "ERROR", "--dump-memory"]
        quiet.ending = loud.ending ∧ quiet.items = loud.items.filter (Item.shownAt .error)) ∧
      (∀ read, run read ["rom.ch8", "--log-level", "ERROR", "--log-level", "INFO"]
        = run read ["rom.ch8", "--log-level", "DEBUG", "--log-level", "INFO"]) ∧
      ∀ s : Session, s.observed [.setLevel "critical", .step, .setLevel "loud"]
        = s.observed [.step] := by
  obtain ⟨hspellings, harguments, hrequests⟩ := level_only_filters
  refine ⟨fun read => ?_, fun read => ?_, fun read => ?_, fun s => ?_⟩
  · have hloud : Settings.ofArguments ["--log-level=DEBUG", "rom.ch8"]
        = .ok { program := "rom.ch8", level := some .debug } := rfl
    have hquiet : Settings.ofArguments ["rom.ch8", "--log", "WARNING"]
        = .ok { program := "rom.ch8", level := some .warning } := rfl
    exact hspellings read _ _ { program := "rom.ch8" } .warning hloud hquiet
  · have haccepted : Settings.ofArguments ["rom.ch8", "--log-level", "DEBUG", "--dump-memory"]
        = .ok { program := "rom.ch8", dumpMemory := true, level := some .debug } := rfl
    exact (harguments read ["rom.ch8"] ["--dump-memory"] _ .error haccepted).1 rfl
  · have haccepted :
        Settings.ofArguments ["rom.ch8", "--log-level", "DEBUG", "--log-level", "INFO"]
          = .ok { program := "rom.ch8" } := rfl
    exact (harguments read ["rom.ch8"] ["--log-level", "INFO"] _ .error haccepted).2 rfl
  · exact (hrequests s s.console [.setLevel "critical", .step, .setLevel "loud"] [.step] rfl).1

end CommandLine

end ChipEight
