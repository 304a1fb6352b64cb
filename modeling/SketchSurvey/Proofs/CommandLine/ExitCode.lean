import Mathlib.Data.List.Find
import SketchSurvey.Bundled
import SketchSurvey.CommandLine.Phases
import SketchSurvey.Proofs.CommandLine.Performed
import SketchSurvey.Proofs.CommandLine.Stop
import SketchSurvey.Proofs.Log.Reopening
import SketchSurvey.Proofs.Settings.Settled

/-! How a run ends: with which code, and with nothing printed unless it succeeds, reports an error in a script,
or comes to a line that cannot be printed. -/

set_option autoImplicit false

namespace SketchSurvey.CommandLine

open SketchSurvey.Files SketchSurvey.Log SketchSurvey.Settings SketchSurvey.Sketch

section Ending

variable [Host]

/-- A run that comes as far as its command: the configuration is valid, and logging is set up. -/
structure GetsReady (homes : Path.Homes) (start : Session) (args : List String) (a : Arguments)
    (v : Validated) (ready : Session) : Prop where
  read : Arguments.read args = .ok a
  validated : validate homes (.object (givenConfig homes start.files a).given) false = .ok v
  configured : (start.logAll (givenConfig homes start.files a).log).configure
    (Setup.ofTexts v.config.logLevel v.config.logFile true) = (ready, .ok ())
  acts : a.options.dumpConfig = false

/-- There is no command, or some path that it is about is missing. -/
def Arguments.LacksInput (a : Arguments) (fs : FileSystem) : Prop :=
  ∀ c, a.command = some c → ∃ path ∈ c.paths, fs.pathExists path = false

/-- The command is the check of a readable script that has an error, which can be reported. -/
structure Arguments.Reports (a : Arguments) (v : Validated) (fs : FileSystem) (path : String)
    (e : Script.SyntaxError) : Prop where
  command : a.command = some (.check path)
  reported : IsReported fs (AnalysisSettings.ofConfig v.config).maxFileBytes a.options.json path e

/-- The command, which is no check, prints for people, and comes to a line that cannot be printed. -/
structure Arguments.StopsAt (a : Arguments) (v : Validated) (fs : FileSystem) (c : Command)
    (printed : List String) (line : String) : Prop where
  plain : a.options.json = false
  command : a.command = some c
  other : ∀ path, c ≠ .check path
  present : ∀ path ∈ c.paths, fs.pathExists path = true
  stops : (c.perform fs false (AnalysisSettings.ofConfig v.config)).StopsAt printed line

/-- How a run ends. -/
structure EndsOrderly (homes : Path.Homes) (start : Session) (args : List String) : Prop where
  code : (run homes start args).code ∈ [0, 1, 2]
  wrongCall : (run homes start args).code = 2 ↔
    (∃ stop, Arguments.read args = .error stop ∧ stop.IsWrongCall) ∨
      ∃ a v ready, GetsReady homes start args a v ready ∧ a.LacksInput ready.files
  /-- Where input is lacking no input is read: with any other files in its place the run ends alike. -/
  unread : ∀ {a v ready}, GetsReady homes start args a v ready → a.LacksInput ready.files →
    ∀ files : FileSystem, (∀ c, a.command = some c → ∀ path ∈ c.paths,
        files.pathExists path = ready.files.pathExists path) →
      (runChecked { ready with files } a v).code = 2 ∧
        (runChecked { ready with files } a v).session = { (runChecked ready a v).session with files }
  /-- The check of a script with an error prints its report and nothing else. -/
  reported : ∀ {a v ready path e}, GetsReady homes start args a v ready →
    a.Reports v ready.files path e →
      (run homes start args).code = 1 ∧
        (run homes start args).session.shownOn [.output] = printedReport a.options.json path e
  /-- A command that comes to a line that cannot be printed has printed those before it. -/
  stopped : ∀ {a v ready c printed line}, GetsReady homes start args a v ready →
    a.StopsAt v ready.files c printed line →
      (run homes start args).code = 1 ∧
        (run homes start args).session.shownOn [.output] = String.join (printed.map (· ++ "\n"))
  silent : (run homes start args).code ≠ 0 →
    (∀ a v ready, GetsReady homes start args a v ready →
      (∀ path e, ¬ a.Reports v ready.files path e) ∧
        ∀ c printed line, ¬ a.StopsAt v ready.files c printed line) →
      (run homes start args).session.shownOn [.output] = ""

end Ending

section Parts

variable {s : Session}

theorem keeps_logAt (s : Session) (level : Int) (message : String) : s.Keeps (logAt s level message) :=
  s.keeps_log _

theorem keeps_sayError (s : Session) (message : String) : s.Keeps (sayError s message) :=
  (s.writes_say (by decide) _).toKeeps

theorem keeps_fatal (s : Session) (kind message : String) : s.Keeps (fatal s kind message).session :=
  (s.keeps_log _).trans (Session.writes_say _ (by decide) _).toKeeps

theorem keeps_reportFailure (s : Session) (c : Command) (p : Failure) :
    s.Keeps (reportFailure s c p) := by
  unfold reportFailure
  split <;> exact (keeps_logAt ..).trans (keeps_sayError ..)

/-- The session in which a command is carried out: the warnings about the configuration are logged. -/
def announced (s : Session) (v : Validated) : Session :=
  v.warnings.foldl
    (fun s w => logAt s Level.warning ("Configuration Constraint: " ++ w.message))
    (logAt s Level.debug "CLI execution initiated.")

/-- The records that such a session starts with. -/
def announcements (v : Validated) : List Record :=
  { level := Level.debug, logger := runLogger, message := "CLI execution initiated." } ::
    v.warnings.map fun w =>
      { level := Level.warning, logger := runLogger, message := "Configuration Constraint: " ++ w.message }

theorem announced_eq (s : Session) (v : Validated) : announced s v = s.logAll (announcements v) := by
  rw [announced, Session.logAll, announcements, List.foldl_cons, List.foldl_map]
  rfl

theorem keeps_announced (s : Session) (v : Validated) : s.Keeps (announced s v) := by
  rw [announced_eq]
  exact s.keeps_logAll _

theorem announced_withFiles (s : Session) (files : FileSystem) (v : Validated) :
    announced { s with files } v = { announced s v with files } := by
  rw [announced_eq, announced_eq]
  exact s.logAll_withFiles files _

theorem files_announced (s : Session) (v : Validated) : (announced s v).files = s.files := by
  rw [announced_eq]
  exact s.files_logAll _

theorem pathExists_of_holds {fs : FileSystem} {limit : Int} {path text : String}
    (holds : fs.Holds limit path text) : fs.pathExists path = true := by
  obtain ⟨location, bytes, status, -, -⟩ := holds
  rw [FileSystem.pathExists, status]

variable [Host]

/-- What a run does once its command can act. -/
theorem runChecked_eq {a : Arguments} (acts : a.options.dumpConfig = false) (s : Session) (v : Validated) :
    runChecked s a v =
      match a.command with
      | none => { code := 2, session := (announced s v).say .error Spec.program.usage }
      | some c =>
        runCommand (announced s v) a.options.json (AnalysisSettings.ofConfig v.config) c := by
  unfold runChecked
  rw [acts]
  rfl

/-- What a run does that is to print its configuration. -/
theorem runChecked_of_dumps {a : Arguments} (dumps : a.options.dumpConfig = true) (s : Session)
    (v : Validated) :
    runChecked s a v =
      match Host.unprintable? (printValue v.config.toValue) with
      | none => { code := 0, session := (announced s v).say .output (printValue v.config.toValue) }
      | some reason => fatal (announced s v) (Failure.unprintable reason).kindName reason := by
  unfold runChecked
  rw [dumps]
  rfl

theorem runCommand_of_missing {json : Bool} {settings : AnalysisSettings} {c : Command} {path : String}
    (first : c.paths.find? (fun path => !s.files.pathExists path) = some path) :
    runCommand s json settings c = {
      code := 2
      session := sayError (logAt s Level.error ("Path does not exist: " ++ path))
        ("Path does not exist: " ++ path) } := by
  rw [runCommand, first]

theorem runCommand_of_present {json : Bool} {settings : AnalysisSettings} {c : Command}
    (present : c.paths.find? (fun path => !s.files.pathExists path) = none) :
    runCommand s json settings c =
      let done := c.perform s.files json settings
      let s := (s.logAll done.log).say .output done.output
      match done.result with
      | .ok code => { code, session := s }
      | .error p => { code := 1, session := reportFailure s c p } := by
  unfold runCommand
  generalize c.paths.find? (fun path => !s.files.pathExists path) = missing at present ⊢
  subst present
  rfl

/-- A command one of whose paths is missing is not carried out. -/
theorem runCommand_lacks {json : Bool} {settings : AnalysisSettings} {c : Command}
    (lacks : ∃ path ∈ c.paths, s.files.pathExists path = false) :
    (runCommand s json settings c).code = 2 ∧ s.Keeps (runCommand s json settings c).session := by
  cases search : c.paths.find? fun path => !s.files.pathExists path with
  | none =>
      obtain ⟨path, member, missing⟩ := lacks
      exact absurd (List.find?_eq_none.mp search path member) (by simp [missing])
  | some path =>
      rw [runCommand_of_missing search]
      exact ⟨rfl, (keeps_logAt ..).trans (keeps_sayError ..)⟩

/-- What a command that can act ends with, and what it has then printed. -/
theorem runCommand_acts {json : Bool} {settings : AnalysisSettings} {c : Command}
    (present : ∀ path ∈ c.paths, s.files.pathExists path = true) :
    (∀ {code}, (c.perform s.files json settings).result = .ok code →
      (runCommand s json settings c).code = code) ∧
    (∀ {p}, (c.perform s.files json settings).result = .error p →
      (runCommand s json settings c).code = 1) ∧
    (runCommand s json settings c).session.shownOn [.output] =
      s.shownOn [.output] ++ (c.perform s.files json settings).output := by
  rw [runCommand_of_present (List.find?_eq_none.mpr fun path member => by simp [present path member])]
  have said : ((s.logAll (c.perform s.files json settings).log).say .output
      (c.perform s.files json settings).output).shownOn [.output] =
        s.shownOn [.output] ++ (c.perform s.files json settings).output := by
    rw [Session.shownOn_say, (s.keeps_logAll _).output, if_pos (List.mem_singleton.mpr rfl)]
  dsimp only
  cases (c.perform s.files json settings).result with
  | ok code => exact ⟨fun same => Except.ok.inj same, nofun, said⟩
  | error p => exact ⟨nofun, fun _ => rfl, (keeps_reportFailure _ c p).output.trans said⟩

end Parts

theorem lacksInput_or (a : Arguments) (fs : FileSystem) :
    a.LacksInput fs ∨ ∃ c, a.command = some c ∧ ∀ path ∈ c.paths, fs.pathExists path = true := by
  by_cases acts : ∃ c, a.command = some c ∧ ∀ path ∈ c.paths, fs.pathExists path = true
  · exact .inr acts
  · refine .inl fun c isCommand => ?_
    by_contra none'
    simp only [not_exists, not_and, Bool.not_eq_false] at none'
    exact acts ⟨c, isCommand, none'⟩

section Run

variable [Host] {homes : Path.Homes} {start ready s : Session} {args : List String} {a : Arguments} {v : Validated}

theorem runChecked_lacks (acts : a.options.dumpConfig = false) (lacks : a.LacksInput s.files) :
    (runChecked s a v).code = 2 ∧ s.Keeps (runChecked s a v).session := by
  rw [runChecked_eq acts]
  cases isCommand : a.command with
  | none => exact ⟨rfl, (keeps_announced s v).trans (Session.writes_say _ (by decide) _).toKeeps⟩
  | some c =>
      have lacks : ∃ path ∈ c.paths, (announced s v).files.pathExists path = false := by
        rw [files_announced]
        exact lacks c isCommand
      obtain ⟨code, keeps⟩ := runCommand_lacks lacks
      exact ⟨code, (keeps_announced s v).trans keeps⟩

/-- What a run whose command can act ends with, and what it has then printed. -/
theorem runChecked_acts (acts : a.options.dumpConfig = false) {c : Command} (isCommand : a.command = some c)
    (present : ∀ path ∈ c.paths, s.files.pathExists path = true) :
    let done := c.perform s.files a.options.json (AnalysisSettings.ofConfig v.config)
    (∀ {code}, done.result = .ok code → (runChecked s a v).code = code) ∧
      (∀ {p}, done.result = .error p → (runChecked s a v).code = 1) ∧
      (runChecked s a v).session.shownOn [.output] = s.shownOn [.output] ++ done.output := by
  rw [← files_announced s v] at present ⊢
  rw [runChecked_eq acts, isCommand, ← (keeps_announced s v).output]
  exact runCommand_acts present

theorem runChecked_reports (acts : a.options.dumpConfig = false) {path : String} {e : Script.SyntaxError}
    (reports : a.Reports v s.files path e) :
    (runChecked s a v).code = 1 ∧ (runChecked s a v).session.shownOn [.output] =
      s.shownOn [.output] ++ printedReport a.options.json path e := by
  obtain ⟨text, holds, -⟩ := reports.reported.broken
  have present : ∀ path' ∈ (Command.check path).paths, s.files.pathExists path' = true :=
    List.forall_mem_singleton.mpr (pathExists_of_holds holds)
  obtain ⟨code, -, shown⟩ := runChecked_acts (v := v) acts reports.command present
  obtain ⟨result, output⟩ := performCheck_of_reported reports.reported
  exact ⟨code result, shown.trans (congrArg _ output)⟩

theorem runChecked_stops (acts : a.options.dumpConfig = false) {c : Command} {printed : List String}
    {line : String} (stops : a.StopsAt v s.files c printed line) :
    (runChecked s a v).code = 1 ∧ (runChecked s a v).session.shownOn [.output] =
      s.shownOn [.output] ++ String.join (printed.map (· ++ "\n")) := by
  obtain ⟨-, code, shown⟩ := runChecked_acts (v := v) acts stops.command stops.present
  rw [stops.plain] at code shown
  obtain ⟨reason, -, failed⟩ := stops.stops.failed
  exact ⟨code failed, shown.trans (congrArg _ stops.stops.output)⟩

/-- A command that neither reports an error in a script nor stops at a line prints all or nothing. -/
theorem allOrNothing_of_plain {c : Command} (isCommand : a.command = some c)
    (present : ∀ path ∈ c.paths, s.files.pathExists path = true)
    (quiet : ∀ path e, ¬ a.Reports v s.files path e)
    (flows : ∀ c printed line, ¬ a.StopsAt v s.files c printed line) :
    (c.perform s.files a.options.json (AnalysisSettings.ofConfig v.config)).AllOrNothing := by
  have unreported (path : String) (isCheck : c = .check path) (e : Script.SyntaxError) :
      ¬ IsReported s.files (AnalysisSettings.ofConfig v.config).maxFileBytes a.options.json path e :=
    fun reported => quiet path e ⟨isCheck ▸ isCommand, reported⟩
  cases plain : a.options.json with
  | true =>
      rw [plain] at unreported
      exact allOrNothing_perform fun path e isCheck => unreported path isCheck e
  | false =>
      rw [plain] at unreported
      by_cases other : ∀ path, c ≠ .check path
      · have lines : (c.perform s.files false (AnalysisSettings.ofConfig v.config)).LineByLine :=
          lineByLine_perform other
        refine ⟨lines.succeeds, fun failed => (lines.stops failed).resolve_right ?_⟩
        rintro ⟨printed, line, stops⟩
        exact flows c printed line ⟨plain, isCommand, other, present, stops⟩
      · simp only [ne_eq, not_forall, not_not] at other
        obtain ⟨path, rfl⟩ := other
        exact allOrNothing_check (unreported path rfl)

/-- A command lacks input, reports an error in a script, stops at a line, succeeds, or fails and prints
nothing. -/
inductive Acts (s : Session) (a : Arguments) (v : Validated) : Prop where
  | lacks : a.LacksInput s.files → (runChecked s a v).code = 2 → s.Keeps (runChecked s a v).session →
      Acts s a v
  | reports {path : String} {e : Script.SyntaxError} : a.Reports v s.files path e →
      (runChecked s a v).code = 1 → Acts s a v
  | stops {c : Command} {printed : List String} {line : String} : a.StopsAt v s.files c printed line →
      (runChecked s a v).code = 1 → Acts s a v
  | succeeds : (runChecked s a v).code = 0 → Acts s a v
  | fails : (runChecked s a v).code = 1 →
      (runChecked s a v).session.shownOn [.output] = s.shownOn [.output] → Acts s a v

theorem acts (acts : a.options.dumpConfig = false) (s : Session) (v : Validated) : Acts s a v := by
  rcases lacksInput_or a s.files with lacks | ⟨c, isCommand, present⟩
  · obtain ⟨code, keeps⟩ := runChecked_lacks acts lacks
    exact .lacks lacks code keeps
  by_cases reports : ∃ path e, a.Reports v s.files path e
  · obtain ⟨path, e, reports⟩ := reports
    exact .reports reports (runChecked_reports acts reports).1
  by_cases stops : ∃ c printed line, a.StopsAt v s.files c printed line
  · obtain ⟨c, printed, line, stops⟩ := stops
    exact .stops stops (runChecked_stops acts stops).1
  have whole := allOrNothing_of_plain isCommand present
    (fun path e found => reports ⟨path, e, found⟩)
    fun c printed line found => stops ⟨c, printed, line, found⟩
  obtain ⟨succeeds, fails, shown⟩ := runChecked_acts (v := v) acts isCommand present
  cases result : (c.perform s.files a.options.json (AnalysisSettings.ofConfig v.config)).result with
  | ok code => exact .succeeds ((succeeds result).trans (whole.succeeds result))
  | error p => exact .fails (fails result) (by rw [shown, whole.silent result, String.append_empty])

/-- Where input is lacking, the files do not matter. -/
theorem runChecked_withFiles (acts : a.options.dumpConfig = false) (lacks : a.LacksInput s.files)
    (files : FileSystem) (same : ∀ c, a.command = some c → ∀ path ∈ c.paths,
      files.pathExists path = s.files.pathExists path) :
    (runChecked { s with files } a v).session = { (runChecked s a v).session with files } := by
  rw [runChecked_eq acts, runChecked_eq acts, announced_withFiles]
  cases isCommand : a.command with
  | none => rfl
  | some c =>
      have first : (c.paths.find? fun path => !files.pathExists path) =
          c.paths.find? fun path => !(announced s v).files.pathExists path :=
        List.find?_congr fun path member => by rw [same c isCommand path member, files_announced]
      cases search : c.paths.find? fun path => !(announced s v).files.pathExists path with
      | none =>
          obtain ⟨path, member, missing⟩ := lacks c isCommand
          rw [← files_announced s v] at missing
          exact absurd (List.find?_eq_none.mp search path member) (by simp [missing])
      | some path =>
          have searchAgain : c.paths.find?
              (fun path => !({ announced s v with files } : Session).files.pathExists path) = some path :=
            first.trans search
          dsimp only
          rw [runCommand_of_missing search, runCommand_of_missing searchAgain, logAt, logAt,
            (announced s v).log_withFiles]
          rfl

/-- The session in which logging is set up: what loading the configuration had to say is logged. -/
def loaded (homes : Path.Homes) (start : Session) (a : Arguments) : Session :=
  start.logAll (givenConfig homes start.files a).log

theorem runArguments_of_error {p : Settings.Problem}
    (invalid : validate homes (.object (givenConfig homes start.files a).given) false = .error p) :
    runArguments homes start a = fatal (loaded homes start a) (settingsKind p) p.message := by
  rw [runArguments, invalid]
  rfl

theorem runArguments_of_ok
    (valid : validate homes (.object (givenConfig homes start.files a).given) false = .ok v) :
    runArguments homes start a =
      match (loaded homes start a).configure (Setup.ofTexts v.config.logLevel v.config.logFile true) with
      | (s, .error p) => fatal s "ValueError" p.message
      | (s, .ok ()) => runChecked s a v := by
  rw [runArguments, valid]
  rfl

theorem run_of_read (homes : Path.Homes) (start : Session) (read : Arguments.read args = .ok a) :
    (run homes start args).code = (runArguments homes start a).code ∧
      (run homes start args).session = (runArguments homes start a).session.shutdown := by
  rw [run, read]
  exact ⟨rfl, rfl⟩

theorem run_of_ready (isReady : GetsReady homes start args a v ready) :
    (run homes start args).code = (runChecked ready a v).code ∧
      (run homes start args).session = (runChecked ready a v).session.shutdown := by
  have ending := run_of_read homes start isReady.read
  have configured : (loaded homes start a).configure _ = _ := isReady.configured
  rwa [runArguments_of_ok isReady.validated, configured] at ending

theorem keeps_ready (isReady : GetsReady homes start args a v ready) : start.Keeps ready := by
  have keeps := (start.keeps_logAll (givenConfig homes start.files a).log).trans
    (Session.keeps_configure _ (Setup.ofTexts v.config.logLevel v.config.logFile true) false)
  rw [isReady.configured] at keeps
  exact keeps

/-- A run that is ready prints what its command prints. -/
theorem shownOn_of_runChecked {output : String} (isReady : GetsReady homes start args a v ready)
    (blank : start.shownOn [.output] = "")
    (shown : (runChecked ready a v).session.shownOn [.output] = ready.shownOn [.output] ++ output) :
    (run homes start args).session.shownOn [.output] = output := by
  rw [(run_of_ready isReady).2, (Session.keeps_shutdown _).output, shown, (keeps_ready isReady).output, blank,
    String.empty_append]

/-- A run that does not come as far as a command succeeds, fails and prints nothing, or was called wrongly. -/
inductive EndsEarly (homes : Path.Homes) (start : Session) (args : List String) : Prop where
  | succeeds : (run homes start args).code = 0 → EndsEarly homes start args
  | fails : (run homes start args).code = 1 → start.Keeps (run homes start args).session →
      EndsEarly homes start args
  | wrongCall {stop : Stop} : (run homes start args).code = 2 →
      start.Keeps (run homes start args).session → Arguments.read args = .error stop →
      stop.IsWrongCall → EndsEarly homes start args

theorem endsEarly_of_stop {stop : Stop} (stopped : Arguments.read args = .error stop) :
    EndsEarly homes start args := by
  have ending : run homes start args =
      { code := stop.code, session := (start.say .output stop.output).say .error stop.error } := by
    rw [run, stopped]
  rcases (stopsOrderly_read args).kinds stopped with help | wrong
  · exact .succeeds (by rw [ending, help.code])
  · refine .wrongCall (by rw [ending, wrong.code.1]) ?_ stopped wrong
    have silent : start.Keeps (start.say .output stop.output) := ⟨rfl, rfl, by
      rw [Session.shownOn_say, wrong.code.2, ite_self, String.append_empty]⟩
    rw [ending]
    exact silent.trans (Session.writes_say _ (by decide) _).toKeeps

theorem endsEarly_of_fatal {s : Session} {kind message : String} (read : Arguments.read args = .ok a)
    (keeps : start.Keeps s) (ending : runArguments homes start a = fatal s kind message) :
    EndsEarly homes start args := by
  obtain ⟨code, session⟩ := run_of_read homes start read
  rw [ending] at code session
  refine .fails code ?_
  rw [session]
  exact (keeps.trans (keeps_fatal ..)).trans (Session.keeps_shutdown _)

theorem ready_or_endsEarly (homes : Path.Homes) (start : Session) (args : List String) :
    (∃ a v ready, GetsReady homes start args a v ready) ∨ EndsEarly homes start args := by
  cases reading : Arguments.read args with
  | error stop => exact .inr (endsEarly_of_stop reading)
  | ok a =>
      have logged : start.Keeps (loaded homes start a) := start.keeps_logAll _
      cases validation : validate homes (.object (givenConfig homes start.files a).given) false with
      | error p => exact .inr (endsEarly_of_fatal reading logged (runArguments_of_error validation))
      | ok v =>
          have ending := runArguments_of_ok validation
          have keeps := (loaded homes start a).keeps_configure
            (Setup.ofTexts v.config.logLevel v.config.logFile true) false
          cases setting : (loaded homes start a).configure
              (Setup.ofTexts v.config.logLevel v.config.logFile true) with
          | mk s outcome =>
              rw [setting] at ending keeps
              cases outcome with
              | error p => exact .inr (endsEarly_of_fatal reading (logged.trans keeps) ending)
              | ok =>
                  cases dumps : a.options.dumpConfig with
                  | false => exact .inl ⟨a, v, s, reading, validation, setting, dumps⟩
                  | true =>
                      dsimp only at ending keeps
                      rw [runChecked_of_dumps dumps] at ending
                      have announces := (logged.trans keeps).trans (keeps_announced s v)
                      split at ending
                      · refine .inr (.succeeds ?_)
                        rw [(run_of_read homes start reading).1, ending]
                      · exact .inr (endsEarly_of_fatal reading announces ending)

end Run

/-- Every run ends with success, with a failure, or with a complaint about the call, and prints something
only if it succeeds, reports the error that a check has found, or stops at a line that cannot be printed. -/
theorem run_endsOrderly [Host] (homes : Path.Homes) (files : FileSystem) (now : Moment) (args : List String) :
    EndsOrderly homes { files, now } args := by
  have blank : ({ files, now } : Session).shownOn [.output] = "" := rfl
  generalize ({ files, now } : Session) = start at blank
  constructor
  case code =>
    rcases ready_or_endsEarly homes start args with ⟨a, v, ready, isReady⟩ | code | ⟨code, -⟩ | ⟨code, -⟩
    · rw [(run_of_ready isReady).1]
      rcases acts isReady.acts ready v with ⟨-, code, -⟩ | ⟨-, code⟩ | ⟨-, code⟩ | code | ⟨code, -⟩ <;>
        simp [code]
    · simp [code]
    · simp [code]
    · simp [code]
  case wrongCall =>
    constructor
    · intro two
      rcases ready_or_endsEarly homes start args with
        ⟨a, v, ready, isReady⟩ | code | ⟨code, -⟩ | ⟨-, -, stopped, wrong⟩
      · rw [(run_of_ready isReady).1] at two
        rcases acts isReady.acts ready v with
          ⟨lacks, -, -⟩ | ⟨-, code⟩ | ⟨-, code⟩ | code | ⟨code, -⟩
        · exact .inr ⟨a, v, ready, isReady, lacks⟩
        all_goals simp [code] at two
      · simp [code] at two
      · simp [code] at two
      · exact .inl ⟨_, stopped, wrong⟩
    · rintro (⟨stop, stopped, wrong⟩ | ⟨a, v, ready, isReady, lacks⟩)
      · rw [run, stopped]
        exact wrong.code.1
      · rw [(run_of_ready isReady).1]
        exact (runChecked_lacks isReady.acts lacks).1
  case unread =>
    intro a v ready isReady lacks files same
    have lacks' : a.LacksInput files := fun c isCommand => by
      obtain ⟨path, member, missing⟩ := lacks c isCommand
      exact ⟨path, member, (same c isCommand path member).trans missing⟩
    exact ⟨(runChecked_lacks (s := { ready with files }) isReady.acts lacks').1,
      runChecked_withFiles isReady.acts lacks files same⟩
  case reported =>
    intro a v ready path e isReady reports
    obtain ⟨code, shown⟩ := runChecked_reports isReady.acts reports
    exact ⟨(run_of_ready isReady).1.trans code, shownOn_of_runChecked isReady blank shown⟩
  case stopped =>
    intro a v ready c printed line isReady stops
    obtain ⟨code, shown⟩ := runChecked_stops isReady.acts stops
    exact ⟨(run_of_ready isReady).1.trans code, shownOn_of_runChecked isReady blank shown⟩
  case silent =>
    intro unsuccessful whole
    rcases ready_or_endsEarly homes start args with
      ⟨a, v, ready, isReady⟩ | code | ⟨-, keeps⟩ | ⟨-, keeps, -⟩
    · obtain ⟨quiet, flows⟩ := whole a v ready isReady
      have silent (shown : (runChecked ready a v).session.shownOn [.output] = ready.shownOn [.output]) :
          (run homes start args).session.shownOn [.output] = "" :=
        shownOn_of_runChecked isReady blank (shown.trans String.append_empty.symm)
      rcases acts isReady.acts ready v with
        ⟨-, -, keeps⟩ | ⟨reports, -⟩ | ⟨stops, -⟩ | succeeds | ⟨-, shown⟩
      · exact silent keeps.output
      · exact absurd reports (quiet _ _)
      · exact absurd stops (flows _ _ _)
      · exact absurd ((run_of_ready isReady).1.trans succeeds) unsuccessful
      · exact silent shown
    · exact absurd code unsuccessful
    · rw [keeps.output, blank]
    · rw [keeps.output, blank]

section Example

def rootHomes : Path.Homes := { own := "/root" }

def noon : Moment := { year := 2024, month := 5, day := 6, hour := 12, minute := 0, second := 0 }

/-- A run with nothing configured gets ready, and leaves the files as they are. -/
theorem exists_ready_of_defaults [Host] (homes : Path.Homes) (files : FileSystem) (now : Moment)
    {args : List String} {a : Arguments} (read : Arguments.read args = .ok a)
    (defaults : a.options.useDefaults = true) (plain : a.overrides = [])
    (acts : a.options.dumpConfig = false) :
    ∃ ready, ready.files = files ∧
      GetsReady homes { files, now } args a { config := Config.standard, warnings := [] } ready := by
  have given : givenConfig homes files a = { given := Config.standard.members, log := [] } := by
    rw [givenConfig, if_pos defaults, plain]
    rfl
  have passed := validate_members (Config.settled_standard homes) false
  have unwanted : (Setup.ofTexts Config.standard.logLevel Config.standard.logFile true).path? = none := rfl
  have standard : (Setup.ofTexts Config.standard.logLevel Config.standard.logFile true).HasStandardFormats :=
    ⟨rfl, rfl, rfl⟩
  have returned := configure_returns { files, now } standard false (by simp [unwanted])
  have down : ({} : Logging).IsDown := ⟨rfl, rfl, rfl⟩
  refine ⟨_, (files_configure_of_none down unwanted returned).2, read, ?_, ?_, acts⟩
  · rw [given]
    exact passed
  · rw [given]
    exact returned

/-- Two files, one of which has a letter in its name that is not ASCII. -/
def letterFiles : FileSystem := { nodes := [(["a.txt"], .file []), (["é.txt"], .file [])] }

theorem pathExists_letterFiles {path : String} (known : path ∈ ["a.txt", "é.txt"]) :
    letterFiles.pathExists path = true := by
  suffices each : ∀ path ∈ ["a.txt", "é.txt"], letterFiles.pathExists path = true from each path known
  refine List.forall_mem_cons.mpr ⟨?_, List.forall_mem_singleton.mpr ?_⟩
  · have status : letterFiles.status "a.txt" = .ok (["a.txt"], .file []) :=
      FileSystem.status_of_entry (.inl (by rfl)) (by decide) (by decide) (by decide) rfl nofun
    rw [FileSystem.pathExists, status]
  · have status : letterFiles.status "é.txt" = .ok (["é.txt"], .file []) :=
      FileSystem.status_of_entry (.inl (by rfl)) (by decide) (by decide) (by decide) rfl nofun
    rw [FileSystem.pathExists, status]

def lettersCall : List String := ["--use-defaults", "classify", "a.txt", "é.txt"]

def lettersArguments : Arguments where
  options := { useDefaults := true }
  command := some (.classify ["a.txt", "é.txt"])

/-- A host whose standard output takes nothing but ASCII. -/
@[reducible]
def asciiHost : Host := { Host.bundled with
  unprintable? := fun text => if text.toList.all fun c => decide (c.toNat < 128) then none
    else some "'ascii' codec can't encode character '\\xe9' in position 0: ordinal not in range(128)" }

theorem result_judge_of_other [Host] {fs : FileSystem} {s : AnalysisSettings} {path : String}
    (noScript : hasExtension scriptExtensions path = false)
    (noMarkup : hasExtension markupExtensions path = false) :
    (judgeScript fs s path).result = .ok false ∧ (judgeMarkup fs s path).result = .ok false := by
  simp [judgeScript, judgeMarkup, noScript, noMarkup]

/-- A run that is no check can fail with something printed: it stops at a line that cannot be printed. -/
theorem run_stops_partway :
    (@run asciiHost rootHomes { files := letterFiles, now := noon } lettersCall).code = 1 ∧
      (@run asciiHost rootHomes { files := letterFiles, now := noon } lettersCall).session.shownOn
        [.output] = "a.txt: not a sketch\n" := by
  obtain ⟨ready, files, isReady⟩ := @exists_ready_of_defaults asciiHost rootHomes letterFiles noon
    lettersCall lettersArguments rfl rfl rfl rfl
  have judged (path : String) (known : path ∈ ["a.txt", "é.txt"]) :=
    @result_judge_of_other asciiHost letterFiles (AnalysisSettings.ofConfig Config.standard) path
      (by revert path; decide) (by revert path; decide)
  have found : (@verdicts asciiHost letterFiles (AnalysisSettings.ofConfig Config.standard)
      ["a.txt", "é.txt"]).result = .ok [
        { path := "a.txt", script := false, markup := false },
        { path := "é.txt", script := false, markup := false }] := by
    simp [verdicts, Logged.result_bind_eq_ok_iff, judged]
  have stops : @Performed.StopsAt asciiHost (@performClassify asciiHost letterFiles false
      (AnalysisSettings.ofConfig Config.standard) ["a.txt", "é.txt"]) ["a.txt: not a sketch"]
        "é.txt: not a sketch" := by
    unfold performClassify Performed.after
    rw [found]
    exact @Performed.StopsAt.mk asciiHost _ _ _ rfl (by decide) ⟨_, rfl, rfl⟩
  have present : ∀ path ∈ ["a.txt", "é.txt"], ready.files.pathExists path = true := by
    rw [files]
    exact fun path => pathExists_letterFiles
  have stopsAt : @Arguments.StopsAt asciiHost lettersArguments
      { config := Config.standard, warnings := [] } ready.files (.classify ["a.txt", "é.txt"])
        ["a.txt: not a sketch"] "é.txt: not a sketch" :=
    @Arguments.StopsAt.mk asciiHost _ _ _ _ _ _ rfl rfl nofun present (files ▸ stops)
  obtain ⟨code, shown⟩ := @runChecked_stops asciiHost _ _ _ rfl _ _ _ stopsAt
  exact ⟨(@run_of_ready asciiHost _ _ _ _ _ _ isReady).1.trans code,
    @shownOn_of_runChecked asciiHost _ _ _ _ _ _ _ isReady rfl shown⟩

end Example

end SketchSurvey.CommandLine
