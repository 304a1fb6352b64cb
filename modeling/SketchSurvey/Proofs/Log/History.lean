import SketchSurvey.Proofs.Log.Frame

/-! Histories of logging: what holds in every state that setting up, logging and shutting down lead to, and
that a setup leads to the same state whatever came before. -/

set_option autoImplicit false

namespace SketchSurvey.Log

open SketchSurvey.Files

/-- One step of a program that logs. -/
inductive Step where
  | configure (setup : Setup) (force : Bool)
  | log (r : Record)
  | shutdown
  /-- The listener gets on with its work, which it may do at any moment. -/
  | listen

/-- What is in force between two steps: a setup, and the place of its log file if that could be opened. -/
structure InForce where
  setup : Setup
  file : Option Location

/-- A step, the session before it, and what was in force then. -/
structure Event where
  before : Session
  inForce : Option InForce
  step : Step

/-- The file of a setup, unless it wants none. -/
def Setup.path? (setup : Setup) : Option String := setup.logFile.filter fun p => !p.isEmpty

/-- Opens a file for more bytes, once the directories above it are made. -/
def openForMore (fs : FileSystem) (path : String) : Except Problem FileSystem :=
  let full := Path.absolute fs.workingPath path
  let (files, made) := fs.makeDirectories (Path.parent full)
  made.bind fun _ => files.append full []

namespace Session

/-- Whether the log file of a setup opens. -/
def opens (s : Session) (setup : Setup) : Bool :=
  setup.path?.any fun path => (openForMore s.files path).toOption.isSome

/-- The place of the log file of a setup, if there is a file. -/
def logFilePlace (s : Session) (setup : Setup) : Option Location := do
  let path ← setup.path?
  match s.files.status (Path.absolute s.files.workingPath path) with
  | .ok (location, .file _) => some location
  | _ => none

/-- The session in which the sinks of a setup are opened: what was set up before is taken down. -/
def readyFor (s : Session) (setup : Setup) : Session := s.reset (Level.ofName setup.level)

/-- What is in force after a setup that led from `s` to `s'`. Without force it is passed over where there
is one already. -/
def inForceAfter (s s' : Session) (before : Option InForce) (setup : Setup) (force : Bool) :
    Option InForce :=
  if before.isSome && !force then before
  else some { setup, file := if (s.readyFor setup).opens setup then s'.logFilePlace setup else none }

end Session

/-- A history: steps that return, one after another, from one session to another. -/
inductive History (start : Session) : List Event → Session → Option InForce → Prop where
  | start : History start [] start none
  | configure {events s inForce setup force s'} : History start events s inForce →
      s.configure setup force = (s', .ok ()) →
      History start (events ++ [⟨s, inForce, .configure setup force⟩]) s'
        (s.inForceAfter s' inForce setup force)
  | log {events s inForce} (r : Record) : History start events s inForce →
      History start (events ++ [⟨s, inForce, .log r⟩]) (s.log r) inForce
  | shutdown {events s inForce} : History start events s inForce →
      History start (events ++ [⟨s, inForce, .shutdown⟩]) s.shutdown none
  | listen {events s inForce} : History start events s inForce →
      History start (events ++ [⟨s, inForce, .listen⟩]) s.writeOldest inForce

namespace Logging

/-- How many of the handlers that setups attach are attached. -/
def attached (l : Logging) : Nat := l.handlers.count .queue

/-- Logging is not set up. Others may have attached their handlers. -/
structure IsDown (l : Logging) : Prop where
  configured : l.configured = false
  attached : l.attached = 0
  listener : l.listener = none

/-- The parts of a set-up fit together. -/
structure Fits (l : Logging) : Prop where
  attached_le : l.attached ≤ 1
  listening : l.attached = 1 ↔ l.listener.isSome
  configured : l.attached = 1 → l.configured = true

end Logging

section Outcome

/-- The sink of a log file. -/
def Setup.fileSink (setup : Setup) (working : String) (layout : Layout) (path : String) : FileSink where
  path := Path.absolute working path
  layout := layout
  timeFormat := setup.timeFormat
  maxBytes := setup.maxBytes
  backupCount := setup.backupCount

/-- The sinks of a setup, if its log file opens or does not. -/
def Setup.sinks (setup : Setup) (working : String) (opens : Bool) : Sinks where
  level := Level.ofName setup.level
  console := if setup.console then Layout.ofText? setup.consoleFormat else none
  file := (if opens then setup.path? else none).bind fun path =>
    (Layout.ofText? setup.fileFormat).map fun layout => setup.fileSink working layout path

/-- The state that a setup leads to. Nothing of it comes from a state before. -/
def Setup.logging (setup : Setup) (working : String) (opens : Bool) (others : List Handler) : Logging where
  level := Level.ofName setup.level
  configured := true
  handlers := if setup.console || opens then others ++ [.queue] else others
  listener := if setup.console || opens then some { sinks := setup.sinks working opens } else none

variable {s t : Session} {setup : Setup}

theorem openForLines_of_ok {fs files : FileSystem} {path : String} (opened : openForMore fs path = .ok files) :
    Session.openForLines fs (Path.absolute fs.workingPath path) = (files, .ok ()) := by
  unfold openForMore at opened
  dsimp only at opened
  unfold Session.openForLines
  dsimp only
  rw [opened]

theorem openForLines_of_error {fs : FileSystem} {path : String} {p : Problem}
    (failed : openForMore fs path = .error p) :
    Session.openForLines fs (Path.absolute fs.workingPath path) =
      ((fs.makeDirectories (Path.parent (Path.absolute fs.workingPath path))).1, .error p) := by
  unfold openForMore at failed
  dsimp only at failed
  unfold Session.openForLines
  dsimp only
  rw [failed]

/-- A log file that is opened, in whatever way, is a sink. -/
theorem openFile_of_opened {opening : Session.Opening} {layout : Layout} {path : String} {files : FileSystem}
    (opened : opening s.files (Path.absolute s.files.workingPath path) = (files, .ok ())) :
    s.openFile setup layout path opening =
      ({ s with files }, .ok (some (setup.fileSink s.files.workingPath layout path))) := by
  unfold Session.openFile
  dsimp only
  rw [opened]
  rfl

/-- One that is not is reported and left out, if it was the system that did not open it. -/
theorem openFile_of_unopened {opening : Session.Opening} {layout : Layout} {path : String}
    {files : FileSystem} {p : Problem}
    (failed : opening s.files (Path.absolute s.files.workingPath path) = (files, .error p)) :
    s.openFile setup layout path opening =
      if p.isOfSystem then
        (({ s with files } : Session).say .log (Session.logFileWarning path p), .ok none)
      else ({ s with files }, .error (.file p)) := by
  unfold Session.openFile
  dsimp only
  rw [failed]

theorem openFile_of_ok {layout : Layout} {path : String} {files : FileSystem}
    (opened : openForMore s.files path = .ok files) :
    s.openFile setup layout path =
      ({ s with files }, .ok (some (setup.fileSink s.files.workingPath layout path))) :=
  openFile_of_opened (openForLines_of_ok opened)

theorem openFile_of_error {layout : Layout} {path : String} {p : Problem}
    (failed : openForMore s.files path = .error p) :
    s.openFile setup layout path =
      let full := Path.absolute s.files.workingPath path
      let s' := { s with files := (s.files.makeDirectories (Path.parent full)).1 }
      if p.isOfSystem then (s'.say .log (Session.logFileWarning path p), .ok none)
      else (s', .error (.file p)) :=
  openFile_of_unopened (openForLines_of_error failed)

/-- A file that is opened is a sink; one that cannot be is left out. -/
theorem file_of_openFile {layout : Layout} {path : String} {file : Option FileSink}
    (opened : s.openFile setup layout path = (t, .ok file)) :
    file = if (openForMore s.files path).toOption.isSome then
        some (setup.fileSink s.files.workingPath layout path)
      else none := by
  cases done : openForMore s.files path with
  | ok files =>
      rw [openFile_of_ok done, Prod.mk.injEq, Except.ok.injEq] at opened
      rw [← opened.2]
      rfl
  | error p =>
      rw [openFile_of_error done] at opened
      dsimp only at opened
      split at opened
      · rw [Prod.mk.injEq, Except.ok.injEq] at opened
        rw [← opened.2]
        rfl
      · simp at opened

/-- The console's layout, once it could be read. -/
theorem console_of_ok {console : Option Layout}
    (read : (if setup.console then
      match Layout.ofText? setup.consoleFormat with
      | some l => .ok (some l)
      | none => .error (SetupProblem.layout setup.consoleFormat)
      else .ok none : Except SetupProblem (Option Layout)) = .ok console) :
    console = (if setup.console then Layout.ofText? setup.consoleFormat else none) ∧
      console.isSome = setup.console := by
  cases wanted : setup.console with
  | false =>
      rw [wanted] at read
      cases read
      exact ⟨rfl, rfl⟩
  | true =>
      rw [wanted, if_pos rfl] at read
      cases layout : Layout.ofText? setup.consoleFormat with
      | none =>
          rw [layout] at read
          cases read
      | some l =>
          rw [layout] at read
          cases read
          exact ⟨rfl, rfl⟩

/-- The sinks that are opened are those of the setup, and there are some unless it wants none. -/
theorem sinks_of_openSinks {sinks : Sinks} (opened : s.openSinks setup = (t, .ok sinks)) :
    sinks = setup.sinks s.files.workingPath (s.opens setup) ∧
      sinks.isEmpty = !(setup.console || s.opens setup) := by
  unfold Session.openSinks at opened
  dsimp only at opened
  split at opened
  · cases opened
  · next console read unwanted =>
      obtain ⟨same, wanted⟩ := console_of_ok read
      have none' : setup.path? = none := unwanted
      have closed : s.opens setup = false := by rw [Session.opens, none', Option.any_none]
      simp only [Prod.mk.injEq, Except.ok.injEq] at opened
      rw [← opened.2, closed]
      refine ⟨by rw [Setup.sinks, ← same]; rfl, ?_⟩
      rw [Sinks.isEmpty, Bool.or_false, ← wanted]
      simp
  · next console path read wants =>
      obtain ⟨same, wanted⟩ := console_of_ok read
      have some' : setup.path? = some path := wants
      have opens : s.opens setup = (openForMore s.files path).toOption.isSome := by
        rw [Session.opens, some', Option.any_some]
      split at opened
      · cases opened
      · next layout readable =>
          split at opened
          · next file found =>
              simp only [Prod.mk.injEq, Except.ok.injEq] at opened
              have isFile := file_of_openFile found
              rw [← opened.2, opens]
              cases answer : (openForMore s.files path).toOption.isSome with
              | false =>
                  rw [answer, if_neg (by decide)] at isFile
                  rw [isFile]
                  refine ⟨by rw [Setup.sinks, ← same]; rfl, ?_⟩
                  rw [Sinks.isEmpty, Bool.or_false, ← wanted]
                  simp
              | true =>
                  rw [answer, if_pos rfl] at isFile
                  rw [isFile]
                  refine ⟨?_, by simp [Sinks.isEmpty]⟩
                  simp [Setup.sinks, some', readable, same]
          · cases opened

/-- A setup that is not passed over leads to the state that is its own, whatever was before. -/
theorem logging_of_configure {force : Bool} (acts : force = true ∨ s.logging.configured = false)
    (returned : s.configure setup force = (t, .ok ())) :
    t.logging = setup.logging s.files.workingPath ((s.readyFor setup).opens setup)
      s.logging.others := by
  have passed : ¬ (s.logging.configured && !force) = true := by
    rcases acts with rfl | down <;> simp_all
  rw [Session.configure, if_neg passed, ← Session.readyFor] at returned
  have keeps := s.keeps_reset (Level.ofName setup.level)
  have before := s.logging_reset (Level.ofName setup.level)
  rw [← Session.readyFor] at keeps before
  generalize s.readyFor setup = u at returned keeps before ⊢
  have samePath : u.files.workingPath = s.files.workingPath := by
    rw [FileSystem.workingPath, keeps.working, FileSystem.workingPath]
  split at returned
  · next v sinks opened =>
      obtain ⟨isSinks, isEmpty⟩ := sinks_of_openSinks opened
      have writes : v.logging = u.logging := by
        have logging := (u.writes_openSinks setup).logging
        rwa [opened] at logging
      simp only [Prod.mk.injEq, and_true] at returned
      rw [← returned, Session.attach, isEmpty, ← samePath, isSinks, Setup.logging]
      cases setup.console || u.opens setup with
      | false => simp [writes, before]
      | true => simp [writes, before]
  · cases returned

/-- A setup that is passed over changes nothing. -/
theorem configure_of_configured (configured : s.logging.configured = true) (setup : Setup) :
    s.configure setup = (s, .ok ()) := by
  rw [Session.configure, configured]
  rfl

end Outcome

section Attached

/-- None of the handlers of others passes records to the queue. -/
theorem Logging.count_others (l : Logging) : l.others.count .queue = 0 := by
  rw [List.count_eq_zero, Logging.others, List.mem_filter]
  simp

theorem Logging.filter_others (l : Logging) : l.others.filter (· != .queue) = l.others := by
  simp [Logging.others, List.filter_filter]

theorem Setup.attached_logging (setup : Setup) (working : String) (opens : Bool) (l : Logging) :
    (setup.logging working opens l.others).attached = if setup.console || opens then 1 else 0 := by
  rw [Logging.attached, Setup.logging]
  split <;> simp [l.count_others]

theorem Setup.others_logging (setup : Setup) (working : String) (opens : Bool) (l : Logging) :
    (setup.logging working opens l.others).others = l.others := by
  rw [Logging.others, Setup.logging]
  dsimp only
  split
  · rw [List.filter_append, l.filter_others]
    exact List.append_nil _
  · exact l.filter_others

theorem Setup.fits_logging (setup : Setup) (working : String) (opens : Bool) (l : Logging) :
    (setup.logging working opens l.others).Fits where
  attached_le := by
    rw [setup.attached_logging]
    split <;> omega
  listening := by
    rw [setup.attached_logging, Setup.logging]
    split <;> simp_all
  configured _ := rfl

theorem Logging.IsDown.fits {l : Logging} (down : l.IsDown) : l.Fits where
  attached_le := by rw [down.attached]; omega
  listening := by simp [down.attached, down.listener]
  configured attached := by simp [down.attached] at attached

/-- After shutting down logging is down, and the handlers of others are still there. -/
theorem isDown_shutdown (s : Session) : s.shutdown.logging.IsDown where
  configured := by rw [s.logging_shutdown]
  attached := by
    rw [s.logging_shutdown]
    exact s.logging.count_others
  listener := by rw [s.logging_shutdown]

theorem others_shutdown (s : Session) : s.shutdown.logging.others = s.logging.others := by
  rw [s.logging_shutdown]
  exact s.logging.filter_others

/-- Logging a record changes nothing but the queue. -/
theorem logging_log (s : Session) (r : Record) :
    ∃ change : Listener → Listener, (∀ l, (change l).sinks = l.sinks) ∧
      (s.log r).logging = { s.logging with listener := s.logging.listener.map change } := by
  unfold Session.log
  have same : s.logging = { s.logging with listener := s.logging.listener.map id } := by
    rw [Option.map_id]
    rfl
  split
  · exact ⟨id, fun _ => rfl, same⟩
  · split
    · split
      · exact ⟨id, fun _ => rfl, same⟩
      · exact ⟨id, fun _ => rfl, same⟩
    · split
      · exact ⟨fun l => { l with pending := l.pending ++ [r] }, fun _ => rfl, rfl⟩
      · exact ⟨id, fun _ => rfl, same⟩

/-- So does the work of the listener. -/
theorem logging_writeOldest (s : Session) :
    ∃ change : Listener → Listener, (∀ l, (change l).sinks = l.sinks) ∧
      s.writeOldest.logging = { s.logging with listener := s.logging.listener.map change } := by
  unfold Session.writeOldest
  split
  · next sinks r rest listening =>
      refine ⟨fun l => { l with pending := rest }, fun _ => rfl, ?_⟩
      rw [(Session.writes_deliver ..).logging, listening]
      rfl
  · exact ⟨id, fun _ => rfl, by rw [Option.map_id]; rfl⟩

theorem Logging.Fits.ofListener {l : Logging} (fits : l.Fits) (change : Listener → Listener) :
    Logging.Fits { l with listener := l.listener.map change } where
  attached_le := fits.attached_le
  listening := by
    rw [Option.isSome_map]
    exact fits.listening
  configured := fits.configured

/-- A setup that returns is passed over or leads to a state of its own. -/
theorem configure_cases {s s' : Session} {setup : Setup} {force : Bool}
    (returned : s.configure setup force = (s', .ok ())) :
    (s.logging.configured = true ∧ force = false ∧ s' = s) ∨
      ((force = true ∨ s.logging.configured = false) ∧ s'.logging =
        setup.logging s.files.workingPath ((s.readyFor setup).opens setup)
          s.logging.others) := by
  by_cases acts : force = true ∨ s.logging.configured = false
  · exact .inr ⟨acts, logging_of_configure acts returned⟩
  · rw [not_or, Bool.not_eq_true, Bool.not_eq_false] at acts
    obtain ⟨rfl, configured⟩ := acts
    rw [configure_of_configured configured, Prod.mk.injEq] at returned
    exact .inl ⟨configured, rfl, returned.1.symm⟩

end Attached

section Invariants

variable {start s : Session} {events : List Event} {inForce : Option InForce}

theorem History.others (history : History start events s inForce) :
    s.logging.others = start.logging.others := by
  induction history with
  | start => rfl
  | configure _ returned ih =>
      rcases configure_cases returned with ⟨-, -, rfl⟩ | ⟨-, logging⟩
      · exact ih
      · rw [logging, Setup.others_logging, ih]
  | @log _ s _ r _ ih =>
      obtain ⟨change, -, logging⟩ := logging_log s r
      rw [logging]
      exact ih
  | @shutdown _ s _ _ ih => rw [others_shutdown, ih]
  | @listen _ s _ _ ih =>
      obtain ⟨change, -, logging⟩ := logging_writeOldest s
      rw [logging]
      exact ih

theorem History.fits (down : start.logging.IsDown) (history : History start events s inForce) :
    s.logging.Fits := by
  induction history with
  | start => exact down.fits
  | configure _ returned ih =>
      rcases configure_cases returned with ⟨-, -, rfl⟩ | ⟨-, logging⟩
      · exact ih
      · rw [logging]
        exact Setup.fits_logging ..
  | @log _ s _ r _ ih =>
      obtain ⟨change, -, logging⟩ := logging_log s r
      rw [logging]
      exact ih.ofListener change
  | @shutdown _ s _ _ ih => exact (isDown_shutdown s).fits
  | @listen _ s _ _ ih =>
      obtain ⟨change, -, logging⟩ := logging_writeOldest s
      rw [logging]
      exact ih.ofListener change

theorem History.workingPath (history : History start events s inForce) :
    s.files.workingPath = start.files.workingPath := by
  have working : s.files.working = start.files.working := by
    induction history with
    | start => rfl
    | @configure _ s _ setup force _ _ returned ih =>
        have keeps := (s.keeps_configure setup force).working
        rw [returned] at keeps
        exact keeps.trans ih
    | @log _ s _ r _ ih => exact (s.keeps_log r).working.trans ih
    | @shutdown _ s _ _ ih => exact s.keeps_shutdown.working.trans ih
    | @listen _ s _ _ ih => exact s.keeps_writeOldest.working.trans ih
  rw [FileSystem.workingPath, working, FileSystem.workingPath]

end Invariants

/-- What is promised of a session that a history leads to from another one. -/
structure Session.Orderly (start s : Session) : Prop where
  fits : s.logging.Fits
  /-- Nobody else's handler is removed, by then or from any other session on. -/
  others : s.logging.others = start.logging.others ∧
    ∀ {t u events inForce}, History t events u inForce → u.logging.others = t.logging.others
  passedOver : s.logging.configured = true → ∀ setup, s.configure setup = (s, .ok ())
  /-- What a setup leads to is for the setup and the fate of its log file to decide. -/
  decided : ∀ {setup force s'}, force = true ∨ s.logging.configured = false →
    s.configure setup force = (s', .ok ()) →
    s'.logging = setup.logging start.files.workingPath
      ((s.readyFor setup).opens setup) start.logging.others
  undone : s.shutdown.logging.IsDown

/-- Every state of a history that starts with logging down is orderly. -/
theorem history_orderly {start s : Session} {events : List Event} {inForce : Option InForce}
    (down : start.logging.IsDown) (history : History start events s inForce) : start.Orderly s where
  fits := history.fits down
  others := ⟨history.others, fun other => other.others⟩
  passedOver := configure_of_configured
  decided := by
    intro setup force s' acts returned
    rw [logging_of_configure acts returned, history.workingPath, history.others]
  undone := isDown_shutdown s

/-- A session in which someone else has attached a handler. -/
def hosted : Session where
  files := {}
  now := { year := 2024, month := 5, day := 6, hour := 7, minute := 8, second := 9 }
  logging := { handlers := [.foreign "host"] }

/-- A record waits in the queue. -/
def waiting : Session := (hosted.configure {}).1.log ⟨Level.error, "sketch", "gone"⟩

/-- Logging was set up anew, without a sink. -/
def silenced : Session := (waiting.configure { console := false } true).1

theorem history_silenced : ∃ events inForce, History hosted events silenced inForce := by
  have first : hosted.configure {} = ((hosted.configure {}).1, .ok ()) := Prod.ext rfl rfl
  have second : waiting.configure { console := false } true = (silenced, .ok ()) := Prod.ext rfl rfl
  exact ⟨_, _, .configure (.log _ (.configure .start first)) second⟩

theorem history_orderly_silenced :
    hosted.logging.IsDown ∧ (∃ events inForce, History hosted events silenced inForce) ∧
      hosted.Orderly silenced := by
  have down : hosted.logging.IsDown := ⟨rfl, by decide, rfl⟩
  obtain ⟨events, inForce, history⟩ := history_silenced
  exact ⟨down, ⟨events, inForce, history⟩, history_orderly down history⟩

end SketchSurvey.Log
