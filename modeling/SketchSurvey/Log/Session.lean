import SketchSurvey.Files.FileSystem
import SketchSurvey.Log.Layout
import SketchSurvey.Log.Moment

/-!
A run and its logging. Records go to a queue; whoever listens to it writes them to the sinks: the console,
and a file that starts anew when it is full.

Until logging is set up a record of weight is shown bare.
-/

set_option autoImplicit false

namespace SketchSurvey.Log

open SketchSurvey.Files

/-- How logging is to be set up. -/
structure Setup where
  level : String := "INFO"
  console : Bool := true
  logFile : Option String := none
  /-- The size at which the file starts anew; there is none if it is not positive. -/
  maxBytes : Int := 1048576
  /-- How many full files are kept. -/
  backupCount : Int := 2
  consoleFormat : String := "%(levelname)s | %(name)s | %(message)s"
  fileFormat : String := "%(asctime)s | %(levelname)s | %(name)s | %(message)s"
  timeFormat : String := "%Y-%m-%d %H:%M:%S"
  deriving Repr

/-- The setup that a configuration asks for. An empty text asks for nothing. -/
def Setup.ofTexts (level logFile : String) (console : Bool) : Setup where
  level := if level.isEmpty then "INFO" else level
  console := console
  logFile := if logFile.isEmpty then none else some logFile

/-- A file that records are written to. -/
structure FileSink where
  path : String
  layout : Layout
  timeFormat : String
  maxBytes : Int
  backupCount : Int
  deriving Repr

structure Sinks where
  /-- Records below this level are not written. -/
  level : Int
  console : Option Layout := none
  file : Option FileSink := none
  deriving Repr

def Sinks.isEmpty (s : Sinks) : Bool := s.console.isNone && s.file.isNone

/-- What is attached to the root of all loggers. -/
inductive Handler where
  /-- Passes records to the queue. -/
  | queue
  /-- Was attached by someone else. -/
  | foreign (name : String)
  deriving BEq, Repr, DecidableEq, ReflBEq, LawfulBEq

/-- Who empties the queue, and the records that are in it. -/
structure Listener where
  sinks : Sinks
  pending : List Record := []
  deriving Repr

structure Logging where
  level : Int := Level.warning
  configured : Bool := false
  handlers : List Handler := []
  listener : Option Listener := none
  deriving Repr

/-- Where a run shows something. -/
inductive Channel where
  | output
  | error
  /-- What the console sink writes. -/
  | log
  deriving BEq, Repr, DecidableEq, ReflBEq, LawfulBEq

structure Session where
  files : FileSystem
  now : Moment
  logging : Logging := {}
  shown : List (Channel × String) := []
  deriving Repr

/-- Why logging was not set up. -/
inductive SetupProblem where
  | layout (text : String)
  | file (p : Problem)
  deriving BEq, Repr, DecidableEq

def SetupProblem.message : SetupProblem → String
  | layout text => "Invalid format '" ++ text ++ "' for '%' style"
  | file p => p.message

namespace Session

def say (s : Session) (channel : Channel) (text : String) : Session :=
  { s with shown := s.shown ++ [(channel, text)] }

/-- All that was shown on some channels, in order. -/
def shownOn (s : Session) (channels : List Channel) : String :=
  String.join ((s.shown.filter fun (c, _) => channels.contains c).map (·.2))

end Session

namespace FileSink

/-- The path of a full file; the higher the number, the older it is. -/
def backup (f : FileSink) (n : Nat) : String := f.path ++ "." ++ toString n

/-- Renames a file if it is there. What cannot be renamed stays. -/
def shift (fs : FileSystem) (old new : String) : FileSystem :=
  if fs.pathExists old then (fs.rename old new).toOption.getD fs else fs

/-- Makes room for a new full file: each one gets the next number, and the oldest is given up. -/
def shiftBackups (f : FileSink) (fs : FileSystem) : Nat → FileSystem
  | 0 => fs
  | n + 1 => f.shiftBackups (shift fs (f.backup (n + 1)) (f.backup (n + 2))) n

/-- Starts the file anew. Where no full files are kept, it goes on as it is. -/
def rollOver (f : FileSink) (fs : FileSystem) : FileSystem :=
  let fs := if f.backupCount > 0 then
      shift (f.shiftBackups fs (f.backupCount.toNat - 1)) f.path (f.backup 1)
    else fs
  (fs.append f.path []).toOption.getD fs

/-- Whether a line would fill the file. Only plain files start anew. -/
def isFull (f : FileSink) (fs : FileSystem) (line : String) : Bool :=
  match fs.size f.path with
  | .ok size => fs.isFile f.path && f.maxBytes > 0 && size + line.length ≥ f.maxBytes
  | .error _ => f.maxBytes > 0 && line.length ≥ f.maxBytes

def write (f : FileSink) (fs : FileSystem) (line : String) : FileSystem :=
  let fs := if f.isFull fs line then f.rollOver fs else fs
  (fs.append f.path (Text.Utf8.encode line)).toOption.getD fs

end FileSink

namespace Session

def toConsole (s : Session) (layout : Option Layout) (r : Record) : Session :=
  match layout.bind fun l => l.render? (s.now.write "") r with
  | some text => s.say .log (text ++ "\n")
  | none => s

def toFile (s : Session) (file : Option FileSink) (r : Record) : Session :=
  match file with
  | none => s
  | some f =>
    match f.layout.render? (s.now.write f.timeFormat) r with
    | some text => { s with files := f.write s.files (text ++ "\n") }
    | none => s

/-- Writes a record to the sinks. -/
def deliver (sinks : Sinks) (s : Session) (r : Record) : Session :=
  if r.level < sinks.level then s else (s.toConsole sinks.console r).toFile sinks.file r

/-- The listener takes the oldest record out of the queue and writes it. -/
def writeOldest (s : Session) : Session :=
  match s.logging.listener with
  | some { sinks, pending := r :: rest } =>
    deliver sinks { s with logging := { s.logging with listener := some { sinks, pending := rest } } } r
  | _ => s

/-- Ends the listening; the records in the queue are written first. -/
def stopListening (s : Session) : Session :=
  match s.logging.listener with
  | none => s
  | some l =>
    let s := l.pending.foldl (deliver l.sinks) s
    { s with logging := { s.logging with listener := none } }

/-- Takes the queue away from the root. -/
def detach (s : Session) : Session :=
  { s with logging := { s.logging with handlers := s.logging.handlers.filter (· != .queue) } }

def logFileWarning (path : String) (p : Problem) : String :=
  "WARNING: cannot open log file '" ++ path ++ "': " ++ p.message ++ "\n"

/-- How a file is opened for more lines: the files that this leaves, and what it comes to. -/
abbrev Opening := FileSystem → String → FileSystem × Except Problem Unit

/-- Makes the directories above a file and opens it. -/
def openForLines : Opening := fun fs path =>
  let (fs, made) := fs.makeDirectories (Path.parent path)
  match made.bind fun _ => fs.append path [] with
  | .ok fs => (fs, .ok ())
  | .error p => (fs, .error p)

/-- Opens the file of a setup. If the system does not open it, that is reported, and logging does without
it. -/
def openFile (s : Session) (setup : Setup) (layout : Layout) (path : String)
    (opening : Opening := openForLines) : Session × Except SetupProblem (Option FileSink) :=
  let full := Path.absolute s.files.workingPath path
  let (files, opened) := opening s.files full
  let s := { s with files }
  match opened with
  | .ok () =>
    (s, .ok (some {
      path := full, layout, timeFormat := setup.timeFormat, maxBytes := setup.maxBytes,
      backupCount := setup.backupCount }))
  | .error p =>
    if p.isOfSystem then (s.say .log (logFileWarning path p), .ok none) else (s, .error (.file p))

/-- The sinks of a setup. -/
def openSinks (s : Session) (setup : Setup) (opening : Opening := openForLines) :
    Session × Except SetupProblem Sinks :=
  let level := Level.ofName setup.level
  let console : Except SetupProblem (Option Layout) := if setup.console then
      match Layout.ofText? setup.consoleFormat with
      | some l => .ok (some l)
      | none => .error (.layout setup.consoleFormat)
    else .ok none
  match console, (setup.logFile.filter fun p => !p.isEmpty) with
  | .error p, _ => (s, .error p)
  | .ok console, none => (s, .ok { level, console })
  | .ok console, some path =>
    match Layout.ofText? setup.fileFormat with
    | none => (s, .error (.layout setup.fileFormat))
    | some layout =>
      match s.openFile setup layout path opening with
      | (s, .ok file) => (s, .ok { level, console, file })
      | (s, .error p) => (s, .error p)

/-- Sets the level and takes down what was set up before. -/
def reset (s : Session) (level : Int) : Session :=
  { s with logging := { s.logging with level } }.detach.stopListening

/-- Puts a queue before the sinks, if there are any. -/
def attach (s : Session) (sinks : Sinks) : Session :=
  if sinks.isEmpty then { s with logging := { s.logging with configured := true } }
  else
    { s with logging := { s.logging with
        configured := true
        handlers := s.logging.handlers ++ [.queue]
        listener := some { sinks } } }

/-- Sets up logging. Once it is set up nothing changes, unless that is forced. -/
def configure (s : Session) (setup : Setup) (force : Bool := false)
    (opening : Opening := openForLines) : Session × Except SetupProblem Unit :=
  if s.logging.configured && !force then (s, .ok ())
  else
    match (s.reset (Level.ofName setup.level)).openSinks setup opening with
    | (s, .ok sinks) => (s.attach sinks, .ok ())
    | (s, .error p) => (s, .error p)

/-- Takes logging down. The level stays. -/
def shutdown (s : Session) : Session :=
  let s := s.stopListening.detach
  { s with logging := { s.logging with configured := false } }

def enqueue (s : Session) (r : Record) : Session :=
  { s with logging := { s.logging with
      listener := s.logging.listener.map fun l => { l with pending := l.pending ++ [r] } } }

/-- Whether a record is light enough to be passed over. No record has a level of zero or below. -/
def ignores (s : Session) (r : Record) : Bool := r.level ≤ 0 || r.level < s.logging.level

/-- Logs a record. Without any handler it is shown bare if it is a warning at least. -/
def log (s : Session) (r : Record) : Session :=
  if s.ignores r then s
  else if s.logging.handlers.isEmpty then
    if r.level ≥ Level.warning then s.say .error (r.message ++ "\n") else s
  else if s.logging.handlers.contains .queue then s.enqueue r
  else s

def logAll (s : Session) (records : List Record) : Session := records.foldl log s

end Session

end SketchSurvey.Log
