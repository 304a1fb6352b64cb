import SketchSurvey.CommandLine.Run
import Std.Time

/-!
The program. What a run may look at is copied from the system first, and what the run has changed is
written back: only log files change.
-/

set_option autoImplicit false

namespace SketchSurvey.Main

open SketchSurvey.CommandLine SketchSurvey.Files SketchSurvey.Log SketchSurvey.Settings

/-- What there is at a path of the system. The bytes of a file are read if `whole` says so. -/
def nodeAt? (path : String) (whole : Bool) : IO (Option Node) := do
  let file := (← IO.currentDir) / path
  try
    match (← file.metadata).type with
    | .dir => return some .directory
    | _ =>
      if whole then return some (.file (← IO.FS.readBinFile file).data.toList)
      else return some (.file [])
  catch
    | .noFileOrDirectory .. =>
      -- A link that leads nowhere is there all the same.
      try
        discard file.symlinkMetadata
        return some (.link "")
      catch _ => return none
    | _ => return some (.link (Path.baseName path))

/-- The locations on the way to a location, itself included. -/
def locationsTo : Location → List Location
  | [] => []
  | name :: above => locationsTo above ++ [name :: above]

def pathOf (location : Location) : String := "/" ++ "/".intercalate location.reverse

/-- Copies what is at a path and above it. -/
def copy (fs : FileSystem) (path : String) (whole : Bool := true) : IO FileSystem :=
  (locationsTo (names (Path.absolute fs.workingPath path)).reverse).foldlM (fun fs location => do
    if (fs.node? location).isSome then return fs
    match ← nodeAt? (pathOf location) whole with
    | some node => return fs.put location node
    | none => return fs) fs

/-- Copies what is in a directory; only scripts and pages are read. -/
def copyEntries (fs : FileSystem) (path : String) : IO FileSystem := do
  if !fs.isDirectory path then return fs
  let entries ← ((← IO.currentDir) / path).readDir
  entries.foldlM (fun fs entry =>
    let inside := Path.join path entry.fileName
    copy fs inside (Sketch.hasExtension (Sketch.scriptExtensions ++ Sketch.markupExtensions) inside)) fs

/-- Copies what a command is about. -/
def copyFor (fs : FileSystem) (c : Command) : IO FileSystem := do
  let fs ← c.paths.foldlM (fun fs path => if path.isEmpty then pure fs else copy fs path) fs
  match c with
  | .scan path | .listing path => copyEntries fs path
  | _ => return fs

/-- Copies the log file that a configuration names, and the full ones beside it. -/
def copyLog (homes : Path.Homes) (fs : FileSystem) (given : Given) : IO FileSystem :=
  match validate homes (.object given) false with
  | .error _ => return fs
  | .ok v =>
    let file := v.config.logFile
    if file.isEmpty then return fs
    else
      let kept := (List.range (({} : Setup).backupCount.toNat)).map fun n => file ++ "." ++ toString (n + 1)
      (file :: kept).foldlM (fun fs path => copy fs path) fs

/-- Copies all that a run with some arguments may look at. -/
def snapshot (homes : Path.Homes) (args : List String) : IO FileSystem := do
  let working := (← IO.currentDir).toString
  let fs : FileSystem := { working := (names working).reverse }
  let fs ← copy fs working
  match Arguments.read args with
  | .error _ => return fs
  | .ok a =>
    let fs ← copy fs (a.options.config.text?.getD (userFile homes))
    let fs ← copyLog homes fs (givenConfig homes fs a).given
    a.command.elim (pure fs) (copyFor fs)

/-- Writes back what has changed. -/
def writeBack (old new : FileSystem) : IO Unit := do
  for (location, node) in new.nodes do
    if old.node? location != some node then
      match node with
      | .directory => IO.FS.createDirAll (pathOf location)
      | .file bytes => IO.FS.writeBinFile (pathOf location) ⟨bytes.toArray⟩
      | .link _ => pure ()
  for (location, _) in old.nodes do
    if (new.node? location).isNone then IO.FS.removeFile (pathOf location)

/-- The home directories of all users. -/
def readHomes : IO Path.Homes := do
  let own := (← IO.getEnv "HOME").getD "/"
  let lines ← try IO.FS.lines "/etc/passwd" catch _ => pure #[]
  let others := lines.toList.filterMap fun line =>
    match line.splitOn ":" with
    | [name, _, _, _, _, home, _] => some (name, home)
    | _ => none
  return { own, others }

def now : IO Moment := do
  let t ← Std.Time.PlainDateTime.now
  return {
    year := t.year.toInt.toNat, month := t.month.toInt.toNat, day := t.day.toInt.toNat
    hour := t.hour.toInt.toNat, minute := t.minute.toInt.toNat, second := t.second.toInt.toNat }

end SketchSurvey.Main

open SketchSurvey in
/-- Runs the program on the arguments it was called with. -/
def main (args : List String) : IO UInt32 := do
  let homes ← Main.readHomes
  let files ← Main.snapshot homes args
  let ending := CommandLine.run homes { files, now := ← Main.now } args
  for (channel, text) in ending.session.shown do
    match channel with
    | .output => IO.print text
    | .error | .log => IO.eprint text
  Main.writeBack files ending.session.files
  return ending.code.toUInt32
