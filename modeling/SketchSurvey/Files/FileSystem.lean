import SketchSurvey.Files.Path
import SketchSurvey.Text.Sorted
import SketchSurvey.Text.Split
import SketchSurvey.Text.Utf8

/-!
Files, directories and links, and what can be done with them by path.

A path is followed name by name. Links on the way are followed too; one at the end is followed or not,
as the operation wants it.
-/

set_option autoImplicit false

namespace SketchSurvey.Files

open SketchSurvey.Text.Utf8 (Bytes)

/-- A place in the tree of directories: the names on the way to it, the last one first. -/
abbrev Location := List String

inductive Node where
  | file (bytes : Bytes)
  | directory
  | link (target : String)
  deriving BEq, Repr

/-- What there is, and the directory where relative paths start. The root needs no node. -/
structure FileSystem where
  nodes : List (Location × Node) := []
  working : Location := []
  deriving Repr

/-- Why something could not be done with a path. -/
inductive Cause where
  | notFound
  | alreadyExists
  | notDirectory
  | isDirectory
  | nameTooLong
  | tooManyLinks
  /-- What no tree of files has in it: rights, devices, a full disk. -/
  | other (number : Nat) (message : String)
  deriving BEq, Repr, DecidableEq

namespace Cause

/-- The number by which systems know the cause. -/
def number : Cause → Nat
  | notFound => 2
  | alreadyExists => 17
  | notDirectory => 20
  | isDirectory => 21
  | nameTooLong => 36
  | tooManyLinks => 40
  | other number _ => number

def message : Cause → String
  | notFound => "No such file or directory"
  | alreadyExists => "File exists"
  | notDirectory => "Not a directory"
  | isDirectory => "Is a directory"
  | nameTooLong => "File name too long"
  | tooManyLinks => "Too many levels of symbolic links"
  | other _ message => message

end Cause

/-- An operation that failed. -/
inductive Problem where
  | failed (cause : Cause) (path : String)
  /-- A link could not be made. -/
  | notLinked (cause : Cause) (target path : String)
  /-- No path holds this character. -/
  | nullInPath
  /-- The system has no code for a path. -/
  | unencodable (reason : String)
  deriving BEq, Repr, DecidableEq

namespace Problem

def message : Problem → String
  | failed cause path =>
    "[Errno " ++ toString cause.number ++ "] " ++ cause.message ++ ": " ++ Text.quoted path
  | notLinked cause target path =>
    "[Errno " ++ toString cause.number ++ "] " ++ cause.message ++ ": " ++ Text.quoted target ++
      " -> " ++ Text.quoted path
  | nullInPath => "embedded null byte"
  | unencodable reason => reason

def cause? : Problem → Option Cause
  | failed cause _ => some cause
  | notLinked cause _ _ => some cause
  | nullInPath | unencodable _ => none

/-- Whether the system refused the operation. The others never reached it. -/
def isOfSystem (p : Problem) : Bool := p.cause?.isSome

end Problem

/-- Where a path leads: to something, or to a free place in a directory. -/
inductive Place where
  | present (location : Location) (node : Node)
  | absent (location : Location)
  deriving Repr

/-- Whether a path ends in a slash, by which it asks for a directory. -/
def asksForDirectory (path : String) : Bool := path.toList.getLast? == some '/'

/-- The names in a path. -/
def names (path : String) : List String :=
  let all := (Text.splitAt '/' path).filter fun n => !n.isEmpty
  if asksForDirectory path then all ++ ["."] else all

/-- How many bytes a name may have, how many a path, and how many links are followed. -/
def maxNameSize : Nat := 255
def maxPathSize : Nat := 4095
def maxLinks : Nat := 40

namespace FileSystem

def node? (fs : FileSystem) (location : Location) : Option Node :=
  match location with
  | [] => some .directory
  | _ => (fs.nodes.find? (·.1 == location)).map (·.2)

/-- The path of the directory where relative paths start. -/
def workingPath (fs : FileSystem) : String := "/" ++ "/".intercalate fs.working.reverse

def startOf (fs : FileSystem) (path : String) : Location :=
  if Path.isAbsolute path then [] else fs.working

/-- Follows names from a directory on. `links` bounds how many links are followed. -/
def walk (fs : FileSystem) (followLast : Bool) (links : Nat) (dir : Location) :
    List String → Except Cause Place
  | [] => .ok (.present dir .directory)
  | name :: rest =>
    if name == "." then fs.walk followLast links dir rest
    else if name == ".." then fs.walk followLast links dir.tail rest
    else if name.utf8ByteSize > maxNameSize then .error .nameTooLong
    else
      match fs.node? (name :: dir) with
      | none => if rest.isEmpty then .ok (.absent (name :: dir)) else .error .notFound
      | some .directory => fs.walk followLast links (name :: dir) rest
      | some (.file bytes) =>
        if rest.isEmpty then .ok (.present (name :: dir) (.file bytes)) else .error .notDirectory
      | some (.link target) =>
        if rest.isEmpty && !followLast then .ok (.present (name :: dir) (.link target))
        else
          match links with
          | 0 => .error .tooManyLinks
          | links + 1 =>
            if target.isEmpty then .error .notFound
            else
              fs.walk followLast links (if Path.isAbsolute target then [] else dir)
                (names target ++ rest)
termination_by path => (links, path.length)

/-- Finds the place of a path. -/
def locate (fs : FileSystem) (followLast : Bool) (path : String) : Except Problem Place :=
  if path.toList.contains '\x00' then .error .nullInPath
  else if path.isEmpty then .error (.failed .notFound path)
  else if path.utf8ByteSize > maxPathSize then .error (.failed .nameTooLong path)
  else
    match fs.walk followLast maxLinks (fs.startOf path) (names path) with
    | .ok place => .ok place
    | .error cause => .error (.failed cause path)

/-- What a path leads to. -/
def status (fs : FileSystem) (path : String) : Except Problem (Location × Node) :=
  match fs.locate true path with
  | .ok (.present location node) => .ok (location, node)
  | .ok (.absent _) => .error (.failed .notFound path)
  | .error p => .error p

def pathExists (fs : FileSystem) (path : String) : Bool :=
  match fs.status path with
  | .ok _ => true
  | .error _ => false

def isDirectory (fs : FileSystem) (path : String) : Bool :=
  match fs.status path with
  | .ok (_, .directory) => true
  | _ => false

def isFile (fs : FileSystem) (path : String) : Bool :=
  match fs.status path with
  | .ok (_, .file _) => true
  | _ => false

/-- The name of a location within a directory. -/
def childName? (dir : Location) : Location → Option String
  | name :: parent => if parent == dir then some name else none
  | [] => none

/-- The names in a directory, in their order. -/
def namesIn (fs : FileSystem) (dir : Location) : List String :=
  Text.sorted (fs.nodes.filterMap fun (l, _) => childName? dir l).eraseDups

/-- The names in the directory of a path. -/
def list (fs : FileSystem) (path : String) : Except Problem (List String) :=
  match fs.status path with
  | .ok (location, .directory) => .ok (fs.namesIn location)
  | .ok _ => .error (.failed .notDirectory path)
  | .error p => .error p

def read (fs : FileSystem) (path : String) : Except Problem Bytes :=
  match fs.status path with
  | .ok (_, .file bytes) => .ok bytes
  | .ok _ => .error (.failed .isDirectory path)
  | .error p => .error p

/-- The size that is given for directories. -/
def directorySize : Nat := 4096

/-- How many bytes there are at a path. -/
def size (fs : FileSystem) (path : String) : Except Problem Nat :=
  match fs.status path with
  | .ok (_, .file bytes) => .ok bytes.length
  | .ok _ => .ok directorySize
  | .error p => .error p

/-- Puts a node in a place, instead of what was there. -/
def put (fs : FileSystem) (location : Location) (node : Node) : FileSystem :=
  if fs.nodes.any (·.1 == location) then
    { fs with nodes := fs.nodes.map fun (l, n) => if l == location then (l, node) else (l, n) }
  else { fs with nodes := fs.nodes ++ [(location, node)] }

/-- Takes away what is in a place, with all that is in it. -/
def drop (fs : FileSystem) (location : Location) : FileSystem :=
  { fs with nodes := fs.nodes.filter fun (l, _) => !location.isSuffixOf l }

/-- Finds the place that is to be made at a path, which a slash at the end does not change. -/
def locateNew (fs : FileSystem) (path : String) : Except Problem Place :=
  let bare := String.ofList (Path.dropSlashes path.toList)
  match fs.locate false (if bare.isEmpty then path else bare) with
  | .error (.failed cause _) => .error (.failed cause path)
  | r => r

/-- Changes the bytes of a file, which is made if there is none. -/
def update (fs : FileSystem) (path : String) (change : Bytes → Bytes) : Except Problem FileSystem :=
  if asksForDirectory path then
    match fs.locateNew path with
    | .ok _ => .error (.failed .isDirectory path)
    | .error p => .error p
  else
    match fs.locate true path with
    | .ok (.present location (.file bytes)) => .ok (fs.put location (.file (change bytes)))
    | .ok (.present ..) => .error (.failed .isDirectory path)
    | .ok (.absent location) => .ok (fs.put location (.file (change [])))
    | .error p => .error p

def write (fs : FileSystem) (path : String) (bytes : Bytes) : Except Problem FileSystem :=
  fs.update path fun _ => bytes

def append (fs : FileSystem) (path : String) (bytes : Bytes) : Except Problem FileSystem :=
  fs.update path (· ++ bytes)

/-- Makes one directory. -/
def makeDirectory (fs : FileSystem) (path : String) : Except Problem FileSystem :=
  match fs.locateNew path with
  | .ok (.absent location) => .ok (fs.put location .directory)
  | .ok (.present ..) => .error (.failed .alreadyExists path)
  | .error p => .error p

/-- Makes one directory, unless there is one already. -/
def ensureDirectory (fs : FileSystem) (path : String) : FileSystem × Except Problem Unit :=
  match fs.makeDirectory path with
  | .ok fs => (fs, .ok ())
  | .error p => (fs, if p.cause?.isSome && fs.isDirectory path then .ok () else .error p)

/-- The path of the directory above, and the name in it. A slash at the end is passed over. -/
def aboveAndName (path : String) : String × String :=
  if (Path.baseName path).isEmpty then
    (Path.parent (Path.parent path), Path.baseName (Path.parent path))
  else (Path.parent path, Path.baseName path)

/-- Whether the directory above a path is missing. -/
def lacksAbove (fs : FileSystem) (path : String) : Bool :=
  let (above, name) := aboveAndName path
  !above.isEmpty && !name.isEmpty && !fs.pathExists above

/-- Makes a directory and those above it. `fuel` bounds how many there are. What was made before something
failed stays. -/
def makeDirectoriesWithin (fs : FileSystem) (path : String) : Nat → FileSystem × Except Problem Unit
  | 0 => (fs, .ok ())
  | fuel + 1 =>
    if fs.lacksAbove path then
      let last (fs : FileSystem) : FileSystem × Except Problem Unit :=
        if (aboveAndName path).2 == "." then (fs, .ok ()) else fs.ensureDirectory path
      match fs.makeDirectoriesWithin (aboveAndName path).1 fuel with
      | (fs, .ok ()) => last fs
      | (fs, .error (.failed .alreadyExists _)) => last fs
      | (fs, .error p) => (fs, .error p)
    else fs.ensureDirectory path

/-- Makes sure that there is a directory at a path. -/
def makeDirectories (fs : FileSystem) (path : String) : FileSystem × Except Problem Unit :=
  fs.makeDirectoriesWithin path (path.length + 1)

/-- Takes away a file, a link, or a directory with what is in it. -/
def remove (fs : FileSystem) (path : String) : Except Problem FileSystem :=
  match fs.locate false path with
  | .ok (.present location _) => .ok (fs.drop location)
  | .ok (.absent _) => .error (.failed .notFound path)
  | .error p => .error p

/-- Moves a file to another path, instead of what is there. -/
def rename (fs : FileSystem) (old new : String) : Except Problem FileSystem :=
  match fs.locate false old, fs.locate false new with
  | .ok (.present source node), .ok (.present location _) =>
    .ok ((if source == location then fs else fs.drop source).put location node)
  | .ok (.present source node), .ok (.absent location) => .ok ((fs.drop source).put location node)
  | .ok (.absent _), _ => .error (.failed .notFound old)
  | .error p, _ => .error p
  | _, .error p => .error p

/-- Makes a link. -/
def makeLink (fs : FileSystem) (target path : String) : Except Problem FileSystem :=
  if target.isEmpty then .error (.notLinked .notFound target path)
  else
    match fs.locateNew path with
    | .ok (.absent location) =>
      if asksForDirectory path then .error (.notLinked .notFound target path)
      else .ok (fs.put location (.link target))
    | .ok (.present ..) => .error (.notLinked .alreadyExists target path)
    | .error (.failed cause _) => .error (.notLinked cause target path)
    | .error p => .error p

end FileSystem

end SketchSurvey.Files
