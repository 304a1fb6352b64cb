import SketchSurvey.Text.Split

/-!
Paths as texts: names that slashes divide.
-/

set_option autoImplicit false

namespace SketchSurvey.Files.Path

def isAbsolute (p : String) : Bool := p.toList.head? == some '/'

/-- What follows the last slash. -/
def nameList (p : List Char) : List Char := (p.reverse.takeWhile (· != '/')).reverse

/-- The last name of a path; empty if the path ends in a slash. -/
def baseName (p : String) : String := String.ofList (nameList p.toList)

def dropSlashes (p : List Char) : List Char := (p.reverse.dropWhile (· == '/')).reverse

/-- What stands before the last name, without slashes at its end unless there is nothing else. -/
def parent (p : String) : String :=
  let head := (p.toList.reverse.dropWhile (· != '/')).reverse
  if head.all (· == '/') then String.ofList head else String.ofList (dropSlashes head)

/-- The path of `name` seen from a directory. -/
def join (dir name : String) : String :=
  if isAbsolute name then name
  else if dir.isEmpty || dir.toList.getLast? == some '/' then dir ++ name
  else dir ++ "/" ++ name

/-- The ending of a name, from its last dot on. Dots at its start begin no ending. -/
def extension (p : String) : String :=
  let name := nameList p.toList
  let body := name.dropWhile (· == '.')
  if body.contains '.' then String.ofList ('.' :: (body.reverse.takeWhile (· != '.')).reverse)
  else ""

/-- Takes a name into account in a path without `.` and `..`; the names stand in reverse. -/
def step (absolute : Bool) (names : List String) (name : String) : List String :=
  if name.isEmpty || name == "." then names
  else if name == ".." then
    match names with
    | [] => if absolute then [] else [".."]
    | last :: before => if last == ".." then ".." :: names else before
  else name :: names

/-- The shortest path that leads to the same place, links not considered. Two slashes at the start, and
no more, are kept. -/
def normalize (p : String) : String :=
  let cs := p.toList
  let slashes := (cs.takeWhile (· == '/')).length
  let start := if slashes == 2 then "//" else if slashes > 0 then "/" else ""
  let names := (Text.splitAt '/' p).foldl (step (slashes > 0)) []
  let path := start ++ "/".intercalate names.reverse
  if path.isEmpty then "." else path

/-- A path that does not depend on the working directory. -/
def absolute (working p : String) : String :=
  normalize (if isAbsolute p then p else join working p)

/-- The home directories that a path can name. -/
structure Homes where
  own : String
  others : List (String × String) := []

/-- The user whose home directory a path starts with; no name means the own one. -/
def userOf? (p : String) : Option (List Char) :=
  match p.toList with
  | '~' :: rest => some (rest.takeWhile (· != '/'))
  | _ => none

/-- Replaces `~` at the start by a home directory, where there is one. -/
def expandHome (homes : Homes) (p : String) : String :=
  match userOf? p with
  | some user =>
    let after := p.toList.drop (user.length + 1)
    let home := if user.isEmpty then some homes.own
      else (homes.others.find? (·.1 == String.ofList user)).map (·.2)
    match home with
    | some h =>
      let path := String.ofList (dropSlashes h.toList ++ after)
      if path.isEmpty then "/" else path
    | none => p
  | none => p

end SketchSurvey.Files.Path
