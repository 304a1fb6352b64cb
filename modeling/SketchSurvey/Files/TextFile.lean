import SketchSurvey.Files.FileSystem

/-!
Reading a file as text. The size limit is on the bytes of the file; what they say is decided later.
-/

set_option autoImplicit false

namespace SketchSurvey.Files

open SketchSurvey.Text

/-- Why a text could not be read. -/
inductive ReadProblem where
  | file (p : Problem)
  | tooLarge (path : String) (size : Nat) (limit : Int)
  deriving BEq, Repr, DecidableEq

def ReadProblem.message : ReadProblem → String
  | file p => p.message
  | tooLarge path size limit =>
    path ++ " is " ++ toString size ++ " bytes, over the " ++ toString limit ++ " byte analysis limit"

/-- The text of some bytes: marks stand for what is no text, and every line ends in a line feed. -/
def textOf (bytes : Utf8.Bytes) : String := String.ofList (Utf8.unifyLines (Utf8.decodeAll bytes))

namespace FileSystem

/-- Whether a file is within a limit on its size. A limit of zero or below is none. -/
def checkSize (fs : FileSystem) (path : String) (limit : Int) : Except ReadProblem Unit :=
  if limit > 0 then
    match fs.size path with
    | .ok size => if size > limit then .error (.tooLarge path size limit) else .ok ()
    | .error p => .error (.file p)
  else .ok ()

/-- Reads a text. -/
def readText (fs : FileSystem) (path : String) (limit : Int := 0) : Except ReadProblem String := do
  fs.checkSize path limit
  match fs.read path with
  | .ok bytes => return textOf bytes
  | .error p => throw (.file p)

end FileSystem

end SketchSurvey.Files
