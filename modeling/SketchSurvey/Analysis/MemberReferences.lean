import SketchSurvey.Script.Ast
import SketchSurvey.Analysis.Skipped

/-!
The members of one global name that a script reads or writes: `name` of `p5.name`, and `prototype` of
`p5.prototype.name`. Whether the global name is bound anew somewhere makes no difference.
-/

set_option autoImplicit false

namespace SketchSurvey.Analysis

open SketchSurvey.Script

/-- The members found so far, and what was not looked into. -/
structure MemberReferences where
  names : List String := []
  skipped : List Skipped := []

namespace MemberReferences

def add (r : MemberReferences) (name : String) : MemberReferences :=
  { r with names := r.names.insert name }

def skip (r : MemberReferences) (sort : SkippedSort) (kind : String) : MemberReferences :=
  { r with skipped := r.skipped ++ [{ sort, kind }] }

end MemberReferences

/-- The name of a member that is taken from the namespace itself. -/
def memberOf? (space : String) : Receiver → Property → Option String
  | .expr (.identifier object), .name name => if object == space then some name else none
  | _, _ => none

mutual

def collectExpr (space : String) (r : MemberReferences) : Expr → MemberReferences
  | .assign _ left right => collectExpr space (collectTarget space r left) right
  | .binary _ left right => collectExpr space (collectExpr space r left) right
  | .call callee arguments => collectArguments space (collectReceiver space r callee) arguments
  | .member object property =>
    match memberOf? space object property with
    | some name => r.add name
    | none => collectReceiver space r object
  | .identifier _ => r
  | .literal _ => r
  | .unsupported kind _ => r.skip .expression kind

def collectReceiver (space : String) (r : MemberReferences) : Receiver → MemberReferences
  | .super => r
  | .expr e => collectExpr space r e

/-- Of the left side of an assignment only a member counts. -/
def collectTarget (space : String) (r : MemberReferences) : Pattern → MemberReferences
  | .target (.member object property) =>
    match memberOf? space object property with
    | some name => r.add name
    | none => collectReceiver space r object
  | _ => r

def collectArgument (space : String) (r : MemberReferences) : Argument → MemberReferences
  | .expr e => collectExpr space r e
  | .spread _ => r

def collectArguments (space : String) (r : MemberReferences) : List Argument → MemberReferences
  | [] => r
  | a :: rest => collectArguments space (collectArgument space r a) rest

end

def collectOptionalExpr (space : String) (r : MemberReferences) : Option Expr → MemberReferences
  | none => r
  | some e => collectExpr space r e

mutual

def collectStatement (space : String) (r : MemberReferences) : Statement → MemberReferences
  | .function _ _ body _ _ => collectStatements space r body
  | .declaration d => d.declarations.foldl (fun r v => collectOptionalExpr space r v.init) r
  | .expression e => collectExpr space r e
  | .return argument => collectOptionalExpr space r argument
  | s => r.skip .statement s.kindName

def collectStatements (space : String) (r : MemberReferences) : List Statement → MemberReferences
  | [] => r
  | s :: rest => collectStatements space (collectStatement space r s) rest

end

/-- The members of a namespace that a script names. -/
def memberReferences (space : String) (p : Program) : MemberReferences :=
  collectStatements space {} p.body

/-- The logger that reports what this analysis skipped. -/
def memberReferencesLogger : String := "p5analysis.core.analysis.member_references"

def MemberReferences.log (r : MemberReferences) : List Log.Record :=
  r.skipped.map (Skipped.record memberReferencesLogger)

end SketchSurvey.Analysis
