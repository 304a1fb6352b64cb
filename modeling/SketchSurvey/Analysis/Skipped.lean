import SketchSurvey.Log.Logged

/-!
What an analysis does not look into. Every place that is passed over is reported.
-/

set_option autoImplicit false

namespace SketchSurvey.Analysis

inductive SkippedSort where
  | statement
  | expression
  deriving BEq, DecidableEq, Repr

/-- A statement or expression that was passed over. -/
structure Skipped where
  sort : SkippedSort
  kind : String
  line : Option Nat := none
  deriving BEq, Repr

def SkippedSort.name : SkippedSort → String
  | statement => "statement"
  | expression => "expression"

def Skipped.message (s : Skipped) : String :=
  "Unimplemented " ++ s.sort.name ++ " " ++ s.kind ++
    match s.line with
    | some n => " at line " ++ toString n
    | none => ""

def Skipped.record (logger : String) (s : Skipped) : Log.Record :=
  { level := Log.Level.warning, logger, message := s.message }

end SketchSurvey.Analysis
