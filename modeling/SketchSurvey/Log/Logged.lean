import SketchSurvey.Text.Case
import SketchSurvey.Text.Blank

/-!
What is logged, and computations that log and may fail. What was logged before a failure is kept.
-/

set_option autoImplicit false

namespace SketchSurvey.Log

namespace Level

def notSet : Int := 0
def debug : Int := 10
def info : Int := 20
def warning : Int := 30
def error : Int := 40
def critical : Int := 50

/-- Levels without a name of their own are named by their number. -/
def name (level : Int) : String :=
  if level = critical then "CRITICAL"
  else if level = error then "ERROR"
  else if level = warning then "WARNING"
  else if level = info then "INFO"
  else if level = debug then "DEBUG"
  else if level = notSet then "NOTSET"
  else "Level " ++ toString level

/-- The level that a name stands for, whatever its case; other names stand for `info`. -/
def ofName (name : String) : Int :=
  match Text.upper (Text.trim name) with
  | "DEBUG" => debug
  | "WARNING" | "WARN" => warning
  | "ERROR" => error
  | "CRITICAL" => critical
  | _ => info

end Level

structure Record where
  level : Int
  logger : String
  message : String
  deriving BEq, Repr

/-- The record on one line, its parts set apart by spaces. -/
def Record.summary (r : Record) : String := Level.name r.level ++ " " ++ r.logger ++ " " ++ r.message

/-- How a computation ended, and what it logged. -/
structure Logged (ε α : Type) where
  log : List Record := []
  result : Except ε α

namespace Logged

variable {ε α β : Type}

/-- Goes on with the result; a failure ends the computation. -/
def andThen (m : Logged ε α) (f : α → Logged ε β) : Logged ε β :=
  match m.result with
  | .ok a =>
    let next := f a
    { log := m.log ++ next.log, result := next.result }
  | .error e => { log := m.log, result := .error e }

instance : Monad (Logged ε) where
  pure a := { result := .ok a }
  bind := andThen

/-- Logs one record. -/
def write (level : Int) (logger message : String) : Logged ε Unit :=
  { log := [{ level, logger, message }], result := .ok () }

def writeAll (records : List Record) : Logged ε Unit := { log := records, result := .ok () }

def fail (e : ε) : Logged ε α := { result := .error e }

def ofExcept (r : Except ε α) : Logged ε α := { result := r }

@[simp] theorem log_pure (a : α) : (pure a : Logged ε α).log = [] := rfl

@[simp] theorem result_pure (a : α) : (pure a : Logged ε α).result = .ok a := rfl

theorem bind_of_ok {m : Logged ε α} {a : α} (h : m.result = .ok a) (f : α → Logged ε β) :
    m >>= f = { log := m.log ++ (f a).log, result := (f a).result } := by
  simp only [bind, andThen, h]

theorem bind_of_error {m : Logged ε α} {e : ε} (h : m.result = .error e) (f : α → Logged ε β) :
    m >>= f = { log := m.log, result := .error e } := by
  simp only [bind, andThen, h]

/-- A computation in two parts gives a result exactly if both parts do. -/
theorem result_bind_eq_ok_iff {m : Logged ε α} {f : α → Logged ε β} {b : β} :
    (m >>= f).result = .ok b ↔ ∃ a, m.result = .ok a ∧ (f a).result = .ok b := by
  cases h : m.result with
  | error e => simp [bind_of_error h]
  | ok a => simp [bind_of_ok h]

end Logged

end SketchSurvey.Log
