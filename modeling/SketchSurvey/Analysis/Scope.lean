/-!
Scopes: the names that a function binds, and the stack of the scopes around a place.
-/

set_option autoImplicit false

namespace SketchSurvey.Analysis

/-- How a name came to be bound. -/
inductive BindingKind where
  | function
  | parameter
  | variable
  deriving BEq, DecidableEq, Repr

namespace BindingKind

def name : BindingKind → String
  | function => "function"
  | parameter => "parameter"
  | «variable» => "variable"

def ofName? : String → Option BindingKind
  | "function" => some function
  | "parameter" => some parameter
  | "variable" => some «variable»
  | _ => none

theorem ofName?_name (k : BindingKind) : ofName? k.name = some k := by cases k <;> rfl

end BindingKind

/-- The names that one function binds, in the order in which they were first bound. `parent` is the
place of the enclosing scope, counted from the outermost. -/
structure Scope where
  bindings : List (String × BindingKind) := []
  parent : Option Nat := none
  deriving Repr

namespace Scope

def has (s : Scope) (name : String) : Bool := s.bindings.any (·.1 == name)

/-- Binds a name. The first binding of a name stays. -/
def bind (s : Scope) (kind : BindingKind) (name : String) : Scope :=
  if s.has name then s else { s with bindings := s.bindings ++ [(name, kind)] }

def bindAll (s : Scope) (kind : BindingKind) (names : List String) : Scope :=
  names.foldl (fun s n => s.bind kind n) s

theorem has_iff {s : Scope} {name : String} :
    s.has name = true ↔ name ∈ s.bindings.map Prod.fst := by
  simp [has]

theorem has_bind (s : Scope) (kind : BindingKind) (name x : String) :
    (s.bind kind name).has x = (s.has x || name == x) := by
  unfold bind
  split
  · next h =>
    by_cases hx : name = x
    · subst hx
      simp [h]
    · simp [hx]
  · simp [has]

theorem has_bindAll (s : Scope) (kind : BindingKind) (names : List String) (x : String) :
    (s.bindAll kind names).has x = (s.has x || names.contains x) := by
  induction names generalizing s with
  | nil => simp [bindAll]
  | cons n rest ih =>
    have h := ih (s.bind kind n)
    unfold bindAll at h ⊢
    rw [List.foldl_cons, h, has_bind, List.contains_cons, Bool.or_assoc, Bool.beq_comm]

theorem parent_bind (s : Scope) (kind : BindingKind) (name : String) :
    (s.bind kind name).parent = s.parent := by
  unfold bind
  split <;> rfl

theorem parent_bindAll (s : Scope) (kind : BindingKind) (names : List String) :
    (s.bindAll kind names).parent = s.parent := by
  induction names generalizing s with
  | nil => rfl
  | cons n rest ih =>
    have h := ih (s.bind kind n)
    rw [parent_bind] at h
    exact h

end Scope

/-- The scopes around a place, the outermost first. -/
abbrev ScopeStack := Array Scope

namespace ScopeStack

/-- The place of the innermost scope. -/
def innermost? (stack : ScopeStack) : Option Nat :=
  if stack.isEmpty then none else some (stack.size - 1)

/-- Whether the scope at a place or one of those around it has a name. A parent stands before its
child, so the number of scopes bounds the search. -/
def bindsFrom (stack : ScopeStack) (name : String) : Nat → Option Nat → Bool
  | _, none => false
  | 0, _ => false
  | fuel + 1, some i =>
    match stack[i]? with
    | none => false
    | some s => s.has name || bindsFrom stack name fuel s.parent

/-- Whether a name is bound where these are the scopes around. -/
def binds (stack : ScopeStack) (name : String) : Bool :=
  bindsFrom stack name stack.size (innermost? stack)

end ScopeStack

end SketchSurvey.Analysis
