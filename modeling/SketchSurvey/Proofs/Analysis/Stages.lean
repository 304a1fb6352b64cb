import Mathlib.Logic.Relation
import SketchSurvey.Proofs.Analysis.Binding
import SketchSurvey.Proofs.Analysis.ScopeChain

/-! The walk for free names, one step at a time. What is still to be walked stands in a list, and a step takes
the first thing off it and puts the parts of that thing in its place. A step puts at most one scope on the
stack, or takes one away, so the stacks between two steps are all the stacks that the walk ever has. Each of
them is chained, and once a statement or an expression is walked to its end, the stack is the one from before. -/

set_option autoImplicit false

namespace SketchSurvey.Script

def Receiver.expr? : Receiver → Option Expr
  | .super => none
  | .expr e => some e

def Argument.expr? : Argument → Option Expr
  | .expr e => some e
  | .spread _ => none

end SketchSurvey.Script

namespace SketchSurvey.Analysis

open SketchSurvey.Script

/-- What is walked of a script. -/
inductive Part where
  | statement (s : Statement)
  | expr (e : Expr)

namespace Part

def ofExpr : Expr → List Part
  | .assign _ _ right => [expr right]
  | .binary _ left right => [expr left, expr right]
  | .call callee arguments => (callee.expr?.toList ++ arguments.filterMap Argument.expr?).map expr
  | .member object _ => object.expr?.toList.map expr
  | .identifier _ => []
  | .literal _ => []
  | .unsupported .. => []

def ofStatement : Statement → List Part
  | .function _ _ body _ _ => body.map statement
  | .block body => body.map statement
  | .doWhile body test => [statement body, expr test]
  | .expression e => [expr e]
  | .for _ test update body => (test.toList ++ update.toList).map expr ++ [statement body]
  | .forIn _ right body => [expr right, statement body]
  | .forOf .. => []
  | .if test consequent alternate => expr test :: statement consequent :: alternate.toList.map statement
  | .labeled _ body => [statement body]
  | .return argument => argument.toList.map expr
  | .declaration d => (d.declarations.filterMap (·.init)).map expr
  | .while test body => [expr test, statement body]
  | .break _ => []
  | .continue _ => []
  | .debugger => []
  | .empty => []
  | .unsupported .. => []

def parts : Part → List Part
  | statement s => ofStatement s
  | expr e => ofExpr e

/-- The scope that a part brings, inside the scopes of a stack. Only functions bring one. -/
def scope? (stack : ScopeStack) : Part → Option Scope
  | statement (.function id params body _ _) => some (functionScope stack id params body)
  | _ => none

theorem parent_of_scope? {stack : ScopeStack} {p : Part} {scope : Scope}
    (brings : p.scope? stack = some scope) : scope.parent = stack.innermost? := by
  unfold scope? at brings
  split at brings
  · cases brings
    exact parent_functionScope ..
  · cases brings

end Part

/-- What comes of a part itself, its scope and its parts apart: a name is looked up, and what is not looked into
is reported. -/
def Walk.note (w : Walk) : Part → Walk
  | .expr (.identifier name) => w.reference name
  | .expr (.unsupported kind line) => w.skip { sort := .expression, kind, line := some line }
  | .statement (.forOf ..) => w.skip { sort := .statement, kind := "ForOfStatement" }
  | .statement (.unsupported kind line _) => w.skip { sort := .statement, kind, line := some line }
  | _ => w

theorem Walk.scopes_note (w : Walk) (p : Part) : (w.note p).scopes = w.scopes := by
  unfold Walk.note
  split
  · rw [Walk.reference]
    split <;> rfl
  all_goals rfl

/-- What is still to be done in a walk. -/
inductive Task where
  | walk (p : Part)
  /-- Leaves the function inside which the walk is. -/
  | leave

/-- What a task makes of the scopes in the end. -/
def Task.settle (stack : ScopeStack) : Task → ScopeStack
  | walk _ => stack
  | leave => stack.pop

/-- A walk between two steps. -/
structure Stage where
  pending : List Task
  walk : Walk

namespace Stage

/-- One step of a walk. -/
def next? : Stage → Option Stage
  | ⟨[], _⟩ => none
  | ⟨.leave :: rest, w⟩ => some ⟨rest, w.pop⟩
  | ⟨.walk p :: rest, w⟩ =>
    match p.scope? w.scopes with
    | some scope => some ⟨p.parts.map .walk ++ .leave :: rest, w.push scope⟩
    | none => some ⟨p.parts.map .walk ++ rest, w.note p⟩

def Next (a b : Stage) : Prop := a.next? = some b

/-- The steps of a walk lead from one stage to another. -/
abbrev LeadsTo : Stage → Stage → Prop := Relation.ReflTransGen Next

/-- The walk that finds the free names of a script, before its first step. -/
def start (p : Program) : Stage := ⟨((p.body.filter isFunction).map Part.statement).map .walk, {}⟩

/-! ### The steps lead to where the walk ends -/

mutual

theorem leadsTo_walkExpr : ∀ (w : Walk) (e : Expr) (rest : List Task),
    LeadsTo ⟨.walk (.expr e) :: rest, w⟩ ⟨rest, walkExpr w e⟩
  | w, .assign _ _ right, rest => .head rfl (leadsTo_walkExpr w right rest)
  | w, .binary _ left right, rest =>
      .head rfl ((leadsTo_walkExpr w left _).trans (leadsTo_walkExpr _ right rest))
  | w, .call callee arguments, rest => by
      -- the parts come as one list, which falls into those of the callee and those of the arguments
      refine .head rfl ?_
      simp only [Part.parts, Part.ofExpr, List.map_append, List.append_assoc]
      exact (leadsTo_walkReceiver w callee _).trans (leadsTo_walkArguments _ arguments rest)
  | w, .member object _, rest => .head rfl (leadsTo_walkReceiver w object rest)
  | _, .identifier _, _ => .single rfl
  | _, .literal _, _ => .single rfl
  | _, .unsupported .., _ => .single rfl

theorem leadsTo_walkReceiver : ∀ (w : Walk) (r : Receiver) (rest : List Task),
    LeadsTo ⟨(r.expr?.toList.map Part.expr).map .walk ++ rest, w⟩ ⟨rest, walkReceiver w r⟩
  | _, .super, _ => .refl
  | w, .expr e, rest => leadsTo_walkExpr w e rest

theorem leadsTo_walkArguments : ∀ (w : Walk) (as : List Argument) (rest : List Task),
    LeadsTo ⟨((as.filterMap Argument.expr?).map Part.expr).map .walk ++ rest, w⟩ ⟨rest, walkArguments w as⟩
  | _, [], _ => .refl
  | w, .expr e :: others, rest =>
      (leadsTo_walkExpr w e _).trans (leadsTo_walkArguments _ others rest)
  | w, .spread _ :: others, rest => leadsTo_walkArguments w others rest

end

theorem leadsTo_walkOptionalExpr (w : Walk) (o : Option Expr) (rest : List Task) :
    LeadsTo ⟨(o.toList.map Part.expr).map .walk ++ rest, w⟩ ⟨rest, walkOptionalExpr w o⟩ := by
  cases o with
  | none => exact .refl
  | some e => exact leadsTo_walkExpr w e rest

theorem leadsTo_walkInitializers : ∀ (w : Walk) (vs : List Declarator) (rest : List Task),
    LeadsTo ⟨((vs.filterMap (·.init)).map Part.expr).map .walk ++ rest, w⟩
      ⟨rest, vs.foldl (fun w v => walkOptionalExpr w v.init) w⟩
  | _, [], _ => .refl
  | w, ⟨_, none⟩ :: others, rest => leadsTo_walkInitializers w others rest
  | w, ⟨_, some e⟩ :: others, rest =>
      (leadsTo_walkExpr w e _).trans (leadsTo_walkInitializers _ others rest)

mutual

/-- The steps go through a statement to the end of its walk, whatever is to be done after it. -/
theorem leadsTo_walkStatement : ∀ (w : Walk) (s : Statement) (rest : List Task),
    LeadsTo ⟨.walk (.statement s) :: rest, w⟩ ⟨rest, walkStatement w s⟩
  -- what comes after the body is the task to leave, which takes the scope away
  | _, .function _ _ body _ _, rest => .head rfl ((leadsTo_walkStatements _ body (.leave :: rest)).tail rfl)
  | w, .block body, rest => .head rfl (leadsTo_walkStatements w body rest)
  | w, .doWhile body test, rest =>
      .head rfl ((leadsTo_walkStatement w body _).trans (leadsTo_walkExpr _ test rest))
  | w, .expression e, rest => .head rfl (leadsTo_walkExpr w e rest)
  | w, .for _ test update body, rest => by
      refine .head rfl ?_
      simp only [Part.parts, Part.ofStatement, List.map_append, List.append_assoc]
      refine (leadsTo_walkOptionalExpr w test _).trans ?_
      exact (leadsTo_walkOptionalExpr _ update _).trans (leadsTo_walkStatement _ body rest)
  | w, .forIn _ right body, rest =>
      .head rfl ((leadsTo_walkExpr w right _).trans (leadsTo_walkStatement _ body rest))
  | _, .forOf .., _ => .single rfl
  | w, .if test consequent alternate, rest => by
      refine .head rfl ((leadsTo_walkExpr w test _).trans ?_)
      exact (leadsTo_walkStatement _ consequent _).trans (leadsTo_walkOptionalStatement _ alternate rest)
  | w, .labeled _ body, rest => .head rfl (leadsTo_walkStatement w body rest)
  | w, .return argument, rest => .head rfl (leadsTo_walkOptionalExpr w argument rest)
  | w, .declaration d, rest => .head rfl (leadsTo_walkInitializers w d.declarations rest)
  | w, .while test body, rest =>
      .head rfl ((leadsTo_walkExpr w test _).trans (leadsTo_walkStatement _ body rest))
  | _, .break _, _ => .single rfl
  | _, .continue _, _ => .single rfl
  | _, .debugger, _ => .single rfl
  | _, .empty, _ => .single rfl
  | _, .unsupported .., _ => .single rfl

theorem leadsTo_walkOptionalStatement : ∀ (w : Walk) (o : Option Statement) (rest : List Task),
    LeadsTo ⟨(o.toList.map Part.statement).map .walk ++ rest, w⟩ ⟨rest, walkOptionalStatement w o⟩
  | _, none, _ => .refl
  | w, some s, rest => leadsTo_walkStatement w s rest

theorem leadsTo_walkStatements : ∀ (w : Walk) (body : List Statement) (rest : List Task),
    LeadsTo ⟨(body.map Part.statement).map .walk ++ rest, w⟩ ⟨rest, walkStatements w body⟩
  | _, [], _ => .refl
  | w, s :: others, rest => (leadsTo_walkStatement w s _).trans (leadsTo_walkStatements _ others rest)

end

/-! ### What the steps make of the scopes -/

theorem chained_of_next : ∀ {a b : Stage}, a.Next b → a.walk.scopes.Chained → b.walk.scopes.Chained
  | ⟨.leave :: _, _⟩, _, rfl, chained => ScopeStack.Chained.pop chained
  | ⟨.walk p :: _, w⟩, _, next, chained => by
      rw [Next, next?] at next
      split at next
      · next brings =>
          cases next
          exact chained.push (Part.parent_of_scope? brings)
      · cases next
        rw [w.scopes_note p]
        exact chained

theorem LeadsTo.chained {a b : Stage} (steps : a.LeadsTo b) (chained : a.walk.scopes.Chained) :
    b.walk.scopes.Chained := by
  induction steps with
  | refl => exact chained
  | tail _ next ih => exact chained_of_next next ih

/-- The scopes once nothing is left to be done. Every scope that is put on comes with the task to leave its
function, so no step changes them. -/
def settled (a : Stage) : ScopeStack := a.pending.foldl Task.settle a.walk.scopes

theorem settled_walk (ps : List Part) (rest : List Task) (w : Walk) :
    settled ⟨ps.map .walk ++ rest, w⟩ = settled ⟨rest, w⟩ := by
  induction ps with
  | nil => rfl
  | cons p ps ih => exact ih

theorem settled_of_next : ∀ {a b : Stage}, a.Next b → b.settled = a.settled
  | ⟨.leave :: _, _⟩, _, rfl => rfl
  | ⟨.walk p :: rest, w⟩, _, next => by
      rw [Next, next?] at next
      split at next
      · -- the scope that is put on is the one that the new task takes away
        cases next
        rw [settled_walk]
        simp only [settled, List.foldl_cons, Task.settle, Walk.push, Array.pop_push]
      · cases next
        rw [settled_walk]
        simp only [settled, List.foldl_cons, Task.settle, w.scopes_note p]

theorem LeadsTo.settled {a b : Stage} (steps : a.LeadsTo b) : b.settled = a.settled := by
  induction steps with
  | refl => rfl
  | tail _ next ih => exact (settled_of_next next).trans ih

end Stage

theorem scopes_walkStatement (w : Walk) (s : Statement) : (walkStatement w s).scopes = w.scopes :=
  (Stage.leadsTo_walkStatement w s []).settled

theorem scopes_walkExpr (w : Walk) (e : Expr) : (walkExpr w e).scopes = w.scopes :=
  (Stage.leadsTo_walkExpr w e []).settled

/-- The walk of a script goes through its stages to the end. At each of them every scope but the outermost has
the one below it as its parent, and the search for a name along the parents ends, with success exactly if some
scope of the stack has the name. Walking a statement or an expression, from whatever stage on, leaves the scopes
as they were. -/
theorem scopes_chained_throughout (p : Program) :
    (∃ w, (Stage.start p).LeadsTo ⟨[], w⟩ ∧ freeVariables p = {
        names := w.free.filter fun n => !p.functionNames.contains n
        skipped := w.skipped }) ∧
      (∀ a, (Stage.start p).LeadsTo a → a.walk.scopes.Chained ∧ ∀ name,
        (∀ found, a.walk.scopes.Search name a.walk.scopes.innermost? found ↔
          found = a.walk.scopes.binds name) ∧
        (a.walk.scopes.binds name = true ↔ ∃ s ∈ a.walk.scopes, s.has name = true)) ∧
      (∀ w s rest, Stage.LeadsTo ⟨.walk (.statement s) :: rest, w⟩ ⟨rest, walkStatement w s⟩ ∧
        (walkStatement w s).scopes = w.scopes) ∧
      ∀ w e rest, Stage.LeadsTo ⟨.walk (.expr e) :: rest, w⟩ ⟨rest, walkExpr w e⟩ ∧
        (walkExpr w e).scopes = w.scopes := by
  refine ⟨⟨_, ?_, rfl⟩, ?_, ?_, ?_⟩
  · have steps := Stage.leadsTo_walkStatements {} (p.body.filter isFunction) []
    rwa [List.append_nil] at steps
  · intro a steps
    have chained := steps.chained ScopeStack.chained_empty
    exact ⟨chained, fun name =>
      ⟨ScopeStack.search_iff chained name, ScopeStack.binds_iff chained name⟩⟩
  · exact fun w s rest => ⟨Stage.leadsTo_walkStatement w s rest, scopes_walkStatement w s⟩
  · exact fun w e rest => ⟨Stage.leadsTo_walkExpr w e rest, scopes_walkExpr w e⟩

section Nested

def nestedCall : Statement := .expression (.call (.expr (.identifier "a")) [.expr (.identifier "z")])

/-- `function outer(a) { function middle() { function inner() { a(z); } } }` -/
def nestedFunctions : Program := { body := [.function "outer" [.identifier "a"] [
  .function "middle" [] [.function "inner" [] [nestedCall] false false] false false] false false] }

/-- The walk of the nested functions where it comes to the call in the innermost one. -/
def atNestedCall : Stage where
  pending := [.walk (.statement nestedCall), .leave, .leave, .leave]
  walk := {
    scopes := #[
      { bindings := [("outer", .function), ("a", .parameter), ("middle", .function)] },
      { bindings := [("middle", .function), ("inner", .function)], parent := some 0 },
      { bindings := [("inner", .function)], parent := some 1 }] }

/-- Three functions deep, `a` is found two scopes further out, and the search for `z` ends as well. -/
theorem scopes_chained_throughout_nestedFunctions :
    (Stage.start nestedFunctions).LeadsTo atNestedCall ∧
      atNestedCall.walk.scopes.Search "a" (some 2) true ∧
      atNestedCall.walk.scopes.Search "z" (some 2) false ∧
      (walkStatement atNestedCall.walk nestedCall).scopes = atNestedCall.walk.scopes := by
  have steps : (Stage.start nestedFunctions).LeadsTo atNestedCall := .head rfl (.head rfl (.single rfl))
  obtain ⟨-, stages, statements, -⟩ := scopes_chained_throughout nestedFunctions
  have searches := (stages _ steps).2
  exact ⟨steps, ((searches "a").1 true).mpr (by decide), ((searches "z").1 false).mpr (by decide),
    (statements _ _ []).2⟩

end Nested

end SketchSurvey.Analysis
