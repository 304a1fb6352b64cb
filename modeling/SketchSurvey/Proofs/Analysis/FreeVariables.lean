import SketchSurvey.Proofs.Analysis.Binding
import SketchSurvey.Proofs.Analysis.ScopeChain

/-! The free names of a script, said without a walk: a name is free if a function at the top uses it
at a place that is looked into, and no function on the way to that place binds it. -/

set_option autoImplicit false

namespace SketchSurvey.Script

/-- An expression uses a name at a place that is looked into: the right side of an assignment, both
sides of an operator, what is called, its arguments unless they are spread, and what has a member. -/
inductive Expr.Uses : Expr → String → Prop where
  | identifier {name} : Uses (.identifier name) name
  | assigned {operator left right name} :
      Uses right name → Uses (.assign operator left right) name
  | leftOperand {operator left right name} :
      Uses left name → Uses (.binary operator left right) name
  | rightOperand {operator left right name} :
      Uses right name → Uses (.binary operator left right) name
  | callee {callee arguments name} :
      Uses callee name → Uses (.call (.expr callee) arguments) name
  | argument {callee arguments e name} :
      .expr e ∈ arguments → Uses e name → Uses (.call callee arguments) name
  | object {object property name} :
      Uses object name → Uses (.member (.expr object) property) name

/-- From a statement a use of a name is reached at a place that is looked into. The list holds the
function declarations on the way, the outermost first. -/
inductive Statement.Reaches : Statement → List Statement → String → Prop where
  | function {id params body isAsync isGenerator s path name} :
      s ∈ body → Reaches s path name →
      Reaches (.function id params body isAsync isGenerator)
        (.function id params body isAsync isGenerator :: path) name
  | block {body s path name} : s ∈ body → Reaches s path name → Reaches (.block body) path name
  | ifTest {test consequent alternate name} :
      test.Uses name → Reaches (.if test consequent alternate) [] name
  | consequent {test consequent alternate path name} :
      Reaches consequent path name → Reaches (.if test consequent alternate) path name
  | alternate {test consequent alternate path name} :
      Reaches alternate path name → Reaches (.if test consequent (some alternate)) path name
  | whileTest {test body name} : test.Uses name → Reaches (.while test body) [] name
  | whileBody {test body path name} : Reaches body path name → Reaches (.while test body) path name
  | doWhileBody {body test path name} :
      Reaches body path name → Reaches (.doWhile body test) path name
  | doWhileTest {body test name} : test.Uses name → Reaches (.doWhile body test) [] name
  | forTest {init test update body name} :
      test.Uses name → Reaches (.for init (some test) update body) [] name
  | forUpdate {init test update body name} :
      update.Uses name → Reaches (.for init test (some update) body) [] name
  | forBody {init test update body path name} :
      Reaches body path name → Reaches (.for init test update body) path name
  | forInRight {left right body name} : right.Uses name → Reaches (.forIn left right body) [] name
  | forInBody {left right body path name} :
      Reaches body path name → Reaches (.forIn left right body) path name
  | labeled {label body path name} : Reaches body path name → Reaches (.labeled label body) path name
  | returned {e name} : e.Uses name → Reaches (.return (some e)) [] name
  | initializer {d v e name} :
      v ∈ d.declarations → v.init = some e → e.Uses name → Reaches (.declaration d) [] name
  | expression {e name} : e.Uses name → Reaches (.expression e) [] name

/-- A use of a name is reached that no function on the way binds. -/
def Statement.Leaks (s : Statement) (name : String) : Prop :=
  ∃ path, s.Reaches path name ∧ ∀ f ∈ path, ¬ f.BindsInside name

/-- A function lets through what its body does, less what it binds. -/
theorem Statement.leaks_function_iff {id : Option String} {params : List Pattern}
    {body : List Statement} {isAsync isGenerator : Bool} {name : String} :
    (Statement.function id params body isAsync isGenerator).Leaks name ↔
      (∃ s ∈ body, s.Leaks name) ∧
        ¬ (Statement.function id params body isAsync isGenerator).BindsInside name := by
  constructor
  · rintro ⟨path, reached, unbound⟩
    cases reached with
    | function member reached =>
        exact ⟨⟨_, member, _, reached, fun f inside => unbound f (.tail _ inside)⟩,
          unbound _ (.head _)⟩
  · rintro ⟨⟨s, member, path, reached, unbound⟩, notBound⟩
    refine ⟨_, .function member reached, ?_⟩
    intro f inside
    cases inside with
    | head => exact notBound
    | tail _ inside => exact unbound f inside

end SketchSurvey.Script

namespace SketchSurvey.Analysis

open SketchSurvey.Script

/-- A walk from one state to another has found certain names: the scopes are what they were, and the
names that no scope binds have become free. -/
structure Walk.Finds (w w' : Walk) (found : String → Prop) : Prop where
  scopes : w'.scopes = w.scopes
  free : ∀ name, name ∈ w'.free ↔ name ∈ w.free ∨ found name ∧ ¬ w.scopes.binds name = true

namespace Walk.Finds

variable {w w' w'' : Walk} {found more : String → Prop}

theorem nothing (none : ∀ name, ¬ found name) : w.Finds w found where
  scopes := rfl
  free name := (or_iff_left fun both => none name both.1).symm

theorem skipped (skip : Skipped) (none : ∀ name, ¬ found name) : w.Finds (w.skip skip) found where
  scopes := rfl
  free name := (or_iff_left fun both => none name both.1).symm

theorem andThen (first : w.Finds w' found) (second : w'.Finds w'' more) :
    w.Finds w'' fun name => found name ∨ more name where
  scopes := second.scopes.trans first.scopes
  free name := by
    rw [second.free, first.free, first.scopes, or_assoc, or_and_right]

theorem congr (finds : w.Finds w' found) (same : ∀ name, found name ↔ more name) :
    w.Finds w' more where
  scopes := finds.scopes
  free name := by rw [finds.free, same]

theorem reference (name : String) : w.Finds (w.reference name) fun x => x = name where
  scopes := by
    unfold Walk.reference
    split <;> rfl
  free x := by
    unfold Walk.reference
    split
    · next bound =>
        refine (or_iff_left ?_).symm
        rintro ⟨rfl, unbound⟩
        exact unbound bound
    · next unbound =>
        rw [List.mem_insert_iff]
        constructor
        · rintro (rfl | before)
          · exact .inr ⟨rfl, unbound⟩
          · exact .inl before
        · rintro (before | ⟨rfl, _⟩)
          · exact .inr before
          · exact .inl rfl

end Walk.Finds

mutual

theorem walkExpr_finds : ∀ (w : Walk) (e : Expr), w.Finds (walkExpr w e) e.Uses
  | w, .assign operator left right =>
      (walkExpr_finds w right).congr fun _ => ⟨.assigned, fun | .assigned uses => uses⟩
  | w, .binary operator left right => by
      refine ((walkExpr_finds w left).andThen (walkExpr_finds _ right)).congr fun name => ⟨?_, ?_⟩
      · rintro (uses | uses)
        · exact .leftOperand uses
        · exact .rightOperand uses
      · intro uses
        cases uses with
        | leftOperand uses => exact .inl uses
        | rightOperand uses => exact .inr uses
  | w, .call callee arguments => by
      refine ((walkReceiver_finds w callee).andThen (walkArguments_finds _ arguments)).congr
        fun name => ⟨?_, ?_⟩
      · rintro (⟨e, rfl, uses⟩ | ⟨e, member, uses⟩)
        · exact .callee uses
        · exact .argument member uses
      · intro uses
        cases uses with
        | callee uses => exact .inl ⟨_, rfl, uses⟩
        | argument member uses => exact .inr ⟨_, member, uses⟩
  | w, .member object property => by
      refine (walkReceiver_finds w object).congr fun name => ⟨?_, ?_⟩
      · rintro ⟨e, rfl, uses⟩
        exact .object uses
      · intro uses
        cases uses with
        | object uses => exact ⟨_, rfl, uses⟩
  | w, .identifier name => by
      refine (Walk.Finds.reference name).congr fun x => ⟨?_, ?_⟩
      · rintro rfl
        exact .identifier
      · rintro ⟨⟩
        rfl
  | _, .literal _ => .nothing nofun
  | _, .unsupported .. => .skipped _ nofun

theorem walkReceiver_finds :
    ∀ (w : Walk) (r : Receiver), w.Finds (walkReceiver w r) fun name => ∃ e, r = .expr e ∧ e.Uses name
  | _, .super => .nothing nofun
  | w, .expr e => (walkExpr_finds w e).congr fun _ =>
      ⟨fun uses => ⟨e, rfl, uses⟩, fun ⟨_, same, uses⟩ => by cases same; exact uses⟩

theorem walkArgument_finds :
    ∀ (w : Walk) (a : Argument), w.Finds (walkArgument w a) fun name => ∃ e, a = .expr e ∧ e.Uses name
  | w, .expr e => (walkExpr_finds w e).congr fun _ =>
      ⟨fun uses => ⟨e, rfl, uses⟩, fun ⟨_, same, uses⟩ => by cases same; exact uses⟩
  | _, .spread _ => .nothing nofun

theorem walkArguments_finds : ∀ (w : Walk) (as : List Argument),
    w.Finds (walkArguments w as) fun name => ∃ e, .expr e ∈ as ∧ e.Uses name
  | _, [] => .nothing nofun
  | w, a :: rest => by
      refine ((walkArgument_finds w a).andThen (walkArguments_finds _ rest)).congr
        fun name => ⟨?_, ?_⟩
      · rintro (⟨e, rfl, uses⟩ | ⟨e, member, uses⟩)
        · exact ⟨e, .head _, uses⟩
        · exact ⟨e, .tail _ member, uses⟩
      · rintro ⟨e, member, uses⟩
        cases member with
        | head => exact .inl ⟨e, rfl, uses⟩
        | tail _ member => exact .inr ⟨e, member, uses⟩

end

theorem walkOptionalExpr_finds (w : Walk) (o : Option Expr) :
    w.Finds (walkOptionalExpr w o) fun name => ∃ e, o = some e ∧ e.Uses name := by
  cases o with
  | none => exact .nothing nofun
  | some e =>
      refine (walkExpr_finds w e).congr fun name => ?_
      simp only [Option.some.injEq, exists_eq_left']

theorem walkInitializers_finds : ∀ (w : Walk) (vs : List Declarator),
    w.Finds (vs.foldl (fun w v => walkOptionalExpr w v.init) w)
      fun name => ∃ v ∈ vs, ∃ e, v.init = some e ∧ e.Uses name
  | _, [] => .nothing nofun
  | w, v :: rest => by
      refine ((walkOptionalExpr_finds w v.init).andThen (walkInitializers_finds _ rest)).congr
        fun name => ?_
      simp only [List.mem_cons, exists_eq_or_imp]

/-- The names inside a function are found in a walk that has the function's scope on top, which is
taken away in the end. -/
theorem Walk.Finds.function {w inner : Walk} {id : Option String} {params : List Pattern}
    {body : List Statement} (isAsync isGenerator : Bool) (chained : w.scopes.Chained)
    (finds : (w.push (functionScope w.scopes id params body)).Finds inner
      fun name => ∃ s ∈ body, s.Leaks name) :
    w.Finds inner.pop (Statement.function id params body isAsync isGenerator).Leaks where
  scopes := by
    simp only [Walk.pop, finds.scopes, Walk.push, Array.pop_push]
  free name := by
    have pushed : (w.push (functionScope w.scopes id params body)).scopes.binds name = true ↔
        (Statement.function id params body isAsync isGenerator).BindsInside name ∨
          w.scopes.binds name = true := by
      rw [← has_functionScope_iff w.scopes]
      exact ScopeStack.binds_push chained (parent_functionScope ..) name
    simp only [Walk.pop, finds.free, Walk.push, Statement.leaks_function_iff, and_assoc]
    rw [← not_or, ← pushed]
    rfl

mutual

/-- A walk over a statement leaves the scopes as they were, and finds what the statement leaks. -/
theorem walkStatement_finds : ∀ (w : Walk) (s : Statement), w.scopes.Chained →
    w.Finds (walkStatement w s) s.Leaks
  | w, .function id params body isAsync isGenerator, chained =>
      .function isAsync isGenerator chained <|
        walkStatements_finds _ body (chained.push (parent_functionScope ..))
  | w, .block body, chained => by
      refine (walkStatements_finds w body chained).congr fun name => ⟨?_, ?_⟩
      · rintro ⟨s, member, path, reached, unbound⟩
        exact ⟨path, .block member reached, unbound⟩
      · rintro ⟨path, reached, unbound⟩
        cases reached with
        | block member reached => exact ⟨_, member, path, reached, unbound⟩
  | w, .doWhile body test, chained => by
      refine ((walkStatement_finds w body chained).andThen (walkExpr_finds _ test)).congr
        fun name => ⟨?_, ?_⟩
      · rintro (⟨path, reached, unbound⟩ | uses)
        · exact ⟨path, .doWhileBody reached, unbound⟩
        · exact ⟨[], .doWhileTest uses, nofun⟩
      · rintro ⟨path, reached, unbound⟩
        cases reached with
        | doWhileBody reached => exact .inl ⟨path, reached, unbound⟩
        | doWhileTest uses => exact .inr uses
  | w, .expression e, _ => by
      refine (walkExpr_finds w e).congr fun name => ⟨fun uses => ⟨[], .expression uses, nofun⟩, ?_⟩
      rintro ⟨path, reached, unbound⟩
      cases reached with
      | expression uses => exact uses
  | w, .for init test update body, chained => by
      have head := (walkOptionalExpr_finds w test).andThen (walkOptionalExpr_finds _ update)
      have inside := walkStatement_finds _ body (head.scopes ▸ chained)
      refine (head.andThen inside).congr fun name => ⟨?_, ?_⟩
      · rintro ((⟨e, rfl, uses⟩ | ⟨e, rfl, uses⟩) | ⟨path, reached, unbound⟩)
        · exact ⟨[], .forTest uses, nofun⟩
        · exact ⟨[], .forUpdate uses, nofun⟩
        · exact ⟨path, .forBody reached, unbound⟩
      · rintro ⟨path, reached, unbound⟩
        cases reached with
        | forTest uses => exact .inl (.inl ⟨_, rfl, uses⟩)
        | forUpdate uses => exact .inl (.inr ⟨_, rfl, uses⟩)
        | forBody reached => exact .inr ⟨path, reached, unbound⟩
  | w, .forIn left right body, chained => by
      have head := walkExpr_finds w right
      have inside := walkStatement_finds _ body (head.scopes ▸ chained)
      refine (head.andThen inside).congr fun name => ⟨?_, ?_⟩
      · rintro (uses | ⟨path, reached, unbound⟩)
        · exact ⟨[], .forInRight uses, nofun⟩
        · exact ⟨path, .forInBody reached, unbound⟩
      · rintro ⟨path, reached, unbound⟩
        cases reached with
        | forInRight uses => exact .inl uses
        | forInBody reached => exact .inr ⟨path, reached, unbound⟩
  | _, .forOf .., _ => .skipped _ (fun _ ⟨_, reached, _⟩ => nomatch reached)
  | w, .if test consequent alternate, chained => by
      have first := walkExpr_finds w test
      have second := walkStatement_finds _ consequent (first.scopes ▸ chained)
      have both := first.andThen second
      have third := walkOptionalStatement_finds _ alternate (both.scopes ▸ chained)
      refine (both.andThen third).congr fun name => ⟨?_, ?_⟩
      · rintro ((uses | ⟨path, reached, unbound⟩) | ⟨s, rfl, path, reached, unbound⟩)
        · exact ⟨[], .ifTest uses, nofun⟩
        · exact ⟨path, .consequent reached, unbound⟩
        · exact ⟨path, .alternate reached, unbound⟩
      · rintro ⟨path, reached, unbound⟩
        cases reached with
        | ifTest uses => exact .inl (.inl uses)
        | consequent reached => exact .inl (.inr ⟨path, reached, unbound⟩)
        | alternate reached => exact .inr ⟨_, rfl, path, reached, unbound⟩
  | w, .labeled label body, chained => by
      refine (walkStatement_finds w body chained).congr fun name => ⟨?_, ?_⟩
      · rintro ⟨path, reached, unbound⟩
        exact ⟨path, .labeled reached, unbound⟩
      · rintro ⟨path, reached, unbound⟩
        cases reached with
        | labeled reached => exact ⟨path, reached, unbound⟩
  | w, .return argument, _ => by
      refine (walkOptionalExpr_finds w argument).congr fun name => ⟨?_, ?_⟩
      · rintro ⟨e, rfl, uses⟩
        exact ⟨[], .returned uses, nofun⟩
      · rintro ⟨path, reached, unbound⟩
        cases reached with
        | returned uses => exact ⟨_, rfl, uses⟩
  | w, .declaration d, _ => by
      refine (walkInitializers_finds w d.declarations).congr fun name => ⟨?_, ?_⟩
      · rintro ⟨v, member, e, initial, uses⟩
        exact ⟨[], .initializer member initial uses, nofun⟩
      · rintro ⟨path, reached, unbound⟩
        cases reached with
        | initializer member initial uses => exact ⟨_, member, _, initial, uses⟩
  | w, .while test body, chained => by
      have head := walkExpr_finds w test
      have inside := walkStatement_finds _ body (head.scopes ▸ chained)
      refine (head.andThen inside).congr fun name => ⟨?_, ?_⟩
      · rintro (uses | ⟨path, reached, unbound⟩)
        · exact ⟨[], .whileTest uses, nofun⟩
        · exact ⟨path, .whileBody reached, unbound⟩
      · rintro ⟨path, reached, unbound⟩
        cases reached with
        | whileTest uses => exact .inl uses
        | whileBody reached => exact .inr ⟨path, reached, unbound⟩
  | _, .break _, _ => .nothing fun _ ⟨_, reached, _⟩ => nomatch reached
  | _, .continue _, _ => .nothing fun _ ⟨_, reached, _⟩ => nomatch reached
  | _, .debugger, _ => .nothing fun _ ⟨_, reached, _⟩ => nomatch reached
  | _, .empty, _ => .nothing fun _ ⟨_, reached, _⟩ => nomatch reached
  | _, .unsupported .., _ => .skipped _ (fun _ ⟨_, reached, _⟩ => nomatch reached)

theorem walkOptionalStatement_finds : ∀ (w : Walk) (o : Option Statement), w.scopes.Chained →
    w.Finds (walkOptionalStatement w o) fun name => ∃ s, o = some s ∧ s.Leaks name
  | _, none, _ => .nothing nofun
  | w, some s, chained => by
      refine (walkStatement_finds w s chained).congr fun name => ?_
      simp only [Option.some.injEq, exists_eq_left']

theorem walkStatements_finds : ∀ (w : Walk) (body : List Statement), w.scopes.Chained →
    w.Finds (walkStatements w body) fun name => ∃ s ∈ body, s.Leaks name
  | _, [], _ => .nothing nofun
  | w, s :: rest, chained => by
      have first := walkStatement_finds w s chained
      have others := walkStatements_finds _ rest (first.scopes ▸ chained)
      refine (first.andThen others).congr fun name => ?_
      simp only [List.mem_cons, exists_eq_or_imp]

end

/-- A name is free in a script exactly if no function at the top has that name and some function at
the top uses it where neither that function nor one on the way binds it. -/
theorem mem_freeVariables_iff (p : Program) (name : String) :
    name ∈ (freeVariables p).names ↔
      (¬ ∃ s ∈ p.body, s.functionName? = some name) ∧
        ∃ f ∈ p.body, isFunction f = true ∧
          ∃ path, f.Reaches path name ∧ ∀ g ∈ path, ¬ g.BindsInside name := by
  have finds := walkStatements_finds {} (p.body.filter isFunction) ScopeStack.chained_empty
  have unbound : ¬ ScopeStack.binds #[] name = true := by
    rw [ScopeStack.binds_iff ScopeStack.chained_empty]
    simp
  have found : name ∈ (walkStatements {} (p.body.filter isFunction)).free ↔
      ∃ f ∈ p.body, isFunction f = true ∧ f.Leaks name := by
    rw [finds.free]
    simp only [List.not_mem_nil, false_or, unbound, Bool.false_eq_true, not_false_eq_true, and_true,
      List.mem_filter, and_assoc]
  simp only [freeVariables, List.mem_filter, found, Bool.not_eq_true', ← Bool.not_eq_true,
    List.contains_iff_mem, Program.functionNames, List.mem_filterMap]
  exact And.comm

end SketchSurvey.Analysis
