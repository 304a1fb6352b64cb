import Mathlib.Logic.Equiv.Basic
import SketchSurvey.Proofs.Analysis.FreeVariables
import SketchSurvey.Proofs.Script.Renaming

/-! The name of a local makes no difference. What a function binds and what leaks out of it follow its
identifiers when they are renamed, and a name that a function binds does not leak; so a local can take any
name that the function does not have yet. -/

set_option autoImplicit false

namespace SketchSurvey.Script

variable {σ : String → String} {name : String}

theorem Pattern.Binds.rename {p : Pattern} (binds : p.Binds name) : (p.rename σ).Binds (σ name) := by
  induction binds with
  | identifier => exact .identifier
  | pair member _ ih =>
      rw [Pattern.rename, renameProperties_eq_map]
      exact .pair (List.mem_map_of_mem (f := PatternProperty.rename σ) member) ih
  | restProperty member _ ih =>
      rw [Pattern.rename, renameProperties_eq_map]
      exact .restProperty (List.mem_map_of_mem (f := PatternProperty.rename σ) member) ih
  | element member _ ih =>
      rw [Pattern.rename, renamePatterns_eq_map]
      exact .element (List.mem_map_of_mem member) ih
  | rest _ ih => exact .rest ih
  | withDefault _ ih => exact .withDefault ih

theorem Statement.Declares.rename {s : Statement} (declares : s.Declares name) :
    (s.rename σ).Declares (σ name) := by
  induction declares with
  | function => exact .function
  | «variable» member binds => exact .variable (List.mem_map_of_mem member) binds.rename
  | block member _ ih =>
      rw [Statement.rename, renameStatements_eq_map]
      exact .block (List.mem_map_of_mem member) ih
  | consequent _ ih => exact .consequent ih
  | alternate _ ih => exact .alternate ih
  | forInit _ ih => exact .forInit ih
  | forBody _ ih => exact .forBody ih
  | forInBody _ ih => exact .forInBody ih
  | forOfBody _ ih => exact .forOfBody ih
  | whileBody _ ih => exact .whileBody ih
  | doWhileBody _ ih => exact .doWhileBody ih
  | labeled _ ih => exact .labeled ih
  | nested member _ ih =>
      rw [Statement.rename, renameStatements_eq_map]
      exact .nested (List.mem_map_of_mem member) ih

theorem Statement.BindsInside.rename {s : Statement} (binds : s.BindsInside name) :
    (s.rename σ).BindsInside (σ name) := by
  cases binds with
  | own => exact .own
  | parameter member binds =>
      rw [Statement.rename, renamePatterns_eq_map]
      exact .parameter (List.mem_map_of_mem member) binds.rename
  | declared member declares =>
      rw [Statement.rename, renameStatements_eq_map]
      exact .declared (List.mem_map_of_mem member) declares.rename

theorem Expr.Uses.rename {e : Expr} (uses : e.Uses name) : (e.rename σ).Uses (σ name) := by
  induction uses with
  | identifier => exact .identifier
  | assigned _ ih => exact .assigned ih
  | leftOperand _ ih => exact .leftOperand ih
  | rightOperand _ ih => exact .rightOperand ih
  | callee _ ih => exact .callee ih
  | argument member _ ih =>
      rw [Expr.rename, renameArguments_eq_map]
      exact .argument (List.mem_map_of_mem (f := Argument.rename σ) member) ih
  | object _ ih => exact .object ih

theorem Statement.Reaches.rename {s : Statement} {path : List Statement} (reached : s.Reaches path name) :
    (s.rename σ).Reaches (path.map (Statement.rename σ)) (σ name) := by
  induction reached with
  | function member _ ih =>
      rw [List.map_cons, Statement.rename]
      refine .function ?_ ih
      rw [renameStatements_eq_map]
      exact List.mem_map_of_mem member
  | block member _ ih =>
      rw [Statement.rename, renameStatements_eq_map]
      exact .block (List.mem_map_of_mem member) ih
  | ifTest uses => exact .ifTest uses.rename
  | consequent _ ih => exact .consequent ih
  | alternate _ ih => exact .alternate ih
  | whileTest uses => exact .whileTest uses.rename
  | whileBody _ ih => exact .whileBody ih
  | doWhileBody _ ih => exact .doWhileBody ih
  | doWhileTest uses => exact .doWhileTest uses.rename
  | forTest uses => exact .forTest uses.rename
  | forUpdate uses => exact .forUpdate uses.rename
  | forBody _ ih => exact .forBody ih
  | forInRight uses => exact .forInRight uses.rename
  | forInBody _ ih => exact .forInBody ih
  | labeled _ ih => exact .labeled ih
  | returned uses => exact .returned uses.rename
  | initializer member initial uses =>
      refine .initializer (List.mem_map_of_mem member) ?_ uses.rename
      rw [Declarator.rename, initial]
      rfl
  | expression uses => exact .expression uses.rename

theorem Expr.Uses.mem_identifiers {e : Expr} (uses : e.Uses name) : name ∈ e.identifiers := by
  induction uses with
  | identifier => exact .head _
  | assigned _ ih => exact List.mem_append_right _ ih
  | leftOperand _ ih => exact List.mem_append_left _ ih
  | rightOperand _ ih => exact List.mem_append_right _ ih
  | callee _ ih => exact List.mem_append_left _ ih
  | argument member _ ih => exact List.mem_append_right _ (mem_argumentsIdentifiers member ih)
  | object _ ih => exact List.mem_append_left _ ih

/-- A name that is used at a place that is looked into is carried by an identifier. -/
theorem Statement.Reaches.mem_identifiers {s : Statement} {path : List Statement}
    (reached : s.Reaches path name) : name ∈ s.identifiers := by
  induction reached with
  | function member _ ih =>
      exact List.mem_append_right _ (List.mem_append_right _ (mem_statementsIdentifiers member ih))
  | block member _ ih => exact mem_statementsIdentifiers member ih
  | ifTest uses => exact List.mem_append_left _ uses.mem_identifiers
  | consequent _ ih => exact List.mem_append_right _ (List.mem_append_left _ ih)
  | alternate _ ih => exact List.mem_append_right _ (List.mem_append_right _ ih)
  | whileTest uses => exact List.mem_append_left _ uses.mem_identifiers
  | whileBody _ ih => exact List.mem_append_right _ ih
  | doWhileBody _ ih => exact List.mem_append_left _ ih
  | doWhileTest uses => exact List.mem_append_right _ uses.mem_identifiers
  | forTest uses => exact List.mem_append_right _ (List.mem_append_left _ uses.mem_identifiers)
  | forUpdate uses =>
      exact List.mem_append_right _ (List.mem_append_right _ (List.mem_append_left _ uses.mem_identifiers))
  | forBody _ ih => exact List.mem_append_right _ (List.mem_append_right _ (List.mem_append_right _ ih))
  | forInRight uses => exact List.mem_append_right _ (List.mem_append_left _ uses.mem_identifiers)
  | forInBody _ ih => exact List.mem_append_right _ (List.mem_append_right _ ih)
  | labeled _ ih => exact .tail _ ih
  | returned uses => exact uses.mem_identifiers
  | initializer member initial uses =>
      refine List.mem_flatMap.mpr ⟨_, member, List.mem_append_right _ ?_⟩
      rw [initial]
      exact uses.mem_identifiers
  | expression uses => exact uses.mem_identifiers

/-- Under a renaming that undoes itself, what leaks is renamed and nothing else leaks. -/
theorem Statement.leaks_rename_iff (involutive : ∀ n, σ (σ n) = n) {s : Statement} :
    (s.rename σ).Leaks (σ name) ↔ s.Leaks name := by
  have onward {s : Statement} {name : String} : s.Leaks name → (s.rename σ).Leaks (σ name) := by
    rintro ⟨path, reached, unbound⟩
    refine ⟨_, reached.rename, ?_⟩
    intro g member binds
    obtain ⟨f, known, rfl⟩ := List.mem_map.mp member
    have back := binds.rename (σ := σ)
    rw [Statement.rename_cancel involutive, involutive] at back
    exact unbound f known back
  refine ⟨fun leaks => ?_, onward⟩
  have back := onward leaks
  rwa [Statement.rename_cancel involutive, involutive] at back

end SketchSurvey.Script

namespace SketchSurvey.Analysis

open SketchSurvey.Script

variable {x y name : String} {f : Statement}

theorem replacing_eq_swap (x : String) {n : String} (different : n ≠ y) :
    replacing x y n = Equiv.swap x y n := by
  rw [replacing, Equiv.swap_apply_def, if_neg different]

/-- Inside a function that does not have a name yet, taking that name for a local is exchanging the two. -/
theorem renameInside_eq_rename (notOwn : f.functionName? ≠ some x) (fresh : y ∉ f.identifiers)
    (isFunction : isFunction f = true) : f.renameInside (replacing x y) = f.rename (Equiv.swap x y) := by
  cases f with
  | function id params body isAsync isGenerator =>
      have agrees : ∀ n ∈ patternsIdentifiers params ++ statementsIdentifiers body,
          replacing x y n = Equiv.swap x y n := by
        intro n carried
        refine replacing_eq_swap x ?_
        rintro rfl
        exact fresh (List.mem_append_right _ carried)
      rw [List.forall_mem_append] at agrees
      have ownName : id.map (Equiv.swap x y) = id := by
        cases id with
        | none => rfl
        | some own =>
            refine congrArg some (Equiv.swap_apply_of_ne_of_ne ?_ ?_)
            · rintro rfl
              exact notOwn rfl
            · rintro rfl
              exact fresh (.head _)
      rw [Statement.renameInside, Statement.rename, ownName, renamePatterns_congr params agrees.1,
        renameStatements_congr body agrees.2]
  | _ => cases isFunction

theorem not_leaks_of_bindsInside (binds : f.BindsInside name) : ¬ f.Leaks name := by
  cases binds with
  | own => exact fun leaks => (Statement.leaks_function_iff.mp leaks).2 .own
  | parameter member binds =>
      exact fun leaks => (Statement.leaks_function_iff.mp leaks).2 (.parameter member binds)
  | declared member declares =>
      exact fun leaks => (Statement.leaks_function_iff.mp leaks).2 (.declared member declares)

theorem isFunction_of_bindsInside (binds : f.BindsInside name) : isFunction f = true := by
  cases binds <;> rfl

/-- What leaks out of a function stays the same when a local takes a name that the function does not have. -/
theorem leaks_renameInside_iff (binds : f.BindsInside x) (notOwn : f.functionName? ≠ some x)
    (fresh : y ∉ f.identifiers) : (f.renameInside (replacing x y)).Leaks name ↔ f.Leaks name := by
  have exchanged : (f.rename (Equiv.swap x y)).Leaks name ↔ f.Leaks (Equiv.swap x y name) := by
    have follows : (f.rename (Equiv.swap x y)).Leaks (Equiv.swap x y (Equiv.swap x y name)) ↔
        f.Leaks (Equiv.swap x y name) := Statement.leaks_rename_iff (Equiv.swap_apply_self x y)
    rwa [Equiv.swap_apply_self] at follows
  have localKept : ¬ f.Leaks x := not_leaks_of_bindsInside binds
  have unused : ¬ f.Leaks y := fun ⟨_, reached, _⟩ => fresh reached.mem_identifiers
  rw [renameInside_eq_rename notOwn fresh (isFunction_of_bindsInside binds), exchanged]
  by_cases isLocal : name = x
  · subst isLocal
    rw [Equiv.swap_apply_left]
    exact iff_of_false unused localKept
  · by_cases isNew : name = y
    · subst isNew
      rw [Equiv.swap_apply_right]
      exact iff_of_false localKept unused
    · rw [Equiv.swap_apply_of_ne_of_ne isLocal isNew]

theorem functionName?_renameInside (σ : String → String) (s : Statement) :
    (s.renameInside σ).functionName? = s.functionName? := by
  cases s <;> rfl

theorem isFunction_renameInside (σ : String → String) (s : Statement) :
    isFunction (s.renameInside σ) = isFunction s := by
  cases s <;> rfl

/-- A script with one statement for another of the same name that leaks the same has the same free names. -/
theorem mem_freeVariables_of_leaks_iff {before after : List Statement} {g : Statement}
    (sameName : g.functionName? = f.functionName?) (sameKind : isFunction g = isFunction f)
    (same : g.Leaks name ↔ f.Leaks name) :
    name ∈ (freeVariables ⟨before ++ g :: after⟩).names ↔
      name ∈ (freeVariables ⟨before ++ f :: after⟩).names := by
  have functionNames : Program.functionNames ⟨before ++ g :: after⟩ =
      Program.functionNames ⟨before ++ f :: after⟩ := by
    simp only [Program.functionNames, List.filterMap_append, List.filterMap_cons, sameName]
  have leaking (h : Statement) : name ∈ (walkStatements {} ((before ++ h :: after).filter isFunction)).free ↔
      (∃ s ∈ before, isFunction s = true ∧ s.Leaks name) ∨ (isFunction h = true ∧ h.Leaks name) ∨
        ∃ s ∈ after, isFunction s = true ∧ s.Leaks name := by
    rw [(walkStatements_finds {} _ ScopeStack.chained_empty).free]
    simp [ScopeStack.binds_iff ScopeStack.chained_empty, and_assoc, or_and_right, exists_or]
  simp only [freeVariables, List.mem_filter, functionNames, leaking, sameKind, same]

/-- A local of a function at the top can take any name that no identifier in the function carries: the free
names of the script stay the same. The new name may be bound or used everywhere else. -/
theorem mem_freeVariables_renameInside (before after : List Statement) {id : Option String}
    {params : List Pattern} {body : List Statement} (isAsync isGenerator : Bool) {x y : String}
    (bound : (functionScope #[] id params body).has x = true) (notOwn : id ≠ some x)
    (fresh : y ∉ (Statement.function id params body isAsync isGenerator).identifiers) (name : String) :
    name ∈ (freeVariables ⟨before ++
        (Statement.function id params body isAsync isGenerator).renameInside (replacing x y) :: after⟩).names ↔
      name ∈ (freeVariables ⟨before ++
        Statement.function id params body isAsync isGenerator :: after⟩).names :=
  mem_freeVariables_of_leaks_iff (functionName?_renameInside _ _) (isFunction_renameInside _ _)
    (leaks_renameInside_iff ((has_functionScope_iff ..).mp bound) notOwn fresh)

section Shadowing

def shadowingParams : List Pattern :=
  [.object [.pair "x" (.withDefault (.identifier "x") (.identifier "d"))]]

/-- The parameter inside, the label and the member have the name of the parameter outside. -/
def shadowingBody : List Statement := [
  .function (some "inner") [.identifier "x"] [.return (some (.identifier "x"))] false false,
  .labeled "x" (.while (.identifier "x") (.break (some "x"))),
  .expression (.call (.expr (.member (.expr (.identifier "p")) (.name "x")))
    [.expr (.identifier "x"), .expr (.identifier "z")])]

def shadowing : Statement := .function (some "draw") shadowingParams shadowingBody false false

/-- A function in which `y` is free. -/
def usesY : Statement := .function (some "other") [] [.return (some (.identifier "y"))] false false

theorem mem_freeVariables_renameInside_shadowing :
    (functionScope #[] (some "draw") shadowingParams shadowingBody).has "x" = true ∧
      some "draw" ≠ some "x" ∧ "y" ∉ shadowing.identifiers ∧
      (freeVariables ⟨[usesY] ++ shadowing :: []⟩).names = ["z", "p", "y"] ∧
      ∀ name,
        name ∈ (freeVariables ⟨[usesY] ++ shadowing.renameInside (replacing "x" "y") :: []⟩).names ↔
          name ∈ (freeVariables ⟨[usesY] ++ shadowing :: []⟩).names := by
  have bound : (functionScope #[] (some "draw") shadowingParams shadowingBody).has "x" = true := by decide
  have notOwn : some "draw" ≠ some "x" := by decide
  have fresh : "y" ∉ shadowing.identifiers := by decide
  exact ⟨bound, notOwn, fresh, by decide,
    mem_freeVariables_renameInside [usesY] [] false false bound notOwn fresh⟩

end Shadowing

end SketchSurvey.Analysis
