import SketchSurvey.Proofs.Analysis.FreeVariables
import SketchSurvey.Proofs.Analysis.MemberReferences

/-! Scripts that differ in the order of their declarations and statements only. A reordering keeps, place by
place, what a statement declares, uses and names, and so it keeps all names that an analysis finds. -/

set_option autoImplicit false

namespace SketchSurvey.Script

/-- The same declarators in any order. -/
inductive VariableDeclaration.Reordered : VariableDeclaration → VariableDeclaration → Prop where
  | declarators {kind declarations declarations'} :
      declarations.Perm declarations' → Reordered ⟨kind, declarations⟩ ⟨kind, declarations'⟩

inductive ForInit.Reordered : ForInit → ForInit → Prop where
  | itself (init : ForInit) : Reordered init init
  | declaration {d d'} : d.Reordered d' → Reordered (.declaration d) (.declaration d')

inductive ForTarget.Reordered : ForTarget → ForTarget → Prop where
  | itself (target : ForTarget) : Reordered target target
  | declaration {d d'} : d.Reordered d' → Reordered (.declaration d) (.declaration d')

mutual

/-- The same statement, with the declarators of its declarations and the statements inside it in any order,
at any depth. The parts of an `if` and the body of a loop keep their places. -/
inductive Statement.Reordered : Statement → Statement → Prop where
  | itself (s : Statement) : Statement.Reordered s s
  | function {id params body body' isAsync isGenerator} :
      StatementsReordered body body' →
      Statement.Reordered (.function id params body isAsync isGenerator)
        (.function id params body' isAsync isGenerator)
  | block {body body'} : StatementsReordered body body' → Statement.Reordered (.block body) (.block body')
  | doWhile {body body' test} :
      Statement.Reordered body body' → Statement.Reordered (.doWhile body test) (.doWhile body' test)
  | for {init init' test update body body'} :
      ForInit.Reordered init init' → Statement.Reordered body body' →
      Statement.Reordered (.for init test update body) (.for init' test update body')
  | forIn {left left' right body body'} :
      ForTarget.Reordered left left' → Statement.Reordered body body' →
      Statement.Reordered (.forIn left right body) (.forIn left' right body')
  | forOf {left left' right body body' isAwait} :
      ForTarget.Reordered left left' → Statement.Reordered body body' →
      Statement.Reordered (.forOf left right body isAwait) (.forOf left' right body' isAwait)
  | ifThen {test consequent consequent'} :
      Statement.Reordered consequent consequent' →
      Statement.Reordered (.if test consequent none) (.if test consequent' none)
  | ifElse {test consequent consequent' alternate alternate'} :
      Statement.Reordered consequent consequent' → Statement.Reordered alternate alternate' →
      Statement.Reordered (.if test consequent (some alternate)) (.if test consequent' (some alternate'))
  | labeled {label body body'} :
      Statement.Reordered body body' → Statement.Reordered (.labeled label body) (.labeled label body')
  | declaration {d d'} :
      VariableDeclaration.Reordered d d' → Statement.Reordered (.declaration d) (.declaration d')
  | while {test body body'} :
      Statement.Reordered body body' → Statement.Reordered (.while test body) (.while test body')
  | nested {kind line nested nested'} :
      StatementsReordered nested nested' →
      Statement.Reordered (.unsupported kind line nested) (.unsupported kind line nested')

/-- The same statements in any order, each of them reordered inside. -/
inductive StatementsReordered : List Statement → List Statement → Prop where
  | nil : StatementsReordered [] []
  | cons {s s' body body'} :
      Statement.Reordered s s' → StatementsReordered body body' →
      StatementsReordered (s :: body) (s' :: body')
  | swap (s t : Statement) (body : List Statement) : StatementsReordered (s :: t :: body) (t :: s :: body)
  | trans {body body' body''} :
      StatementsReordered body body' → StatementsReordered body' body'' → StatementsReordered body body''

end

/-- Scripts that differ in the order of statements and declarators only. -/
def Program.Reordered (p q : Program) : Prop := StatementsReordered p.body q.body

section Equivalence

theorem VariableDeclaration.Reordered.symm {d d' : VariableDeclaration} (reordered : d.Reordered d') :
    d'.Reordered d := by
  cases reordered with
  | declarators order => exact .declarators order.symm

theorem VariableDeclaration.Reordered.trans {d d' d'' : VariableDeclaration} (first : d.Reordered d')
    (second : d'.Reordered d'') : d.Reordered d'' := by
  cases first with
  | declarators order =>
      cases second with
      | declarators order' => exact .declarators (order.trans order')

theorem ForInit.Reordered.symm {init init' : ForInit} (reordered : init.Reordered init') :
    init'.Reordered init := by
  cases reordered with
  | itself => exact .itself _
  | declaration inside => exact .declaration inside.symm

theorem ForInit.Reordered.trans {init init' init'' : ForInit} (first : init.Reordered init')
    (second : init'.Reordered init'') : init.Reordered init'' := by
  cases first with
  | itself => exact second
  | declaration inside =>
      cases second with
      | itself => exact .declaration inside
      | declaration inside' => exact .declaration (inside.trans inside')

theorem ForTarget.Reordered.symm {target target' : ForTarget} (reordered : target.Reordered target') :
    target'.Reordered target := by
  cases reordered with
  | itself => exact .itself _
  | declaration inside => exact .declaration inside.symm

theorem ForTarget.Reordered.trans {target target' target'' : ForTarget}
    (first : target.Reordered target') (second : target'.Reordered target'') :
    target.Reordered target'' := by
  cases first with
  | itself => exact second
  | declaration inside =>
      cases second with
      | itself => exact .declaration inside
      | declaration inside' => exact .declaration (inside.trans inside')

mutual

theorem Statement.Reordered.symm : ∀ {s s' : Statement}, s.Reordered s' → s'.Reordered s
  | _, _, .itself s => .itself s
  | _, _, .function inside => .function inside.symm
  | _, _, .block inside => .block inside.symm
  | _, _, .doWhile inside => .doWhile inside.symm
  | _, _, .for init inside => .for init.symm inside.symm
  | _, _, .forIn left inside => .forIn left.symm inside.symm
  | _, _, .forOf left inside => .forOf left.symm inside.symm
  | _, _, .ifThen inside => .ifThen inside.symm
  | _, _, .ifElse consequent alternate => .ifElse consequent.symm alternate.symm
  | _, _, .labeled inside => .labeled inside.symm
  | _, _, .declaration inside => .declaration inside.symm
  | _, _, .while inside => .while inside.symm
  | _, _, .nested inside => .nested inside.symm

theorem StatementsReordered.symm :
    ∀ {body body' : List Statement}, StatementsReordered body body' → StatementsReordered body' body
  | _, _, .nil => .nil
  | _, _, .cons first rest => .cons first.symm rest.symm
  | _, _, .swap s t body => .swap t s body
  | _, _, .trans first second => .trans second.symm first.symm

end

theorem Statement.Reordered.trans : ∀ {s s' s'' : Statement},
    s.Reordered s' → s'.Reordered s'' → s.Reordered s''
  | _, _, _, .itself _, second => second
  | _, _, _, first, .itself _ => first
  | _, _, _, .function inside, .function inside' => .function (.trans inside inside')
  | _, _, _, .block inside, .block inside' => .block (.trans inside inside')
  | _, _, _, .doWhile inside, .doWhile inside' => .doWhile (inside.trans inside')
  | _, _, _, .for init inside, .for init' inside' => .for (init.trans init') (inside.trans inside')
  | _, _, _, .forIn left inside, .forIn left' inside' => .forIn (left.trans left') (inside.trans inside')
  | _, _, _, .forOf left inside, .forOf left' inside' => .forOf (left.trans left') (inside.trans inside')
  | _, _, _, .ifThen inside, .ifThen inside' => .ifThen (inside.trans inside')
  | _, _, _, .ifElse consequent alternate, .ifElse consequent' alternate' =>
      .ifElse (consequent.trans consequent') (alternate.trans alternate')
  | _, _, _, .labeled inside, .labeled inside' => .labeled (inside.trans inside')
  | _, _, _, .declaration inside, .declaration inside' => .declaration (inside.trans inside')
  | _, _, _, .while inside, .while inside' => .while (inside.trans inside')
  | _, _, _, .nested inside, .nested inside' => .nested (.trans inside inside')

theorem StatementsReordered.refl (body : List Statement) : StatementsReordered body body := by
  induction body with
  | nil => exact .nil
  | cons s body ih => exact .cons (.itself s) ih

theorem StatementsReordered.of_perm {body body' : List Statement} (order : body.Perm body') :
    StatementsReordered body body' := by
  induction order with
  | nil => exact .nil
  | cons s _ ih => exact .cons (.itself s) ih
  | swap s t body => exact .swap t s body
  | trans _ _ first second => exact .trans first second

-- By recursion on the reordering, not on the lists: `trans` passes through a list that neither end shows.
theorem StatementsReordered.exists_mem : ∀ {body body' : List Statement}, StatementsReordered body body' →
    ∀ {s : Statement}, s ∈ body → ∃ s' ∈ body', s.Reordered s'
  | _, _, .cons first rest, s, member => by
      cases member with
      | head => exact ⟨_, .head _, first⟩
      | tail _ later =>
          obtain ⟨s', member', reordered⟩ := rest.exists_mem later
          exact ⟨s', .tail _ member', reordered⟩
  | _, _, .swap t u body, s, member => ⟨s, (List.Perm.swap u t body).mem_iff.mp member, .itself s⟩
  | _, _, .trans first second, s, member => by
      obtain ⟨s', member', reordered⟩ := first.exists_mem member
      obtain ⟨s'', member'', reordered'⟩ := second.exists_mem member'
      exact ⟨s'', member'', reordered.trans reordered'⟩

end Equivalence

section Names

variable {s s' : Statement} {name : String}

theorem Statement.functionName?_of_reordered (reordered : s.Reordered s') :
    s'.functionName? = s.functionName? := by
  cases reordered <;> rfl

theorem VariableDeclaration.Reordered.mem {d d' : VariableDeclaration} (reordered : d.Reordered d')
    {v : Declarator} (member : v ∈ d.declarations) : v ∈ d'.declarations := by
  cases reordered with
  | declarators order => exact order.mem_iff.mp member

theorem VariableDeclaration.Reordered.mem_names {d d' : VariableDeclaration} (reordered : d.Reordered d')
    (member : name ∈ d.names) : name ∈ d'.names := by
  rw [VariableDeclaration.mem_names_iff] at member ⊢
  obtain ⟨v, known, binds⟩ := member
  exact ⟨v, reordered.mem known, binds⟩

theorem Statement.Reordered.mem_declaredNames (reordered : s.Reordered s') (member : name ∈ s.declaredNames) :
    name ∈ s'.declaredNames := by
  cases reordered with
  | declaration inside => exact inside.mem_names member
  | _ => exact member

/-- What is declared at some depth is declared there in any order. -/
theorem Statement.Declares.of_reordered (declares : s.Declares name) (reordered : s.Reordered s') :
    s'.Declares name := by
  induction declares generalizing s' with
  | function => cases reordered <;> exact .function
  | «variable» member binds =>
      cases reordered with
      | itself => exact .variable member binds
      | declaration inside => exact .variable (inside.mem member) binds
  | block member declares ih =>
      cases reordered with
      | itself => exact .block member declares
      | block inside =>
          obtain ⟨t, member', counterpart⟩ := inside.exists_mem member
          exact .block member' (ih counterpart)
  | consequent declares ih =>
      cases reordered with
      | itself => exact .consequent declares
      | ifThen inside => exact .consequent (ih inside)
      | ifElse inside _ => exact .consequent (ih inside)
  | alternate declares ih =>
      cases reordered with
      | itself => exact .alternate declares
      | ifElse _ inside => exact .alternate (ih inside)
  | forInit declares ih =>
      cases reordered with
      | itself => exact .forInit declares
      | «for» init _ =>
          cases init with
          | itself => exact .forInit declares
          | declaration inside => exact .forInit (ih (.declaration inside))
  | forBody declares ih =>
      cases reordered with
      | itself => exact .forBody declares
      | «for» _ inside => exact .forBody (ih inside)
  | forInBody declares ih =>
      cases reordered with
      | itself => exact .forInBody declares
      | forIn _ inside => exact .forInBody (ih inside)
  | forOfBody declares ih =>
      cases reordered with
      | itself => exact .forOfBody declares
      | forOf _ inside => exact .forOfBody (ih inside)
  | whileBody declares ih =>
      cases reordered with
      | itself => exact .whileBody declares
      | «while» inside => exact .whileBody (ih inside)
  | doWhileBody declares ih =>
      cases reordered with
      | itself => exact .doWhileBody declares
      | doWhile inside => exact .doWhileBody (ih inside)
  | labeled declares ih =>
      cases reordered with
      | itself => exact .labeled declares
      | labeled inside => exact .labeled (ih inside)
  | nested member declares ih =>
      cases reordered with
      | itself => exact .nested member declares
      | nested inside =>
          obtain ⟨t, member', counterpart⟩ := inside.exists_mem member
          exact .nested member' (ih counterpart)

theorem Statement.BindsInside.of_reordered (binds : s.BindsInside name) (reordered : s.Reordered s') :
    s'.BindsInside name := by
  cases reordered with
  | itself => exact binds
  | function inside =>
      cases binds with
      | own => exact .own
      | parameter member binds => exact .parameter member binds
      | declared member declares =>
          obtain ⟨t, member', counterpart⟩ := inside.exists_mem member
          exact .declared member' (declares.of_reordered counterpart)
  | _ => cases binds

theorem Statement.Leaks.through {outer : Statement} (leaks : s.Leaks name)
    (outward : ∀ {path}, s.Reaches path name → outer.Reaches path name) : outer.Leaks name := by
  obtain ⟨path, reached, unbound⟩ := leaks
  exact ⟨path, outward reached, unbound⟩

/-- A use that no function binds is reached in any order: the functions on the way bind what they bound. -/
theorem Statement.Reaches.leaks_of_reordered {path : List Statement} (reached : s.Reaches path name)
    (unbound : ∀ f ∈ path, ¬ f.BindsInside name) (reordered : s.Reordered s') : s'.Leaks name := by
  induction reached generalizing s' with
  | @function id params body isAsync isGenerator t path name member reached ih =>
      cases reordered with
      | itself => exact ⟨_, .function member reached, unbound⟩
      | @function _ _ _ body' _ _ inside =>
          obtain ⟨t', member', counterpart⟩ := inside.exists_mem member
          -- What the function bound in one order it binds in the other, so the use leaks out of both.
          have leaks : t'.Leaks name := ih (fun f known => unbound f (.tail _ known)) counterpart
          refine leaks_function_iff.mpr ⟨⟨t', member', leaks⟩, fun binds => ?_⟩
          exact unbound _ (.head _) (binds.of_reordered (.function inside.symm))
  | block member reached ih =>
      cases reordered with
      | itself => exact ⟨_, .block member reached, unbound⟩
      | block inside =>
          obtain ⟨t', member', counterpart⟩ := inside.exists_mem member
          exact (ih unbound counterpart).through (.block member')
  | ifTest uses => cases reordered <;> exact ⟨[], .ifTest uses, unbound⟩
  | consequent reached ih =>
      cases reordered with
      | itself => exact ⟨_, .consequent reached, unbound⟩
      | ifThen inside => exact (ih unbound inside).through .consequent
      | ifElse inside _ => exact (ih unbound inside).through .consequent
  | alternate reached ih =>
      cases reordered with
      | itself => exact ⟨_, .alternate reached, unbound⟩
      | ifElse _ inside => exact (ih unbound inside).through .alternate
  | whileTest uses => cases reordered <;> exact ⟨[], .whileTest uses, unbound⟩
  | whileBody reached ih =>
      cases reordered with
      | itself => exact ⟨_, .whileBody reached, unbound⟩
      | «while» inside => exact (ih unbound inside).through .whileBody
  | doWhileBody reached ih =>
      cases reordered with
      | itself => exact ⟨_, .doWhileBody reached, unbound⟩
      | doWhile inside => exact (ih unbound inside).through .doWhileBody
  | doWhileTest uses => cases reordered <;> exact ⟨[], .doWhileTest uses, unbound⟩
  | forTest uses => cases reordered <;> exact ⟨[], .forTest uses, unbound⟩
  | forUpdate uses => cases reordered <;> exact ⟨[], .forUpdate uses, unbound⟩
  | forBody reached ih =>
      cases reordered with
      | itself => exact ⟨_, .forBody reached, unbound⟩
      | «for» _ inside => exact (ih unbound inside).through .forBody
  | forInRight uses => cases reordered <;> exact ⟨[], .forInRight uses, unbound⟩
  | forInBody reached ih =>
      cases reordered with
      | itself => exact ⟨_, .forInBody reached, unbound⟩
      | forIn _ inside => exact (ih unbound inside).through .forInBody
  | labeled reached ih =>
      cases reordered with
      | itself => exact ⟨_, .labeled reached, unbound⟩
      | labeled inside => exact (ih unbound inside).through .labeled
  | returned uses => cases reordered with | itself => exact ⟨[], .returned uses, unbound⟩
  | initializer member initial uses =>
      cases reordered with
      | itself => exact ⟨[], .initializer member initial uses, unbound⟩
      | declaration inside => exact ⟨[], .initializer (inside.mem member) initial uses, unbound⟩
  | expression uses => cases reordered with | itself => exact ⟨[], .expression uses, unbound⟩

theorem Statement.Covers.of_reordered {space : String} {e : Expr} (covers : s.Covers space e)
    (reordered : s.Reordered s') : s'.Covers space e := by
  induction covers generalizing s' with
  | function member covers ih =>
      cases reordered with
      | itself => exact .function member covers
      | function inside =>
          obtain ⟨t, member', counterpart⟩ := inside.exists_mem member
          exact .function member' (ih counterpart)
  | initializer member initial covers =>
      cases reordered with
      | itself => exact .initializer member initial covers
      | declaration inside => exact .initializer (inside.mem member) initial covers
  | expression covers => cases reordered with | itself => exact .expression covers
  | returned covers => cases reordered with | itself => exact .returned covers

/-- Where some statement has a property that every reordering keeps, another one has it in any order. -/
theorem StatementsReordered.exists_iff {body body' : List Statement}
    (reordered : StatementsReordered body body') {P : Statement → Prop}
    (keeps : ∀ {s s' : Statement}, s.Reordered s' → P s → P s') :
    (∃ s ∈ body, P s) ↔ ∃ s ∈ body', P s := by
  have onward {body body' : List Statement} (reordered : StatementsReordered body body') :
      (∃ s ∈ body, P s) → ∃ s ∈ body', P s := by
    rintro ⟨s, member, holds⟩
    obtain ⟨s', member', counterpart⟩ := reordered.exists_mem member
    exact ⟨s', member', keeps counterpart holds⟩
  exact ⟨onward reordered, onward reordered.symm⟩

end Names

end SketchSurvey.Script

namespace SketchSurvey.Analysis

open SketchSurvey.Script

variable {p q : Program} {name : String}

theorem isFunction_of_reordered {s s' : Statement} (reordered : s.Reordered s') :
    isFunction s' = isFunction s := by
  cases reordered with
  | itself => rfl
  | _ => rfl

theorem mem_functionNames_of_reordered (reordered : p.Reordered q) :
    name ∈ p.functionNames ↔ name ∈ q.functionNames := by
  simp only [Program.functionNames, List.mem_filterMap]
  refine reordered.exists_iff fun inside named => ?_
  rw [Statement.functionName?_of_reordered inside]
  exact named

theorem mem_globalNames_of_reordered (reordered : p.Reordered q) :
    name ∈ p.globalNames ↔ name ∈ q.globalNames := by
  simp only [Program.globalNames, List.mem_eraseDups, List.mem_flatMap]
  exact reordered.exists_iff fun inside => inside.mem_declaredNames

theorem mem_walkFunctions_of_reordered (reordered : p.Reordered q) :
    name ∈ (walkStatements {} (p.body.filter isFunction)).free ↔
      name ∈ (walkStatements {} (q.body.filter isFunction)).free := by
  have leaking : (∃ f ∈ p.body, isFunction f = true ∧ f.Leaks name) ↔
      ∃ f ∈ q.body, isFunction f = true ∧ f.Leaks name := by
    refine reordered.exists_iff fun inside both => ?_
    obtain ⟨isFunction, path, reached, unbound⟩ := both
    exact ⟨(isFunction_of_reordered inside).trans isFunction, reached.leaks_of_reordered unbound inside⟩
  rw [(walkStatements_finds {} _ ScopeStack.chained_empty).free,
    (walkStatements_finds {} _ ScopeStack.chained_empty).free]
  simp only [List.mem_filter, and_assoc, leaking]

theorem mem_freeVariables_of_reordered (reordered : p.Reordered q) :
    name ∈ (freeVariables p).names ↔ name ∈ (freeVariables q).names := by
  simp only [freeVariables, List.mem_filter, mem_walkFunctions_of_reordered reordered, Bool.not_eq_true',
    ← Bool.not_eq_true, List.contains_iff_mem, mem_functionNames_of_reordered reordered]

theorem mem_memberReferences_of_reordered (reordered : p.Reordered q) (space : String) :
    name ∈ (memberReferences space p).names ↔ name ∈ (memberReferences space q).names := by
  rw [memberReferences, memberReferences, collectStatements_adds space {} p.body name,
    collectStatements_adds space {} q.body name]
  exact or_congr_right (reordered.exists_iff fun inside covers => covers.of_reordered inside)

/-- No analysis depends on the order in which a script has its statements and declarators. -/
theorem names_of_reordered (reordered : p.Reordered q) (name : String) :
    (name ∈ (freeVariables p).names ↔ name ∈ (freeVariables q).names) ∧
      (name ∈ p.globalNames ↔ name ∈ q.globalNames) ∧
      (∀ space, name ∈ (memberReferences space p).names ↔ name ∈ (memberReferences space q).names) ∧
      (name ∈ p.functionNames ↔ name ∈ q.functionNames) :=
  ⟨mem_freeVariables_of_reordered reordered, mem_globalNames_of_reordered reordered,
    mem_memberReferences_of_reordered reordered, mem_functionNames_of_reordered reordered⟩

section UsesFirst

/-- A function that uses a name of the function around it, and one that nothing binds. -/
def sumFunction : Statement :=
  .function (some "sum") [] [.return (some (.binary "+" (.identifier "x") (.identifier "y")))] false false

def useOf (name : String) : Statement := .expression (.identifier name)

def declaring (declarations : List Declarator) : Statement := .declaration ⟨.var, declarations⟩

/-- A declarator whose first value is a member of `p5`. -/
def memberDeclarator (name member : String) : Declarator where
  id := .identifier name
  init := some (.memberOfName "p5" member)

def plainDeclarator (name : String) : Declarator where
  id := .identifier name
  init := none

/-- Names are used before they are declared, in a function inside and in a block. -/
def usesFirst : Program where
  body := [
    .function (some "draw") [] [
      sumFunction,
      declaring [plainDeclarator "x", memberDeclarator "z" "map"],
      .block [useOf "w", declaring [plainDeclarator "w"]]] false false,
    declaring [plainDeclarator "g", memberDeclarator "h" "random"]]

/-- The same script with the declarations first. -/
def declaresFirst : Program where
  body := [
    declaring [memberDeclarator "h" "random", plainDeclarator "g"],
    .function (some "draw") [] [
      .block [declaring [plainDeclarator "w"], useOf "w"],
      declaring [memberDeclarator "z" "map", plainDeclarator "x"],
      sumFunction] false false]

theorem usesFirst_reordered : usesFirst.Reordered declaresFirst := by
  have declarators {v w : Declarator} : (declaring [v, w]).Reordered (declaring [w, v]) :=
    .declaration (.declarators (.swap ..))
  have inDraw : StatementsReordered
      [sumFunction, declaring [plainDeclarator "x", memberDeclarator "z" "map"],
        .block [useOf "w", declaring [plainDeclarator "w"]]]
      [.block [declaring [plainDeclarator "w"], useOf "w"],
        declaring [memberDeclarator "z" "map", plainDeclarator "x"], sumFunction] :=
    .trans (.cons (.itself _) (.cons declarators (.cons (.block (.swap ..)) .nil)))
      (.of_perm (List.reverse_perm _).symm)
  exact .trans (.swap ..) (.cons declarators (.cons (.function inDraw) .nil))

/-- The free names of the two scripts are found in a different order, and are the same. -/
theorem names_of_reordered_usesFirst :
    usesFirst.Reordered declaresFirst ∧ (freeVariables usesFirst).names = ["p5", "y"] ∧
      (freeVariables declaresFirst).names = ["y", "p5"] ∧
      ∀ name, (name ∈ (freeVariables usesFirst).names ↔ name ∈ (freeVariables declaresFirst).names) ∧
        (name ∈ usesFirst.globalNames ↔ name ∈ declaresFirst.globalNames) ∧
        (∀ space, name ∈ (memberReferences space usesFirst).names ↔
          name ∈ (memberReferences space declaresFirst).names) ∧
        (name ∈ usesFirst.functionNames ↔ name ∈ declaresFirst.functionNames) :=
  ⟨usesFirst_reordered, by decide, by decide, names_of_reordered usesFirst_reordered⟩

end UsesFirst

end SketchSurvey.Analysis
