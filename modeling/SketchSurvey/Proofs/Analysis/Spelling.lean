import SketchSurvey.Analysis.FreeVariables
import SketchSurvey.Analysis.MemberReferences
import SketchSurvey.Proofs.Script.Alike

/-! How a program spells its literals and the keys of its patterns is nothing to the analyses. -/

set_option autoImplicit false

namespace SketchSurvey.Script

variable {k : Spelling}

mutual

theorem Pattern.Alike.names : {p p' : Pattern} → p.Alike k p' → p.names = p'.names
  | _, _, .identifier => rfl
  | _, _, .object same => by rw [Pattern.names, Pattern.names, propertyNames_alike same]
  | _, _, .array same => by rw [Pattern.names, Pattern.names, patternsNames_alike same]
  | _, _, .rest same => by rw [Pattern.names, Pattern.names, Pattern.Alike.names same]
  | _, _, .withDefault same _ => by rw [Pattern.names, Pattern.names, Pattern.Alike.names same]
  | _, _, .target _ => rfl
  | _, _, .unsupported => rfl

theorem PatternProperty.Alike.names : {p p' : PatternProperty} → p.Alike k p' → p.names = p'.names
  | _, _, .pair _ same => by
    rw [PatternProperty.names, PatternProperty.names, Pattern.Alike.names same]
  | _, _, .rest same => by
    rw [PatternProperty.names, PatternProperty.names, Pattern.Alike.names same]

theorem patternsNames_alike : {ps ps' : List Pattern} → List.Forall₂ (Pattern.Alike k) ps ps' →
    patternsNames ps = patternsNames ps'
  | _, _, .nil => rfl
  | _, _, .cons same rest => by
    rw [patternsNames, patternsNames, Pattern.Alike.names same, patternsNames_alike rest]

theorem propertyNames_alike : {ps ps' : List PatternProperty} →
    List.Forall₂ (PatternProperty.Alike k) ps ps' → propertyNames ps = propertyNames ps'
  | _, _, .nil => rfl
  | _, _, .cons same rest => by
    rw [propertyNames, propertyNames, PatternProperty.Alike.names same, propertyNames_alike rest]

end

theorem flatMap_eq_of_forall₂ {α β γ : Type} {R : α → β → Prop} {f : α → List γ} {g : β → List γ}
    {xs : List α} {ys : List β} (related : List.Forall₂ R xs ys)
    (agree : ∀ {a b}, R a b → f a = g b) : xs.flatMap f = ys.flatMap g := by
  induction related with
  | nil => rfl
  | cons first _ ih => rw [List.flatMap_cons, List.flatMap_cons, agree first, ih]

theorem VariableDeclaration.Alike.names {d d' : VariableDeclaration} (same : d.Alike k d') :
    d.names = d'.names :=
  flatMap_eq_of_forall₂ same.declarations fun same => Pattern.Alike.names same.id

theorem Statement.Alike.declaredNames {s s' : Statement} (same : s.Alike k s') :
    s.declaredNames = s'.declaredNames := by
  cases same with
  | declaration same => exact same.names
  | _ => rfl

theorem Statement.Alike.functionName? {s s' : Statement} (same : s.Alike k s') :
    s.functionName? = s'.functionName? := by
  cases same <;> rfl

theorem Program.Alike.globalNames {p p' : Program} (same : p.Alike k p') :
    p.globalNames = p'.globalNames := by
  rw [Program.globalNames, Program.globalNames,
    flatMap_eq_of_forall₂ same Statement.Alike.declaredNames]

theorem Program.Alike.functionNames {p p' : Program} (same : p.Alike k p') :
    p.functionNames = p'.functionNames := by
  rw [Program.functionNames, Program.functionNames, List.filterMap_eq_flatMap_toList,
    List.filterMap_eq_flatMap_toList]
  exact flatMap_eq_of_forall₂ same fun same => by rw [Statement.Alike.functionName? same]

end SketchSurvey.Script

namespace SketchSurvey.Analysis

open SketchSurvey.Script

variable {k : Spelling}

section Walks

mutual

theorem hoist_alike (s : Scope) : {st st' : Statement} → st.Alike k st' → hoist s st = hoist s st'
  | _, _, .function _ _ => rfl
  | _, _, .declaration same => by rw [hoist, hoist, same.names]
  | _, _, .block same => by rw [hoist, hoist, hoistAll_alike s same]
  | _, _, .if _ same same' => by rw [hoist, hoist, hoist_alike s same, hoistOptional_alike _ same']
  | _, _, .for (.declaration same) _ _ body => by
    rw [hoist, hoist, same.names, hoist_alike _ body]
  | _, _, .for .none _ _ body => by rw [hoist, hoist, hoist_alike s body] <;> simp
  | _, _, .for (.expr _) _ _ body => by rw [hoist, hoist, hoist_alike s body] <;> simp
  | _, _, .forIn _ _ body => by rw [hoist, hoist, hoist_alike s body]
  | _, _, .forOf _ _ body => by rw [hoist, hoist, hoist_alike s body]
  | _, _, .while _ body => by rw [hoist, hoist, hoist_alike s body]
  | _, _, .doWhile body _ => by rw [hoist, hoist, hoist_alike s body]
  | _, _, .labeled body => by rw [hoist, hoist, hoist_alike s body]
  | _, _, .unsupported nested => by rw [hoist, hoist, hoistAll_alike s nested]
  | _, _, .expression _ => rfl
  | _, _, .return _ => rfl
  | _, _, .break => rfl
  | _, _, .continue => rfl
  | _, _, .debugger => rfl
  | _, _, .empty => rfl

theorem hoistOptional_alike (s : Scope) : {st st' : Option Statement} →
    Option.Rel (Statement.Alike k) st st' → hoistOptional s st = hoistOptional s st'
  | _, _, .none => rfl
  | _, _, .some same => by rw [hoistOptional, hoistOptional, hoist_alike s same]

theorem hoistAll_alike (s : Scope) : {body body' : List Statement} →
    List.Forall₂ (Statement.Alike k) body body' → hoistAll s body = hoistAll s body'
  | _, _, .nil => rfl
  | _, _, .cons same rest => by rw [hoistAll, hoistAll, hoist_alike s same, hoistAll_alike _ rest]

end

theorem functionScope_alike (stack : ScopeStack) (id : Option String) {params params' : List Pattern}
    {body body' : List Statement} (same : List.Forall₂ (Pattern.Alike k) params params')
    (same' : List.Forall₂ (Statement.Alike k) body body') :
    functionScope stack id params body = functionScope stack id params' body' := by
  rw [functionScope, functionScope, patternsNames_alike same, hoistAll_alike _ same']

mutual

theorem walkExpr_alike (w : Walk) : {e e' : Expr} → e.Alike k e' → walkExpr w e = walkExpr w e'
  | _, _, .assign _ right => by rw [walkExpr, walkExpr, walkExpr_alike w right]
  | _, _, .binary left right => by
    rw [walkExpr, walkExpr, walkExpr_alike w left, walkExpr_alike _ right]
  | _, _, .call callee arguments => by
    rw [walkExpr, walkExpr, walkReceiver_alike w callee, walkArguments_alike _ arguments]
  | _, _, .member object _ => by rw [walkExpr, walkExpr, walkReceiver_alike w object]
  | _, _, .identifier => rfl
  | _, _, .literal _ => rfl
  | _, _, .unsupported => rfl

theorem walkReceiver_alike (w : Walk) : {r r' : Receiver} → r.Alike k r' →
    walkReceiver w r = walkReceiver w r'
  | _, _, .super => rfl
  | _, _, .expr same => by rw [walkReceiver, walkReceiver, walkExpr_alike w same]

theorem walkArgument_alike (w : Walk) : {a a' : Argument} → a.Alike k a' →
    walkArgument w a = walkArgument w a'
  | _, _, .expr same => by rw [walkArgument, walkArgument, walkExpr_alike w same]
  | _, _, .spread _ => rfl

theorem walkArguments_alike (w : Walk) : {as as' : List Argument} →
    List.Forall₂ (Argument.Alike k) as as' → walkArguments w as = walkArguments w as'
  | _, _, .nil => rfl
  | _, _, .cons same rest => by
    rw [walkArguments, walkArguments, walkArgument_alike w same, walkArguments_alike _ rest]

end

theorem walkOptionalExpr_alike (w : Walk) {e e' : Option Expr} (same : Option.Rel (Expr.Alike k) e e') :
    walkOptionalExpr w e = walkOptionalExpr w e' := by
  cases same with
  | none => rfl
  | some same => exact walkExpr_alike w same

theorem foldl_eq_of_forall₂ {α β γ : Type} {R : α → β → Prop} {f : γ → α → γ} {g : γ → β → γ}
    {xs : List α} {ys : List β} (related : List.Forall₂ R xs ys)
    (agree : ∀ c {a b}, R a b → f c a = g c b) (start : γ) : xs.foldl f start = ys.foldl g start := by
  induction related generalizing start with
  | nil => rfl
  | cons first _ ih => rw [List.foldl_cons, List.foldl_cons, agree start first, ih]

mutual

theorem walkStatement_alike (w : Walk) : {s s' : Statement} → s.Alike k s' →
    walkStatement w s = walkStatement w s'
  | _, _, .function params body => by
    rw [walkStatement, walkStatement, functionScope_alike w.scopes _ params body,
      walkStatements_alike _ body]
  | _, _, .block body => by rw [walkStatement, walkStatement, walkStatements_alike w body]
  | _, _, .doWhile body test => by
    rw [walkStatement, walkStatement, walkStatement_alike w body, walkExpr_alike _ test]
  | _, _, .expression same => by rw [walkStatement, walkStatement, walkExpr_alike w same]
  | _, _, .for _ test update body => by
    rw [walkStatement, walkStatement, walkOptionalExpr_alike w test, walkOptionalExpr_alike _ update,
      walkStatement_alike _ body]
  | _, _, .forIn _ right body => by
    rw [walkStatement, walkStatement, walkExpr_alike w right, walkStatement_alike _ body]
  | _, _, .forOf _ _ _ => rfl
  | _, _, .if test consequent alternate => by
    rw [walkStatement, walkStatement, walkExpr_alike w test, walkStatement_alike _ consequent,
      walkOptionalStatement_alike _ alternate]
  | _, _, .labeled body => by rw [walkStatement, walkStatement, walkStatement_alike w body]
  | _, _, .return same => by rw [walkStatement, walkStatement, walkOptionalExpr_alike w same]
  | _, _, .declaration same => by
    rw [walkStatement, walkStatement]
    exact foldl_eq_of_forall₂ same.declarations (fun w _ _ same => walkOptionalExpr_alike w same.init) w
  | _, _, .while test body => by
    rw [walkStatement, walkStatement, walkExpr_alike w test, walkStatement_alike _ body]
  | _, _, .break => rfl
  | _, _, .continue => rfl
  | _, _, .debugger => rfl
  | _, _, .empty => rfl
  | _, _, .unsupported _ => rfl

theorem walkOptionalStatement_alike (w : Walk) : {s s' : Option Statement} →
    Option.Rel (Statement.Alike k) s s' → walkOptionalStatement w s = walkOptionalStatement w s'
  | _, _, .none => rfl
  | _, _, .some same => by
    rw [walkOptionalStatement, walkOptionalStatement, walkStatement_alike w same]

theorem walkStatements_alike (w : Walk) : {body body' : List Statement} →
    List.Forall₂ (Statement.Alike k) body body' → walkStatements w body = walkStatements w body'
  | _, _, .nil => rfl
  | _, _, .cons same rest => by
    rw [walkStatements, walkStatements, walkStatement_alike w same, walkStatements_alike _ rest]

end

theorem isFunction_alike {s s' : Statement} (same : s.Alike k s') : isFunction s = isFunction s' := by
  cases same <;> rfl

/-- The names that functions use and do not bind, and the report of what was passed over. -/
theorem freeVariables_alike {p p' : Program} (same : p.Alike k p') :
    freeVariables p = freeVariables p' := by
  have functions : List.Forall₂ (Statement.Alike k) (p.body.filter isFunction)
      (p'.body.filter isFunction) :=
    List.rel_filter (fun _ _ same => by simp only [isFunction_alike same]) same
  simp only [freeVariables, walkStatements_alike {} functions, same.functionNames]

end Walks

section Members

variable (space : String)

theorem memberOf?_alike {object object' : Receiver} {property property' : Property}
    (same : object.Alike k object') (same' : property.Alike k property') :
    memberOf? space object property = memberOf? space object' property' := by
  cases same with
  | super => rfl
  | expr same => cases same <;> cases same' <;> rfl

mutual

theorem collectExpr_alike (r : MemberReferences) : {e e' : Expr} → e.Alike k e' →
    collectExpr space r e = collectExpr space r e'
  | _, _, .assign left right => by
    rw [collectExpr, collectExpr, collectTarget_alike r left, collectExpr_alike _ right]
  | _, _, .binary left right => by
    rw [collectExpr, collectExpr, collectExpr_alike r left, collectExpr_alike _ right]
  | _, _, .call callee arguments => by
    rw [collectExpr, collectExpr, collectReceiver_alike r callee, collectArguments_alike _ arguments]
  | _, _, .member object property => by
    rw [collectExpr, collectExpr, memberOf?_alike space object property, collectReceiver_alike r object]
  | _, _, .identifier => rfl
  | _, _, .literal _ => rfl
  | _, _, .unsupported => rfl

theorem collectReceiver_alike (r : MemberReferences) : {e e' : Receiver} → e.Alike k e' →
    collectReceiver space r e = collectReceiver space r e'
  | _, _, .super => rfl
  | _, _, .expr same => by rw [collectReceiver, collectReceiver, collectExpr_alike r same]

theorem collectTarget_alike (r : MemberReferences) : {p p' : Pattern} → p.Alike k p' →
    collectTarget space r p = collectTarget space r p'
  | _, _, .target (.member object property) => by
    rw [collectTarget, collectTarget, memberOf?_alike space object property,
      collectReceiver_alike r object]
  | _, _, .target (.assign _ _) => rfl
  | _, _, .target (.binary _ _) => rfl
  | _, _, .target (.call _ _) => rfl
  | _, _, .target .identifier => rfl
  | _, _, .target (.literal _) => rfl
  | _, _, .target .unsupported => rfl
  | _, _, .identifier => rfl
  | _, _, .object _ => rfl
  | _, _, .array _ => rfl
  | _, _, .rest _ => rfl
  | _, _, .withDefault _ _ => rfl
  | _, _, .unsupported => rfl

theorem collectArgument_alike (r : MemberReferences) : {a a' : Argument} → a.Alike k a' →
    collectArgument space r a = collectArgument space r a'
  | _, _, .expr same => by rw [collectArgument, collectArgument, collectExpr_alike r same]
  | _, _, .spread _ => rfl

theorem collectArguments_alike (r : MemberReferences) : {as as' : List Argument} →
    List.Forall₂ (Argument.Alike k) as as' → collectArguments space r as = collectArguments space r as'
  | _, _, .nil => rfl
  | _, _, .cons same rest => by
    rw [collectArguments, collectArguments, collectArgument_alike r same, collectArguments_alike _ rest]

end

theorem collectOptionalExpr_alike (r : MemberReferences) {e e' : Option Expr}
    (same : Option.Rel (Expr.Alike k) e e') :
    collectOptionalExpr space r e = collectOptionalExpr space r e' := by
  cases same with
  | none => rfl
  | some same => exact collectExpr_alike space r same

mutual

theorem collectStatement_alike (r : MemberReferences) : {s s' : Statement} → s.Alike k s' →
    collectStatement space r s = collectStatement space r s'
  | _, _, .function _ body => by
    rw [collectStatement, collectStatement, collectStatements_alike r body]
  | _, _, .declaration same => by
    rw [collectStatement, collectStatement]
    exact foldl_eq_of_forall₂ same.declarations
      (fun r _ _ same => collectOptionalExpr_alike space r same.init) r
  | _, _, .expression same => by
    rw [collectStatement, collectStatement, collectExpr_alike space r same]
  | _, _, .return same => by
    rw [collectStatement, collectStatement, collectOptionalExpr_alike space r same]
  -- the others are passed over, and reported by the name of their kind
  | _, _, .block _ => rfl
  | _, _, .doWhile _ _ => rfl
  | _, _, .for _ _ _ _ => rfl
  | _, _, .forIn _ _ _ => rfl
  | _, _, .forOf _ _ _ => rfl
  | _, _, .if _ _ _ => rfl
  | _, _, .labeled _ => rfl
  | _, _, .while _ _ => rfl
  | _, _, .break => rfl
  | _, _, .continue => rfl
  | _, _, .debugger => rfl
  | _, _, .empty => rfl
  | _, _, .unsupported _ => rfl

theorem collectStatements_alike (r : MemberReferences) : {body body' : List Statement} →
    List.Forall₂ (Statement.Alike k) body body' →
    collectStatements space r body = collectStatements space r body'
  | _, _, .nil => rfl
  | _, _, .cons same rest => by
    rw [collectStatements, collectStatements, collectStatement_alike r same,
      collectStatements_alike _ rest]

end

/-- The members of a namespace, and the report of what was passed over. -/
theorem memberReferences_alike {p p' : Program} (same : p.Alike k p') :
    memberReferences space p = memberReferences space p' :=
  collectStatements_alike space {} same

end Members

end SketchSurvey.Analysis
