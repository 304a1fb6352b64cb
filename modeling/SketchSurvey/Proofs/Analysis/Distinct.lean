import Mathlib.Data.List.Nodup
import SketchSurvey.Analysis.FreeVariables
import SketchSurvey.Analysis.MemberReferences

/-! The analyses find no name twice. What each single step keeps is kept by a whole analysis; and a step notes a
name only if it is new. -/

set_option autoImplicit false

namespace SketchSurvey.Analysis

open SketchSurvey.Script

section Walks

/-- A property of walks that each of their steps keeps. -/
structure Walk.Kept (P : Walk → Prop) : Prop where
  reference : ∀ {w}, P w → ∀ name, P (w.reference name)
  skip : ∀ {w}, P w → ∀ s, P (w.skip s)
  push : ∀ {w}, P w → ∀ s, P (w.push s)
  pop : ∀ {w}, P w → P w.pop

variable {P : Walk → Prop}

mutual

theorem walkExpr_keeps (kept : Walk.Kept P) : ∀ {w : Walk} (e : Expr), P w → P (walkExpr w e)
  | _, .assign _ _ right, holds => walkExpr_keeps kept right holds
  | _, .binary _ left right, holds => walkExpr_keeps kept right (walkExpr_keeps kept left holds)
  | _, .call callee arguments, holds => walkArguments_keeps kept arguments (walkReceiver_keeps kept callee holds)
  | _, .member object _, holds => walkReceiver_keeps kept object holds
  | _, .identifier name, holds => kept.reference holds name
  | _, .literal _, holds => holds
  | _, .unsupported .., holds => kept.skip holds _

theorem walkReceiver_keeps (kept : Walk.Kept P) :
    ∀ {w : Walk} (receiver : Receiver), P w → P (walkReceiver w receiver)
  | _, .super, holds => holds
  | _, .expr e, holds => walkExpr_keeps kept e holds

theorem walkArgument_keeps (kept : Walk.Kept P) : ∀ {w : Walk} (a : Argument), P w → P (walkArgument w a)
  | _, .expr e, holds => walkExpr_keeps kept e holds
  | _, .spread _, holds => holds

theorem walkArguments_keeps (kept : Walk.Kept P) :
    ∀ {w : Walk} (as : List Argument), P w → P (walkArguments w as)
  | _, [], holds => holds
  | _, a :: rest, holds => walkArguments_keeps kept rest (walkArgument_keeps kept a holds)

end

theorem walkOptionalExpr_keeps (kept : Walk.Kept P) :
    ∀ {w : Walk} (o : Option Expr), P w → P (walkOptionalExpr w o)
  | _, none, holds => holds
  | _, some e, holds => walkExpr_keeps kept e holds

theorem walkInitializers_keeps (kept : Walk.Kept P) : ∀ {w : Walk} (vs : List Declarator), P w →
    P (vs.foldl (fun w v => walkOptionalExpr w v.init) w)
  | _, [], holds => holds
  | _, v :: rest, holds => walkInitializers_keeps kept rest (walkOptionalExpr_keeps kept v.init holds)

mutual

theorem walkStatement_keeps (kept : Walk.Kept P) :
    ∀ {w : Walk} (s : Statement), P w → P (walkStatement w s)
  | _, .function _ _ body _ _, holds => kept.pop (walkStatements_keeps kept body (kept.push holds _))
  | _, .block body, holds => walkStatements_keeps kept body holds
  | _, .doWhile body test, holds => walkExpr_keeps kept test (walkStatement_keeps kept body holds)
  | _, .expression e, holds => walkExpr_keeps kept e holds
  | _, .for _ test update body, holds => walkStatement_keeps kept body
      (walkOptionalExpr_keeps kept update (walkOptionalExpr_keeps kept test holds))
  | _, .forIn _ right body, holds => walkStatement_keeps kept body (walkExpr_keeps kept right holds)
  | _, .forOf .., holds => kept.skip holds _
  | _, .if test consequent alternate, holds => walkOptionalStatement_keeps kept alternate
      (walkStatement_keeps kept consequent (walkExpr_keeps kept test holds))
  | _, .labeled _ body, holds => walkStatement_keeps kept body holds
  | _, .return argument, holds => walkOptionalExpr_keeps kept argument holds
  | _, .declaration d, holds => walkInitializers_keeps kept d.declarations holds
  | _, .while test body, holds => walkStatement_keeps kept body (walkExpr_keeps kept test holds)
  | _, .break _, holds => holds
  | _, .continue _, holds => holds
  | _, .debugger, holds => holds
  | _, .empty, holds => holds
  | _, .unsupported .., holds => kept.skip holds _

theorem walkOptionalStatement_keeps (kept : Walk.Kept P) :
    ∀ {w : Walk} (o : Option Statement), P w → P (walkOptionalStatement w o)
  | _, none, holds => holds
  | _, some s, holds => walkStatement_keeps kept s holds

theorem walkStatements_keeps (kept : Walk.Kept P) :
    ∀ {w : Walk} (body : List Statement), P w → P (walkStatements w body)
  | _, [], holds => holds
  | _, s :: rest, holds => walkStatements_keeps kept rest (walkStatement_keeps kept s holds)

end

theorem kept_nodup : Walk.Kept fun w => w.free.Nodup where
  reference distinct name := by
    unfold Walk.reference
    split
    · exact distinct
    · exact List.Nodup.insert distinct
  skip distinct _ := distinct
  push distinct _ := distinct
  pop distinct := distinct

/-- No free variable is found twice. -/
theorem nodup_freeVariables (p : Program) : (freeVariables p).names.Nodup :=
  (walkStatements_keeps kept_nodup (w := {}) (p.body.filter isFunction) List.nodup_nil).filter _

end Walks

section Collections

/-- A property of collections that each of their steps keeps. -/
structure MemberReferences.Kept (P : MemberReferences → Prop) : Prop where
  add : ∀ {r}, P r → ∀ name, P (r.add name)
  skip : ∀ {r}, P r → ∀ sort kind, P (r.skip sort kind)

variable {P : MemberReferences → Prop} (space : String)

/-- A member that is taken from the namespace is added; behind any other the search goes on. -/
theorem collectMember_keeps (kept : MemberReferences.Kept P) {r : MemberReferences} {object : Receiver}
    (property : Property) (holds : P r) (behind : P (collectReceiver space r object)) :
    P (collectExpr space r (.member object property)) := by
  rw [collectExpr]
  split
  · exact kept.add holds _
  · exact behind

mutual

theorem collectExpr_keeps (kept : MemberReferences.Kept P) :
    ∀ {r : MemberReferences} (e : Expr), P r → P (collectExpr space r e)
  | _, .assign _ left right, holds => collectExpr_keeps kept right (collectTarget_keeps kept left holds)
  | _, .binary _ left right, holds => collectExpr_keeps kept right (collectExpr_keeps kept left holds)
  | _, .call callee arguments, holds =>
      collectArguments_keeps kept arguments (collectReceiver_keeps kept callee holds)
  | _, .member object property, holds =>
      collectMember_keeps space kept property holds (collectReceiver_keeps kept object holds)
  | _, .identifier _, holds => holds
  | _, .literal _, holds => holds
  | _, .unsupported .., holds => kept.skip holds _ _

theorem collectReceiver_keeps (kept : MemberReferences.Kept P) :
    ∀ {r : MemberReferences} (receiver : Receiver), P r → P (collectReceiver space r receiver)
  | _, .super, holds => holds
  | _, .expr e, holds => collectExpr_keeps kept e holds

theorem collectTarget_keeps (kept : MemberReferences.Kept P) :
    ∀ {r : MemberReferences} (left : Pattern), P r → P (collectTarget space r left)
  | _, .target (.member object property), holds =>
      collectMember_keeps space kept property holds (collectReceiver_keeps kept object holds)
  | _, .target (.assign ..), holds => holds
  | _, .target (.binary ..), holds => holds
  | _, .target (.call ..), holds => holds
  | _, .target (.identifier _), holds => holds
  | _, .target (.literal _), holds => holds
  | _, .target (.unsupported ..), holds => holds
  | _, .identifier _, holds => holds
  | _, .object _, holds => holds
  | _, .array _, holds => holds
  | _, .rest _, holds => holds
  | _, .withDefault .., holds => holds
  | _, .unsupported .., holds => holds

theorem collectArgument_keeps (kept : MemberReferences.Kept P) :
    ∀ {r : MemberReferences} (a : Argument), P r → P (collectArgument space r a)
  | _, .expr e, holds => collectExpr_keeps kept e holds
  | _, .spread _, holds => holds

theorem collectArguments_keeps (kept : MemberReferences.Kept P) :
    ∀ {r : MemberReferences} (as : List Argument), P r → P (collectArguments space r as)
  | _, [], holds => holds
  | _, a :: rest, holds => collectArguments_keeps kept rest (collectArgument_keeps kept a holds)

end

theorem collectOptionalExpr_keeps (kept : MemberReferences.Kept P) :
    ∀ {r : MemberReferences} (o : Option Expr), P r → P (collectOptionalExpr space r o)
  | _, none, holds => holds
  | _, some e, holds => collectExpr_keeps space kept e holds

theorem collectInitializers_keeps (kept : MemberReferences.Kept P) :
    ∀ {r : MemberReferences} (vs : List Declarator), P r →
      P (vs.foldl (fun r v => collectOptionalExpr space r v.init) r)
  | _, [], holds => holds
  | _, v :: rest, holds =>
      collectInitializers_keeps kept rest (collectOptionalExpr_keeps space kept v.init holds)

mutual

theorem collectStatement_keeps (kept : MemberReferences.Kept P) :
    ∀ {r : MemberReferences} (s : Statement), P r → P (collectStatement space r s)
  | _, .function _ _ body _ _, holds => collectStatements_keeps kept body holds
  | _, .declaration d, holds => collectInitializers_keeps space kept d.declarations holds
  | _, .expression e, holds => collectExpr_keeps space kept e holds
  | _, .return argument, holds => collectOptionalExpr_keeps space kept argument holds
  | _, .block _, holds => kept.skip holds _ _
  | _, .doWhile .., holds => kept.skip holds _ _
  | _, .for .., holds => kept.skip holds _ _
  | _, .forIn .., holds => kept.skip holds _ _
  | _, .forOf .., holds => kept.skip holds _ _
  | _, .if .., holds => kept.skip holds _ _
  | _, .labeled .., holds => kept.skip holds _ _
  | _, .while .., holds => kept.skip holds _ _
  | _, .break _, holds => kept.skip holds _ _
  | _, .continue _, holds => kept.skip holds _ _
  | _, .debugger, holds => kept.skip holds _ _
  | _, .empty, holds => kept.skip holds _ _
  | _, .unsupported .., holds => kept.skip holds _ _

theorem collectStatements_keeps (kept : MemberReferences.Kept P) :
    ∀ {r : MemberReferences} (body : List Statement), P r → P (collectStatements space r body)
  | _, [], holds => holds
  | _, s :: rest, holds => collectStatements_keeps kept rest (collectStatement_keeps kept s holds)

end

theorem collected_nodup : MemberReferences.Kept fun r => r.names.Nodup where
  add distinct _ := List.Nodup.insert distinct
  skip distinct _ _ := distinct

/-- No member of a namespace is found twice. -/
theorem nodup_memberReferences (p : Program) : (memberReferences space p).names.Nodup :=
  collectStatements_keeps space collected_nodup (r := {}) p.body List.nodup_nil

end Collections

end SketchSurvey.Analysis
