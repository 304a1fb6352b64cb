import SketchSurvey.Analysis.Scope

/-! Stacks in which every scope names the one below it as its parent. Looking a name up along the
parents then finds it exactly if some scope of the stack has it, whatever the depth. -/

set_option autoImplicit false

namespace SketchSurvey.Analysis.ScopeStack

/-- The parent that belongs to a place in a stack: none for the outermost scope, and the place below
for every other one. -/
def parentAt (i : Nat) : Option Nat := if i = 0 then none else some (i - 1)

/-- Every scope has the parent that belongs to its place. -/
def Chained (stack : ScopeStack) : Prop :=
  ∀ i s, stack[i]? = some s → s.parent = parentAt i

theorem chained_empty : Chained #[] := by
  intro i s found
  simp at found

theorem innermost?_eq_parentAt (stack : ScopeStack) : innermost? stack = parentAt stack.size := by
  unfold innermost? parentAt
  simp only [Array.isEmpty_iff_size_eq_zero]

/-- A scope whose parent is the innermost one can be put on top. -/
theorem Chained.push {stack : ScopeStack} (chained : Chained stack) {s : Scope}
    (parent : s.parent = innermost? stack) : Chained (stack.push s) := by
  intro i t found
  rw [Array.getElem?_push] at found
  split at found
  · next top =>
      cases found
      rw [parent, innermost?_eq_parentAt, top]
  · exact chained i t found

/-- The innermost scope can be taken away. -/
theorem Chained.pop {stack : ScopeStack} (chained : Chained stack) : Chained stack.pop := by
  intro i s found
  rw [Array.getElem?_pop] at found
  split at found
  · exact chained i s found
  · cases found

/-- The search from a place looks at that scope and at all those below it. The bound is no obstacle
as long as it exceeds the place. -/
theorem bindsFrom_iff {stack : ScopeStack} (chained : Chained stack) (name : String) :
    ∀ {fuel i : Nat}, i < fuel → i < stack.size →
      (bindsFrom stack name fuel (some i) = true ↔
        ∃ j s, j ≤ i ∧ stack[j]? = some s ∧ s.has name = true)
  | 0, _, bound, _ => absurd bound (Nat.not_lt_zero _)
  | fuel + 1, i, bound, inside => by
      obtain ⟨s, found⟩ : ∃ s, stack[i]? = some s := ⟨stack[i], Array.getElem?_eq_getElem inside⟩
      simp only [bindsFrom, found, Bool.or_eq_true, chained i s found, parentAt]
      constructor
      · rintro (here | below)
        · exact ⟨i, s, Nat.le_refl i, found, here⟩
        · cases i with
          | zero => simp [bindsFrom] at below
          | succ i =>
              obtain ⟨j, t, lower, at_j, has⟩ :=
                (bindsFrom_iff chained name (by omega) (by omega)).mp below
              exact ⟨j, t, by omega, at_j, has⟩
      · rintro ⟨j, t, lower, at_j, has⟩
        rcases Nat.lt_or_eq_of_le lower with strictly | rfl
        · cases i with
          | zero => omega
          | succ i =>
              right
              exact (bindsFrom_iff chained name (by omega) (by omega)).mpr
                ⟨j, t, by omega, at_j, has⟩
        · left
          rw [found] at at_j
          cases at_j
          exact has

/-- In a chained stack a name is bound exactly if some scope has it. -/
theorem binds_iff {stack : ScopeStack} (chained : Chained stack) (name : String) :
    stack.binds name = true ↔ ∃ s ∈ stack, s.has name = true := by
  unfold binds innermost?
  by_cases empty : stack.isEmpty = true
  · rw [Array.isEmpty_iff] at empty
    subst empty
    simp [bindsFrom]
  · have size : 0 < stack.size := by
      rw [Array.isEmpty_iff_size_eq_zero] at empty
      omega
    simp only [empty, Bool.false_eq_true, ↓reduceIte]
    rw [bindsFrom_iff chained name (by omega) (by omega)]
    constructor
    · rintro ⟨j, s, _, at_j, has⟩
      exact ⟨s, Array.mem_of_getElem? at_j, has⟩
    · rintro ⟨s, member, has⟩
      obtain ⟨j, at_j⟩ := Array.mem_iff_getElem?.mp member
      have inside := (Array.getElem?_eq_some_iff.mp at_j).1
      exact ⟨j, s, by omega, at_j, has⟩

/-- One more scope binds its own names besides those that are bound already. -/
theorem binds_push {stack : ScopeStack} (chained : Chained stack) {s : Scope}
    (parent : s.parent = innermost? stack) (name : String) :
    binds (stack.push s) name = true ↔ s.has name = true ∨ stack.binds name = true := by
  rw [binds_iff (chained.push parent), binds_iff chained]
  simp only [Array.mem_push]
  constructor
  · rintro ⟨t, below | rfl, has⟩
    · exact .inr ⟨t, below, has⟩
    · exact .inl has
  · rintro (has | ⟨t, below, has⟩)
    · exact ⟨s, .inr rfl, has⟩
    · exact ⟨t, .inl below, has⟩

/-- The search for a name along the parents, as far as it has to go: it is over at a scope that has the
name, goes on with the parent from every other one, and fails where there is no parent. -/
inductive Search (stack : ScopeStack) (name : String) : Option Nat → Bool → Prop where
  | outside : Search stack name none false
  | here {i s} : stack[i]? = some s → s.has name = true → Search stack name (some i) true
  | outwards {i s found} : stack[i]? = some s → s.has name = false → Search stack name s.parent found →
      Search stack name (some i) found

theorem Search.unique {stack : ScopeStack} {name : String} {place : Option Nat} {found found' : Bool}
    (first : Search stack name place found) (second : Search stack name place found') : found' = found := by
  induction first with
  | outside =>
      cases second
      rfl
  | here at_i has =>
      cases second with
      | here => rfl
      | outwards at_i' hasNot =>
          cases at_i.symm.trans at_i'
          rw [has] at hasNot
          cases hasNot
  | outwards at_i hasNot _ ih =>
      cases second with
      | here at_i' has =>
          cases at_i.symm.trans at_i'
          rw [has] at hasNot
          cases hasNot
      | outwards at_i' _ further =>
          cases at_i.symm.trans at_i'
          exact ih further

/-- In a chained stack the search from a place is over before the bound is reached. -/
theorem search_bindsFrom {stack : ScopeStack} (chained : Chained stack) (name : String) :
    ∀ {fuel i : Nat}, i < fuel → i < stack.size →
      Search stack name (some i) (bindsFrom stack name fuel (some i))
  | 0, _, bound, _ => absurd bound (Nat.not_lt_zero _)
  | fuel + 1, i, bound, inside => by
      have at_i : stack[i]? = some stack[i] := Array.getElem?_eq_getElem inside
      simp only [bindsFrom, at_i]
      cases has : stack[i].has name with
      | true => exact .here at_i has
      | false =>
          refine .outwards at_i has ?_
          rw [Bool.false_or, chained i _ at_i, parentAt]
          cases i with
          | zero =>
              rw [if_pos rfl, bindsFrom]
              exact .outside
          | succ i => exact search_bindsFrom chained name (by omega) (by omega)

/-- In a chained stack the search from the innermost scope ends, and its one result is whether the name is
bound. -/
theorem search_iff {stack : ScopeStack} (chained : Chained stack) (name : String) (found : Bool) :
    Search stack name stack.innermost? found ↔ found = stack.binds name := by
  have ends : Search stack name stack.innermost? (stack.binds name) := by
    rw [binds, innermost?_eq_parentAt, parentAt]
    split
    · next empty =>
        rw [empty, bindsFrom]
        exact .outside
    · next filled => exact search_bindsFrom chained name (by omega) (by omega)
  exact ⟨ends.unique, fun same => same ▸ ends⟩

end SketchSurvey.Analysis.ScopeStack
