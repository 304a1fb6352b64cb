import SketchSurvey.Proofs.Json.RoundTrip

/-! A written value has no returns in it: its lines end in line feeds alone. -/

set_option autoImplicit false

namespace SketchSurvey.Json

/-- Text without returns. -/
def Returnless (cs : List Char) : Prop := '\r' ∉ cs

instance (cs : List Char) : Decidable (Returnless cs) := inferInstanceAs (Decidable (¬ _))

namespace Returnless

theorem nil : Returnless [] := List.not_mem_nil

theorem append_iff {cs ds : List Char} : Returnless (cs ++ ds) ↔ Returnless cs ∧ Returnless ds := by
  rw [Returnless, List.mem_append, not_or, Returnless, Returnless]

theorem cons {c : Char} {cs : List Char} (other : c ≠ '\r') (rest : Returnless cs) : Returnless (c :: cs) := by
  rw [Returnless, List.mem_cons, not_or]
  exact ⟨other.symm, rest⟩

theorem flatMap {α : Type} {f : α → List Char} {xs : List α} (each : ∀ x ∈ xs, Returnless (f x)) :
    Returnless (xs.flatMap f) := by
  intro inside
  obtain ⟨x, member, found⟩ := List.mem_flatMap.mp inside
  exact each x member found

end Returnless

open Returnless (append_iff)

theorem returnless_codeEscape (n : Nat) : Returnless (codeEscape n) := by
  have digits : ∀ m < 16, hexDigit m ≠ '\r' := by decide
  have each (m : Nat) : hexDigit (m % 16) ≠ '\r' := digits _ (Nat.mod_lt m (by decide))
  exact .cons (by decide) <| .cons (by decide) <| .cons (each _) <| .cons (each _) <| .cons (each _) <|
    .cons (each _) .nil

theorem returnless_escapeChar (ascii : Bool) (c : Char) : Returnless (escapeChar ascii c) := by
  have escapes := escapes_escapeChar ascii c
  generalize escapeChar ascii c = cs at escapes
  cases escapes with
  | short known =>
      refine .cons (by decide) (.cons ?_ .nil)
      rintro rfl
      simp [shortEscapes] at known
  | code => exact returnless_codeEscape _
  | pair => exact append_iff.mpr ⟨returnless_codeEscape _, returnless_codeEscape _⟩
  | plain _ _ notControl =>
      refine .cons ?_ .nil
      rintro rfl
      exact absurd notControl (by decide)

theorem returnless_quote (ascii : Bool) (s : String) : Returnless (quote ascii s).toList := by
  rw [toList_quote]
  exact .cons (by decide) (append_iff.mpr ⟨.flatMap fun c _ => returnless_escapeChar ascii c, by decide⟩)

section Values

variable {l : Layout}

theorem returnless_newLine (l : Layout) (level : Nat) : Returnless (l.newLine level).toList := by
  unfold Layout.newLine
  split
  · rw [String.toList_ofList]
    refine .cons (by decide) fun inside => ?_
    exact absurd (List.eq_of_mem_replicate inside) (by decide)
  · exact .nil

theorem returnless_toString (n : Int) : Returnless (toString n).toList := by
  obtain ⟨negative, text, -⟩ := exists_toString_eq n
  have digits : Returnless (Nat.toDigits 10 n.natAbs) := fun inside =>
    absurd (isDigit_of_mem_toDigits inside) (by decide)
  rw [text]
  cases negative with
  | true => exact .cons (by decide) digits
  | false => exact digits

variable (comma : Returnless l.comma.toList) (colon : Returnless l.colon.toList)

include comma

theorem returnless_renderItems (level : Nat) {vs : List Value}
    (each : ∀ v ∈ vs, ∀ level, Returnless (render l level v).toList) :
    Returnless (renderItems l level vs).toList := by
  induction vs with
  | nil => rw [renderItems]; exact .nil
  | cons v vs ih =>
      obtain ⟨first, others⟩ := List.forall_mem_cons.mp each
      rw [renderItems]
      simp only [String.toList_append, append_iff, and_assoc]
      exact ⟨comma, returnless_newLine l level, first level, ih others⟩

include colon

theorem returnless_renderMembers (level : Nat) {ms : List (String × Value)}
    (each : ∀ m ∈ ms, ∀ level, Returnless (render l level m.2).toList) :
    Returnless (renderMembers l level ms).toList := by
  induction ms with
  | nil => rw [renderMembers]; exact .nil
  | cons m ms ih =>
      obtain ⟨first, others⟩ := List.forall_mem_cons.mp each
      rw [renderMembers]
      simp only [String.toList_append, append_iff, and_assoc]
      exact ⟨comma, returnless_newLine l level, returnless_quote l.ascii m.1, colon, first level, ih others⟩

theorem returnless_render {v : Value} (readable : v.IsReadable) (level : Nat) :
    Returnless (render l level v).toList := by
  induction readable generalizing level with
  | null => rw [render]; decide
  | bool b => cases b <;> rw [render] <;> decide
  | int => rw [render]; exact returnless_toString _
  | string s => rw [render]; exact returnless_quote l.ascii s
  | @array items _ ih =>
      cases items with
      | nil => rw [render]; decide
      | cons v vs =>
          obtain ⟨first, others⟩ := List.forall_mem_cons.mp ih
          rw [render]
          simp only [String.toList_append, append_iff, and_assoc]
          exact ⟨by decide, returnless_newLine l _, first _, returnless_renderItems comma _ others,
            returnless_newLine l level, by decide⟩
  | @object members _ _ ih =>
      cases members with
      | nil => rw [render]; decide
      | cons m ms =>
          obtain ⟨first, others⟩ := List.forall_mem_cons.mp ih
          rw [render]
          simp only [String.toList_append, append_iff, and_assoc]
          exact ⟨by decide, returnless_newLine l _, returnless_quote l.ascii m.1, colon, first _,
            returnless_renderMembers comma colon _ others, returnless_newLine l level, by decide⟩

end Values

theorem returnless_write {v : Value} (readable : v.IsReadable) : Returnless (write .readable v).toList :=
  returnless_render (by decide) (by decide) readable 0

end SketchSurvey.Json
