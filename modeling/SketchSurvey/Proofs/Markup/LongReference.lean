import SketchSurvey.Proofs.Markup.Refusal

/-! Replacing the references in a text fails exactly if a number with too many digits stands in it. No
reference reads past an ampersand, so none hides the next one. -/

set_option autoImplicit false

namespace SketchSurvey.Markup

open SketchSurvey.Text (maxDigits)

/-- A reference by a number with too many digits stands somewhere in a text. -/
def HoldsLongReference (text : List Char) : Prop := ∃ p : Problem, p.IsLongReference text

section Passing

/-- What follows after characters of which none is an ampersand. -/
def Passed (cs after : List Char) : Prop := ∃ consumed, cs = consumed ++ after ∧ '&' ∉ consumed

variable {cs middle after : List Char}

theorem Passed.refl (cs : List Char) : Passed cs cs := ⟨[], rfl, List.not_mem_nil⟩

theorem Passed.trans (first : Passed cs middle) (second : Passed middle after) : Passed cs after := by
  obtain ⟨consumed, rfl, none⟩ := first
  obtain ⟨more, rfl, noneOfMore⟩ := second
  refine ⟨consumed ++ more, (List.append_assoc ..).symm, ?_⟩
  rw [List.mem_append]
  exact not_or.mpr ⟨none, noneOfMore⟩

theorem Passed.cons {c : Char} (other : c ≠ '&') (rest : List Char) : Passed (c :: rest) rest :=
  ⟨[c], rfl, fun member => other (List.mem_singleton.mp member).symm⟩

/-- A part that is made of characters of a kind is passed, if an ampersand is not of this kind. -/
theorem passed_of_start {test : Char → Bool} (stops : test '&' = false) {part : List Char}
    (starts : part.takeWhile test <+: cs) : Passed cs (cs.drop (part.takeWhile test).length) := by
  obtain ⟨rest, same⟩ := starts
  refine ⟨part.takeWhile test, ?_, ?_⟩
  · rw [← same, List.drop_left]
  · intro member
    rw [List.mem_takeWhile_imp member] at stops
    cases stops

theorem passed_dropSemicolon (cs : List Char) : Passed cs (dropSemicolon cs) := by
  rw [dropSemicolon.eq_def]
  split
  · exact .cons (by decide) _
  · exact .refl _

theorem passed_afterName {name : List Char} (passed : Passed cs (cs.drop name.length)) :
    Passed cs (match cs.drop name.length with
      | ';' :: rest => (name ++ [';'], rest)
      | _ => (name, cs.drop name.length)).2 := by
  split
  · next rest same => exact (same ▸ passed).trans (.cons (by decide) rest)
  · exact passed

theorem readReference_passed {value : List Char} (done : readReference cs = .ok (value, after)) :
    Passed cs after := by
  rw [readReference.eq_def] at done
  split at done
  · next c rest =>
      have number : Passed ('#' :: c :: rest) (c :: rest) := .cons (by decide) _
      dsimp only at done
      split at done
      · next hex =>
          cases done
          have letter : c ≠ '&' := by
            rintro rfl
            exact absurd hex (by simp)
          have digits := passed_of_start (by decide) (List.takeWhile_prefix isHexDigit (l := rest))
          exact ((number.trans (.cons letter _)).trans digits).trans (passed_dropSemicolon _)
      · split at done
        · cases done
          exact .refl _
        · split at done
          · cases done
          · cases done
            have digits := passed_of_start (by decide) (List.takeWhile_prefix Char.isDigit (l := c :: rest))
            exact (number.trans digits).trans (passed_dropSemicolon _)
  · have name : Passed cs (cs.drop ((cs.take maxNameLength).takeWhile isNameChar).length) :=
      passed_of_start (by decide) ((List.takeWhile_prefix _).trans (List.take_prefix _ _))
    dsimp only at done
    split at done
    · cases done
      exact .refl _
    · split at done
      · cases done
        exact passed_afterName name
      · split at done
        · cases done
          exact passed_afterName name
        · cases done
          exact passed_afterName name

/-- What starts with an ampersand is not begun in the characters that are passed. -/
theorem Passed.infix {part : List Char} (passed : Passed cs after) (within : '&' :: part <:+: cs) :
    '&' :: part <:+: after := by
  obtain ⟨consumed, rfl, none⟩ := passed
  induction consumed with
  | nil => exact within
  | cons c consumed ih =>
      rw [List.mem_cons, not_or] at none
      rcases List.infix_cons_iff.mp within with starts | later
      · exact absurd (List.cons_prefix_cons.mp starts).1 none.1
      · exact ih none.2 later

end Passing

section Unescaping

variable {cs : List Char}

/-- A number is read to its last digit. -/
theorem readReference_of_long {digits : List Char} (starts : '#' :: digits <+: cs)
    (areDigits : ∀ c ∈ digits, c.isDigit = true) (many : maxDigits < digits.length) :
    ∃ p, readReference cs = .error p := by
  obtain ⟨rest, rfl⟩ := starts
  cases digits with
  | nil => cases many
  | cons c digits =>
      have isDigit := areDigits c (.head _)
      have noHex : (decide (c = 'x') || decide (c = 'X')) = false := by
        rw [Bool.or_eq_false_iff, decide_eq_false_iff_not, decide_eq_false_iff_not]
        constructor
        · rintro rfl
          exact absurd isDigit (by decide)
        · rintro rfl
          exact absurd isDigit (by decide)
      have read : ((c :: digits) ++ rest).takeWhile Char.isDigit =
          (c :: digits) ++ rest.takeWhile Char.isDigit :=
        List.takeWhile_append_of_pos areDigits
      rw [List.cons_append] at read
      have long : maxDigits < ((c :: digits) ++ rest.takeWhile Char.isDigit).length := by
        rw [List.length_append]
        omega
      refine ⟨.tooManyDigits ((c :: digits) ++ rest.takeWhile Char.isDigit).length, ?_⟩
      rw [List.cons_append, List.cons_append, readReference]
      dsimp only
      rw [read, noHex, Bool.false_and, if_neg Bool.false_ne_true, if_neg (by simp), if_pos long]

theorem unescapeFrom_of_long (fuel : Nat) (enough : cs.length < fuel) (long : HoldsLongReference cs) :
    ∃ p, unescapeFrom fuel cs = .error p := by
  induction fuel generalizing cs with
  | zero => cases enough
  | succ fuel ih =>
      obtain ⟨p, digits, same, within, areDigits, many⟩ := long
      cases cs with
      | nil => exact absurd (List.infix_nil.mp within) (List.cons_ne_nil _ _)
      | cons c rest =>
          rw [List.length_cons] at enough
          have later {after : List Char} (passed : Passed rest after)
              (within : '&' :: '#' :: digits <:+: rest) : ∃ p, unescapeFrom fuel after = .error p := by
            refine ih ?_ ⟨p, digits, same, passed.infix within, areDigits, many⟩
            obtain ⟨consumed, rfl, _⟩ := passed
            rw [List.length_append] at enough
            omega
          rw [unescapeFrom]
          split
          · cases read : readReference rest with
            | error p' => exact ⟨p', rfl⟩
            | ok found =>
                obtain ⟨value, after⟩ := found
                have inside : '&' :: '#' :: digits <:+: rest := by
                  rcases List.infix_cons_iff.mp within with starts | later
                  · obtain ⟨p', failed⟩ :=
                      readReference_of_long (List.cons_prefix_cons.mp starts).2 areDigits many
                    cases read.symm.trans failed
                  · exact later
                obtain ⟨p', failed⟩ := later (readReference_passed read) inside
                refine ⟨p', ?_⟩
                change (unescapeFrom fuel after >>= _) = _
                rw [failed]
                rfl
          · next other =>
              have inside : '&' :: '#' :: digits <:+: rest := by
                rcases List.infix_cons_iff.mp within with starts | later
                · exact absurd (List.cons_prefix_cons.mp starts).1.symm other
                · exact later
              obtain ⟨p', failed⟩ := later (.refl rest) inside
              exact ⟨p', by rw [failed]; rfl⟩

/-- References can be replaced unless the number of one of them is too long. -/
theorem unescape_error_iff : (∃ p, unescape cs = .error p) ↔ HoldsLongReference cs := by
  constructor
  · rintro ⟨p, failed⟩
    exact ⟨p, unescape_error failed⟩
  · exact unescapeFrom_of_long _ (Nat.lt_succ_self _)

theorem unescapeFrom_of_not_mem (fuel : Nat) (plain : '&' ∉ cs) : unescapeFrom fuel cs = .ok cs := by
  induction fuel generalizing cs with
  | zero => rfl
  | succ fuel ih =>
      cases cs with
      | nil => rfl
      | cons c rest =>
          rw [List.mem_cons, not_or] at plain
          rw [unescapeFrom, if_neg (Ne.symm plain.1), ih plain.2]
          rfl

theorem unescape_of_not_mem (plain : '&' ∉ cs) : unescape cs = .ok cs := unescapeFrom_of_not_mem _ plain

end Unescaping

end SketchSurvey.Markup
