import Mathlib.Data.List.TakeWhile
import SketchSurvey.Files.Path
import SketchSurvey.Proofs.Text.SmallLetters

/-! The endings of names. The ending of a path is that of its last name, so it is the same whether a
name stands alone or behind a directory. -/

set_option autoImplicit false

namespace SketchSurvey.Files

/-- A name that ends in a dot and some letters, which may be capitals. Something else than dots stands
before: a name such as `.html` has no ending. -/
def HasEnding (letters name : String) : Prop :=
  ∃ stem after, name.toList = stem ++ '.' :: after ∧ (∃ c ∈ stem, c ≠ '.') ∧
    after.map Char.toLower = letters.toList

namespace Path

theorem all_ne_reverse {c : Char} {cs : List Char} (absent : c ∉ cs) :
    ∀ d ∈ cs.reverse, (d != c) = true := by
  intro d member
  rw [bne_iff_ne]
  rintro rfl
  exact absent (List.mem_reverse.mp member)

theorem nameList_eq_self {name : List Char} (undivided : '/' ∉ name) : nameList name = name := by
  rw [nameList, List.takeWhile_eq_self_iff.mpr (all_ne_reverse undivided), List.reverse_reverse]

/-- What follows the last of some marks. -/
theorem reverse_takeWhile_reverse {c : Char} {after : List Char} (absent : c ∉ after)
    (before : List Char) :
    ((before ++ c :: after).reverse.takeWhile (· != c)).reverse = after := by
  rw [List.reverse_append, List.reverse_cons, List.append_assoc,
    List.takeWhile_append_of_pos (all_ne_reverse absent), List.singleton_append,
    List.takeWhile_cons_of_neg (by simp), List.append_nil, List.reverse_reverse]

theorem isAbsolute_eq_false {name : String} (undivided : '/' ∉ name.toList) :
    isAbsolute name = false := by
  rw [isAbsolute, beq_eq_false_iff_ne]
  intro first
  exact undivided (List.mem_of_head? first)

/-- A name without slashes is the last one of its path in any directory. -/
theorem nameList_join {name : String} (undivided : '/' ∉ name.toList) (dir : String) :
    nameList (join dir name).toList = name.toList := by
  rw [join, isAbsolute_eq_false undivided, if_neg Bool.false_ne_true]
  split
  · next ended =>
      rw [Bool.or_eq_true, String.isEmpty_iff, beq_iff_eq] at ended
      rw [String.toList_append]
      rcases ended with rfl | slash
      · exact nameList_eq_self undivided
      · obtain ⟨above, same⟩ := List.getLast?_eq_some_iff.mp slash
        rw [same, List.append_assoc]
        exact reverse_takeWhile_reverse undivided above
  · rw [String.toList_append, String.toList_append, List.append_assoc]
    exact reverse_takeWhile_reverse undivided _

theorem extension_join {name : String} (undivided : '/' ∉ name.toList) (dir : String) :
    extension (join dir name) = extension name := by
  rw [extension, extension, nameList_join undivided, nameList_eq_self undivided]

theorem last_of_mem {c : Char} {cs : List Char} (member : c ∈ cs) :
    ∃ before after, cs = before ++ c :: after ∧ c ∉ after := by
  obtain ⟨after, before, divided, absent⟩ :=
    List.eq_append_cons_of_mem (List.mem_reverse.mpr member)
  refine ⟨before.reverse, after.reverse, ?_, fun again => absent (List.mem_reverse.mp again)⟩
  rw [← List.reverse_reverse cs, divided]
  simp

/-- The ending starts at the last dot, if that is none of the dots a name starts with. -/
theorem extension_eq_iff {name : String} (undivided : '/' ∉ name.toList) {after : List Char} :
    extension name = String.ofList ('.' :: after) ↔
      ∃ stem, name.toList = stem ++ '.' :: after ∧ (∃ c ∈ stem, c ≠ '.') ∧ '.' ∉ after := by
  rw [extension, nameList_eq_self undivided]
  constructor
  · intro same
    split at same
    · next dot =>
        obtain ⟨before, rest, divided, absent⟩ := last_of_mem (List.contains_iff_mem.mp dot)
        rw [divided, reverse_takeWhile_reverse absent, String.ofList_inj] at same
        cases same
        refine ⟨name.toList.takeWhile (· == '.') ++ before, ?_, ?_, absent⟩
        · rw [List.append_assoc, ← divided, List.takeWhile_append_dropWhile]
        · have first := List.head?_dropWhile_not (· == '.') name.toList
          rw [divided] at first
          cases before with
          | nil => cases first
          | cons c before =>
              exact ⟨c, List.mem_append_right _ (.head _), by simpa using first⟩
    · exact absurd (String.ofList_inj.mp same) (List.cons_ne_nil _ _).symm
  · rintro ⟨stem, divided, ⟨c, among, other⟩, absent⟩
    have kept : ¬ (stem.dropWhile (· == '.')).isEmpty := by
      rw [List.isEmpty_iff, List.dropWhile_eq_nil_iff]
      exact fun dots => other (by simpa using dots c among)
    rw [divided, List.dropWhile_append, if_neg kept, if_pos (by simp),
      reverse_takeWhile_reverse absent]

theorem extension_cases (name : String) :
    extension name = "" ∨ ∃ after, extension name = String.ofList ('.' :: after) := by
  rw [extension]
  split
  · exact .inr ⟨_, rfl⟩
  · exact .inl rfl

theorem lower_dot (after : List Char) :
    Text.lower (String.ofList ('.' :: after)) = String.ofList ('.' :: Text.lowerFrom ['.'] after) := by
  rw [Text.lower, String.toList_ofList]
  rfl

/-- The ending of a name in small letters. -/
theorem lower_extension_eq_iff (letters : String) {name : String} (undivided : '/' ∉ name.toList)
    (domestic : Text.IsDomestic letters.toList) (undotted : '.' ∉ letters.toList) :
    Text.lower (extension name) = String.ofList ('.' :: letters.toList) ↔ HasEnding letters name := by
  constructor
  · intro same
    rcases extension_cases name with none | ⟨after, ending⟩
    · rw [none] at same
      exact absurd (String.ofList_inj.mp same) (List.cons_ne_nil _ _).symm
    · obtain ⟨stem, divided, proper, -⟩ := (extension_eq_iff undivided).mp ending
      rw [ending, lower_dot, String.ofList_inj, List.cons.injEq, Text.lowerFrom_eq_iff domestic] at same
      exact ⟨stem, after, divided, proper, same.2⟩
  · rintro ⟨stem, after, divided, proper, small⟩
    have absent : '.' ∉ after := fun dot => undotted (small ▸ List.mem_map_of_mem dot)
    rw [(extension_eq_iff undivided).mpr ⟨stem, divided, proper, absent⟩, lower_dot,
      (Text.lowerFrom_eq_iff domestic _ _).mpr small]

end Path

end SketchSurvey.Files
