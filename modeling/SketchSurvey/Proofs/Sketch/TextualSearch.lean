import SketchSurvey.Proofs.Regex.Matching
import SketchSurvey.Proofs.Settings.Soundness
import SketchSurvey.Sketch.Classify

/-! What is taken for a sketch among the texts that are no scripts: those in which a declaration of one of the
functions stands by its letters. Which other functions there are, and in which order, does not matter. -/

set_option autoImplicit false

namespace SketchSurvey.Sketch

open SketchSurvey.Regex SketchSurvey.Script SketchSurvey.Settings

/-- A word ends between a name and what follows: after a letter there is none, after a dollar sign there is
one. -/
structure EndsWord (name after : List Char) : Prop where
  letter : ∀ last ∈ name.getLast?, isWordChar false last = true →
    ∀ c ∈ after.head?, isWordChar false c = false
  dollar : name.getLast? = some '$' → ∃ c ∈ after.head?, isWordChar false c = true

/-- The word for functions, white space and a name stand somewhere in a text, and the name ends there. -/
def Mentions (text name : String) : Prop :=
  ∃ before blanks after,
    text.toList = before ++ ("function".toList ++ (blanks ++ (name.toList ++ after))) ∧
      blanks ≠ [] ∧ (∀ c ∈ blanks, Text.isBlank c = true) ∧ EndsWord name.toList after

theorem isWordChar_iff_of_isNameLetter {c : Char} (letter : IsNameLetter c) :
    isWordChar false c = true ↔ c ≠ '$' := by
  have word (small : c.toNat ≤ 'z'.toNat) (known : (c.isUpper || c.isLower || c.isDigit) = true) :
      isWordChar false c = true := by
    have alphanumeric : c.isAlphanum = true := known
    rw [isWordChar, if_pos (Nat.lt_of_le_of_lt small (by decide)), alphanumeric, Bool.true_or]
  constructor
  · rintro isWord rfl
    exact absurd isWord (by decide)
  · intro noDollar
    rcases letter with (⟨low, high⟩ | ⟨low, high⟩ | rfl | dollar) | ⟨low, high⟩
    · have upper : c.isUpper = true := decide_eq_true ⟨low, high⟩
      exact word (Nat.le_trans high (by decide)) (by rw [upper, Bool.true_or, Bool.true_or])
    · have lower : c.isLower = true :=
        Bool.and_eq_true_iff.mpr ⟨decide_eq_true low, decide_eq_true high⟩
      exact word high (by rw [lower, Bool.or_true, Bool.true_or])
    · decide
    · exact absurd dollar noDollar
    · have digit : c.isDigit = true :=
        Bool.and_eq_true_iff.mpr ⟨decide_eq_true low, decide_eq_true high⟩
      exact word (Nat.le_trans high (by decide)) (by rw [digit, Bool.or_true])

theorem exists_last_of_isPlainName {name : String} (plain : IsPlainName name) :
    ∃ front last, name.toList = front ++ [last] ∧ IsNameLetter last := by
  obtain ⟨first, rest, chars, start, letters⟩ := plain
  have each : ∀ c ∈ name.toList, IsNameLetter c := by
    rw [chars]
    exact List.forall_mem_cons.mpr ⟨.inl start, letters⟩
  cases reversed : name.toList.reverse with
  | nil =>
      rw [List.reverse_eq_nil_iff, chars] at reversed
      cases reversed
  | cons last front =>
      rw [List.reverse_eq_cons_iff] at reversed
      exact ⟨front.reverse, last, reversed, each last (by simp [reversed])⟩

theorem holds_boundary_iff {name : String} (plain : IsPlainName name) (before after : List Char)
    (position : Nat) :
    (Place.mk (name.toList.reverse ++ before) after position).holds {} .boundary = true ↔
      EndsWord name.toList after := by
  obtain ⟨front, last, same, letter⟩ := exists_last_of_isPlainName plain
  have word := isWordChar_iff_of_isNameLetter letter
  have ends : name.toList.getLast? = some last := by rw [same, List.getLast?_concat]
  have atBoundary : (Place.mk (name.toList.reverse ++ before) after position).holds {} .boundary =
      (isWordChar false last != after.head?.any (isWordChar false)) := by
    rw [same, List.reverse_concat]
    rfl
  rw [atBoundary, bne_iff_ne]
  constructor
  · intro differs
    refine ⟨?_, ?_⟩
    · intro last' isLast isWord c follows
      rw [ends] at isLast
      cases isLast
      rw [isWord, follows] at differs
      cases answer : isWordChar false c with
      | false => rfl
      | true => exact absurd answer.symm differs
    · intro isLast
      rw [ends] at isLast
      cases isLast
      cases after with
      | nil => exact absurd rfl differs
      | cons c rest =>
          cases answer : isWordChar false c with
          | false => exact absurd answer.symm differs
          | true => exact ⟨c, rfl, answer⟩
  · rintro ⟨ofLetter, ofDollar⟩
    by_cases dollar : last = '$'
    · subst dollar
      obtain ⟨c, follows, isWord⟩ := ofDollar ends
      rw [follows, Option.any_some, isWord]
      decide
    · have isWord := word.mpr dollar
      have none := ofLetter last ends isWord
      rw [isWord]
      cases after with
      | nil => decide
      | cons c rest =>
          rw [List.head?_cons, Option.any_some, none c rfl]
          decide

section Search

variable {widths : List Regex.Node → Nat} {length : Nat} {p : Progress} {names : List String}

theorem matcherOf_boundary_isSome_iff {name : String} (plain : IsPlainName name) (rest : List Char)
    (groups : List (Nat × List Char)) :
    (matcherOf widths {} length [.anchor .boundary] { p.past name.toList rest with groups } some).isSome = true ↔
      EndsWord name.toList rest := by
  refine Iff.trans ?_ (holds_boundary_iff plain p.place.before rest (p.place.position + name.toList.length))
  change (if _ then some _ else none : Option Progress).isSome = true ↔ _
  rw [Option.isSome_ite]
  rfl

/-- What stands after the white space: one of the names, and the end of a word. -/
theorem matcherOf_name_isSome_iff (nonempty : names ≠ []) (plain : ∀ name ∈ names, IsPlainName name) :
    (matcherOf widths {} length [.group (some 1) {} {} (nameAlternatives names), .anchor .boundary]
        p some).isSome = true ↔
      ∃ name ∈ names, ∃ after, p.place.after = name.toList ++ after ∧ EndsWord name.toList after := by
  cases names with
  | nil => exact absurd rfl nonempty
  | cons first others =>
      refine (matcherOf_alternatives_isSome_iff (f := {}) rfl first.toList (others.map String.toList)).trans ?_
      constructor
      · rintro ⟨text, member, after, same, found⟩
        rw [← List.map_cons] at member
        obtain ⟨name, known, rfl⟩ := List.mem_map.mp member
        exact ⟨name, known, after, same, (matcherOf_boundary_isSome_iff (plain name known) ..).mp found⟩
      · rintro ⟨name, member, after, same, ends⟩
        refine ⟨name.toList, ?_, after, same, (matcherOf_boundary_isSome_iff (plain name member) ..).mpr ends⟩
        rw [← List.map_cons]
        exact List.mem_map_of_mem member

/-- What stands after the word for functions: white space, and as much of it as there is, or less. -/
theorem matcherOf_blanks_isSome_iff (nodes : List Regex.Node) (enough : p.place.after.length ≤ length) :
    (matcherOf widths {} length (.repeat .greedy 1 none [.set false [.category false .space]] :: nodes)
        p some).isSome = true ↔
      ∃ blanks rest, p.place.after = blanks ++ rest ∧ blanks ≠ [] ∧
        (∀ c ∈ blanks, Text.isBlank c = true) ∧
        (matcherOf widths {} length nodes (p.past blanks rest) some).isSome = true := by
  have test : (fun d => [SetItem.category false .space].any (·.has {} d) != false) = Text.isBlank := by
    funext d
    simp [SetItem.has, Category.has]
  have rounds : (repeatGreedy (matchChar Text.isBlank) 1 none
      (fun q => matcherOf widths {} length nodes q some) (roundsFor length 1) 0 none p).isSome = true ↔ _ :=
    repeatGreedy_isSome_iff _ 0 (by rw [roundsFor]; omega) nofun
  rw [← test] at rounds
  refine rounds.trans ?_
  rw [test]
  apply exists_congr
  intro blanks
  apply exists_congr
  intro rest
  rw [Nat.zero_add, Nat.one_le_iff_ne_zero, ne_eq, List.length_eq_zero_iff]
  tauto

/-- The pattern finds something in the texts in which one of the functions is mentioned, and in no others. -/
theorem fallbackRegex_search_iff [Host] {s : AnalysisSettings} (nonempty : s.sketchFunctions ≠ [])
    (plain : ∀ name ∈ s.sketchFunctions, IsPlainName name) (text : String) :
    ∃ r, s.fallbackRegex = .ok r ∧
      (r.search text = true ↔ ∃ name ∈ s.sketchFunctions, Mentions text name) := by
  refine ⟨_, compile_fallbackPattern s.sketchFunctions, ?_⟩
  refine (searchFrom_isSome_iff [] 0 text.toList).trans ?_
  constructor
  · rintro ⟨before, afterBefore, chars, found⟩
    obtain ⟨afterWord, same, found⟩ := (matcherOf_literals_isSome_iff rfl _ _).mp found
    dsimp only at same
    have enough : afterWord.length ≤ text.toList.length := by
      rw [chars, same, List.length_append, List.length_append]
      omega
    obtain ⟨blanks, afterBlanks, same', filled, blank, found⟩ :=
      (matcherOf_blanks_isSome_iff _ enough).mp found
    obtain ⟨name, member, after, same'', ends⟩ := (matcherOf_name_isSome_iff nonempty plain).mp found
    change afterWord = _ at same'
    change afterBlanks = _ at same''
    refine ⟨name, member, before, blanks, after, ?_, filled, blank, ends⟩
    rw [chars, same, same', same'']
  · rintro ⟨name, member, before, blanks, after, chars, filled, blank, ends⟩
    have enough : (blanks ++ (name.toList ++ after)).length ≤ text.toList.length := by
      rw [chars]
      simp only [List.length_append]
      omega
    refine ⟨before, _, chars, (matcherOf_literals_isSome_iff rfl _ _).mpr ⟨_, rfl, ?_⟩⟩
    refine (matcherOf_blanks_isSome_iff _ enough).mpr ⟨blanks, _, rfl, filled, blank, ?_⟩
    exact (matcherOf_name_isSome_iff nonempty plain).mpr ⟨name, member, after, rfl, ends⟩

end Search

section Broken

variable {read : String → Script.Node} {text fileName : String} {e : SyntaxError}

theorem declaresSketch_iff_mentions [Host] {s : AnalysisSettings} (nonempty : s.sketchFunctions ≠ [])
    (plain : ∀ name ∈ s.sketchFunctions, IsPlainName name)
    (broken : parseWith read text fileName = .error (.notScript e)) :
    ∃ found, declaresSketch s text (parseWith read text fileName) = .ok found ∧
      (found = true ↔ ∃ name ∈ s.sketchFunctions, Mentions text name) := by
  obtain ⟨r, compiled, finds⟩ := fallbackRegex_search_iff nonempty plain text
  refine ⟨r.search text, ?_, finds⟩
  rw [broken, declaresSketch, compiled]

/-- A text that is no script is taken for a sketch exactly if one of the functions is mentioned in it, and
so exactly if it is taken for a sketch where this function is the only one. -/
theorem declaresSketch_of_broken [Host] {s : AnalysisSettings} (nonempty : s.sketchFunctions ≠ [])
    (plain : ∀ name ∈ s.sketchFunctions, IsPlainName name)
    (broken : parseWith read text fileName = .error (.notScript e)) :
    ∃ found, declaresSketch s text (parseWith read text fileName) = .ok found ∧
      (found = true ↔ ∃ name ∈ s.sketchFunctions, Mentions text name) ∧
      (found = true ↔ ∃ name ∈ s.sketchFunctions,
        declaresSketch { s with sketchFunctions := [name] } text (parseWith read text fileName) = .ok true) := by
  obtain ⟨found, judged, mentioned⟩ := declaresSketch_iff_mentions nonempty plain broken
  refine ⟨found, judged, mentioned, mentioned.trans ?_⟩
  apply exists_congr
  intro name
  apply and_congr_right
  intro member
  let alone : AnalysisSettings := { s with sketchFunctions := [name] }
  have plainAlone : ∀ other ∈ alone.sketchFunctions, IsPlainName other := by
    intro other same
    rw [List.mem_singleton.mp same]
    exact plain name member
  obtain ⟨foundAlone, judgedAlone, mentionedAlone⟩ :=
    declaresSketch_iff_mentions (s := alone) nofun plainAlone broken
  rw [judgedAlone, Except.ok.injEq, mentionedAlone]
  constructor
  · intro mentions
    exact ⟨name, .head _, mentions⟩
  · rintro ⟨other, same, mentions⟩
    rwa [List.mem_singleton.mp same] at mentions

/-- The tree of a text that ends within the parameters of a function. -/
def unfinishedTree : Script.Node :=
  .mk "program" true false true 0 "function draw(" none [
    .mk "ERROR" true false true 0 "function draw(" none [
      .mk "function" false false false 0 "function" none [],
      .mk "identifier" true false false 0 "draw" none [],
      .mk "(" false false false 0 "(" none []]]

theorem declaresSketch_of_broken_unfinished :
    ∃ found, @declaresSketch .bundled {} "function draw("
        (parseWith (fun _ => unfinishedTree) "function draw(") = .ok found ∧
      (found = true ↔ ∃ name ∈ ["setup", "draw"], Mentions "function draw(" name) ∧
      (found = true ↔ ∃ name ∈ ["setup", "draw"],
        @declaresSketch .bundled { sketchFunctions := [name] } "function draw("
          (parseWith (fun _ => unfinishedTree) "function draw(") = .ok true) := by
  have broken : parseWith (fun _ => unfinishedTree) "function draw(" =
      .error (.notScript ⟨unfinishedTree.problem, anonymous, "function draw("⟩) := rfl
  exact @declaresSketch_of_broken _ _ _ _ .bundled {} nofun areNames_standard.plain broken

end Broken

end SketchSurvey.Sketch
