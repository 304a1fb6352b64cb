import SketchSurvey.Proofs.Regex.Matching
import SketchSurvey.Proofs.Settings.LibraryPattern
import SketchSurvey.Proofs.Sketch.Projects
import SketchSurvey.Settings.Validation

/-! What the standard pattern takes for the library: the texts that end in one of its two names, where no word
goes before. A line feed after the name is passed over. So a page is one of a sketch, as long as nothing is
configured, exactly if one of its scripts has such a source. -/

set_option autoImplicit false

namespace SketchSurvey.Sketch

open SketchSurvey.Regex SketchSurvey.Settings

/-- A letter or digit of any script, or an underscore. -/
def IsWordChar (c : Char) : Prop := Text.alphanumeric.has c = true ∨ c = '_'

/-- The names of the library, as it is written and as it is minified. -/
def libraryNames : List String := ["p5.js", "p5.min.js"]

/-- A text that ends in a name of the library, at the start of a word. A last line feed is passed over. -/
def NamesLibrary (source : String) : Prop :=
  ∃ name ∈ libraryNames, ∃ before, dropLineFeed source.toList = before ++ name.toList ∧
    ∀ c ∈ before.getLast?, ¬ IsWordChar c

/-- Among the characters of the first block the letters and digits are three ranges. -/
theorem has_alphanumeric_of_small {c : Char} (small : c.toNat < 128) :
    Text.alphanumeric.has c = Text.Ranges.has [(0x30, 0x39), (0x41, 0x5A), (0x61, 0x7A)] c := by
  have low : Text.alphanumeric.filter (·.1 < 128) = [(0x30, 0x39), (0x41, 0x5A), (0x61, 0x7A)] := by
    decide +kernel
  rw [← low, Text.Ranges.has, Text.Ranges.has, List.any_filter]
  congr 1
  funext range
  by_cases begins : range.1 < 128
  · simp [begins]
  · have above : ¬ range.1 ≤ c.toNat := by omega
    simp [begins, above]

theorem isWordChar_iff {c : Char} : isWordChar false c = true ↔ IsWordChar c := by
  have inside : ∀ n < 128, ((Char.ofNat n).isAlphanum || Char.ofNat n == '_') =
      (Text.Ranges.has [(0x30, 0x39), (0x41, 0x5A), (0x61, 0x7A)] (Char.ofNat n) || Char.ofNat n == '_') := by
    decide +kernel
  rw [isWordChar]
  split
  · next small =>
      have same := inside c.toNat small
      rw [Char.ofNat_toNat] at same
      rw [same, ← has_alphanumeric_of_small small, Bool.or_eq_true, beq_iff_eq, IsWordChar]
  · next large =>
      have other : c ≠ '_' := by
        rintro rfl
        exact large (by decide)
      rw [Bool.not_false, Bool.true_and, IsWordChar, or_iff_left other]

theorem dropLineFeed_eq_iff {cs kept : List Char} (noLineFeed : kept.getLast? ≠ some '\n') :
    dropLineFeed cs = kept ↔ cs = kept ∨ cs = kept ++ ['\n'] := by
  rw [dropLineFeed]
  constructor
  · intro same
    split at same
    · next last =>
        obtain ⟨front, rfl⟩ := List.getLast?_eq_some_iff.mp last
        rw [List.dropLast_concat] at same
        exact .inr (same ▸ rfl)
    · exact .inl same
  · rintro (rfl | rfl)
    · exact if_neg noLineFeed
    · rw [if_pos List.getLast?_concat, List.dropLast_concat]

theorem holds_boundary_of_word {before after : List Char} {c : Char} (word : IsWordChar c) (position : Nat) :
    (Place.mk before (c :: after) position).holds {} .boundary = true ↔
      ∀ d ∈ before.head?, ¬ IsWordChar d := by
  have holds : (Place.mk before (c :: after) position).holds {} .boundary =
      ((!(before.isEmpty && false)) && (before.head?.any (isWordChar false) != isWordChar false c)) := rfl
  rw [holds, isWordChar_iff.mpr word, Bool.and_false, Bool.not_false, Bool.true_and, bne_iff_ne, ne_eq,
    Bool.not_eq_true]
  cases before.head? with
  | none => simp
  | some d => simp [← isWordChar_iff]

section Search

variable {widths : List Regex.Node → Nat} {length : Nat} {p : Progress}

theorem matcherOf_ending_isSome_iff (ending : List Char) :
    (matcherOf widths {} length (literals ending ++ [.anchor .lineEnd]) p some).isSome = true ↔
      p.place.after = ending ∨ p.place.after = ending ++ ['\n'] := by
  have atEnd (rest : List Char) :
      (matcherOf widths {} length [.anchor .lineEnd] (p.past ending rest) some).isSome = true ↔
        rest = [] ∨ rest = ['\n'] := by
    rw [matcherOf_anchor_isSome_iff]
    simp [Place.holds, Progress.past, matcherOf]
  rw [matcherOf_literals_isSome_iff rfl]
  simp only [atEnd]
  constructor
  · rintro ⟨rest, same, rfl | rfl⟩
    · exact .inl (by rw [same, List.append_nil])
    · exact .inr same
  · rintro (same | same)
    · exact ⟨[], by rw [same, List.append_nil], .inl rfl⟩
    · exact ⟨_, same, .inr rfl⟩

/-- What stands after the start of the name: the ending of scripts, or before it the mark of a minified one. -/
theorem matcherOf_optional_isSome_iff (mark ending : List Char) :
    (matcherOf widths {} length (.repeat .greedy 0 (some 1) [.group (some 1) {} {} (literals mark)] ::
        (literals ending ++ [.anchor .lineEnd])) p some).isSome = true ↔
      ∃ middle ∈ [[], mark], p.place.after = middle ++ ending ∨ p.place.after = middle ++ ending ++ ['\n'] := by
  let rest : List Regex.Node := literals ending ++ [.anchor .lineEnd]
  let group : List Regex.Node := [.group (some 1) {} {} (literals mark)]
  have once : (matcherOf widths {} length (.repeat .greedy 0 (some 1) group :: rest) p some).isSome = true ↔
      (matcherOf widths {} length group p fun q => matcherOf widths {} length rest q some).isSome = true ∨
        (matcherOf widths {} length rest p some).isSome = true :=
    repeatGreedy_once_isSome_iff length
  have marked : (matcherOf widths {} length group p fun q => matcherOf widths {} length rest q some).isSome =
      true ↔ p.place.after = mark ++ ending ∨ p.place.after = mark ++ ending ++ ['\n'] := by
    refine (matcherOf_alternatives_isSome_iff (f := {}) rfl mark []).trans ?_
    simp only [List.mem_singleton, exists_eq_left]
    constructor
    · rintro ⟨after, same, found⟩
      rw [same, List.append_assoc, List.append_cancel_left_eq, List.append_cancel_left_eq]
      exact (matcherOf_ending_isSome_iff ending).mp found
    · rintro (same | same)
      · exact ⟨ending, same, (matcherOf_ending_isSome_iff ending).mpr (.inl rfl)⟩
      · rw [List.append_assoc] at same
        exact ⟨ending ++ ['\n'], same, (matcherOf_ending_isSome_iff ending).mpr (.inr rfl)⟩
  rw [once, marked, matcherOf_ending_isSome_iff]
  simp only [List.mem_cons, List.not_mem_nil, or_false, exists_eq_or_imp, exists_eq_left, List.nil_append]
  exact or_comm

theorem exists_libraryName_iff {P : List Char → Prop} :
    (∃ name ∈ libraryNames, P name.toList) ↔
      ∃ middle ∈ [[], ".min".toList], P ("p5".toList ++ (middle ++ ".js".toList)) := by
  simp [libraryNames]

/-- The pattern matches at a place where a word may start and nothing but a name of the library is left. -/
theorem matcherOf_library_isSome_iff :
    (matcherOf widths {} length libraryNodes p some).isSome = true ↔
      (∀ c ∈ p.place.before.head?, ¬ IsWordChar c) ∧
        ∃ name ∈ libraryNames, p.place.after = name.toList ∨ p.place.after = name.toList ++ ['\n'] := by
  obtain ⟨⟨before, after, position⟩, groups⟩ := p
  rw [libraryNodes, matcherOf_anchor_isSome_iff, matcherOf_literals_isSome_iff rfl,
    exists_libraryName_iff (P := fun cs => after = cs ∨ after = cs ++ ['\n'])]
  simp only [matcherOf_optional_isSome_iff]
  have word : IsWordChar 'p' := isWordChar_iff.mp (by decide)
  constructor
  · rintro ⟨starts, rest, rfl, middle, member, same⟩
    refine ⟨(holds_boundary_of_word word position).mp starts, middle, member, ?_⟩
    rw [List.append_assoc, List.append_cancel_left_eq, List.append_cancel_left_eq]
    exact same
  · rintro ⟨noWord, middle, member, same⟩
    obtain ⟨rest, rfl, ends⟩ : ∃ rest, after = "p5".toList ++ rest ∧
        (rest = middle ++ ".js".toList ∨ rest = middle ++ ".js".toList ++ ['\n']) := by
      rcases same with rfl | rfl
      · exact ⟨_, rfl, .inl rfl⟩
      · exact ⟨_, List.append_assoc .., .inr rfl⟩
    exact ⟨(holds_boundary_of_word word position).mpr noWord, rest, rfl, middle, member, ends⟩

end Search

theorem getLast?_libraryName {name : String} (member : name ∈ libraryNames) (before : List Char) :
    (before ++ name.toList).getLast? ≠ some '\n' := by
  simp only [libraryNames, List.mem_cons, List.not_mem_nil, or_false] at member
  rcases member with rfl | rfl <;> simp

/-- The pattern finds something in the texts that name the library, and in no others. -/
theorem libraryRegex_search_iff [Host] :
    ∃ r, ({} : AnalysisSettings).libraryRegex = .ok r ∧
      ∀ source, r.search source = true ↔ NamesLibrary source := by
  refine ⟨_, compile_libraryPattern, ?_⟩
  intro source
  refine (searchFrom_isSome_iff [] 0 source.toList).trans ?_
  simp only [matcherOf_library_isSome_iff, List.append_nil, List.head?_reverse]
  constructor
  · rintro ⟨before, rest, chars, noWord, name, member, same⟩
    refine ⟨name, member, before, (dropLineFeed_eq_iff (getLast?_libraryName member before)).mpr ?_, noWord⟩
    rcases same with rfl | rfl
    · exact .inl chars
    · exact .inr (chars.trans (List.append_assoc ..).symm)
  · rintro ⟨name, member, before, same, noWord⟩
    rcases (dropLineFeed_eq_iff (getLast?_libraryName member before)).mp same with chars | chars
    · exact ⟨before, name.toList, chars, noWord, name, member, .inl rfl⟩
    · rw [List.append_assoc] at chars
      exact ⟨before, name.toList ++ ['\n'], chars, noWord, name, member, .inr rfl⟩

theorem isSketchMarkup_eq_ok_iff [Host] {s : AnalysisSettings} {r : Regex.Pattern} (compiled : s.libraryRegex = .ok r)
    {page : String} {found : Bool} :
    isSketchMarkup s page = .ok found ↔
      ∃ sources, Markup.scriptSources page = .ok sources ∧ sources.any r.search = found := by
  rw [isSketchMarkup, compiled]
  cases Markup.scriptSources page with
  | ok sources => simp
  | error e => simp

/-- Where nothing is configured the library is known by its names, and a page is one of a sketch exactly if one
of its scripts has such a source. -/
theorem isSketchMarkup_iff_namesLibrary [Host] :
    (∃ r, ({} : AnalysisSettings).libraryRegex = .ok r ∧
      ∀ source, r.search source = true ↔ NamesLibrary source) ∧
    ∀ page,
      (isSketchMarkup {} page = .ok true ↔
        ∃ sources, Markup.scriptSources page = .ok sources ∧ ∃ source ∈ sources, NamesLibrary source) ∧
      (isSketchMarkup {} page = .ok false ↔
        ∃ sources, Markup.scriptSources page = .ok sources ∧ ∀ source ∈ sources, ¬ NamesLibrary source) := by
  obtain ⟨r, compiled, finds⟩ := libraryRegex_search_iff
  refine ⟨⟨r, compiled, finds⟩, fun page => ⟨?_, ?_⟩⟩
  · simp only [isSketchMarkup_eq_ok_iff compiled, List.any_eq_true, finds]
  · simp only [isSketchMarkup_eq_ok_iff compiled, List.any_eq_false, finds]

end SketchSurvey.Sketch
