import SketchSurvey.Proofs.Regex.Escaped
import SketchSurvey.Settings.Analysis

/-! The pattern that finds the declaration of a function in a text that is no script. It can be read
whatever the names of the functions are, and what is read is the same tree around them. -/

set_option autoImplicit false

namespace SketchSurvey.Regex

open Read

/-! ### Tokens of escaped texts -/

theorem tokens_cons_of_ne {c : Char} (other : c ≠ '\\') (position : Nat) (cs : List Char) :
    tokens position (c :: cs) = ⟨position, [c]⟩ :: tokens (position + 1) cs := by
  rw [tokens]
  rintro d rest rfl
  exact absurd rfl other

/-- An escaped text is cut into the tokens that are written for its characters. -/
theorem tokens_escaped (rest : List Char) : ∀ (position : Nat) (text : List Char), ∃ ts next,
    tokens position (text.flatMap escapeChar ++ rest) = ts ++ tokens next rest ∧ Spells ts text
  | position, [] => ⟨[], position, rfl, rfl⟩
  | position, c :: text => by
      by_cases special : c ∈ specialChars
      · have escaped : escapeChar c = ['\\', c] := if_pos (List.contains_iff_mem.mpr special)
        obtain ⟨ts, next, cut, spells⟩ := tokens_escaped rest (position + 2) text
        refine ⟨⟨position, ['\\', c]⟩ :: ts, next, ?_, ?_⟩
        · rw [List.flatMap_cons, escaped, List.append_assoc, List.cons_append, List.cons_append,
            List.nil_append, tokens, cut, List.cons_append]
        · rw [Spells, List.map_cons, List.map_cons, escaped, spells]
      · have plain : escapeChar c = [c] := if_neg (mt List.contains_iff_mem.mp special)
        have other : c ≠ '\\' := by
          rintro rfl
          exact special (by decide)
        obtain ⟨ts, next, cut, spells⟩ := tokens_escaped rest (position + 1) text
        refine ⟨⟨position, [c]⟩ :: ts, next, ?_, ?_⟩
        · rw [List.flatMap_cons, plain, List.append_assoc, List.singleton_append,
            tokens_cons_of_ne other, cut, List.cons_append]
        · rw [Spells, List.map_cons, List.map_cons, plain, spells]

theorem tokens_escapedMore (rest : List Char) : ∀ (position : Nat) (texts : List (List Char)),
    ∃ ts next, tokens position ((texts.flatMap fun text => '|' :: text.flatMap escapeChar) ++ rest) =
      ts ++ tokens next rest ∧ SpellsMore ts texts
  | position, [] => ⟨[], position, rfl, rfl⟩
  | position, text :: texts => by
      obtain ⟨here, middle, cut, spells⟩ := tokens_escaped
        ((texts.flatMap fun text => '|' :: text.flatMap escapeChar) ++ rest) (position + 1) text
      obtain ⟨later, next, cutLater, spellsLater⟩ := tokens_escapedMore rest middle texts
      refine ⟨⟨position, ['|']⟩ :: here ++ later, next, ?_, ?_⟩
      · rw [List.flatMap_cons, List.append_assoc, List.cons_append, tokens_cons_of_ne (by decide), cut,
          cutLater, List.cons_append, List.cons_append, List.append_assoc]
      · rw [SpellsMore, List.map_append, List.map_cons, spells, spellsLater, List.flatMap_cons]

/-! ### Steps of the reading -/

/-- A repetition is greedy if nothing after it says otherwise. -/
theorem run_readGreed {s : ReadState} (noLazy : s.rest.head?.bind Token.plain? ≠ some '?')
    (noPossessive : s.rest.head?.bind Token.plain? ≠ some '+') : readGreed.run s = .ok (.greedy, s) := by
  rw [readGreed, run_bind_of_ok (run_accept_of_ne noLazy)]
  simp only [Bool.false_eq_true, ↓reduceIte]
  rw [run_bind_of_ok (run_accept_of_ne noPossessive)]
  rfl

/-- Around a node that can be repeated and stands for itself a repetition is put, if nothing says how. -/
theorem run_readRepeat {s : ReadState} {rest : List Token} (item : Node)
    (noLazy : rest.head?.bind Token.plain? ≠ some '?')
    (noPossessive : rest.head?.bind Token.plain? ≠ some '+') (noAnchor : ∀ a, item ≠ .anchor a)
    (noRepeat : ∀ greed least most body, item ≠ .repeat greed least most body)
    (numbered : ∀ on off body, item ≠ .group none on off body) (start least : Nat) (most : Option Nat)
    (before : List Node) :
    (readRepeat start least most (item :: before)).run (s.withRest rest) =
      .ok (.repeat .greedy least most [item] :: before, s.withRest rest) := by
  have greedy : readGreed.run (s.withRest rest) = .ok (.greedy, s.withRest rest) :=
    run_readGreed noLazy noPossessive
  rw [readRepeat]
  · dsimp only
    rw [run_bind_of_ok greedy]
    split
    · exact absurd rfl (numbered _ _ _)
    · rfl
  · exact noAnchor
  · exact noRepeat

/-- A plus repeats the set before it, if nothing after the plus says how. -/
theorem run_readSequence_plus [Host] {s : ReadState} {t : Token} {rest : List Token} (chars : t.chars = ['+'])
    (proper : Proper rest) (noLazy : rest.head?.bind Token.plain? ≠ some '?')
    (noPossessive : rest.head?.bind Token.plain? ≠ some '+') (first : Bool) (items : List SetItem)
    (before : List Node) (fuel : Nat) :
    (readSequence false first (.set false items :: before) (fuel + 1)).run (s.withRest (t :: rest)) =
      (readSequence false first (.repeat .greedy 1 none [.set false items] :: before) fuel).run
        (s.withRest rest) := by
  rw [readSequence, run_bind_of_ok (run_peek? _)]
  simp only [ReadState.rest_withRest, List.head?_cons, chars]
  have repeats := run_readRepeat (s := s) (.set false items) noLazy noPossessive
    (fun _ same => by cases same) (fun _ _ _ _ same => by cases same) (fun _ _ _ same => by cases same)
    t.position 1 none before
  rw [if_neg (by decide), run_bind_of_ok (run_advance proper), if_neg (by decide), if_neg (by decide),
    run_bind_of_ok repeats]

/-- What is read in parentheses goes on the sequence. -/
theorem run_readSequence_open [Host] {s s' : ReadState} {t : Token} {rest : List Token} {node : Node}
    (chars : t.chars = ['(']) (proper : Proper rest) (first : Bool) (read : List Node) {fuel : Nat}
    (group : (readGroup false (first && read.isEmpty) t.position fuel).run (s.withRest rest) =
      .ok (some node, s')) :
    (readSequence false first read (fuel + 1)).run (s.withRest (t :: rest)) =
      (readSequence false first (node :: read) fuel).run s' := by
  rw [readSequence, run_bind_of_ok (run_peek? _)]
  simp only [ReadState.rest_withRest, List.head?_cons, chars]
  rw [if_neg (by decide), run_bind_of_ok (run_advance proper), if_neg (by decide), if_neg (by decide),
    run_bind_of_ok group]

/-- A pattern is read once its alternatives are, if they use up the text, change no flags, ask for no
group, and have no fault. -/
theorem run_readPattern [Host] {s s' : ReadState} {body : List Node} (proper : Proper s.rest)
    (alternatives : (readAlternatives false false (4 * s.rest.length + 4)).run s = .ok (body, s'))
    (used : s'.rest = []) (noFlags : s'.flags = {}) (noConditions : s'.conditions = [])
    (noProblem : ∀ widths, problemIn? widths false body = none) :
    readPattern.run s = .ok (body, s') := by
  rw [readPattern, run_bind_of_ok (run_check proper), run_get_bind, run_bind_of_ok alternatives,
    run_get_bind]
  simp only [used, noFlags, noConditions, noProblem]
  rfl

/-- A pattern without bars and with no group in another is compiled once its sequence is read, if that uses up the
text, changes no flags, asks for no group, and has no fault. -/
theorem compile_of_readSequence [Host] {pattern : String} {s s' : ReadState} {nodes : List Node}
    (start : s = { rest := tokens 0 pattern.toList, length := pattern.toList.length })
    (single : s.rest.countP Token.isOpening ≤ 1) (proper : Proper s.rest)
    (reads : (readSequence false true [] (4 * s.rest.length + 3)).run s = .ok (nodes, s'))
    (used : s'.rest = []) (noFlags : s'.flags = {}) (noConditions : s'.conditions = [])
    (noProblem : ∀ widths, problemIn? widths false nodes = none) :
    compile pattern = .ok {
      source := pattern
      body := nodes
      flags := {}
      widths := s'.widths.toList.map fun w => w.getD .none } := by
  have alternatives : (readAlternatives false false (4 * s.rest.length + 4)).run s = .ok (nodes, s') := by
    rw [readAlternatives, Bool.not_false, run_bind_of_ok reads, readMore,
      run_bind_of_ok (run_bind_of_ok (run_accept_of_ne (by simp [used])) _)]
    rfl
  have read := run_readPattern proper alternatives used noFlags noConditions noProblem
  have fits : Host.exhaustedByPattern pattern = false :=
    Host.fits_of_single pattern (by rwa [start] at single)
  simp only [compile, fits, Bool.false_eq_true, ↓reduceIte]
  rw [← start, read]
  simp only [noFlags]

end SketchSurvey.Regex

namespace SketchSurvey.Settings

open SketchSurvey.Regex SketchSurvey.Regex.Read

/-- What the names of functions match. -/
def nameAlternatives : List String → List Node
  | [] => []
  | first :: others => alternatives first.toList (others.map String.toList)

/-- The tree of the pattern: the word, white space, one of the names, and the end of a word. -/
def declarationNodes (names : List String) : List Node :=
  literals "function".toList ++ [
    .repeat .greedy 1 none [.set false [.category false .space]],
    .group (some 1) {} {} (nameAlternatives names),
    .anchor .boundary]

theorem toList_escape (s : String) : (Regex.escape s).toList = s.toList.flatMap escapeChar :=
  String.toList_ofList

theorem intercalate_bar (first : List Char) (others : List (List Char)) :
    ['|'].intercalate (first :: others) = first ++ others.flatMap ('|' :: ·) := by
  induction others generalizing first with
  | nil => simp [List.intercalate]
  | cons text others ih =>
      rw [List.flatMap_cons, List.cons_append, ← ih text]
      simp [List.intercalate]

/-- The characters of the pattern between its parentheses. -/
theorem toList_joinedNames (names : List String) :
    ∃ first others, (("|".intercalate (names.map Regex.escape)).toList =
        first.flatMap escapeChar ++ others.flatMap fun text => '|' :: text.flatMap escapeChar) ∧
      nameAlternatives names = alternatives first others := by
  cases names with
  | nil => exact ⟨[], [], rfl, rfl⟩
  | cons name names =>
      refine ⟨name.toList, names.map String.toList, ?_, rfl⟩
      rw [String.toList_intercalate, List.map_cons, List.map_cons, show "|".toList = ['|'] from rfl,
        intercalate_bar, toList_escape, List.map_map, List.flatMap_map, List.flatMap_map]
      simp only [Function.comp_apply, toList_escape]

/-- The tokens of the pattern up to its opening parenthesis, and those from the closing one on. -/
theorem tokens_fallbackPattern (names : List String) :
    ∃ word space plus opening ts more closing boundary first others,
      tokens 0 (fallbackPattern names).toList =
        word ++ space :: plus :: opening :: (ts ++ more ++ closing :: [boundary]) ∧
      Spells word "function".toList ∧ space.chars = ['\\', 's'] ∧ plus.chars = ['+'] ∧
      opening.chars = ['('] ∧ Spells ts first ∧ SpellsMore more others ∧ closing.chars = [')'] ∧
      boundary.chars = ['\\', 'b'] ∧ nameAlternatives names = alternatives first others := by
  obtain ⟨first, others, joined, same⟩ := toList_joinedNames names
  obtain ⟨ts, middle, cut, spells⟩ := tokens_escaped
    ((others.flatMap fun text => '|' :: text.flatMap escapeChar) ++ [')', '\\', 'b']) 12 first
  obtain ⟨more, last, cutMore, spellsMore⟩ := tokens_escapedMore [')', '\\', 'b'] middle others
  have chars : (fallbackPattern names).toList =
      ['f', 'u', 'n', 'c', 't', 'i', 'o', 'n', '\\', 's', '+', '('] ++ (first.flatMap escapeChar ++
        ((others.flatMap fun text => '|' :: text.flatMap escapeChar) ++ [')', '\\', 'b'])) := by
    rw [fallbackPattern, String.toList_append, String.toList_append, joined, List.append_assoc,
      List.append_assoc]
    rfl
  refine ⟨[⟨0, ['f']⟩, ⟨1, ['u']⟩, ⟨2, ['n']⟩, ⟨3, ['c']⟩, ⟨4, ['t']⟩, ⟨5, ['i']⟩, ⟨6, ['o']⟩,
      ⟨7, ['n']⟩], ⟨8, ['\\', 's']⟩, ⟨10, ['+']⟩, ⟨11, ['(']⟩, ts, more, ⟨last, [')']⟩,
    ⟨last + 1, ['\\', 'b']⟩, first, others, ?_, rfl, rfl, rfl, rfl, spells, spellsMore, rfl, rfl,
    same⟩
  have tail : tokens last [')', '\\', 'b'] = [⟨last, [')']⟩, ⟨last + 1, ['\\', 'b']⟩] := by
    rw [tokens_cons_of_ne (by decide)]
    rfl
  rw [chars, List.append_assoc, ← tail, ← cutMore, ← cut]
  rfl

theorem problemIn?_literals_append (widths : Nat → Width) (template : Bool) (text : List Char)
    (rest : List Node) :
    problemIn? widths template (literals text ++ rest) = problemIn? widths template rest := by
  induction text with
  | nil => rfl
  | cons c text ih => exact ih

theorem problemIn?_literals (widths : Nat → Width) (template : Bool) (text : List Char) :
    problemIn? widths template (literals text) = none := by
  have alone := problemIn?_literals_append widths template text []
  rw [List.append_nil] at alone
  exact alone

theorem problemInBranches?_literals (widths : Nat → Width) (template : Bool)
    (texts : List (List Char)) : problemInBranches? widths template (texts.map literals) = none := by
  induction texts with
  | nil => rfl
  | cons text texts ih =>
      rw [List.map_cons, problemInBranches?, problemIn?_literals, ih]
      rfl

theorem problemIn?_alternatives (widths : Nat → Width) (template : Bool) (first : List Char)
    (others : List (List Char)) : problemIn? widths template (alternatives first others) = none := by
  cases others with
  | nil => exact problemIn?_literals widths template first
  | cons second others =>
      rw [alternatives, problemIn?, Node.problem?, problemInBranches?_literals]
      · rfl
      · nofun

/-- The sequence of nodes that the pattern is. -/
theorem run_readSequence_fallback [Host] {s : ReadState} {word ts more : List Token}
    {space plus opening closing boundary : Token} {first : List Char} {others : List (List Char)}
    (isWord : Spells word "function".toList) (isSpace : space.chars = ['\\', 's'])
    (isPlus : plus.chars = ['+']) (isOpening : opening.chars = ['('])
    (spells : Spells ts first) (spellsMore : SpellsMore more others)
    (isClosing : closing.chars = [')']) (isBoundary : boundary.chars = ['\\', 'b'])
    (noGroups : s.widths = #[]) (fuel : Nat) (enough : word.length + (ts ++ more).length + 8 ≤ fuel) :
    (readSequence false true [] fuel).run
        (s.withRest (word ++ space :: plus :: opening :: (ts ++ more ++ closing :: [boundary]))) =
      .ok (literals "function".toList ++ [
          .repeat .greedy 1 none [.set false [.category false .space]],
          .group (some 1) {} {} (alternatives first others), .anchor .boundary],
        { s with
          rest := []
          widths := #[some (widthOf (fun _ => .none) (alternatives first others))] }) := by
  obtain ⟨n, rfl⟩ : ∃ n, fuel = word.length + (n + 1 + 1 + 1 + 1) :=
    ⟨fuel - word.length - 4, by omega⟩
  have properSpace {rest : List Token} : Proper (space :: rest) := .cons (by rw [isSpace]; decide)
  have properPlus {rest : List Token} : Proper (plus :: rest) := .cons (by rw [isPlus]; decide)
  have properOpening {rest : List Token} : Proper (opening :: rest) := .cons (by rw [isOpening]; decide)
  have properBoundary : Proper [boundary] := .cons (by rw [isBoundary]; decide)
  have properClosing {rest : List Token} : Proper (closing :: rest) := .cons (by rw [isClosing]; decide)
  have isOpen : opening.plain? = some '(' := plain?_of_chars isOpening (by decide)
  have properInside : Proper (ts ++ more ++ closing :: [boundary]) := by
    rw [List.append_assoc]
    refine spells.proper (spellsMore.ends ?_).proper
    exact fun _ same => by cases same; exact .inr isClosing
  rw [run_readSequence_append true properSpace _ [] isWord,
    run_readSequence_escape (.set false [.category false .space]) isSpace properPlus rfl,
    run_readSequence_plus isPlus properOpening (by simp [isOpen]) (by simp [isOpen]),
    run_readSequence_open isOpening properInside true _
      (run_readGroup spells spellsMore isClosing properBoundary _ _ (by omega) noGroups),
    show ∀ w : Array (Option Width), ({ s with rest := [boundary], widths := w } : ReadState) =
      ReadState.withRest { s with widths := w } [boundary] from fun _ => rfl,
    run_readSequence_escape (.anchor .boundary) isBoundary .nil rfl,
    run_readSequence_of_ends .nil]
  simp [ReadState.withRest]

theorem problemIn?_declarationNodes (widths : Nat → Width) (names : List String) :
    problemIn? widths false (declarationNodes names) = none := by
  have inGroup : problemIn? widths false (nameAlternatives names) = none := by
    cases names with
    | nil => rfl
    | cons name names => exact problemIn?_alternatives widths false _ _
  rw [declarationNodes, problemIn?_literals_append]
  simp only [problemIn?, Node.problem?, inGroup]
  rfl

theorem isOpening_of_chars {t : Token} {c : Char} (chars : t.chars = [c]) (other : c ≠ '(') :
    t.isOpening = false := by
  simp only [Token.isOpening, Token.plain?, chars, beq_eq_false_iff_ne]
  split
  · exact (Option.some_ne_none _).symm
  · exact fun same => other (Option.some.inj same)

theorem isOpening_of_escape {t : Token} {c : Char} (chars : t.chars = ['\\', c]) : t.isOpening = false := by
  simp [Token.isOpening, Token.plain?, chars]

/-- No group is opened by what is written for a text. -/
theorem countP_isOpening_of_spells {ts : List Token} {text : List Char} (spells : Spells ts text) :
    ts.countP Token.isOpening = 0 := by
  rw [List.countP_eq_zero]
  intro t member
  have written : t.chars ∈ text.map escapeChar := spells ▸ List.mem_map_of_mem member
  obtain ⟨c, -, same⟩ := List.mem_map.mp written
  rw [Token.isOpening, beq_iff_eq]
  exact plain?_ne_of_written same.symm (by decide)

theorem countP_isOpening_of_spellsMore {ts : List Token} {texts : List (List Char)}
    (spells : SpellsMore ts texts) : ts.countP Token.isOpening = 0 := by
  rw [List.countP_eq_zero]
  intro t member
  have written : t.chars ∈ texts.flatMap fun text => ['|'] :: text.map escapeChar :=
    spells ▸ List.mem_map_of_mem member
  obtain ⟨text, -, inText⟩ := List.mem_flatMap.mp written
  rcases List.mem_cons.mp inText with bar | inText
  · simp [isOpening_of_chars bar (by decide)]
  · obtain ⟨c, -, same⟩ := List.mem_map.mp inText
    rw [Token.isOpening, beq_iff_eq]
    exact plain?_ne_of_written same.symm (by decide)

/-- The pattern can be read, and what is read is its tree. -/
theorem compile_fallbackPattern [Host] (names : List String) :
    Regex.compile (fallbackPattern names) = .ok {
      source := fallbackPattern names
      body := declarationNodes names
      flags := {}
      widths := [widthOf (fun _ => .none) (nameAlternatives names)] } := by
  obtain ⟨word, space, plus, opening, ts, more, closing, boundary, first, others, cut, isWord, isSpace,
    isPlus, isOpening, spells, spellsMore, isClosing, isBoundary, same⟩ := tokens_fallbackPattern names
  let s : ReadState :=
    { rest := tokens 0 (fallbackPattern names).toList, length := (fallbackPattern names).toList.length }
  have nodes := run_readSequence_fallback (s := s) isWord isSpace isPlus isOpening spells spellsMore
    isClosing isBoundary rfl (4 * s.rest.length + 3) (by
      simp only [s, cut, List.length_append, List.length_cons]
      omega)
  rw [← cut, ← same] at nodes
  change (readSequence false true [] _).run s = .ok (declarationNodes names, _) at nodes
  have proper : Proper s.rest := by
    simp only [s, cut]
    exact isWord.proper (.cons (by rw [isSpace]; decide))
  have single : s.rest.countP Token.isOpening ≤ 1 := by
    simp only [s, cut, List.countP_append, List.countP_cons, List.countP_nil,
      countP_isOpening_of_spells isWord, countP_isOpening_of_spells spells,
      countP_isOpening_of_spellsMore spellsMore, isOpening_of_escape isSpace,
      isOpening_of_chars isPlus (by decide), isOpening_of_chars isClosing (by decide),
      isOpening_of_escape isBoundary, Bool.false_eq_true, ↓reduceIte, Nat.add_zero, Nat.zero_add]
    split <;> omega
  exact compile_of_readSequence rfl single proper nodes rfl rfl rfl fun widths => problemIn?_declarationNodes widths names

end SketchSurvey.Settings
