import SketchSurvey.Proofs.Settings.Fallback

/-! The standard pattern of the library can be read, and what is read is its tree: the start of a word, the name
of the library with or without the mark of a minified script, the ending of scripts, and the end of the text. -/

set_option autoImplicit false

namespace SketchSurvey.Regex

open Read

/-- A question mark makes the group before it optional, if nothing after the mark says how. -/
theorem run_readSequence_question [Host] {s : ReadState} {t : Token} {rest : List Token} (chars : t.chars = ['?'])
    (proper : Proper rest) (noLazy : rest.head?.bind Token.plain? ≠ some '?')
    (noPossessive : rest.head?.bind Token.plain? ≠ some '+') (first : Bool) (number : Nat) (on off : Flags)
    (body before : List Node) (fuel : Nat) :
    (readSequence false first (.group (some number) on off body :: before) (fuel + 1)).run
        (s.withRest (t :: rest)) =
      (readSequence false first (.repeat .greedy 0 (some 1) [.group (some number) on off body] :: before)
        fuel).run (s.withRest rest) := by
  have repeats := run_readRepeat (s := s) (.group (some number) on off body) noLazy noPossessive
    (fun _ same => by cases same) (fun _ _ _ _ same => by cases same) (fun _ _ _ same => by cases same)
    t.position 0 (some 1) before
  rw [readSequence, run_bind_of_ok (run_peek? _)]
  simp only [ReadState.rest_withRest, List.head?_cons, chars]
  rw [if_neg (by decide), run_bind_of_ok (run_advance proper), if_neg (by decide), if_neg (by decide),
    run_bind_of_ok repeats]

theorem run_readSequence_dollar [Host] {s : ReadState} {t : Token} {rest : List Token} (chars : t.chars = ['$'])
    (proper : Proper rest) (first : Bool) (read : List Node) (fuel : Nat) :
    (readSequence false first read (fuel + 1)).run (s.withRest (t :: rest)) =
      (readSequence false first (.anchor .lineEnd :: read) fuel).run (s.withRest rest) := by
  rw [readSequence, run_bind_of_ok (run_peek? _)]
  simp only [ReadState.rest_withRest, List.head?_cons, chars]
  rw [if_neg (by decide), run_bind_of_ok (run_advance proper), if_neg (by decide), if_neg (by decide)]

end SketchSurvey.Regex

namespace SketchSurvey.Settings

open SketchSurvey.Regex SketchSurvey.Regex.Read

/-- The tree of the pattern. -/
def libraryNodes : List Node :=
  .anchor .boundary :: (literals "p5".toList ++
    .repeat .greedy 0 (some 1) [.group (some 1) {} {} (literals ".min".toList)] ::
      (literals ".js".toList ++ [.anchor .lineEnd]))

/-- The sequence of nodes that the pattern is. -/
theorem run_readSequence_library [Host] {s : ReadState} (boundary opening closing mark dollar : Token)
    (word inside ending : List Token) (isBoundary : boundary.chars = ['\\', 'b'])
    (isWord : Spells word "p5".toList) (isOpening : opening.chars = ['('])
    (isInside : Spells inside ".min".toList) (isClosing : closing.chars = [')']) (isMark : mark.chars = ['?'])
    (isEnding : Spells ending ".js".toList) (isDollar : dollar.chars = ['$']) (noGroups : s.widths = #[])
    (fuel : Nat) (enough : word.length + inside.length + ending.length + 8 ≤ fuel) :
    (readSequence false true [] fuel).run (s.withRest
        (boundary :: (word ++ opening :: (inside ++ [] ++ closing :: mark :: (ending ++ [dollar]))))) =
      .ok (libraryNodes, { s with
        rest := []
        widths := #[some (widthOf (fun _ => .none) (literals ".min".toList))] }) := by
  obtain ⟨n, rfl⟩ : ∃ n, fuel = word.length + (ending.length + (n + 1) + 1 + 1) + 1 :=
    ⟨fuel - word.length - ending.length - 4, by omega⟩
  have properDollar : Proper [dollar] := .cons (by rw [isDollar]; decide)
  have properEnding : Proper (ending ++ [dollar]) := isEnding.proper properDollar
  have properMark {rest : List Token} : Proper (mark :: rest) := .cons (by rw [isMark]; decide)
  have properClosing {rest : List Token} : Proper (closing :: rest) := .cons (by rw [isClosing]; decide)
  have properOpening {rest : List Token} : Proper (opening :: rest) := .cons (by rw [isOpening]; decide)
  have properInside : Proper (inside ++ [] ++ closing :: mark :: (ending ++ [dollar])) := by
    rw [List.append_nil]
    exact isInside.proper properClosing
  have noMore : SpellsMore [] [] := rfl
  have noMark (c : Char) (special : c ∈ specialChars) :
      (ending ++ [dollar]).head?.bind Token.plain? ≠ some c := by
    cases ending with
    | nil => cases isEnding
    | cons t ts => exact plain?_ne_of_written (List.cons.inj isEnding).1 special
  rw [run_readSequence_escape (.anchor .boundary) isBoundary (isWord.proper properOpening) rfl,
    run_readSequence_append true properOpening _ _ isWord,
    run_readSequence_open isOpening properInside true _
      (run_readGroup isInside noMore isClosing properMark _ _ (by simp; omega) noGroups),
    show ∀ w : Array (Option Width),
        ({ s with rest := mark :: (ending ++ [dollar]), widths := w } : ReadState) =
          ReadState.withRest { s with widths := w } (mark :: (ending ++ [dollar])) from fun _ => rfl,
    run_readSequence_question isMark properEnding (noMark _ (by decide)) (noMark _ (by decide)),
    run_readSequence_append true properDollar _ _ isEnding,
    run_readSequence_dollar isDollar .nil,
    run_readSequence_of_ends .nil]
  simp [ReadState.withRest, libraryNodes, alternatives]

theorem problemIn?_libraryNodes (widths : Nat → Width) : problemIn? widths false libraryNodes = none := by
  rfl

/-- The pattern can be read, and what is read is its tree. -/
theorem compile_libraryPattern [Host] :
    Regex.compile Config.standard.libraryScriptPattern = .ok {
      source := Config.standard.libraryScriptPattern
      body := libraryNodes
      flags := {}
      widths := [widthOf (fun _ => .none) (literals ".min".toList)] } := by
  let s : ReadState := {
    rest := tokens 0 Config.standard.libraryScriptPattern.toList
    length := Config.standard.libraryScriptPattern.toList.length }
  have nodes := run_readSequence_library (s := s) ⟨0, ['\\', 'b']⟩ ⟨4, ['(']⟩ ⟨10, [')']⟩ ⟨11, ['?']⟩
    ⟨16, ['$']⟩ [⟨2, ['p']⟩, ⟨3, ['5']⟩] [⟨5, ['\\', '.']⟩, ⟨7, ['m']⟩, ⟨8, ['i']⟩, ⟨9, ['n']⟩]
    [⟨12, ['\\', '.']⟩, ⟨14, ['j']⟩, ⟨15, ['s']⟩]
    rfl rfl rfl rfl rfl rfl rfl rfl rfl (4 * s.rest.length + 3) (by decide)
  exact compile_of_readSequence (s := s) rfl (by decide) (.cons (by decide)) nodes rfl rfl rfl problemIn?_libraryNodes

end SketchSurvey.Settings
