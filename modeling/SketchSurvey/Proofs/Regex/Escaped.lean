import SketchSurvey.Regex.Reader
import SketchSurvey.Regex.Token

/-! Reading what was escaped: a text written with escapes is read as the characters of the text, one
literal for each, wherever it stands in a pattern. Texts that bars divide are read as alternatives, and
parentheses make a group of them. -/

set_option autoImplicit false

namespace SketchSurvey.Regex

open Read

/-- The same state before other tokens. -/
def ReadState.withRest (s : ReadState) (rest : List Token) : ReadState := { s with rest }

@[simp] theorem ReadState.rest_withRest (s : ReadState) (rest : List Token) :
    (s.withRest rest).rest = rest := rfl

/-- The first part of a reading that gives a result is done, and what is left goes on from there. -/
theorem run_bind_of_ok {α β : Type} {m : ReadM α} {s s' : ReadState} {a : α}
    (first : m.run s = .ok (a, s')) (f : α → ReadM β) : (m >>= f).run s = (f a).run s' := by
  simp only [StateT.run_bind, first]
  rfl

theorem run_get_bind {β : Type} (f : ReadState → ReadM β) (s : ReadState) :
    (get >>= f).run s = (f s).run s := rfl

theorem run_modify_bind {β : Type} (g : ReadState → ReadState) (f : PUnit → ReadM β) (s : ReadState) :
    (modify g >>= f).run s = (f ⟨⟩).run (g s) := rfl

/-- No backslash stands alone at the front. -/
def Proper (rest : List Token) : Prop := ∀ t ∈ rest.head?, t.isDangling = false

theorem Proper.nil : Proper [] := by
  rintro t ⟨⟩

theorem Proper.cons {t : Token} {rest : List Token} (whole : t.chars ≠ ['\\']) : Proper (t :: rest) := by
  intro u first
  cases first
  exact beq_eq_false_iff_ne.mpr whole

theorem run_peek? (s : ReadState) : peek?.run s = .ok (s.rest.head?, s) := rfl

theorem run_check {s : ReadState} (proper : Proper s.rest) : check.run s = .ok ((), s) := by
  rw [check, run_get_bind]
  cases here : s.rest with
  | nil => rfl
  | cons t rest =>
      rw [here] at proper
      have whole : t.isDangling = false := proper t rfl
      simp only [whole, Bool.false_eq_true, ↓reduceIte]
      rfl

theorem run_advance {s : ReadState} {t : Token} {rest : List Token} (proper : Proper rest) :
    advance.run (s.withRest (t :: rest)) = .ok ((), s.withRest rest) := by
  rw [advance, run_modify_bind]
  exact run_check proper

theorem run_accept {s : ReadState} {t : Token} {rest : List Token} {c : Char}
    (here : t.plain? = some c) (proper : Proper rest) :
    (accept c).run (s.withRest (t :: rest)) = .ok (true, s.withRest rest) := by
  simp only [accept]
  rw [run_bind_of_ok (show peekPlain?.run (s.withRest (t :: rest)) = .ok (some c, _) from
    congrArg (fun o => Except.ok (o, _)) here)]
  simp only [beq_self_eq_true, ↓reduceIte]
  rw [run_bind_of_ok (run_advance proper)]
  rfl

theorem run_accept_of_ne {s : ReadState} {c : Char}
    (other : s.rest.head?.bind Token.plain? ≠ some c) : (accept c).run s = .ok (false, s) := by
  simp only [accept]
  rw [run_bind_of_ok (show peekPlain?.run s = .ok (s.rest.head?.bind Token.plain?, s) from rfl)]
  simp only [beq_iff_eq, other, ↓reduceIte]
  rfl

/-! ### Characters -/

/-- What is escaped is no letter, no digit and no escape with a meaning of its own. -/
theorem escape_of_mem_specialChars : ∀ c ∈ specialChars,
    anchorEscape? c = none ∧ categoryEscape? c = none ∧
      (controlEscape? c = none ∨ controlEscape? c = some c.toNat) ∧
      (c ≠ 'x' ∧ c ≠ 'u' ∧ c ≠ 'U' ∧ c ≠ 'N') ∧
      c ≠ '0' ∧ isDecimal c = false ∧ isLetter c = false := by
  have each : specialChars.all fun c => decide (
      anchorEscape? c = none ∧ categoryEscape? c = none ∧
        (controlEscape? c = none ∨ controlEscape? c = some c.toNat) ∧
        (c ≠ 'x' ∧ c ≠ 'u' ∧ c ≠ 'U' ∧ c ≠ 'N') ∧
        c ≠ '0' ∧ isDecimal c = false ∧ isLetter c = false) := by decide
  exact fun c special => of_decide_eq_true (List.all_eq_true.mp each c special)

theorem run_readEscape [Host] {c : Char} (special : c ∈ specialChars) (s : ReadState) :
    (readEscape c).run s = .ok (.literal c.toNat, s) := by
  obtain ⟨anchor, category, control, ⟨x, u, bigU, n⟩, zero, decimal, letter⟩ :=
    escape_of_mem_specialChars c special
  have common : readCommonEscape? c = pure none := by
    unfold readCommonEscape?
    split <;> first | contradiction | rfl
  rcases control with none | own
  · simp only [readEscape, anchor, category, none, common, zero, decimal, letter, pure_bind,
      ↓reduceIte, Bool.false_eq_true]
    rfl
  · simp only [readEscape, anchor, category, own]
    rfl

theorem run_readSequence_escape [Host] {s s' : ReadState} {t : Token} {c : Char} (node : Node)
    {rest : List Token} (chars : t.chars = ['\\', c]) (proper : Proper rest)
    (reads : (readEscape c).run (s.withRest rest) = .ok (node, s')) (verbose first : Bool)
    (read : List Node) (fuel : Nat) :
    (readSequence verbose first read (fuel + 1)).run (s.withRest (t :: rest)) =
      (readSequence verbose first (node :: read) fuel).run s' := by
  rw [readSequence, run_bind_of_ok (run_peek? _)]
  simp only [ReadState.rest_withRest, List.head?_cons, chars]
  rw [run_bind_of_ok (run_advance proper), run_bind_of_ok reads]

/-- A token that is written for a character is read as this character. -/
theorem run_readSequence_cons [Host] {s : ReadState} {t : Token} {c : Char} {rest : List Token}
    (written : t.chars = escapeChar c) (proper : Proper rest) (first : Bool) (read : List Node)
    (fuel : Nat) :
    (readSequence false first read (fuel + 1)).run (s.withRest (t :: rest)) =
      (readSequence false first (.literal c.toNat :: read) fuel).run (s.withRest rest) := by
  by_cases special : c ∈ specialChars
  · have chars : t.chars = ['\\', c] := by
      rw [written, escapeChar, if_pos (List.contains_iff_mem.mpr special)]
    exact run_readSequence_escape _ chars proper (run_readEscape special _) false first read fuel
  · have chars : t.chars = [c] := by
      rw [written, escapeChar, if_neg (mt List.contains_iff_mem.mp special)]
    have plain (d : Char) (isSpecial : d ∈ specialChars) : c ≠ d := by
      rintro rfl
      exact special isSpecial
    rw [readSequence, run_bind_of_ok (run_peek? _)]
    simp only [ReadState.rest_withRest, List.head?_cons, chars]
    simp only [plain '|' (by decide), plain ')' (by decide), decide_false, Bool.or_self,
      Bool.false_and, Bool.false_eq_true, ↓reduceIte]
    rw [run_bind_of_ok (run_advance proper)]
    split <;> first | exact absurd rfl (plain _ (by decide)) | rfl

/-- Tokens that are written for the characters of a text. -/
def Spells (ts : List Token) (text : List Char) : Prop := ts.map Token.chars = text.map escapeChar

/-- The nodes that match the characters of a text one by one. -/
def literals (text : List Char) : List Node := text.map fun c => .literal c.toNat

theorem escapeChar_ne_backslash (c : Char) : escapeChar c ≠ ['\\'] := by
  unfold escapeChar
  split
  · nofun
  · next plain =>
      intro same
      cases same
      exact plain (by decide)

theorem Spells.proper {ts rest : List Token} {text : List Char} (spells : Spells ts text)
    (proper : Proper rest) : Proper (ts ++ rest) := by
  intro t first
  cases ts with
  | nil => exact proper t first
  | cons u more =>
      cases text with
      | nil => cases spells
      | cons c others =>
          cases first
          simp only [Token.isDangling, (List.cons.inj spells).1, beq_eq_false_iff_ne]
          exact escapeChar_ne_backslash c

/-- Tokens that are written for a text are read as its characters. -/
theorem run_readSequence_append [Host] (first : Bool) {s : ReadState} {rest : List Token} (proper : Proper rest)
    (fuel : Nat) : ∀ {ts : List Token} {text : List Char} (read : List Node), Spells ts text →
      (readSequence false first read (ts.length + fuel)).run (s.withRest (ts ++ rest)) =
        (readSequence false first ((literals text).reverse ++ read) fuel).run (s.withRest rest)
  | [], [], _, _ => by simp [literals]
  | t :: ts, c :: text, read, spells => by
      obtain ⟨here, others⟩ := List.cons.inj spells
      rw [List.length_cons, Nat.add_right_comm, List.cons_append,
        run_readSequence_cons here (Spells.proper others proper),
        run_readSequence_append first proper fuel _ others]
      simp only [literals, List.map_cons, List.reverse_cons, List.append_assoc,
        List.singleton_append]

/-- Where a sequence ends: at a bar or a closing parenthesis, or with the pattern. -/
def Ends (rest : List Token) : Prop :=
  ∀ t ∈ rest.head?, t.chars = ['|'] ∨ t.chars = [')']

theorem Ends.nil : Ends [] := by
  rintro t ⟨⟩

theorem Ends.proper {rest : List Token} (ends : Ends rest) : Proper rest := by
  intro t first
  rcases ends t first with bar | closing
  · rw [Token.isDangling, bar]
    rfl
  · rw [Token.isDangling, closing]
    rfl

theorem run_readSequence_of_ends [Host] {s : ReadState} (ends : Ends s.rest) (verbose first : Bool)
    (read : List Node) (fuel : Nat) :
    (readSequence verbose first read fuel).run s = .ok (read.reverse, s) := by
  cases fuel with
  | zero => rfl
  | succ fuel =>
      rw [readSequence, run_bind_of_ok (run_peek? s)]
      cases here : s.rest with
      | nil => rfl
      | cons t rest =>
          rw [here] at ends
          rcases ends t rfl with bar | closing
          · simp only [List.head?_cons, bar]
            rfl
          · simp only [List.head?_cons, closing]
            rfl

/-- A whole sequence of escaped characters. -/
theorem run_readSequence [Host] {s : ReadState} {ts rest : List Token} {text : List Char}
    (spells : Spells ts text) (ends : Ends rest) (first : Bool) {fuel : Nat}
    (enough : ts.length ≤ fuel) :
    (readSequence false first [] fuel).run (s.withRest (ts ++ rest)) =
      .ok (literals text, s.withRest rest) := by
  obtain ⟨more, rfl⟩ := Nat.exists_eq_add_of_le enough
  rw [run_readSequence_append first ends.proper more [] spells, run_readSequence_of_ends ends]
  simp

/-! ### Alternatives -/

/-- Tokens that are written for some texts with a bar before each. -/
def SpellsMore (ts : List Token) (texts : List (List Char)) : Prop :=
  ts.map Token.chars = texts.flatMap fun text => ['|'] :: text.map escapeChar

theorem SpellsMore.ends {ts rest : List Token} {texts : List (List Char)}
    (spells : SpellsMore ts texts) (ends : Ends rest) : Ends (ts ++ rest) := by
  intro t first
  cases ts with
  | nil => exact ends t first
  | cons u more =>
      cases texts with
      | nil => cases spells
      | cons text others =>
          cases first
          exact .inl (List.cons.inj spells).1

/-- A closing parenthesis, or nothing, stands next. -/
def Closes (rest : List Token) : Prop := ∀ t ∈ rest.head?, t.chars = [')']

theorem Closes.ends {rest : List Token} (closes : Closes rest) : Ends rest :=
  fun t first => .inr (closes t first)

theorem run_readMore [Host] (fuel : Nat) : ∀ {s : ReadState} {ts rest : List Token}
    {texts : List (List Char)}, SpellsMore ts texts → Closes rest → ts.length < fuel →
      (readMore false true fuel).run (s.withRest (ts ++ rest)) =
        .ok (texts.map literals, s.withRest rest) := by
  induction fuel with
  | zero =>
      intro s ts rest texts _ _ enough
      cases enough
  | succ fuel ih =>
      intro s ts rest texts spells closes enough
      cases texts with
      | nil =>
          obtain rfl : ts = [] := List.map_eq_nil_iff.mp spells
          rw [readMore, List.nil_append, run_bind_of_ok (run_accept_of_ne ?_)]
          · rfl
          · cases rest with
            | nil => nofun
            | cons t rest =>
                have closing := closes t rfl
                simp [Token.plain?, closing]
      | cons text others =>
          obtain ⟨bar, ts, rfl, isBar, spells⟩ := List.map_eq_cons_iff.mp spells
          obtain ⟨here, later, rfl, spellsHere, spellsLater⟩ := List.map_eq_append_iff.mp spells
          have ends : Ends (later ++ rest) := SpellsMore.ends spellsLater closes.ends
          have plain : bar.plain? = some '|' := by
            rw [Token.plain?, isBar]
            rfl
          simp only [List.length_cons, List.length_append] at enough
          rw [readMore, List.cons_append, List.append_assoc,
            run_bind_of_ok (run_accept plain (Spells.proper spellsHere ends.proper))]
          simp only [↓reduceIte]
          rw [run_get_bind, run_bind_of_ok (run_readSequence spellsHere ends false (by omega)),
            run_bind_of_ok (ih spellsLater closes (by omega))]
          rfl

/-- What texts with bars between them match: any of the texts. -/
def alternatives (first : List Char) (others : List (List Char)) : List Node :=
  match others with
  | [] => literals first
  | _ => [.branch ((first :: others).map literals)]

theorem run_readAlternatives [Host] {s : ReadState} {ts more rest : List Token} {first : List Char}
    {others : List (List Char)} (spells : Spells ts first) (spellsMore : SpellsMore more others)
    (closes : Closes rest) {fuel : Nat} (enough : (ts ++ more).length + 1 < fuel) :
    (readAlternatives false true fuel).run (s.withRest (ts ++ more ++ rest)) =
      .ok (alternatives first others, s.withRest rest) := by
  cases fuel with
  | zero => cases enough
  | succ fuel =>
      rw [List.length_append] at enough
      rw [readAlternatives, List.append_assoc,
        run_bind_of_ok (run_readSequence spells (spellsMore.ends closes.ends) _ (by omega)),
        run_bind_of_ok (run_readMore fuel spellsMore closes (by omega))]
      cases others <;> rfl

/-- A token that is written for a character is no plain special character. -/
theorem plain?_ne_of_written {t : Token} {c d : Char} (written : t.chars = escapeChar c)
    (special : d ∈ specialChars) : t.plain? ≠ some d := by
  unfold escapeChar at written
  split at written
  · rw [Token.plain?, written]
    nofun
  · next ordinary =>
      rw [Token.plain?, written]
      dsimp only
      split
      · nofun
      · intro same
        cases same
        exact ordinary (List.contains_iff_mem.mpr special)

theorem plain?_of_chars {t : Token} {c : Char} (chars : t.chars = [c]) (other : c ≠ '\\') :
    t.plain? = some c := by
  rw [Token.plain?, chars]
  exact if_neg other

/-- A group of texts does not begin with a question mark. -/
theorem plain?_head_ne_question {ts more rest : List Token} {close : Token} {first : List Char}
    {others : List (List Char)} (spells : Spells ts first) (spellsMore : SpellsMore more others)
    (closing : close.chars = [')']) :
    (ts ++ more ++ close :: rest).head?.bind Token.plain? ≠ some '?' := by
  cases ts with
  | cons t ts =>
      cases first with
      | nil => cases spells
      | cons c first => exact plain?_ne_of_written (List.cons.inj spells).1 (by decide)
  | nil =>
      have ends : Ends (more ++ close :: rest) := spellsMore.ends fun _ same => by
        cases same
        exact .inr closing
      cases more with
      | nil =>
          rw [List.nil_append, List.nil_append, List.head?_cons, Option.bind_some,
            plain?_of_chars closing (by decide)]
          decide
      | cons t more =>
          rcases ends t rfl with bar | closing
          · rw [List.nil_append, List.cons_append, List.head?_cons, Option.bind_some,
              plain?_of_chars bar (by decide)]
            decide
          · rw [List.nil_append, List.cons_append, List.head?_cons, Option.bind_some,
              plain?_of_chars closing (by decide)]
            decide

theorem run_openGroup (s : ReadState) :
    (openGroup none).run s = .ok (s.widths.size + 1, { s with widths := s.widths.push none }) := by
  rw [openGroup, run_get_bind]
  simp only [Option.map_none, Option.toList_none, List.append_nil]
  rfl

theorem run_closeParenthesis {s : ReadState} {close : Token} {rest : List Token} (start : Nat)
    (closing : close.chars = [')']) (proper : Proper rest) :
    (closeParenthesis start).run (s.withRest (close :: rest)) = .ok ((), s.withRest rest) := by
  rw [closeParenthesis, run_bind_of_ok (run_accept (plain?_of_chars closing (by decide)) proper)]
  rfl

/-- Without a group that is closed every group is taken to match nothing. -/
theorem groupWidth_of_open (g : Nat) :
    (((#[none] : Array (Option Width))[g - 1]?).bind id).getD .none = Width.none := by
  cases h : (#[none] : Array (Option Width))[g - 1]? with
  | none => rfl
  | some w =>
      have member := Array.mem_of_getElem? h
      cases List.mem_singleton.mp (Array.mem_toList_iff.mpr member)
      rfl

theorem run_closeGroup {s : ReadState} (opened : s.widths = #[none]) (body : List Node) :
    (closeGroup 1 body).run s =
      .ok ((), { s with widths := #[some (widthOf (fun _ => .none) body)] }) := by
  rw [closeGroup, run_get_bind]
  simp only [opened, groupWidth_of_open]
  rfl

section Group

variable {s : ReadState} {ts more rest : List Token} {close : Token} {first : List Char}
  {others : List (List Char)}

/-- The inside of the first group, made of texts with bars between them. -/
theorem run_readBody [Host] (spells : Spells ts first) (spellsMore : SpellsMore more others)
    (closing : close.chars = [')']) (proper : Proper rest) (start : Nat) {fuel : Nat}
    (enough : (ts ++ more).length + 2 < fuel) (noGroups : s.widths = #[]) :
    (readBody false (some none) {} {} start fuel).run (s.withRest (ts ++ more ++ close :: rest)) =
      .ok (.group (some 1) {} {} (alternatives first others),
        { s with rest, widths := #[some (widthOf (fun _ => .none) (alternatives first others))] }) := by
  obtain ⟨fuel, rfl⟩ : ∃ n, fuel = n + 1 := ⟨fuel - 1, by omega⟩
  let opened : ReadState := { s with widths := #[none] }
  have opens : (openGroup none).run (s.withRest (ts ++ more ++ close :: rest)) =
      .ok (1, opened.withRest (ts ++ more ++ close :: rest)) := by
    rw [run_openGroup]
    simp only [ReadState.withRest, noGroups, opened]
    rfl
  have closes : Closes (close :: rest) := fun _ same => by
    cases same
    exact closing
  rw [readBody]
  simp only [pure_bind]
  rw [run_bind_of_ok opens]
  simp only [Bool.false_or, Bool.false_and]
  rw [run_bind_of_ok (run_readAlternatives spells spellsMore closes (by omega)),
    run_bind_of_ok (run_closeParenthesis start closing proper), run_bind_of_ok (run_closeGroup rfl _)]
  rfl

/-- The first group, made of texts with bars between them. -/
theorem run_readGroup [Host] (spells : Spells ts first) (spellsMore : SpellsMore more others)
    (closing : close.chars = [')']) (proper : Proper rest) (mayFlag : Bool) (start : Nat) {fuel : Nat}
    (enough : (ts ++ more).length + 3 < fuel) (noGroups : s.widths = #[]) :
    (readGroup false mayFlag start fuel).run (s.withRest (ts ++ more ++ close :: rest)) =
      .ok (some (.group (some 1) {} {} (alternatives first others)),
        { s with rest, widths := #[some (widthOf (fun _ => .none) (alternatives first others))] }) := by
  obtain ⟨fuel, rfl⟩ : ∃ n, fuel = n + 1 := ⟨fuel - 1, by omega⟩
  rw [readGroup, run_bind_of_ok (run_accept_of_ne (plain?_head_ne_question spells spellsMore closing))]
  simp only [Bool.not_false, ↓reduceIte]
  rw [run_bind_of_ok (run_readBody spells spellsMore closing proper start (by omega) noGroups)]
  rfl

end Group

end SketchSurvey.Regex
