import SketchSurvey.Proofs.Json.Soundness
import SketchSurvey.Text.Utf8

/-! How lines end does not matter to what a text spells: neither a return nor a line feed stands in it but as
white space. -/

set_option autoImplicit false

namespace SketchSurvey.Json

open SketchSurvey.Text.Utf8 (unifyLines)

section Lines

variable {cs rest token : List Char}

theorem unifyLines_cons {c : Char} (noReturn : c ≠ '\r') (cs : List Char) :
    unifyLines (c :: cs) = c :: unifyLines cs := by
  rw [unifyLines]
  · rintro rest rfl
    exact absurd rfl noReturn
  · rintro rfl
    exact absurd rfl noReturn

/-- A return ends its line with the line feed behind it, or alone. -/
theorem unifyLines_return (cs : List Char) :
    unifyLines ('\r' :: cs) = unifyLines cs ∨ unifyLines ('\r' :: cs) = '\n' :: unifyLines cs := by
  by_cases feed : ∃ more, cs = '\n' :: more
  · obtain ⟨more, rfl⟩ := feed
    refine .inl ?_
    rw [unifyLines, unifyLines_cons (by decide)]
  · refine .inr ?_
    rw [unifyLines]
    exact fun more same => feed ⟨more, same⟩

/-- A character of the unified lines stands in the text itself, or it ends a line there. -/
theorem exists_of_unifyLines {d : Char} {ds : List Char} (unified : unifyLines cs = d :: ds) :
    ∃ rest, ds = unifyLines rest ∧ (cs = d :: rest ∨ d = '\n' ∧ Blanks cs rest) := by
  unfold unifyLines at unified
  split at unified
  · obtain ⟨rfl, rfl⟩ := List.cons.inj unified
    exact ⟨_, rfl, .inr ⟨rfl, .cons rfl (.cons rfl (blanks_refl _))⟩⟩
  · obtain ⟨rfl, rfl⟩ := List.cons.inj unified
    exact ⟨_, rfl, .inr ⟨rfl, .cons rfl (blanks_refl _)⟩⟩
  · obtain ⟨rfl, rfl⟩ := List.cons.inj unified
    exact ⟨_, rfl, .inl rfl⟩
  · cases unified

theorem Blanks.unified (blanks : Blanks cs rest) : Blanks (unifyLines cs) (unifyLines rest) := by
  obtain ⟨before, blank, rfl⟩ := blanks
  induction before with
  | nil => exact blanks_refl _
  | cons b before ih =>
      obtain ⟨first, others⟩ := List.forall_mem_cons.mp blank
      rw [List.cons_append]
      by_cases isReturn : b = '\r'
      · subst isReturn
        rcases unifyLines_return (before ++ rest) with same | same
        · rw [same]
          exact ih others
        · rw [same]
          exact (ih others).cons rfl
      · rw [unifyLines_cons isReturn]
        exact (ih others).cons first

theorem Blanks.of_unified {more : List Char} (blanks : Blanks (unifyLines cs) more) :
    ∃ rest, more = unifyLines rest ∧ Blanks cs rest := by
  obtain ⟨before, blank, unified⟩ := blanks
  induction before generalizing cs with
  | nil => exact ⟨cs, unified.symm, blanks_refl cs⟩
  | cons b before ih =>
      obtain ⟨first, others⟩ := List.forall_mem_cons.mp blank
      obtain ⟨rest, unified', stands⟩ := exists_of_unifyLines unified
      obtain ⟨last, same, behind⟩ := ih others unified'.symm
      refine ⟨last, same, ?_⟩
      rcases stands with rfl | ⟨-, ends⟩
      · exact behind.cons first
      · exact ends.trans behind

/-- No line ends within these characters. -/
def OnOneLine (token : List Char) : Prop := ∀ c ∈ token, c ≠ '\r' ∧ c ≠ '\n'

theorem OnOneLine.append {ds : List Char} (first : OnOneLine token) (second : OnOneLine ds) :
    OnOneLine (token ++ ds) :=
  List.forall_mem_append.mpr ⟨first, second⟩

theorem OnOneLine.cons {c : Char} (first : c ≠ '\r' ∧ c ≠ '\n') (others : OnOneLine token) :
    OnOneLine (c :: token) :=
  List.forall_mem_cons.mpr ⟨first, others⟩

theorem OnOneLine.unified (onOneLine : OnOneLine token) (rest : List Char) :
    unifyLines (token ++ rest) = token ++ unifyLines rest := by
  induction token with
  | nil => rfl
  | cons c token ih =>
      obtain ⟨first, others⟩ := List.forall_mem_cons.mp onOneLine
      rw [List.cons_append, unifyLines_cons first.1, ih others, List.cons_append]

theorem OnOneLine.of_unified {more : List Char} (onOneLine : OnOneLine token)
    (unified : unifyLines cs = token ++ more) : ∃ rest, more = unifyLines rest ∧ cs = token ++ rest := by
  induction token generalizing cs with
  | nil => exact ⟨cs, unified.symm, rfl⟩
  | cons c token ih =>
      obtain ⟨first, others⟩ := List.forall_mem_cons.mp onOneLine
      obtain ⟨rest, unified', stands⟩ := exists_of_unifyLines unified
      obtain ⟨last, same, rfl⟩ := ih others unified'.symm
      rcases stands with rfl | ⟨isFeed, -⟩
      · exact ⟨last, same, rfl⟩
      · exact absurd isFeed first.2

end Lines

section Tokens

variable {cs : List Char}

/-- Of given characters it can be evaluated that no line ends among them. -/
theorem onOneLine_of_all (all : cs.all (fun c => c != '\r' && c != '\n') = true) : OnOneLine cs := by
  intro c member
  have each := List.all_eq_true.mp all c member
  rwa [Bool.and_eq_true, bne_iff_ne, bne_iff_ne] at each

theorem onOneLine_of_digits (digits : ∀ c ∈ cs, c.isDigit = true) : OnOneLine cs := by
  intro c member
  have isDigit := digits c member
  constructor <;> rintro rfl <;> exact absurd isDigit (by decide)

theorem onOneLine_minusIf (negative : Bool) : OnOneLine (minusIf negative) := by
  cases negative <;> exact onOneLine_of_all (by decide)

theorem SpellsFraction.onOneLine {ds : List Char} (spelled : SpellsFraction cs ds) : OnOneLine cs := by
  cases spelled with
  | absent => exact List.forall_mem_nil _
  | given areDigits => exact .cons (by decide) (onOneLine_of_digits areDigits.digits)

theorem SpellsExponent.onOneLine {n : Int} (spelled : SpellsExponent cs n) : OnOneLine cs := by
  cases spelled with
  | absent => exact List.forall_mem_nil _
  | @given e sign ds isMark known areDigits =>
      have mark : e ≠ '\r' ∧ e ≠ '\n' := by
        simp only [List.mem_cons, List.not_mem_nil, or_false] at isMark
        rcases isMark with rfl | rfl <;> decide
      have isSign : OnOneLine sign := by
        simp only [List.mem_cons, List.not_mem_nil, or_false] at known
        rcases known with rfl | rfl | rfl <;> exact onOneLine_of_all (by decide)
      exact .cons mark (isSign.append (onOneLine_of_digits areDigits.digits))

theorem SpellsNumber.onOneLine {v : Document} (spelled : SpellsNumber cs v) : OnOneLine cs := by
  cases spelled with
  | whole negative isWhole => exact (onOneLine_minusIf negative).append (onOneLine_of_digits isWhole.digits)
  | decimal negative isWhole pointed raised =>
      exact (onOneLine_minusIf negative).append
        ((onOneLine_of_digits isWhole.digits).append (pointed.onOneLine.append raised.onOneLine))

theorem onOneLine_of_hex4? {digits : List Char} {n : Nat} (code : hex4? digits = some n) :
    OnOneLine digits := by
  have digit {c : Char} {x : Nat} (value : hexValue? c = some x) : c ≠ '\r' ∧ c ≠ '\n' := by
    constructor <;> rintro rfl <;> cases value
  unfold hex4? at code
  split at code
  · next a b c d =>
      simp only [Option.bind_eq_bind, Option.bind_eq_some_iff] at code
      obtain ⟨x, isX, y, isY, z, isZ, u, isU, -⟩ := code
      exact .cons (digit isX) (.cons (digit isY) (.cons (digit isZ) (.cons (digit isU) (List.forall_mem_nil _))))
  · cases code

theorem SpellsText.onOneLine {text : Points} (spelled : SpellsText cs text) : OnOneLine cs := by
  induction spelled with
  | nil => exact List.forall_mem_nil _
  | plain _ _ notControl _ ih =>
      refine .cons ⟨?_, ?_⟩ ih <;> rintro rfl <;> exact absurd notControl (by decide)
  | @short d c cs text known _ ih =>
      have letter : d ≠ '\r' ∧ d ≠ '\n' := by
        simp only [shortEscapes, List.mem_cons, Prod.mk.injEq, List.not_mem_nil, or_false] at known
        rcases known with h | h | h | h | h | h | h | h <;> obtain ⟨rfl, -⟩ := h <;> decide
      exact .cons (by decide) (.cons letter ih)
  | code isCode _ _ ih =>
      exact .cons (by decide) (.cons (by decide) ((onOneLine_of_hex4? isCode).append ih))
  | pair isCode _ isCode' _ _ ih =>
      exact .cons (by decide) (.cons (by decide) ((onOneLine_of_hex4? isCode).append
        (.cons (by decide) (.cons (by decide) ((onOneLine_of_hex4? isCode').append ih)))))

theorem onOneLine_word {spelling : String} {v : Document} (known : (spelling, v) ∈ words) :
    OnOneLine spelling.toList := by
  simp only [words, List.mem_cons, Prod.mk.injEq, List.not_mem_nil, or_false] at known
  rcases known with h | h | h | h | h | h <;> obtain ⟨rfl, -⟩ := h <;> exact onOneLine_of_all (by decide)

/-- A text with its quotes. -/
theorem SpellsText.onOneLine_quoted {text : Points} (spelled : SpellsText cs text) :
    OnOneLine ('"' :: (cs ++ ['"'])) :=
  .cons (by decide) (spelled.onOneLine.append (.cons (by decide) (List.forall_mem_nil _)))

end Tokens

section Values

/-- Texts that differ only in how their lines end: what is blank in one of them is so in the other, and what
stands on one line in it stands there too. -/
structure KeepsLines (Same : List Char → List Char → Prop) : Prop where
  blanks : ∀ {cs ds rest}, Same cs ds → Blanks cs rest → ∃ rest', Same rest rest' ∧ Blanks ds rest'
  token : ∀ {token rest ds}, OnOneLine token → Same (token ++ rest) ds →
    ∃ rest', Same rest rest' ∧ ds = token ++ rest'

theorem keepsLines_unified : KeepsLines fun cs ds => unifyLines cs = ds where
  blanks := by
    rintro cs _ rest rfl blanks
    exact ⟨_, rfl, blanks.unified⟩
  token := by
    rintro token rest _ onOneLine rfl
    exact ⟨_, rfl, onOneLine.unified rest⟩

theorem keepsLines_of_unified : KeepsLines fun cs ds => cs = unifyLines ds where
  blanks := by
    rintro _ ds rest rfl blanks
    exact blanks.of_unified
  token := by
    intro token rest ds onOneLine unified
    exact onOneLine.of_unified unified.symm

section Same

variable {Same : List Char → List Char → Prop} (keeps : KeepsLines Same)
include keeps

theorem KeepsLines.first {c : Char} {cs ds : List Char} (inLine : c ≠ '\r' ∧ c ≠ '\n')
    (same : Same (c :: cs) ds) : ∃ rest, Same cs rest ∧ ds = c :: rest := by
  have alone : OnOneLine [c] := .cons inLine (List.forall_mem_nil _)
  exact keeps.token alone same

theorem KeepsLines.quoted {content rest ds : List Char} {text : Points} (spelled : SpellsText content text)
    (same : Same ('"' :: (content ++ '"' :: rest)) ds) :
    ∃ rest', Same rest rest' ∧ ds = '"' :: (content ++ '"' :: rest') := by
  have parts (rest : List Char) : '"' :: (content ++ '"' :: rest) = '"' :: (content ++ ['"']) ++ rest := by
    rw [List.cons_append, List.append_assoc, List.singleton_append]
  rw [parts] at same
  obtain ⟨rest', same', rfl⟩ := keeps.token spelled.onOneLine_quoted same
  exact ⟨rest', same', (parts rest').symm⟩

/-- What stands before a mark is blank in both texts. -/
theorem KeepsLines.mark {c : Char} {cs ds rest : List Char} (inLine : c ≠ '\r' ∧ c ≠ '\n')
    (same : Same cs ds) (blanks : Blanks cs (c :: rest)) : ∃ rest', Same rest rest' ∧ Blanks ds (c :: rest') := by
  obtain ⟨next, same', blanks'⟩ := keeps.blanks same blanks
  obtain ⟨rest', same'', rfl⟩ := keeps.first inLine same'
  exact ⟨rest', same'', blanks'⟩

theorem SpellsKey.transfer {cs ds rest : List Char} {key : Points} (isKey : SpellsKey cs key rest)
    (same : Same cs ds) : ∃ rest', Same rest rest' ∧ SpellsKey ds key rest' := by
  obtain ⟨content, behind, next, before, spelled, colon, after⟩ := isKey
  obtain ⟨_, same₁, before'⟩ := keeps.blanks same before
  obtain ⟨behind', same₂, rfl⟩ := keeps.quoted spelled same₁
  obtain ⟨next', same₃, colon'⟩ := keeps.mark (by decide) same₂ colon
  obtain ⟨rest', same₄, after'⟩ := keeps.blanks same₃ after
  exact ⟨rest', same₄, content, behind', next', before', spelled, colon', after'⟩

/-- Each part of a text is spelled by the other one. -/
theorem Spells.transfer {cs ds rest : List Char} {part : Part} (spelled : Spells cs part rest)
    (same : Same cs ds) : ∃ rest', Same rest rest' ∧ Spells ds part rest' := by
  induction spelled generalizing ds with
  | word known =>
      obtain ⟨rest', same', rfl⟩ := keeps.token (onOneLine_word known) same
      exact ⟨rest', same', .word known⟩
  | number spelled =>
      obtain ⟨rest', same', rfl⟩ := keeps.token spelled.onOneLine same
      exact ⟨rest', same', .number spelled⟩
  | text spelled =>
      obtain ⟨rest', same', rfl⟩ := keeps.quoted spelled same
      exact ⟨rest', same', .text spelled⟩
  | emptyArray closes =>
      obtain ⟨next, same', rfl⟩ := keeps.first (by decide) same
      obtain ⟨rest', same'', closes'⟩ := keeps.mark (by decide) same' closes
      exact ⟨rest', same'', .emptyArray closes'⟩
  | array _ ih =>
      obtain ⟨next, same', rfl⟩ := keeps.first (by decide) same
      obtain ⟨rest', same'', items⟩ := ih same'
      exact ⟨rest', same'', .array items⟩
  | emptyObject closes =>
      obtain ⟨next, same', rfl⟩ := keeps.first (by decide) same
      obtain ⟨rest', same'', closes'⟩ := keeps.mark (by decide) same' closes
      exact ⟨rest', same'', .emptyObject closes'⟩
  | object _ ih =>
      obtain ⟨next, same', rfl⟩ := keeps.first (by decide) same
      obtain ⟨rest', same'', members⟩ := ih same'
      exact ⟨rest', same'', .object members⟩
  | lastItem before _ after ih =>
      obtain ⟨start, same₁, before'⟩ := keeps.blanks same before
      obtain ⟨stop, same₂, value⟩ := ih same₁
      obtain ⟨rest', same₃, after'⟩ := keeps.mark (by decide) same₂ after
      exact ⟨rest', same₃, .lastItem before' value after'⟩
  | nextItem before _ after _ ih ih' =>
      obtain ⟨start, same₁, before'⟩ := keeps.blanks same before
      obtain ⟨stop, same₂, value⟩ := ih same₁
      obtain ⟨more, same₃, after'⟩ := keeps.mark (by decide) same₂ after
      obtain ⟨rest', same₄, others⟩ := ih' same₃
      exact ⟨rest', same₄, .nextItem before' value after' others⟩
  | lastMember key _ after ih =>
      obtain ⟨start, same₁, key'⟩ := key.transfer keeps same
      obtain ⟨stop, same₂, value⟩ := ih same₁
      obtain ⟨rest', same₃, after'⟩ := keeps.mark (by decide) same₂ after
      exact ⟨rest', same₃, .lastMember key' value after'⟩
  | nextMember key _ after _ ih ih' =>
      obtain ⟨start, same₁, key'⟩ := key.transfer keeps same
      obtain ⟨stop, same₂, value⟩ := ih same₁
      obtain ⟨more, same₃, after'⟩ := keeps.mark (by decide) same₂ after
      obtain ⟨rest', same₄, others⟩ := ih' same₃
      exact ⟨rest', same₄, .nextMember key' value after' others⟩

theorem IsDocument.transfer {cs ds : List Char} {v : Document} (document : IsDocument cs v)
    (same : Same cs ds) (ends : ∀ rest, Same [] rest → rest = []) : IsDocument ds v := by
  obtain ⟨start, stop, before, spelled, after⟩ := document
  obtain ⟨start', same₁, before'⟩ := keeps.blanks same before
  obtain ⟨stop', same₂, spelled'⟩ := spelled.transfer keeps same₁
  obtain ⟨rest, same₃, after'⟩ := keeps.blanks same₂ after
  obtain rfl := ends rest same₃
  exact ⟨start', stop', before', spelled', after'⟩

end Same

theorem unifyLines_eq_nil {cs : List Char} (unified : [] = unifyLines cs) : cs = [] := by
  unfold unifyLines at unified
  split at unified
  · cases unified
  · cases unified
  · cases unified
  · rfl

/-- A text is a document of a value in whatever way its lines end. -/
theorem isDocument_unifyLines_iff {cs : List Char} {v : Document} :
    IsDocument (unifyLines cs) v ↔ IsDocument cs v := by
  constructor
  · intro document
    exact document.transfer keepsLines_of_unified rfl fun rest => unifyLines_eq_nil
  · intro document
    exact document.transfer keepsLines_unified rfl fun rest unified => by rw [← unified, unifyLines]

end Values

end SketchSurvey.Json
