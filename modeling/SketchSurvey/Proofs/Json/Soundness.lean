import Mathlib.Data.List.TakeDrop
import Mathlib.Data.List.TakeWhile
import SketchSurvey.Proofs.Json.Grammar

/-! What is read is spelled: where a reader gives a value, the text before the rest is a spelling of that
value. -/

set_option autoImplicit false

namespace SketchSurvey.Json

theorem blanks_refl (cs : List Char) : Blanks cs cs := ⟨[], nofun, rfl⟩

theorem Blanks.cons {c : Char} {cs rest : List Char} (blank : isSpace c = true) (blanks : Blanks cs rest) :
    Blanks (c :: cs) rest := by
  obtain ⟨before, blank', rfl⟩ := blanks
  exact ⟨c :: before, List.forall_mem_cons.mpr ⟨blank, blank'⟩, rfl⟩

theorem Blanks.trans {cs between rest : List Char} (before : Blanks cs between) (after : Blanks between rest) :
    Blanks cs rest := by
  obtain ⟨blanks, blank, rfl⟩ := before
  obtain ⟨more, blank', rfl⟩ := after
  exact ⟨blanks ++ more, List.forall_mem_append.mpr ⟨blank, blank'⟩, (List.append_assoc ..).symm⟩

theorem blanks_skipSpace (r : Rest) : Blanks r.chars r.skipSpace.chars := by
  suffices ∀ cs n, Blanks cs (Rest.skipSpace.go n cs).chars from this r.chars r.position
  intro cs
  induction cs with
  | nil => exact fun n => blanks_refl []
  | cons c cs ih =>
      intro n
      rw [Rest.skipSpace.go]
      split
      · next blank => exact (ih _).cons blank
      · exact blanks_refl _

section Numbers

theorem takeDigits_spec (cs : List Char) :
    cs = (takeDigits cs).1 ++ (takeDigits cs).2 ∧ ∀ c ∈ (takeDigits cs).1, c.isDigit = true := by
  rw [takeDigits, List.span_eq_takeWhile_dropWhile]
  exact ⟨List.takeWhile_append_dropWhile.symm, fun c member => List.mem_takeWhile_imp member⟩

theorem areDigits_of_takeDigits {cs ds rest : List Char} (taken : takeDigits cs = (ds, rest))
    (some' : ¬ ds.isEmpty = true) : cs = ds ++ rest ∧ AreDigits ds := by
  have spec := takeDigits_spec cs
  rw [taken] at spec
  exact ⟨spec.1, by simpa using some', spec.2⟩

/-- A digit that is none of the others is a zero. -/
theorem isDigit_of_bounds {c : Char} (bounds : ('1' ≤ c && c ≤ '9') = true) : c.isDigit = true ∧ c ≠ '0' := by
  simp only [Bool.and_eq_true, decide_eq_true_eq, Char.le_def] at bounds
  constructor
  · simp only [Char.isDigit, Bool.and_eq_true, decide_eq_true_eq, ge_iff_le]
    exact ⟨UInt32.le_trans (by decide) bounds.1, bounds.2⟩
  · rintro rfl
    exact absurd bounds.1 (by decide)

theorem isWhole_of_readWhole? {cs ds rest : List Char} (read : readWhole? cs = some (ds, rest)) :
    cs = ds ++ rest ∧ IsWhole ds := by
  unfold readWhole? at read
  split at read
  · obtain ⟨rfl, rfl⟩ := Prod.mk.inj (Option.some.inj read)
    exact ⟨rfl, ⟨List.cons_ne_nil _ _, List.forall_mem_singleton.mpr rfl⟩, fun _ => rfl⟩
  · next c more _ =>
      split at read
      · next bounds =>
          obtain ⟨isDigit, notZero⟩ := isDigit_of_bounds bounds
          have spec := takeDigits_spec (c :: more)
          rw [Option.some.inj read] at spec
          have taken := congrArg Prod.fst (Option.some.inj read)
          rw [takeDigits, List.span_eq_takeWhile_dropWhile, List.takeWhile_cons_of_pos isDigit] at taken
          obtain rfl := taken
          refine ⟨spec.1, ⟨List.cons_ne_nil _ _, spec.2⟩, fun zero => ?_⟩
          exact absurd (Option.some.inj zero) notZero
      · cases read
  · cases read

theorem readFraction?_spec {cs ds rest : List Char} (read : readFraction? cs = some (ds, rest)) :
    cs = '.' :: (ds ++ rest) ∧ AreDigits ds := by
  unfold readFraction? at read
  split at read
  · next more =>
      cases taken : takeDigits more with
      | mk digits after =>
          rw [taken] at read
          dsimp only at read
          split at read
          · cases read
          · next some' =>
              obtain ⟨rfl, rfl⟩ := Prod.mk.inj (Option.some.inj read)
              obtain ⟨rfl, areDigits⟩ := areDigits_of_takeDigits taken some'
              exact ⟨rfl, areDigits⟩
  · cases read

theorem readSign_spec (cs : List Char) : cs = minusIf (readSign cs).1 ++ (readSign cs).2 := by
  unfold readSign
  split <;> rfl

theorem readExponent?_spec {cs rest : List Char} {x : Exponent} (read : readExponent? cs = some (x, rest)) :
    ∃ power, cs = power ++ rest ∧ power ≠ [] ∧ SpellsExponent power x.value := by
  unfold readExponent? at read
  split at read
  · cases read
  · next e more =>
      split at read
      · next letter =>
          have isMark : e ∈ ['e', 'E'] := by simpa using letter
          split at read
          next negative afterSign signed =>
            -- the sign is a plus, or that of any number
            obtain ⟨sign, known, rfl, isNegative⟩ : ∃ sign, sign ∈ [[], ['+'], ['-']] ∧
                more = sign ++ afterSign ∧ (negative = true ↔ sign = ['-']) := by
              split at signed
              · cases signed
                exact ⟨['+'], by decide, rfl, by decide⟩
              · have parts := readSign_spec more
                rw [signed] at parts
                refine ⟨minusIf negative, ?_, parts, ?_⟩ <;> cases negative <;> decide
            split at read
            next digits after taken =>
              split at read
              · cases read
              · next some' =>
                  obtain ⟨rfl, rfl⟩ := Prod.mk.inj (Option.some.inj read)
                  obtain ⟨rfl, areDigits⟩ := areDigits_of_takeDigits taken some'
                  refine ⟨e :: (sign ++ digits), ?_, List.cons_ne_nil _ _, ?_⟩
                  · rw [List.cons_append, List.append_assoc]
                  · simpa [isNegative] using SpellsExponent.given isMark known areDigits
      · cases read

theorem spellsNumber_of_readNumber {r r' : Rest} {v : Document} (read : readNumber r = .ok (v, r')) :
    ∃ cs, r.chars = cs ++ r'.chars ∧ SpellsNumber cs v := by
  have signed := readSign_spec r.chars
  unfold readNumber at read
  cases sign : readSign r.chars with
  | mk negative cs =>
      rw [sign] at read signed
      dsimp only at read signed
      split at read
      · cases read
      · next whole afterWhole readWhole =>
          obtain ⟨rfl, isWhole⟩ := isWhole_of_readWhole? readWhole
          split at read
          · split at read
            · split at read
              · cases read
              · next few =>
                  cases read
                  refine ⟨minusIf negative ++ whole, ?_, .whole negative isWhole (Nat.not_lt.mp few)⟩
                  rw [signed, List.append_assoc]
            · next x afterPower raised =>
                cases read
                obtain ⟨power, rfl, given, spelled⟩ := readExponent?_spec raised
                refine ⟨minusIf negative ++ (whole ++ ([] ++ power)), ?_, ?_⟩
                · simp only [signed, List.nil_append, List.append_assoc]
                · have decimal := SpellsNumber.decimal negative isWhole .absent spelled given
                  simpa using decimal
          · next fraction afterFraction pointed =>
              obtain ⟨rfl, areDigits⟩ := readFraction?_spec pointed
              split at read
              · cases read
                refine ⟨minusIf negative ++ (whole ++ (('.' :: fraction) ++ [])), ?_, ?_⟩
                · simp [signed]
                · have decimal := SpellsNumber.decimal negative isWhole (.given areDigits) .absent (by simp)
                  simpa using decimal
              · next x afterPower raised =>
                  cases read
                  obtain ⟨power, rfl, given, spelled⟩ := readExponent?_spec raised
                  refine ⟨minusIf negative ++ (whole ++ (('.' :: fraction) ++ power)), ?_, ?_⟩
                  · simp [signed]
                  · exact .decimal negative isWhole (.given areDigits) spelled (by simp)

end Numbers

section Texts

/-- A reading of the rest of a text after `acc`. -/
def ReadsText (acc : Points) (cs : List Char) (s : Points) (rest : List Char) : Prop :=
  ∃ content text, cs = content ++ '"' :: rest ∧ SpellsText content text ∧ s = acc.reverse ++ text

variable {acc s : Points} {cs rest : List Char}

/-- A spelling of one more point before those that are read. -/
theorem ReadsText.step {n : Nat} (spelling : List Char) (reads : ReadsText (n :: acc) cs s rest)
    (spells : ∀ content text, cs = content ++ '"' :: rest → SpellsText content text →
      SpellsText (spelling ++ content) (n :: text)) :
    ReadsText acc (spelling ++ cs) s rest := by
  obtain ⟨content, text, rfl, spelled, rfl⟩ := reads
  refine ⟨spelling ++ content, n :: text, ?_, spells content text rfl spelled, ?_⟩
  · rw [List.append_assoc]
  · rw [List.reverse_cons, List.append_assoc, List.singleton_append]

theorem length_of_hex4? {digits : List Char} {n : Nat} (code : hex4? digits = some n) : digits.length = 4 := by
  unfold hex4? at code
  split at code
  · rfl
  · cases code

/-- The code of a second half, with a quote somewhere behind it. -/
theorem exists_low_of_startsLow {content rest : List Char} (startsLow : StartsLow content) :
    ∃ low l, content ++ '"' :: rest = '\\' :: 'u' :: low ∧ 5 ≤ low.length ∧
      hex4? (low.take 4) = some l ∧ isLowHalf l = true := by
  obtain ⟨digits, l, more, rfl, code, isLow⟩ := startsLow
  have four := length_of_hex4? code
  refine ⟨digits ++ (more ++ '"' :: rest), l, ?_, ?_, ?_, isLow⟩
  · simp only [List.cons_append, List.append_assoc]
  · simp only [List.length_append, List.length_cons]
    omega
  · rw [List.take_left' four, code]

/-- What is read after the mark of a code. -/
theorem readsText_code {opening fuel n : Nat} {more : List Char} {r : Rest}
    (read : readString opening (fuel + 1) n acc ('\\' :: 'u' :: more) = .ok (s, r))
    (others : ∀ {n acc cs}, readString opening fuel n acc cs = .ok (s, r) → ReadsText acc cs s r.chars) :
    ReadsText acc ('\\' :: 'u' :: more) s r.chars := by
  have split4 (cs : List Char) : cs = cs.take 4 ++ cs.drop 4 := (List.take_append_drop 4 cs).symm
  -- the code by itself, if no second half stands behind it
  have single {high : Nat} (code : hex4? (more.take 4) = some high)
      (single : ∀ content, more.drop 4 = content ++ '"' :: r.chars →
        ¬ (isHighHalf high = true ∧ StartsLow content))
      (read : readString opening fuel (n + 6) (high :: acc) (more.drop 4) = .ok (s, r)) :
      ReadsText acc ('\\' :: 'u' :: more) s r.chars := by
    have step := (others read).step ('\\' :: 'u' :: more.take 4) fun content text same spelled =>
      .code code (single content same) spelled
    rwa [List.cons_append, List.cons_append, ← split4] at step
  rw [readString, if_neg (by decide), if_pos rfl] at read
  split at read
  · cases read
  · split at read
    · cases read
    · next high code =>
        dsimp only at read
        split at read
        · next low behind =>
            split at read
            · next isPair =>
                obtain ⟨isHigh, long⟩ : isHighHalf high = true ∧ 5 ≤ low.length := by simpa using isPair
                split at read
                · cases read
                · next l code' =>
                    split at read
                    · next isLow =>
                        have step := (others read).step
                          ('\\' :: 'u' :: (more.take 4 ++ '\\' :: 'u' :: low.take 4))
                          fun content text _ spelled => by
                            simpa using SpellsText.pair code isHigh code' isLow spelled
                        have parts : more = more.take 4 ++ '\\' :: 'u' :: (low.take 4 ++ low.drop 4) := by
                          rw [← split4, ← behind, ← split4]
                        rw [parts]
                        simpa using step
                    · next notLow =>
                        refine single code (fun content same => ?_) read
                        rintro ⟨-, startsLow⟩
                        obtain ⟨low', l', starts, -, code'', isLow⟩ := exists_low_of_startsLow startsLow
                        rw [behind, starts] at same
                        cases same
                        rw [code', Option.some.injEq] at code''
                        exact notLow (code'' ▸ isLow)
            · next noPair =>
                refine single code (fun content same => ?_) read
                rintro ⟨isHigh, startsLow⟩
                obtain ⟨low', l', starts, long, -⟩ := exists_low_of_startsLow startsLow
                rw [behind, starts] at same
                cases same
                exact noPair (by simp [isHigh, long])
        · next noMark =>
            refine single code (fun content same => ?_) read
            rintro ⟨-, startsLow⟩
            obtain ⟨low, l, starts, -⟩ := exists_low_of_startsLow startsLow
            exact noMark low (same.trans starts)

theorem readsText_of_readString {opening fuel n : Nat} {r : Rest}
    (read : readString opening fuel n acc cs = .ok (s, r)) : ReadsText acc cs s r.chars := by
  induction fuel generalizing n acc cs with
  | zero => simp [readString, fail] at read
  | succ fuel ih =>
      have whole := read
      unfold readString at read
      split at read
      · cases read
      · cases read
      · next fuel' n' acc' c cs same =>
          obtain rfl := Nat.succ.inj same
          split at read
          · next isQuote =>
              subst isQuote
              cases read
              exact ⟨[], [], rfl, .nil, by rw [List.append_nil]⟩
          · next notQuote =>
              split at read
              · next isBackslash =>
                  subst isBackslash
                  split at read
                  · cases read
                  · exact readsText_code whole ih
                  · next d more notCode =>
                      dsimp only at read
                      split at read
                      · next c known =>
                          have isShort : (d, c) ∈ ('/', '/') :: shortEscapes := by
                            split at known <;> first | cases known; decide | cases known
                          exact (ih read).step ['\\', d] fun content text _ spelled =>
                            .short isShort spelled
                      · cases read
              · next notBackslash =>
                  split at read
                  · cases read
                  · next notControl =>
                      exact (ih read).step [c] fun content text _ spelled =>
                        .plain notQuote notBackslash (by omega) spelled

end Texts

section Values

/-- White space before what is within brackets belongs to it. -/
theorem Spells.items_of_blanks {cs start rest : List Char} {vs : List Document} (blanks : Blanks cs start)
    (spells : Spells start (.items vs) rest) : Spells cs (.items vs) rest := by
  cases spells with
  | lastItem before value after => exact .lastItem (blanks.trans before) value after
  | nextItem before value after more => exact .nextItem (blanks.trans before) value after more

theorem SpellsKey.of_blanks {cs start rest : List Char} {key : Points} (blanks : Blanks cs start)
    (spells : SpellsKey start key rest) : SpellsKey cs key rest := by
  obtain ⟨content, behind, next, before, others⟩ := spells
  exact ⟨content, behind, next, blanks.trans before, others⟩

theorem Spells.members_of_blanks {cs start rest : List Char} {ms : Members} (blanks : Blanks cs start)
    (spells : Spells start (.members ms) rest) : Spells cs (.members ms) rest := by
  cases spells with
  | lastMember key value after => exact .lastMember (key.of_blanks blanks) value after
  | nextMember key value after more => exact .nextMember (key.of_blanks blanks) value after more

theorem spells_of_readWord? {r r' : Rest} {v : Document} (read : readWord? r = some (v, r')) :
    Spells r.chars (.value v) r'.chars := by
  obtain ⟨⟨word, value⟩, member, found⟩ := List.exists_of_findSome?_eq_some read
  dsimp only at found
  split at found
  · next isPrefix =>
      obtain ⟨rfl, rfl⟩ := Prod.mk.inj (Option.some.inj found)
      obtain ⟨rest, starts⟩ := List.isPrefixOf_iff_prefix.mp isPrefix
      dsimp only
      rw [← starts, ← String.length_toList, List.drop_left]
      exact .word member
  · cases found

/-- A text behind its quote. -/
theorem exists_of_readString {opening fuel n : Nat} {cs : List Char} {s : Points} {r : Rest}
    (read : readString opening fuel n [] cs = .ok (s, r)) :
    ∃ content, cs = content ++ '"' :: r.chars ∧ SpellsText content s := by
  obtain ⟨content, text, same, spelled, rfl⟩ := readsText_of_readString read
  exact ⟨content, same, spelled⟩

/-- With some fuel, each of the three readers reads what is spelled. What is read within brackets comes after
what was read of it before. -/
structure ReadsSpelled (fuel : Nat) : Prop where
  value : ∀ {r v r'}, readValue fuel r = .ok (v, r') → Spells r.chars (.value v) r'.chars
  members : ∀ {r acc v r'}, readMembers fuel r acc = .ok (v, r') → ∃ ms : Members,
    v = .object (putAll acc ms) ∧ Spells r.chars (.members ms) r'.chars
  items : ∀ {r acc v r'}, readItems fuel r acc = .ok (v, r') → ∃ vs,
    v = .array (acc.reverse ++ vs) ∧ Spells r.chars (.items vs) r'.chars

section Steps

variable {fuel : Nat} {r r' : Rest} {v : Document} (within : ReadsSpelled fuel)
include within

theorem spells_of_readValue (read : readValue (fuel + 1) r = .ok (v, r')) :
    Spells r.chars (.value v) r'.chars := by
  rw [readValue] at read
  split at read
  · next cs starts =>
      cases done : readString r.position (cs.length + 1) (r.position + 1) [] cs with
      | error e => simp [done, bind, Except.bind] at read
      | ok found =>
          simp only [done, bind, Except.bind, pure, Except.pure] at read
          cases read
          obtain ⟨content, rfl, spelled⟩ := exists_of_readString done
          rw [starts]
          exact .text spelled
  · next cs starts =>
      have skipped := blanks_skipSpace ⟨r.position + 1, cs⟩
      dsimp only at read
      rw [starts]
      split at read
      · next rest closes =>
          cases read
          exact .emptyObject (closes ▸ skipped)
      · obtain ⟨ms, rfl, spelled⟩ := within.members read
        exact .object (spelled.members_of_blanks skipped)
  · next cs starts =>
      have skipped := blanks_skipSpace ⟨r.position + 1, cs⟩
      dsimp only at read
      rw [starts]
      split at read
      · next rest closes =>
          cases read
          exact .emptyArray (closes ▸ skipped)
      · obtain ⟨vs, rfl, spelled⟩ := within.items read
        exact .array (spelled.items_of_blanks skipped)
  · split at read
    · next found isFound =>
        cases read
        exact spells_of_readWord? isFound
    · obtain ⟨cs, starts, spelled⟩ := spellsNumber_of_readNumber read
      rw [starts]
      exact .number spelled

theorem spells_of_readMembers {acc : Members} (read : readMembers (fuel + 1) r acc = .ok (v, r')) :
    ∃ ms : Members, v = .object (putAll acc ms) ∧ Spells r.chars (.members ms) r'.chars := by
  rw [readMembers] at read
  split at read
  · next cs starts =>
      cases done : readString r.position (cs.length + 1) (r.position + 1) [] cs with
      | error e => simp [done, bind, Except.bind] at read
      | ok found =>
          obtain ⟨key, r₁⟩ := found
          obtain ⟨content, rfl, spelled⟩ := exists_of_readString done
          simp only [done, bind, Except.bind] at read
          split at read
          · next more colon =>
              have behind := blanks_skipSpace ⟨r₁.skipSpace.position + 1, more⟩
              have isKey : SpellsKey r.chars key _ :=
                ⟨content, r₁.chars, more, starts ▸ blanks_refl _, spelled,
                  colon ▸ blanks_skipSpace r₁, behind⟩
              cases given : readValue fuel (Rest.mk (r₁.skipSpace.position + 1) more).skipSpace with
              | error e => simp [given] at read
              | ok found =>
                  obtain ⟨value, r₂⟩ := found
                  have isValue := within.value given
                  have after := blanks_skipSpace r₂
                  simp only [given] at read
                  split at read
                  · next rest closes =>
                      cases read
                      exact ⟨[(key, value)], rfl, .lastMember isKey isValue (closes ▸ after)⟩
                  · next rest comma =>
                      obtain ⟨ms, rfl, others⟩ := within.members read
                      exact ⟨(key, value) :: ms, rfl, .nextMember isKey isValue (comma ▸ after)
                        (others.members_of_blanks (blanks_skipSpace _))⟩
                  · cases read
          · cases read
  · cases read

theorem spells_of_readItems {acc : List Document} (read : readItems (fuel + 1) r acc = .ok (v, r')) :
    ∃ vs, v = .array (acc.reverse ++ vs) ∧ Spells r.chars (.items vs) r'.chars := by
  rw [readItems] at read
  cases given : readValue fuel r with
  | error e => simp [given, bind, Except.bind] at read
  | ok found =>
      obtain ⟨value, r₁⟩ := found
      have isValue := within.value given
      have after := blanks_skipSpace r₁
      simp only [given, bind, Except.bind] at read
      split at read
      · next rest closes =>
          cases read
          exact ⟨[value], by rw [List.reverse_cons],
            .lastItem (blanks_refl _) isValue (closes ▸ after)⟩
      · next rest comma =>
          obtain ⟨vs, rfl, others⟩ := within.items read
          exact ⟨value :: vs, by rw [List.reverse_cons, List.append_assoc, List.singleton_append],
            .nextItem (blanks_refl _) isValue (comma ▸ after)
              (others.items_of_blanks (blanks_skipSpace _))⟩
      · cases read

end Steps

theorem readsSpelled (fuel : Nat) : ReadsSpelled fuel := by
  induction fuel with
  | zero =>
      constructor <;> intros <;> rename_i read
      · simp [readValue, fail] at read
      · simp [readMembers, fail] at read
      · simp [readItems, fail] at read
  | succ fuel within =>
      exact ⟨spells_of_readValue within, spells_of_readMembers within, spells_of_readItems within⟩

end Values

/-- A text that is read as a value is a document of that value. -/
theorem isDocument_of_parseDocument {text : String} {v : Document} (read : parseDocument text = .ok v) :
    IsDocument text.toList v := by
  unfold parseDocument at read
  split at read
  · cases read
  · cases done : readValue (2 * text.toList.length + 2) (Rest.mk 0 text.toList).skipSpace with
    | error e => simp [done, bind, Except.bind] at read
    | ok found =>
        simp only [done, bind, Except.bind, pure, Except.pure] at read
        split at read
        · next isDone =>
            rw [← Except.ok.inj read]
            exact ⟨_, _, blanks_skipSpace ⟨0, text.toList⟩, (readsSpelled _).value done,
              List.isEmpty_iff.mp isDone ▸ blanks_skipSpace _⟩
        · cases read

end SketchSurvey.Json
