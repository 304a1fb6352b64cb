import Mathlib.Data.List.TakeDrop
import Mathlib.Data.List.TakeWhile
import SketchSurvey.Proofs.Json.Soundness

/-! What is spelled is read: from the spelling of a value exactly that value is read, and what stands behind it
is left. So a text is read as a value if and only if it is a document of that value. -/

set_option autoImplicit false

namespace SketchSurvey.Json

open SketchSurvey.Number

/-- Wherever a text stands, `a` is read from it and `more` is left. -/
def Reads {α : Type} (read : Rest → Except ReadError (α × Rest)) (text : List Char) (a : α)
    (more : List Char) : Prop :=
  ∀ p, ∃ p', read ⟨p, text⟩ = .ok (a, ⟨p', more⟩)

section Texts

variable {opening fuel n : Nat} {acc : Points} {rest : List Char}

theorem readString_plain {c : Char} (notQuote : c ≠ '"') (notBackslash : c ≠ '\\')
    (notControl : 0x20 ≤ c.toNat) :
    readString opening (fuel + 1) n acc (c :: rest) =
      readString opening fuel (n + 1) (c.toNat :: acc) rest := by
  rw [readString.eq_def]
  dsimp only
  rw [if_neg notQuote, if_neg notBackslash, if_neg (by omega)]

theorem readString_short {d c : Char} (known : (d, c) ∈ ('/', '/') :: shortEscapes) :
    readString opening (fuel + 1) n acc ('\\' :: d :: rest) =
      readString opening fuel (n + 2) (c.toNat :: acc) rest := by
  simp only [shortEscapes, List.mem_cons, Prod.mk.injEq, List.not_mem_nil, or_false] at known
  rcases known with h | h | h | h | h | h | h | h <;> obtain ⟨rfl, rfl⟩ := h <;> rfl

/-- A code stands for itself, unless it is a first half and a second one follows. -/
theorem readString_code {digits : List Char} {code : Nat} (isCode : hex4? digits = some code)
    (more : rest ≠ []) (single : ∀ low, rest = '\\' :: 'u' :: low → isHighHalf code = true →
      ∃ l, hex4? (low.take 4) = some l ∧ ¬ isLowHalf l = true) :
    readString opening (fuel + 1) n acc ('\\' :: 'u' :: (digits ++ rest)) =
      readString opening fuel (n + 6) (code :: acc) rest := by
  have four := length_of_hex4? isCode
  have long : ¬ (digits ++ rest).length < 5 := by
    have := List.length_pos_iff.mpr more
    rw [List.length_append]
    omega
  rw [readString, if_neg (by decide), if_pos rfl]
  simp only [if_neg long, List.take_left' four, isCode, List.drop_left' four]
  split
  · next low =>
      split
      · next isPair =>
          obtain ⟨isHigh, -⟩ : isHighHalf code = true ∧ _ := by simpa using isPair
          obtain ⟨l, isCode', notLow⟩ := single low rfl isHigh
          simp only [isCode', if_neg notLow]
      · rfl
  · rfl

/-- Two codes that are the halves of a pair stand for one character. -/
theorem readString_pair {high low : List Char} {h l : Nat} (isCode : hex4? high = some h)
    (isHigh : isHighHalf h = true) (isCode' : hex4? low = some l) (isLow : isLowHalf l = true)
    (more : rest ≠ []) :
    readString opening (fuel + 1) n acc ('\\' :: 'u' :: (high ++ '\\' :: 'u' :: (low ++ rest))) =
      readString opening fuel (n + 12)
        ((0x10000 + (h - 0xD800) * 1024 + (l - 0xDC00)) :: acc) rest := by
  have four := length_of_hex4? isCode
  have four' := length_of_hex4? isCode'
  have some' := List.length_pos_iff.mpr more
  have long : (low ++ rest).length ≥ 5 := by
    rw [List.length_append]
    omega
  have longer : ¬ (high ++ '\\' :: 'u' :: (low ++ rest)).length < 5 := by
    simp only [List.length_append, List.length_cons]
    omega
  rw [readString, if_neg (by decide), if_pos rfl]
  simp only [if_neg longer, List.take_left' four, isCode, List.drop_left' four, isHigh, long, decide_true,
    Bool.and_self, if_true, List.take_left' four', isCode', isLow, List.drop_left' four']

/-- Where a spelled text goes on with the mark of a code, it goes on with a code. -/
theorem exists_code_of_spellsText {content low : List Char} {text : Points} (spelled : SpellsText content text)
    (starts : content ++ '"' :: rest = '\\' :: 'u' :: low) : ∃ digits l more,
      content = '\\' :: 'u' :: (digits ++ more) ∧ hex4? digits = some l ∧ hex4? (low.take 4) = some l := by
  have read {digits more : List Char} {l : Nat} (isCode : hex4? digits = some l)
      (starts : '\\' :: 'u' :: (digits ++ more) ++ '"' :: rest = '\\' :: 'u' :: low) :
      hex4? (low.take 4) = some l := by
    simp only [List.cons_append, List.append_assoc, List.cons.injEq, true_and] at starts
    rw [← starts, List.take_left' (length_of_hex4? isCode), isCode]
  cases spelled with
  | nil => exact absurd (List.cons.inj starts).1 (by decide)
  | plain notQuote notBackslash => exact absurd (List.cons.inj starts).1 notBackslash
  | short known =>
      obtain rfl := (List.cons.inj (List.cons.inj starts).2).1
      simp [shortEscapes] at known
  | code isCode _ _ => exact ⟨_, _, _, rfl, isCode, read isCode starts⟩
  | pair isCode _ _ _ _ => exact ⟨_, _, _, rfl, isCode, read isCode starts⟩

/-- A text is read from between its quotes. -/
theorem readString_of_spellsText {content : List Char} {text : Points} (spelled : SpellsText content text)
    (enough : content.length < fuel) :
    ∃ n', readString opening fuel n acc (content ++ '"' :: rest) = .ok (acc.reverse ++ text, ⟨n', rest⟩) := by
  induction spelled generalizing fuel n acc with
  | nil =>
      obtain ⟨fuel, rfl⟩ := Nat.exists_eq_succ_of_ne_zero (Nat.ne_zero_of_lt enough)
      exact ⟨n + 1, by rw [List.append_nil]; rfl⟩
  | @plain c cs text notQuote notBackslash notControl _ ih =>
      obtain ⟨fuel, rfl⟩ := Nat.exists_eq_succ_of_ne_zero (Nat.ne_zero_of_lt enough)
      obtain ⟨n', others⟩ := @ih fuel (n + 1) (c.toNat :: acc) (Nat.lt_of_succ_lt_succ enough)
      refine ⟨n', ?_⟩
      rw [List.cons_append, readString_plain notQuote notBackslash notControl, others,
        List.reverse_cons, List.append_assoc, List.singleton_append]
  | @short d c cs text known _ ih =>
      obtain ⟨fuel, rfl⟩ := Nat.exists_eq_succ_of_ne_zero (Nat.ne_zero_of_lt enough)
      simp only [List.length_cons] at enough
      obtain ⟨n', others⟩ := @ih fuel (n + 2) (c.toNat :: acc) (by omega)
      refine ⟨n', ?_⟩
      rw [List.cons_append, List.cons_append, readString_short known, others,
        List.reverse_cons, List.append_assoc, List.singleton_append]
  | @code digits cs text code isCode single spelled ih =>
      obtain ⟨fuel, rfl⟩ := Nat.exists_eq_succ_of_ne_zero (Nat.ne_zero_of_lt enough)
      simp only [List.length_cons, List.length_append] at enough
      obtain ⟨n', others⟩ := @ih fuel (n + 6) (code :: acc) (by omega)
      refine ⟨n', ?_⟩
      have single' : ∀ low, cs ++ '"' :: rest = '\\' :: 'u' :: low → isHighHalf code = true →
          ∃ l, hex4? (low.take 4) = some l ∧ ¬ isLowHalf l = true := by
        intro low starts isHigh
        obtain ⟨digits', l, more, same, isCode', read⟩ := exists_code_of_spellsText spelled starts
        exact ⟨l, read, fun isLow => single ⟨isHigh, digits', l, more, same, isCode', isLow⟩⟩
      rw [List.cons_append, List.cons_append, List.append_assoc, readString_code isCode (by simp) single',
        others, List.reverse_cons, List.append_assoc, List.singleton_append]
  | @pair high low cs text h l isCode isHigh isCode' isLow spelled ih =>
      obtain ⟨fuel, rfl⟩ := Nat.exists_eq_succ_of_ne_zero (Nat.ne_zero_of_lt enough)
      simp only [List.length_cons, List.length_append] at enough
      obtain ⟨n', others⟩ := @ih fuel (n + 12)
        ((0x10000 + (h - 0xD800) * 1024 + (l - 0xDC00)) :: acc) (by omega)
      refine ⟨n', ?_⟩
      simp only [List.cons_append, List.append_assoc]
      rw [readString_pair isCode isHigh isCode' isLow (by simp), others, List.reverse_cons,
        List.append_assoc, List.singleton_append]

end Texts

section Numbers

variable {ds rest : List Char}

/-- No digit stands here. -/
def NoDigit (rest : List Char) : Prop := ∀ c ∈ rest.head?, c.isDigit = false

/-- What may stand after a number: nothing that would go on with it. -/
def EndsNumber (rest : List Char) : Prop :=
  ∀ c ∈ rest.head?, c.isDigit = false ∧ c ≠ '.' ∧ c ≠ 'e' ∧ c ≠ 'E'

theorem EndsNumber.noDigit (ends : EndsNumber rest) : NoDigit rest := fun c isHead => (ends c isHead).1

theorem EndsNumber.noPoint (ends : EndsNumber rest) : ∀ c ∈ rest.head?, c ≠ '.' :=
  fun c isHead => (ends c isHead).2.1

theorem takeDigits_append (digits : ∀ c ∈ ds, c.isDigit = true) (stops : NoDigit rest) :
    takeDigits (ds ++ rest) = (ds, rest) := by
  rw [takeDigits, List.span_eq_takeWhile_dropWhile, List.takeWhile_append_of_pos digits,
    List.dropWhile_append_of_pos digits]
  cases rest with
  | nil => rw [List.takeWhile_nil, List.dropWhile_nil, List.append_nil]
  | cons c cs =>
      have stops : ¬ c.isDigit = true := by simp [stops c rfl]
      rw [List.takeWhile_cons_of_neg stops, List.dropWhile_cons_of_neg stops, List.append_nil]

theorem AreDigits.exists_cons (areDigits : AreDigits ds) : ∃ d more, ds = d :: more ∧ d.isDigit = true := by
  obtain ⟨d, more, rfl⟩ := List.exists_cons_of_ne_nil areDigits.nonempty
  exact ⟨d, more, rfl, areDigits.digits d List.mem_cons_self⟩

theorem ne_of_isDigit {c d : Char} (isDigit : d.isDigit = true) (other : c.isDigit = false) : d ≠ c := by
  rintro rfl
  exact absurd isDigit (by simp [other])

theorem bounds_of_isDigit {c : Char} (isDigit : c.isDigit = true) (notZero : c ≠ '0') :
    ('1' ≤ c && c ≤ '9') = true := by
  simp only [Char.isDigit, Bool.and_eq_true, decide_eq_true_eq, ge_iff_le, UInt32.le_iff_toNat_le] at isDigit
  have other : c.val.toNat ≠ 48 := fun same => notZero (Char.ext (UInt32.toNat_inj.mp same))
  simp only [Bool.and_eq_true, decide_eq_true_eq, Char.le_def, UInt32.le_iff_toNat_le]
  have low : 48 ≤ c.val.toNat := isDigit.1
  exact ⟨by change 49 ≤ c.val.toNat; omega, isDigit.2⟩

theorem readSign_minusIf (negative : Bool) {cs : List Char} (noMinus : ∀ c ∈ cs.head?, c ≠ '-') :
    readSign (minusIf negative ++ cs) = (negative, cs) := by
  cases negative with
  | true => rfl
  | false =>
      rw [minusIf, if_neg Bool.false_ne_true, List.nil_append]
      unfold readSign
      split
      · exact absurd rfl (noMinus '-' rfl)
      · rfl

theorem IsWhole.noMinus (isWhole : IsWhole ds) (rest : List Char) : ∀ c ∈ (ds ++ rest).head?, c ≠ '-' := by
  obtain ⟨d, more, rfl, isDigit⟩ := isWhole.exists_cons
  rintro c ⟨⟩
  exact ne_of_isDigit isDigit rfl

theorem readWhole?_append (isWhole : IsWhole ds) (stops : NoDigit rest) :
    readWhole? (ds ++ rest) = some (ds, rest) := by
  obtain ⟨d, more, rfl, isDigit⟩ := isWhole.exists_cons
  have taken := takeDigits_append isWhole.digits stops
  rw [List.cons_append] at taken ⊢
  unfold readWhole?
  split
  · next same =>
      obtain ⟨rfl, rfl⟩ := List.cons.inj same
      obtain rfl := (List.cons.inj (isWhole.first rfl)).2
      rfl
  · next c cs notZero same =>
      obtain ⟨rfl, rfl⟩ := List.cons.inj same
      have bounds := bounds_of_isDigit isDigit notZero
      rw [if_pos bounds, taken]
  · next same => cases same

theorem readFraction?_of_no_point (noPoint : ∀ c ∈ rest.head?, c ≠ '.') : readFraction? rest = none := by
  unfold readFraction?
  split
  · exact absurd rfl (noPoint '.' rfl)
  · rfl

theorem readFraction?_point (areDigits : AreDigits ds) (stops : NoDigit rest) :
    readFraction? ('.' :: (ds ++ rest)) = some (ds, rest) := by
  have some' : ¬ ds.isEmpty = true := by simp [areDigits.nonempty]
  simp only [readFraction?, takeDigits_append areDigits.digits stops, if_neg some']

theorem readExponent?_of_ends (ends : EndsNumber rest) : readExponent? rest = none := by
  cases rest with
  | nil => rfl
  | cons c cs =>
      have letters : ¬ (decide (c = 'e') || decide (c = 'E')) = true := by
        simp [(ends c rfl).2.2.1, (ends c rfl).2.2.2]
      unfold readExponent?
      exact if_neg letters

theorem readExponent?_power {power : List Char} {n : Int} (spelled : SpellsExponent power n)
    (given : power ≠ []) (stops : NoDigit rest) :
    ∃ width, readExponent? (power ++ rest) = some (⟨n, width⟩, rest) := by
  cases spelled with
  | absent => exact absurd rfl given
  | @given e sign ds isMark known areDigits =>
      have letter : (decide (e = 'e') || decide (e = 'E')) = true := by simpa using isMark
      have some' : ¬ ds.isEmpty = true := by simp [areDigits.nonempty]
      have taken := takeDigits_append areDigits.digits stops
      obtain ⟨d, more, rfl, isDigit⟩ := areDigits.exists_cons
      have noPlus := ne_of_isDigit (c := '+') isDigit rfl
      have noMinus : ∀ c ∈ (d :: more ++ rest).head?, c ≠ '-' := by
        rintro c ⟨⟩
        exact ne_of_isDigit isDigit rfl
      have unsigned := readSign_minusIf false noMinus
      rw [minusIf, if_neg Bool.false_ne_true, List.nil_append] at unsigned
      simp only [List.mem_cons, List.not_mem_nil, or_false] at known
      rw [List.cons_append, List.append_assoc]
      unfold readExponent?
      simp only [if_pos letter]
      rcases known with rfl | rfl | rfl
      · rw [List.nil_append]
        split
        · next same => exact absurd (List.cons.inj same).1 noPlus
        · simp only [unsigned, taken, if_neg some']
          exact ⟨_, rfl⟩
      · split
        · next behind same =>
            obtain rfl : d :: more ++ rest = behind := (List.cons.inj same).2
            simp only [taken, if_neg some']
            exact ⟨_, rfl⟩
        · next noPlus' => exact absurd rfl (noPlus' _)
      · have negative : readSign (['-'] ++ (d :: more ++ rest)) = (true, d :: more ++ rest) := rfl
        split
        · next same => exact absurd (List.cons.inj same).1 (by decide)
        · simp only [negative, taken, if_neg some']
          exact ⟨_, rfl⟩

theorem SpellsExponent.starts {power : List Char} {n : Int} (spelled : SpellsExponent power n)
    (ends : EndsNumber rest) : ∀ c ∈ (power ++ rest).head?, c.isDigit = false ∧ c ≠ '.' := by
  cases spelled with
  | absent => exact fun c isHead => ⟨(ends c isHead).1, (ends c isHead).2.1⟩
  | given isMark =>
      simp only [List.mem_cons, List.not_mem_nil, or_false] at isMark
      rintro c ⟨⟩
      rcases isMark with rfl | rfl <;> decide

/-- A number is read from its spelling, if nothing behind it goes on with it. -/
theorem readNumber_of_spells {cs : List Char} {v : Document} (spelled : SpellsNumber cs v)
    (ends : EndsNumber rest) : Reads readNumber (cs ++ rest) v rest := by
  intro p
  cases spelled with
  | whole negative isWhole few =>
      have noMinus : ∀ c ∈ (_ ++ rest).head?, c ≠ '-' := isWhole.noMinus rest
      rw [readNumber, List.append_assoc, readSign_minusIf negative noMinus]
      simp only [readWhole?_append isWhole ends.noDigit, readFraction?_of_no_point ends.noPoint,
        readExponent?_of_ends ends, if_neg (Nat.not_lt.mpr few)]
      exact ⟨_, rfl⟩
  | @decimal ds fraction point power n negative isWhole pointed raised given =>
      have stops : NoDigit (power ++ rest) := fun c isHead => (raised.starts ends c isHead).1
      have stops' : NoDigit (point ++ (power ++ rest)) := by
        cases pointed with
        | absent => exact stops
        | given => rintro c ⟨⟩; rfl
      rw [readNumber]
      simp only [List.append_assoc, readSign_minusIf negative (isWhole.noMinus _),
        readWhole?_append isWhole stops']
      cases pointed with
      | absent =>
          have noPoint := readFraction?_of_no_point fun c isHead => (raised.starts ends c isHead).2
          obtain ⟨width, power'⟩ := readExponent?_power raised given ends.noDigit
          have noPlaces : n - (([] : List Char).length : Int) = n := Int.sub_zero n
          simp only [List.nil_append, noPoint, power', List.append_nil, noPlaces]
          exact ⟨_, rfl⟩
      | @given fraction areDigits =>
          simp only [List.cons_append, readFraction?_point areDigits stops]
          cases raised with
          | absent =>
              simp only [List.nil_append, readExponent?_of_ends ends, Int.zero_sub]
              exact ⟨_, rfl⟩
          | given isMark known areDigits' =>
              obtain ⟨width, power'⟩ := readExponent?_power (.given isMark known areDigits')
                (List.cons_ne_nil _ _) ends.noDigit
              simp only [power']
              exact ⟨_, rfl⟩

end Numbers

section Starts

variable {cs rest : List Char} {v : Document}

/-- How the text of a value can start: neither with white space, nor as the end of an array or a mark. -/
structure StartsValue (c : Char) : Prop where
  noSpace : isSpace c = false
  notClosing : c ≠ ']'
  notMark : c ≠ '\uFEFF'

instance (c : Char) : Decidable (StartsValue c) :=
  decidable_of_iff (isSpace c = false ∧ c ≠ ']' ∧ c ≠ '\uFEFF')
    ⟨fun ⟨h₁, h₂, h₃⟩ => ⟨h₁, h₂, h₃⟩, fun ⟨h₁, h₂, h₃⟩ => ⟨h₁, h₂, h₃⟩⟩

theorem startsValue_of_isDigit {d : Char} (isDigit : d.isDigit = true) : StartsValue d where
  noSpace := by
    have other {c : Char} (noDigit : c.isDigit = false) : d ≠ c := ne_of_isDigit isDigit noDigit
    simp only [isSpace, Bool.or_eq_false_iff, beq_eq_false_iff_ne]
    exact ⟨⟨⟨other rfl, other rfl⟩, other rfl⟩, other rfl⟩
  notClosing := ne_of_isDigit isDigit rfl
  notMark := ne_of_isDigit isDigit rfl

/-- A number starts with a digit, behind its sign. -/
theorem SpellsNumber.exists_digit (spelled : SpellsNumber cs v) :
    ∃ negative d more, cs = minusIf negative ++ d :: more ∧ d.isDigit = true := by
  cases spelled with
  | whole negative isWhole =>
      obtain ⟨d, more, rfl, isDigit⟩ := isWhole.exists_cons
      exact ⟨negative, d, more, rfl, isDigit⟩
  | decimal negative isWhole =>
      obtain ⟨d, more, rfl, isDigit⟩ := isWhole.exists_cons
      exact ⟨negative, d, _, rfl, isDigit⟩

theorem Spells.exists_cons (spelled : Spells cs (.value v) rest) :
    ∃ c more, cs = c :: more ∧ StartsValue c := by
  cases spelled with
  | word known =>
      simp only [words, List.mem_cons, Prod.mk.injEq, List.not_mem_nil, or_false] at known
      rcases known with h | h | h | h | h | h <;> obtain ⟨rfl, rfl⟩ := h <;> exact ⟨_, _, rfl, by decide⟩
  | number spelled =>
      obtain ⟨negative, d, more, rfl, isDigit⟩ := spelled.exists_digit
      cases negative with
      | true => exact ⟨_, _, rfl, by decide⟩
      | false => exact ⟨_, _, rfl, startsValue_of_isDigit isDigit⟩
  | text | emptyArray | array | emptyObject | object => exact ⟨_, _, rfl, by decide⟩

theorem Spells.noSpace (spelled : Spells cs (.value v) rest) : ∀ c ∈ cs.head?, isSpace c = false := by
  obtain ⟨c, more, rfl, starts⟩ := spelled.exists_cons
  rintro d ⟨⟩
  exact starts.noSpace

theorem Blanks.length_le {start : List Char} (blanks : Blanks cs start) : start.length ≤ cs.length := by
  obtain ⟨before, -, rfl⟩ := blanks
  rw [List.length_append]
  exact Nat.le_add_left ..

theorem skipSpace_append {blanks : List Char} (p : Nat) (blank : ∀ c ∈ blanks, isSpace c = true)
    (stops : ∀ c ∈ cs.head?, isSpace c = false) :
    ∃ p', (Rest.mk p (blanks ++ cs)).skipSpace = ⟨p', cs⟩ := by
  suffices ∀ n, ∃ p', Rest.skipSpace.go n (blanks ++ cs) = ⟨p', cs⟩ from this p
  induction blanks with
  | nil =>
      intro n
      cases cs with
      | nil => exact ⟨n, rfl⟩
      | cons c cs =>
          refine ⟨n, ?_⟩
          rw [List.nil_append, Rest.skipSpace.go, if_neg (by simp [stops c rfl])]
  | cons b blanks ih =>
      intro n
      rw [List.cons_append, Rest.skipSpace.go, if_pos (blank b List.mem_cons_self)]
      exact ih (fun c member => blank c (List.mem_cons_of_mem _ member)) (n + 1)

theorem Blanks.skipped {start : List Char} (blanks : Blanks cs start)
    (stops : ∀ c ∈ start.head?, isSpace c = false) (p : Nat) :
    ∃ p', (Rest.mk p cs).skipSpace = ⟨p', start⟩ := by
  obtain ⟨before, blank, rfl⟩ := blanks
  exact skipSpace_append p blank stops

/-- A number ends before white space, and before what ends there. -/
theorem Blanks.endsNumber {stop : List Char} (blanks : Blanks stop rest) (ends : EndsNumber rest) :
    EndsNumber stop := by
  obtain ⟨before, blank, rfl⟩ := blanks
  cases before with
  | nil => exact ends
  | cons b before =>
      rintro c ⟨⟩
      have space := blank b List.mem_cons_self
      simp only [isSpace, Bool.or_eq_true, beq_iff_eq] at space
      rcases space with ((rfl | rfl) | rfl) | rfl <;> decide

theorem endsNumber_bracket {c : Char} (isBracket : c ∈ [',', ']', '\x7d']) (rest : List Char) :
    EndsNumber (c :: rest) := by
  rintro d ⟨⟩
  simp only [List.mem_cons, List.not_mem_nil, or_false] at isBracket
  rcases isBracket with rfl | rfl | rfl <;> decide

theorem SpellsKey.length_lt {key : Points} (isKey : SpellsKey cs key rest) : rest.length < cs.length := by
  obtain ⟨content, behind, next, before, -, colon, after⟩ := isKey
  have := before.length_le
  have := colon.length_le
  have := after.length_le
  simp only [List.length_cons, List.length_append] at *
  omega

/-- The text of a part is not empty. -/
theorem Spells.length_lt {part : Part} (spelled : Spells cs part rest) : rest.length < cs.length := by
  induction spelled with
  | @word spelling v rest known =>
      have some' : 0 < spelling.toList.length := by
        simp only [words, List.mem_cons, Prod.mk.injEq, List.not_mem_nil, or_false] at known
        rcases known with h | h | h | h | h | h <;> obtain ⟨rfl, rfl⟩ := h <;> decide
      rw [List.length_append]
      omega
  | number spelled =>
      obtain ⟨negative, d, more, rfl, -⟩ := spelled.exists_digit
      simp only [List.length_append, List.length_cons]
      omega
  | text =>
      simp only [List.length_cons, List.length_append]
      omega
  | emptyArray closes | emptyObject closes =>
      have := closes.length_le
      simp only [List.length_cons] at this ⊢
      omega
  | array _ ih | object _ ih => exact Nat.lt_succ_of_lt ih
  | lastItem before _ after ih =>
      have := before.length_le
      have := after.length_le
      simp only [List.length_cons] at this
      omega
  | nextItem before _ after _ ih ih' =>
      have := before.length_le
      have := after.length_le
      simp only [List.length_cons] at this
      omega
  | lastMember key _ after ih =>
      have := key.length_lt
      have := after.length_le
      simp only [List.length_cons] at this
      omega
  | nextMember key _ after _ ih ih' =>
      have := key.length_lt
      have := after.length_le
      simp only [List.length_cons] at this
      omega

end Starts

section Values

variable {fuel : Nat} {cs rest : List Char} {v : Document}

/-- What does not start as a text, an object or an array is a word or a number. -/
theorem readValue_other {r : Rest} (other : ∀ c ∈ r.chars.head?, c ≠ '"' ∧ c ≠ '\x7b' ∧ c ≠ '[') :
    readValue (fuel + 1) r = match readWord? r with
      | some found => .ok found
      | none => readNumber r := by
  rw [readValue]
  split
  · next same => exact absurd rfl (other '"' (by rw [same]; rfl)).1
  · next same => exact absurd rfl (other '\x7b' (by rw [same]; rfl)).2.1
  · next same => exact absurd rfl (other '[' (by rw [same]; rfl)).2.2
  · rfl

theorem readValue_word {spelling : String} (known : (spelling, v) ∈ words) :
    Reads (readValue (fuel + 1)) (spelling.toList ++ rest) v rest := by
  intro p
  refine ⟨p + spelling.length, ?_⟩
  simp only [words, List.mem_cons, Prod.mk.injEq, List.not_mem_nil, or_false] at known
  rcases known with h | h | h | h | h | h <;> obtain ⟨rfl, rfl⟩ := h <;>
    exact readValue_other (by rintro c ⟨⟩; decide)

theorem readWord?_number {p : Nat} (spelled : SpellsNumber cs v) : readWord? ⟨p, cs ++ rest⟩ = none := by
  obtain ⟨negative, d, more, rfl, isDigit⟩ := spelled.exists_digit
  have other : ∀ c ∈ ['n', 't', 'f', 'N', 'I', '-'], c ≠ d := by
    rintro c known rfl
    simp only [List.mem_cons, List.not_mem_nil, or_false] at known
    rcases known with rfl | rfl | rfl | rfl | rfl | rfl <;> exact absurd isDigit (by decide)
  simp only [List.forall_mem_cons] at other
  rw [readWord?, List.findSome?_eq_none_iff]
  intro word member
  refine if_neg ?_
  simp only [words, List.mem_cons, List.not_mem_nil, or_false] at member
  cases negative with
  | true => rcases member with rfl | rfl | rfl | rfl | rfl | rfl <;> simp [minusIf, other]
  | false => rcases member with rfl | rfl | rfl | rfl | rfl | rfl <;> simp [minusIf, other]

theorem readValue_number (spelled : SpellsNumber cs v) (ends : EndsNumber rest) :
    Reads (readValue (fuel + 1)) (cs ++ rest) v rest := by
  intro p
  obtain ⟨p', read⟩ := readNumber_of_spells spelled ends p
  refine ⟨p', ?_⟩
  have other : ∀ c ∈ (cs ++ rest).head?, c ≠ '"' ∧ c ≠ '\x7b' ∧ c ≠ '[' := by
    obtain ⟨negative, d, more, rfl, isDigit⟩ := spelled.exists_digit
    cases negative with
    | true =>
        rintro c ⟨⟩
        decide
    | false =>
        rintro c ⟨⟩
        exact ⟨ne_of_isDigit isDigit rfl, ne_of_isDigit isDigit rfl, ne_of_isDigit isDigit rfl⟩
  rw [readValue_other other, readWord?_number spelled]
  exact read

theorem readValue_text {content : List Char} {text : Points} (spelled : SpellsText content text) :
    Reads (readValue (fuel + 1)) ('"' :: (content ++ '"' :: rest)) (.string text) rest := by
  intro p
  have enough : content.length < (content ++ '"' :: rest).length + 1 := by
    rw [List.length_append]
    omega
  obtain ⟨p', read⟩ := @readString_of_spellsText p _ (p + 1) [] rest _ _ spelled enough
  refine ⟨p', ?_⟩
  rw [readValue]
  change (readString p (List.length _ + 1) (p + 1) [] _ >>= _) = _
  rw [read]
  rfl

/-- A part is read from its spelling, if the fuel is more than twice as much as the text is long. Numbers go on
as long as they can, so a value must end with its text. -/
def Part.IsReadFrom (cs : List Char) (part : Part) (rest : List Char) : Prop :=
  match part with
  | .value v => ∀ fuel, 2 * cs.length < fuel → EndsNumber rest → Reads (readValue fuel) cs v rest
  | .items vs => ∀ fuel acc, 2 * cs.length + 1 < fuel →
      Reads (fun r => readItems fuel r.skipSpace acc) cs (.array (acc.reverse ++ vs)) rest
  | .members ms => ∀ fuel acc, 2 * cs.length + 1 < fuel →
      Reads (fun r => readMembers fuel r.skipSpace acc) cs
        (.object (putAll acc ms)) rest

section Items

variable {start stop more : List Char} {vs : List Document} {acc : List Document}

theorem Spells.head_items (spelled : Spells cs (.items vs) rest) :
    ∃ start c, Blanks cs (c :: start) ∧ StartsValue c := by
  cases spelled with
  | lastItem before value | nextItem before value =>
      obtain ⟨c, more, rfl, starts⟩ := value.exists_cons
      exact ⟨more, c, before, starts⟩

theorem readValue_array (spelled : Spells cs (.items vs) rest)
    (items : Reads (fun r => readItems fuel r.skipSpace []) cs (.array vs) rest) :
    Reads (readValue (fuel + 1)) ('[' :: cs) (.array vs) rest := by
  intro p
  obtain ⟨start, c, before, starts⟩ := spelled.head_items
  obtain ⟨p₁, skipped⟩ := before.skipped (by rintro d ⟨⟩; exact starts.noSpace) (p + 1)
  obtain ⟨p₂, read⟩ := items (p + 1)
  dsimp only at read
  rw [skipped] at read
  refine ⟨p₂, ?_⟩
  simp only [readValue, skipped]
  split
  · next same => exact absurd (List.cons.inj same).1 starts.notClosing
  · exact read

theorem readItems_last (before : Blanks cs start) (noSpace : ∀ c ∈ start.head?, isSpace c = false)
    (value : Reads (readValue fuel) start v stop) (after : Blanks stop (']' :: rest)) :
    Reads (fun r => readItems (fuel + 1) r.skipSpace acc) cs (.array (acc.reverse ++ [v])) rest := by
  intro p
  obtain ⟨p₁, skipped⟩ := before.skipped noSpace p
  obtain ⟨p₂, read⟩ := value p₁
  obtain ⟨p₃, skipped'⟩ := after.skipped (by rintro c ⟨⟩; rfl) p₂
  refine ⟨p₃ + 1, ?_⟩
  dsimp only
  rw [skipped, readItems, read]
  dsimp only [bind, Except.bind]
  rw [skipped', List.reverse_cons]
  rfl

theorem readItems_next {u : Document} (before : Blanks cs start)
    (noSpace : ∀ c ∈ start.head?, isSpace c = false) (value : Reads (readValue fuel) start v stop)
    (after : Blanks stop (',' :: more))
    (others : Reads (fun r => readItems fuel r.skipSpace (v :: acc)) more u rest) :
    Reads (fun r => readItems (fuel + 1) r.skipSpace acc) cs u rest := by
  intro p
  obtain ⟨p₁, skipped⟩ := before.skipped noSpace p
  obtain ⟨p₂, read⟩ := value p₁
  obtain ⟨p₃, skipped'⟩ := after.skipped (by rintro c ⟨⟩; rfl) p₂
  obtain ⟨p₄, others⟩ := others (p₃ + 1)
  refine ⟨p₄, ?_⟩
  dsimp only
  rw [skipped, readItems, read]
  dsimp only [bind, Except.bind]
  rw [skipped']
  exact others

end Items

section Members

variable {start stop more : List Char} {ms acc : Members} {key : Points}

theorem readValue_object (spelled : Spells cs (.members ms) rest)
    (members : Reads (fun r => readMembers fuel r.skipSpace []) cs v rest) :
    Reads (readValue (fuel + 1)) ('\x7b' :: cs) v rest := by
  intro p
  obtain ⟨start, before⟩ : ∃ start, Blanks cs ('"' :: start) := by
    cases spelled with
    | lastMember isKey | nextMember isKey =>
        obtain ⟨content, behind, next, before, -⟩ := isKey
        exact ⟨_, before⟩
  obtain ⟨p₁, skipped⟩ := before.skipped (by rintro d ⟨⟩; rfl) (p + 1)
  obtain ⟨p₂, read⟩ := members (p + 1)
  dsimp only at read
  rw [skipped] at read
  refine ⟨p₂, ?_⟩
  simp only [readValue, skipped]
  exact read

/-- A key and its value are read, and then what follows them. -/
theorem readMembers_member (acc : Members) (isKey : SpellsKey cs key start)
    (noSpace : ∀ c ∈ start.head?, isSpace c = false) (value : Reads (readValue fuel) start v stop) (p : Nat) :
    ∃ p', readMembers (fuel + 1) (Rest.mk p cs).skipSpace acc =
      let r := (Rest.mk p' stop).skipSpace
      match r.chars with
      | '\x7d' :: cs => .ok (.object (put acc key v), ⟨r.position + 1, cs⟩)
      | ',' :: cs => readMembers fuel (Rest.mk (r.position + 1) cs).skipSpace (put acc key v)
      | _ => fail .comma r.position := by
  obtain ⟨content, behind, next, before, spelled, colon, after⟩ := isKey
  obtain ⟨p₁, skipped⟩ := before.skipped (by rintro c ⟨⟩; rfl) p
  have enough : content.length < (content ++ '"' :: behind).length + 1 := by
    rw [List.length_append]
    omega
  obtain ⟨p₂, read⟩ := @readString_of_spellsText p₁ _ (p₁ + 1) [] behind _ _ spelled enough
  obtain ⟨p₃, skipped'⟩ := colon.skipped (by rintro c ⟨⟩; rfl) p₂
  obtain ⟨p₄, skipped''⟩ := after.skipped noSpace (p₃ + 1)
  obtain ⟨p₅, value⟩ := value p₄
  refine ⟨p₅, ?_⟩
  rw [skipped, readMembers]
  change (readString p₁ (List.length _ + 1) (p₁ + 1) [] _ >>= _) = _
  rw [read]
  dsimp only [bind, Except.bind]
  rw [skipped']
  change (readValue fuel (Rest.mk (p₃ + 1) next).skipSpace >>= _) = _
  rw [skipped'', value]
  rfl

theorem readMembers_last (isKey : SpellsKey cs key start) (noSpace : ∀ c ∈ start.head?, isSpace c = false)
    (value : Reads (readValue fuel) start v stop) (after : Blanks stop ('\x7d' :: rest)) :
    Reads (fun r => readMembers (fuel + 1) r.skipSpace acc) cs (.object (put acc key v)) rest := by
  intro p
  obtain ⟨p₁, member⟩ := readMembers_member acc isKey noSpace value p
  obtain ⟨p₂, skipped⟩ := after.skipped (by rintro c ⟨⟩; rfl) p₁
  refine ⟨p₂ + 1, member.trans ?_⟩
  rw [skipped]
  rfl

theorem readMembers_next {u : Document} (isKey : SpellsKey cs key start)
    (noSpace : ∀ c ∈ start.head?, isSpace c = false) (value : Reads (readValue fuel) start v stop)
    (after : Blanks stop (',' :: more))
    (others : Reads (fun r => readMembers fuel r.skipSpace (put acc key v)) more u rest) :
    Reads (fun r => readMembers (fuel + 1) r.skipSpace acc) cs u rest := by
  intro p
  obtain ⟨p₁, member⟩ := readMembers_member acc isKey noSpace value p
  obtain ⟨p₂, skipped⟩ := after.skipped (by rintro c ⟨⟩; rfl) p₁
  obtain ⟨p₃, others⟩ := others (p₂ + 1)
  refine ⟨p₃, member.trans ?_⟩
  rw [skipped]
  exact others

end Members

theorem Spells.isReadFrom {part : Part} (spelled : Spells cs part rest) : part.IsReadFrom cs rest := by
  induction spelled with
  | word known =>
      intro fuel enough ends
      obtain ⟨fuel, rfl⟩ := Nat.exists_eq_succ_of_ne_zero (Nat.ne_zero_of_lt enough)
      exact readValue_word known
  | number spelled =>
      intro fuel enough ends
      obtain ⟨fuel, rfl⟩ := Nat.exists_eq_succ_of_ne_zero (Nat.ne_zero_of_lt enough)
      exact readValue_number spelled ends
  | text spelled =>
      intro fuel enough ends
      obtain ⟨fuel, rfl⟩ := Nat.exists_eq_succ_of_ne_zero (Nat.ne_zero_of_lt enough)
      exact readValue_text spelled
  | emptyArray closes =>
      intro fuel enough ends p
      obtain ⟨fuel, rfl⟩ := Nat.exists_eq_succ_of_ne_zero (Nat.ne_zero_of_lt enough)
      obtain ⟨p', skipped⟩ := closes.skipped (by rintro c ⟨⟩; rfl) (p + 1)
      exact ⟨p' + 1, by simp only [readValue, skipped]⟩
  | array spelled ih =>
      intro fuel enough ends
      obtain ⟨fuel, rfl⟩ := Nat.exists_eq_succ_of_ne_zero (Nat.ne_zero_of_lt enough)
      simp only [List.length_cons] at enough
      exact readValue_array spelled (ih fuel [] (by omega))
  | emptyObject closes =>
      intro fuel enough ends p
      obtain ⟨fuel, rfl⟩ := Nat.exists_eq_succ_of_ne_zero (Nat.ne_zero_of_lt enough)
      obtain ⟨p', skipped⟩ := closes.skipped (by rintro c ⟨⟩; rfl) (p + 1)
      exact ⟨p' + 1, by simp only [readValue, skipped]⟩
  | object spelled ih =>
      intro fuel enough ends
      obtain ⟨fuel, rfl⟩ := Nat.exists_eq_succ_of_ne_zero (Nat.ne_zero_of_lt enough)
      simp only [List.length_cons] at enough
      exact readValue_object spelled (ih fuel [] (by omega))
  | lastItem before value after ih =>
      intro fuel acc enough
      obtain ⟨fuel, rfl⟩ := Nat.exists_eq_succ_of_ne_zero (Nat.ne_zero_of_lt enough)
      have shorter := before.length_le
      exact readItems_last before value.noSpace
        (ih fuel (by omega) (after.endsNumber (endsNumber_bracket (by decide) _))) after
  | @nextItem cs start stop more rest v vs before value after others ih ih' =>
      intro fuel acc enough
      obtain ⟨fuel, rfl⟩ := Nat.exists_eq_succ_of_ne_zero (Nat.ne_zero_of_lt enough)
      have shorter := before.length_le
      have shorter' := value.length_lt
      have shorter'' := after.length_le
      simp only [List.length_cons] at shorter''
      have items := ih' fuel (v :: acc) (by omega)
      rw [List.reverse_cons, List.append_assoc, List.singleton_append] at items
      exact readItems_next before value.noSpace
        (ih fuel (by omega) (after.endsNumber (endsNumber_bracket (by decide) _))) after items
  | lastMember key value after ih =>
      intro fuel acc enough
      obtain ⟨fuel, rfl⟩ := Nat.exists_eq_succ_of_ne_zero (Nat.ne_zero_of_lt enough)
      have shorter := key.length_lt
      exact readMembers_last key value.noSpace
        (ih fuel (by omega) (after.endsNumber (endsNumber_bracket (by decide) _))) after
  | nextMember key value after others ih ih' =>
      intro fuel acc enough
      obtain ⟨fuel, rfl⟩ := Nat.exists_eq_succ_of_ne_zero (Nat.ne_zero_of_lt enough)
      have shorter := key.length_lt
      have shorter' := value.length_lt
      have shorter'' := after.length_le
      simp only [List.length_cons] at shorter''
      exact readMembers_next key value.noSpace
        (ih fuel (by omega) (after.endsNumber (endsNumber_bracket (by decide) _))) after
        (ih' fuel _ (by omega))

end Values

theorem parseDocument_of_isDocument {text : String} {v : Document}
    (document : IsDocument text.toList v) : parseDocument text = .ok v := by
  obtain ⟨start, stop, before, spelled, after⟩ := document
  have shorter := before.length_le
  obtain ⟨p, skipped⟩ := before.skipped spelled.noSpace 0
  have ends : EndsNumber stop := after.endsNumber (fun c isHead => by cases isHead)
  obtain ⟨p', read⟩ := spelled.isReadFrom (2 * text.toList.length + 2) (by omega) ends p
  obtain ⟨p'', skipped'⟩ := after.skipped (fun c isHead => by cases isHead) p'
  unfold parseDocument
  split
  · next more mark =>
      -- neither white space nor a value starts with the mark
      obtain ⟨blanks, blank, same⟩ := before
      obtain ⟨c, others, rfl, starts⟩ := spelled.exists_cons
      rw [mark] at same
      cases blanks with
      | nil => exact absurd (List.cons.inj same).1.symm starts.notMark
      | cons b blanks =>
          have space := blank b List.mem_cons_self
          rw [← (List.cons.inj same).1] at space
          exact absurd space (by decide)
  · rw [skipped, read]
    dsimp only [bind, Except.bind]
    rw [skipped']
    rfl

/-- Exactly the documents of a value are read as that value. -/
theorem parseDocument_eq_ok_iff {text : String} {v : Document} :
    parseDocument text = .ok v ↔ IsDocument text.toList v :=
  ⟨isDocument_of_parseDocument, parseDocument_of_isDocument⟩

end SketchSurvey.Json
