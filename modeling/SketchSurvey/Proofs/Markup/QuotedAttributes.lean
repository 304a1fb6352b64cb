import SketchSurvey.Proofs.Markup.LongReference
import SketchSurvey.Proofs.Text.SmallLetters
import SketchSurvey.Proofs.Text.Trimmed

/-! Start tags whose name is a word and whose attributes have their values in double quotes. Such a tag is
read to its end, whatever stands in the values and after the tag. -/

set_option autoImplicit false

namespace SketchSurvey.Markup

open SketchSurvey.Text (isBlank)

section Letters

variable {c : Char}

theorem ne_of_isAsciiLetter (letter : isAsciiLetter c = true) {mark : Char}
    (other : isAsciiLetter mark = false) : c ≠ mark := by
  rintro rfl
  rw [letter] at other
  cases other

theorem bounds_of_isAsciiLetter (letter : isAsciiLetter c = true) : 65 ≤ c.toNat ∧ c.toNat ≤ 122 := by
  simp only [isAsciiLetter, Bool.or_eq_true, Bool.and_eq_true, decide_eq_true_eq] at letter
  rcases letter with ⟨low, high⟩ | ⟨low, high⟩
  · exact ⟨Nat.le_trans (by decide) low, high⟩
  · exact ⟨low, Nat.le_trans high (by decide)⟩

theorem isBlank_of_isAsciiLetter (letter : isAsciiLetter c = true) : isBlank c = false := by
  obtain ⟨low, high⟩ := bounds_of_isAsciiLetter letter
  exact Text.isBlank_eq_false_of_bounds (by omega) (by omega)

theorem isTagNameChar_of_isAsciiLetter (letter : isAsciiLetter c = true) : isTagNameChar c = true := by
  have marks : ['\t', '\n', '\r', '\x0c', ' ', '/', '>', '\x00'].all (fun mark => !isAsciiLetter mark) = true := by
    decide
  rw [isTagNameChar, Bool.not_eq_true', Bool.eq_false_iff, ne_eq, List.contains_iff_mem]
  intro member
  have other := List.all_eq_true.mp marks c member
  rw [letter] at other
  cases other

theorem isNamePart_of_isAsciiLetter (letter : isAsciiLetter c = true) :
    (!isBlank c && c != '/' && c != '=' && c != '>') = true := by
  have noSlash : c ≠ '/' := ne_of_isAsciiLetter letter (by decide)
  have noSign : c ≠ '=' := ne_of_isAsciiLetter letter (by decide)
  have noClose : c ≠ '>' := ne_of_isAsciiLetter letter (by decide)
  simp [isBlank_of_isAsciiLetter letter, noSlash, noSign, noClose]

end Letters

/-- A word of ASCII letters. -/
structure Word where
  chars : List Char
  nonempty : chars ≠ []
  letters : ∀ c ∈ chars, isAsciiLetter c = true

/-- The word in small letters. -/
def Word.lower (w : Word) : String := String.ofList (w.chars.map Char.toLower)

/-- An attribute with its value in double quotes. There is a space before its name, and there may be more. -/
structure QuotedAttribute where
  moreSpaces : Nat
  name : Word
  value : List Char
  noQuote : '"' ∉ value
  noReference : '&' ∉ value

namespace QuotedAttribute

/-- The attribute from its name on. -/
def text (a : QuotedAttribute) : List Char := a.name.chars ++ '=' :: '"' :: (a.value ++ ['"'])

def chars (a : QuotedAttribute) : List Char := List.replicate (a.moreSpaces + 1) ' ' ++ a.text

end QuotedAttribute

/-- Attributes one after another. -/
def attributeChars (attributes : List QuotedAttribute) : List Char := attributes.flatMap QuotedAttribute.chars

/-- A start tag from its opening mark to its closing one. -/
def tagChars (name : Word) (attributes : List QuotedAttribute) : List Char :=
  '<' :: (name.chars ++ (attributeChars attributes ++ ['>']))

theorem bne_of_not_mem {mark : Char} {cs : List Char} (absent : mark ∉ cs) : ∀ c ∈ cs, (c != mark) = true := by
  intro c member
  rw [bne_iff_ne]
  rintro rfl
  exact absent member

/-- A run of characters of a kind ends before the first other one. -/
theorem takeWhile_append_stop {test : Char → Bool} {run : List Char} (kind : ∀ c ∈ run, test c = true)
    {stop : Char} (other : test stop = false) (rest : List Char) :
    (run ++ stop :: rest).takeWhile test = run := by
  rw [List.takeWhile_append_of_pos kind, List.takeWhile_cons_of_neg (by simp [other]), List.append_nil]

namespace Word

variable (w : Word)

theorem exists_cons : ∃ c rest, w.chars = c :: rest ∧ isAsciiLetter c = true := by
  cases chars : w.chars with
  | nil => exact absurd chars w.nonempty
  | cons c rest => exact ⟨c, rest, rfl, w.letters c (chars ▸ .head _)⟩

theorem toNat_lt : ∀ c ∈ w.chars, c.toNat < 128 := by
  intro c member
  have bounds := bounds_of_isAsciiLetter (w.letters c member)
  omega

theorem lower_eq : Text.lower (String.ofList w.chars) = w.lower := by
  rw [Text.lower, String.toList_ofList, Text.lowerFrom_of_inside [] w.toNat_lt, Word.lower]

end Word

/-- The place after some characters. -/
theorem Spot.skip_append (previous : Char) (taken rest : List Char) :
    (Spot.mk previous (taken ++ rest)).skip taken.length = ⟨taken.getLastD previous, rest⟩ := by
  induction taken generalizing previous with
  | nil => rfl
  | cons c taken ih =>
      rw [List.getLastD_cons, ← ih c]
      rfl

section Attributes

/-- The spaces before the first of some attributes. -/
def leadingSpaces : List QuotedAttribute → Nat
  | [] => 0
  | a :: _ => a.moreSpaces + 1

/-- The place where the first of some attributes starts, or where the tag ends. -/
def spotAt (previous : Char) (more : List Char) : List QuotedAttribute → Spot
  | [] => ⟨previous, '>' :: more⟩
  | a :: as => ⟨' ', a.text ++ (attributeChars as ++ '>' :: more)⟩

variable (previous : Char) (more : List Char) (as : List QuotedAttribute)

theorem attributeChars_append :
    attributeChars as ++ '>' :: more =
      List.replicate (leadingSpaces as) ' ' ++ (spotAt previous more as).rest := by
  cases as with
  | nil => rfl
  | cons a as =>
      change (a.chars ++ attributeChars as) ++ '>' :: more = _
      rw [QuotedAttribute.chars, List.append_assoc, List.append_assoc]
      rfl

/-- A letter follows the spaces, or the closing mark. -/
theorem exists_stop : ∃ stop rest, (spotAt previous more as).rest = stop :: rest ∧
    (stop = '>' ∨ isAsciiLetter stop = true) := by
  cases as with
  | nil => exact ⟨'>', more, rfl, .inl rfl⟩
  | cons a as =>
      obtain ⟨c, rest, chars, letter⟩ := a.name.exists_cons
      refine ⟨c, rest ++ '=' :: '"' :: (a.value ++ ['"']) ++ (attributeChars as ++ '>' :: more), ?_,
        .inr letter⟩
      rw [spotAt, QuotedAttribute.text, chars]
      rfl

theorem length_takeWhile_spaces {test : Char → Bool} (space : test ' ' = true) (close : test '>' = false)
    (noLetter : ∀ c, isAsciiLetter c = true → test c = false) :
    ((attributeChars as ++ '>' :: more).takeWhile test).length = leadingSpaces as := by
  obtain ⟨stop, rest, same, known⟩ := exists_stop '<' more as
  have spaces : ∀ d ∈ List.replicate (leadingSpaces as) ' ', test d = true := by
    intro d member
    rw [List.eq_of_mem_replicate member, space]
  have ends : test stop = false := by
    rcases known with rfl | letter
    · exact close
    · exact noLetter stop letter
  rw [attributeChars_append '<', same, takeWhile_append_stop spaces ends, List.length_replicate]

theorem gapLength_replicate (n : Nat) (rest : List Char) :
    gapLength (List.replicate n ' ' ++ rest) = n + gapLength rest := by
  induction n with
  | zero =>
      rw [Nat.zero_add]
      rfl
  | succ n ih =>
      rw [List.replicate_succ, List.cons_append, gapLength, if_pos (by decide), ih]
      · omega
      · nofun

theorem gapLength_cons {c : Char} (notBlank : isBlank c = false) (noSlash : c ≠ '/') (rest : List Char) :
    gapLength (c :: rest) = 0 := by
  rw [gapLength]
  · rw [notBlank, Bool.false_or, if_neg (by simp [noSlash])]
  · rintro _ rfl
    exact absurd rfl noSlash

theorem gapLength_attributes : gapLength (attributeChars as ++ '>' :: more) = leadingSpaces as := by
  obtain ⟨stop, rest, same, known⟩ := exists_stop '<' more as
  rw [attributeChars_append '<', same, gapLength_replicate]
  rcases known with rfl | letter
  · rw [gapLength_cons (by decide) (by decide), Nat.add_zero]
  · rw [gapLength_cons (isBlank_of_isAsciiLetter letter) (ne_of_isAsciiLetter letter (by decide)),
      Nat.add_zero]

theorem skip_leadingSpaces :
    (Spot.mk previous (attributeChars as ++ '>' :: more)).skip (leadingSpaces as) =
      spotAt previous more as := by
  have skipped := Spot.skip_append previous (List.replicate (leadingSpaces as) ' ')
    (spotAt previous more as).rest
  rw [← attributeChars_append, List.length_replicate] at skipped
  rw [skipped]
  cases as with
  | nil => rfl
  | cons a as =>
      rw [leadingSpaces, List.replicate_succ', List.getLastD_concat]
      rfl

end Attributes

section Reading

variable (previous : Char) (more : List Char) (a : QuotedAttribute) (as : List QuotedAttribute)

theorem quotedLength?_append {quote : Char} {value : List Char} (noQuote : quote ∉ value) (rest : List Char) :
    quotedLength? quote (value ++ quote :: rest) = some (value.length + 2) := by
  rw [quotedLength?, takeWhile_append_stop (bne_of_not_mem noQuote) (by simp)]
  simp

theorem valueExtent?_quoted {value : List Char} (noQuote : '"' ∉ value) (rest : List Char) :
    valueExtent? ('=' :: '"' :: (value ++ '"' :: rest)) = some (1, value.length + 2) := by
  have quoted := quotedLength?_append noQuote rest
  have sign : ('=' :: '"' :: (value ++ '"' :: rest)).takeWhile isBlank = [] :=
    List.takeWhile_cons_of_neg (by decide)
  have mark : ('"' :: (value ++ '"' :: rest)).takeWhile isBlank = [] := List.takeWhile_cons_of_neg (by decide)
  simp [valueExtent?, sign, mark, quoted]

theorem attributeAt?_close : attributeAt? (spotAt previous more []) = none := by
  rw [spotAt, attributeAt?]
  simp

/-- The value is passed over with its quotes. -/
theorem skip_quoted (value rest : List Char) :
    (Spot.mk previous ('=' :: '"' :: (value ++ '"' :: rest))).skip (1 + (value.length + 2)) = ⟨'"', rest⟩ := by
  have skipped := Spot.skip_append previous ('=' :: '"' :: (value ++ ['"'])) rest
  rw [List.getLastD_cons, List.getLastD_cons, List.getLastD_concat] at skipped
  simp only [List.cons_append, List.append_assoc, List.nil_append, List.length_cons, List.length_append,
    List.length_nil] at skipped
  rw [← skipped]
  congr 1
  omega

theorem take_quoted (value rest : List Char) :
    ('"' :: (value ++ '"' :: rest)).take (value.length + 2) = '"' :: (value ++ ['"']) := by
  simp [List.take_append]

/-- An attribute is read to its closing quote and the spaces after it. -/
theorem attributeAt?_spotAt : attributeAt? (spotAt previous more (a :: as)) = some {
    name := a.name.chars
    value := some ('"' :: (a.value ++ ['"']))
    next := spotAt '"' more as } := by
  obtain ⟨c, rest, chars, letter⟩ := a.name.exists_cons
  have inName : ∀ d ∈ rest, (!isBlank d && d != '/' && d != '=' && d != '>') = true := by
    intro d member
    exact isNamePart_of_isAsciiLetter (a.name.letters d (chars ▸ .tail _ member))
  have first : (!isBlank c && c != '/' && c != '>') = true := by
    have part := isNamePart_of_isAsciiLetter letter
    simp only [Bool.and_eq_true] at part ⊢
    exact ⟨part.1.1, part.2⟩
  let after := attributeChars as ++ '>' :: more
  have text : a.text ++ after = a.name.chars ++ ('=' :: '"' :: (a.value ++ '"' :: after)) := by
    simp [QuotedAttribute.text]
  have text' : a.text ++ after = c :: (rest ++ '=' :: '"' :: (a.value ++ '"' :: after)) := by
    rw [text, chars]
    rfl
  rw [spotAt, text', attributeAt?]
  dsimp only
  rw [takeWhile_append_stop inName (by decide), ← chars, ← text', text, Spot.skip_append]
  dsimp only
  rw [valueExtent?_quoted a.noQuote]
  dsimp only
  rw [skip_quoted, List.drop_succ_cons, List.drop_zero, take_quoted, gapLength_attributes,
    skip_leadingSpaces, Bool.and_assoc, Bool.and_assoc, ← Bool.and_assoc (!isBlank c), first]
  rfl

/-- All attributes are passed over, up to the closing mark. -/
theorem rest_skipAttributes {fuel : Nat} (enough : as.length ≤ fuel) :
    (skipAttributes fuel (spotAt previous more as)).rest = '>' :: more := by
  induction as generalizing previous fuel with
  | nil =>
      cases fuel with
      | zero => rfl
      | succ fuel => rw [skipAttributes, attributeAt?_close]; rfl
  | cons a as ih =>
      cases fuel with
      | zero => cases enough
      | succ fuel =>
          rw [skipAttributes, attributeAt?_spotAt]
          exact ih '"' (Nat.le_of_succ_le_succ enough)

/-- An attribute as it is given on. -/
def QuotedAttribute.given (a : QuotedAttribute) : String × Option String :=
  (a.name.lower, some (String.ofList a.value))

theorem readValue_quoted : readValue (some ('"' :: (a.value ++ ['"']))) = .ok (some (String.ofList a.value)) := by
  have stripped : stripQuotes ('"' :: (a.value ++ ['"'])) = a.value := by
    have last : ('"' :: (a.value ++ ['"'])).getLast? = some '"' := by
      rw [← List.cons_append, List.getLast?_concat]
    rw [stripQuotes.eq_def, last]
    exact List.dropLast_concat
  rw [readValue, stripped, unescape_of_not_mem a.noReference]
  rfl

theorem readAttributes_spotAt {fuel : Nat} (enough : as.length < fuel) :
    readAttributes more.length fuel (spotAt previous more as) =
      .ok (as.map QuotedAttribute.given, '>' :: more) := by
  induction as generalizing previous fuel with
  | nil =>
      cases fuel with
      | zero => cases enough
      | succ fuel =>
          rw [readAttributes, attributeAt?_close]
          exact ite_self _
  | cons a as ih =>
      cases fuel with
      | zero => cases enough
      | succ fuel =>
          have within : (spotAt previous more (a :: as)).rest.length > more.length := by
            rw [spotAt, List.length_append, List.length_append, List.length_cons]
            omega
          rw [readAttributes, if_pos within, attributeAt?_spotAt]
          dsimp only
          rw [readValue_quoted, ih '"' (Nat.lt_of_succ_lt_succ enough), Word.lower_eq]
          rfl

end Reading

section Tag

variable (name : Word) (as : List QuotedAttribute) (more : List Char)

theorem tagChars_append : tagChars name as ++ more =
    '<' :: (name.chars ++ (attributeChars as ++ '>' :: more)) := by
  simp [tagChars]

/-- The name of a tag ends at the first space, or at the closing mark. -/
theorem takeWhile_isTagNameChar :
    (name.chars ++ (attributeChars as ++ '>' :: more)).takeWhile isTagNameChar = name.chars := by
  have letters : ∀ c ∈ name.chars, isTagNameChar c = true := by
    intro c member
    exact isTagNameChar_of_isAsciiLetter (name.letters c member)
  cases as with
  | nil => exact takeWhile_append_stop letters (by decide) more
  | cons a as =>
      rw [attributeChars_append '<', leadingSpaces, List.replicate_succ, List.cons_append]
      exact takeWhile_append_stop letters (by decide) _

theorem length_le_length_attributeChars : as.length ≤ (attributeChars as).length := by
  induction as with
  | nil => exact Nat.le_refl 0
  | cons a as ih =>
      change _ ≤ (a.chars ++ attributeChars as).length
      rw [List.length_append, QuotedAttribute.chars, List.length_append, List.length_replicate,
        List.length_cons]
      omega

theorem skipWhile_gap (previous : Char) :
    (Spot.mk previous (attributeChars as ++ '>' :: more)).skipWhile (fun c => isBlank c || c == '/') =
      spotAt previous more as := by
  have noGap : ∀ c, isAsciiLetter c = true → (isBlank c || c == '/') = false := by
    intro c letter
    have noSlash : c ≠ '/' := ne_of_isAsciiLetter letter (by decide)
    simp [isBlank_of_isAsciiLetter letter, noSlash]
  rw [Spot.skipWhile, length_takeWhile_spaces _ _ (by decide) (by decide) noGap, skip_leadingSpaces]

theorem length_lt_length_tagChars : as.length < (tagChars name as ++ more).length := by
  have few : as.length ≤ (attributeChars as).length := length_le_length_attributeChars as
  simp only [tagChars, List.length_append, List.length_cons]
  omega

theorem startTagLength?_tagChars :
    startTagLength? (tagChars name as ++ more) = some (tagChars name as).length := by
  let previous := name.chars.getLastD '<'
  have atEnd : ((skipAttributes (tagChars name as ++ more).length (spotAt previous more as)).skipWhile
      isBlank).rest = '>' :: more := by
    rw [Spot.skipWhile, Spot.rest_skip,
      rest_skipAttributes _ _ _ (Nat.le_of_lt (length_lt_length_tagChars name as more))]
    rfl
  have whole : (tagChars name as ++ more).length - ('>' :: more).length + 1 = (tagChars name as).length := by
    rw [List.length_append, List.length_cons, tagChars, List.length_cons]
    omega
  rw [startTagLength?, ← whole]
  rw [tagChars_append] at atEnd ⊢
  rw [List.drop_succ_cons, List.drop_zero, takeWhile_isTagNameChar, Spot.skip_append, skipWhile_gap, atEnd]
  rfl

theorem readStartTag_tagChars : readStartTag (tagChars name as ++ more) (tagChars name as).length =
    .ok (some { name := name.lower, attributes := as.map QuotedAttribute.given }) := by
  have whole : (tagChars name as ++ more).length - (tagChars name as).length = more.length := by
    rw [List.length_append, Nat.add_sub_cancel_left]
  have enough := Nat.lt_succ_of_lt (length_lt_length_tagChars name as more)
  rw [readStartTag]
  dsimp only
  rw [whole]
  rw [tagChars_append] at enough ⊢
  rw [List.drop_succ_cons, List.drop_zero, takeWhile_isTagNameChar, Spot.skip_append]
  dsimp only
  rw [gapLength_attributes, skip_leadingSpaces, readAttributes_spotAt _ _ _ enough, Word.lower_eq]
  have tail : Text.trimList (('>' :: more).take (('>' :: more).length - more.length)) = ['>'] := by
    rw [List.length_cons, Nat.add_sub_cancel_left]
    rfl
  change (if Text.trimList _ == ['>'] then _ else _) = _
  rw [tail]
  rfl

end Tag

end SketchSurvey.Markup
