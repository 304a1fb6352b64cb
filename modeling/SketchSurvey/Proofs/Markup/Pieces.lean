import SketchSurvey.Proofs.Markup.QuotedAttributes

/-! How single pieces of markup are read: comments, start tags, end tags, and the raw text of a script. Each
ends where it was meant to, whatever follows it. -/

set_option autoImplicit false

namespace SketchSurvey.Markup

open SketchSurvey.Text (isBlank)

/-- An end tag from its opening mark to its closing one. -/
def endTagChars (name : Word) : List Char := '<' :: '/' :: (name.chars ++ ['>'])

section EndTags

variable (name : Word) (more : List Char)

theorem afterClose?_append {cs : List Char} (inside : '>' ∉ cs) :
    afterClose? (cs ++ '>' :: more) = some more := by
  induction cs with
  | nil => rfl
  | cons c cs ih =>
      rw [List.mem_cons, not_or] at inside
      rw [List.cons_append, afterClose?, if_neg (Ne.symm inside.1), ih inside.2]

theorem endTagChars_append : endTagChars name ++ more = '<' :: '/' :: (name.chars ++ '>' :: more) := by
  simp [endTagChars]

theorem afterClose?_endTagChars : afterClose? ((endTagChars name ++ more).drop 1) = some more := by
  have inside : '>' ∉ '/' :: name.chars := by
    rw [List.mem_cons]
    rintro (slash | member)
    · cases slash
    · exact ne_of_isAsciiLetter (name.letters _ member) (by decide) rfl
  have closed := afterClose?_append more inside
  rwa [endTagChars_append]

theorem dropWhile_close : ('>' :: more).dropWhile isBlank = '>' :: more :=
  Text.dropWhile_isBlank (by rintro _ ⟨⟩; decide)

/-- The name comes right after the marks. -/
theorem dropWhile_endTagChars :
    ((endTagChars name ++ more).drop 2).dropWhile isBlank = name.chars ++ '>' :: more := by
  obtain ⟨c, rest, chars, letter⟩ := name.exists_cons
  rw [endTagChars_append]
  refine Text.dropWhile_isBlank ?_
  rw [List.drop_succ_cons, List.drop_succ_cons, List.drop_zero, chars]
  rintro _ ⟨⟩
  exact isBlank_of_isAsciiLetter letter

/-- Nothing but the name stands in the tag. -/
theorem plainEndTag?_endTagChars : plainEndTag? (endTagChars name ++ more) = some name.lower := by
  obtain ⟨c, rest, chars, letter⟩ := name.exists_cons
  have letters : ∀ d ∈ name.chars, isEndTagNameChar d = true := by
    intro d member
    simp [isEndTagNameChar, name.letters d member]
  have whole : (name.chars ++ '>' :: more).takeWhile isEndTagNameChar = name.chars :=
    takeWhile_append_stop letters (by decide) more
  rw [plainEndTag?]
  simp only [dropWhile_endTagChars, whole, List.drop_left, dropWhile_close]
  rw [Word.lower, chars, List.cons_append]
  exact if_pos letter

theorem afterEndTag?_endTagChars : afterEndTag? none (endTagChars name ++ more) = some (more, none) := by
  rw [afterEndTag?, afterClose?_endTagChars, plainEndTag?_endTagChars]

/-- The end tag of an element ends its raw text. -/
theorem afterEndTag?_of_raw {element : String} (same : name.lower = element) :
    afterEndTag? (some element) (endTagChars name ++ more) = some (more, none) := by
  rw [afterEndTag?, afterClose?_endTagChars, plainEndTag?_endTagChars]
  dsimp only
  rw [same, beq_self_eq_true, if_pos rfl]

theorem readPiece_endTagChars {raw raw' : RawElement}
    (ends : afterEndTag? raw (endTagChars name ++ more) = some (more, raw')) :
    readPiece raw (endTagChars name ++ more) = .ok (.other more raw') := by
  rw [endTagChars_append] at ends ⊢
  rw [readPiece, ends]
  rfl

end EndTags

section Searching

variable {test : List Char → Option (List Char)}

/-- The first place where a test holds comes after a text, if it holds there and nowhere in the text. -/
theorem afterFirst?_append {cs rest after : List Char} (found : test rest = some after)
    (nowhere : ∀ c part, c :: part <:+ cs → test (c :: (part ++ rest)) = none) :
    afterFirst? test (cs ++ rest) = some after := by
  induction cs with
  | nil =>
      cases rest with
      | nil => exact found
      | cons c rest => rw [List.nil_append, afterFirst?, found]
  | cons c cs ih =>
      rw [List.cons_append, afterFirst?, nowhere c cs (List.suffix_refl _)]
      exact ih fun d part inside => nowhere d part (inside.trans (List.suffix_cons c cs))

/-- Two characters that do not stand in a text one after the other start it nowhere, if the second is not
what comes after it. -/
theorem not_prefix_of_suffix {a b c : Char} {cs part : List Char} (stop : Char) (rest : List Char)
    (noPair : ¬ [a, b] <:+: cs) (inside : c :: part <:+ cs) (atEnd : cs.getLast? = some a → stop ≠ b) :
    ¬ [a, b] <+: c :: (part ++ stop :: rest) := by
  intro starts
  obtain ⟨rfl, next⟩ := List.cons_prefix_cons.mp starts
  cases part with
  | nil =>
      obtain ⟨before, rfl⟩ := inside
      exact atEnd List.getLast?_concat (List.cons_prefix_cons.mp next).1.symm
  | cons d part =>
      obtain ⟨rfl, _⟩ := List.cons_prefix_cons.mp next
      exact noPair ((List.prefix_append [a, b] part).isInfix.trans inside.isInfix)

end Searching

section Comments

variable (more : List Char)

/-- A comment ends at its first two hyphens. -/
theorem afterComment?_append {body : List Char} (noMarks : ¬ ['-', '-'] <:+: body)
    (noMark : body.getLast? ≠ some '-') : afterComment? (body ++ '-' :: '-' :: '>' :: more) = some more := by
  refine afterFirst?_append rfl ?_
  intro c part inside
  have notHere := not_prefix_of_suffix '-' ('-' :: '>' :: more) noMarks inside fun last => absurd last noMark
  split
  · next rest same =>
      rw [same] at notHere
      exact absurd (List.prefix_append ['-', '-'] rest) notHere
  · rfl

theorem readPiece_comment {raw : RawElement} {body : List Char} (noMarks : ¬ ['-', '-'] <:+: body)
    (noMark : body.getLast? ≠ some '-') :
    readPiece raw ("<!--".toList ++ (body ++ "-->".toList) ++ more) = .ok (.other more raw) := by
  have closed := afterComment?_append more noMarks noMark
  have chars : "<!--".toList ++ (body ++ "-->".toList) ++ more =
      '<' :: '!' :: '-' :: '-' :: (body ++ '-' :: '-' :: '>' :: more) := by
    simp
  have opens : startsWith "--" ('-' :: '-' :: (body ++ '-' :: '-' :: '>' :: more)) = true := rfl
  rw [chars, readPiece, if_pos opens]
  simp only [List.drop_succ_cons, List.drop_zero, closed]
  rfl

end Comments

section Tags

variable (name : Word) (attributes : List QuotedAttribute) (more : List Char)

theorem readPiece_tagChars : readPiece none (tagChars name attributes ++ more) =
    .ok (.startTag (some { name := name.lower, attributes := attributes.map (·.given) }) more) := by
  obtain ⟨c, rest, chars, letter⟩ := name.exists_cons
  have length := startTagLength?_tagChars name attributes more
  have tag := readStartTag_tagChars name attributes more
  have after : (tagChars name attributes ++ more).drop (tagChars name attributes).length = more :=
    List.drop_left
  have start : tagChars name attributes ++ more =
      '<' :: c :: (rest ++ (attributeChars attributes ++ '>' :: more)) := by
    rw [tagChars_append, chars]
    rfl
  rw [start] at length tag after ⊢
  rw [readPiece]
  · rw [if_pos letter, length]
    dsimp only
    rw [tag, after]
    rfl
  · exact ne_of_isAsciiLetter letter (by decide)
  · exact ne_of_isAsciiLetter letter (by decide)
  · exact ne_of_isAsciiLetter letter (by decide)

end Tags

section RawText

theorem smallLetter_toLower {c : Char} (inside : c.toNat < 128) :
    Regex.smallLetter false c.toLower.toNat = Regex.smallLetter false c.toNat := by
  have table : ∀ n < 128, Regex.smallLetter false (Char.ofNat n).toLower.toNat =
      Regex.smallLetter false (Char.ofNat n).toNat := by
    decide
  have own := table c.toNat inside
  rwa [Char.ofNat_toNat] at own

/-- A word matches itself in small letters. -/
theorem sameWord_lower (w : Word) : sameWord w.lower w.chars = true := by
  have each (cs : List Char) (inside : ∀ c ∈ cs, c.toNat < 128) :
      ((cs.map Char.toLower).zip cs).all
        (fun pair => Regex.Flags.sameChar { ignoreCase := true } pair.1.toNat pair.2.toNat) = true := by
    induction cs with
    | nil => rfl
    | cons c cs ih =>
        obtain ⟨first, others⟩ := List.forall_mem_cons.mp inside
        rw [List.map_cons, List.zip_cons_cons, List.all_cons, ih others, Bool.and_true]
        change (Regex.sameLetters false c.toLower.toNat).contains (Regex.smallLetter false c.toNat) = true
        rw [Regex.sameLetters, smallLetter_toLower first]
        simp
  rw [sameWord, Word.lower, String.toList_ofList, List.length_map, beq_self_eq_true, Bool.true_and]
  exact each w.chars w.toNat_lt

/-- What is between a script's tags is passed over up to the end tag, whatever the case of its letters. -/
theorem startsRawEnd_endTagChars (closing : Word) (more : List Char) :
    startsRawEnd closing.lower (endTagChars closing ++ more) = true := by
  have body : ((endTagChars closing ++ more).drop 2).dropWhile isBlank = closing.chars ++ '>' :: more :=
    dropWhile_endTagChars closing more
  have length : closing.lower.length = closing.chars.length := by
    rw [Word.lower, String.length_ofList, List.length_map]
  have closed : ('>' :: more).dropWhile isBlank = '>' :: more := dropWhile_close more
  have opens : startsWith "</" (endTagChars closing ++ more) = true := rfl
  rw [startsRawEnd, opens]
  simp only [body, length, List.take_left, List.drop_left, closed, sameWord_lower]
  rfl

theorem afterFirst?_rawEnd {body : List Char} (noEnd : ¬ ['<', '/'] <:+: body) (closing : Word)
    (more : List Char) :
    afterFirst? (fun cs => if startsRawEnd closing.lower cs then some cs else none)
      (body ++ (endTagChars closing ++ more)) = some (endTagChars closing ++ more) := by
  have found := startsRawEnd_endTagChars closing more
  refine afterFirst?_append (if_pos found) ?_
  intro c part inside
  rw [endTagChars_append]
  have notHere := not_prefix_of_suffix '<' ('/' :: (closing.chars ++ '>' :: more)) noEnd inside
    fun _ => by decide
  rw [if_neg]
  intro ends
  rw [startsRawEnd, Bool.and_eq_true] at ends
  exact notHere (List.isPrefixOf_iff_prefix.mp ends.1)

end RawText

end SketchSurvey.Markup
