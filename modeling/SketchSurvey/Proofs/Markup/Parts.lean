import SketchSurvey.Proofs.Markup.Pieces

/-! Pages that are put together of texts, comments, tags and scripts. Each part is read as it was meant,
whatever the parts around it are: the scripts that such a page loads are those of its script parts. What
stands in comments, in values and in scripts is not looked into. -/

set_option autoImplicit false

namespace SketchSurvey.Markup

/-- What a page is put together of. -/
inductive Part where
  | text (chars : List Char) (plain : '<' ∉ chars)
  | comment (body : List Char) (noMarks : ¬ ['-', '-'] <:+: body) (noMark : body.getLast? ≠ some '-')
  | startTag (name : Word) (attributes : List QuotedAttribute) (other : name.lower ∉ rawElements)
  | endTag (name : Word)
  | script (opening : Word) (attributes : List QuotedAttribute) (body : List Char) (closing : Word)
      (opens : opening.lower = "script") (closes : closing.lower = "script") (noEnd : ¬ ['<', '/'] <:+: body)

namespace Part

def chars : Part → List Char
  | text chars _ => chars
  | comment body _ _ => "<!--".toList ++ (body ++ "-->".toList)
  | startTag name attributes _ => tagChars name attributes
  | endTag name => endTagChars name
  | script opening attributes body closing _ _ _ =>
    tagChars opening attributes ++ (body ++ endTagChars closing)

/-- The start tags in a part. -/
def tags : Part → List StartTag
  | text _ _ | comment _ _ _ | endTag _ => []
  | startTag name attributes _ | script name attributes _ _ _ _ _ =>
    [{ name := name.lower, attributes := attributes.map (·.given) }]

/-- The sources of a script. -/
def sources : Part → List String
  | script _ attributes _ _ _ _ _ => attributes.filterMap fun a =>
    if a.name.lower = "src" ∧ a.value ≠ [] then some (String.ofList a.value) else none
  | text _ _ | comment _ _ _ | startTag _ _ _ | endTag _ => []

def isMarkup : Part → Bool
  | text _ _ => false
  | comment _ _ _ | startTag _ _ _ | endTag _ | script _ _ _ _ _ _ _ => true

theorem chars_pos {part : Part} (isMarkup : part.isMarkup = true) : 0 < part.chars.length := by
  cases part with
  | text => cases isMarkup
  | comment | startTag | endTag | script => exact Nat.succ_pos _

end Part

/-- The texts of a page between its markup, where texts one after another are one. -/
def textRuns (pending : List Char) : List Part → List (List Char)
  | [] => [pending]
  | .text chars _ :: parts => textRuns (pending ++ chars) parts
  | _ :: parts => pending :: textRuns [] parts

/-- A page that is put together of some parts. -/
def pageChars (parts : List Part) : List Char := parts.flatMap Part.chars

section Steps

/-- What follows after a piece of markup that neither breaks off nor is a mark alone. -/
def Piece.next? (r : Reading) : Piece → Option Reading
  | .startTag (some tag) after => some { r.addTag tag with rest := after }
  | .startTag none after => some { r with rest := after }
  | .other after raw => some { r with rest := after, raw }
  | .broken => none
  | .lone => none

variable {final : Bool} {fuel : Nat} {r r' : Reading} {text markup : List Char}

theorem takeWhile_text (plain : '<' ∉ text) (rest : List Char) :
    (text ++ '<' :: rest).takeWhile (· != '<') = text :=
  takeWhile_append_stop (bne_of_not_mem plain) (by decide) rest

/-- Text is passed over up to the next opening mark, and its references are replaced. -/
theorem readPieces_of_text {piece : Piece} (noRaw : r.raw = none) (same : r.rest = text ++ '<' :: markup)
    (plain : '<' ∉ text) (read : readPiece none ('<' :: markup) = .ok piece) (next : piece.next? r = some r') :
    readPieces final (fuel + 1) r = unescape text >>= fun _ => readPieces final fuel r' := by
  obtain ⟨tags, raw, rest⟩ := r
  subst noRaw same
  rw [readPieces, if_neg (by simp)]
  simp only [takeWhile_text plain, List.drop_left, List.take_left]
  rw [if_neg (by simp), if_pos Option.isNone_none]
  refine congrArg (unescape text >>= ·) (funext fun _ => ?_)
  rw [if_neg (by simp), read]
  cases piece with
  | startTag tag after =>
      cases tag with
      | none =>
          cases next
          rfl
      | some tag =>
          cases next
          rfl
  | other after raw =>
      cases next
      rfl
  | broken => cases next
  | lone => cases next

/-- Raw text is passed over up to its end tag. -/
theorem readPieces_of_raw {element : String} {after : List Char} {raw : RawElement}
    (isRaw : r.raw = some element) (same : r.rest = text ++ markup)
    (ends : afterFirst? (fun cs => if startsRawEnd element cs then some cs else none) (text ++ markup) =
      some markup)
    (nonempty : markup ≠ []) (read : readPiece (some element) markup = .ok (.other after raw)) :
    readPieces final (fuel + 1) r = readPieces final fuel { r with rest := after, raw } := by
  obtain ⟨tags, raw, rest⟩ := r
  subst isRaw same
  have start : (text ++ markup).length - markup.length = text.length := by
    rw [List.length_append, Nat.add_sub_cancel]
  rw [readPieces, if_neg (by simp [nonempty])]
  simp only [ends, Option.map_some, Option.getD_some, start, List.drop_left, List.take_left]
  rw [if_neg (by simp [nonempty]), if_neg (by simp), if_neg (by simp [nonempty]), read]
  rfl

end Steps

section Runs

variable {tags : List StartTag} {pending : List Char}

theorem addTag_of_other {name : Word} (other : name.lower ∉ rawElements) (attributes : List QuotedAttribute)
    (r : Reading) :
    r.addTag { name := name.lower, attributes := attributes.map (·.given) } =
      { r with tags := r.tags ++ [{ name := name.lower, attributes := attributes.map (·.given) }] } := by
  rw [Reading.addTag, Bool.not_false, Bool.true_and, if_neg (mt List.contains_iff_mem.mp other)]

theorem addTag_of_raw {name : Word} (known : name.lower ∈ rawElements) (attributes : List QuotedAttribute)
    (r : Reading) :
    r.addTag { name := name.lower, attributes := attributes.map (·.given) } =
      { r with
        tags := r.tags ++ [{ name := name.lower, attributes := attributes.map (·.given) }]
        raw := some name.lower } := by
  rw [Reading.addTag, Bool.not_false, Bool.true_and, if_pos (List.contains_iff_mem.mpr known)]

/-- What one part of markup comes to, after the text before it: its tags are added, and nothing else of it
is left. -/
theorem readPieces_part {part : Part} (isMarkup : part.isMarkup = true) (plain : '<' ∉ pending)
    (more : List Char) (fuel : Nat) (enough : (part.chars ++ more).length ≤ fuel) :
    ∃ left, more.length < left ∧
      readPieces false (fuel + 1) { tags, rest := pending ++ (part.chars ++ more) } =
        unescape pending >>= fun _ => readPieces false left { tags := tags ++ part.tags, rest := more } := by
  rw [List.length_append] at enough
  have shorter : more.length < fuel := by
    have filled := Part.chars_pos isMarkup
    omega
  cases part with
  | text => cases isMarkup
  | comment body noMarks noMark =>
      have read : readPiece none _ = _ := readPiece_comment more noMarks noMark
      refine ⟨fuel, shorter, readPieces_of_text rfl rfl plain read ?_⟩
      rw [Part.tags, List.append_nil]
      rfl
  | startTag name attributes other =>
      have read := readPiece_tagChars name attributes more
      refine ⟨fuel, shorter, readPieces_of_text rfl rfl plain read ?_⟩
      rw [Piece.next?, addTag_of_other other]
      rfl
  | endTag name =>
      have read := readPiece_endTagChars name more (afterEndTag?_endTagChars name more)
      refine ⟨fuel, shorter, readPieces_of_text rfl rfl plain read ?_⟩
      rw [Part.tags, List.append_nil]
      rfl
  | script opening attributes body closing opens closes noEnd =>
      let content := body ++ (endTagChars closing ++ more)
      have chars : tagChars opening attributes ++ (body ++ endTagChars closing) ++ more =
          tagChars opening attributes ++ content := by
        simp only [content, List.append_assoc]
      have known : opening.lower ∈ rawElements := opens ▸ .head _
      have same : closing.lower = opening.lower := closes.trans opens.symm
      have read := readPiece_tagChars opening attributes content
      have ends := readPiece_endTagChars closing more (afterEndTag?_of_raw closing more same)
      have found := afterFirst?_rawEnd noEnd closing more
      rw [same] at found
      rw [Part.chars, List.length_append, tagChars, List.length_cons, List.length_append,
        List.length_append, List.length_cons] at enough
      obtain ⟨left, rfl⟩ : ∃ left, fuel = left + 1 := ⟨fuel - 1, by omega⟩
      refine ⟨left, by omega, ?_⟩
      rw [Part.chars, chars]
      refine (readPieces_of_text rfl rfl plain read rfl).trans ?_
      rw [addTag_of_raw known]
      refine congrArg (unescape pending >>= ·) (funext fun _ => ?_)
      exact readPieces_of_raw rfl rfl found (List.cons_ne_nil _ _) ends

/-- Replaces the references in some texts, one after another. -/
def unescapeAll : List (List Char) → Except Problem Unit
  | [] => .ok ()
  | run :: runs => do
    let _ ← unescape run
    unescapeAll runs

/-- What is done after the first reading of a page: what was left is read once more. -/
def finish (fuel : Nat) (r : Reading) : Except Problem (List StartTag) := do
  let r ← readPieces true fuel r
  if r.raw.isNone then
    let _ ← unescape r.rest
  return r.tags

theorem readPieces_nil (final : Bool) (fuel : Nat) :
    readPieces final fuel { tags, rest := [] } = .ok { tags, rest := [] } := by
  cases fuel with
  | zero => rfl
  | succ fuel => rfl

/-- The text at the end of a page is read to its end, or left for later as it may end in a reference. -/
theorem readPieces_of_plain (plain : '<' ∉ pending) (final : Bool) (fuel : Nat) :
    readPieces final (fuel + 1) { tags, rest := pending } =
      if endsInReference pending then .ok { tags, rest := pending }
      else unescape pending >>= fun _ => .ok { tags, rest := [] } := by
  have whole : pending.takeWhile (· != '<') = pending := List.takeWhile_eq_self_iff.mpr (bne_of_not_mem plain)
  cases pending with
  | nil => rfl
  | cons c rest =>
      rw [readPieces, if_neg (by simp)]
      simp only [whole, List.drop_length, List.take_length]
      cases endsInReference (c :: rest) with
      | true => rfl
      | false => rfl

theorem readPieces_atEnd (plain : '<' ∉ pending) (fuel later : Nat) :
    (readPieces false (fuel + 1) { tags, rest := pending } >>= finish later) =
      unescape pending >>= fun _ => .ok tags := by
  rw [readPieces_of_plain plain]
  cases reference : endsInReference pending with
  | true =>
      have again : readPieces true later { tags, rest := pending } = .ok { tags, rest := pending } := by
        cases later with
        | zero => rfl
        | succ later => rw [readPieces_of_plain plain, if_pos reference]
      change finish later { tags, rest := pending } = _
      rw [finish, again]
      rfl
  | false =>
      change (unescape pending >>= fun _ => .ok { tags, rest := [] }) >>= finish later = _
      rw [bind_assoc]
      refine congrArg (unescape pending >>= ·) (funext fun _ => ?_)
      change finish later { tags, rest := [] } = _
      rw [finish, readPieces_nil]
      rfl

theorem textRuns_markup {part : Part} (isMarkup : part.isMarkup = true) (parts : List Part) :
    textRuns pending (part :: parts) = pending :: textRuns [] parts := by
  cases part with
  | text => cases isMarkup
  | comment | startTag | endTag | script => rfl

/-- The parts of a page are read one by one. -/
theorem readPieces_parts (parts : List Part) (plain : '<' ∉ pending) (fuel later : Nat)
    (enough : (pending ++ pageChars parts).length ≤ fuel) :
    (readPieces false (fuel + 1) { tags, rest := pending ++ pageChars parts } >>= finish later) =
      unescapeAll (textRuns pending parts) >>= fun _ => .ok (tags ++ parts.flatMap Part.tags) := by
  -- texts are gathered until markup or the end of the page comes
  induction parts generalizing tags pending fuel with
  | nil =>
      have read : _ = unescape pending >>= fun _ => .ok tags := readPieces_atEnd plain fuel later
      rw [pageChars, List.flatMap_nil, List.append_nil, List.flatMap_nil, List.append_nil, read, textRuns,
        unescapeAll, bind_assoc]
      rfl
  | cons part parts ih =>
      cases isMarkup : part.isMarkup with
      | false =>
          cases part with
          | text chars plainChars =>
              have plain' : '<' ∉ pending ++ chars := by
                rw [List.mem_append]
                exact not_or.mpr ⟨plain, plainChars⟩
              have gathered : pending ++ pageChars (.text chars plainChars :: parts) =
                  (pending ++ chars) ++ pageChars parts := (List.append_assoc ..).symm
              rw [gathered] at enough ⊢
              exact ih plain' fuel enough
          | comment | startTag | endTag | script => cases isMarkup
      | true =>
          have within : (part.chars ++ pageChars parts).length ≤ fuel :=
            Nat.le_trans (List.sublist_append_right pending _).length_le enough
          obtain ⟨left, enough', read⟩ := readPieces_part isMarkup plain (pageChars parts) fuel within
          obtain ⟨left, rfl⟩ : ∃ n, left = n + 1 := ⟨left - 1, by omega⟩
          change (readPieces false (fuel + 1) { tags, rest := pending ++ (part.chars ++ pageChars parts) } >>=
            finish later) = _
          rw [read, bind_assoc, textRuns_markup isMarkup, unescapeAll, bind_assoc]
          refine congrArg (unescape pending >>= ·) (funext fun _ => ?_)
          rw [List.flatMap_cons, ← List.append_assoc]
          exact ih List.not_mem_nil left (Nat.le_of_lt_succ enough')

theorem startTags_pageChars (parts : List Part) :
    startTags (String.ofList (pageChars parts)) =
      unescapeAll (textRuns [] parts) >>= fun _ => .ok (parts.flatMap Part.tags) := by
  rw [startTags, String.toList_ofList]
  exact readPieces_parts parts List.not_mem_nil _ _ (Nat.le_refl _)

end Runs

section Sources

/-- The sources in the start tags of a page. -/
def sourcesOf (tags : List StartTag) : List String :=
  (tags.filter (·.name == "script")).flatMap fun tag =>
    tag.attributes.filterMap fun (name, value) =>
      if name == "src" then value.filter (!·.isEmpty) else none

theorem sourcesOf_append (first second : List StartTag) :
    sourcesOf (first ++ second) = sourcesOf first ++ sourcesOf second := by
  rw [sourcesOf, List.filter_append, List.flatMap_append]
  rfl

theorem sourcesOf_tags (part : Part) : sourcesOf part.tags = part.sources := by
  cases part with
  | text | comment | endTag => rfl
  | startTag name attributes other =>
      have noScript : (name.lower == "script") = false := by
        rw [beq_eq_false_iff_ne]
        intro same
        exact other (same ▸ .head _)
      rw [Part.tags, sourcesOf, List.filter_cons_of_neg (by simp [noScript])]
      rfl
  | script opening attributes body closing opens closes noEnd =>
      rw [Part.tags, sourcesOf, List.filter_cons_of_pos (by simp [opens]), List.filter_nil,
        List.flatMap_cons, List.flatMap_nil, List.append_nil, List.filterMap_map, Part.sources]
      refine List.filterMap_congr ?_
      intro a _
      rw [Function.comp_apply, QuotedAttribute.given]
      by_cases source : a.name.lower = "src"
      · cases value : a.value with
        | nil => simp [source, Option.filter]
        | cons c rest => simp [source, Option.filter]
      · simp [source]

theorem sourcesOf_flatMap (parts : List Part) :
    sourcesOf (parts.flatMap Part.tags) = parts.flatMap Part.sources := by
  induction parts with
  | nil => rfl
  | cons part parts ih =>
      rw [List.flatMap_cons, List.flatMap_cons, sourcesOf_append, sourcesOf_tags, ih]

/-- The references in some texts can all be replaced, or one text holds a number with too many digits. -/
theorem unescapeAll_outcome (runs : List (List Char)) :
    (unescapeAll runs = .ok () ∧ ∀ run ∈ runs, ¬ HoldsLongReference run) ∨
      (∃ count, unescapeAll runs = .error (.tooManyDigits count)) ∧ ∃ run ∈ runs, HoldsLongReference run := by
  induction runs with
  | nil => exact .inl ⟨rfl, List.forall_mem_nil _⟩
  | cons run runs ih =>
      rw [unescapeAll]
      cases read : unescape run with
      | error p =>
          have long := unescape_error_iff.mp ⟨p, read⟩
          obtain ⟨digits, rfl, _⟩ := unescape_error read
          exact .inr ⟨⟨digits.length, rfl⟩, run, .head _, long⟩
      | ok replaced =>
          have short : ¬ HoldsLongReference run := by
            intro long
            obtain ⟨p, failed⟩ := unescape_error_iff.mpr long
            cases read.symm.trans failed
          rcases ih with ⟨done, none⟩ | ⟨failed, other, member, long⟩
          · exact .inl ⟨done, List.forall_mem_cons.mpr ⟨short, none⟩⟩
          · exact .inr ⟨failed, other, .tail _ member, long⟩

variable (parts : List Part)

theorem scriptSources_eq : scriptSources (String.ofList (pageChars parts)) =
    unescapeAll (textRuns [] parts) >>= fun _ => .ok (parts.flatMap Part.sources) := by
  change (startTags (String.ofList (pageChars parts)) >>= fun tags => .ok (sourcesOf tags)) = _
  rw [startTags_pageChars, bind_assoc, ← sourcesOf_flatMap]
  rfl

/-- The scripts that a page loads are those of its script parts, in their order, unless a text between
its markup holds a reference by a number with too many digits: then the page is refused for it. -/
theorem scriptSources_pageChars :
    (scriptSources (String.ofList (pageChars parts)) = .ok (parts.flatMap Part.sources) ↔
      ∀ run ∈ textRuns [] parts, ¬ HoldsLongReference run) ∧
    ((∃ count, scriptSources (String.ofList (pageChars parts)) = .error (.tooManyDigits count)) ↔
      ∃ run ∈ textRuns [] parts, HoldsLongReference run) := by
  rw [scriptSources_eq]
  rcases unescapeAll_outcome (textRuns [] parts) with ⟨done, none⟩ | ⟨⟨count, failed⟩, run, member, long⟩
  · rw [done]
    refine ⟨iff_of_true rfl none, iff_of_false nofun ?_⟩
    rintro ⟨run, member, long⟩
    exact none run member long
  · rw [failed]
    refine ⟨iff_of_false nofun ?_, iff_of_true ⟨count, rfl⟩ ⟨run, member, long⟩⟩
    intro none
    exact none run member long

end Sources

section Pages

def wordScript : Word := ⟨"ScRiPt".toList, by decide, List.all_eq_true.mp (by decide)⟩

def wordSrc : Word := ⟨"SRC".toList, by decide, List.all_eq_true.mp (by decide)⟩

def wordDiv : Word := ⟨"div".toList, by decide, List.all_eq_true.mp (by decide)⟩

def wordTitle : Word := ⟨"title".toList, by decide, List.all_eq_true.mp (by decide)⟩

/-- A page with one script, and with tags that are none: in a comment, in a value and in the script. -/
def guidePage : List Part := [
  .text "fish &amp".toList (by decide),
  .text "; chips ".toList (by decide),
  .comment " <script src=\"a.js\"></script> ".toList (by decide) (by decide),
  .startTag wordDiv [⟨0, wordTitle, "<script src='b.js'>".toList, by decide, by decide⟩] (by decide),
  .script wordScript
    [⟨2, wordTitle, [], by decide, by decide⟩, ⟨0, wordSrc, "p5.js".toList, by decide, by decide⟩]
    "<script src='c.js'>".toList wordScript (by decide) (by decide) (by decide),
  .endTag wordDiv]

theorem HoldsLongReference.length_lt {text : List Char} (long : HoldsLongReference text) :
    Text.maxDigits < text.length := by
  obtain ⟨p, digits, _, within, _, many⟩ := long
  have fits := within.length_le
  rw [List.length_cons, List.length_cons] at fits
  omega

theorem scriptSources_pageChars_guidePage :
    scriptSources (String.ofList (pageChars guidePage)) = .ok ["p5.js"] := by
  have short : ∀ run ∈ textRuns [] guidePage, ¬ HoldsLongReference run := by
    intro run member long
    have small : ∀ run ∈ textRuns [] guidePage, run.length ≤ Text.maxDigits := by decide
    exact absurd long.length_lt (Nat.not_lt.mpr (small run member))
  exact (scriptSources_pageChars guidePage).1.mpr short

/-- A page with no markup, and with a number that has one digit too many. -/
def longNumber : List Part :=
  [.text ("&#".toList ++ List.replicate (Text.maxDigits + 1) '1') (by
    rw [List.mem_append, List.mem_replicate]
    rintro (mark | ⟨_, digit⟩)
    · exact absurd mark (by decide)
    · exact absurd digit (by decide))]

/-- It is not so that every page that is put together of parts has the sources of its scripts. -/
theorem not_scriptSources_longNumber :
    scriptSources (String.ofList (pageChars longNumber)) ≠ .ok (longNumber.flatMap Part.sources) := by
  let text := "&#".toList ++ List.replicate (Text.maxDigits + 1) '1'
  have long : HoldsLongReference text := by
    refine ⟨_, List.replicate (Text.maxDigits + 1) '1', rfl, List.infix_refl _, ?_, ?_⟩
    · intro c member
      rw [List.eq_of_mem_replicate member]
      decide
    · rw [List.length_replicate]
      exact Nat.lt_succ_self _
  obtain ⟨p, failed⟩ := unescape_error_iff.mpr long
  have runs : textRuns [] longNumber = [text] := rfl
  rw [scriptSources_eq, runs, unescapeAll, failed]
  nofun

end Pages

end SketchSurvey.Markup
