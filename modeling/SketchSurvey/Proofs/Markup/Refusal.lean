import Mathlib.Data.List.Infix
import Mathlib.Data.List.TakeWhile
import SketchSurvey.Markup.Page

/-! The pages that are refused. Reading a page fails only on a reference whose number has too many
digits, or on a marked section that starts with no word, or with one that is not known, and then the
page does hold it: what is read at any time is a part of the page. -/

set_option autoImplicit false

namespace SketchSurvey.Markup

open SketchSurvey.Text (isBlank maxDigits)

/-- The words that a marked section can start with. -/
def sectionWords : List String :=
  ["temp", "cdata", "ignore", "include", "rcdata"] ++ ["if", "else", "endif"]

def sectionMark : List Char := "<![".toList

/-- The word that a marked section starts with, and the white space after it. -/
def sectionName (cs : List Char) : List Char := cs.takeWhile isSectionNameChar

def sectionSpace (cs : List Char) : List Char := (cs.drop (sectionName cs).length).takeWhile isBlank

/-- What is refused stands in a text, and is quoted from there. -/
inductive Problem.OccursIn (text : List Char) : Problem → Prop where
  | unknownSection (c : Char) (rest : List Char) (stands : sectionMark ++ c :: rest <:+ text)
      (letter : isAsciiLetter c = true)
      (unknown : String.ofList ((sectionName (c :: rest)).map Char.toLower) ∉ sectionWords) :
      OccursIn text (.unknownSection
        (String.ofList (sectionName (c :: rest) ++ sectionSpace (c :: rest))))
  | unnamedSection (c : Char) (rest : List Char) (stands : sectionMark ++ c :: rest <:+ text)
      (noLetter : isAsciiLetter c = false) :
      OccursIn text (.unnamedSection (String.ofList (sectionMark ++ (c :: rest).take 17)))
  | tooManyDigits (digits : List Char) (stands : '&' :: '#' :: digits <:+: text)
      (areDigits : ∀ c ∈ digits, c.isDigit = true) (many : maxDigits < digits.length) :
      OccursIn text (.tooManyDigits digits.length)

/-- A number with too many digits stands in a text. -/
def Problem.IsLongReference (p : Problem) (text : List Char) : Prop :=
  ∃ digits, p = .tooManyDigits digits.length ∧ '&' :: '#' :: digits <:+: text ∧
    (∀ c ∈ digits, c.isDigit = true) ∧ maxDigits < digits.length

namespace Problem

variable {p : Problem} {part text : List Char}

theorem IsLongReference.mono (long : p.IsLongReference part) (within : part <:+: text) :
    p.IsLongReference text := by
  obtain ⟨digits, same, stands, areDigits, many⟩ := long
  exact ⟨digits, same, stands.trans within, areDigits, many⟩

theorem IsLongReference.occursIn (long : p.IsLongReference text) : p.OccursIn text := by
  obtain ⟨digits, rfl, stands, areDigits, many⟩ := long
  exact .tooManyDigits digits stands areDigits many

theorem OccursIn.mono (occurs : p.OccursIn part) (within : part <:+ text) : p.OccursIn text := by
  cases occurs with
  | unknownSection c rest stands letter unknown =>
      exact .unknownSection c rest (stands.trans within) letter unknown
  | unnamedSection c rest stands noLetter =>
      exact .unnamedSection c rest (stands.trans within) noLetter
  | tooManyDigits digits stands areDigits many =>
      exact .tooManyDigits digits (stands.trans within.isInfix) areDigits many

end Problem

section Sequencing

variable {ε α β : Type} {m : Except ε α} {f : α → Except ε β}

theorem error_of_bind {e : ε} (failed : m >>= f = .error e) :
    m = .error e ∨ ∃ a, m = .ok a ∧ f a = .error e := by
  cases m with
  | error => exact .inl (by cases failed; rfl)
  | ok a => exact .inr ⟨a, rfl, failed⟩

theorem ok_of_bind {b : β} (done : m >>= f = .ok b) : ∃ a, m = .ok a ∧ f a = .ok b := by
  cases m with
  | error => cases done
  | ok a => exact ⟨a, rfl, done⟩

end Sequencing

/-! References. -/

theorem dropSemicolon_suffix (cs : List Char) : dropSemicolon cs <:+ cs := by
  rw [dropSemicolon.eq_def]
  split
  · exact List.suffix_cons _ _
  · exact List.suffix_refl _

/-- The semicolon after a name is a part of it. -/
theorem afterName_suffix (name cs : List Char) :
    (match cs.drop name.length with
      | ';' :: rest => (name ++ [';'], rest)
      | _ => (name, cs.drop name.length)).2 <:+ cs := by
  split
  · next rest same => exact (List.suffix_cons _ _).trans (same ▸ List.drop_suffix _ _)
  · exact List.drop_suffix _ _

theorem readReference_suffix {cs value after : List Char}
    (done : readReference cs = .ok (value, after)) : after <:+ cs := by
  rw [readReference.eq_def] at done
  split at done
  · next c rest =>
      have inside : c :: rest <:+ '#' :: c :: rest := List.suffix_cons _ _
      have left (n : Nat) (part : List Char) : dropSemicolon (part.drop n) <:+ part :=
        (dropSemicolon_suffix _).trans (List.drop_suffix _ _)
      dsimp only at done
      split at done
      · cases done
        exact ((left _ _).trans (List.suffix_cons _ _)).trans inside
      · split at done
        · cases done
          exact List.suffix_refl _
        · split at done
          · cases done
          · cases done
            exact (left _ _).trans inside
  · dsimp only at done
    split at done
    · cases done
      exact List.suffix_refl _
    · split at done
      · cases done
        exact afterName_suffix _ cs
      · split at done
        · cases done
          exact afterName_suffix _ cs
        · cases done
          exact afterName_suffix _ cs

theorem readReference_error {cs : List Char} {p : Problem} (failed : readReference cs = .error p) :
    p.IsLongReference ('&' :: cs) := by
  rw [readReference.eq_def] at failed
  split at failed
  · next c rest =>
      dsimp only at failed
      split at failed
      · cases failed
      · split at failed
        · cases failed
        · split at failed
          · next many =>
              cases failed
              refine ⟨_, rfl, ?_, fun d => List.mem_takeWhile_imp, many⟩
              exact ((List.prefix_cons_inj _).mpr
                ((List.prefix_cons_inj _).mpr (List.takeWhile_prefix _))).isInfix
          · cases failed
  · dsimp only at failed
    split at failed
    · cases failed
    · split at failed
      · cases failed
      · split at failed <;> cases failed

theorem unescapeFrom_error {p : Problem} (fuel : Nat) {cs : List Char}
    (failed : unescapeFrom fuel cs = .error p) : p.IsLongReference cs := by
  induction fuel generalizing cs with
  | zero => cases failed
  | succ fuel ih =>
      cases cs with
      | nil => cases failed
      | cons c rest =>
          rw [unescapeFrom] at failed
          split at failed
          · next mark =>
              subst mark
              rcases error_of_bind failed with early | ⟨⟨value, after⟩, done, failed⟩
              · exact readReference_error early
              · rcases error_of_bind failed with late | ⟨_, _, done⟩
                · exact (ih late).mono ((readReference_suffix done).isInfix.trans
                    (List.suffix_cons _ _).isInfix)
                · cases done
          · rcases error_of_bind failed with late | ⟨_, _, done⟩
            · exact (ih late).mono (List.suffix_cons _ _).isInfix
            · cases done

theorem unescape_error {p : Problem} {cs : List Char} (failed : unescape cs = .error p) :
    p.IsLongReference cs :=
  unescapeFrom_error _ failed

/-! Attributes. -/

theorem Spot.rest_skip (s : Spot) (n : Nat) : (s.skip n).rest = s.rest.drop n := by
  induction n generalizing s with
  | zero => rfl
  | succ n ih =>
      rw [Spot.skip]
      split
      · next c rest same => rw [ih, same, List.drop_succ_cons]
      · next same => rw [same, List.drop_nil]

theorem Spot.skip_suffix (s : Spot) (n : Nat) : (s.skip n).rest <:+ s.rest :=
  s.rest_skip n ▸ List.drop_suffix n s.rest

theorem attributeAt?_suffix {s : Spot} {a : WrittenAttribute} (found : attributeAt? s = some a) :
    a.next.rest <:+ s.rest ∧ ∀ value ∈ a.value, value <:+: s.rest := by
  rw [attributeAt?.eq_def] at found
  split at found
  · next c rest same =>
      split at found
      · dsimp only at found
        split at found
        · cases found
          refine ⟨?_, ?_⟩
          · exact ((Spot.skip_suffix _ _).trans (Spot.skip_suffix _ _)).trans (Spot.skip_suffix _ _)
          · rintro _ ⟨⟩
            rw [Spot.rest_skip]
            exact (List.take_prefix _ _).isInfix.trans
              ((List.drop_suffix _ _).trans (List.drop_suffix _ _)).isInfix
        · cases found
          exact ⟨(Spot.skip_suffix _ _).trans (Spot.skip_suffix _ _), nofun⟩
      · cases found
  · cases found

theorem stripQuotes_within (value : List Char) : stripQuotes value <:+: value := by
  rw [stripQuotes.eq_def]
  split
  · split
    · exact (List.dropLast_prefix _).isInfix.trans (List.suffix_cons _ _).isInfix
    · exact List.infix_refl _
  · exact List.infix_refl _

theorem readAttributes_error {p : Problem} (after fuel : Nat) {s : Spot}
    (failed : readAttributes after fuel s = .error p) : p.IsLongReference s.rest := by
  induction fuel generalizing s with
  | zero => cases failed
  | succ fuel ih =>
      rw [readAttributes] at failed
      split at failed
      · split at failed
        · next a found =>
            obtain ⟨onward, inside⟩ := attributeAt?_suffix found
            rcases error_of_bind failed with early | ⟨value, -, failed⟩
            · cases written : a.value with
              | none =>
                  rw [written] at early
                  cases early
              | some value =>
                  rw [written] at early
                  rcases error_of_bind early with refused | ⟨_, _, done⟩
                  · exact ((unescape_error refused).mono (stripQuotes_within value)).mono
                      (inside value written)
                  · cases done
            · rcases error_of_bind failed with late | ⟨_, _, done⟩
              · exact (ih late).mono onward.isInfix
              · cases done
        · cases failed
      · cases failed

theorem readStartTag_error {cs : List Char} {length : Nat} {p : Problem}
    (failed : readStartTag cs length = .error p) : p.IsLongReference cs := by
  rw [readStartTag] at failed
  rcases error_of_bind failed with refused | ⟨⟨attributes, rest⟩, -, done⟩
  · refine (readAttributes_error _ _ refused).mono ?_
    exact (((Spot.skip_suffix _ _).trans (Spot.skip_suffix _ _)).trans (List.drop_suffix _ _)).isInfix
  · dsimp only at done
    split at done
    · cases done
    · split at done <;> cases done

/-! Declarations and marked sections. -/

theorem afterFirst?_suffix {test : List Char → Option (List Char)}
    (shortens : ∀ cs after, test cs = some after → after <:+ cs) {cs after : List Char}
    (found : afterFirst? test cs = some after) : after <:+ cs := by
  induction cs with
  | nil => exact shortens _ _ found
  | cons c rest ih =>
      rw [afterFirst?] at found
      split at found
      · next same =>
          cases found
          exact shortens _ _ same
      · exact (ih found).trans (List.suffix_cons _ _)

theorem afterClose?_suffix {cs after : List Char} (found : afterClose? cs = some after) :
    after <:+ cs := by
  induction cs with
  | nil => cases found
  | cons c rest ih =>
      rw [afterClose?] at found
      split at found
      · cases found
        exact List.suffix_cons _ _
      · exact (ih found).trans (List.suffix_cons _ _)

/-- The closing mark after some white space. -/
theorem suffix_of_dropWhile {test : Char → Bool} {c : Char} {cs after : List Char}
    (same : cs.dropWhile test = c :: after) : after <:+ cs :=
  (List.suffix_cons c after).trans (same ▸ List.dropWhile_suffix test)

theorem afterComment?_suffix {cs after : List Char} (found : afterComment? cs = some after) :
    after <:+ cs := by
  refine afterFirst?_suffix ?_ found
  intro cs after closed
  split at closed
  · split at closed
    · next same =>
        cases closed
        exact ((suffix_of_dropWhile same).trans (List.suffix_cons _ _)).trans (List.suffix_cons _ _)
    · cases closed
  · cases closed

theorem officeEnd?_suffix (cs after : List Char) (found : officeEnd? cs = some after) :
    after <:+ cs := by
  rw [officeEnd?.eq_def] at found
  split at found
  · split at found
    · next same =>
        cases found
        exact (suffix_of_dropWhile same).trans (List.suffix_cons _ _)
    · cases found
  · cases found

theorem sectionEnd?_suffix (cs after : List Char) (found : sectionEnd? cs = some after) :
    after <:+ cs := by
  rw [sectionEnd?.eq_def] at found
  split at found
  · exact ((officeEnd?_suffix _ _ found).trans (List.dropWhile_suffix _)).trans (List.suffix_cons _ _)
  · cases found

theorem afterSection?_suffix {cs after : List Char} (done : afterSection? cs = .ok (some after)) :
    after <:+ cs := by
  rw [afterSection?.eq_def] at done
  split at done
  · cases done
  · split at done
    · dsimp only at done
      split at done
      · cases done
      · split at done
        · exact afterFirst?_suffix sectionEnd?_suffix (Except.ok.inj done)
        · split at done
          · exact afterFirst?_suffix officeEnd?_suffix (Except.ok.inj done)
          · cases done
    · cases done

theorem afterSection?_error {cs : List Char} {p : Problem} (failed : afterSection? cs = .error p) :
    p.OccursIn (sectionMark ++ cs) := by
  rw [afterSection?.eq_def] at failed
  split at failed
  · cases failed
  · next c rest =>
      split at failed
      · next letter =>
          dsimp only at failed
          split at failed
          · cases failed
          · split at failed
            · cases failed
            · next first =>
                split at failed
                · cases failed
                · next second =>
                    cases failed
                    refine .unknownSection c rest (List.suffix_refl _) letter ?_
                    rw [List.contains_iff_mem] at first second
                    rw [sectionWords, List.mem_append]
                    exact not_or.mpr ⟨first, second⟩
      · next noLetter =>
          cases failed
          exact .unnamedSection c rest (List.suffix_refl _) (Bool.not_eq_true _ ▸ noLetter)

theorem afterDeclaration?_suffix {cs after : List Char}
    (done : afterDeclaration? cs = .ok (some after)) : after <:+ cs := by
  rw [afterDeclaration?] at done
  split at done
  · exact (afterSection?_suffix done).trans (List.drop_suffix _ _)
  · split at done
    · exact (afterClose?_suffix (Except.ok.inj done)).trans (List.drop_suffix _ _)
    · exact (afterClose?_suffix (Except.ok.inj done)).trans (List.drop_suffix _ _)

theorem afterDeclaration?_error {cs : List Char} {p : Problem}
    (failed : afterDeclaration? cs = .error p) : p.OccursIn cs := by
  rw [afterDeclaration?] at failed
  split at failed
  · next start =>
      obtain ⟨rest, rfl⟩ := List.isPrefixOf_iff_prefix.mp start
      exact afterSection?_error failed
  · split at failed <;> cases failed

/-! Pieces of a page. -/

theorem afterEndTag?_suffix {raw raw' : RawElement} {cs after : List Char}
    (found : afterEndTag? raw cs = some (after, raw')) : after <:+ cs := by
  rw [afterEndTag?.eq_def] at found
  split at found
  · cases found
  · next closed =>
      have left := (afterClose?_suffix closed).trans (List.drop_suffix _ _)
      split at found <;> (cases found; exact left)

/-- What follows a piece that does not break off. -/
def Piece.after? : Piece → Option (List Char)
  | .startTag _ after => some after
  | .other after _ => some after
  | .broken => none
  | .lone => none

theorem after?_elim {found : Option (List Char)} {raw : RawElement} {after : List Char}
    (same : (found.elim Piece.broken (.other · raw)).after? = some after) : found = some after := by
  cases found with
  | none => cases same
  | some rest => exact same

theorem readPiece_suffix {raw : RawElement} {cs after : List Char} {piece : Piece}
    (done : readPiece raw cs = .ok piece) (left : piece.after? = some after) : after <:+ cs := by
  rw [readPiece.eq_def] at done
  split at done
  · split at done
    · next found =>
        cases done
        cases left
        exact afterEndTag?_suffix found
    · cases done
      cases left
  · cases done
    exact ((afterClose?_suffix (after?_elim left)).trans (List.suffix_cons _ _)).trans
      (List.suffix_cons _ _)
  · split at done
    · cases done
      exact (afterComment?_suffix (after?_elim left)).trans (List.drop_suffix _ _)
    · obtain ⟨found, declared, done⟩ := ok_of_bind done
      cases done
      exact afterDeclaration?_suffix (after?_elim left ▸ declared)
  · split at done
    · split at done
      · obtain ⟨tag, -, done⟩ := ok_of_bind done
        cases done
        cases left
        exact List.drop_suffix _ _
      · cases done
        cases left
    · cases done
      cases left
      exact List.suffix_cons _ _
  · cases done
    cases left

theorem readPiece_error {raw : RawElement} {cs : List Char} {p : Problem}
    (failed : readPiece raw cs = .error p) : p.OccursIn cs := by
  rw [readPiece.eq_def] at failed
  split at failed
  · split at failed <;> cases failed
  · cases failed
  · split at failed
    · cases failed
    · rcases error_of_bind failed with refused | ⟨_, _, done⟩
      · exact afterDeclaration?_error refused
      · cases done
  · split at failed
    · split at failed
      · rcases error_of_bind failed with refused | ⟨_, _, done⟩
        · exact (readStartTag_error refused).occursIn
        · cases done
      · cases failed
    · cases failed
  · cases failed

theorem afterBroken_suffix (cs : List Char) : afterBroken cs <:+ cs := by
  rw [afterBroken]
  split
  · next closed => exact (afterClose?_suffix closed).trans (List.drop_suffix _ _)
  · split
    · exact List.drop_suffix _ _
    · exact (List.dropWhile_suffix _).trans (List.drop_suffix _ _)

/-- A reading of a text goes forward in it, and fails only on what stands there. -/
structure Stays (text : List Char) (result : Except Problem Reading) : Prop where
  forward : ∀ r, result = .ok r → r.rest <:+ text
  failure : ∀ p, result = .error p → p.OccursIn text

namespace Stays

variable {text : List Char}

theorem done {r : Reading} (forward : r.rest <:+ text) : Stays text (.ok r) where
  forward := by
    rintro _ ⟨⟩
    exact forward
  failure := nofun

theorem ite {c : Prop} [Decidable c] {yes no : Except Problem Reading} (stays : Stays text yes)
    (others : Stays text no) : Stays text (if c then yes else no) := by
  split
  · exact stays
  · exact others

theorem bind {α : Type} {m : Except Problem α} {f : α → Except Problem Reading}
    (first : ∀ p, m = .error p → p.OccursIn text) (next : ∀ a, m = .ok a → Stays text (f a)) :
    Stays text (m >>= f) where
  forward := by
    intro r result
    obtain ⟨a, same, result⟩ := ok_of_bind result
    exact (next a same).forward r result
  failure := by
    intro p result
    rcases error_of_bind result with early | ⟨a, same, late⟩
    · exact first p early
    · exact (next a same).failure p late

/-- References are looked for only in text that has been come to. -/
theorem unescaped {part : List Char} {next : Except Problem Reading} (c : Prop) [Decidable c]
    (within : part <:+: text) (stays : Stays text next) :
    Stays text (if c then unescape part >>= fun _ => next else next) := by
  split
  · exact .bind (fun p failed => ((unescape_error failed).mono within).occursIn) fun _ _ => stays
  · exact stays

theorem mono {part : List Char} {result : Except Problem Reading} (stays : Stays part result)
    (within : part <:+ text) : Stays text result where
  forward := fun r same => (stays.forward r same).trans within
  failure := fun p same => (stays.failure p same).mono within

end Stays

theorem readPieces_stays (final : Bool) (fuel : Nat) (r : Reading) :
    Stays r.rest (readPieces final fuel r) := by
  induction fuel generalizing r with
  | zero => exact .done (List.suffix_refl _)
  | succ fuel ih =>
      rw [readPieces]
      refine .ite (.done (List.suffix_refl _)) ?_
      dsimp only
      refine .ite (.done (List.suffix_refl _)) ?_
      refine .unescaped _ (List.take_prefix _ _).isInfix ?_
      refine .ite (.done (List.drop_suffix _ _)) ?_
      refine .bind (fun p failed => (readPiece_error failed).mono (List.drop_suffix _ _))
        fun piece read => ?_
      have left {after : List Char} (same : piece.after? = some after) : after <:+ r.rest :=
        (readPiece_suffix read same).trans (List.drop_suffix _ _)
      cases piece with
      | startTag tag after =>
          cases tag with
          | none => exact (ih _).mono (left rfl)
          | some tag => exact (ih _).mono (left rfl)
      | other after raw => exact (ih _).mono (left rfl)
      | lone => exact .done (List.drop_suffix _ _)
      | broken =>
          refine .ite (.unescaped _ ?_ ((ih _).mono ?_)) (.done (List.drop_suffix _ _))
          · exact (List.take_prefix _ _).isInfix.trans (List.drop_suffix _ _).isInfix
          · exact (afterBroken_suffix _).trans (List.drop_suffix _ _)

/-- Reading a page fails only if what it fails on stands in the page. -/
theorem occursIn_of_scriptSources {page : String} {p : Problem}
    (failed : scriptSources page = .error p) : p.OccursIn page.toList := by
  rw [scriptSources] at failed
  rcases error_of_bind failed with refused | ⟨_, _, done⟩
  · rw [startTags] at refused
    rcases error_of_bind refused with early | ⟨first, read, refused⟩
    · exact (readPieces_stays false _ _).failure p early
    · have forward : first.rest <:+ page.toList := (readPieces_stays false _ _).forward first read
      rcases error_of_bind refused with late | ⟨second, read, refused⟩
      · exact ((readPieces_stays true _ _).failure p late).mono forward
      · have onward := ((readPieces_stays true _ _).forward second read).trans forward
        split at refused
        · rcases error_of_bind refused with atEnd | ⟨_, _, done⟩
          · exact ((unescape_error atEnd).mono onward.isInfix).occursIn
          · cases done
        · cases refused
  · cases done

end SketchSurvey.Markup
