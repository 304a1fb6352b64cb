import SketchSurvey.Json.Reader
import SketchSurvey.Proofs.Json.Quote

/-! The language of written values: how numbers, texts, arrays and objects are spelled, and which value a
spelling stands for. Of the members of an object that have one key, the last one counts. -/

set_option autoImplicit false

namespace SketchSurvey.Json

open SketchSurvey.Number

/-- Nothing but white space stands before the rest of a text. -/
def Blanks (cs rest : List Char) : Prop :=
  ∃ blanks, (∀ c ∈ blanks, isSpace c = true) ∧ cs = blanks ++ rest

/-- The spelling starts with the code of a second half of a pair. -/
def StartsLow (cs : List Char) : Prop :=
  ∃ digits low rest, cs = '\\' :: 'u' :: (digits ++ rest) ∧ hex4? digits = some low ∧ isLowHalf low = true

/-- What stands between the quotes of a text, and the points that it stands for. The codes of two halves that
make a pair stand for one character, and any other code stands for itself. -/
inductive SpellsText : List Char → Points → Prop where
  | nil : SpellsText [] []
  | plain {c : Char} {cs : List Char} {text : Points} : c ≠ '"' → c ≠ '\\' → 0x20 ≤ c.toNat →
      SpellsText cs text → SpellsText (c :: cs) (c.toNat :: text)
  | short {d c : Char} {cs : List Char} {text : Points} : (d, c) ∈ ('/', '/') :: shortEscapes →
      SpellsText cs text → SpellsText ('\\' :: d :: cs) (c.toNat :: text)
  | code {digits cs : List Char} {text : Points} {n : Nat} : hex4? digits = some n →
      ¬ (isHighHalf n = true ∧ StartsLow cs) →
      SpellsText cs text → SpellsText ('\\' :: 'u' :: (digits ++ cs)) (n :: text)
  | pair {high low cs : List Char} {text : Points} {h l : Nat} : hex4? high = some h →
      isHighHalf h = true → hex4? low = some l → isLowHalf l = true → SpellsText cs text →
      SpellsText ('\\' :: 'u' :: (high ++ '\\' :: 'u' :: (low ++ cs)))
        ((0x10000 + (h - 0xD800) * 1024 + (l - 0xDC00)) :: text)

/-- Digits, and at least one. -/
structure AreDigits (ds : List Char) : Prop where
  nonempty : ds ≠ []
  digits : ∀ c ∈ ds, c.isDigit = true

/-- The digits of a whole number, which start with a zero only if there are no more. -/
structure IsWhole (ds : List Char) : Prop extends AreDigits ds where
  first : ds.head? = some '0' → ds = ['0']

/-- The sign of a number: none, or a minus. -/
def minusIf (negative : Bool) : List Char := if negative then ['-'] else []

/-- A point with digits behind it, or nothing. -/
inductive SpellsFraction : List Char → List Char → Prop where
  | absent : SpellsFraction [] []
  | given {ds : List Char} : AreDigits ds → SpellsFraction ('.' :: ds) ds

/-- A power of ten, or nothing. -/
inductive SpellsExponent : List Char → Int → Prop where
  | absent : SpellsExponent [] 0
  | given {e : Char} {sign ds : List Char} : e ∈ ['e', 'E'] → sign ∈ [[], ['+'], ['-']] → AreDigits ds →
      SpellsExponent (e :: (sign ++ ds)) (if sign = ['-'] then -(digitsValue ds : Int) else digitsValue ds)

/-- A number is whole if it has neither a fraction nor an exponent; then it has no more digits than are
read. -/
inductive SpellsNumber : List Char → Document → Prop where
  | whole {ds : List Char} (negative : Bool) : IsWhole ds → ds.length ≤ Text.maxDigits →
      SpellsNumber (minusIf negative ++ ds) (.int (if negative then -(digitsValue ds : Int) else digitsValue ds))
  | decimal {ds fraction point power : List Char} {n : Int} (negative : Bool) : IsWhole ds →
      SpellsFraction point fraction → SpellsExponent power n → point ++ power ≠ [] →
      SpellsNumber (minusIf negative ++ (ds ++ (point ++ power)))
        (.float (.ofDecimal negative (digitsValue (ds ++ fraction)) (n - fraction.length)))

/-- An object of some members: one for each key, the last one of them. -/
def Document.ofMembers (ms : Members) : Document := .object (putAll [] ms)

/-- What is spelled: a value; or what is within the brackets of an array or an object, the closing one
included. -/
inductive Part where
  | value (v : Document)
  | items (vs : List Document)
  | members (ms : Members)

/-- A key in its quotes and a colon, and white space around them. -/
def SpellsKey (cs : List Char) (key : Points) (rest : List Char) : Prop :=
  ∃ content behind next, Blanks cs ('"' :: (content ++ '"' :: behind)) ∧ SpellsText content key ∧
    Blanks behind (':' :: next) ∧ Blanks next rest

/-- Some characters start with the spelling of a part, and the others are the rest. -/
inductive Spells : List Char → Part → List Char → Prop where
  | word {spelling : String} {v : Document} {rest : List Char} : (spelling, v) ∈ words →
      Spells (spelling.toList ++ rest) (.value v) rest
  | number {cs rest : List Char} {v : Document} : SpellsNumber cs v → Spells (cs ++ rest) (.value v) rest
  | text {content rest : List Char} {text : Points} : SpellsText content text →
      Spells ('"' :: (content ++ '"' :: rest)) (.value (.string text)) rest
  | emptyArray {cs rest : List Char} : Blanks cs (']' :: rest) → Spells ('[' :: cs) (.value (.array [])) rest
  | array {cs rest : List Char} {vs : List Document} : Spells cs (.items vs) rest →
      Spells ('[' :: cs) (.value (.array vs)) rest
  | emptyObject {cs rest : List Char} : Blanks cs ('\x7d' :: rest) →
      Spells ('\x7b' :: cs) (.value (.object [])) rest
  | object {cs rest : List Char} {ms : Members} : Spells cs (.members ms) rest →
      Spells ('\x7b' :: cs) (.value (.ofMembers ms)) rest
  | lastItem {cs start stop rest : List Char} {v : Document} : Blanks cs start → Spells start (.value v) stop →
      Blanks stop (']' :: rest) → Spells cs (.items [v]) rest
  | nextItem {cs start stop more rest : List Char} {v : Document} {vs : List Document} : Blanks cs start →
      Spells start (.value v) stop → Blanks stop (',' :: more) → Spells more (.items vs) rest →
      Spells cs (.items (v :: vs)) rest
  | lastMember {cs start stop rest : List Char} {key : Points} {v : Document} : SpellsKey cs key start →
      Spells start (.value v) stop → Blanks stop ('\x7d' :: rest) → Spells cs (.members [(key, v)]) rest
  | nextMember {cs start stop more rest : List Char} {key : Points} {v : Document} {ms : Members} :
      SpellsKey cs key start → Spells start (.value v) stop → Blanks stop (',' :: more) →
      Spells more (.members ms) rest → Spells cs (.members ((key, v) :: ms)) rest

/-- A text that is one value, with white space around it. -/
def IsDocument (cs : List Char) (v : Document) : Prop :=
  ∃ start stop, Blanks cs start ∧ Spells start (.value v) stop ∧ Blanks stop []

/-- A text that is one object, with these members in its text. -/
inductive IsObject (cs : List Char) : Members → Prop where
  | empty {start stop : List Char} : Blanks cs ('\x7b' :: start) → Blanks start ('\x7d' :: stop) →
      Blanks stop [] → IsObject cs []
  | filled {start stop : List Char} {ms : Members} : Blanks cs ('\x7b' :: start) →
      Spells start (.members ms) stop → Blanks stop [] → IsObject cs ms

/-- A text is an object exactly if it has members. -/
theorem isDocument_object_iff {cs : List Char} {given : Members} :
    IsDocument cs (.object given) ↔ ∃ ms, IsObject cs ms ∧ Document.ofMembers ms = .object given := by
  constructor
  · rintro ⟨start, stop, before, spelled, after⟩
    cases spelled with
    | word known => simp [words] at known
    | number isNumber => nomatch isNumber
    | emptyObject closed => exact ⟨[], .empty before closed after, rfl⟩
    | object members => exact ⟨_, .filled before members after, rfl⟩
  · rintro ⟨ms, isObject, same⟩
    rw [← same]
    cases isObject with
    | empty before closed after => exact ⟨_, _, before, .emptyObject closed, after⟩
    | filled before members after => exact ⟨_, _, before, .object members, after⟩

end SketchSurvey.Json
