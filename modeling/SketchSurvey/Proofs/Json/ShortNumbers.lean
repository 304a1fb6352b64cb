import Mathlib.Data.List.TakeDrop
import Mathlib.Data.List.TakeWhile
import SketchSurvey.Json.Reader
import SketchSurvey.Proofs.Json.Document
import SketchSurvey.Proofs.Text.ShortNumber

/-! All whole numbers in a value that is read can be written again. -/

set_option autoImplicit false

namespace SketchSurvey.Json

open SketchSurvey.Text (IsShort)

/-- All whole numbers in a value are short. -/
inductive Value.HasShortNumbers : Value → Prop where
  | null : HasShortNumbers .null
  | bool (b : Bool) : HasShortNumbers (.bool b)
  | int {n : Int} : IsShort n → HasShortNumbers (.int n)
  | float (x : Number.Double) : HasShortNumbers (.float x)
  | string (s : String) : HasShortNumbers (.string s)
  | array {items : List Value} : (∀ v ∈ items, HasShortNumbers v) → HasShortNumbers (.array items)
  | object {members : List (String × Value)} : (∀ m ∈ members, HasShortNumbers m.2) →
      HasShortNumbers (.object members)

/-- All whole numbers in a value as it stands in a text are short. -/
inductive Document.HasShortNumbers : Document → Prop where
  | null : HasShortNumbers .null
  | bool (b : Bool) : HasShortNumbers (.bool b)
  | int {n : Int} : IsShort n → HasShortNumbers (.int n)
  | float (x : Number.Double) : HasShortNumbers (.float x)
  | string (s : Points) : HasShortNumbers (.string s)
  | array {items : List Document} : (∀ v ∈ items, HasShortNumbers v) → HasShortNumbers (.array items)
  | object {members : Members} : (∀ m ∈ members, HasShortNumbers m.2) → HasShortNumbers (.object members)

theorem Document.HasShortNumbers.toValue {d : Document} (short : d.HasShortNumbers) :
    d.toValue.HasShortNumbers := by
  induction short with
  | null => exact .null
  | bool b => exact .bool b
  | int isShort => exact .int isShort
  | float x => exact .float x
  | string s => exact .string _
  | array _ ih =>
      rw [Document.toValue, valuesOf_eq_map]
      exact .array (List.forall_mem_map.mpr ih)
  | object _ ih =>
      rw [Document.toValue, givenOf_eq_map]
      exact .object (List.forall_mem_map.mpr ih)

theorem forall_mem_put {κ α : Type} [BEq κ] {P : α → Prop} {members : List (κ × α)} {value : α} (key : κ)
    (each : ∀ m ∈ members, P m.2) (new : P value) : ∀ m ∈ put members key value, P m.2 := by
  unfold put
  split
  · intro m member
    obtain ⟨⟨k, v⟩, old, rfl⟩ := List.mem_map.mp member
    dsimp only
    split
    · exact new
    · exact each _ old
  · intro m member
    rcases List.mem_append.mp member with old | last
    · exact each m old
    · exact List.mem_singleton.mp last ▸ new

/-- Reads nothing but values whose numbers are short. -/
structure ReadsShort (read : Except ReadError (Document × Rest)) : Prop where
  holds : ∀ {v r}, read = .ok (v, r) → v.HasShortNumbers

section Readings

theorem readsShort_fail (cause : ReadCause) (position : Nat) : ReadsShort (fail cause position) := ⟨nofun⟩

theorem readsShort_ok {v : Document} (short : v.HasShortNumbers) (r : Rest) : ReadsShort (.ok (v, r)) := by
  constructor
  rintro v r ⟨⟩
  exact short

theorem readsShort_bind {α : Type} {first : Except ReadError α} {next : α → Except ReadError (Document × Rest)}
    (each : ∀ a, first = .ok a → ReadsShort (next a)) : ReadsShort (first >>= next) := by
  cases first with
  | error e => exact ⟨nofun⟩
  | ok a => exact each a rfl

theorem isShort_digitsValue {ds : List Char} (few : ds.length ≤ Text.maxDigits)
    (digits : ∀ c ∈ ds, c.isDigit = true) (negative : Bool) :
    IsShort (if negative then -(digitsValue ds : Int) else digitsValue ds) := by
  have values : ∀ d ∈ ds.map (fun c => c.toNat - 48), d < 10 := by
    intro d member
    obtain ⟨c, inside, rfl⟩ := List.mem_map.mp member
    have isDigit := digits c inside
    simp only [Char.isDigit, Bool.and_eq_true, decide_eq_true_eq, ge_iff_le, UInt32.le_iff_toNat_le] at isDigit
    have high : c.toNat ≤ 57 := isDigit.2
    omega
  have same : digitsValue ds = Text.valueOf (ds.map fun c => c.toNat - 48) := by
    rw [digitsValue, Text.valueOf, List.foldl_map]
  rw [same]
  exact Text.isShort_valueOf values (by rwa [List.length_map]) negative

theorem isDigit_of_readWhole? {cs ds rest : List Char} (read : readWhole? cs = some (ds, rest)) :
    ∀ c ∈ ds, c.isDigit = true := by
  unfold readWhole? at read
  split at read
  · obtain ⟨rfl, -⟩ := Prod.mk.inj (Option.some.inj read)
    exact List.forall_mem_singleton.mpr rfl
  · split at read
    · intro c member
      have whole := congrArg Prod.fst (Option.some.inj read)
      rw [takeDigits, List.span_eq_takeWhile_dropWhile] at whole
      dsimp only at whole
      exact List.mem_takeWhile_imp (whole ▸ member)
    · cases read
  · cases read

theorem readsShort_readNumber (r : Rest) : ReadsShort (readNumber r) := by
  unfold readNumber
  generalize readSign r.chars = signed
  obtain ⟨negative, cs⟩ := signed
  dsimp only
  split
  · exact readsShort_fail ..
  · next whole cs isWhole =>
      split
      · split
        · split
          · exact readsShort_fail ..
          · next few =>
              exact readsShort_ok (.int (isShort_digitsValue (Nat.not_lt.mp few)
                (isDigit_of_readWhole? isWhole) negative)) _
        · exact readsShort_ok (.float _) _
      · split
        · exact readsShort_ok (.float _) _
        · exact readsShort_ok (.float _) _

theorem hasShortNumbers_of_readWord? {r r' : Rest} {v : Document} (read : readWord? r = some (v, r')) :
    v.HasShortNumbers := by
  have each : ∀ word ∈ words, word.2.HasShortNumbers := by
    simp only [words, List.forall_mem_cons]
    exact ⟨.null, .bool _, .bool _, .float _, .float _, .float _, List.forall_mem_nil _⟩
  obtain ⟨⟨word, value⟩, member, found⟩ := List.exists_of_findSome?_eq_some read
  dsimp only at found
  split at found
  · obtain ⟨rfl, -⟩ := Prod.mk.inj (Option.some.inj found)
    exact each _ member
  · cases found

/-- Each of the three readers keeps it so, with less fuel for the values within. -/
theorem readsShort_within (fuel : Nat) : (∀ r, ReadsShort (readValue fuel r)) ∧
    (∀ r acc, (∀ m ∈ acc, m.2.HasShortNumbers) → ReadsShort (readMembers fuel r acc)) ∧
    (∀ r acc, (∀ v ∈ acc, v.HasShortNumbers) → ReadsShort (readItems fuel r acc)) := by
  induction fuel with
  | zero =>
      refine ⟨fun r => ?_, fun r acc _ => ?_, fun r acc _ => ?_⟩
      · rw [readValue]
        exact readsShort_fail ..
      · rw [readMembers]
        exact readsShort_fail ..
      · rw [readItems]
        exact readsShort_fail ..
  | succ fuel ih =>
      obtain ⟨values, members, items⟩ := ih
      refine ⟨fun r => ?_, fun r acc short => ?_, fun r acc short => ?_⟩
      · rw [readValue]
        split
        · exact readsShort_bind fun s _ => readsShort_ok (.string _) _
        · dsimp only
          split
          · exact readsShort_ok (.object (List.forall_mem_nil _)) _
          · exact members _ _ (List.forall_mem_nil _)
        · dsimp only
          split
          · exact readsShort_ok (.array (List.forall_mem_nil _)) _
          · exact items _ _ (List.forall_mem_nil _)
        · split
          · next found isFound => exact readsShort_ok (hasShortNumbers_of_readWord? isFound) _
          · exact readsShort_readNumber r
      · rw [readMembers]
        split
        · refine readsShort_bind fun key _ => ?_
          dsimp only
          split
          · refine readsShort_bind fun value isValue => ?_
            have more := forall_mem_put key.1 short ((values _).holds isValue)
            split
            · exact readsShort_ok (.object more) _
            · exact members _ _ more
            · exact readsShort_fail ..
          · exact readsShort_fail ..
        · exact readsShort_fail ..
      · rw [readItems]
        refine readsShort_bind fun value isValue => ?_
        have more := List.forall_mem_cons.mpr ⟨(values _).holds isValue, short⟩
        dsimp only
        split
        · refine readsShort_ok (.array fun v member => more v ?_) _
          exact List.mem_reverse.mp member
        · exact items _ _ more
        · exact readsShort_fail ..

end Readings

/-- All whole numbers in a text that is read as a value are short. -/
theorem hasShortNumbers_of_parseDocument {text : String} {v : Document} (read : parseDocument text = .ok v) :
    v.HasShortNumbers := by
  unfold parseDocument at read
  split at read
  · cases read
  · cases done : readValue (2 * text.toList.length + 2) (Rest.mk 0 text.toList).skipSpace with
    | error e => simp [done, bind, Except.bind] at read
    | ok found =>
        simp only [done, bind, Except.bind, pure, Except.pure] at read
        split at read
        · rw [← Except.ok.inj read]
          exact ((readsShort_within _).1 _).holds done
        · cases read

end SketchSurvey.Json
