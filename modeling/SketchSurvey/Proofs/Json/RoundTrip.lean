import SketchSurvey.Json.Writer
import SketchSurvey.Proofs.Json.Completeness
import SketchSurvey.Proofs.Json.Document
import SketchSurvey.Proofs.Text.ShortNumber

/-! What is written can be read: what is written for a value spells that value. -/

set_option autoImplicit false

namespace SketchSurvey.Json

section Texts

variable {cs : List Char} {text : Points}

theorem hexValue?_hexDigit {n : Nat} (bound : n < 16) : hexValue? (hexDigit n) = some n := by
  have all : ∀ n : Fin 16, hexValue? (hexDigit n) = some n.val := by decide
  exact all ⟨n, bound⟩

theorem hex4?_code {code : Nat} (bound : code < 65536) :
    hex4? [hexDigit (code / 4096 % 16), hexDigit (code / 256 % 16), hexDigit (code / 16 % 16),
      hexDigit (code % 16)] = some code := by
  have digit (m : Nat) : hexValue? (hexDigit (m % 16)) = some (m % 16) :=
    hexValue?_hexDigit (Nat.mod_lt m (by decide))
  simp only [hex4?, digit, Option.bind_eq_bind, Option.bind_some, Option.pure_def, Option.some.injEq]
  omega

theorem exists_codeEscape_eq {code : Nat} (bound : code < 65536) :
    ∃ digits, codeEscape code = '\\' :: 'u' :: digits ∧ hex4? digits = some code :=
  ⟨_, rfl, hex4?_code bound⟩

/-- A character beyond the first plane is spelled by its pair of codes. -/
theorem spellsText_beyond {c : Char} (beyond : 0x10000 ≤ c.toNat) (spelled : SpellsText cs text) :
    SpellsText (codeEscape (0xD800 + (c.toNat - 0x10000) / 1024) ++
      codeEscape (0xDC00 + (c.toNat - 0x10000) % 1024) ++ cs) (c.toNat :: text) := by
  have valid : c.toNat < 0xD800 ∨ 0xDFFF < c.toNat ∧ c.toNat < 0x110000 := c.valid
  generalize c.toNat = m at valid beyond ⊢
  have isHigh : isHighHalf (0xD800 + (m - 0x10000) / 1024) = true := by
    simp only [isHighHalf, Bool.and_eq_true, decide_eq_true_eq]
    omega
  have isLow : isLowHalf (0xDC00 + (m - 0x10000) % 1024) = true := by
    simp only [isLowHalf, Bool.and_eq_true, decide_eq_true_eq]
    omega
  have joined : 0x10000 + (0xD800 + (m - 0x10000) / 1024 - 0xD800) * 1024 +
      (0xDC00 + (m - 0x10000) % 1024 - 0xDC00) = m := by omega
  obtain ⟨high, text', code⟩ := @exists_codeEscape_eq (0xD800 + (m - 0x10000) / 1024) (by omega)
  obtain ⟨low, text'', code'⟩ := @exists_codeEscape_eq (0xDC00 + (m - 0x10000) % 1024) (by omega)
  have pair := SpellsText.pair code isHigh code' isLow spelled
  rw [joined] at pair
  rw [text', text'']
  simpa only [List.cons_append, List.append_assoc] using pair

/-- A character is spelled by its escape. -/
theorem spellsText_escapeChar (ascii : Bool) (c : Char) (spelled : SpellsText cs text) :
    SpellsText (escapeChar ascii c ++ cs) (c.toNat :: text) := by
  have escapes := escapes_escapeChar ascii c
  generalize escapeChar ascii c = escape at escapes
  cases escapes with
  | short known => exact .short (List.mem_cons_of_mem _ known) spelled
  | code bound =>
      have valid : c.toNat < 0xD800 ∨ 0xDFFF < c.toNat ∧ c.toNat < 0x110000 := c.valid
      have notHigh : ¬ isHighHalf c.toNat = true := by
        simp only [isHighHalf, Bool.and_eq_true, decide_eq_true_eq]
        omega
      obtain ⟨digits, text', code⟩ := exists_codeEscape_eq bound
      have alone := SpellsText.code code (fun pair => notHigh pair.1) spelled
      rwa [← List.cons_append, ← List.cons_append, ← text'] at alone
  | pair beyond => exact spellsText_beyond beyond spelled
  | plain notQuote notBackslash notControl => exact .plain notQuote notBackslash notControl spelled

/-- A text is spelled by the escapes of its characters. -/
theorem spellsText_flatMap (ascii : Bool) (cs : List Char) :
    SpellsText (cs.flatMap (escapeChar ascii)) (cs.map Char.toNat) := by
  induction cs with
  | nil => exact .nil
  | cons c cs ih =>
      rw [List.flatMap_cons]
      exact spellsText_escapeChar ascii c ih

theorem toList_quote (ascii : Bool) (s : String) :
    (quote ascii s).toList = '"' :: (s.toList.flatMap (escapeChar ascii) ++ ['"']) := by
  rw [quote, String.toList_ofList, List.cons_append]

end Texts

section Numbers

theorem digitsValue_toDigits (n : Nat) : digitsValue (Nat.toDigits 10 n) = n := by
  have value := Nat.ofDigitChars_ten_toDigits (n := n)
  rw [Nat.ofDigitChars_eq_foldl] at value
  simp only [Nat.mul_comm 10] at value
  exact value

theorem isDigit_of_mem_toDigits {n : Nat} {c : Char} (member : c ∈ Nat.toDigits 10 n) : c.isDigit = true :=
  Nat.isDigit_of_mem_toDigits (by decide) (by decide) member

/-- No digits of a number but those of zero start with a zero. -/
theorem exists_toDigits_eq {n : Nat} (positive : 0 < n) :
    ∃ d ds, Nat.toDigits 10 n = d :: ds ∧ d ≠ '0' := by
  induction n using Nat.strongRecOn with
  | ind n ih =>
      by_cases small : n < 10
      · refine ⟨_, _, Nat.toDigits_of_lt_base small, ?_⟩
        rw [ne_eq, Nat.digitChar_eq_zero]
        omega
      · obtain ⟨d, ds, digits, notZero⟩ := ih (n / 10) (by omega) (by omega)
        refine ⟨d, ds ++ [(n % 10).digitChar], ?_, notZero⟩
        rw [Nat.toDigits_of_base_le (by decide) (by omega), digits, List.cons_append]

theorem isWhole_toDigits (n : Nat) : IsWhole (Nat.toDigits 10 n) where
  nonempty := Nat.toDigits_ne_nil
  digits := fun _ => isDigit_of_mem_toDigits
  first := by
    intro zero
    by_cases isZero : n = 0
    · subst isZero
      rfl
    · obtain ⟨d, ds, digits, notZero⟩ := exists_toDigits_eq (Nat.pos_of_ne_zero isZero)
      rw [digits] at zero
      exact absurd (Option.some.inj zero) notZero

/-- The text of a whole number is its digits, after a minus sign if it is negative. -/
theorem exists_toString_eq (i : Int) : ∃ negative : Bool,
    (toString i).toList = minusIf negative ++ Nat.toDigits 10 i.natAbs ∧
      i = if negative then -(i.natAbs : Int) else i.natAbs := by
  cases i with
  | ofNat m => exact ⟨false, Nat.toList_repr, rfl⟩
  | negSucc m =>
      exact ⟨true, (String.toList_append ..).trans (congrArg (['-'] ++ ·) Nat.toList_repr), rfl⟩

/-- A whole number is spelled by its text. -/
theorem spellsNumber_toString {i : Int} (short : Text.IsShort i) :
    SpellsNumber (toString i).toList (.int i) := by
  obtain ⟨negative, text, value⟩ := exists_toString_eq i
  have few : (Nat.toDigits 10 i.natAbs).length ≤ Text.maxDigits :=
    (Nat.length_toDigits_le_iff (by decide) (by decide)).mpr short
  have whole := SpellsNumber.whole negative (isWhole_toDigits i.natAbs) few
  rwa [digitsValue_toDigits, ← text, ← value] at whole

end Numbers

theorem Layout.isSpace_of_mem_newLine (l : Layout) (level : Nat) :
    ∀ c ∈ (l.newLine level).toList, isSpace c = true := by
  rw [Layout.newLine]
  cases l.indent with
  | none => nofun
  | some width =>
      simp only [String.toList_ofList, List.mem_cons, List.mem_replicate]
      rintro c (rfl | ⟨-, rfl⟩) <;> rfl

theorem blanks_newLine (l : Layout) (level : Nat) (cs : List Char) :
    Blanks ((l.newLine level).toList ++ cs) cs :=
  ⟨_, l.isSpace_of_mem_newLine level, rfl⟩

/-- Nothing but blanks stands beside the commas and colons of a layout. -/
structure Layout.IsSpaced (l : Layout) : Prop where
  comma : ∃ blanks, l.comma.toList = ',' :: blanks ∧ ∀ c ∈ blanks, isSpace c = true
  colon : ∃ blanks, l.colon.toList = ':' :: blanks ∧ ∀ c ∈ blanks, isSpace c = true

theorem Layout.isSpaced_readable : Layout.readable.IsSpaced where
  comma := ⟨[], rfl, nofun⟩
  colon := ⟨[' '], rfl, List.forall_mem_singleton.mpr rfl⟩

/-- The values that can be read back: all numbers are whole and have no more digits than are read, and no
key stands in an object twice. -/
inductive Value.IsReadable : Value → Prop where
  | null : IsReadable .null
  | bool (b : Bool) : IsReadable (.bool b)
  | int {i : Int} : Text.IsShort i → IsReadable (.int i)
  | string (s : String) : IsReadable (.string s)
  | array {items : List Value} : (∀ v ∈ items, IsReadable v) → IsReadable (.array items)
  | object {members : List (String × Value)} : (members.map (·.1)).Nodup →
      (∀ m ∈ members, IsReadable m.2) → IsReadable (.object members)

theorem Value.IsReadable.ofStrings (l : List String) : (Value.ofStrings l).IsReadable := by
  refine .array fun v member => ?_
  obtain ⟨s, -, rfl⟩ := List.mem_map.mp member
  exact .string s

section Values

variable {l : Layout} {level : Nat}

/-- What is written for a value spells it. -/
def Value.IsSpelled (l : Layout) (v : Value) : Prop :=
  ∀ (level : Nat) (rest : List Char), Spells ((render l level v).toList ++ rest) (.value v.toDocument) rest

section Items

variable {v : Value} {vs : List Value} {rest : List Char}

/-- The items of an array are spelled one after another. -/
theorem spells_renderItems (spaced : l.IsSpaced) {start : List Char} (closing : Nat)
    (spelled : ∀ u ∈ v :: vs, u.IsSpelled l)
    (before : Blanks start ((render l level v).toList ++ ((renderItems l level vs).toList ++
      ((l.newLine closing).toList ++ ']' :: rest)))) :
    Spells start (.items (documentsOf (v :: vs))) rest := by
  induction vs generalizing v start with
  | nil =>
      refine .lastItem before (spelled v List.mem_cons_self level _) ?_
      rw [renderItems, String.toList_empty, List.nil_append]
      exact blanks_newLine l closing _
  | cons u us ih =>
      obtain ⟨gap, comma, blank⟩ := spaced.comma
      refine .nextItem before (spelled v List.mem_cons_self level _) ?_
        (ih (List.forall_mem_cons.mp spelled).2 ⟨gap ++ (l.newLine level).toList, ?_, rfl⟩)
      · simp only [renderItems, String.toList_append, comma, List.append_assoc, List.cons_append]
        exact blanks_refl _
      · exact List.forall_mem_append.mpr ⟨blank, l.isSpace_of_mem_newLine level⟩

end Items

section Members

variable {k : String} {v : Value} {ms : List (String × Value)} {rest : List Char}

theorem put_of_not_mem {κ α : Type} [BEq κ] [LawfulBEq κ] {acc : List (κ × α)} {key : κ} {value : α}
    (new : key ∉ acc.map (·.1)) : put acc key value = acc ++ [(key, value)] := by
  refine if_neg ?_
  rw [List.any_eq_true]
  rintro ⟨m, member, same⟩
  exact new (List.mem_map.mpr ⟨m, member, eq_of_beq same⟩)

/-- Members with different keys are all kept. -/
theorem putAll_of_nodup {κ α : Type} [BEq κ] [LawfulBEq κ] {acc ms : List (κ × α)}
    (keys : ((acc ++ ms).map (·.1)).Nodup) : putAll acc ms = acc ++ ms := by
  induction ms generalizing acc with
  | nil => rw [putAll, List.foldl_nil, List.append_nil]
  | cons m ms ih =>
      have new : m.1 ∉ acc.map (·.1) := by
        rw [List.map_append, List.nodup_append] at keys
        exact fun old => keys.2.2 m.1 old m.1 List.mem_cons_self rfl
      have keys' : (((acc ++ [m]) ++ ms).map (·.1)).Nodup := by
        rwa [List.append_assoc, List.singleton_append]
      have others := ih keys'
      rw [List.append_assoc, List.singleton_append] at others
      rw [putAll, List.foldl_cons, put_of_not_mem new]
      exact others

theorem ofMembers_of_nodup (keys : (ms.map (·.1)).Nodup) :
    Document.ofMembers (membersOf ms) = (Value.object ms).toDocument := by
  have keys' : ((membersOf ms).map (·.1)).Nodup := by
    have different : ((ms.map (·.1)).map pointsOf).Nodup :=
      List.Pairwise.map pointsOf (fun _ _ other same => other (pointsOf_inj same)) keys
    rw [List.map_map] at different
    rwa [membersOf_eq_map, List.map_map]
  exact congrArg Document.object (putAll_of_nodup keys')

theorem spellsKey_quote (spaced : l.IsSpaced) {start : List Char}
    (before : Blanks start ((quote l.ascii k).toList ++ (l.colon.toList ++ rest))) :
    SpellsKey start (pointsOf k) rest := by
  obtain ⟨gap, colon, blank⟩ := spaced.colon
  rw [toList_quote, colon, List.cons_append, List.cons_append, List.append_assoc,
    List.singleton_append] at before
  exact ⟨_, _, _, before, spellsText_flatMap l.ascii k.toList, blanks_refl _, gap, blank, rfl⟩

/-- The members of an object are spelled one after another. -/
theorem spells_renderMembers (spaced : l.IsSpaced) {start : List Char} (closing : Nat)
    (spelled : ∀ m ∈ (k, v) :: ms, m.2.IsSpelled l)
    (before : Blanks start ((quote l.ascii k).toList ++ (l.colon.toList ++ ((render l level v).toList ++
      ((renderMembers l level ms).toList ++ ((l.newLine closing).toList ++ '\x7d' :: rest)))))) :
    Spells start (.members (membersOf ((k, v) :: ms))) rest := by
  induction ms generalizing k v start with
  | nil =>
      refine .lastMember (spellsKey_quote spaced before) (spelled _ List.mem_cons_self level _) ?_
      rw [renderMembers, String.toList_empty, List.nil_append]
      exact blanks_newLine l closing _
  | cons m ms ih =>
      obtain ⟨gap, comma, blank⟩ := spaced.comma
      refine .nextMember (spellsKey_quote spaced before) (spelled _ List.mem_cons_self level _) ?_
        (ih (List.forall_mem_cons.mp spelled).2 ⟨gap ++ (l.newLine level).toList, ?_, rfl⟩)
      · simp only [renderMembers, String.toList_append, comma, List.append_assoc, List.cons_append]
        exact blanks_refl _
      · exact List.forall_mem_append.mpr ⟨blank, l.isSpace_of_mem_newLine level⟩

end Members

/-- A value is spelled by its text. -/
theorem Value.IsReadable.isSpelled (spaced : l.IsSpaced) {v : Value} (readable : v.IsReadable) :
    v.IsSpelled l := by
  induction readable with
  | null =>
      intro level rest
      rw [render]
      exact .word (by simp [words, Value.toDocument])
  | bool b =>
      intro level rest
      cases b with
      | true =>
          rw [render]
          exact .word (by simp [words, Value.toDocument])
      | false =>
          rw [render]
          exact .word (by simp [words, Value.toDocument])
  | int short =>
      intro level rest
      rw [render]
      exact .number (spellsNumber_toString short)
  | string s =>
      intro level rest
      rw [render, toList_quote, List.cons_append, List.append_assoc, List.singleton_append]
      exact .text (spellsText_flatMap l.ascii s.toList)
  | @array items _ ih =>
      intro level rest
      cases items with
      | nil =>
          rw [render]
          exact .emptyArray (blanks_refl _)
      | cons v vs =>
          simp only [render, String.toList_append, List.append_assoc]
          exact .array (spells_renderItems spaced level ih (blanks_newLine l (level + 1) _))
  | @object members keys _ ih =>
      intro level rest
      cases members with
      | nil =>
          rw [render]
          exact .emptyObject (blanks_refl _)
      | cons m ms =>
          simp only [render, String.toList_append, List.append_assoc]
          rw [← ofMembers_of_nodup keys]
          exact .object (spells_renderMembers spaced level ih (blanks_newLine l (level + 1) _))

/-- A written value, with blanks after it, is read as that value. -/
theorem parseDocument_write (spaced : l.IsSpaced) {v : Value} (readable : v.IsReadable) {blanks : String}
    (blank : ∀ c ∈ blanks.toList, isSpace c = true) :
    parseDocument (write l v ++ blanks) = .ok v.toDocument := by
  refine parseDocument_of_isDocument
    ⟨_, blanks.toList, ?_, readable.isSpelled spaced 0 blanks.toList, ?_⟩
  · rw [String.toList_append]
    exact blanks_refl _
  · exact ⟨blanks.toList, blank, (List.append_nil _).symm⟩

theorem parse_write (spaced : l.IsSpaced) {v : Value} (readable : v.IsReadable) {blanks : String}
    (blank : ∀ c ∈ blanks.toList, isSpace c = true) : parse (write l v ++ blanks) = .ok v := by
  rw [parse, parseDocument_write spaced readable blank]
  exact congrArg Except.ok v.toValue_toDocument

end Values

end SketchSurvey.Json
