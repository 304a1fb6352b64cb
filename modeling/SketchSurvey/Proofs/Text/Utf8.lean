import SketchSurvey.Text.Utf8

/-! The bytes of a text are read as that text. -/

set_option autoImplicit false

namespace SketchSurvey.Text.Utf8

theorem toNat_ofNat {x : Nat} (small : x < 256) : (UInt8.ofNat x).toNat = x := by
  rw [UInt8.toNat_ofNat']
  exact Nat.mod_eq_of_lt small

/-- A byte that goes on gives its last six bits. -/
theorem finish_tail {bits size low high n x : Nat} (rest : Bytes) (small : x < 64) (atLeast : low ≤ x + 128)
    (atMost : x + 128 ≤ high) :
    finish bits size low high (n + 1) (UInt8.ofNat (x + 128) :: rest) =
      finish (bits * 64 + x) (size + 1) 0x80 0xBF n rest := by
  rw [finish, toNat_ofNat (by omega), if_pos (by simp [atLeast, atMost]), Nat.add_sub_cancel]

theorem lead?_one {n : Nat} (bound : n < 0x80) :
    lead? (UInt8.ofNat n) = some { bits := n, following := 0 } := by
  rw [lead?, toNat_ofNat (by omega)]
  exact if_pos bound

theorem lead?_two {n : Nat} (atLeast : 2 ≤ n) (bound : n < 32) :
    lead? (UInt8.ofNat (n + 192)) = some { bits := n, following := 1 } := by
  rw [lead?, toNat_ofNat (by omega), if_neg (by omega), if_neg (by omega), if_pos (by omega),
    Nat.add_sub_cancel]

/-- The bounds of the second byte keep out what a shorter form could say, and surrogates. -/
theorem lead?_three {n : Nat} (bound : n < 16) :
    lead? (UInt8.ofNat (n + 224)) = some {
      bits := n, following := 2, low := if n = 0 then 0xA0 else 0x80,
      high := if n = 13 then 0x9F else 0xBF } := by
  rw [lead?, toNat_ofNat (by omega), if_neg (by omega), if_neg (by omega), if_neg (by omega)]
  by_cases zero : n = 0
  · subst zero
    rfl
  · by_cases last : n = 13
    · subst last
      rfl
    · rw [if_neg (by omega), if_neg (by omega), if_pos (by omega), Nat.add_sub_cancel, if_neg zero, if_neg last]

theorem lead?_four {n : Nat} (bound : n < 5) :
    lead? (UInt8.ofNat (n + 240)) = some {
      bits := n, following := 3, low := if n = 0 then 0x90 else 0x80,
      high := if n = 4 then 0x8F else 0xBF } := by
  have all : n = 0 ∨ n = 1 ∨ n = 2 ∨ n = 3 ∨ n = 4 := by omega
  rcases all with rfl | rfl | rfl | rfl | rfl <;> rfl

/-- The bytes of a character are read as that character. -/
theorem next_encodeChar (c : Char) (rest : Bytes) :
    ∃ b more, String.utf8EncodeChar c = b :: more ∧ next b (more ++ rest) = (.char c, rest) := by
  have isChar := Char.ofNat_toNat c
  have valid : c.toNat < 0xD800 ∨ 0xDFFF < c.toNat ∧ c.toNat < 0x110000 := c.valid
  unfold String.utf8EncodeChar next
  rw [show c.val.toNat = c.toNat from rfl]
  generalize c.toNat = v at isChar valid
  dsimp only
  split
  · next one =>
      refine ⟨_, _, rfl, ?_⟩
      rw [lead?_one (by omega), ← isChar]
      rfl
  · split
    · next two =>
        refine ⟨_, _, rfl, ?_⟩
        rw [Nat.mod_eq_of_lt (by omega), lead?_two (by omega) (by omega)]
        dsimp only [List.cons_append, List.nil_append]
        rw [finish_tail rest (Nat.mod_lt v (by decide)) (by omega) (by omega), Nat.div_add_mod', finish, isChar]
    · split
      · next three =>
          refine ⟨_, _, rfl, ?_⟩
          rw [Nat.mod_eq_of_lt (show v / 4096 < 16 by omega), lead?_three (by omega)]
          dsimp only [List.cons_append, List.nil_append]
          rw [finish_tail _ (Nat.mod_lt _ (by decide)) (by split <;> omega) (by split <;> omega),
            finish_tail _ (Nat.mod_lt _ (by decide)) (by omega) (by omega), finish]
          rw [show (v / 4096 * 64 + v / 64 % 64) * 64 + v % 64 = v by omega, isChar]
      · next four =>
          refine ⟨_, _, rfl, ?_⟩
          rw [Nat.mod_eq_of_lt (show v / 262144 < 8 by omega), lead?_four (by omega)]
          dsimp only [List.cons_append, List.nil_append]
          rw [finish_tail _ (Nat.mod_lt _ (by decide)) (by split <;> omega) (by split <;> omega),
            finish_tail _ (Nat.mod_lt _ (by decide)) (by omega) (by omega),
            finish_tail _ (Nat.mod_lt _ (by decide)) (by omega) (by omega), finish]
          rw [show ((v / 262144 * 64 + v / 4096 % 64) * 64 + v / 64 % 64) * 64 + v % 64 = v by omega,
            isChar]

theorem encode_ofList (cs : List Char) : encode (String.ofList cs) = cs.flatMap String.utf8EncodeChar := by
  rw [encode, String.toUTF8, String.toByteArray_ofList, List.utf8Encode, List.data_toByteArray]

theorem decodeFrom_encode (position : Nat) (cs : List Char) :
    decodeFrom position (cs.flatMap String.utf8EncodeChar) = .ok cs := by
  induction cs generalizing position with
  | nil =>
      rw [List.flatMap_nil, decodeFrom]
  | cons c cs ih =>
      obtain ⟨b, more, bytes, isNext⟩ := next_encodeChar c (cs.flatMap String.utf8EncodeChar)
      rw [List.flatMap_cons, bytes, List.cons_append, decodeFrom, isNext]
      dsimp only
      rw [ih]
      rfl

/-- What was written can be read. -/
theorem decode_encode (text : String) : decode (encode text) = .ok text.toList := by
  have bytes := encode_ofList text.toList
  rw [String.ofList_toList] at bytes
  rw [decode, bytes, decodeFrom_encode]

theorem pieces_encode (cs : List Char) : pieces (cs.flatMap String.utf8EncodeChar) = cs.map Piece.char := by
  induction cs with
  | nil => rw [List.flatMap_nil, pieces, List.map_nil]
  | cons c cs ih =>
      obtain ⟨b, more, bytes, isNext⟩ := next_encodeChar c (cs.flatMap String.utf8EncodeChar)
      rw [List.flatMap_cons, bytes, List.cons_append, pieces, isNext, ih, List.map_cons]

/-- In what was written there is nothing that a mark would stand for. -/
theorem decodeAll_encode (text : String) : decodeAll (encode text) = text.toList := by
  have bytes := encode_ofList text.toList
  rw [String.ofList_toList] at bytes
  rw [decodeAll, bytes, pieces_encode, List.map_map]
  exact List.map_id'' (fun _ => rfl) text.toList

section Decoded

variable {b : UInt8} {rest after : Bytes} {c : Char}

/-- A first byte says what the first byte of a character with its bits says. -/
theorem lead?_cases {l : Lead} (isLead : lead? b = some l) :
    (∃ n, n < 0x80 ∧ b = UInt8.ofNat n ∧ l = { bits := n, following := 0 }) ∨
    (∃ n, 2 ≤ n ∧ n < 32 ∧ b = UInt8.ofNat (n + 192) ∧ l = { bits := n, following := 1 }) ∨
    (∃ n, n < 16 ∧ b = UInt8.ofNat (n + 224) ∧ l = {
      bits := n, following := 2, low := if n = 0 then 0xA0 else 0x80, high := if n = 13 then 0x9F else 0xBF }) ∨
    (∃ n, n < 5 ∧ b = UInt8.ofNat (n + 240) ∧ l = {
      bits := n, following := 3, low := if n = 0 then 0x90 else 0x80,
      high := if n = 4 then 0x8F else 0xBF }) := by
  have bound := b.toNat_lt
  have same {n : Nat} (isByte : b.toNat = n) : b = UInt8.ofNat n := by rw [← isByte, UInt8.ofNat_toNat]
  have known {n : Nat} (isByte : b.toNat = n) : lead? (UInt8.ofNat n) = some l := same isByte ▸ isLead
  by_cases one : b.toNat < 0x80
  · refine .inl ⟨b.toNat, one, same rfl, ?_⟩
    exact Option.some.inj ((known rfl).symm.trans (lead?_one one))
  · by_cases two : b.toNat < 0xE0
    · have atLeast : ¬ b.toNat < 0xC2 := by
        intro short
        rw [lead?, if_neg one, if_pos short] at isLead
        cases isLead
      have isByte : b.toNat = b.toNat - 192 + 192 := by omega
      refine .inr (.inl ⟨b.toNat - 192, by omega, by omega, same isByte, ?_⟩)
      exact Option.some.inj ((known isByte).symm.trans (lead?_two (by omega) (by omega)))
    · by_cases three : b.toNat < 0xF0
      · have isByte : b.toNat = b.toNat - 224 + 224 := by omega
        refine .inr (.inr (.inl ⟨b.toNat - 224, by omega, same isByte, ?_⟩))
        exact Option.some.inj ((known isByte).symm.trans (lead?_three (by omega)))
      · have atMost : b.toNat < 0xF5 := by
          refine Nat.lt_of_not_le fun beyond => ?_
          simp only [lead?, if_neg one, if_neg two, if_neg three, if_neg (show ¬ b.toNat < 0xC2 by omega),
            if_neg (show ¬ b.toNat = 0xE0 by omega), if_neg (show ¬ b.toNat = 0xED by omega),
            if_neg (show ¬ b.toNat = 0xF0 by omega), if_neg (show ¬ b.toNat < 0xF4 by omega),
            if_neg (show ¬ b.toNat = 0xF4 by omega), reduceCtorEq] at isLead
        have isByte : b.toNat = b.toNat - 240 + 240 := by omega
        refine .inr (.inr (.inr ⟨b.toNat - 240, by omega, same isByte, ?_⟩))
        exact Option.some.inj ((known isByte).symm.trans (lead?_four (by omega)))

/-- Where a character goes on, the next byte gives its last six bits. -/
theorem tail_of_finish {bits size low high n : Nat} {bytes : Bytes} (bounds : 0x80 ≤ low ∧ high ≤ 0xBF)
    (read : finish bits size low high (n + 1) bytes = (.char c, after)) :
    ∃ x more, low ≤ x + 128 ∧ x + 128 ≤ high ∧ bytes = UInt8.ofNat (x + 128) :: more ∧
      finish (bits * 64 + x) (size + 1) 0x80 0xBF n more = (.char c, after) := by
  cases bytes with
  | nil => simp [finish] at read
  | cons b more =>
      rw [finish] at read
      split at read
      · next within =>
          simp only [Bool.and_eq_true, decide_eq_true_eq] at within
          have isByte : b.toNat - 128 + 128 = b.toNat := by omega
          refine ⟨b.toNat - 128, more, by omega, by omega, ?_, read⟩
          rw [isByte, UInt8.ofNat_toNat]
      · cases (Prod.mk.inj read).1

theorem toNat_val_ofNat {v : Nat} (valid : v < 0xD800 ∨ 0xDFFF < v ∧ v < 0x110000) :
    (Char.ofNat v).val.toNat = v := by
  have isValid : v.isValidChar := valid
  rw [Char.ofNat, dif_pos isValid]
  rfl

theorem encodeChar_two {x y : Nat} (atLeast : 2 ≤ x) (bound : x < 32) (small : y < 64) :
    String.utf8EncodeChar (Char.ofNat (x * 64 + y)) = [UInt8.ofNat (x + 192), UInt8.ofNat (y + 128)] := by
  unfold String.utf8EncodeChar
  rw [toNat_val_ofNat (by omega)]
  dsimp only
  rw [if_neg (by omega), if_pos (by omega), show (x * 64 + y) / 64 % 32 = x by omega,
    show (x * 64 + y) % 64 = y by omega]

theorem encodeChar_three {x y z : Nat} (bounds : x < 16 ∧ y < 64 ∧ z < 64) (long : x = 0 → 32 ≤ y)
    (noHalf : x = 13 → y < 32) :
    String.utf8EncodeChar (Char.ofNat ((x * 64 + y) * 64 + z)) =
      [UInt8.ofNat (x + 224), UInt8.ofNat (y + 128), UInt8.ofNat (z + 128)] := by
  unfold String.utf8EncodeChar
  rw [toNat_val_ofNat (by omega)]
  generalize isValue : (x * 64 + y) * 64 + z = v
  dsimp only
  rw [if_neg (by omega), if_neg (by omega), if_pos (by omega), show v / 4096 % 16 = x by omega,
    show v / 64 % 64 = y by omega, show v % 64 = z by omega]

theorem encodeChar_four {x y z u : Nat} (bounds : x < 5 ∧ y < 64 ∧ z < 64 ∧ u < 64) (long : x = 0 → 16 ≤ y)
    (last : x = 4 → y < 16) :
    String.utf8EncodeChar (Char.ofNat (((x * 64 + y) * 64 + z) * 64 + u)) =
      [UInt8.ofNat (x + 240), UInt8.ofNat (y + 128), UInt8.ofNat (z + 128), UInt8.ofNat (u + 128)] := by
  unfold String.utf8EncodeChar
  rw [toNat_val_ofNat (by omega)]
  generalize isValue : ((x * 64 + y) * 64 + z) * 64 + u = v
  dsimp only
  rw [if_neg (by omega), if_neg (by omega), if_neg (by omega), show v / 262144 % 8 = x by omega,
    show v / 4096 % 64 = y by omega, show v / 64 % 64 = z by omega, show v % 64 = u by omega]

/-- What is read as a character are the bytes of that character. -/
theorem encodeChar_of_next (read : next b rest = (.char c, after)) :
    b :: rest = String.utf8EncodeChar c ++ after := by
  unfold next at read
  split at read
  · next l isLead =>
      have inBounds : 0x80 ≤ 0x80 ∧ 0xBF ≤ 0xBF := ⟨Nat.le_refl _, Nat.le_refl _⟩
      rcases lead?_cases isLead with ⟨n, bound, rfl, rfl⟩ | ⟨n, atLeast, bound, rfl, rfl⟩ |
        ⟨n, bound, rfl, rfl⟩ | ⟨n, bound, rfl, rfl⟩ <;> dsimp only at read
      · cases read
        unfold String.utf8EncodeChar
        rw [toNat_val_ofNat (by omega)]
        dsimp only
        rw [if_pos (by omega), List.singleton_append]
      · obtain ⟨x, more, low, high, rfl, done⟩ := tail_of_finish inBounds read
        cases done
        rw [encodeChar_two atLeast bound (by omega)]
        rfl
      · obtain ⟨x, more, low, high, rfl, read'⟩ :=
          tail_of_finish ⟨by split <;> omega, by split <;> omega⟩ read
        obtain ⟨y, more, low', high', rfl, done⟩ := tail_of_finish inBounds read'
        cases done
        rw [encodeChar_three ⟨bound, by split at high <;> omega, by omega⟩
          (fun zero => by rw [if_pos zero] at low; omega) (fun last => by rw [if_pos last] at high; omega)]
        rfl
      · obtain ⟨x, more, low, high, rfl, read'⟩ :=
          tail_of_finish ⟨by split <;> omega, by split <;> omega⟩ read
        obtain ⟨y, more, low', high', rfl, read''⟩ := tail_of_finish inBounds read'
        obtain ⟨z, more, low'', high'', rfl, done⟩ := tail_of_finish inBounds read''
        cases done
        rw [encodeChar_four ⟨bound, by split at high <;> omega, by omega, by omega⟩
          (fun zero => by rw [if_pos zero] at low; omega) (fun last => by rw [if_pos last] at high; omega)]
        rfl
  · cases (Prod.mk.inj read).1

theorem encode_of_decodeFrom {position : Nat} {bytes : Bytes} {cs : List Char}
    (read : decodeFrom position bytes = .ok cs) : bytes = cs.flatMap String.utf8EncodeChar := by
  induction cs generalizing position bytes with
  | nil =>
      cases bytes with
      | nil => rfl
      | cons b rest =>
          rw [decodeFrom] at read
          split at read
          · cases read
          · cases done : decodeFrom (position + 1 + (rest.length - (next b rest).2.length)) (next b rest).2 <;>
              simp [done, bind, Except.bind, pure, Except.pure] at read
  | cons c cs ih =>
      cases bytes with
      | nil => simp [decodeFrom] at read
      | cons b rest =>
          rw [decodeFrom] at read
          split at read
          · cases read
          · next c' isChar =>
              cases done : decodeFrom (position + 1 + (rest.length - (next b rest).2.length)) (next b rest).2 with
              | error e => simp [done, bind, Except.bind] at read
              | ok more =>
                  simp only [done, bind, Except.bind, pure, Except.pure, Except.ok.injEq, List.cons.injEq] at read
                  obtain ⟨rfl, rfl⟩ := read
                  rw [List.flatMap_cons, ← ih done]
                  exact encodeChar_of_next (Prod.ext isChar rfl)

/-- Exactly the bytes of a text are read as that text. -/
theorem decode_eq_ok_iff {bytes : Bytes} {cs : List Char} :
    decode bytes = .ok cs ↔ bytes = encode (String.ofList cs) := by
  constructor
  · intro read
    rw [encode_ofList, encode_of_decodeFrom read]
  · rintro rfl
    rw [decode_encode, String.toList_ofList]

end Decoded

/-- A text without returns keeps its lines. -/
theorem unifyLines_of_not_mem {cs : List Char} (plain : '\r' ∉ cs) : unifyLines cs = cs := by
  induction cs with
  | nil => rfl
  | cons c cs ih =>
      rw [List.mem_cons, not_or] at plain
      rw [unifyLines, ih plain.2]
      · rintro rest rfl
        exact absurd rfl plain.1
      · rintro rfl
        exact absurd rfl plain.1

end SketchSurvey.Text.Utf8
