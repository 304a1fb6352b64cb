import SketchSurvey.Json.Document

/-! Values with texts of characters among those with texts of points: nothing is lost on the way there and
back. -/

set_option autoImplicit false

namespace SketchSurvey.Json

section Texts

variable {s : String} {points : Points}

theorem charOf_toNat (c : Char) : charOf c.toNat = c := by
  have valid : c.toNat.isValidChar := c.valid
  rw [charOf, if_pos valid, Char.ofNat_toNat]

theorem toNat_charOf {n : Nat} (known : charOf n ≠ '\uFFFD') : (charOf n).toNat = n := by
  unfold charOf at known ⊢
  split at known
  · next valid =>
      rw [if_pos valid, Char.ofNat, dif_pos valid]
      rfl
  · exact absurd rfl known

@[simp] theorem textOf_pointsOf (s : String) : textOf (pointsOf s) = s := by
  have chars : (s.toList.map Char.toNat).map charOf = s.toList := by
    rw [List.map_map]
    exact (List.map_congr_left fun c _ => charOf_toNat c).trans (List.map_id _)
  rw [textOf, pointsOf, chars, String.ofList_toList]

/-- A text of known characters stands for its points only. -/
theorem textOf_eq_iff (known : '\uFFFD' ∉ s.toList) : textOf points = s ↔ points = pointsOf s := by
  constructor
  · rintro rfl
    rw [textOf, String.toList_ofList] at known
    rw [pointsOf, textOf, String.toList_ofList, List.map_map]
    refine ((List.map_congr_left fun n member => ?_).trans (List.map_id _)).symm
    refine toNat_charOf fun unknown => ?_
    exact known (List.mem_map.mpr ⟨n, member, unknown⟩)
  · rintro rfl
    exact textOf_pointsOf s

theorem pointsOf_inj {s t : String} (same : pointsOf s = pointsOf t) : s = t := by
  rw [← textOf_pointsOf s, same, textOf_pointsOf]

end Texts

section Lists

theorem valuesOf_eq_map (items : List Document) : valuesOf items = items.map Document.toValue := by
  induction items with
  | nil => rfl
  | cons d ds ih => rw [valuesOf, ih, List.map_cons]

theorem givenOf_eq_map (ms : Members) : givenOf ms = ms.map fun m => (textOf m.1, m.2.toValue) := by
  induction ms with
  | nil => rfl
  | cons m ms ih => rw [givenOf, ih, List.map_cons]

theorem documentsOf_eq_map (items : List Value) : documentsOf items = items.map Value.toDocument := by
  induction items with
  | nil => rfl
  | cons v vs ih => rw [documentsOf, ih, List.map_cons]

theorem membersOf_eq_map (given : List (String × Value)) :
    membersOf given = given.map fun m => (pointsOf m.1, m.2.toDocument) := by
  induction given with
  | nil => rfl
  | cons m ms ih => rw [membersOf, ih, List.map_cons]

end Lists

mutual

/-- A value is the same after a way through a text. -/
theorem Value.toValue_toDocument : (v : Value) → v.toDocument.toValue = v
  | .null | .bool _ | .int _ | .float _ => rfl
  | .string s => congrArg Value.string (textOf_pointsOf s)
  | .array items => congrArg Value.array (valuesOf_documentsOf items)
  | .object members => congrArg Value.object (givenOf_membersOf members)

theorem valuesOf_documentsOf : (items : List Value) → valuesOf (documentsOf items) = items
  | [] => rfl
  | v :: vs => by rw [documentsOf, valuesOf, v.toValue_toDocument, valuesOf_documentsOf vs]

theorem givenOf_membersOf : (given : List (String × Value)) → givenOf (membersOf given) = given
  | [] => rfl
  | (key, v) :: ms => by
      rw [membersOf, givenOf, textOf_pointsOf, v.toValue_toDocument, givenOf_membersOf ms]

end

section Puts

theorem membersOf_put (given : List (String × Value)) (key : String) (v : Value) :
    membersOf (put given key v) = put (membersOf given) (pointsOf key) v.toDocument := by
  have same (k : String) : (pointsOf k == pointsOf key) = (k == key) := by
    rw [Bool.eq_iff_iff, beq_iff_eq, beq_iff_eq]
    exact ⟨pointsOf_inj, congrArg pointsOf⟩
  have known : (membersOf given).any (·.1 == pointsOf key) = given.any (·.1 == key) := by
    rw [membersOf_eq_map, List.any_map]
    exact congrArg given.any (funext fun m => same m.1)
  unfold put
  rw [known]
  split
  · rw [membersOf_eq_map, membersOf_eq_map, List.map_map, List.map_map]
    refine List.map_congr_left fun m _ => ?_
    dsimp only [Function.comp]
    rw [same]
    split <;> rfl
  · simp only [membersOf_eq_map, List.map_append, List.map_cons, List.map_nil]

theorem membersOf_putAll (known given : List (String × Value)) :
    membersOf (putAll known given) = putAll (membersOf known) (membersOf given) := by
  unfold putAll
  induction given generalizing known with
  | nil => rfl
  | cons m ms ih => rw [List.foldl_cons, ih, membersOf_put, membersOf, List.foldl_cons]

end Puts

/-- Under a key of known characters nothing but its own member is found. -/
theorem lookup_givenOf {key : String} (known : '\uFFFD' ∉ key.toList) (ms : Members) :
    (givenOf ms).lookup key = (ms.lookup (pointsOf key)).map Document.toValue := by
  induction ms with
  | nil => rfl
  | cons m ms ih =>
      rw [givenOf, List.lookup_cons, List.lookup_cons, ih]
      have same : (key == textOf m.1) = (pointsOf key == m.1) := by
        rw [Bool.eq_iff_iff, beq_iff_eq, beq_iff_eq, eq_comm, textOf_eq_iff known, eq_comm]
      rw [same]
      cases pointsOf key == m.1 <;> rfl

end SketchSurvey.Json
