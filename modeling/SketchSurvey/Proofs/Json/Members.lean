import SketchSurvey.Json.Value

/-! What members have under a key when others are put over them. -/

set_option autoImplicit false

namespace SketchSurvey.Json

variable {κ α : Type} {known ms : List (κ × α)} {key : κ} {v : α}

/-- Of the values that a key has among members, the last one. -/
def LastValue (ms : List (κ × α)) (key : κ) (v : α) : Prop :=
  ∃ before after, ms = before ++ (key, v) :: after ∧ ∀ m ∈ after, m.1 ≠ key

theorem LastValue.mem (last : LastValue ms key v) : (key, v) ∈ ms := by
  obtain ⟨before, after, rfl, -⟩ := last
  exact List.mem_append_right _ List.mem_cons_self

/-- Where a key stands once, its value is the last one. -/
theorem lastValue_of_mem (keys : (ms.map (·.1)).Nodup) (member : (key, v) ∈ ms) : LastValue ms key v := by
  obtain ⟨before, after, rfl⟩ := List.append_of_mem member
  refine ⟨before, after, rfl, fun other member same => ?_⟩
  rw [List.map_append, List.nodup_append] at keys
  have once := (List.nodup_cons.mp keys.2.1).1
  exact once (List.mem_map.mpr ⟨other, member, same⟩)

/-- A key that stands among members has a last value there. -/
theorem exists_lastValue_or_forall_ne (ms : List (κ × α)) (key : κ) :
    (∃ v, LastValue ms key v) ∨ ∀ m ∈ ms, m.1 ≠ key := by
  induction ms with
  | nil => exact .inr (List.forall_mem_nil _)
  | cons m rest ih =>
      rcases ih with ⟨v, before, after, rfl, others⟩ | others
      · exact .inl ⟨v, m :: before, after, rfl, others⟩
      · by_cases isKey : m.1 = key
        · exact .inl ⟨m.2, [], rest, by rw [← isKey]; rfl, others⟩
        · exact .inr (List.forall_mem_cons.mpr ⟨isKey, others⟩)

variable [BEq κ] [LawfulBEq κ]

theorem forall_ne_of_lookup (missing : ms.lookup key = none) : ∀ m ∈ ms, m.1 ≠ key := by
  intro m member same
  have other := List.lookup_eq_none_iff.mp missing m member
  exact absurd same.symm (bne_iff_ne.mp other)

theorem lastValue_of_lookup (keys : (ms.map (·.1)).Nodup) (found : ms.lookup key = some v) :
    LastValue ms key v := by
  obtain ⟨before, after, rfl, -⟩ := List.lookup_eq_some_iff.mp found
  exact lastValue_of_mem keys (List.mem_append_right _ List.mem_cons_self)

theorem lookup_eq_find? (ms : List (κ × α)) (key : κ) :
    ms.lookup key = (ms.find? (·.1 == key)).map (·.2) := by
  induction ms with
  | nil => rfl
  | cons m rest ih =>
      rw [List.lookup_cons, List.find?_cons, BEq.comm]
      cases m.1 == key with
      | true => rfl
      | false => exact ih

/-- What was put under a key stands there, and under the other keys nothing changes. -/
theorem lookup_put [DecidableEq κ] (known : List (κ × α)) (key other : κ) (v : α) :
    (put known key v).lookup other = if other = key then some v else known.lookup other := by
  have keeps : ((fun m : κ × α => m.1 == other) ∘
      fun (k, old) => if k == key then (k, v) else (k, old)) = fun m => m.1 == other := by
    funext ⟨k, old⟩
    dsimp only [Function.comp]
    split <;> rfl
  rw [lookup_eq_find?, lookup_eq_find?, put]
  split
  · next isKnown =>
      rw [List.find?_map, keeps]
      cases found : known.find? fun m => m.1 == other with
      | none =>
          obtain ⟨m, member, same⟩ := List.any_eq_true.mp isKnown
          have different : other ≠ key := by
            rintro rfl
            exact List.find?_eq_none.mp found m member same
          rw [if_neg different]
          rfl
      | some m =>
          have isKey : m.1 = other := by simpa using List.find?_some found
          by_cases same : other = key <;> simp [isKey, same]
  · next unknown =>
      rw [List.find?_append]
      by_cases same : other = key
      · subst same
        have missing : (known.find? fun m => m.1 == other) = none := by
          rw [List.find?_eq_none]
          exact fun m member isKey => unknown (List.any_eq_true.mpr ⟨m, member, isKey⟩)
        simp [missing]
      · simp [same, Ne.symm same]

theorem lookup_putAll_of_ne (other : ∀ m ∈ ms, m.1 ≠ key) : (putAll known ms).lookup key = known.lookup key := by
  unfold putAll
  induction ms generalizing known with
  | nil => rfl
  | cons m rest ih =>
      obtain ⟨first, others⟩ := List.forall_mem_cons.mp other
      classical
      rw [List.foldl_cons, ih others, lookup_put, if_neg first.symm]

theorem lookup_putAll_of_last (last : LastValue ms key v) : (putAll known ms).lookup key = some v := by
  obtain ⟨before, after, rfl, others⟩ := last
  rw [putAll, List.foldl_append, List.foldl_cons]
  classical
  exact (lookup_putAll_of_ne others).trans (by rw [lookup_put, if_pos rfl])

/-- What stands under a key was put there, or stood there before. -/
theorem lastValue_or_lookup (found : (putAll known ms).lookup key = some v) :
    LastValue ms key v ∨ known.lookup key = some v := by
  rcases exists_lastValue_or_forall_ne ms key with ⟨last, isLast⟩ | others
  · obtain rfl := Option.some.inj ((lookup_putAll_of_last isLast).symm.trans found)
    exact .inl isLast
  · exact .inr ((lookup_putAll_of_ne others).symm.trans found)

theorem nodup_put (keys : (known.map (·.1)).Nodup) (key : κ) (v : α) :
    ((put known key v).map (·.1)).Nodup := by
  unfold put
  split
  · rw [List.map_map, List.map_congr_left (g := (·.1))]
    · exact keys
    · intro m _
      dsimp only [Function.comp]
      split <;> rfl
  · next unknown =>
      rw [List.map_append, List.map_singleton, List.nodup_append]
      refine ⟨keys, by simp, fun k isKnown other isKey same => ?_⟩
      obtain ⟨m, member, rfl⟩ := List.mem_map.mp isKnown
      rw [List.mem_singleton] at isKey
      exact unknown (List.any_eq_true.mpr ⟨m, member, by simp [same, isKey]⟩)

theorem nodup_putAll (keys : (known.map (·.1)).Nodup) (ms : List (κ × α)) :
    ((putAll known ms).map (·.1)).Nodup := by
  unfold putAll
  induction ms generalizing known with
  | nil => exact keys
  | cons m ms ih => exact ih (nodup_put keys m.1 m.2)

end SketchSurvey.Json
