import SketchSurvey.Proofs.Text.Trimmed
import SketchSurvey.Sketch.Title

/-! The title of a page. It is what stands between the first start tag of a title and the first end tag after
it, unless these two touch: an empty title element is passed over as a whole, and the title runs on to the next
end tag. -/

set_option autoImplicit false

namespace SketchSurvey.Sketch

/-- A mark stands between two parts of a text, and nowhere before. -/
structure FirstCut (mark text before after : List Char) : Prop where
  divided : text = before ++ (mark ++ after)
  first : ∀ earlier later, text = earlier ++ (mark ++ later) → before.length ≤ earlier.length

section Cuts

variable {mark before after rest text : List Char}

theorem firstCut_append_iff :
    FirstCut mark (mark ++ rest) before after ↔ before = [] ∧ after = rest := by
  constructor
  · rintro ⟨divided, first⟩
    obtain rfl : before = [] := List.length_eq_zero_iff.mp (Nat.le_zero.mp (first [] rest rfl))
    exact ⟨rfl, (List.append_cancel_left divided).symm⟩
  · rintro ⟨rfl, rfl⟩
    exact ⟨rfl, fun _ _ _ => Nat.zero_le _⟩

theorem firstCut_cons_iff {c : Char} (notHere : ¬ mark <+: c :: rest) :
    FirstCut mark (c :: rest) before after ↔ ∃ more, before = c :: more ∧ FirstCut mark rest more after := by
  constructor
  · rintro ⟨divided, first⟩
    cases before with
    | nil => exact absurd ⟨after, divided.symm⟩ notHere
    | cons d more =>
        obtain ⟨rfl, parted⟩ := List.cons.inj divided
        refine ⟨more, rfl, parted, ?_⟩
        intro earlier later same
        exact Nat.le_of_succ_le_succ (first (c :: earlier) later (congrArg (c :: ·) same))
  · rintro ⟨more, rfl, divided, first⟩
    refine ⟨congrArg (c :: ·) divided, ?_⟩
    intro earlier later same
    cases earlier with
    | nil => exact absurd ⟨later, same.symm⟩ notHere
    | cons d earlier =>
        obtain ⟨-, same⟩ := List.cons.inj same
        exact Nat.succ_le_succ (first earlier later same)

theorem not_firstCut_nil {m : Char} : ¬ FirstCut (m :: mark) [] before after := by
  intro cut
  have divided := cut.divided
  simp at divided

/-- Characters that are none of those a mark begins with are passed over. -/
theorem firstCut_passed_iff {m : Char} {passed : List Char} (other : m ∉ passed) :
    FirstCut (m :: mark) (passed ++ text) before after ↔
      ∃ more, before = passed ++ more ∧ FirstCut (m :: mark) text more after := by
  induction passed generalizing before with
  | nil => simp
  | cons c passed ih =>
      rw [List.mem_cons, not_or] at other
      have notHere : ¬ m :: mark <+: c :: (passed ++ text) :=
        fun here => other.1 (List.cons_prefix_cons.mp here).1
      rw [List.cons_append, firstCut_cons_iff notHere]
      simp only [ih other.2]
      constructor
      · rintro ⟨_, rfl, more, rfl, cut⟩
        exact ⟨more, rfl, cut⟩
      · rintro ⟨more, rfl, cut⟩
        exact ⟨_, rfl, more, rfl, cut⟩

theorem splitAtMark?_eq_some_iff {m : Char} :
    splitAtMark? (m :: mark) text = some (before, after) ↔ FirstCut (m :: mark) text before after := by
  induction text generalizing before with
  | nil => simpa [splitAtMark?] using not_firstCut_nil
  | cons c rest ih =>
      rw [splitAtMark?]
      split
      · next here =>
          obtain ⟨later, same⟩ := List.isPrefixOf_iff_prefix.mp here
          rw [← same, firstCut_append_iff, List.drop_left, Option.some.injEq, Prod.mk.injEq]
          exact and_congr eq_comm eq_comm
      · next notHere =>
          rw [List.isPrefixOf_iff_prefix] at notHere
          simp only [firstCut_cons_iff notHere, ← ih, Option.map_eq_some_iff, Prod.mk.injEq, Prod.exists]
          constructor
          · rintro ⟨more, _, found, rfl, rfl⟩
            exact ⟨more, rfl, found⟩
          · rintro ⟨more, rfl, found⟩
            exact ⟨more, after, found, rfl, rfl⟩

theorem FirstCut.unique {m : Char} {before' after' : List Char} (cut : FirstCut (m :: mark) text before after)
    (cut' : FirstCut (m :: mark) text before' after') : before = before' ∧ after = after' := by
  rw [← splitAtMark?_eq_some_iff] at cut cut'
  exact Prod.mk.inj (Option.some.inj (cut.symm.trans cut'))

/-- The mark does not stand in what is before it. -/
theorem FirstCut.mark_absent (nonempty : mark ≠ []) (cut : FirstCut mark text before after) :
    ¬ mark <:+: before := by
  rintro ⟨earlier, later, inside⟩
  have divided : text = earlier ++ (mark ++ (later ++ (mark ++ after))) := by
    rw [cut.divided, ← inside]
    simp only [List.append_assoc]
  have notEarlier := cut.first earlier _ divided
  have long := List.length_pos_iff.mpr nonempty
  rw [← inside, List.length_append, List.length_append] at notEarlier
  omega

end Cuts

/-- What stands between the first start tag of a title and the first end tag after it. -/
def HasTitle (page inner : List Char) : Prop :=
  ∃ before rest after, FirstCut titleStart page before rest ∧ FirstCut titleEnd rest inner after

/-- What stands after the first title element of a page, if this one is empty, up to the next end tag. -/
def RunsOn (page more : List Char) : Prop :=
  ∃ before rest after, FirstCut titleStart page before (titleEnd ++ rest) ∧ FirstCut titleEnd rest more after

/-- A page has one title at most. -/
theorem HasTitle.unique {page inner inner' : List Char} (titled : HasTitle page inner)
    (titled' : HasTitle page inner') : inner = inner' := by
  obtain ⟨before, rest, after, start, closed⟩ := titled
  obtain ⟨before', rest', after', start', closed'⟩ := titled'
  obtain rfl := (start.unique start').2
  exact (closed.unique closed').1

/-- There is no end tag within a title. -/
theorem HasTitle.titleEnd_absent {page inner : List Char} (titled : HasTitle page inner) :
    ¬ titleEnd <:+: Text.trimList inner := by
  obtain ⟨before, rest, after, -, closed⟩ := titled
  exact fun inside => closed.mark_absent (by decide) (inside.trans (Text.isInfix_trimList inner))

/-- A title element that is passed over is empty. -/
theorem RunsOn.hasTitle_nil {page more : List Char} (runsOn : RunsOn page more) : HasTitle page [] := by
  obtain ⟨before, rest, after, start, -⟩ := runsOn
  exact ⟨before, _, rest, start, firstCut_append_iff.mpr ⟨rfl, rfl⟩⟩

theorem titleText?_eq_some_iff_firstCut {page title : List Char} :
    titleText? page = some title ↔
      ∃ before c rest, FirstCut titleStart page before (c :: rest) ∧
        ∃ inner after, FirstCut titleEnd rest inner after ∧ title = c :: inner := by
  have cutStart {before after : List Char} :
      splitAtMark? titleStart page = some (before, after) ↔ FirstCut titleStart page before after :=
    splitAtMark?_eq_some_iff
  have cutEnd {rest before after : List Char} :
      splitAtMark? titleEnd rest = some (before, after) ↔ FirstCut titleEnd rest before after :=
    splitAtMark?_eq_some_iff
  simp only [titleText?, Option.bind_eq_bind, Option.bind_eq_some_iff, Prod.exists, cutStart]
  constructor
  · rintro ⟨before, opened, start, found⟩
    cases opened with
    | nil => cases found
    | cons c rest =>
        obtain ⟨inner, after, closed, same⟩ := by
          simpa only [Option.bind_eq_some_iff, Prod.exists, cutEnd] using found
        exact ⟨before, c, rest, start, inner, after, closed, (Option.some.inj same).symm⟩
  · rintro ⟨before, c, rest, start, inner, after, closed, rfl⟩
    refine ⟨before, c :: rest, start, ?_⟩
    simp only [Option.bind_eq_some_iff, Prod.exists, cutEnd]
    exact ⟨inner, after, closed, rfl⟩

/-- An end tag that stands at once is passed over: the title has at least one character. -/
theorem exists_firstCut_tail_iff {c : Char} {rest title : List Char} :
    (∃ inner after, FirstCut titleEnd rest inner after ∧ title = c :: inner) ↔
      (title ≠ [] ∧ ∃ after, FirstCut titleEnd (c :: rest) title after) ∨
        ∃ passed more after, c :: rest = titleEnd ++ passed ∧ FirstCut titleEnd passed more after ∧
          title = titleEnd ++ more := by
  by_cases closed : titleEnd <+: c :: rest
  · obtain ⟨passed, same⟩ := closed
    obtain ⟨rfl, rfl⟩ : '<' = c ∧ "/title>".toList ++ passed = rest := List.cons.inj same
    have other : '<' ∉ "/title>".toList := by decide
    have cut {inner after : List Char} :
        FirstCut titleEnd ("/title>".toList ++ passed) inner after ↔
          ∃ more, inner = "/title>".toList ++ more ∧ FirstCut titleEnd passed more after :=
      firstCut_passed_iff other
    constructor
    · rintro ⟨inner, after, found, rfl⟩
      obtain ⟨more, rfl, beyond⟩ := cut.mp found
      exact .inr ⟨passed, more, after, rfl, beyond, rfl⟩
    · rintro (⟨nonempty, after, found⟩ | ⟨_, more, after, again, found, rfl⟩)
      · exact absurd (firstCut_append_iff.mp found).1 nonempty
      · obtain rfl := List.append_cancel_left (same.trans again)
        exact ⟨_, after, cut.mpr ⟨more, rfl, found⟩, rfl⟩
  · constructor
    · rintro ⟨inner, after, found, rfl⟩
      exact .inl ⟨List.cons_ne_nil _ _, after, (firstCut_cons_iff closed).mpr ⟨inner, rfl, found⟩⟩
    · rintro (⟨-, after, found⟩ | ⟨passed, -, -, same, -⟩)
      · obtain ⟨inner, rfl, beyond⟩ := (firstCut_cons_iff closed).mp found
        exact ⟨inner, after, beyond, rfl⟩
      · exact absurd ⟨passed, same.symm⟩ closed

/-- The title of a page is what its title element holds, if that is anything; else the element's end tag is
taken for the beginning of a title that ends at the next one. -/
theorem titleText?_eq_some_iff {page title : List Char} :
    titleText? page = some title ↔
      title ≠ [] ∧ HasTitle page title ∨ ∃ more, RunsOn page more ∧ title = titleEnd ++ more := by
  simp only [titleText?_eq_some_iff_firstCut, exists_firstCut_tail_iff]
  constructor
  · rintro ⟨before, c, rest, start, inside | passedOver⟩
    · obtain ⟨nonempty, after, closed⟩ := inside
      exact .inl ⟨nonempty, before, c :: rest, after, start, closed⟩
    · obtain ⟨passed, more, after, same, closed, rfl⟩ := passedOver
      exact .inr ⟨more, ⟨before, passed, after, same ▸ start, closed⟩, rfl⟩
  · rintro (⟨nonempty, titled⟩ | ⟨more, runsOn, rfl⟩)
    · obtain ⟨before, rest, after, start, closed⟩ := titled
      cases rest with
      | nil => exact absurd closed not_firstCut_nil
      | cons c rest => exact ⟨before, c, rest, start, .inl ⟨nonempty, after, closed⟩⟩
    · obtain ⟨before, rest, after, start, closed⟩ := runsOn
      exact ⟨before, '<', "/title>".toList ++ rest, start, .inr ⟨rest, more, after, rfl, closed, rfl⟩⟩

theorem pageTitle?_eq_some_iff_titleText? {page t : String} :
    pageTitle? page = some t ↔
      t ≠ "" ∧ ∃ title, titleText? page.toList = some title ∧ t = String.ofList (Text.trimList title) := by
  rw [pageTitle?]
  cases titleText? page.toList with
  | none => simp
  | some title =>
      simp only [Option.some.injEq, exists_eq_left']
      split
      · next blank =>
          rw [List.isEmpty_iff.mp blank]
          constructor
          · intro none
            cases none
          · rintro ⟨nonempty, same⟩
            exact absurd same nonempty
      · next other =>
          rw [Option.some.injEq, eq_comm]
          refine ⟨fun same => ⟨?_, same⟩, And.right⟩
          rintro rfl
          exact other (List.isEmpty_iff.mpr (String.ofList_inj.mp same).symm)

/-- A page shows a title without the white space around it, if anything is left of it. -/
theorem pageTitle?_eq_some_iff {page t : String} :
    pageTitle? page = some t ↔ t ≠ "" ∧ ∃ title, t = String.ofList (Text.trimList title) ∧
      (HasTitle page.toList title ∨ ∃ more, RunsOn page.toList more ∧ title = titleEnd ++ more) := by
  rw [pageTitle?_eq_some_iff_titleText?]
  refine and_congr_right fun nonempty => exists_congr fun title => ?_
  rw [titleText?_eq_some_iff, and_comm]
  refine and_congr_right fun same => or_congr_left (and_iff_right ?_)
  rintro rfl
  exact nonempty same

/-- A title that runs on is never blank: it begins with an end tag. -/
theorem pageTitle?_eq_some_of_runsOn {page : String} {more : List Char} (runsOn : RunsOn page.toList more) :
    pageTitle? page = some (String.ofList (Text.trimList (titleEnd ++ more))) := by
  refine pageTitle?_eq_some_iff.mpr ⟨fun none => ?_, _, rfl, .inr ⟨more, runsOn, rfl⟩⟩
  have kept : '<' ∈ Text.trimList (titleEnd ++ more) := Text.mem_trimList (.head _) (by decide)
  rw [String.ofList_inj.mp none] at kept
  cases kept

theorem pageTitle?_eq_none_iff {page : String} :
    pageTitle? page = none ↔
      (∀ inner, HasTitle page.toList inner → Text.trimList inner = []) ∧
        ∀ more, ¬ RunsOn page.toList more := by
  constructor
  · intro untitled
    refine ⟨fun inner titled => ?_, fun more runsOn => ?_⟩
    · refine Decidable.byContradiction fun kept => ?_
      have shown : pageTitle? page = some (String.ofList (Text.trimList inner)) :=
        pageTitle?_eq_some_iff.mpr ⟨fun none => kept (String.ofList_inj.mp none), inner, rfl, .inl titled⟩
      rw [untitled] at shown
      cases shown
    · have shown := pageTitle?_eq_some_of_runsOn runsOn
      rw [untitled] at shown
      cases shown
  · rintro ⟨blank, stays⟩
    rw [Option.eq_none_iff_forall_ne_some]
    intro t shown
    obtain ⟨nonempty, inner, rfl, titled | ⟨more, runsOn, -⟩⟩ := pageTitle?_eq_some_iff.mp shown
    · rw [blank inner titled] at nonempty
      exact nonempty rfl
    · exact stays more runsOn

end SketchSurvey.Sketch
