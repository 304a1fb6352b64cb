import SketchSurvey.Proofs.Files.Arrangement
import SketchSurvey.Proofs.Sketch.Index

/-! The order of an index. Names stand in the order of their small letters, and those that differ in case
only in the order of their codes; the introduction of a directory is the first that can be one. The order in
which the file system has the entries is not to be seen. -/

set_option autoImplicit false

namespace SketchSurvey.Sketch

open SketchSurvey.Files SketchSurvey.Log SketchSurvey.Settings

/-- The order of names in an index. -/
def ComesBefore (a b : String) : Prop :=
  Text.lower a < Text.lower b ∨ Text.lower a = Text.lower b ∧ a < b

/-- A name comes before all others of a kind. -/
def IsFirst (kind : String → Prop) (name : String) : Prop :=
  kind name ∧ ∀ other, kind other → other ≠ name → ComesBefore name other

theorem ComesBefore.asymm {a b : String} (first : ComesBefore a b) : ¬ ComesBefore b a := by
  intro second
  rcases first with less | ⟨same, less⟩
  · rcases second with less' | ⟨same', _⟩
    · exact String.lt_irrefl _ (String.lt_trans less less')
    · exact String.lt_irrefl _ (same' ▸ less)
  · rcases second with less' | ⟨_, less'⟩
    · exact String.lt_irrefl _ (same ▸ less')
    · exact String.lt_irrefl _ (String.lt_trans less less')

section Sublists

variable {a b : String} {l : List String}

theorem sublist_either_way (different : a ≠ b) (inside : a ∈ l) (inside' : b ∈ l) :
    List.Sublist [a, b] l ∨ List.Sublist [b, a] l := by
  induction l with
  | nil => cases inside
  | cons c rest ih =>
      cases inside with
      | head =>
          cases inside' with
          | head => exact absurd rfl different
          | tail _ inside' => exact .inl ((List.singleton_sublist.mpr inside').cons_cons a)
      | tail _ inside =>
          cases inside' with
          | head => exact .inr ((List.singleton_sublist.mpr inside).cons_cons b)
          | tail _ inside' =>
              rcases ih inside inside' with first | second
              · exact .inl (first.cons c)
              · exact .inr (second.cons c)

theorem not_sublist_both_ways (nodup : l.Nodup) (first : List.Sublist [a, b] l) :
    ¬ List.Sublist [b, a] l := by
  intro second
  induction l with
  | nil => cases first
  | cons c rest ih =>
      obtain ⟨absent, nodup⟩ := List.nodup_cons.mp nodup
      cases first with
      | cons _ first =>
          cases second with
          | cons _ second => exact ih nodup first second
          | cons_cons _ second => exact absent (first.subset (.tail _ (.head _)))
      | cons_cons _ first =>
          cases second with
          | cons _ second => exact absent (second.subset (.tail _ (.head _)))
          | cons_cons _ second => exact absent (second.subset (.head _))

end Sublists

/-- Names in strictly increasing order are sorted by their small letters first. The sort is stable, so of
names that differ in case only the one with the lower code stays in front. -/
theorem pairwise_sortedByLetters {names : List String} (increasing : names.Pairwise (· < ·)) :
    (sortedByLetters names).Pairwise ComesBefore := by
  let atMost (a b : String) : Bool := decide (Text.lower a ≤ Text.lower b)
  have trans (a b c : String) (first : atMost a b) (second : atMost b c) : atMost a c := by
    rw [decide_eq_true_eq] at first second ⊢
    exact String.le_trans first second
  have total (a b : String) : atMost a b || atMost b a := by
    rw [Bool.or_eq_true, decide_eq_true_eq, decide_eq_true_eq]
    exact String.le_total _ _
  have nodup : names.Nodup := increasing.imp String.ne_of_lt
  have nodup' : (sortedByLetters names).Nodup := (List.mergeSort_perm _ _).nodup_iff.mpr nodup
  have ordered : (sortedByLetters names).Pairwise fun a b => atMost a b :=
    List.pairwise_mergeSort trans total names
  rw [List.pairwise_iff_forall_sublist]
  intro a b here
  have lettersAtMost : Text.lower a ≤ Text.lower b :=
    of_decide_eq_true (List.pairwise_iff_forall_sublist.mp ordered here)
  by_cases less : Text.lower a < Text.lower b
  · exact .inl less
  · have lettersSame : Text.lower a = Text.lower b :=
      String.le_antisymm lettersAtMost (String.not_lt.mp less)
    have different : a ≠ b := List.pairwise_iff_forall_sublist.mp nodup' here
    have inside : a ∈ names := List.mem_mergeSort.mp (here.subset (.head _))
    have inside' : b ∈ names := List.mem_mergeSort.mp (here.subset (.tail _ (.head _)))
    rcases sublist_either_way different inside inside' with kept | turned
    · exact .inr ⟨lettersSame, List.pairwise_iff_forall_sublist.mp increasing kept⟩
    · have alike : atMost b a := by
        rw [decide_eq_true_eq]
        exact lettersSame ▸ String.le_refl _
      have again : List.Sublist [b, a] (sortedByLetters names) :=
        List.pair_sublist_mergeSort trans total alike turned
      exact absurd again (not_sublist_both_ways nodup' here)

/-- In a list in order, the first of a kind comes before all others of it. -/
theorem find?_eq_some_iff_isFirst {names : List String} (ordered : names.Pairwise ComesBefore)
    (test : String → Bool) (name : String) :
    names.find? test = some name ↔ IsFirst (fun other => other ∈ names ∧ test other = true) name := by
  constructor
  · intro found
    obtain ⟨passes, before, after, rfl, others⟩ := List.find?_eq_some_iff_append.mp found
    refine ⟨⟨List.mem_append_right _ (.head _), passes⟩, ?_⟩
    rintro other ⟨member, passes'⟩ different
    rcases List.mem_append.mp member with earlier | later
    · have fails := others other earlier
      rw [passes'] at fails
      cases fails
    · have isLater := (List.mem_cons.mp later).resolve_left different
      exact (List.pairwise_cons.mp (List.pairwise_append.mp ordered).2.1).1 other isLater
  · rintro ⟨⟨member, passes⟩, first⟩
    obtain ⟨before, after, rfl⟩ := List.append_of_mem member
    refine List.find?_eq_some_iff_append.mpr ⟨passes, before, after, rfl, ?_⟩
    intro other earlier
    have otherFirst : ComesBefore other name :=
      (List.pairwise_append.mp ordered).2.2 other earlier name (.head _)
    cases answer : test other with
    | false => rfl
    | true =>
        have different : other ≠ name := by
          rintro rfl
          exact otherFirst.asymm otherFirst
        exact absurd (first other ⟨List.mem_append_left _ earlier, answer⟩ different) otherFirst.asymm

section Same

variable {fs other : FileSystem} (same : fs.SameTree other) (s : AnalysisSettings)

include same

theorem judgeMarkup_congr [Host] (path : String) : judgeMarkup other s path = judgeMarkup fs s path := by
  rw [judgeMarkup, judgeMarkup, readText, readText, same.isDirectory, same.readText]

theorem judgeScript_congr [Host] (path : String) : judgeScript other s path = judgeScript fs s path := by
  rw [judgeScript, judgeScript, readText, readText, same.isDirectory, same.readText]

theorem scan_congr [Host] (dir : String) : scan other s dir = scan fs s dir := by
  rw [scan, scan, same.list]
  simp only [judgeMarkup_congr same, judgeScript_congr same]

theorem listing_congr [Host] (dir : String) : listing other s dir = listing fs s dir := by
  rw [listing, listing, scan_congr same]
  simp only [same.isDirectory]

end Same

/-- Directories and files are in order, and the introduction is the first name that can be one. -/
structure IsOrdered (s : AnalysisSettings) (found : Scan) (shown : Listing) : Prop where
  directories : shown.directories.Pairwise ComesBefore
  files : shown.files.Pairwise ComesBefore
  readme : ∀ name, shown.readme = some name ↔ IsFirst
    (fun other => (other ∈ found.files ∧ IsShownName s other) ∧ Text.lower other = readmeName) name
  noReadme : shown.readme = none ↔
    ∀ name ∈ found.files, IsShownName s name → Text.lower name ≠ readmeName

theorem IsIndex.isOrdered {fs : FileSystem} {s : AnalysisSettings} {dir : String} {found : Scan}
    {shown : Listing} (index : IsIndex fs s dir found shown)
    (increasing : found.files.Pairwise (· < ·)) : IsOrdered s found shown := by
  have ordered : (shownNames s found).Pairwise ComesBefore :=
    pairwise_sortedByLetters (increasing.filter _)
  refine ⟨?_, ?_, ?_, ?_⟩
  · rw [index.directories]
    exact ordered.filter _
  · rw [index.files]
    exact ordered.filter _
  · intro name
    rw [index.readme, find?_eq_some_iff_isFirst ordered]
    simp only [IsFirst, mem_shownNames_iff, beq_iff_eq]
  · rw [index.readme, List.find?_eq_none]
    simp only [mem_shownNames_iff, beq_iff_eq, and_imp, ne_eq]

/-- Whenever a directory has an index, its names are in order, and it is the same whatever the order in which
the file system has the entries. -/
theorem listing_in_order [Host] {fs : FileSystem} {s : AnalysisSettings} {dir : String} {shown : Listing}
    (returned : (listing fs s dir).result = .ok shown) :
    (∃ found, (scan fs s dir).result = .ok found ∧ IsOrdered s found shown) ∧
      ∀ other, fs.SameTree other → listing other s dir = listing fs s dir := by
  refine ⟨?_, fun other same => listing_congr same s dir⟩
  obtain ⟨found, scanned, index⟩ := listing_eq_ok_iff.mp returned
  refine ⟨found, scanned, index.isOrdered ?_⟩
  obtain ⟨entries, _, _, listed, -, -, -, files⟩ := scan_eq_ok_iff.mp scanned
  rw [files, unclaimed]
  exact (FileSystem.pairwise_list listed).filter _

/-- The directory with a directory as its introduction, its entries the other way round. -/
def turnedDirectory : FileSystem where
  nodes := [(["style.css"], .file []), (["README.md"], .directory)]

theorem sameTree_turnedDirectory : guideDirectory.SameTree turnedDirectory :=
  FileSystem.sameTree_of_perm (by decide) (.swap ..) rfl

theorem listing_in_order_guideDirectory :
    ∃ shown, (@listing .bundled guideDirectory smallSettings ".").result = .ok shown ∧
      (∃ found, (@scan .bundled guideDirectory smallSettings ".").result = .ok found ∧
        IsOrdered smallSettings found shown) ∧
      guideDirectory.SameTree turnedDirectory ∧
      @listing .bundled turnedDirectory smallSettings "." =
        @listing .bundled guideDirectory smallSettings "." := by
  have shown := @listing_guideDirectory .bundled
  have ordered := @listing_in_order .bundled _ _ _ _ shown
  exact ⟨guideIndex, shown, ordered.1, sameTree_turnedDirectory, ordered.2 _ sameTree_turnedDirectory⟩

end SketchSurvey.Sketch
