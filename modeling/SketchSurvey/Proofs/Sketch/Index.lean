import Mathlib.Data.List.Nodup
import SketchSurvey.Proofs.Files.TextFile
import SketchSurvey.Proofs.Sketch.Partition
import SketchSurvey.Sketch.Listing

/-! What an index shows. Every name that is left over, does not start with a dot and is not excluded is shown
in one place: among the directories, among the files, or as the one that introduces the directory. Only a
directory that is taken for the last of these is shown once more. -/

set_option autoImplicit false

namespace SketchSurvey.Sketch

open SketchSurvey.Files SketchSurvey.Log SketchSurvey.Settings

/-- A name that an index does not leave out. -/
structure IsShownName (s : AnalysisSettings) (name : String) : Prop where
  plain : name.toList.head? ≠ some '.'
  included : ∀ pattern ∈ s.listingExclusions, Glob.matchesName pattern name = false

theorem isVisible_iff {s : AnalysisSettings} {name : String} :
    isVisible s.listingExclusions name = true ↔ IsShownName s name := by
  rw [isVisible, Bool.and_eq_true, Bool.not_eq_true', Bool.not_eq_true', isHidden, List.any_eq_false]
  constructor
  · rintro ⟨plain, included⟩
    exact ⟨by simpa using plain, fun pattern known => by simpa using included pattern known⟩
  · rintro ⟨plain, included⟩
    exact ⟨by simpa using plain, fun pattern known => by simpa using included pattern known⟩

/-- The names that an index shows, in their order. -/
def shownNames (s : AnalysisSettings) (found : Scan) : List String :=
  sortedByLetters (found.files.filter (isVisible s.listingExclusions))

theorem mem_shownNames_iff {s : AnalysisSettings} {found : Scan} {name : String} :
    name ∈ shownNames s found ↔ name ∈ found.files ∧ IsShownName s name := by
  rw [shownNames, sortedByLetters, List.mem_mergeSort, List.mem_filter, isVisible_iff]

/-- An index is made of what a scan has found. -/
structure IsIndex (fs : FileSystem) (s : AnalysisSettings) (dir : String) (found : Scan)
    (shown : Listing) : Prop where
  title : shown.title = Path.baseName (Path.normalize dir)
  projects : shown.projects = found.projects
  readme : shown.readme = (shownNames s found).find? fun name => Text.lower name == readmeName
  directories : shown.directories =
    (shownNames s found).filter fun name => fs.isDirectory (Path.join dir name)
  files : shown.files =
    (shownNames s found).filter fun name => !shown.directories.contains name && some name != shown.readme

variable {fs : FileSystem} {s : AnalysisSettings} {dir name : String} {found : Scan} {shown : Listing}

theorem listing_eq_ok_iff [Host] :
    (listing fs s dir).result = .ok shown ↔
      ∃ found, (scan fs s dir).result = .ok found ∧ IsIndex fs s dir found shown := by
  rw [listing, Logged.result_bind_eq_ok_iff]
  refine exists_congr fun found => and_congr_right fun _ => ?_
  rw [Logged.result_pure, Except.ok.injEq]
  constructor
  · rintro rfl
    exact ⟨rfl, rfl, rfl, rfl, rfl⟩
  · rintro ⟨title, projects, readme, directories, files⟩
    obtain ⟨_, _, _, _, _⟩ := shown
    dsimp only at title projects readme directories files
    subst title projects readme directories files
    rfl

/-- What is left over stands there once. -/
theorem nodup_files_of_scan [Host] (returned : (scan fs s dir).result = .ok found) : found.files.Nodup := by
  obtain ⟨entries, _, _, listed, -, -, -, files⟩ := scan_eq_ok_iff.mp returned
  rw [files, unclaimed]
  exact ((FileSystem.pairwise_list listed).imp String.ne_of_lt).filter _

theorem nodup_shownNames (nodup : found.files.Nodup) : (shownNames s found).Nodup :=
  (List.mergeSort_perm _ _).nodup_iff.mpr (nodup.filter _)

namespace IsIndex

variable (index : IsIndex fs s dir found shown)

include index

theorem mem_directories_iff :
    name ∈ shown.directories ↔
      name ∈ shownNames s found ∧ fs.isDirectory (Path.join dir name) = true := by
  rw [index.directories, List.mem_filter]

theorem mem_files_iff :
    name ∈ shown.files ↔
      name ∈ shownNames s found ∧ fs.isDirectory (Path.join dir name) = false ∧
        shown.readme ≠ some name := by
  rw [index.files, List.mem_filter, Bool.and_eq_true, Bool.not_eq_true', ← Bool.not_eq_true,
    List.contains_iff_mem, index.mem_directories_iff, bne_iff_ne]
  refine and_congr_right fun visible => and_congr ?_ ne_comm
  rw [and_iff_right visible, Bool.not_eq_true]

theorem mem_of_readme (isReadme : shown.readme = some name) : name ∈ shownNames s found := by
  rw [index.readme] at isReadme
  exact List.mem_of_find?_eq_some isReadme

theorem lower_readme (isReadme : shown.readme = some name) : Text.lower name = readmeName := by
  rw [index.readme] at isReadme
  simpa using List.find?_some isReadme

/-- A name is shown once if it is one of those to be shown, and once more if it is that of a directory which
introduces the one that is listed. -/
theorem count_eq (nodup : found.files.Nodup) (name : String) :
    (shown.directories ++ shown.files ++ shown.readme.toList).count name =
      (if name ∈ shownNames s found then 1 else 0) +
        if shown.readme = some name ∧ fs.isDirectory (Path.join dir name) = true then 1 else 0 := by
  have once := nodup_shownNames (s := s) nodup
  have inDirectories : shown.directories.Nodup := index.directories ▸ once.filter _
  have inFiles : shown.files.Nodup := index.files ▸ once.filter _
  have inReadme : shown.readme.toList.Nodup := by cases shown.readme <;> simp
  rw [List.count_append, List.count_append, inDirectories.count, inFiles.count, inReadme.count]
  simp only [index.mem_directories_iff, index.mem_files_iff, Option.mem_toList]
  by_cases isReadme : shown.readme = some name
  · have visible := index.mem_of_readme isReadme
    by_cases isDirectory : fs.isDirectory (Path.join dir name) = true
    · simp [isReadme, visible, isDirectory]
    · simp [isReadme, visible, isDirectory]
  · by_cases isDirectory : fs.isDirectory (Path.join dir name) = true
    · simp [isReadme, isDirectory]
    · simp [isReadme, isDirectory]

end IsIndex

/-- Every name that is left over and not left out is shown exactly once, and no other name is shown. A name is
shown twice only if a directory has the name of the file that introduces the directory listed. -/
structure ShowsOnce (fs : FileSystem) (s : AnalysisSettings) (dir : String) (found : Scan)
    (shown : Listing) : Prop where
  count : ∀ name, name ∈ found.files → IsShownName s name →
    (shown.directories ++ shown.files ++ shown.readme.toList).count name =
      if shown.readme = some name ∧ fs.isDirectory (Path.join dir name) = true then 2 else 1
  visible : ∀ name ∈ shown.directories ++ shown.files ++ shown.readme.toList,
    name ∈ found.files ∧ IsShownName s name
  directories : ∀ name ∈ shown.directories, fs.isDirectory (Path.join dir name) = true
  files : ∀ name ∈ shown.files, fs.isDirectory (Path.join dir name) = false
  readme : ∀ name ∈ shown.readme, Text.lower name = readmeName ∧
    (fs.isDirectory (Path.join dir name) = true → name ∈ shown.directories)

theorem listing_shows_once [Host] (returned : (listing fs s dir).result = .ok shown) :
    ∃ found, (scan fs s dir).result = .ok found ∧ ShowsOnce fs s dir found shown := by
  obtain ⟨found, scanned, index⟩ := listing_eq_ok_iff.mp returned
  have count := index.count_eq (nodup_files_of_scan scanned)
  refine ⟨found, scanned, ?_, ?_, ?_, ?_, ?_⟩
  · intro name isLeft isShown
    rw [count, if_pos (mem_shownNames_iff.mpr ⟨isLeft, isShown⟩)]
    split <;> rfl
  · intro name member
    refine mem_shownNames_iff.mp ?_
    rcases List.mem_append.mp member with member | isReadme
    · rcases List.mem_append.mp member with member | member
      · exact (index.mem_directories_iff.mp member).1
      · exact (index.mem_files_iff.mp member).1
    · exact index.mem_of_readme (Option.mem_toList.mp isReadme)
  · intro name member
    exact (index.mem_directories_iff.mp member).2
  · intro name member
    exact (index.mem_files_iff.mp member).2.1
  · intro name isReadme
    exact ⟨index.lower_readme isReadme, fun isDirectory =>
      index.mem_directories_iff.mpr ⟨index.mem_of_readme isReadme, isDirectory⟩⟩

/-- A directory in which a directory has the name of the file that would introduce it. -/
def guideDirectory : FileSystem where
  nodes := [(["README.md"], .directory), (["style.css"], .file [])]

theorem list_guideDirectory : guideDirectory.list "." = .ok ["README.md", "style.css"] :=
  FileSystem.list_of_ordered (FileSystem.status_working _) rfl (by decide +kernel)

theorem scan_guideDirectory [Host] :
    (scan guideDirectory smallSettings ".").result = .ok { projects := [], files := ["README.md", "style.css"] } := by
  have passed (name : String) (other : hasExtension scriptExtensions (Path.join "." name) = false) :
      (skipUnreadable (Path.join "." name)
        (judgeScript guideDirectory smallSettings (Path.join "." name))).result = .ok false := by
    rw [skipUnreadable, judgeScript, other, Bool.not_false, Bool.or_true]
    rfl
  refine scan_eq_ok_iff.mpr ⟨_, [], [], list_guideDirectory, rfl, ?_, rfl, rfl⟩
  exact Logged.result_bind_eq_ok_iff.mpr ⟨false, passed "README.md" rfl,
    Logged.result_bind_eq_ok_iff.mpr ⟨[], Logged.result_bind_eq_ok_iff.mpr
      ⟨false, passed "style.css" rfl, Logged.result_bind_eq_ok_iff.mpr ⟨[], rfl, rfl⟩⟩, rfl⟩⟩

theorem isDirectory_guideDirectory :
    guideDirectory.isDirectory (Path.join "." "README.md") = true := by
  have status : guideDirectory.status "./README.md" = .ok (["README.md"], .directory) :=
    FileSystem.status_of_entry (.inr (by rfl)) (by decide) (by decide) (by decide) rfl nofun
  rw [show Path.join "." "README.md" = "./README.md" from rfl, FileSystem.isDirectory, status]

theorem not_isDirectory_guideDirectory :
    guideDirectory.isDirectory (Path.join "." "style.css") = false := by
  have status : guideDirectory.status "./style.css" = .ok (["style.css"], .file []) :=
    FileSystem.status_of_entry (.inr (by rfl)) (by decide) (by decide) (by decide) rfl nofun
  rw [show Path.join "." "style.css" = "./style.css" from rfl, FileSystem.isDirectory, status]

theorem shownNames_guideDirectory :
    shownNames smallSettings { projects := [], files := ["README.md", "style.css"] } =
      ["README.md", "style.css"] := by
  have visible : ["README.md", "style.css"].filter (isVisible smallSettings.listingExclusions) =
      ["README.md", "style.css"] := by decide +kernel
  rw [shownNames, visible, sortedByLetters, List.mergeSort_of_pairwise]
  decide +kernel

/-- The index of the directory with a directory as its introduction. -/
def guideIndex : Listing where
  title := "."
  projects := []
  directories := ["README.md"]
  files := ["style.css"]
  readme := some "README.md"

theorem listing_guideDirectory [Host] :
    (listing guideDirectory smallSettings ".").result = .ok guideIndex := by
  refine listing_eq_ok_iff.mpr ⟨_, scan_guideDirectory, ?_⟩
  have isNamed : Text.lower "README.md" = readmeName := by decide +kernel
  constructor
  · decide +kernel
  · rfl
  · simp [shownNames_guideDirectory, isNamed, guideIndex]
  · simp [shownNames_guideDirectory, isDirectory_guideDirectory, not_isDirectory_guideDirectory, guideIndex]
  · simp [shownNames_guideDirectory, guideIndex]

/-- A directory can be shown twice, among the directories and as the one that introduces the one listed. -/
theorem listing_shows_twice :
    (@scan .bundled guideDirectory smallSettings ".").result =
        .ok { projects := [], files := ["README.md", "style.css"] } ∧
      IsShownName smallSettings "README.md" ∧
      (@listing .bundled guideDirectory smallSettings ".").result = .ok guideIndex ∧
      (guideIndex.directories ++ guideIndex.files ++ guideIndex.readme.toList).count "README.md" = 2 ∧
      guideIndex.readme = some "README.md" ∧
      guideDirectory.isDirectory (Path.join "." "README.md") = true :=
  ⟨@scan_guideDirectory .bundled, isVisible_iff.mp (by decide +kernel), @listing_guideDirectory .bundled,
    by decide +kernel, rfl, isDirectory_guideDirectory⟩

theorem listing_shows_once_guideDirectory :
    ∃ shown, (@listing .bundled guideDirectory smallSettings ".").result = .ok shown ∧
      ∃ found, (@scan .bundled guideDirectory smallSettings ".").result = .ok found ∧
        ShowsOnce guideDirectory smallSettings "." found shown :=
  ⟨guideIndex, @listing_guideDirectory .bundled,
    @listing_shows_once _ _ _ _ .bundled (@listing_guideDirectory .bundled)⟩

end SketchSurvey.Sketch
