import Mathlib.Data.List.Lattice
import SketchSurvey.Bundled
import SketchSurvey.Proofs.Files.Extension
import SketchSurvey.Proofs.Files.TextFile
import SketchSurvey.Proofs.Text.Sorted
import SketchSurvey.Sketch.Scan

/-! A scan divides the entries of a directory: every entry is a file of some project or is left over,
and none is both. What is left over stands in strictly increasing order. -/

set_option autoImplicit false

namespace SketchSurvey.Files

theorem Path.baseName_eq_self {name : String} (undivided : '/' ∉ name.toList) :
    Path.baseName name = name := by
  rw [Path.baseName, Path.nameList_eq_self undivided, String.ofList_toList]

/-- The names that are listed for a directory increase. -/
theorem FileSystem.pairwise_list {fs : FileSystem} {path : String} {entries : List String}
    (listed : fs.list path = .ok entries) : entries.Pairwise (· < ·) := by
  unfold FileSystem.list at listed
  split at listed
  · cases listed
    exact Text.pairwise_lt_sorted (Text.nodup_eraseDups _)
  · cases listed
  · cases listed

/-- The names that are listed for a directory increase, and are names of entries. -/
theorem FileSystem.list_spec {fs : FileSystem} (wellNamed : fs.WellNamed) {path : String}
    {entries : List String} (listed : fs.list path = .ok entries) :
    entries.Pairwise (· < ·) ∧ ∀ name ∈ entries, IsEntryName name := by
  refine ⟨pairwise_list listed, ?_⟩
  unfold FileSystem.list at listed
  split at listed
  · next location _ =>
      cases listed
      intro name member
      rw [namesIn, Text.mem_sorted, List.mem_eraseDups, List.mem_filterMap] at member
      obtain ⟨⟨place, node⟩, known, child⟩ := member
      cases place with
      | nil => cases child
      | cons first parent =>
          simp only [childName?, Option.ite_none_right_eq_some, Option.some.injEq] at child
          exact wellNamed.nodes _ node known name (child.2 ▸ .head _)
  · cases listed
  · cases listed

end SketchSurvey.Files

namespace SketchSurvey.Sketch

open SketchSurvey.Files SketchSurvey.Log SketchSurvey.Settings

/-- The items that pass a test are among those that were tested. -/
theorem mem_of_mem_keepIf {ε α : Type} {test : α → Logged ε Bool} {kept : List α} {a : α} :
    ∀ {items : List α}, (keepIf test items).result = .ok kept → a ∈ kept → a ∈ items
  | [], done, member => by
      cases done
      cases member
  | item :: rest, done, member => by
      rw [keepIf] at done
      obtain ⟨passed, _, done⟩ := Logged.result_bind_eq_ok_iff.mp done
      obtain ⟨more, others, done⟩ := Logged.result_bind_eq_ok_iff.mp done
      have inRest : a ∈ more → a ∈ item :: rest := fun inside =>
        .tail _ (mem_of_mem_keepIf others inside)
      rw [Logged.result_pure] at done
      cases passed with
      | true =>
          cases done
          rcases List.mem_cons.mp member with rfl | member
          · exact .head _
          · exact inRest member
      | false =>
          cases done
          exact inRest member

/-- What a scan did when it gave a result: which pages and which scripts it kept. -/
theorem scan_eq_ok_iff [Host] {fs : FileSystem} {s : AnalysisSettings} {dir : String} {found : Scan} :
    (scan fs s dir).result = .ok found ↔
      ∃ entries pages scripts,
        fs.list dir = .ok entries ∧
        (keepIf (fun name => skipUnreadable (Path.join dir name) (judgeMarkup fs s (Path.join dir name)))
          (entries.filter (hasExtension markupExtensions))).result = .ok pages ∧
        (keepIf (fun name => skipUnreadable (Path.join dir name) (judgeScript fs s (Path.join dir name)))
          (unclaimed entries (pageProjects dir entries pages))).result = .ok scripts ∧
        found.projects = pageProjects dir entries pages ++ scriptProjects dir scripts ∧
        found.files = unclaimed entries found.projects := by
  simp only [scan, Logged.result_bind_eq_ok_iff, Logged.ofExcept, Logged.write, Logged.result_pure]
  constructor
  · rintro ⟨entries, listed, pages, ofPages, scripts, ofScripts, _, _, done⟩
    cases done
    refine ⟨entries, pages, scripts, ?_, ofPages, ofScripts, rfl, rfl⟩
    cases result : fs.list dir with
    | error p =>
        rw [result] at listed
        cases listed
    | ok names =>
        rw [result] at listed
        cases listed
        rfl
  · rintro ⟨entries, pages, scripts, listed, ofPages, ofScripts, projects, files⟩
    obtain ⟨foundProjects, foundFiles⟩ := found
    dsimp only at projects files
    subst projects
    subst files
    refine ⟨entries, ?_, pages, ofPages, scripts, ofScripts, (), trivial, rfl⟩
    rw [listed]
    rfl

theorem map_baseName_named {name : Option String} (proper : ∀ n ∈ name, IsEntryName n) :
    (named name).toList.map Path.baseName = name.toList := by
  cases name with
  | none => rfl
  | some n =>
      have isName := proper n rfl
      have nonempty : (!n.isEmpty) = true := by
        simpa [String.isEmpty_iff] using isName.nonempty
      simp only [named, Option.filter_some, nonempty, ↓reduceIte, Option.toList_some, List.map_cons,
        List.map_nil, Path.baseName_eq_self isName.undivided]

/-- A project that is made of names of entries has just these as its files. -/
theorem Project.files_eq {p : Project} (page : ∀ n ∈ p.markupFile, IsEntryName n)
    (script : ∀ n ∈ p.scriptFile, IsEntryName n) :
    p.files = p.markupFile.toList ++ p.scriptFile.toList := by
  rw [Project.files, List.map_append, map_baseName_named page, map_baseName_named script]

theorem isEntryName_companionName : IsEntryName companionName := by decide

/-- The projects of pages claim the pages and, besides them, at most the companion. -/
theorem mem_files_pageProjects {dir : String} {entries pages : List String} {name : String}
    (proper : ∀ page ∈ pages, IsEntryName page)
    (member : name ∈ (pageProjects dir entries pages).flatMap Project.files) :
    name ∈ pages ∨ name = companionName ∧ companionName ∈ entries := by
  obtain ⟨project, isProject, inFiles⟩ := List.mem_flatMap.mp member
  obtain ⟨page, isPage, rfl⟩ := List.mem_map.mp isProject
  rw [Project.files_eq (fun n same => by cases same; exact proper page isPage)
    (fun n same => by
      dsimp only at same
      split at same <;> cases same
      exact isEntryName_companionName)] at inFiles
  rcases List.mem_append.mp inFiles with isMarkup | isScript
  · rw [Option.mem_toList] at isMarkup
    cases isMarkup
    exact .inl isPage
  · rw [Option.mem_toList] at isScript
    dsimp only at isScript
    split at isScript
    · next present =>
        cases isScript
        exact .inr ⟨rfl, List.contains_iff_mem.mp present⟩
    · cases isScript

theorem files_scriptProjects {dir : String} {scripts : List String}
    (proper : ∀ script ∈ scripts, IsEntryName script) :
    (scriptProjects dir scripts).flatMap Project.files = scripts := by
  induction scripts with
  | nil => rfl
  | cons script rest ih =>
      have own : Project.files { dirPath := dir, scriptFile := some script } = [script] :=
        Project.files_eq nofun (fun n same => by cases same; exact proper script (.head _))
      have others := ih fun n member => proper n (.tail _ member)
      rw [scriptProjects] at others ⊢
      rw [List.map_cons, List.flatMap_cons, own, others, List.singleton_append]

theorem mem_unclaimed_iff {entries : List String} {projects : List Project} {name : String} :
    name ∈ unclaimed entries projects ↔
      name ∈ entries ∧ name ∉ projects.flatMap Project.files := by
  rw [unclaimed, List.mem_filter, Bool.not_eq_true', ← Bool.not_eq_true, List.contains_iff_mem]

/-- A scan divides the entries of a directory into the files of projects and those left over. -/
theorem scan_partitions [Host] {fs : FileSystem} (wellNamed : fs.WellNamed) {s : AnalysisSettings}
    {dir : String} {found : Scan} (returned : (scan fs s dir).result = .ok found) :
    ∃ entries, fs.list dir = .ok entries ∧
      List.Disjoint (found.projects.flatMap Project.files) found.files ∧
      (∀ name, name ∈ found.projects.flatMap Project.files ∨ name ∈ found.files ↔
        name ∈ entries) ∧
      found.files.Pairwise (· < ·) := by
  obtain ⟨entries, pages, scripts, listed, ofPages, ofScripts, projects, files⟩ :=
    scan_eq_ok_iff.mp returned
  obtain ⟨increasing, proper⟩ := FileSystem.list_spec wellNamed listed
  have pagesListed : ∀ name ∈ pages, name ∈ entries := fun name member =>
    (List.mem_filter.mp (mem_of_mem_keepIf ofPages member)).1
  have scriptsListed : ∀ name ∈ scripts, name ∈ entries := fun name member =>
    (mem_unclaimed_iff.mp (mem_of_mem_keepIf ofScripts member)).1
  have claimed : ∀ name ∈ found.projects.flatMap Project.files, name ∈ entries := by
    intro name member
    rw [projects, List.flatMap_append,
      files_scriptProjects fun script inside => proper script (scriptsListed script inside)] at member
    rcases List.mem_append.mp member with ofPage | ofScript
    · rcases mem_files_pageProjects (fun page inside => proper page (pagesListed page inside)) ofPage
        with isPage | ⟨rfl, companion⟩
      · exact pagesListed name isPage
      · exact companion
    · exact scriptsListed name ofScript
  refine ⟨entries, listed, ?_, ?_, ?_⟩
  · intro name isClaimed isLeft
    rw [files, mem_unclaimed_iff] at isLeft
    exact isLeft.2 isClaimed
  · intro name
    rw [files, mem_unclaimed_iff]
    constructor
    · rintro (isClaimed | ⟨isEntry, _⟩)
      · exact claimed name isClaimed
      · exact isEntry
    · intro isEntry
      by_cases isClaimed : name ∈ found.projects.flatMap Project.files
      · exact .inl isClaimed
      · exact .inr ⟨isEntry, isClaimed⟩
  · rw [files]
    exact increasing.filter _

/-- A page that loads the library. -/
def smallPage : Text.Utf8.Bytes := "<script src=p5>".toList.map (·.toNat.toUInt8)

/-- A page that loads the library, the page's script and a directory, in the root. -/
def smallDirectory : FileSystem where
  nodes := [(["a.htm"], .file smallPage), (["notes"], .directory), (["sketch.js"], .file [])]

def smallSettings : AnalysisSettings where
  libraryScriptPattern := "p5"
  maxFileBytes := 0

theorem wellNamed_smallDirectory : smallDirectory.WellNamed := .of_entries (by decide) nofun

theorem list_smallDirectory : smallDirectory.list "/" = .ok ["a.htm", "notes", "sketch.js"] := by
  have walked : smallDirectory.walk true maxLinks [] ["."] = .ok (.present [] .directory) := by
    simp only [FileSystem.walk]
    rfl
  have status : smallDirectory.status "/" = .ok ([], .directory) :=
    FileSystem.status_of_walk (by decide) (by decide) (by decide) walked
  exact FileSystem.list_of_ordered status rfl (by decide +kernel)

theorem eq_ok_of_toOption {ε α : Type} {result : Except ε α} {a : α}
    (same : result.toOption = some a) : result = .ok a := by
  cases result with
  | ok b => exact congrArg _ (Option.some.inj same)
  | error => cases same

theorem libraryRegex_smallSettings [Host] :
    ∃ r, smallSettings.libraryRegex = .ok r ∧ r.search "p5" = true := by
  have fits : Host.exhaustedByPattern "p5" = false := Host.fits_of_single "p5" (by decide)
  have compiled : smallSettings.libraryRegex = .ok {
      source := "p5"
      body := "p5".toList.map fun c => .literal c.toNat
      flags := {}
      widths := [] } := by
    rw [AnalysisSettings.libraryRegex, Regex.compile, if_neg (by simp [smallSettings, fits])]
    rfl
  exact ⟨_, compiled, by decide +kernel⟩

theorem judgeMarkup_smallPage [Host] {fs : FileSystem} {path : String} {location : Location}
    (status : fs.status path = .ok (location, .file smallPage))
    (ending : hasExtension markupExtensions path = true) :
    (judgeMarkup fs smallSettings path).result = .ok true := by
  have spelled : textOf smallPage = "<script src=p5>" := by decide +kernel
  have text : fs.readText path 0 = .ok "<script src=p5>" := by
    rw [FileSystem.readText, FileSystem.checkSize, FileSystem.read, status, ← spelled]
    rfl
  have sources : Markup.scriptSources "<script src=p5>" = .ok ["p5"] :=
    eq_ok_of_toOption (by decide +kernel)
  obtain ⟨regex, compiled, found⟩ := libraryRegex_smallSettings
  have loads : isSketchMarkup smallSettings "<script src=p5>" = .ok true := by
    rw [isSketchMarkup, compiled]
    dsimp only
    rw [sources]
    simp [found]
  rw [judgeMarkup, FileSystem.isDirectory, status, readText,
    show smallSettings.maxFileBytes = 0 from rfl, text, ending]
  change (Logged.ofExcept ((isSketchMarkup smallSettings "<script src=p5>").mapError Problem.judge)).result
    = _
  rw [loads]
  rfl

theorem judgeMarkup_smallDirectory [Host] :
    (judgeMarkup smallDirectory smallSettings "/a.htm").result = .ok true := by
  have status : smallDirectory.status "/a.htm" = .ok (["a.htm"], .file smallPage) :=
    FileSystem.status_of_entry (.inl (by rfl)) (by decide) (by decide) (by decide) rfl nofun
  exact judgeMarkup_smallPage status (by rfl)

theorem scan_smallDirectory [Host] :
    (scan smallDirectory smallSettings "/").result = .ok
      { projects := [{ dirPath := "/", markupFile := "a.htm", scriptFile := companionName }]
        files := ["notes"] } := by
  refine scan_eq_ok_iff.mpr ⟨_, ["a.htm"], [], list_smallDirectory, ?_, ?_, ?_, ?_⟩
  · rw [show ["a.htm", "notes", "sketch.js"].filter (hasExtension markupExtensions) = ["a.htm"] by rfl]
    refine Logged.result_bind_eq_ok_iff.mpr ⟨true, ?_, Logged.result_bind_eq_ok_iff.mpr ⟨[], rfl, rfl⟩⟩
    dsimp only
    rw [show Path.join "/" "a.htm" = "/a.htm" by rfl, skipUnreadable, judgeMarkup_smallDirectory]
  · rw [show unclaimed ["a.htm", "notes", "sketch.js"]
      (pageProjects "/" ["a.htm", "notes", "sketch.js"] ["a.htm"]) = ["notes"] by rfl]
    refine Logged.result_bind_eq_ok_iff.mpr ⟨false, ?_, Logged.result_bind_eq_ok_iff.mpr ⟨[], rfl, rfl⟩⟩
    dsimp only
    rw [show Path.join "/" "notes" = "/notes" by rfl, skipUnreadable, judgeScript,
      show hasExtension scriptExtensions "/notes" = false by rfl, Bool.not_false, Bool.or_true]
    rfl
  · rfl
  · rfl

theorem scan_partitions_smallDirectory :
    smallDirectory.WellNamed ∧
    ∃ found, (@scan .bundled smallDirectory smallSettings "/").result = .ok found ∧
      ∃ entries, smallDirectory.list "/" = .ok entries ∧
        List.Disjoint (found.projects.flatMap Project.files) found.files ∧
        (∀ name, name ∈ found.projects.flatMap Project.files ∨ name ∈ found.files ↔
          name ∈ entries) ∧
        found.files.Pairwise (· < ·) :=
  ⟨wellNamed_smallDirectory, _, @scan_smallDirectory .bundled,
    @scan_partitions .bundled _ wellNamed_smallDirectory _ _ _ (@scan_smallDirectory .bundled)⟩

end SketchSurvey.Sketch
