import SketchSurvey.Proofs.Sketch.Judgement
import SketchSurvey.Proofs.Sketch.Partition

/-! Which projects a scan finds: exactly one for every page that loads the library, then one for every
script of a sketch that belongs to none of these, both in the order of their names. -/

set_option autoImplicit false

namespace SketchSurvey.Sketch

open SketchSurvey.Files SketchSurvey.Log SketchSurvey.Settings

/-- A text that loads the library, as a page. -/
def LoadsLibrary [Host] (s : AnalysisSettings) (text : String) : Prop :=
  ∃ library sources, s.libraryRegex = .ok library ∧ Markup.scriptSources text = .ok sources ∧
    ∃ source ∈ sources, library.search source = true

/-- An entry that is the page of a sketch. -/
def IsSketchPage [Host] (fs : FileSystem) (s : AnalysisSettings) (dir name : String) : Prop :=
  (HasEnding "htm" name ∨ HasEnding "html" name) ∧
    ∃ text, fs.Holds s.maxFileBytes (Path.join dir name) text ∧ LoadsLibrary s text

/-- An entry that is the script of a sketch. -/
def IsSketchCode [Host] (fs : FileSystem) (s : AnalysisSettings) (dir name : String) : Prop :=
  HasEnding "js" name ∧
    ∃ text, fs.Holds s.maxFileBytes (Path.join dir name) text ∧ isSketchScript s text = .ok true

/-- A project has an entry as its page or as its script. -/
def Project.Claims (p : Project) (name : String) : Prop :=
  p.markupFile = some name ∨ p.scriptFile = some name

/-- The projects of a directory with some entries, made of some pages and some scripts. -/
structure AreProjects [Host] (fs : FileSystem) (s : AnalysisSettings) (dir : String)
    (entries pages scripts : List String) (projects : List Project) : Prop where
  inOrder : projects =
    pages.map (fun name => {
      dirPath := dir
      markupFile := some name
      scriptFile := if companionName ∈ entries then some companionName else none }) ++
    scripts.map fun name => { dirPath := dir, scriptFile := some name }
  pagesIncrease : pages.Pairwise (· < ·)
  scriptsIncrease : scripts.Pairwise (· < ·)
  mem_pages_iff : ∀ name, name ∈ pages ↔ name ∈ entries ∧ IsSketchPage fs s dir name
  mem_scripts_iff : ∀ name, name ∈ scripts ↔
    name ∈ entries ∧ (∀ p ∈ projects, p.markupFile.isSome → ¬ p.Claims name) ∧
      IsSketchCode fs s dir name
  unread : ∀ name p, fs.readText (Path.join dir name) s.maxFileBytes = .error p →
    name ∉ pages ∧ name ∉ scripts

theorem isSketchMarkup_eq_true_iff [Host] {s : AnalysisSettings} {text : String} :
    isSketchMarkup s text = .ok true ↔ LoadsLibrary s text := by
  rw [isSketchMarkup, LoadsLibrary]
  cases s.libraryRegex with
  | error e => simp
  | ok library =>
      cases Markup.scriptSources text with
      | error e => simp
      | ok sources => simp

theorem saysYes_markup_iff [Host] {fs : FileSystem} {s : AnalysisSettings} {dir name : String}
    (isName : IsEntryName name) :
    saysYes (skipUnreadable (Path.join dir name) (judgeMarkup fs s (Path.join dir name))) = true ↔
      IsSketchPage fs s dir name := by
  simp only [saysYes_iff, skipUnreadable_eq_true_iff, judgeMarkup_result, judgeBy_eq_true_iff,
    hasExtension_join isName.undivided, hasExtension_markup_iff isName.undivided,
    isSketchMarkup_eq_true_iff, IsSketchPage]

theorem saysYes_script_iff [Host] {fs : FileSystem} {s : AnalysisSettings} {dir name : String}
    (isName : IsEntryName name) :
    saysYes (skipUnreadable (Path.join dir name) (judgeScript fs s (Path.join dir name))) = true ↔
      IsSketchCode fs s dir name := by
  simp only [saysYes_iff, skipUnreadable_eq_true_iff, judgeScript_result, judgeBy_eq_true_iff,
    hasExtension_join isName.undivided, hasExtension_script_iff isName.undivided, IsSketchCode]

theorem pageProjects_eq (dir : String) (entries pages : List String) :
    pageProjects dir entries pages = pages.map fun name => {
      dirPath := dir
      markupFile := some name
      scriptFile := if companionName ∈ entries then some companionName else none } := by
  simp only [pageProjects, List.contains_iff_mem]

/-- The files of a page's project are what it claims. -/
theorem mem_files_pageProjects_iff {dir : String} {entries pages : List String} {name : String}
    (proper : ∀ page ∈ pages, IsEntryName page) :
    name ∈ (pageProjects dir entries pages).flatMap Project.files ↔
      ∃ p ∈ pageProjects dir entries pages, p.Claims name := by
  rw [List.mem_flatMap]
  refine exists_congr fun p => and_congr_right fun known => ?_
  rw [pageProjects_eq] at known
  obtain ⟨page, member, rfl⟩ := List.mem_map.mp known
  rw [Project.files_eq (fun n same => by cases same; exact proper page member) (fun n same => by
    dsimp only at same
    split at same <;> cases same
    exact isEntryName_companionName)]
  simp [Project.Claims, eq_comm]

/-- The projects of pages are those that name a page. -/
theorem mem_pageProjects_iff {dir : String} {entries pages : List String} (scripts : List String)
    {p : Project} :
    p ∈ pageProjects dir entries pages ↔
      p ∈ pageProjects dir entries pages ++ scriptProjects dir scripts ∧ p.markupFile.isSome := by
  constructor
  · intro known
    refine ⟨List.mem_append_left _ known, ?_⟩
    obtain ⟨page, -, rfl⟩ := List.mem_map.mp known
    rfl
  · rintro ⟨known, hasPage⟩
    refine (List.mem_append.mp known).resolve_right fun ofScript => ?_
    obtain ⟨script, -, rfl⟩ := List.mem_map.mp ofScript
    cases hasPage

/-- A path that could not be read holds no text. -/
theorem not_holds_of_unread {fs : FileSystem} {limit : Int} {path text : String} {p : ReadProblem}
    (unread : fs.readText path limit = .error p) : ¬ fs.Holds limit path text := by
  rw [← FileSystem.readText_eq_ok_iff, unread]
  exact nofun

section Kept

variable {fs : FileSystem} {s : AnalysisSettings} {dir : String} {entries pages scripts : List String}

theorem mem_pages_iff [Host] (proper : ∀ name ∈ entries, IsEntryName name)
    (kept : pages = (entries.filter (hasExtension markupExtensions)).filter fun name =>
      saysYes (skipUnreadable (Path.join dir name) (judgeMarkup fs s (Path.join dir name))))
    (name : String) : name ∈ pages ↔ name ∈ entries ∧ IsSketchPage fs s dir name := by
  rw [kept, List.mem_filter, List.mem_filter, and_assoc]
  refine and_congr_right fun member => ?_
  rw [saysYes_markup_iff (proper name member), hasExtension_markup_iff (proper name member).undivided]
  exact ⟨And.right, fun page => ⟨page.1, page⟩⟩

theorem mem_scripts_iff [Host] (proper : ∀ name ∈ entries, IsEntryName name)
    (listed : ∀ page ∈ pages, page ∈ entries)
    (kept : scripts = (unclaimed entries (pageProjects dir entries pages)).filter fun name =>
      saysYes (skipUnreadable (Path.join dir name) (judgeScript fs s (Path.join dir name))))
    (name : String) :
    name ∈ scripts ↔ name ∈ entries ∧
      (¬ ∃ p ∈ pageProjects dir entries pages, p.Claims name) ∧ IsSketchCode fs s dir name := by
  rw [kept, List.mem_filter, mem_unclaimed_iff, and_assoc,
    mem_files_pageProjects_iff fun page member => proper page (listed page member)]
  exact and_congr_right fun member => and_congr_right fun _ => saysYes_script_iff (proper name member)

end Kept

/-- A scan that returns has found the projects of the directory, all of them and no others. -/
theorem scan_finds_projects [Host] {fs : FileSystem} (wellNamed : fs.WellNamed) {s : AnalysisSettings}
    {dir : String} {found : Scan} (returned : (scan fs s dir).result = .ok found) :
    ∃ entries pages scripts, fs.list dir = .ok entries ∧
      AreProjects fs s dir entries pages scripts found.projects := by
  obtain ⟨entries, pages, scripts, listed, ofPages, ofScripts, projects, -⟩ :=
    scan_eq_ok_iff.mp returned
  obtain ⟨increasing, proper⟩ := FileSystem.list_spec wellNamed listed
  obtain ⟨-, keptPages⟩ := keepIf_eq_ok_iff.mp ofPages
  obtain ⟨-, keptScripts⟩ := keepIf_eq_ok_iff.mp ofScripts
  have isPage := mem_pages_iff proper keptPages
  have isScript := mem_scripts_iff proper (fun page member => ((isPage page).mp member).1) keptScripts
  refine ⟨entries, pages, scripts, listed, ?_, ?_, ?_, isPage, ?_, fun name p unread => ⟨?_, ?_⟩⟩
  · rw [projects, pageProjects_eq, scriptProjects]
  · rw [keptPages]
    exact (increasing.filter _).filter _
  · rw [keptScripts, unclaimed]
    exact (increasing.filter _).filter _
  · intro name
    rw [isScript, projects]
    simp only [not_exists, not_and, mem_pageProjects_iff scripts, and_imp]
  · intro kept
    obtain ⟨-, -, text, holds, -⟩ := (isPage name).mp kept
    exact not_holds_of_unread unread holds
  · intro kept
    obtain ⟨-, -, -, text, holds, -⟩ := (isScript name).mp kept
    exact not_holds_of_unread unread holds

theorem scan_finds_projects_smallDirectory :
    smallDirectory.WellNamed ∧
    ∃ found, (@scan .bundled smallDirectory smallSettings "/").result = .ok found ∧
      ∃ entries pages scripts, smallDirectory.list "/" = .ok entries ∧
        @AreProjects .bundled smallDirectory smallSettings "/" entries pages scripts found.projects :=
  ⟨wellNamed_smallDirectory, _, @scan_smallDirectory .bundled,
    @scan_finds_projects .bundled _ wellNamed_smallDirectory _ _ _ (@scan_smallDirectory .bundled)⟩

end SketchSurvey.Sketch
