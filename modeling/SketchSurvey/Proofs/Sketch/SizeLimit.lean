import SketchSurvey.Proofs.Sketch.Projects

/-! What a scan finds under a looser limit on the size of files. A page that comes in takes the companion
from a project of its own, so scripts can change their projects, but no entry goes back to those left over. -/

set_option autoImplicit false

namespace SketchSurvey.Sketch

open SketchSurvey.Files SketchSurvey.Log SketchSurvey.Settings

/-- A limit is replaced by a greater one, or by none. -/
def Loosens (limit looser : Int) : Prop := 0 < limit ∧ (limit < looser ∨ looser = 0)

/-- The same settings with another limit. -/
def limited (s : AnalysisSettings) (limit : Int) : AnalysisSettings := { s with maxFileBytes := limit }

section Loosened

variable {fs : FileSystem} {s : AnalysisSettings} {dir name : String} {limit looser : Int}

theorem Loosens.holds (loosens : Loosens limit looser) {path text : String}
    (holds : fs.Holds limit path text) : fs.Holds looser path text := by
  obtain ⟨location, bytes, status, within, same⟩ := holds
  refine ⟨location, bytes, status, ?_, same⟩
  intro limited
  have small := within loosens.1
  rcases loosens.2 with greater | none
  · omega
  · omega

theorem loadsLibrary_limited [Host] {text : String} :
    LoadsLibrary (limited s limit) text ↔ LoadsLibrary s text := Iff.rfl

theorem isSketchScript_limited [Host] (s : AnalysisSettings) (limit : Int) (text : String) :
    isSketchScript (limited s limit) text = isSketchScript s text := by
  rw [isSketchScript, isSketchScript]
  cases Script.parse text with
  | ok program => rfl
  | error e => rfl

theorem Loosens.isSketchPage [Host] (loosens : Loosens limit looser)
    (page : IsSketchPage fs (limited s limit) dir name) : IsSketchPage fs (limited s looser) dir name := by
  obtain ⟨ending, text, holds, loads⟩ := page
  exact ⟨ending, text, loosens.holds holds, loadsLibrary_limited.mpr (loadsLibrary_limited.mp loads)⟩

theorem Loosens.isSketchCode [Host] (loosens : Loosens limit looser)
    (code : IsSketchCode fs (limited s limit) dir name) : IsSketchCode fs (limited s looser) dir name := by
  obtain ⟨ending, text, holds, declares⟩ := code
  rw [isSketchScript_limited] at declares
  exact ⟨ending, text, loosens.holds holds, (isSketchScript_limited s looser text).trans declares⟩

end Loosened

theorem pageProjects_subset {dir : String} {entries pages more : List String} (wider : pages ⊆ more) :
    pageProjects dir entries pages ⊆ pageProjects dir entries more :=
  List.map_subset _ wider

/-- What the projects of a scan have for their files is claimed by a page, or is a script of its own. -/
theorem mem_files_iff_claims_or_mem {dir name : String} {entries pages scripts : List String}
    (pagesProper : ∀ page ∈ pages, IsEntryName page)
    (scriptsProper : ∀ script ∈ scripts, IsEntryName script) :
    name ∈ (pageProjects dir entries pages ++ scriptProjects dir scripts).flatMap Project.files ↔
      (∃ p ∈ pageProjects dir entries pages, p.Claims name) ∨ name ∈ scripts := by
  rw [List.flatMap_append, List.mem_append, mem_files_pageProjects_iff pagesProper,
    files_scriptProjects scriptsProper]

/-- Whatever is claimed under a limit is claimed under a looser one, and every project of a page stays. -/
theorem scan_keeps_claims [Host] {fs : FileSystem} (wellNamed : fs.WellNamed) {s : AnalysisSettings}
    {dir : String} {limit looser : Int} (loosens : Loosens limit looser) {found more : Scan}
    (first : (scan fs (limited s limit) dir).result = .ok found)
    (second : (scan fs (limited s looser) dir).result = .ok more) :
    (∀ name ∈ found.projects.flatMap Project.files, name ∈ more.projects.flatMap Project.files) ∧
      ∀ p ∈ found.projects, p.markupFile.isSome → p ∈ more.projects := by
  obtain ⟨entries, pages, scripts, listed, ofPages, ofScripts, projects, -⟩ := scan_eq_ok_iff.mp first
  obtain ⟨entries', pages', scripts', listed', ofPages', ofScripts', projects', -⟩ :=
    scan_eq_ok_iff.mp second
  cases listed.symm.trans listed'
  have proper := (FileSystem.list_spec wellNamed listed).2
  have isPage := mem_pages_iff proper (keepIf_eq_ok_iff.mp ofPages).2
  have isPage' := mem_pages_iff proper (keepIf_eq_ok_iff.mp ofPages').2
  have pagesListed : ∀ page ∈ pages, page ∈ entries := fun page member => ((isPage page).mp member).1
  have pagesListed' : ∀ page ∈ pages', page ∈ entries := fun page member => ((isPage' page).mp member).1
  have isScript := mem_scripts_iff proper pagesListed (keepIf_eq_ok_iff.mp ofScripts).2
  have isScript' := mem_scripts_iff proper pagesListed' (keepIf_eq_ok_iff.mp ofScripts').2
  have wider : pageProjects dir entries pages ⊆ pageProjects dir entries pages' := by
    apply pageProjects_subset
    intro page member
    obtain ⟨isEntry, page⟩ := (isPage _).mp member
    exact (isPage' _).mpr ⟨isEntry, loosens.isSketchPage page⟩
  rw [projects, projects']
  constructor
  · intro name claimed
    rw [mem_files_iff_claims_or_mem (fun page member => proper page (pagesListed page member))
      (fun script member => proper script ((isScript script).mp member).1)] at claimed
    rw [mem_files_iff_claims_or_mem (fun page member => proper page (pagesListed' page member))
      (fun script member => proper script ((isScript' script).mp member).1)]
    rcases claimed with ⟨p, ofPage, claims⟩ | member
    · exact .inl ⟨p, wider ofPage, claims⟩
    · -- a script of its own stays one unless a page that came in takes it
      obtain ⟨isEntry, -, code⟩ := (isScript name).mp member
      by_cases taken : ∃ p ∈ pageProjects dir entries pages', p.Claims name
      · exact .inl taken
      · exact .inr ((isScript' name).mpr ⟨isEntry, taken, loosens.isSketchCode code⟩)
  · intro p known hasPage
    exact List.mem_append_left _ (wider ((mem_pageProjects_iff scripts).mpr ⟨known, hasPage⟩))

/-- Two pages that load the library; the second one is longer by a line feed. -/
def twoPages : FileSystem where
  nodes := [(["a.htm"], .file smallPage), (["b.htm"], .file (smallPage ++ [10]))]

theorem wellNamed_twoPages : twoPages.WellNamed := .of_entries (by decide) nofun

theorem list_twoPages : twoPages.list "." = .ok ["a.htm", "b.htm"] :=
  FileSystem.list_of_ordered (FileSystem.status_working _) rfl (by decide +kernel)

theorem status_firstPage : twoPages.status "./a.htm" = .ok (["a.htm"], .file smallPage) :=
  FileSystem.status_of_entry (.inr (by rfl)) (by decide) (by decide) (by decide) rfl nofun

theorem status_secondPage :
    twoPages.status "./b.htm" = .ok (["b.htm"], .file (smallPage ++ [10])) :=
  FileSystem.status_of_entry (.inr (by rfl)) (by decide) (by decide) (by decide) rfl nofun

/-- A page within the limit that loads the library is judged so. -/
theorem judgeMarkup_of_sources [Host] (limit : Int) {path : String} {location : Location}
    {bytes : Text.Utf8.Bytes} (status : twoPages.status path = .ok (location, .file bytes))
    (ending : hasExtension markupExtensions path = true) (within : 0 < limit → bytes.length ≤ limit)
    (sources : Markup.scriptSources (textOf bytes) = .ok ["p5"]) :
    (skipUnreadable path (judgeMarkup twoPages (limited smallSettings limit) path)).result = .ok true := by
  obtain ⟨library, compiled, matched⟩ := libraryRegex_smallSettings
  rw [skipUnreadable_eq_true_iff, judgeMarkup_result, judgeBy_eq_true_iff]
  refine ⟨ending, textOf bytes, ⟨location, bytes, status, within, rfl⟩, ?_⟩
  rw [isSketchMarkup_eq_true_iff]
  exact ⟨library, ["p5"], compiled, sources, "p5", .head _, matched⟩

theorem judgeScript_of_page [Host] {path : String} (s : AnalysisSettings)
    (ending : hasExtension scriptExtensions path = false) :
    (skipUnreadable path (judgeScript twoPages s path)).result = .ok false := by
  rw [skipUnreadable, judgeScript, ending, Bool.not_false, Bool.or_true]
  rfl

theorem scan_twoPages_limited [Host] : (scan twoPages (limited smallSettings 15) ".").result = .ok {
    projects := [{ dirPath := ".", markupFile := "a.htm" }]
    files := ["b.htm"] } := by
  have kept := judgeMarkup_of_sources 15 status_firstPage rfl (by decide)
    (eq_ok_of_toOption (by decide +kernel))
  have passed : (skipUnreadable "./b.htm"
      (judgeMarkup twoPages (limited smallSettings 15) "./b.htm")).result = .ok false := by
    rw [skipUnreadable, judgeMarkup_result, judgeBy, FileSystem.isDirectory, status_secondPage,
      FileSystem.readText_of_file status_secondPage]
    rfl
  refine scan_eq_ok_iff.mpr ⟨_, ["a.htm"], [], list_twoPages, ?_, ?_, rfl, rfl⟩
  · exact Logged.result_bind_eq_ok_iff.mpr ⟨true, kept, Logged.result_bind_eq_ok_iff.mpr ⟨[],
      Logged.result_bind_eq_ok_iff.mpr ⟨false, passed, Logged.result_bind_eq_ok_iff.mpr ⟨[], rfl, rfl⟩⟩,
      rfl⟩⟩
  · exact Logged.result_bind_eq_ok_iff.mpr ⟨false, judgeScript_of_page _ rfl,
      Logged.result_bind_eq_ok_iff.mpr ⟨[], rfl, rfl⟩⟩

theorem scan_twoPages_unlimited [Host] : (scan twoPages (limited smallSettings 0) ".").result = .ok {
    projects := [{ dirPath := ".", markupFile := "a.htm" }, { dirPath := ".", markupFile := "b.htm" }]
    files := [] } := by
  have first := judgeMarkup_of_sources 0 status_firstPage rfl nofun
    (eq_ok_of_toOption (by decide +kernel))
  have second := judgeMarkup_of_sources 0 status_secondPage rfl nofun
    (eq_ok_of_toOption (by decide +kernel))
  refine scan_eq_ok_iff.mpr ⟨_, ["a.htm", "b.htm"], [], list_twoPages, ?_, rfl, rfl, rfl⟩
  exact Logged.result_bind_eq_ok_iff.mpr ⟨true, first, Logged.result_bind_eq_ok_iff.mpr ⟨["b.htm"],
    Logged.result_bind_eq_ok_iff.mpr ⟨true, second, Logged.result_bind_eq_ok_iff.mpr ⟨[], rfl, rfl⟩⟩,
    rfl⟩⟩

theorem scan_keeps_claims_twoPages :
    twoPages.WellNamed ∧ Loosens 15 0 ∧
    ∃ found more, (@scan .bundled twoPages (limited smallSettings 15) ".").result = .ok found ∧
      (@scan .bundled twoPages (limited smallSettings 0) ".").result = .ok more ∧
      (∀ name ∈ found.projects.flatMap Project.files, name ∈ more.projects.flatMap Project.files) ∧
      ∀ p ∈ found.projects, p.markupFile.isSome → p ∈ more.projects :=
  ⟨wellNamed_twoPages, ⟨by decide, .inr rfl⟩, _, _, @scan_twoPages_limited .bundled,
    @scan_twoPages_unlimited .bundled,
    @scan_keeps_claims .bundled _ wellNamed_twoPages _ _ _ _ ⟨by decide, .inr rfl⟩ _ _
      (@scan_twoPages_limited .bundled) (@scan_twoPages_unlimited .bundled)⟩

end SketchSurvey.Sketch
