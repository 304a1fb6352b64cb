import SketchSurvey.Proofs.Files.Directories
import SketchSurvey.Proofs.Sketch.Index
import SketchSurvey.Proofs.Sketch.Returns

/-! What becomes of the directories in a directory that is scanned. None is judged a page or a script, so all
are left over, but for one: a directory that has the name of the companion belongs to every page. -/

set_option autoImplicit false

namespace SketchSurvey.Sketch

open SketchSurvey.Files SketchSurvey.Log SketchSurvey.Settings

/-- The project of a page has an entry for its companion. -/
def Scan.PageTakes (found : Scan) (name : String) : Prop :=
  name = companionName ∧ ∃ project ∈ found.projects, project.markupFile.isSome ∧ project.Claims name

section Claimed

variable {fs : FileSystem} {s : AnalysisSettings} {dir name : String} {found : Scan} {entries : List String}

theorem readText_of_isDirectory {path : String} (isDirectory : fs.isDirectory path = true) (limit : Int) :
    ∃ p, fs.readText path limit = .error p := by
  obtain ⟨location, found⟩ := FileSystem.isDirectory_iff.mp isDirectory
  exact FileSystem.readText_of_other (FileSystem.status_eq_ok_iff.mpr found) nofun limit

theorem mem_files_iff_not_claimed [Host] (listed : fs.list dir = .ok entries)
    (returned : (scan fs s dir).result = .ok found) (member : name ∈ entries) :
    name ∈ found.files ↔ name ∉ found.projects.flatMap Project.files := by
  obtain ⟨_, _, _, same, -, -, -, files⟩ := scan_eq_ok_iff.mp returned
  cases listed.symm.trans same
  rw [files, mem_unclaimed_iff, and_iff_right member]

/-- What the project of a page has for its companion is one of the files of projects. -/
theorem Scan.PageTakes.claimed [Host] (wellNamed : fs.WellNamed) (returned : (scan fs s dir).result = .ok found)
    (takes : found.PageTakes name) : name ∈ found.projects.flatMap Project.files := by
  obtain ⟨entries, pages, scripts, listed, ofPages, ofScripts, projects, -⟩ := scan_eq_ok_iff.mp returned
  have proper := (FileSystem.list_spec wellNamed listed).2
  obtain ⟨-, project, known, hasPage, claims⟩ := takes
  rw [projects] at known ⊢
  rw [List.flatMap_append]
  refine List.mem_append_left _ ((mem_files_pageProjects_iff fun page kept => ?_).mpr
    ⟨project, (mem_pageProjects_iff scripts).mpr ⟨known, hasPage⟩, claims⟩)
  exact proper page (List.mem_filter.mp (mem_of_mem_keepIf ofPages kept)).1

/-- An entry that is a directory is claimed only as the companion of a page. -/
theorem claimed_directory_iff [Host] (wellNamed : fs.WellNamed) (listed : fs.list dir = .ok entries)
    (returned : (scan fs s dir).result = .ok found) (member : name ∈ entries)
    (isDirectory : fs.isDirectory (Path.join dir name) = true) :
    name ∈ found.projects.flatMap Project.files ↔ found.PageTakes name := by
  refine ⟨fun claimed => ?_, fun takes => takes.claimed wellNamed returned⟩
  obtain ⟨p, unread⟩ := readText_of_isDirectory isDirectory s.maxFileBytes
  have proper := (FileSystem.list_spec wellNamed listed).2
  refine (mem_files_of_unread proper listed returned member unread).resolve_left fun isLeft => ?_
  exact (mem_files_iff_not_claimed listed returned member).mp isLeft claimed

end Claimed

/-- Every directory in the directory is left over, is no file of a project, and is shown among the directories
of the index if it is shown at all; unless it has the name of the companion and a page takes it. -/
structure SparesDirectories [Host] (fs : FileSystem) (s : AnalysisSettings) (dir : String) (entries : List String)
    (found : Scan) : Prop where
  residual : ∀ name ∈ entries, fs.isDirectory (Path.join dir name) = true →
    (name ∈ found.files ↔ ¬ found.PageTakes name)
  unclaimed : ∀ name ∈ entries, fs.isDirectory (Path.join dir name) = true →
    (name ∉ found.projects.flatMap Project.files ↔ ¬ found.PageTakes name)
  shown : ∀ shown, (listing fs s dir).result = .ok shown →
    ∀ name ∈ entries, fs.isDirectory (Path.join dir name) = true → IsShownName s name →
      (name ∈ shown.directories ↔ ¬ found.PageTakes name)

theorem scan_spares_directories [Host] {fs : FileSystem} (wellNamed : fs.WellNamed) {s : AnalysisSettings}
    {dir : String} {found : Scan} (returned : (scan fs s dir).result = .ok found) :
    ∃ entries, fs.list dir = .ok entries ∧ SparesDirectories fs s dir entries found := by
  obtain ⟨entries, _, _, listed, -⟩ := scan_eq_ok_iff.mp returned
  have residual : ∀ name ∈ entries, fs.isDirectory (Path.join dir name) = true →
      (name ∈ found.files ↔ ¬ found.PageTakes name) := fun name member isDirectory =>
    (mem_files_iff_not_claimed listed returned member).trans
      (not_congr (claimed_directory_iff wellNamed listed returned member isDirectory))
  refine ⟨entries, listed, residual, ?_, ?_⟩
  · intro name member isDirectory
    exact not_congr (claimed_directory_iff wellNamed listed returned member isDirectory)
  · intro shown listing name member isDirectory isShown
    obtain ⟨found', returned', index⟩ := listing_eq_ok_iff.mp listing
    cases returned.symm.trans returned'
    rw [index.mem_directories_iff, mem_shownNames_iff, and_iff_left isShown, and_iff_left isDirectory]
    exact residual name member isDirectory

/-- A page that loads the library, and two directories with the endings of scripts. -/
def takenDirectory : FileSystem where
  nodes := [(["p.html"], .file smallPage), (["sketch.js"], .directory), (["src.js"], .directory)]

theorem wellNamed_takenDirectory : takenDirectory.WellNamed := .of_entries (by decide) nofun

theorem list_takenDirectory : takenDirectory.list "." = .ok ["p.html", "sketch.js", "src.js"] :=
  FileSystem.list_of_ordered (FileSystem.status_working _) rfl (by decide +kernel)

theorem judgeMarkup_takenDirectory [Host] :
    (judgeMarkup takenDirectory smallSettings "./p.html").result = .ok true := by
  have status : takenDirectory.status "./p.html" = .ok (["p.html"], .file smallPage) :=
    FileSystem.status_of_entry (.inr (by rfl)) (by decide) (by decide) (by decide) rfl nofun
  exact judgeMarkup_smallPage status (by rfl)

theorem isDirectory_takenDirectory {name : String} (member : name ∈ ["sketch.js", "src.js"]) :
    takenDirectory.isDirectory (Path.join "." name) = true := by
  suffices each : ∀ name ∈ ["sketch.js", "src.js"], takenDirectory.isDirectory (Path.join "." name) = true from
    each name member
  refine List.forall_mem_cons.mpr ⟨?_, List.forall_mem_singleton.mpr ?_⟩
  · have status : takenDirectory.status "./sketch.js" = .ok (["sketch.js"], .directory) :=
      FileSystem.status_of_entry (.inr (by rfl)) (by decide) (by decide) (by decide) rfl nofun
    rw [show Path.join "." "sketch.js" = "./sketch.js" from rfl, FileSystem.isDirectory, status]
  · have status : takenDirectory.status "./src.js" = .ok (["src.js"], .directory) :=
      FileSystem.status_of_entry (.inr (by rfl)) (by decide) (by decide) (by decide) rfl nofun
    rw [show Path.join "." "src.js" = "./src.js" from rfl, FileSystem.isDirectory, status]

/-- The page takes the directory with the name of the companion; the other one is left over. -/
def takenScan : Scan where
  projects := [{ dirPath := ".", markupFile := "p.html", scriptFile := companionName }]
  files := ["src.js"]

theorem scan_takenDirectory [Host] : (scan takenDirectory smallSettings ".").result = .ok takenScan := by
  refine scan_eq_ok_iff.mpr ⟨_, ["p.html"], [], list_takenDirectory, ?_, ?_, rfl, rfl⟩
  · rw [show ["p.html", "sketch.js", "src.js"].filter (hasExtension markupExtensions) = ["p.html"] by rfl]
    refine Logged.result_bind_eq_ok_iff.mpr ⟨true, ?_, Logged.result_bind_eq_ok_iff.mpr ⟨[], rfl, rfl⟩⟩
    dsimp only
    rw [show Path.join "." "p.html" = "./p.html" by rfl, skipUnreadable, judgeMarkup_takenDirectory]
  · rw [show unclaimed ["p.html", "sketch.js", "src.js"]
      (pageProjects "." ["p.html", "sketch.js", "src.js"] ["p.html"]) = ["src.js"] by rfl]
    refine Logged.result_bind_eq_ok_iff.mpr ⟨false, ?_, Logged.result_bind_eq_ok_iff.mpr ⟨[], rfl, rfl⟩⟩
    dsimp only
    rw [skipUnreadable, judgeScript, isDirectory_takenDirectory (by simp), Bool.true_or]
    rfl

/-- A directory can be a file of a project, and is then not left over. -/
theorem scan_takes_directory :
    takenDirectory.list "." = .ok ["p.html", "sketch.js", "src.js"] ∧
      takenDirectory.isDirectory (Path.join "." "sketch.js") = true ∧
      (@scan .bundled takenDirectory smallSettings ".").result = .ok takenScan ∧
      "sketch.js" ∉ takenScan.files ∧ "sketch.js" ∈ takenScan.projects.flatMap Project.files :=
  ⟨list_takenDirectory, isDirectory_takenDirectory (by simp), @scan_takenDirectory .bundled, by decide,
    by decide⟩

theorem scan_spares_directories_takenDirectory :
    takenDirectory.WellNamed ∧ (@scan .bundled takenDirectory smallSettings ".").result = .ok takenScan ∧
      ∃ entries, takenDirectory.list "." = .ok entries ∧
        @SparesDirectories .bundled takenDirectory smallSettings "." entries takenScan :=
  ⟨wellNamed_takenDirectory, @scan_takenDirectory .bundled,
    @scan_spares_directories .bundled _ wellNamed_takenDirectory _ _ _ (@scan_takenDirectory .bundled)⟩

end SketchSurvey.Sketch
