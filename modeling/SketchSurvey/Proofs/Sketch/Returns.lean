import SketchSurvey.Proofs.Markup.Refusal
import SketchSurvey.Proofs.Script.Restricted
import SketchSurvey.Proofs.Settings.Fallback
import SketchSurvey.Proofs.Sketch.Projects

/-! When a scan returns. In a directory of files, directories and dangling links the only thing that can
keep it from returning is a page that is refused. Its scripts never do: the parser leaves out no part that
their trees are asked for. -/

set_option autoImplicit false

namespace SketchSurvey.Sketch

open SketchSurvey.Files SketchSurvey.Log SketchSurvey.Script SketchSurvey.Settings

/-- A path that leads to a file or to a directory, or by a dangling link to nothing. -/
inductive IsOrdinary (fs : FileSystem) (path : String) : Prop where
  | file {location : Location} {bytes : Text.Utf8.Bytes}
      (status : fs.status path = .ok (location, .file bytes))
  | directory {location : Location} (status : fs.status path = .ok (location, .directory))
  | dangling (status : fs.status path = .error (.failed .notFound path))

/-- If an ordinary entry cannot be read, a scan passes over it. -/
theorem IsOrdinary.skipped {fs : FileSystem} {path : String} {limit : Int} {p : ReadProblem}
    (ordinary : IsOrdinary fs path) (noDirectory : fs.isDirectory path = false)
    (unread : fs.readText path limit = .error p) : (skipReason? (.read p)).isSome := by
  cases ordinary with
  | file status =>
      rw [FileSystem.readText_of_file status] at unread
      split at unread
      · cases unread
        rfl
      · cases unread
  | directory status =>
      rw [FileSystem.isDirectory, status] at noDirectory
      cases noDirectory
  | dangling status =>
      rw [FileSystem.readText_of_missing status] at unread
      cases unread
      rfl

/-- An ordinary entry can be judged if its text can. -/
theorem skipUnreadable_judgeBy_returns_iff {fs : FileSystem} {limit : Int} {extensions : List String}
    {judge : String → Except JudgeProblem Bool} {path : String} {judged : Logged Problem Bool}
    (same : judged.result = judgeBy fs limit extensions judge path) (ordinary : IsOrdinary fs path) :
    (∃ b, (skipUnreadable path judged).result = .ok b) ↔
      (hasExtension extensions path = true → ∀ text, fs.Holds limit path text →
        ∃ b, judge text = .ok b) := by
  rw [skipUnreadable_returns_iff, same]
  constructor
  · intro passed ending text holds
    cases answer : judge text with
    | ok b => exact ⟨b, rfl⟩
    | error q =>
        have skipped := passed (.judge q) (judgeBy_eq_error_iff.mpr
          ⟨holds.isDirectory_eq_false, ending, .inr ⟨text, q, holds, answer, rfl⟩⟩)
        cases skipped
  · intro answers p failed
    obtain ⟨noDirectory, ending, ⟨q, unread, rfl⟩ | ⟨text, q, holds, refused, rfl⟩⟩ :=
      judgeBy_eq_error_iff.mp failed
    · exact ordinary.skipped noDirectory unread
    · obtain ⟨b, answer⟩ := answers ending text holds
      rw [answer] at refused
      cases refused

section Host

/-- What the parser of scripts promises for a text that it finds no error in: the parts that the grammar
never leaves out are there, in every node. -/
def KeepsParts (read : String → Script.Node) (text : String) : Prop :=
  (read text).hasError = false → (read text).Everywhere Script.Node.HasParts

variable [Host]

/-- A text whose tree has its parts and is not too deep is a script, or is refused as one that is not. -/
theorem parseOn_returns {text : String} (fileName : String) (keeps : KeepsParts Host.readTree text)
    (shallow : Host.exhaustedByScript text = false) :
    (∃ p, parseOn text fileName = .ok p) ∨ ∃ e, parseOn text fileName = .error (.notScript e) := by
  rw [parseOn, shallow, if_neg Bool.false_ne_true]
  by_cases faulty : (Host.readTree text).hasError = true
  · exact .inr ⟨_, by rw [parseWith, if_pos faulty]⟩
  · have correct := Bool.eq_false_iff.mpr faulty
    exact .inl ⟨_, parseWith_of_hasParts correct (keeps correct)⟩

/-- Every such text is a sketch's script or is not. -/
theorem isSketchScript_returns (s : AnalysisSettings) {text : String}
    (keeps : KeepsParts Host.readTree text) (shallow : Host.exhaustedByScript text = false) :
    ∃ b, isSketchScript s text = .ok b := by
  rw [isSketchScript]
  rcases parseOn_returns anonymous keeps shallow with ⟨p, parsed⟩ | ⟨e, refused⟩
  · rw [parsed]
    exact ⟨_, rfl⟩
  · rw [refused, declaresSketch, AnalysisSettings.fallbackRegex, compile_fallbackPattern]
    exact ⟨_, rfl⟩

/-- A page is refused only for what stands in it. -/
theorem isSketchMarkup_returns {s : AnalysisSettings} {library : Regex.Pattern}
    (compiles : s.libraryRegex = .ok library) {text : String}
    (clean : ∀ p : Markup.Problem, ¬ p.OccursIn text.toList) : ∃ b, isSketchMarkup s text = .ok b := by
  rw [isSketchMarkup, compiles]
  dsimp only
  cases read : Markup.scriptSources text with
  | ok sources => exact ⟨_, rfl⟩
  | error p => exact absurd (Markup.occursIn_of_scriptSources read) (clean p)

section Scanning

variable {fs : FileSystem} {s : AnalysisSettings} {dir : String} {entries : List String}

theorem judgeMarkup_returns_iff {name : String} (isName : IsEntryName name)
    (ordinary : IsOrdinary fs (Path.join dir name)) :
    (∃ b, (skipUnreadable (Path.join dir name) (judgeMarkup fs s (Path.join dir name))).result = .ok b) ↔
      (HasEnding "htm" name ∨ HasEnding "html" name →
        ∀ text, fs.Holds s.maxFileBytes (Path.join dir name) text →
          ∃ b, isSketchMarkup s text = .ok b) := by
  rw [skipUnreadable_judgeBy_returns_iff (judgeMarkup_result fs s (Path.join dir name)) ordinary,
    hasExtension_join isName.undivided, hasExtension_markup_iff isName.undivided]

theorem judgeScript_returns {name : String} (ordinary : IsOrdinary fs (Path.join dir name))
    (keeps : ∀ text, KeepsParts Host.readTree text)
    (shallow : ∀ text, fs.Holds s.maxFileBytes (Path.join dir name) text →
      Host.exhaustedByScript text = false) :
    ∃ b, (skipUnreadable (Path.join dir name) (judgeScript fs s (Path.join dir name))).result = .ok b :=
  (skipUnreadable_judgeBy_returns_iff (judgeScript_result fs s (Path.join dir name)) ordinary).mpr
    fun _ text holds => isSketchScript_returns s (keeps text) (shallow text holds)

/-- The pages of a directory that was scanned were all judged. -/
theorem isSketchMarkup_of_scan (proper : ∀ name ∈ entries, IsEntryName name)
    (listed : fs.list dir = .ok entries)
    (ordinary : ∀ name ∈ entries, IsOrdinary fs (Path.join dir name)) {found : Scan}
    (returned : (scan fs s dir).result = .ok found) {name : String} (member : name ∈ entries)
    (ending : HasEnding "htm" name ∨ HasEnding "html" name) {text : String}
    (holds : fs.Holds s.maxFileBytes (Path.join dir name) text) :
    ∃ b, isSketchMarkup s text = .ok b := by
  obtain ⟨_, pages, scripts, same, ofPages, -⟩ := scan_eq_ok_iff.mp returned
  cases listed.symm.trans same
  have isPage := (hasExtension_markup_iff (proper name member).undivided).mpr ending
  have judged := (keepIf_eq_ok_iff.mp ofPages).1 name (List.mem_filter.mpr ⟨member, isPage⟩)
  exact (judgeMarkup_returns_iff (proper name member) (ordinary name member)).mp judged ending text holds

/-- Scripts never keep a scan from returning; pages do if their text is refused. -/
theorem exists_scan (proper : ∀ name ∈ entries, IsEntryName name) (listed : fs.list dir = .ok entries)
    (ordinary : ∀ name ∈ entries, IsOrdinary fs (Path.join dir name))
    (keeps : ∀ text, KeepsParts Host.readTree text)
    (shallow : ∀ name ∈ entries, ∀ text, fs.Holds s.maxFileBytes (Path.join dir name) text →
      Host.exhaustedByScript text = false)
    (readable : ∀ name ∈ entries, HasEnding "htm" name ∨ HasEnding "html" name →
      ∀ text, fs.Holds s.maxFileBytes (Path.join dir name) text → ∃ b, isSketchMarkup s text = .ok b) :
    ∃ found, (scan fs s dir).result = .ok found := by
  obtain ⟨pages, ofPages⟩ := keepIf_returns (entries.filter (hasExtension markupExtensions))
    fun name among =>
      have member := (List.mem_filter.mp among).1
      (judgeMarkup_returns_iff (s := s) (proper name member) (ordinary name member)).mpr
        (readable name member)
  obtain ⟨scripts, ofScripts⟩ :=
    keepIf_returns (unclaimed entries (pageProjects dir entries pages)) fun name among =>
      have member := (mem_unclaimed_iff.mp among).1
      judgeScript_returns (ordinary name member) keeps (shallow name member)
  let projects := pageProjects dir entries pages ++ scriptProjects dir scripts
  exact ⟨{ projects, files := unclaimed entries projects },
    scan_eq_ok_iff.mpr ⟨entries, pages, scripts, listed, ofPages, ofScripts, rfl, rfl⟩⟩

/-- An entry that cannot be read is left over, if no page takes it for its script. -/
theorem mem_files_of_unread (proper : ∀ name ∈ entries, IsEntryName name)
    (listed : fs.list dir = .ok entries) {found : Scan}
    (returned : (scan fs s dir).result = .ok found) {name : String} (member : name ∈ entries)
    {p : ReadProblem} (unread : fs.readText (Path.join dir name) s.maxFileBytes = .error p) :
    name ∈ found.files ∨ name = companionName ∧
      ∃ project ∈ found.projects, project.markupFile.isSome ∧ project.Claims name := by
  obtain ⟨_, pages, scripts, same, ofPages, ofScripts, projects, files⟩ := scan_eq_ok_iff.mp returned
  cases listed.symm.trans same
  have isPage := mem_pages_iff proper (keepIf_eq_ok_iff.mp ofPages).2
  have pagesListed : ∀ page ∈ pages, page ∈ entries := fun page kept => ((isPage page).mp kept).1
  have isScript := mem_scripts_iff proper pagesListed (keepIf_eq_ok_iff.mp ofScripts).2
  rw [or_iff_not_imp_left, files, mem_unclaimed_iff, not_and, not_not, projects, List.flatMap_append,
    List.mem_append, files_scriptProjects fun script kept => proper script ((isScript script).mp kept).1,
    mem_files_pageProjects_iff fun page kept => proper page (pagesListed page kept)]
  intro claimed
  rcases claimed member with ⟨project, known, claims⟩ | kept
  · have inProjects := (mem_pageProjects_iff scripts).mp known
    refine ⟨?_, project, inProjects.1, inProjects.2, claims⟩
    obtain ⟨page, isKept, rfl⟩ := List.mem_map.mp known
    rcases claims with isMarkup | isCompanion
    · cases isMarkup
      obtain ⟨-, -, text, holds, -⟩ := (isPage _).mp isKept
      exact absurd holds (not_holds_of_unread unread)
    · dsimp only at isCompanion
      split at isCompanion
      · exact (Option.some.inj isCompanion).symm
      · cases isCompanion
  · obtain ⟨-, -, -, text, holds, -⟩ := (isScript name).mp kept
    exact absurd holds (not_holds_of_unread unread)

end Scanning

/-- A scan of a directory with some entries returns exactly if no page in it is refused. A page is
refused only for a marked section without a known word, or for a number with too many digits, that stands
in it. What cannot be read is left over, but for the companion of a page. -/
structure ReturnsUnlessRefused (fs : FileSystem) (s : AnalysisSettings) (dir : String)
    (entries : List String) : Prop where
  returns_iff : (∃ found, (scan fs s dir).result = .ok found) ↔
    ∀ name ∈ entries, HasEnding "htm" name ∨ HasEnding "html" name →
      ∀ text, fs.Holds s.maxFileBytes (Path.join dir name) text →
        ∃ b, isSketchMarkup s text = .ok b
  judged : ∀ text : String, (∀ p : Markup.Problem, ¬ p.OccursIn text.toList) →
    ∃ b, isSketchMarkup s text = .ok b
  leftOver : ∀ found, (scan fs s dir).result = .ok found →
    ∀ name ∈ entries, ∀ p, fs.readText (Path.join dir name) s.maxFileBytes = .error p →
      name ∈ found.files ∨ name = companionName ∧
        ∃ project ∈ found.projects, project.markupFile.isSome ∧ project.Claims name

/-- Whatever files hold, scripts and pages, it does not keep a scan from returning, with the exception of
pages that are refused. Of scripts it is only asked that they are not too deep for the stack. -/
theorem scan_returns_unless_refused {fs : FileSystem} (wellNamed : fs.WellNamed)
    {s : AnalysisSettings} {library : Regex.Pattern} (compiles : s.libraryRegex = .ok library)
    {dir : String} {entries : List String} (listed : fs.list dir = .ok entries)
    (ordinary : ∀ name ∈ entries, IsOrdinary fs (Path.join dir name))
    (keeps : ∀ text, KeepsParts Host.readTree text)
    (shallow : ∀ name ∈ entries, ∀ text, fs.Holds s.maxFileBytes (Path.join dir name) text →
      Host.exhaustedByScript text = false) :
    ReturnsUnlessRefused fs s dir entries := by
  have proper := (FileSystem.list_spec wellNamed listed).2
  refine ⟨⟨?_, exists_scan proper listed ordinary keeps shallow⟩, fun text => isSketchMarkup_returns compiles,
    fun found returned name member p => mem_files_of_unread proper listed returned member⟩
  rintro ⟨found, returned⟩ name member ending text holds
  exact isSketchMarkup_of_scan proper listed ordinary returned member ending holds

end Host

/-- A directory of one file. -/
def oneFile (name text : String) : FileSystem where
  nodes := [([name], .file (text.toList.map (·.toNat.toUInt8)))]

section OneFile

variable {name : String} (text : String)

theorem wellNamed_oneFile (isName : IsEntryName name) : (oneFile name text).WellNamed where
  nodes := by
    intro location node known part member
    cases List.mem_singleton.mp known
    cases List.mem_singleton.mp member
    exact isName
  working := nofun

theorem list_oneFile (name : String) : (oneFile name text).list "." = .ok [name] :=
  FileSystem.list_of_ordered (FileSystem.status_working _) rfl (List.pairwise_singleton _ _)

end OneFile

/-- A directory of one script. -/
def scriptDirectory : FileSystem := oneFile "two.js" "let a;\na ?? 1;"

theorem status_two : scriptDirectory.status "./two.js" =
    .ok (["two.js"], .file ("let a;\na ?? 1;".toList.map (·.toNat.toUInt8))) :=
  FileSystem.status_of_entry (.inr (by rfl)) (by decide) (by decide) (by decide) rfl nofun

/-- A host whose parser knows the tree of this script. -/
@[reducible]
def twoLinesHost : Host := { Host.bundled with readTree := fun _ => twoLinesTree }

theorem scan_returns_unless_refused_twoLines :
    scriptDirectory.WellNamed ∧
    (∃ library, @AnalysisSettings.libraryRegex twoLinesHost smallSettings = .ok library) ∧
    scriptDirectory.list "." = .ok ["two.js"] ∧
    (∀ name ∈ ["two.js"], IsOrdinary scriptDirectory (Path.join "." name)) ∧
    (∀ text, KeepsParts twoLinesHost.readTree text) ∧
    (∀ text, twoLinesHost.exhaustedByScript text = false) ∧
    @ReturnsUnlessRefused twoLinesHost scriptDirectory smallSettings "." ["two.js"] := by
  obtain ⟨library, compiles, -⟩ := @libraryRegex_smallSettings twoLinesHost
  have wellNamed : scriptDirectory.WellNamed := wellNamed_oneFile _ (by decide)
  have listed : scriptDirectory.list "." = .ok ["two.js"] := list_oneFile _ _
  have ordinary : ∀ name ∈ ["two.js"], IsOrdinary scriptDirectory (Path.join "." name) := by
    intro name member
    cases List.mem_singleton.mp member
    exact .file status_two
  have has : twoLinesTree.Everywhere Script.Node.HasParts := .of_forall_mem (by decide)
  have keeps : ∀ text, KeepsParts twoLinesHost.readTree text := fun _ _ => has
  exact ⟨wellNamed, ⟨library, compiles⟩, listed, ordinary, keeps, fun _ => rfl,
    @scan_returns_unless_refused twoLinesHost _ wellNamed _ _ compiles _ _ listed ordinary keeps
      fun _ _ _ _ => rfl⟩

/-- A page with a marked section that starts with a word of its own. -/
def oddDirectory : FileSystem := oneFile "p.html" "<![foo[x]]>"

theorem status_oddPage : oddDirectory.status "./p.html" =
    .ok (["p.html"], .file ("<![foo[x]]>".toList.map (·.toNat.toUInt8))) :=
  FileSystem.status_of_entry (.inr (by rfl)) (by decide) (by decide) (by decide) rfl nofun

/-- A scan of a directory of one readable page can fail. -/
theorem scan_oddDirectory :
    oddDirectory.WellNamed ∧
    (∃ library, @AnalysisSettings.libraryRegex .bundled smallSettings = .ok library) ∧
    oddDirectory.list "." = .ok ["p.html"] ∧
    (∀ name ∈ ["p.html"], IsOrdinary oddDirectory (Path.join "." name)) ∧
    oddDirectory.Holds smallSettings.maxFileBytes "./p.html" "<![foo[x]]>" ∧
    @isSketchMarkup .bundled smallSettings "<![foo[x]]>" = .error (.page (.unknownSection "foo")) ∧
    ∀ found, (@scan .bundled oddDirectory smallSettings ".").result ≠ .ok found := by
  have wellNamed : oddDirectory.WellNamed := wellNamed_oneFile _ (by decide)
  have listed : oddDirectory.list "." = .ok ["p.html"] := list_oneFile _ _
  have ordinary : ∀ name ∈ ["p.html"], IsOrdinary oddDirectory (Path.join "." name) := by
    intro name member
    cases List.mem_singleton.mp member
    exact .file status_oddPage
  have holds : oddDirectory.Holds smallSettings.maxFileBytes "./p.html" "<![foo[x]]>" :=
    ⟨_, _, status_oddPage, nofun, by decide +kernel⟩
  have refused : @isSketchMarkup .bundled smallSettings "<![foo[x]]>" =
      .error (.page (.unknownSection "foo")) := by rfl
  refine ⟨wellNamed, ⟨_, rfl⟩, listed, ordinary, holds, refused, ?_⟩
  intro found returned
  have isPage : HasEnding "html" "p.html" :=
    ⟨['p'], "html".toList, by decide, ⟨'p', .head _, by decide⟩, by decide⟩
  have proper := (FileSystem.list_spec wellNamed listed).2
  obtain ⟨b, answer⟩ := @isSketchMarkup_of_scan .bundled _ _ _ _ proper listed ordinary _ returned _ (.head _)
    (.inr isPage) _ holds
  rw [refused] at answer
  cases answer

end SketchSurvey.Sketch
