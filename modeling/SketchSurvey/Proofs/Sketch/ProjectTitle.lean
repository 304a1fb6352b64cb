import SketchSurvey.Proofs.Sketch.PageTitle
import SketchSurvey.Proofs.Sketch.Projects

/-! The title that a project is shown under: its own, else that of its page, else the name of its root file.
There are two exceptions: a page whose title element is empty, if another title ends on it, and a root file
with a line feed after its ending. The projects that a scan has found always have a title. -/

set_option autoImplicit false

namespace SketchSurvey.Sketch

open SketchSurvey.Files SketchSurvey.Log SketchSurvey.Settings

/-- A name without its ending, if that is one of a root file. -/
inductive IsBare : List Char → List Char → Prop where
  | cut {bare ending : List Char} : ending ∈ rootExtensions → IsBare (bare ++ ending) bare
  | whole {name : List Char} : (∀ ending ∈ rootExtensions, ¬ ending <:+ name) → IsBare name name

theorem isBare_dropRootExtension (name : List Char) : IsBare name (dropRootExtension name) := by
  unfold dropRootExtension
  split
  · next ending found =>
      have fits := List.find?_some found
      obtain ⟨bare, rfl⟩ := List.isSuffixOf_iff_suffix.mp fits
      rw [List.length_append, Nat.add_sub_cancel, List.take_left]
      exact .cut (List.mem_of_find?_eq_some found)
  · next unfound =>
      refine .whole fun ending known fits => ?_
      exact List.find?_eq_none.mp unfound ending known (List.isSuffixOf_iff_suffix.mpr fits)

/-- No ending of a root file ends in another one, so a name is cut in one way only. -/
theorem IsBare.unique {name bare bare' : List Char} (cut : IsBare name bare) (cut' : IsBare name bare') :
    bare = bare' := by
  have apart : ∀ e ∈ rootExtensions, ∀ e' ∈ rootExtensions, e <:+ e' → e = e' := by decide
  cases cut with
  | whole none =>
      cases cut' with
      | whole => rfl
      | cut known' => exact absurd (List.suffix_append _ _) (none _ known')
  | @cut _ ending known =>
      generalize same : bare ++ ending = name at cut'
      cases cut' with
      | whole none => exact absurd ⟨bare, same⟩ (none _ known)
      | @cut _ ending' known' =>
          have equal : ending = ending' := by
            rcases List.suffix_or_suffix_of_suffix ⟨bare, same⟩ (List.suffix_append bare' ending') with s | s
            · exact apart _ known _ known' s
            · exact (apart _ known' _ known s).symm
          subst equal
          exact List.append_cancel_right same

theorem isBare_iff {name bare : List Char} : IsBare name bare ↔ bare = dropRootExtension name := by
  constructor
  · exact fun cut => cut.unique (isBare_dropRootExtension name)
  · rintro rfl
    exact isBare_dropRootExtension name

/-- A name ends in the ending of a root file and a line feed after it. -/
def EndsInLine (name bare : List Char) : Prop :=
  ∃ ending ∈ rootExtensions, name = bare ++ ending ++ ['\n']

/-- The ending before a last line feed is cut as well. -/
theorem bareName_of_endsInLine {name : String} {bare : List Char} (ended : EndsInLine name.toList bare) :
    bareName name = String.ofList (bare ++ ['\n']) := by
  obtain ⟨ending, known, same⟩ := ended
  rw [bareName, same, List.reverse_append]
  simp only [List.reverse_cons, List.reverse_nil, List.nil_append, List.cons_append, List.reverse_reverse]
  rw [← isBare_iff.mp (.cut known)]

example : bareName "sketch.js\n" = "sketch\n" := by decide

theorem isBare_bareName {name : String} (plain : ∀ bare, ¬ EndsInLine name.toList bare) :
    IsBare name.toList (bareName name).toList := by
  unfold bareName
  split
  · next line ended =>
      rw [List.reverse_eq_cons_iff] at ended
      rw [String.toList_ofList, ended]
      have unfit : ∀ ending ∈ rootExtensions, ¬ ending <:+ line.reverse := by
        rintro ending known ⟨bare, same⟩
        exact plain bare ⟨ending, known, by rw [ended, same]⟩
      rw [← isBare_iff.mp (.whole unfit)]
      refine .whole fun ending known fits => ?_
      have noLine : ∀ e ∈ rootExtensions, e ≠ [] ∧ e.getLast? ≠ some '\n' := by decide
      obtain ⟨front, same⟩ := fits
      have last := congrArg List.getLast? same
      rw [List.getLast?_append_of_ne_nil _ (noLine ending known).1, List.getLast?_concat] at last
      exact (noLine ending known).2 last
  · rw [String.toList_ofList]
    exact isBare_dropRootExtension _

/-- Something other than dots stands before the ending of a root file, so it is no part of it. -/
theorem IsBare.ne_nil {name bare stem after : List Char} (cut : IsBare name bare)
    (divided : name = stem ++ '.' :: after) (other : ∃ c ∈ stem, c ≠ '.') : bare ≠ [] := by
  rintro rfl
  obtain ⟨c, among, noDot⟩ := other
  cases stem with
  | nil => cases among
  | cons first more =>
      cases cut with
      | whole => cases divided
      | cut known =>
          have oneDot : ∀ e ∈ rootExtensions, '.' ∉ e.tail := by decide
          rw [List.nil_append] at divided
          subst divided
          exact oneDot _ known (List.mem_append_right _ (.head _))

theorem bareName_ne_empty {letters name : String} (ended : HasEnding letters name) : bareName name ≠ "" := by
  by_cases inLine : ∃ bare, EndsInLine name.toList bare
  · obtain ⟨bare, inLine⟩ := inLine
    rw [bareName_of_endsInLine inLine]
    exact fun none => List.append_ne_nil_of_right_ne_nil bare (List.cons_ne_nil _ _) (String.ofList_inj.mp none)
  · obtain ⟨stem, after, divided, other, -⟩ := ended
    intro none
    exact (isBare_bareName (not_exists.mp inLine)).ne_nil divided other (by rw [none]; rfl)

section Page

variable {fs : FileSystem} {p : Project}

/-- The page of a project has some text. -/
def PageHolds (fs : FileSystem) (p : Project) (text : String) : Prop :=
  ∃ page, named p.markupFile = some page ∧ fs.Holds 0 (Path.join p.dirPath page) text

/-- The page of a project is missing or can be read. -/
def PageReadable (fs : FileSystem) (p : Project) : Prop :=
  ∀ page, named p.markupFile = some page →
    (∃ text, fs.Holds 0 (Path.join p.dirPath page) text) ∨
      ∃ path, fs.status (Path.join p.dirPath page) = .error (.failed .notFound path)

theorem PageHolds.unique {text text' : String} (holds : PageHolds fs p text) (holds' : PageHolds fs p text') :
    text = text' := by
  obtain ⟨page, isPage, holds⟩ := holds
  obtain ⟨page', isPage', holds'⟩ := holds'
  obtain rfl := Option.some.inj (isPage.symm.trans isPage')
  rw [← FileSystem.readText_eq_ok_iff] at holds holds'
  exact Except.ok.inj (holds.symm.trans holds')

theorem PageHolds.readable {text : String} (holds : PageHolds fs p text) :
    PageReadable fs p := by
  obtain ⟨page, isPage, holds⟩ := holds
  intro page' isPage'
  obtain rfl := Option.some.inj (isPage.symm.trans isPage')
  exact .inl ⟨text, holds⟩

/-- Where the title of a project is taken from. -/
inductive TakenFrom (fs : FileSystem) (p : Project) : String → Prop where
  | own {t : String} : named p.title = some t → TakenFrom fs p t
  | page {text t : String} : named p.title = none → PageHolds fs p text → pageTitle? text = some t →
      TakenFrom fs p t
  | rootFile : named p.title = none → (∀ text, PageHolds fs p text → pageTitle? text = none) →
      TakenFrom fs p (bareName p.rootFile)

theorem title_spec (readable : PageReadable fs p) :
    ∃ t, (title fs p).result = .ok t ∧ TakenFrom fs p t := by
  unfold title
  split
  · next own isOwn => exact ⟨own, rfl, .own isOwn⟩
  · next page notOwn isPage =>
      have bound {found : Option String}
          (read : (readTitle fs (Path.join p.dirPath page)).result = .ok found) :
          (readTitle fs (Path.join p.dirPath page) >>= fun found =>
            pure (found.getD (bareName p.rootFile))).result = .ok (found.getD (bareName p.rootFile)) :=
        Logged.result_bind_eq_ok_iff.mpr ⟨found, read, rfl⟩
      rcases readable page isPage with ⟨text, holds⟩ | ⟨path, missing⟩
      · have ofPage : PageHolds fs p text := ⟨page, isPage, holds⟩
        have read : (readTitle fs (Path.join p.dirPath page)).result = .ok (pageTitle? text) := by
          rw [readTitle, FileSystem.readText_eq_ok_iff.mpr holds]
          rfl
        refine ⟨_, bound read, ?_⟩
        cases shown : pageTitle? text with
        | some t => exact .page notOwn ofPage shown
        | none =>
            refine .rootFile notOwn fun text' holds' => ?_
            rw [← ofPage.unique holds', shown]
      · have read : (readTitle fs (Path.join p.dirPath page)).result = .ok none := by
          rw [readTitle, FileSystem.readText_of_missing missing]
          rfl
        refine ⟨_, bound read, .rootFile notOwn ?_⟩
        rintro text ⟨page', isPage', location, bytes, status, -⟩
        obtain rfl := Option.some.inj (isPage.symm.trans isPage')
        rw [missing] at status
        cases status
  · next notOwn noPage =>
      refine ⟨_, rfl, .rootFile notOwn ?_⟩
      rintro text ⟨page, isPage, -⟩
      rw [noPage] at isPage
      cases isPage

/-- The page of a project has a title. -/
def PageTitled (fs : FileSystem) (p : Project) (inner : List Char) : Prop :=
  ∃ text, PageHolds fs p text ∧ HasTitle text.toList inner

/-- The page of a project, which has no title of its own, has an empty title element, and another title ends
after it. -/
def PageRunsOn (fs : FileSystem) (p : Project) (more : List Char) : Prop :=
  named p.title = none ∧ ∃ text, PageHolds fs p text ∧ RunsOn text.toList more

/-- The title that a project is meant to have. -/
inductive Entitled (fs : FileSystem) (p : Project) : String → Prop where
  | own {t : String} : named p.title = some t → Entitled fs p t
  | page {inner : List Char} : named p.title = none → PageTitled fs p inner → Text.trimList inner ≠ [] →
      Entitled fs p (String.ofList (Text.trimList inner))
  | rootFile {bare : List Char} : named p.title = none →
      (∀ inner, PageTitled fs p inner → Text.trimList inner = []) → IsBare p.rootFile.toList bare →
      Entitled fs p (String.ofList bare)

/-- A project that is shown under the name of its root file, which ends in a line feed after its ending. -/
structure NameEndsInLine (fs : FileSystem) (p : Project) (bare : List Char) : Prop where
  notOwn : named p.title = none
  blank : ∀ inner, PageTitled fs p inner → Text.trimList inner = []
  stays : ∀ more, ¬ PageRunsOn fs p more
  rootFile : EndsInLine p.rootFile.toList bare

/-- The title that is taken is the one the project is meant to have where neither exception applies. -/
theorem TakenFrom.entitled {t : String} (taken : TakenFrom fs p t) (stays : ∀ more, ¬ PageRunsOn fs p more)
    (plain : ∀ bare, ¬ NameEndsInLine fs p bare) : Entitled fs p t := by
  cases taken with
  | own isOwn => exact .own isOwn
  | @page text _ notOwn holds shown =>
      obtain ⟨nonempty, inner, rfl, titled | ⟨more, runsOn, -⟩⟩ := pageTitle?_eq_some_iff.mp shown
      · exact .page notOwn ⟨text, holds, titled⟩ fun blank => nonempty (by rw [blank])
      · exact absurd ⟨notOwn, text, holds, runsOn⟩ (stays more)
  | rootFile notOwn untitled =>
      have blank : ∀ inner, PageTitled fs p inner → Text.trimList inner = [] := by
        rintro inner ⟨text, holds, titled⟩
        exact (pageTitle?_eq_none_iff.mp (untitled text holds)).1 inner titled
      have cut := isBare_bareName fun bare inLine => plain bare ⟨notOwn, blank, stays, inLine⟩
      rw [← String.ofList_toList (s := bareName p.rootFile)]
      exact .rootFile notOwn blank cut

theorem TakenFrom.eq_of_pageRunsOn {t : String} {more : List Char} (taken : TakenFrom fs p t)
    (pageRunsOn : PageRunsOn fs p more) : t = String.ofList (Text.trimList (titleEnd ++ more)) := by
  obtain ⟨notOwn, text, holds, runsOn⟩ := pageRunsOn
  have shown := pageTitle?_eq_some_of_runsOn runsOn
  cases taken with
  | own isOwn =>
      rw [notOwn] at isOwn
      cases isOwn
  | page _ holds' shown' =>
      obtain rfl := holds.unique holds'
      exact Option.some.inj (shown'.symm.trans shown)
  | rootFile _ untitled =>
      rw [untitled text holds] at shown
      cases shown

theorem TakenFrom.eq_of_nameEndsInLine {t : String} {bare : List Char} (taken : TakenFrom fs p t)
    (inLine : NameEndsInLine fs p bare) : t = String.ofList (bare ++ ['\n']) := by
  cases taken with
  | own isOwn =>
      rw [inLine.notOwn] at isOwn
      cases isOwn
  | @page text _ notOwn holds shown =>
      have untitled : pageTitle? text = none :=
        pageTitle?_eq_none_iff.mpr ⟨fun inner titled => inLine.blank inner ⟨text, holds, titled⟩,
          fun more runsOn => inLine.stays more ⟨notOwn, text, holds, runsOn⟩⟩
      rw [untitled] at shown
      cases shown
  | rootFile => exact bareName_of_endsInLine inLine.rootFile

/-- A project whose page is missing or can be read has the title it is meant to have, with two exceptions. If
its page runs on, it shows what is left of the page's title element, from its end tag on to the next. And a
line feed at the end of the name of its root file stays, while the ending before it is cut. -/
theorem title_entitled (readable : PageReadable fs p) :
    ∃ t, (title fs p).result = .ok t ∧
      ((∀ more, ¬ PageRunsOn fs p more) → (∀ bare, ¬ NameEndsInLine fs p bare) → Entitled fs p t) ∧
      (∀ more, PageRunsOn fs p more → t = String.ofList (Text.trimList (titleEnd ++ more))) ∧
      (∀ bare, NameEndsInLine fs p bare → t = String.ofList (bare ++ ['\n'])) ∧
      (∀ inner, PageTitled fs p inner → ¬ titleEnd <:+: Text.trimList inner) := by
  obtain ⟨t, result, taken⟩ := title_spec readable
  refine ⟨t, result, taken.entitled, ?_, ?_, ?_⟩
  · exact fun more runsOn => taken.eq_of_pageRunsOn runsOn
  · exact fun bare inLine => taken.eq_of_nameEndsInLine inLine
  · rintro inner ⟨text, -, titled⟩
    exact titled.titleEnd_absent

end Page

/-- A directory of one page. -/
def onePage (text : String) : FileSystem where
  nodes := [(["p.html"], .file (text.toList.map (·.toNat.toUInt8)))]

/-- A project that is this page alone. -/
def pageProject : Project := { dirPath := ".", markupFile := "p.html" }

theorem holds_onePage (text : String) (spelled : textOf (text.toList.map (·.toNat.toUInt8)) = text) :
    PageHolds (onePage text) pageProject text := by
  have status : (onePage text).status "./p.html" =
      .ok (["p.html"], .file (text.toList.map (·.toNat.toUInt8))) :=
    FileSystem.status_of_entry (.inr (by rfl)) (by decide) (by decide) (by decide) rfl nofun
  have unlimited : ¬ (0 : Int) < 0 := by decide
  exact ⟨"p.html", rfl, _, _, status, fun limited => absurd limited unlimited, spelled⟩

/-- A page with white space around its title, and an end tag too many. -/
def paddedPage : String := "<title> A\n</title>B</title>"

theorem title_entitled_paddedPage :
    PageReadable (onePage paddedPage) pageProject ∧
    (∀ more, ¬ PageRunsOn (onePage paddedPage) pageProject more) ∧
    (∀ bare, ¬ NameEndsInLine (onePage paddedPage) pageProject bare) ∧
    ∃ t, (title (onePage paddedPage) pageProject).result = .ok t ∧
      Entitled (onePage paddedPage) pageProject t := by
  have holds := holds_onePage paddedPage (by decide +kernel)
  have titled : HasTitle paddedPage.toList " A\n".toList :=
    ⟨[], _, _, splitAtMark?_eq_some_iff.mp (by rfl), splitAtMark?_eq_some_iff.mp (by rfl)⟩
  have stays : ∀ more, ¬ PageRunsOn (onePage paddedPage) pageProject more := by
    rintro more ⟨-, text, holds', runsOn⟩
    obtain rfl := holds.unique holds'
    cases titled.unique runsOn.hasTitle_nil
  have plain : ∀ bare, ¬ NameEndsInLine (onePage paddedPage) pageProject bare := by
    intro bare inLine
    obtain ⟨ending, -, same⟩ := inLine.rootFile
    have last := congrArg List.getLast? same
    rw [List.getLast?_concat] at last
    cases last
  obtain ⟨t, result, entitled, -⟩ := title_entitled holds.readable
  exact ⟨holds.readable, stays, plain, t, result, entitled stays plain⟩

/-- An empty title element makes a title of what stands outside it. -/
theorem title_not_entitled :
    PageReadable (onePage "<title></title>x</title>") pageProject ∧
    (title (onePage "<title></title>x</title>") pageProject).result = .ok "</title>x" ∧
    ¬ Entitled (onePage "<title></title>x</title>") pageProject "</title>x" := by
  have holds := holds_onePage "<title></title>x</title>" (by decide +kernel)
  refine ⟨holds.readable, ?_, ?_⟩
  · have runsOn : pageTitle? "<title></title>x</title>" = some "</title>x" := by decide +kernel
    obtain ⟨t, result, taken⟩ := title_spec holds.readable
    cases taken with
    | own isOwn => cases isOwn
    | page _ holds' shown =>
        obtain rfl := holds.unique holds'
        rw [result, Option.some.inj (shown.symm.trans runsOn)]
    | rootFile _ untitled => cases untitled _ holds
  · generalize same : "</title>x" = t
    intro entitled
    cases entitled with
    | own isOwn => cases isOwn
    | page _ ofPage kept =>
        obtain ⟨text, holds', titled⟩ := ofPage
        obtain rfl := holds.unique holds'
        have empty : HasTitle "<title></title>x</title>".toList [] :=
          ⟨[], _, _, splitAtMark?_eq_some_iff.mp (by rfl), splitAtMark?_eq_some_iff.mp (by rfl)⟩
        obtain rfl := titled.unique empty
        exact kept rfl
    | rootFile _ _ cut =>
        rw [isBare_iff.mp cut] at same
        revert same
        decide

section Scanned

variable {fs : FileSystem} {s : AnalysisSettings} {dir : String} {found : Scan} {p : Project}

theorem named_eq_some_of_hasEnding {letters name : String} (ended : HasEnding letters name) :
    named (some name) = some name := by
  obtain ⟨stem, after, divided, -, -⟩ := ended
  refine Option.filter_eq_some_iff.mpr ⟨rfl, ?_⟩
  rw [Bool.not_eq_true', String.isEmpty_eq_false_iff]
  rintro rfl
  exact List.append_ne_nil_of_right_ne_nil _ (List.cons_ne_nil _ _) divided.symm

/-- A page that a scan has kept can be read. -/
theorem pageReadable_of_scan [Host] (scanned : (scan fs s dir).result = .ok found) (known : p ∈ found.projects) :
    PageReadable fs p := by
  obtain ⟨entries, pages, scripts, -, ofPages, -, projects, -⟩ := scan_eq_ok_iff.mp scanned
  rw [projects] at known
  intro page isPage
  have isPage := (Option.filter_eq_some_iff.mp isPage).1
  rcases List.mem_append.mp known with ofPage | ofScript
  · obtain ⟨name, member, rfl⟩ := List.mem_map.mp ofPage
    obtain rfl := Option.some.inj isPage
    rw [(keepIf_eq_ok_iff.mp ofPages).2, List.mem_filter, saysYes_iff, skipUnreadable_eq_true_iff,
      judgeMarkup_result, judgeBy_eq_true_iff] at member
    obtain ⟨-, -, text, holds, -⟩ := member
    exact .inl ⟨text, holds.unlimited⟩
  · obtain ⟨name, -, rfl⟩ := List.mem_map.mp ofScript
    cases isPage

/-- The root file of a project that a scan has found is a page or a script. -/
theorem rootFile_of_scan [Host] (wellNamed : fs.WellNamed) (scanned : (scan fs s dir).result = .ok found)
    (known : p ∈ found.projects) : p.title = none ∧ ∃ letters, HasEnding letters p.rootFile := by
  obtain ⟨entries, pages, scripts, listed, ofPages, ofScripts, projects, -⟩ := scan_eq_ok_iff.mp scanned
  obtain ⟨-, proper⟩ := FileSystem.list_spec wellNamed listed
  have isPage := mem_pages_iff proper (keepIf_eq_ok_iff.mp ofPages).2
  have isScript := mem_scripts_iff proper (fun page member => ((isPage page).mp member).1)
    (keepIf_eq_ok_iff.mp ofScripts).2
  rw [projects] at known
  rcases List.mem_append.mp known with ofPage | ofScript
  · obtain ⟨name, member, rfl⟩ := List.mem_map.mp ofPage
    obtain ⟨letters, ended⟩ : ∃ letters, HasEnding letters name :=
      ((isPage name).mp member).2.1.elim (⟨_, ·⟩) (⟨_, ·⟩)
    refine ⟨rfl, letters, ?_⟩
    rwa [Project.rootFile, named_eq_some_of_hasEnding ended]
  · obtain ⟨name, member, rfl⟩ := List.mem_map.mp ofScript
    have ended := ((isScript name).mp member).2.2.1
    refine ⟨rfl, "js", ?_⟩
    rwa [Project.rootFile, named_eq_some_of_hasEnding ended]

/-- Every project that a scan has found has a title that is not empty. Where the page has it, no white space
stands around it. -/
theorem scan_titles_projects [Host] (wellNamed : fs.WellNamed) (scanned : (scan fs s dir).result = .ok found) :
    ∀ p ∈ found.projects, ∃ t, (title fs p).result = .ok t ∧ t ≠ "" ∧
      ((∃ text, PageHolds fs p text ∧ pageTitle? text = some t) ∧ Text.IsTrimmed t ∨
        (∀ text, PageHolds fs p text → pageTitle? text = none) ∧ t = bareName p.rootFile) := by
  intro p known
  obtain ⟨untitled, letters, ended⟩ := rootFile_of_scan wellNamed scanned known
  obtain ⟨t, result, taken⟩ := title_spec (pageReadable_of_scan scanned known)
  refine ⟨t, result, ?_⟩
  cases taken with
  | own isOwn =>
      rw [untitled] at isOwn
      cases isOwn
  | @page text _ _ holds shown =>
      obtain ⟨nonempty, title, rfl, -⟩ := pageTitle?_eq_some_iff.mp shown
      have trimmed := Text.isTrimmed_trim (String.ofList title)
      rw [Text.trim, String.toList_ofList] at trimmed
      exact ⟨nonempty, .inl ⟨⟨text, holds, shown⟩, trimmed⟩⟩
  | rootFile _ blank => exact ⟨bareName_ne_empty ended, .inr ⟨blank, rfl⟩⟩

theorem scan_titles_projects_smallDirectory :
    smallDirectory.WellNamed ∧
    ∃ found, (@scan .bundled smallDirectory smallSettings "/").result = .ok found ∧
      ∀ p ∈ found.projects, ∃ t, (title smallDirectory p).result = .ok t ∧ t ≠ "" ∧
        ((∃ text, PageHolds smallDirectory p text ∧ pageTitle? text = some t) ∧ Text.IsTrimmed t ∨
          (∀ text, PageHolds smallDirectory p text → pageTitle? text = none) ∧ t = bareName p.rootFile) :=
  ⟨wellNamed_smallDirectory, _, @scan_smallDirectory .bundled,
    @scan_titles_projects _ _ _ _ .bundled wellNamed_smallDirectory (@scan_smallDirectory .bundled)⟩

end Scanned

end SketchSurvey.Sketch
