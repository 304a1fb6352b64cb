import SketchSurvey.Proofs.Analysis.Distinct
import SketchSurvey.Proofs.CommandLine.Dump
import SketchSurvey.Proofs.Json.RoundTrip
import SketchSurvey.Proofs.Text.Sorted

/-! What the commands print for programs: one value, written over several lines, from which everything that a
command has found can be read again. -/

set_option autoImplicit false

namespace SketchSurvey.Json.Value

/-- The values of an object that has certain keys in this order, and no others. -/
def members? (keys : List String) : Value → Option (List Value)
  | .object members => if members.map (·.1) = keys then some (members.map (·.2)) else none
  | _ => none

def text? : Value → Option String
  | .string s => some s
  | _ => none

def textOrNull? : Value → Option (Option String)
  | .string s => some (some s)
  | .null => some none
  | _ => none

def flag? : Value → Option Bool
  | .bool b => some b
  | _ => none

/-- The items of an array, each of which is read in one way. -/
def list? {α : Type} (read : Value → Option α) : Value → Option (List α)
  | .array items => items.mapM read
  | _ => none

section Reading

variable {α β : Type}

theorem list?_map {read : Value → Option α} {f : β → Value} {g : β → α} (reads : ∀ b, read (f b) = some (g b))
    (l : List β) : (Value.array (l.map f)).list? read = some (l.map g) := by
  rw [list?]
  induction l with
  | nil => rfl
  | cons b rest ih =>
      rw [List.map_cons, List.map_cons, List.mapM_cons, reads, ih]
      rfl

theorem list?_ofStrings (l : List String) : (ofStrings l).list? text? = some l := by
  have each := @list?_map String String text? string id (fun _ => rfl) l
  rwa [List.map_id] at each

theorem textOrNull?_ofOption (o : Option String) : (ofOption o).textOrNull? = some o := by
  cases o <;> rfl

theorem IsReadable.ofOption (o : Option String) : (ofOption o).IsReadable := by
  cases o with
  | none => exact .null
  | some s => exact .string s

theorem IsReadable.map {f : β → Value} (readable : ∀ b, (f b).IsReadable) (l : List β) :
    (Value.array (l.map f)).IsReadable := by
  refine .array fun v member => ?_
  obtain ⟨b, -, rfl⟩ := List.mem_map.mp member
  exact readable b

end Reading

end SketchSurvey.Json.Value

namespace SketchSurvey.CommandLine

open SketchSurvey.Files SketchSurvey.Json SketchSurvey.Log SketchSurvey.Settings SketchSurvey.Sketch

/-- What is shown of a project. -/
structure Entry where
  title : String
  dirPath : String
  markupFile : Option String
  scriptFile : Option String
  files : List String

/-- What a command finds out. -/
inductive Finding where
  | scan (projects : List Entry) (files : List String)
  | verdicts (rows : List Verdict)
  | names (names : List String)
  | check (path : String) (sound : Bool) (report : Option String)
  | listing (title : String) (projects : List Entry) (directories files : List String)
      (readme : Option String)

/-- What is found in a script are names in strictly increasing order. -/
def Finding.Increases : Finding → Prop
  | .names found => found.Pairwise (· < ·)
  | _ => True

section Decoding

def Entry.ofValue? (v : Value) : Option Entry := do
  let [title, dirPath, markupFile, scriptFile, files] ←
    v.members? ["title", "dir_path", "markup_file", "script_file", "files"] | none
  return {
    title := ← title.text?
    dirPath := ← dirPath.text?
    markupFile := ← markupFile.textOrNull?
    scriptFile := ← scriptFile.textOrNull?
    files := ← files.list? Value.text? }

def Verdict.ofValue? (v : Value) : Option Verdict := do
  let [path, script, markup] ← v.members? ["path", "sketch_script", "sketch_markup"] | none
  return { path := ← path.text?, script := ← script.flag?, markup := ← markup.flag? }

/-- What a value says that a command has found. -/
def Finding.ofValue? (v : Value) : Command → Option Finding
  | .scan _ => do
    let [projects, files] ← v.members? ["projects", "files"] | none
    return .scan (← projects.list? Entry.ofValue?) (← files.list? Value.text?)
  | .classify _ => (v.list? Verdict.ofValue?).map .verdicts
  | .freeVars .. | .members .. => (v.list? Value.text?).map .names
  | .check _ => do
    let [path, sound, report] ← v.members? ["path", "ok", "report"] | none
    return .check (← path.text?) (← sound.flag?) (← report.textOrNull?)
  | .listing _ => do
    let [title, projects, directories, files, readme] ←
      v.members? ["title", "projects", "directories", "files", "readme"] | none
    return .listing (← title.text?) (← projects.list? Entry.ofValue?) (← directories.list? Value.text?)
      (← files.list? Value.text?) (← readme.textOrNull?)

end Decoding

/-- A project is shown with the title that is resolved for it. -/
inductive IsTitled (fs : FileSystem) (p : Project) : Entry → Prop where
  | intro {title : String} : (Sketch.title fs p).result = .ok title → IsTitled fs p {
      title
      dirPath := p.dirPath
      markupFile := p.markupFile
      scriptFile := p.scriptFile
      files := p.files }

section Host

variable [Host]

/-- A path is shown with the two judgements about it. -/
inductive IsJudged (fs : FileSystem) (s : AnalysisSettings) (path : String) : Verdict → Prop where
  | intro {script markup : Bool} : (judgeScript fs s path).result = .ok script →
      (judgeMarkup fs s path).result = .ok markup → IsJudged fs s path { path, script, markup }

/-- What a command finds in some files. -/
inductive Finds (fs : FileSystem) (s : AnalysisSettings) : Command → Finding → Prop where
  | scan {path : String} {found : Scan} {entries : List Entry} : (Sketch.scan fs s path).result = .ok found →
      List.Forall₂ (IsTitled fs) found.projects entries → Finds fs s (.scan path) (.scan entries found.files)
  | classify {paths : List String} {rows : List Verdict} : List.Forall₂ (IsJudged fs s) paths rows →
      Finds fs s (.classify paths) (.verdicts rows)
  | freeVars {path : String} {excludeGlobals : Bool} {program : Script.Program} {names : List String} :
      (readScript fs path s.maxFileBytes).result = .ok program →
      (∀ name, name ∈ names ↔ name ∈ (Analysis.freeVariables program).names ∧
        (excludeGlobals = true → name ∉ program.globalNames)) →
      Finds fs s (.freeVars path excludeGlobals) (.names names)
  | members {path : String} {namespaceName : Given String} {program : Script.Program} {names : List String} :
      (readScript fs path s.maxFileBytes).result = .ok program →
      (∀ name, name ∈ names ↔ name ∈ (Analysis.memberReferences s.namespaceName program).names) →
      Finds fs s (.members path namespaceName) (.names names)
  | check {path : String} {report : Option String} :
      (checkScript fs path s.maxFileBytes).result = .ok report →
      Finds fs s (.check path) (.check path report.isNone report)
  | listing {path : String} {l : Listing} {entries : List Entry} : (Sketch.listing fs s path).result = .ok l →
      List.Forall₂ (IsTitled fs) l.projects entries →
      Finds fs s (.listing path) (.listing l.title entries l.directories l.files l.readme)

/-- A value says what a command finds. -/
structure Describes (fs : FileSystem) (s : AnalysisSettings) (c : Command) (v : Value) (finding : Finding) :
    Prop where
  decodes : Finding.ofValue? v c = some finding
  finds : Finds fs s c finding
  increases : finding.Increases

/-- What says what a command finds cannot be printed. -/
def CannotPrint (fs : FileSystem) (s : AnalysisSettings) (c : Command) : Prop :=
  ∃ v finding reason, Describes fs s c v finding ∧ Host.unprintable? (printValue v) = some reason

/-- Either one value is printed, which says what a command finds; or nothing is, and nothing is found or it
cannot be printed. -/
inductive Tells (fs : FileSystem) (s : AnalysisSettings) (c : Command) (output : String) : Prop where
  | value {v : Value} {finding : Finding} : output = printValue v → v.IsReadable → Describes fs s c v finding →
      Tells fs s c output
  | unprintable : output = "" → CannotPrint fs s c → Tells fs s c output
  | nothing : output = "" → (∀ finding, ¬ Finds fs s c finding) → Tells fs s c output

end Host

section Written

def Titled.entry (t : Titled) : Entry where
  title := t.title
  dirPath := t.project.dirPath
  markupFile := t.project.markupFile
  scriptFile := t.project.scriptFile
  files := t.project.files

theorem Entry.ofValue?_toValue (t : Titled) : Entry.ofValue? t.toValue = some t.entry := by
  simp only [Titled.toValue, Entry.ofValue?, Value.members?, List.map_cons, List.map_nil, ↓reduceIte,
    Option.bind_eq_bind, Option.bind_some, Value.text?, Value.textOrNull?_ofOption, Value.list?_ofStrings]
  rfl

theorem Verdict.ofValue?_toValue (v : Verdict) : Verdict.ofValue? v.toValue = some v := by
  rfl

theorem isReadable_titled (t : Titled) : t.toValue.IsReadable := by
  refine .object (show ["title", "dir_path", "markup_file", "script_file", "files"].Nodup by decide) ?_
  simp only [List.forall_mem_cons]
  exact ⟨.string _, .string _, .ofOption _, .ofOption _, .ofStrings _, List.forall_mem_nil _⟩

theorem isReadable_verdict (v : Verdict) : v.toValue.IsReadable := by
  refine .object (show ["path", "sketch_script", "sketch_markup"].Nodup by decide) ?_
  simp only [List.forall_mem_cons]
  exact ⟨.string _, .bool _, .bool _, List.forall_mem_nil _⟩

theorem isReadable_scanValue (titled : List Titled) (files : List String) :
    (scanValue titled files).IsReadable := by
  refine .object (show ["projects", "files"].Nodup by decide) ?_
  simp only [List.forall_mem_cons]
  exact ⟨.map isReadable_titled titled, .ofStrings _, List.forall_mem_nil _⟩

theorem isReadable_checkValue (path : String) (report : Option String) : (checkValue path report).IsReadable := by
  refine .object (show ["path", "ok", "report"].Nodup by decide) ?_
  simp only [List.forall_mem_cons]
  exact ⟨.string _, .bool _, .ofOption _, List.forall_mem_nil _⟩

theorem isReadable_listingValue (titled : List Titled) (l : Listing) : (listingValue titled l).IsReadable := by
  refine .object (show ["title", "projects", "directories", "files", "readme"].Nodup by decide) ?_
  simp only [List.forall_mem_cons]
  exact ⟨.string _, .map isReadable_titled titled, .ofStrings _, .ofStrings _, .ofOption _,
    List.forall_mem_nil _⟩

namespace Finding

theorem ofValue?_scanValue (path : String) (titled : List Titled) (files : List String) :
    ofValue? (scanValue titled files) (.scan path) = some (.scan (titled.map Titled.entry) files) := by
  simp only [scanValue, ofValue?, Value.members?, List.map_cons, List.map_nil, ↓reduceIte, Option.bind_eq_bind,
    Option.bind_some, Value.list?_map Entry.ofValue?_toValue, Value.list?_ofStrings]
  rfl

theorem ofValue?_verdicts (paths : List String) (rows : List Verdict) :
    ofValue? (.array (rows.map Verdict.toValue)) (.classify paths) = some (.verdicts rows) := by
  rw [ofValue?, Value.list?_map Verdict.ofValue?_toValue, List.map_id']
  rfl

theorem ofValue?_checkValue (path : String) (report : Option String) :
    ofValue? (checkValue path report) (.check path) = some (.check path report.isNone report) := by
  simp only [checkValue, ofValue?, Value.members?, List.map_cons, List.map_nil, ↓reduceIte, Option.bind_eq_bind,
    Option.bind_some, Value.text?, Value.flag?, Value.textOrNull?_ofOption]
  rfl

theorem ofValue?_listingValue (path : String) (titled : List Titled) (l : Listing) :
    ofValue? (listingValue titled l) (.listing path) =
      some (.listing l.title (titled.map Titled.entry) l.directories l.files l.readme) := by
  simp only [listingValue, ofValue?, Value.members?, List.map_cons, List.map_nil, ↓reduceIte,
    Option.bind_eq_bind, Option.bind_some, Value.text?, Value.list?_map Entry.ofValue?_toValue,
    Value.list?_ofStrings, Value.textOrNull?_ofOption]
  rfl

end Finding

end Written

/-- The free variables of a script, with or without the names that are global in it. -/
def freeNames (excludeGlobals : Bool) (program : Script.Program) : List String :=
  let names := (Analysis.freeVariables program).names
  if excludeGlobals then names.filter fun n => !program.globalNames.contains n else names

theorem nodup_freeNames (excludeGlobals : Bool) (program : Script.Program) :
    (freeNames excludeGlobals program).Nodup := by
  have distinct := Analysis.nodup_freeVariables program
  cases excludeGlobals with
  | false => exact distinct
  | true => exact distinct.filter _

theorem mem_freeNames_iff {excludeGlobals : Bool} {program : Script.Program} {name : String} :
    name ∈ freeNames excludeGlobals program ↔ name ∈ (Analysis.freeVariables program).names ∧
      (excludeGlobals = true → name ∉ program.globalNames) := by
  cases excludeGlobals <;> simp [freeNames]

section Commands

variable {fs : FileSystem} {s : AnalysisSettings}

/-- The titles of some projects are looked up one after another. -/
theorem exists_titledAll_iff {projects : List Project} {entries : List Entry} :
    (∃ titled, (titledAll fs projects).result = .ok titled ∧ titled.map Titled.entry = entries) ↔
      List.Forall₂ (IsTitled fs) projects entries := by
  induction projects generalizing entries with
  | nil => simp [titledAll, eq_comm]
  | cons p rest ih =>
      constructor
      · rintro ⟨titled, all, rfl⟩
        obtain ⟨title, isTitle, all⟩ := Logged.result_bind_eq_ok_iff.mp all
        obtain ⟨more, titles, made⟩ := Logged.result_bind_eq_ok_iff.mp all
        obtain rfl := Except.ok.inj made
        exact .cons ⟨isTitle⟩ (ih.mp ⟨more, titles, rfl⟩)
      · rintro (_ | ⟨⟨isTitle⟩, others⟩)
        obtain ⟨more, titles, rfl⟩ := ih.mpr others
        refine ⟨{ project := p, title := _ } :: more, ?_, rfl⟩
        refine Logged.result_bind_eq_ok_iff.mpr ⟨_, isTitle, ?_⟩
        exact Logged.result_bind_eq_ok_iff.mpr ⟨more, titles, rfl⟩

variable [Host]

theorem verdicts_eq_ok_iff {paths : List String} {rows : List Verdict} :
    (verdicts fs s paths).result = .ok rows ↔ List.Forall₂ (IsJudged fs s) paths rows := by
  induction paths generalizing rows with
  | nil => simp [verdicts, eq_comm]
  | cons path rest ih =>
      simp only [verdicts, Logged.result_bind_eq_ok_iff, ih]
      constructor
      · rintro ⟨script, isScript, markup, isMarkup, more, judged, made⟩
        obtain rfl := Except.ok.inj made
        exact .cons ⟨isScript, isMarkup⟩ judged
      · rintro (_ | ⟨⟨isScript, isMarkup⟩, others⟩)
        exact ⟨_, isScript, _, isMarkup, _, others, rfl⟩

/-- A command that prints what says what it finds tells it, or cannot print it. -/
theorem Tells.print {c : Command} {v : Value} {finding : Finding} {code : Nat} (readable : v.IsReadable)
    (describes : Describes fs s c v finding) : Tells fs s c (Performed.print (printValue v) code).output := by
  unfold Performed.print
  split
  · exact .value rfl readable describes
  · next reason taken => exact .unprintable rfl ⟨v, finding, reason, describes, taken⟩

/-- A command that goes on with what was found out tells what comes of it, or nothing. -/
theorem Tells.after {α : Type} {c : Command} {m : Logged Sketch.Problem α} {f : α → Performed}
    (found : ∀ a, m.result = .ok a → Tells fs s c (f a).output)
    (failed : ∀ p, m.result = .error p → ∀ finding, ¬ Finds fs s c finding) :
    Tells fs s c (Performed.after m f).output := by
  unfold Performed.after
  split
  · next a isFound => exact found a isFound
  · next p isFailure => exact .nothing rfl (failed p isFailure)

/-- Where a command needs the titles of some projects, it tells what comes of these, or nothing. -/
theorem Tells.titled {c : Command} {projects : List Project} {f : List Titled → Performed}
    (found : ∀ titled, List.Forall₂ (IsTitled fs) projects (titled.map Titled.entry) →
      Tells fs s c (f titled).output)
    (needed : ∀ finding, Finds fs s c finding → ∃ entries, List.Forall₂ (IsTitled fs) projects entries) :
    Tells fs s c (Performed.after (titledAll fs projects) f).output := by
  refine .after (fun titled titles => ?_) fun p failed finding finds => ?_
  · exact found titled (exists_titledAll_iff.mp ⟨titled, titles, rfl⟩)
  · obtain ⟨entries, isTitled⟩ := needed finding finds
    obtain ⟨titled, titles, -⟩ := exists_titledAll_iff.mpr isTitled
    cases failed.symm.trans titles

theorem tells_scan (path : String) : Tells fs s (.scan path) (performScan fs true s path).output := by
  refine .after (fun found scanned => .titled (fun titled isTitled => ?_) fun finding finds => ?_)
    fun p failed finding finds => ?_
  · exact .print (isReadable_scanValue ..)
      ⟨Finding.ofValue?_scanValue path titled found.files, .scan scanned isTitled, trivial⟩
  · cases finds with
    | scan scanned' isTitled =>
        obtain rfl := Except.ok.inj (scanned.symm.trans scanned')
        exact ⟨_, isTitled⟩
  · cases finds with
    | scan scanned => cases failed.symm.trans scanned

theorem tells_listing (path : String) :
    Tells fs s (.listing path) (performListing fs true s path).output := by
  refine .after (fun l listed => .titled (fun titled isTitled => ?_) fun finding finds => ?_)
    fun p failed finding finds => ?_
  · exact .print (isReadable_listingValue ..)
      ⟨Finding.ofValue?_listingValue path titled l, .listing listed isTitled, trivial⟩
  · cases finds with
    | listing listed' isTitled =>
        obtain rfl := Except.ok.inj (listed.symm.trans listed')
        exact ⟨_, isTitled⟩
  · cases finds with
    | listing listed => cases failed.symm.trans listed

theorem tells_classify (paths : List String) :
    Tells fs s (.classify paths) (performClassify fs true s paths).output := by
  refine .after (fun rows judged => ?_) fun p failed finding finds => ?_
  · exact .print (.map isReadable_verdict rows)
      ⟨Finding.ofValue?_verdicts paths rows, .classify (verdicts_eq_ok_iff.mp judged), trivial⟩
  · cases finds with
    | classify judged => cases failed.symm.trans (verdicts_eq_ok_iff.mpr judged)

theorem tells_check (path : String) : Tells fs s (.check path) (performCheck fs true s path).output := by
  refine .after (fun report checked => ?_) fun p failed finding finds => ?_
  · exact .print (isReadable_checkValue ..)
      ⟨Finding.ofValue?_checkValue path report, .check checked, trivial⟩
  · cases finds with
    | check checked => cases failed.symm.trans checked

/-- An analysis of a script tells the names that it finds, in order. -/
theorem tells_analysis {c : Command} {path : String} {found : Script.Program → List String}
    {names : Script.Program → Logged Sketch.Problem (List String)}
    (gives : ∀ program, (names program).result = .ok (found program))
    (distinct : ∀ program, (found program).Nodup)
    (decodes : ∀ v, Finding.ofValue? v c = (v.list? Value.text?).map .names)
    (finds : ∀ finding, Finds fs s c finding ↔ ∃ program names,
      (readScript fs path s.maxFileBytes).result = .ok program ∧ finding = .names names ∧
        ∀ name, name ∈ names ↔ name ∈ found program) :
    Tells fs s c (performAnalysis fs true s path names).output := by
  refine .after (fun all isFound => ?_) fun p failed finding isFound => ?_
  · obtain ⟨program, read, given⟩ := Logged.result_bind_eq_ok_iff.mp isFound
    obtain rfl := Except.ok.inj ((gives program).symm.trans given)
    have told : Finds fs s c (.names (Text.sorted (found program))) :=
      (finds _).mpr ⟨program, _, read, rfl, fun _ => Text.mem_sorted⟩
    refine .print (.ofStrings _) ⟨?_, told, Text.pairwise_lt_sorted (distinct program)⟩
    rw [decodes, Value.list?_ofStrings]
    rfl
  · obtain ⟨program, -, read, -⟩ := (finds finding).mp isFound
    have given := Logged.result_bind_eq_ok_iff.mpr ⟨program, read, gives program⟩
    cases failed.symm.trans given

theorem tells_freeVars (path : String) (excludeGlobals : Bool) :
    Tells fs s (.freeVars path excludeGlobals) (performFreeVars fs true s path excludeGlobals).output := by
  have finds (finding : Finding) : Finds fs s (.freeVars path excludeGlobals) finding ↔ ∃ program names,
      (readScript fs path s.maxFileBytes).result = .ok program ∧ finding = .names names ∧
        ∀ name, name ∈ names ↔ name ∈ freeNames excludeGlobals program := by
    simp only [mem_freeNames_iff]
    constructor
    · intro finds
      cases finds with
      | freeVars read names => exact ⟨_, _, read, rfl, names⟩
    · rintro ⟨program, names, read, rfl, same⟩
      exact .freeVars read same
  exact tells_analysis (fun _ => rfl) (nodup_freeNames excludeGlobals) (fun _ => rfl) finds

theorem tells_members (path : String) (namespaceName : Given String) :
    Tells fs s (.members path namespaceName) (performMembers fs true s path).output := by
  have finds (finding : Finding) : Finds fs s (.members path namespaceName) finding ↔ ∃ program names,
      (readScript fs path s.maxFileBytes).result = .ok program ∧ finding = .names names ∧
        ∀ name, name ∈ names ↔ name ∈ (Analysis.memberReferences s.namespaceName program).names := by
    constructor
    · intro finds
      cases finds with
      | members read names => exact ⟨_, _, read, rfl, names⟩
    · rintro ⟨program, names, read, rfl, same⟩
      exact .members read same
  exact tells_analysis (fun _ => rfl) (Analysis.nodup_memberReferences s.namespaceName) (fun _ => rfl) finds

theorem tells_perform (c : Command) : Tells fs s c (c.perform fs true s).output := by
  cases c with
  | scan path => exact tells_scan path
  | classify paths => exact tells_classify paths
  | freeVars path excludeGlobals => exact tells_freeVars path excludeGlobals
  | members path namespaceName => exact tells_members path namespaceName
  | check path => exact tells_check path
  | listing path => exact tells_listing path

end Commands

section Run

variable [Host] {homes : Path.Homes} {start ready : Session} {args : List String} {a : Arguments}
  {v : Validated} {c : Command}

/-- What a run prints once it is ready: what its command does, if all paths are there, and nothing else. -/
theorem shownOn_of_ready (isReady : GetsReady homes start args a v ready) (isCommand : a.command = some c)
    (present : ∀ path ∈ c.paths, ready.files.pathExists path = true) :
    (run homes start args).session.shownOn [.output] = start.shownOn [.output] ++
      (c.perform ready.files a.options.json (AnalysisSettings.ofConfig v.config)).output := by
  have search : c.paths.find? (fun path => !(announced ready v).files.pathExists path) = none :=
    List.find?_eq_none.mpr fun path member => by simp [files_announced, present path member]
  rw [(run_of_ready isReady).2, (Session.keeps_shutdown _).output, runChecked_eq isReady.acts, isCommand]
  dsimp only
  rw [runCommand_of_present search, files_announced]
  have said (s : Session) (output : String) (keeps : start.Keeps s) :
      (s.say .output output).shownOn [.output] = start.shownOn [.output] ++ output := by
    rw [Session.shownOn_say, if_pos (List.mem_singleton.mpr rfl), keeps.output]
  have keeps := ((keeps_ready isReady).trans (keeps_announced ready v)).trans
    (Session.keeps_logAll _ (c.perform ready.files a.options.json (AnalysisSettings.ofConfig v.config)).log)
  dsimp only
  split
  · exact said _ _ keeps
  · exact (keeps_reportFailure _ c _).output.trans (said _ _ keeps)

theorem shownOn_of_missing (isReady : GetsReady homes start args a v ready) (isCommand : a.command = some c)
    (missing : ¬ ∀ path ∈ c.paths, ready.files.pathExists path = true) :
    (run homes start args).session.shownOn [.output] = start.shownOn [.output] := by
  have lacks : a.LacksInput ready.files := by
    intro c' isCommand'
    obtain rfl := Option.some.inj (isCommand.symm.trans isCommand')
    simpa using missing
  rw [(run_of_ready isReady).2, (Session.keeps_shutdown _).output,
    (runChecked_lacks isReady.acts lacks).2.output, (keeps_ready isReady).output]

end Run

/-- What is printed for programs is one value, and no empty text. -/
theorem printValue_ne_empty (v : Value) : printValue v ≠ "" := by
  intro same
  have chars := congrArg String.toList same
  rw [printValue, String.toList_append] at chars
  exact absurd (List.append_eq_nil_iff.mp chars).2 (by decide)

theorem parse_printValue {v : Value} (readable : v.IsReadable) : Json.parse (printValue v) = .ok v :=
  parse_write Layout.isSpaced_readable readable (List.forall_mem_singleton.mpr rfl)

/-- A run for programs prints something exactly if its paths are all there and its command finds something,
which can be printed. Then it prints one value and nothing else, and what is read from the value is what the
command finds; names come in strictly increasing order. -/
theorem run_document [Host] {homes : Path.Homes} {files : FileSystem} {now : Moment} {args : List String}
    {a : Arguments} {v : Validated} {ready : Session} {c : Command}
    (isReady : GetsReady homes { files, now } args a v ready) (json : a.options.json = true)
    (isCommand : a.command = some c) :
    ((run homes { files, now } args).session.shownOn [.output] ≠ "" →
      (∀ path ∈ c.paths, ready.files.pathExists path = true) ∧
        ∃ finding, Finds ready.files (AnalysisSettings.ofConfig v.config) c finding) ∧
    (¬ CannotPrint ready.files (AnalysisSettings.ofConfig v.config) c →
      (∀ path ∈ c.paths, ready.files.pathExists path = true) →
      (∃ finding, Finds ready.files (AnalysisSettings.ofConfig v.config) c finding) →
        (run homes { files, now } args).session.shownOn [.output] ≠ "") ∧
    ((run homes { files, now } args).session.shownOn [.output] ≠ "" →
      ∃ value finding, Json.parse ((run homes { files, now } args).session.shownOn [.output]) = .ok value ∧
        Finding.ofValue? value c = some finding ∧
        Finds ready.files (AnalysisSettings.ofConfig v.config) c finding ∧ finding.Increases) := by
  have blank : ({ files, now } : Session).shownOn [.output] = "" := rfl
  by_cases present : ∀ path ∈ c.paths, ready.files.pathExists path = true
  · have shown := shownOn_of_ready isReady isCommand present
    rw [blank, String.empty_append, json] at shown
    rw [shown]
    have tells : Tells ready.files (AnalysisSettings.ofConfig v.config) c _ := tells_perform c
    rcases tells with ⟨printed, readable, describes⟩ | ⟨silent, cannot⟩ | ⟨silent, nothing⟩
    · rw [printed]
      exact ⟨fun _ => ⟨present, _, describes.finds⟩, fun _ _ _ => printValue_ne_empty _,
        fun _ => ⟨_, _, parse_printValue readable, describes.decodes, describes.finds, describes.increases⟩⟩
    · rw [silent]
      exact ⟨fun filled => absurd rfl filled, fun can => absurd cannot can, fun filled => absurd rfl filled⟩
    · rw [silent]
      exact ⟨fun filled => absurd rfl filled, fun _ _ found => found.elim fun _ finds => absurd finds (nothing _),
        fun filled => absurd rfl filled⟩
  · have shown := shownOn_of_missing isReady isCommand present
    rw [blank] at shown
    rw [shown]
    exact ⟨fun filled => absurd rfl filled, fun _ there => absurd there present,
      fun filled => absurd rfl filled⟩

section Example

/-- A file that is no sketch is classified, for a program. -/
def classifyCall : List String := ["--json", "--use-defaults", "classify", "/p5.json"]

def classifyArguments : Arguments where
  options := { useDefaults := true, json := true }
  command := some (.classify ["/p5.json"])

theorem finds_classify [Host] (fs : FileSystem) (s : AnalysisSettings) :
    Finds fs s (.classify ["/p5.json"])
      (.verdicts [{ path := "/p5.json", script := false, markup := false }]) := by
  obtain ⟨script, markup⟩ := @result_judge_of_other _ fs s "/p5.json" (by decide) (by decide)
  exact .classify (.cons ⟨script, markup⟩ .nil)

theorem run_document_classify : ∃ v ready,
    @GetsReady .bundled rootHomes { files := looseFiles, now := noon } classifyCall classifyArguments v ready ∧
    classifyArguments.options.json = true ∧ classifyArguments.command = some (.classify ["/p5.json"]) ∧
    ¬ @CannotPrint .bundled ready.files (AnalysisSettings.ofConfig v.config) (.classify ["/p5.json"]) ∧
    ∃ value finding,
      Json.parse ((@run .bundled rootHomes { files := looseFiles, now := noon } classifyCall).session.shownOn
        [.output]) = .ok value ∧
      Finding.ofValue? value (.classify ["/p5.json"]) = some finding ∧
      @Finds .bundled ready.files (AnalysisSettings.ofConfig v.config) (.classify ["/p5.json"]) finding ∧
      finding.Increases := by
  obtain ⟨ready, files, isReady⟩ := @exists_ready_of_defaults .bundled rootHomes looseFiles noon
    classifyCall classifyArguments rfl rfl rfl rfl
  obtain ⟨-, prints, describes⟩ := @run_document .bundled _ _ _ _ _ _ _ _ isReady rfl rfl
  have present : ∀ path ∈ ["/p5.json"], ready.files.pathExists path = true := by
    rw [files]
    refine List.forall_mem_singleton.mpr ?_
    rw [FileSystem.pathExists, looseFiles, status_filesWith]
  have can : ¬ @CannotPrint .bundled ready.files (AnalysisSettings.ofConfig Config.standard)
      (.classify ["/p5.json"]) := by
    rintro ⟨_, _, _, _, taken⟩
    cases taken
  exact ⟨_, ready, isReady, rfl, rfl, can, describes (prints can present ⟨_, @finds_classify .bundled _ _⟩)⟩

end Example

end SketchSurvey.CommandLine
