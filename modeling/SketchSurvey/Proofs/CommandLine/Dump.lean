import SketchSurvey.Proofs.CommandLine.ExitCode
import SketchSurvey.Proofs.CommandLine.GivenConfig
import SketchSurvey.Proofs.CommandLine.Reading
import SketchSurvey.Proofs.Log.Unopened

/-! Runs that print their configuration. What is printed, saved and loaded in another run, is printed again
as it is, and nothing is said about it; unless the home directory that was put into it is an odd one. -/

set_option autoImplicit false

namespace SketchSurvey.Files

theorem FileSystem.ne_empty_of_update {fs fs' : FileSystem} {path : String}
    {change : Text.Utf8.Bytes → Text.Utf8.Bytes} (updated : fs.update path change = .ok fs') : path ≠ "" := by
  obtain ⟨-, location, -, -, status⟩ := update_spec updated
  exact (locate_eq_ok_iff.mp (status_eq_ok_iff.mp status)).2.1

end SketchSurvey.Files

namespace SketchSurvey.CommandLine

open SketchSurvey.Files SketchSurvey.Json SketchSurvey.Log SketchSurvey.Settings

/-- A command line that names a configuration, and asks that it be printed. -/
def dumpOf (path : String) : Arguments where
  options := { config := .value path, dumpConfig := true }

theorem givenConfig_dumpOf {path : String} (named : path ≠ "") (homes : Path.Homes) (fs : FileSystem) :
    givenConfig homes fs (dumpOf path) = load fs path := by
  have isNamed : (Given.value path).text? = some path := if_neg (by simpa using named)
  simp only [givenConfig, dumpOf, isNamed, Option.getD_some]
  rfl

section Host

variable [Host]

/-- A run that comes to print its configuration: it is valid, logging is set up, and it can be printed. -/
structure GetsDumped (homes : Path.Homes) (start : Session) (args : List String) (a : Arguments)
    (v : Validated) (ready : Session) : Prop where
  read : Arguments.read args = .ok a
  validated : validate homes (.object (givenConfig homes start.files a).given) false = .ok v
  configured : (start.logAll (givenConfig homes start.files a).log).configure
    (Setup.ofTexts v.config.logLevel v.config.logFile true) = (ready, .ok ())
  dumps : a.options.dumpConfig = true
  printable : Host.unprintable? (printValue v.config.toValue) = none

section Dumping

variable {homes : Path.Homes} {start ready : Session} {args : List String} {a : Arguments} {v : Validated}

theorem run_of_dumped (dumped : GetsDumped homes start args a v ready) :
    run homes start args = {
      code := 0
      session := ((announced ready v).say .output (printValue v.config.toValue)).shutdown } := by
  have checked : runChecked ready a v = {
      code := 0
      session := (announced ready v).say .output (printValue v.config.toValue) } := by
    rw [runChecked_of_dumps dumped.dumps, dumped.printable]
  unfold run runArguments
  rw [dumped.read]
  dsimp only
  rw [dumped.validated]
  dsimp only
  rw [dumped.configured]
  dsimp only
  rw [checked]

/-- A run that is to print its configuration and succeeds comes to do so. -/
theorem exists_dumped (read : Arguments.read args = .ok a) (dumps : a.options.dumpConfig = true)
    (code : (run homes start args).code = 0) : ∃ v ready, GetsDumped homes start args a v ready := by
  unfold run runArguments at code
  rw [read] at code
  dsimp only at code
  split at code
  · cases code
  · next v validated =>
      split at code
      · cases code
      · next ready configured =>
          rw [runChecked_of_dumps dumps] at code
          split at code
          · next printable => exact ⟨v, ready, read, validated, configured, dumps, printable⟩
          · cases code

theorem keeps_of_dumped (dumped : GetsDumped homes start args a v ready) :
    start.Keeps (announced ready v) := by
  have configured := (start.keeps_logAll (givenConfig homes start.files a).log).trans
    (Session.keeps_configure _ (Setup.ofTexts v.config.logLevel v.config.logFile true) false)
  rw [dumped.configured] at configured
  exact configured.trans (keeps_announced ready v)

/-- Nothing but the configuration is printed. -/
theorem shownOn_of_dumped (dumped : GetsDumped homes start args a v ready) :
    (run homes start args).session.shownOn [.output] =
      start.shownOn [.output] ++ printValue v.config.toValue := by
  rw [run_of_dumped dumped]
  dsimp only
  rw [(Session.keeps_shutdown _).output, Session.shownOn_say, if_pos (List.mem_singleton.mpr rfl),
    (keeps_of_dumped dumped).output]

theorem working_of_dumped (dumped : GetsDumped homes start args a v ready) :
    (run homes start args).session.files.working = start.files.working := by
  rw [run_of_dumped dumped]
  exact (Session.keeps_shutdown _).working.trans (keeps_of_dumped dumped).working

/-- Where nobody writes to a log file, nothing changes in the files once logging is set up. -/
theorem files_of_dumped (dumped : GetsDumped homes start args a v ready) (fileless : ready.IsFileless) :
    (run homes start args).session.files = ready.files := by
  rw [run_of_dumped dumped]
  have still : (announced ready v).IsFileless := by
    rw [announced_eq]
    exact fileless.logAll _
  exact (files_shutdown (s := (announced ready v).say .output _) still).trans (files_announced ready v)

end Dumping

section Again

variable {homes : Path.Homes} {files saved : FileSystem} {now later : Moment} {args again : List String}
  {a : Arguments} {path : String}

/-- Once a configuration is saved, logging can be set up for it as it was before. -/
theorem configure_saved (later : Moment) {v : Validated} {ready : Session} {bytes : Text.Utf8.Bytes}
    (dumped : GetsDumped homes { files, now } args a v ready)
    (kept : (run homes { files, now } args).session.files.write path bytes = .ok saved) :
    ∃ ready', ({ files := saved, now := later } : Session).configure
      (Setup.ofTexts v.config.logLevel v.config.logFile true) = (ready', .ok ()) := by
  have down : ({} : Logging).IsDown := ⟨rfl, rfl, rfl⟩
  have before := Session.keeps_logAll { files, now } (givenConfig homes files a).log
  have working : saved.working = files.working :=
    (FileSystem.working_of_update kept).trans (working_of_dumped dumped)
  refine configure_again ⟨rfl, rfl, rfl⟩ (Logging.IsDown.logAll (s := { files, now }) down _)
    dumped.configured down (working.trans before.working.symm) fun fileless => ?_
  rw [← files_of_dumped dumped fileless]
  obtain ⟨-, location, isOpen, same, -⟩ := FileSystem.update_spec kept
  rw [same]
  exact isOpen.growsByFiles _

/-- What a run printed is printed again by a run that it is given to, and nothing is said about it. -/
theorem dump_again (proper : homes.Proper) (read : Arguments.read args = .ok a)
    (dumps : a.options.dumpConfig = true) (succeeds : (run homes { files, now } args).code = 0)
    (kept : (run homes { files, now } args).session.files.write path
      (Text.Utf8.encode ((run homes { files, now } args).session.shownOn [.output])) = .ok saved)
    (readAgain : Arguments.read again = .ok (dumpOf path)) :
    (run homes { files := saved, now := later } again).code = 0 ∧
      (run homes { files := saved, now := later } again).session.shownOn [.output] =
        (run homes { files, now } args).session.shownOn [.output] ∧
      ∃ config, validate homes (.object (givenConfig homes saved (dumpOf path)).given) false =
        .ok { config, warnings := [] } := by
  obtain ⟨v, ready, dumped⟩ := exists_dumped read dumps succeeds
  obtain ⟨ready', configured⟩ := configure_saved later dumped kept
  have printed : (run homes { files, now } args).session.shownOn [.output] = printValue v.config.toValue :=
    (shownOn_of_dumped dumped).trans String.empty_append
  rw [printed] at kept ⊢
  -- What is loaded are the members of the configuration, and those pass.
  obtain ⟨current, readable⟩ :=
    isReadable_of_validate (isCurrent_givenConfig read homes files) dumped.validated
  have given : givenConfig homes saved (dumpOf path) = { given := v.config.members, log := [] } := by
    rw [givenConfig_dumpOf (FileSystem.ne_empty_of_update kept), load_of_write current readable kept]
  have passes : validate homes (.object (givenConfig homes saved (dumpOf path)).given) false =
      .ok { config := v.config, warnings := [] } := by
    rw [given]
    exact validate_members (validate_settled proper dumped.validated) false
  have dumpedAgain : GetsDumped homes { files := saved, now := later } again (dumpOf path)
      { config := v.config, warnings := [] } ready' := by
    refine ⟨readAgain, passes, ?_, rfl, dumped.printable⟩
    rw [given]
    exact configured
  refine ⟨?_, ?_, v.config, passes⟩
  · rw [run_of_dumped dumpedAgain]
  · exact (shownOn_of_dumped dumpedAgain).trans String.empty_append

end Again

end Host

section Calls

variable {path : String}

/-- An option, written by one of its names. -/
def OptionSpec.mark (o : OptionSpec) (name : String) : Marked where
  text := name
  kind := .found { option := o, value := none }

theorem takeOption_config (notDashes : (path == "--") = false) (rest : List Marked) :
    Spec.program.takeOption { option := Spec.config, value := none } ({ text := path, kind := .plain } :: rest) =
      .ok (.text Spec.config (.value path), rest) := by
  have setting : Spec.program.settingOf Spec.config path = .ok (.text Spec.config (.value path)) := by
    rw [CommandSpec.settingOf, notDashes]
    rfl
  have value : Spec.program.takeOption { option := Spec.config, value := none }
      ({ text := path, kind := .plain } :: rest) =
        (do return (← Spec.program.settingOf Spec.config path, rest)) := rfl
  rw [value, setting]
  rfl

/-- The path of a file can be given to `--config`, unless it starts like an option. -/
theorem read_dumpOf (path : String) (plain : path.toList.head? ≠ some '-') :
    Arguments.read ["--config", path, "--dump-config"] = .ok (dumpOf path) := by
  have notDashes : (path == "--") = false := by
    rw [beq_eq_false_iff_ne]
    rintro rfl
    exact plain rfl
  have kind : Spec.program.kindOf path = .ok .plain := kindOf_plain plain
  have config : Spec.program.kindOf "--config" = .ok (.found { option := Spec.config, value := none }) := rfl
  have dump : Spec.program.kindOf "--dump-config" =
      .ok (.found { option := Spec.dumpConfig, value := none }) := rfl
  have marked : Spec.program.markAll ["--config", path, "--dump-config"] = .ok [
      Spec.config.mark "--config", { text := path, kind := .plain }, Spec.dumpConfig.mark "--dump-config"] := by
    simp only [CommandSpec.markAll, config, dump, kind, notDashes]
    rfl
  have taken := takeOption_config notDashes [Spec.dumpConfig.mark "--dump-config"]
  unfold Arguments.read CommandSpec.readAll
  rw [marked]
  change (do
    let l ← (do
      let found ← Spec.program.takeOption { option := Spec.config, value := none }
        [{ text := path, kind := .plain }, Spec.dumpConfig.mark "--dump-config"]
      Spec.program.readArgs readCommand 6 { settings := [found.1] } found.2)
    _) = _
  rw [taken]
  rfl

end Calls

section Example

/-- A file with some members of a configuration. -/
def filesWith (given : Settings.Given) : FileSystem where
  nodes := [(["p5.json"], .file (Text.Utf8.encode (write .readable (.object given) ++ "\n")))]

theorem status_filesWith (given : Settings.Given) : (filesWith given).status "/p5.json" =
    .ok (["p5.json"], .file (Text.Utf8.encode (write .readable (.object given) ++ "\n"))) :=
  FileSystem.status_of_entry (.inl (by rfl)) (by decide) (by decide) (by decide) rfl nofun

/-- What a run is given by such a file. -/
theorem givenConfig_filesWith {given : Settings.Given} {a : Arguments} (homes : Path.Homes)
    (readable : (Value.object given).IsReadable) (loads : a.options.useDefaults = false)
    (named : a.options.config = .value "/p5.json") :
    givenConfig homes (filesWith given) a = {
      given := Given.over (put (Given.over Config.standard.members given) "version" (.string currentVersion))
        a.overrides
      log := [] } := by
  have path : a.options.config.text?.getD (userFile homes) = "/p5.json" := by
    rw [named]
    rfl
  rw [givenConfig, if_neg (by simp [loads]), path, load_of_status readable (status_filesWith given)]

/-- A run that is given such a file comes to print its configuration, if it is valid and can be printed. -/
theorem exists_dumped_of_validate [Host] {given : Settings.Given} {a : Arguments} {v : Validated}
    {args : List String} (homes : Path.Homes) (now : Moment) (readable : (Value.object given).IsReadable)
    (read : Arguments.read args = .ok a) (loads : a.options.useDefaults = false)
    (named : a.options.config = .value "/p5.json") (dumps : a.options.dumpConfig = true)
    (passed : validate homes (.object (Given.over
      (put (Given.over Config.standard.members given) "version" (.string currentVersion)) a.overrides))
        false = .ok v)
    (noNull : '\x00' ∉ v.config.logFile.toList)
    (printable : Host.unprintable? (printValue v.config.toValue) = none) :
    ∃ ready, GetsDumped homes { files := filesWith given, now } args a v ready := by
  have isGiven := givenConfig_filesWith homes readable loads named
  let start : Session := Session.logAll { files := filesWith given, now } []
  let setup := Setup.ofTexts v.config.logLevel v.config.logFile true
  have standard : setup.HasStandardFormats := ⟨rfl, rfl, rfl⟩
  have configured : (start.configure setup).2 = .ok () := by
    refine configure_returns_of_readable start standard.readable false fun path p isPath failed => ?_
    have isLogFile : path = v.config.logFile := by
      obtain ⟨asked, -⟩ := Option.filter_eq_some_iff.mp isPath
      dsimp only [setup, Setup.ofTexts] at asked
      split at asked
      · cases asked
      · exact (Option.some.inj asked).symm
    refine isProper_openForLines.ofSystem (not_mem_absolute ?_ (isLogFile ▸ noNull)) trivial failed
    rw [workingPath_readyFor, show start.files.workingPath = "/" from rfl]
    decide
  refine ⟨(start.configure setup).1, read, ?_, ?_, dumps, printable⟩
  · rw [isGiven]
    exact passed
  · rw [isGiven]
    exact Prod.ext rfl configured

def dumpCall : List String := ["--config", "/p5.json", "--dump-config"]

theorem proper_rootHomes : rootHomes.Proper where
  own := ⟨by rintro c ⟨⟩; decide, by rintro c ⟨⟩; decide⟩
  others := nofun

/-- A configuration with a number and a list that are given as texts, and a field that is unknown. -/
def looseMembers : List (String × Value) :=
  [("max_file_bytes", .string "12"), ("sketch_functions", .string "go, draw"), ("junk", .null)]

def looseFiles : FileSystem := filesWith looseMembers

theorem isReadable_looseMembers : (Value.object looseMembers).IsReadable := by
  refine .object (by decide) ?_
  simp only [looseMembers, List.forall_mem_cons]
  exact ⟨.string _, .string _, .null, List.forall_mem_nil _⟩

def looseCall : List String := ["--config", "/p5.json", "--debug", "--dump-config"]

def looseArguments : Arguments where
  options := { config := .value "/p5.json", debug := true, dumpConfig := true }

/-- The loose configuration is valid, and asks for no log file. -/
theorem validate_looseFiles : ∃ v, @validate .bundled rootHomes (.object (Given.over
    (put (Given.over Config.standard.members looseMembers) "version" (.string currentVersion))
    looseArguments.overrides)) false = .ok v ∧ v.config.logFile = "" ∧ v.warnings.length = 3 := by
  have outcome : (@validate .bundled rootHomes (.object (Given.over
      (put (Given.over Config.standard.members looseMembers) "version" (.string currentVersion))
      looseArguments.overrides)) false).toOption.map
        (fun v => (v.config.logFile, v.warnings.length)) = some ("", 3) := by decide +kernel
  obtain ⟨v, passed, facts⟩ := Option.map_eq_some_iff.mp outcome
  obtain ⟨logFile, warnings⟩ := Prod.mk.inj facts
  exact ⟨v, Sketch.eq_ok_of_toOption passed, logFile, warnings⟩

theorem exists_dumped_loose : ∃ v ready, ready.files = looseFiles ∧ ready.IsFileless ∧
    @GetsDumped .bundled rootHomes { files := looseFiles, now := noon } looseCall looseArguments v ready := by
  obtain ⟨v, passed, noFile, -⟩ := validate_looseFiles
  have unwanted : (Setup.ofTexts v.config.logLevel v.config.logFile true).path? = none := by
    rw [noFile]
    rfl
  obtain ⟨ready, dumped⟩ := @exists_dumped_of_validate .bundled _ _ _ _ rootHomes noon
    isReadable_looseMembers (show Arguments.read looseCall = .ok looseArguments from rfl) rfl rfl rfl passed
    (noFile ▸ by decide) rfl
  have down := Logging.IsDown.logAll (s := { files := looseFiles, now := noon }) ⟨rfl, rfl, rfl⟩
    (givenConfig rootHomes looseFiles looseArguments).log
  obtain ⟨fileless, files⟩ :=
    files_configure_of_none down unwanted (@GetsDumped.configured .bundled _ _ _ _ _ _ dumped)
  exact ⟨v, ready, files.trans (Session.files_logAll ..), fileless, dumped⟩

/-- There is room for one more file. -/
theorem write_looseFiles (bytes : Text.Utf8.Bytes) :
    looseFiles.write "/dump.json" bytes = .ok (looseFiles.put ["dump.json"] (.file bytes)) := by
  have free : looseFiles.locate true "/dump.json" = .ok (.absent ["dump.json"]) := by
    have nothing : looseFiles.node? ["dump.json"] = none := rfl
    rw [FileSystem.locate_eq_ok_iff, show names "/dump.json" = ["dump.json"] by rfl,
      show looseFiles.startOf "/dump.json" = [] by rfl,
      FileSystem.walk_free (by decide) (by decide) (by decide) nothing]
    exact ⟨by decide, by decide, by decide, rfl⟩
  rw [FileSystem.write, FileSystem.update, if_neg (by decide), free]

theorem dump_again_loose : rootHomes.Proper ∧ Arguments.read looseCall = .ok looseArguments ∧
    looseArguments.options.dumpConfig = true ∧
    Arguments.read ["--config", "/dump.json", "--dump-config"] = .ok (dumpOf "/dump.json") ∧
    ∃ first saved, first = @run .bundled rootHomes { files := looseFiles, now := noon } looseCall ∧
      first.code = 0 ∧
      first.session.files.write "/dump.json" (Text.Utf8.encode (first.session.shownOn [.output])) = .ok saved ∧
      ∃ second, second = @run .bundled rootHomes { files := saved, now := { noon with day := 7 } }
          ["--config", "/dump.json", "--dump-config"] ∧
        second.code = 0 ∧ second.session.shownOn [.output] = first.session.shownOn [.output] ∧
        ∃ config, @validate .bundled rootHomes
          (.object (givenConfig rootHomes saved (dumpOf "/dump.json")).given) false =
            .ok { config, warnings := [] } := by
  obtain ⟨v, ready, files, fileless, dumped⟩ := exists_dumped_loose
  have code : (@run .bundled rootHomes { files := looseFiles, now := noon } looseCall).code = 0 := by
    rw [@run_of_dumped .bundled _ _ _ _ _ _ dumped]
  have kept (bytes : Text.Utf8.Bytes) :
      (@run .bundled rootHomes { files := looseFiles, now := noon } looseCall).session.files.write
        "/dump.json" bytes = .ok (looseFiles.put ["dump.json"] (.file bytes)) := by
    rw [@files_of_dumped .bundled _ _ _ _ _ _ dumped fileless, files]
    exact write_looseFiles bytes
  have readAgain := read_dumpOf "/dump.json" (by decide)
  exact ⟨proper_rootHomes, rfl, rfl, readAgain, _, _, rfl, code, kept _, _, rfl,
    @dump_again .bundled _ _ _ _ _ _ _ _ _ proper_rootHomes rfl rfl code (kept _) readAgain⟩

/-- A log file in the home directory. -/
def tildeMembers : List (String × Value) := [("log_file", .string "~")]

/-- What a run prints that is given some members and keeps to a configuration. -/
theorem run_dumpCall {given : Settings.Given} {c : Config} (readable : (Value.object given).IsReadable)
    (passed : (@validate .bundled blankHome (.object
      (put (Given.over Config.standard.members given) "version" (.string currentVersion))) false).toOption.map
        (·.config) = some c)
    (noNull : '\x00' ∉ c.logFile.toList) :
    (@run .bundled blankHome { files := filesWith given, now := noon } dumpCall).code = 0 ∧
      (@run .bundled blankHome { files := filesWith given, now := noon } dumpCall).session.shownOn
        [.output] = printValue c.toValue := by
  obtain ⟨v, isValid, rfl⟩ := Option.map_eq_some_iff.mp passed
  obtain ⟨ready, dumped⟩ := @exists_dumped_of_validate .bundled _ _ _ _ blankHome noon readable
    (show Arguments.read dumpCall = .ok (dumpOf "/p5.json") from rfl) rfl rfl rfl
    (Sketch.eq_ok_of_toOption isValid) noNull rfl
  refine ⟨?_, (@shownOn_of_dumped .bundled _ _ _ _ _ _ dumped).trans String.empty_append⟩
  rw [@run_of_dumped .bundled _ _ _ _ _ _ dumped]

/-- What is printed need not be printed again if the home directory ends in a blank: the second run goes without
it. -/
theorem not_dump_again :
    ∃ saved : FileSystem,
      let first := @run .bundled blankHome { files := filesWith tildeMembers, now := noon } dumpCall
      let second := @run .bundled blankHome { files := saved, now := noon } dumpCall
      first.code = 0 ∧
        saved.read "/p5.json" = .ok (Text.Utf8.encode (first.session.shownOn [.output])) ∧
        second.code = 0 ∧ second.session.shownOn [.output] ≠ first.session.shownOn [.output] := by
  obtain ⟨code, shown⟩ := @run_dumpCall tildeMembers (loggingTo "/home/me ")
    (.object (by decide) (List.forall_mem_singleton.mpr (.string _))) (by decide +kernel) (by decide)
  obtain ⟨code', shown'⟩ := @run_dumpCall (loggingTo "/home/me ").members (loggingTo "/home/me")
    (Config.isReadable_toValue short_zero) (by decide +kernel) (by decide)
  refine ⟨filesWith (loggingTo "/home/me ").members, code, ?_, code', ?_⟩
  · rw [shown, FileSystem.read, status_filesWith]
    rfl
  · rw [shown, shown']
    decide +kernel

end Example

end SketchSurvey.CommandLine
