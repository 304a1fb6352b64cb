import SketchSurvey.Proofs.Files.AbsolutePath
import SketchSurvey.Proofs.Log.Reopening

/-! Setting up logging when something is in the way of the log file: it is reported once, and what is left
is what the setup leads to without a log file. Only a null in the path, or a path that the system has no code
for, is no mere obstacle. -/

set_option autoImplicit false

namespace SketchSurvey.Log

open SketchSurvey.Files

/-- A setup that wants all the same but a log file. -/
def Setup.withoutFile (setup : Setup) : Setup := { setup with logFile := none }

section Unopened

variable {s t : Session} {setup : Setup} {path : String} {p : Problem} {opening : Session.Opening}

theorem Setup.HasReadableFormats.withoutFile (readable : setup.HasReadableFormats) :
    setup.withoutFile.HasReadableFormats where
  console := readable.console
  file := nofun

theorem workingPath_readyFor (s : Session) (setup : Setup) :
    (s.readyFor setup).files.workingPath = s.files.workingPath := by
  have keeps := (s.keeps_reset (Level.ofName setup.level)).working
  rw [FileSystem.workingPath, Session.readyFor, keeps, FileSystem.workingPath]

theorem Setup.sinks_withoutFile (setup : Setup) (working : String) :
    setup.withoutFile.sinks working false = setup.sinks working false := by
  rw [Setup.sinks, Setup.sinks, Setup.withoutFile]
  dsimp only
  rfl

/-- Without a log file there is the console or nothing. -/
theorem Setup.logging_withoutFile (setup : Setup) (working : String) (others : List Handler) :
    setup.withoutFile.logging working false others =
      { level := Level.ofName setup.level
        configured := true
        handlers := if setup.console then others ++ [.queue] else others
        listener := if setup.console then
            some { sinks := {
              level := Level.ofName setup.level
              console := Layout.ofText? setup.consoleFormat } }
          else none } := by
  obtain ⟨level, console, logFile⟩ := setup
  rw [Setup.withoutFile, Setup.logging, Setup.sinks]
  dsimp only
  generalize Level.ofName level = level
  cases console <;> rfl

/-- What sinks are attached does not depend on the files, nor on what was shown. -/
theorem attach_say_withFiles (s : Session) (files : FileSystem) (channel : Channel) (text : String)
    (sinks : Sinks) : (({ s with files } : Session).say channel text).attach sinks =
      { s.attach sinks with files, shown := (s.attach sinks).shown ++ [(channel, text)] } := by
  unfold Session.attach
  split <;> rfl

/-- A log file that does not open leaves the sinks of a setup without one, what opening it left, and a
warning. -/
theorem openSinks_of_unopened {files : FileSystem} (readable : setup.HasReadableFormats)
    (isPath : setup.path? = some path)
    (failed : opening s.files (Path.absolute s.files.workingPath path) = (files, .error p))
    (ofSystem : p.isOfSystem = true) :
    ∃ sinks, s.openSinks setup.withoutFile = (s, .ok sinks) ∧
      s.openSinks setup opening =
        (({ s with files } : Session).say .log (Session.logFileWarning path p), .ok sinks) := by
  obtain ⟨layout, opened⟩ := openSinks_of_some (s := s) readable isPath
  rw [openFile_of_unopened failed, if_pos ofSystem] at opened
  have without : s.openSinks setup.withoutFile = (s, .ok (setup.withoutFile.sinks s.files.workingPath false)) :=
    openSinks_of_none readable.withoutFile rfl
  rw [setup.sinks_withoutFile] at without
  exact ⟨_, without, opened⟩

/-- What keeps an attempt from reaching the system is not passed over. -/
theorem configure_of_unable {force : Bool} {files : FileSystem} (readable : setup.HasReadableFormats)
    (acts : force = true ∨ s.logging.configured = false) (isPath : setup.path? = some path)
    (failed : opening (s.readyFor setup).files (Path.absolute (s.readyFor setup).files.workingPath path) =
      (files, .error p)) (unable : p.isOfSystem = false) :
    (s.configure setup force opening).2 = .error (.file p) := by
  obtain ⟨layout, opened⟩ := openSinks_of_some (s := s.readyFor setup) readable isPath
  rw [openFile_of_unopened failed, if_neg (Bool.not_eq_true _ ▸ unable)] at opened
  rw [configure_of_acts acts, opened]

/-- What a way of opening files promises: it leaves what there is, and the attempt reaches the system, unless
there is a null in the path, or the path has a character that the system has no code for. -/
structure IsProper (encodes : String → Prop) (opening : Session.Opening) : Prop where
  leaves : ∀ (fs : FileSystem) (path : String), fs.Extends (opening fs path).1
  null : ∀ {fs path}, (opening fs path).2 = .error .nullInPath → '\x00' ∈ path.toList
  unencodable : ∀ {fs path reason}, (opening fs path).2 = .error (.unencodable reason) → ¬ encodes path

/-- It is the system that does not open a file with such a path. -/
theorem IsProper.ofSystem {encodes : String → Prop} (proper : IsProper encodes opening) {fs : FileSystem}
    (noNull : '\x00' ∉ path.toList) (encoded : encodes path) (failed : (opening fs path).2 = .error p) :
    p.isOfSystem = true := by
  cases p with
  | failed cause path => rfl
  | notLinked cause target path => rfl
  | nullInPath => exact absurd (proper.null failed) noNull
  | unencodable reason => exact absurd encoded (proper.unencodable failed)

theorem isProper_openForLines : IsProper (fun _ => True) Session.openForLines where
  leaves fs path := by
    have made := fs.extends_makeDirectories (Path.parent path)
    unfold Session.openForLines
    generalize fs.makeDirectories (Path.parent path) = outcome at made
    obtain ⟨middle, result⟩ := outcome
    cases result with
    | error p => exact made
    | ok =>
        dsimp only [Except.bind]
        split
        · next opened => exact made.trans (FileSystem.extends_of_append_nil opened)
        · exact made
  null failed := (null_of_openForLines failed rfl).2
  unencodable failed := nomatch (null_of_openForLines failed rfl).1

/-- A path has no null in it if neither it nor the working directory has one. -/
theorem not_mem_absolute {working : String} (inWorking : '\x00' ∉ working.toList)
    (inPath : '\x00' ∉ path.toList) : '\x00' ∉ (Path.absolute working path).toList := by
  intro null
  rcases Path.mem_absolute null with inside | own | slash | dot
  · exact inWorking inside
  · exact inPath own
  · exact absurd slash (by decide)
  · exact absurd dot (by decide)

/-- Setting up logging returns, whatever is in the way of the log file and however files are opened, if the
path has no null and can be encoded. If the file does not open, that is told in one warning; all else is as
it were without a log file, but for what the attempt made, such as directories above the file. -/
theorem configure_despite_file {encodes : String → Prop} (proper : IsProper encodes opening) (s : Session)
    (force : Bool) (readable : setup.HasReadableFormats) (inWorking : '\x00' ∉ s.files.workingPath.toList)
    (inPath : ∀ path, setup.path? = some path →
      '\x00' ∉ path.toList ∧ encodes (Path.absolute s.files.workingPath path)) :
    (s.configure setup force opening).2 = .ok () ∧
    ∀ path files p, setup.path? = some path →
      opening (s.readyFor setup).files (Path.absolute s.files.workingPath path) = (files, .error p) →
      force = true ∨ s.logging.configured = false →
      ∃ plain, s.configure setup.withoutFile force = (plain, .ok ()) ∧
        plain.logging =
          { level := Level.ofName setup.level
            configured := true
            handlers := if setup.console then s.logging.others ++ [.queue] else s.logging.others
            listener := if setup.console then
                some { sinks := {
                  level := Level.ofName setup.level
                  console := Layout.ofText? setup.consoleFormat } }
              else none } ∧
        plain.files.Extends files ∧
        s.configure setup force opening =
          ({ plain with files, shown := plain.shown ++ [(.log, Session.logFileWarning path p)] }, .ok ()) := by
  have same := workingPath_readyFor s setup
  have ofSystem (path : String) (p : Problem) (isPath : setup.path? = some path)
      (failed : (opening (s.readyFor setup).files (Path.absolute s.files.workingPath path)).2 = .error p) :
      p.isOfSystem = true :=
    proper.ofSystem (not_mem_absolute inWorking (inPath path isPath).1) (inPath path isPath).2 failed
  refine ⟨configure_returns_of_readable s readable force (by rwa [same]), ?_⟩
  intro path files p isPath failed acts
  have refused := ofSystem path p isPath (by rw [failed])
  have leaves := proper.leaves (s.readyFor setup).files (Path.absolute s.files.workingPath path)
  rw [failed] at leaves
  obtain ⟨sinks, without, opened⟩ := openSinks_of_unopened readable isPath (same ▸ failed) refused
  have plain : s.configure setup.withoutFile force = ((s.readyFor setup).attach sinks, .ok ()) := by
    rw [configure_of_acts acts, show s.readyFor setup.withoutFile = s.readyFor setup from rfl, without]
  refine ⟨_, plain, ?_, ?_, ?_⟩
  · have logging := logging_of_configure acts plain
    have closed : (s.readyFor setup.withoutFile).opens setup.withoutFile = false := rfl
    rw [logging, closed, Setup.logging_withoutFile]
  · rw [Session.files_attach]
    exact leaves
  · rw [configure_of_acts acts, opened]
    dsimp only
    rw [attach_say_withFiles]

end Unopened

/-- A file stands where the directory of the log file would be. -/
def blockedSession : Session where
  files := { nodes := [(["logs"], .file [])] }
  now := { year := 2024, month := 5, day := 6, hour := 7, minute := 8, second := 9 }

theorem openForMore_blockedSession :
    openForMore blockedSession.files "logs/a.log" = .error (.failed .alreadyExists "/logs") := by
  have full : Path.absolute blockedSession.files.workingPath "logs/a.log" = "/logs/a.log" := by rfl
  have walked (followLast : Bool) : blockedSession.files.walk followLast maxLinks [] (names "/logs") =
      .ok (.present ["logs"] (.file [])) := by
    rw [show names "/logs" = ["logs"] by rfl]
    exact (FileSystem.walk_file (by decide) (by decide) (by decide) rfl).trans (if_pos rfl)
  have located (followLast : Bool) : blockedSession.files.locate followLast "/logs" =
      .ok (.present ["logs"] (.file [])) := by
    rw [FileSystem.locate_eq_ok_iff]
    exact ⟨by decide, by decide, by decide, walked followLast⟩
  have notAbove : blockedSession.files.lacksAbove "/logs" = false := by
    have root := FileSystem.pathExists_of_isDirectory
      (FileSystem.isDirectory_start blockedSession.files (.inl rfl))
    rw [FileSystem.lacksAbove, show FileSystem.aboveAndName "/logs" = ("/", "logs") by rfl]
    dsimp only
    rw [root]
    rfl
  have stops : blockedSession.files.makeDirectory "/logs" = .error (.failed .alreadyExists "/logs") := by
    have there : blockedSession.files.locateNew "/logs" = .ok (.present ["logs"] (.file [])) := by
      unfold FileSystem.locateNew
      rw [show String.ofList (Path.dropSlashes "/logs".toList) = "/logs" by rfl]
      dsimp only
      rw [if_neg (by decide), located]
    rw [FileSystem.makeDirectory, there]
  have made : (blockedSession.files.makeDirectories "/logs").2 = .error (.failed .alreadyExists "/logs") := by
    have noDirectory : blockedSession.files.isDirectory "/logs" = false := by
      rw [FileSystem.isDirectory, FileSystem.status, located]
    rw [FileSystem.makeDirectories, FileSystem.makeDirectoriesWithin, notAbove, if_neg Bool.false_ne_true,
      FileSystem.ensureDirectory_of_error stops, noDirectory]
    rfl
  unfold openForMore
  rw [full]
  dsimp only
  rw [show Path.parent "/logs/a.log" = "/logs" by rfl, made]
  rfl

theorem configure_despite_file_blockedSession :
    ({ logFile := some "logs/a.log" } : Setup).HasReadableFormats ∧
      '\x00' ∉ blockedSession.files.workingPath.toList ∧ '\x00' ∉ "logs/a.log".toList ∧
      ∃ files, blockedSession.configure { logFile := some "logs/a.log" } =
        ({ (blockedSession.configure {}).1 with
            files
            shown := [(.log,
              "WARNING: cannot open log file 'logs/a.log': [Errno 17] File exists: '/logs'\n")] },
          .ok ()) := by
  have readable : ({ logFile := some "logs/a.log" } : Setup).HasReadableFormats :=
    Setup.HasStandardFormats.readable ⟨rfl, rfl, rfl⟩
  have inWorking : '\x00' ∉ blockedSession.files.workingPath.toList := by decide
  have inPath : '\x00' ∉ "logs/a.log".toList := by decide
  obtain ⟨-, without⟩ := configure_despite_file isProper_openForLines blockedSession false readable
    inWorking (by
      rintro path isPath
      obtain rfl := Option.some.inj isPath
      exact ⟨inPath, trivial⟩)
  have unopened := openForLines_of_error openForMore_blockedSession
  generalize (blockedSession.files.makeDirectories _).1 = files at unopened
  obtain ⟨plain, isPlain, -, -, both⟩ := without "logs/a.log" files _ rfl unopened (.inr rfl)
  have same : blockedSession.configure {} = (plain, .ok ()) := isPlain
  refine ⟨readable, inWorking, inPath, files, ?_⟩
  rw [both, same]
  have shown : plain.shown = [] := by
    rw [← (Prod.mk.inj same).1]
    rfl
  rw [shown]
  rfl

/-- A null in the path of the log file keeps logging from being set up. -/
theorem not_configure_null : ¬ ∀ (s : Session) (path : String) (console : Bool) (maxBytes backupCount : Int),
    (s.configure { logFile := some path, console, maxBytes, backupCount }).2 = .ok () := by
  intro returns
  have failed : openForMore hosted.files "a\x00b" = .error .nullInPath := by
    have made := makeDirectories_start hosted.files (.inl rfl)
    unfold openForMore
    rw [show Path.absolute hosted.files.workingPath "a\x00b" = "/a\x00b" by rfl]
    dsimp only
    rw [show Path.parent "/a\x00b" = "/" by rfl, made]
    exact append_of_null (by decide) (by decide)
  have unset : (hosted.configure { logFile := some "a\x00b" }).2 = .error (.file .nullInPath) :=
    configure_of_unable (Setup.HasStandardFormats.readable ⟨rfl, rfl, rfl⟩) (.inr rfl) rfl
      (openForLines_of_error failed) rfl
  cases unset.symm.trans (returns hosted "a\x00b" true 1048576 2)

end SketchSurvey.Log
