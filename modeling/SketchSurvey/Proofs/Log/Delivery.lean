import SketchSurvey.Proofs.Log.History

/-! What writing a record adds to the sinks of what is in force, and what opening those sinks adds. -/

set_option autoImplicit false

namespace SketchSurvey.Log

open SketchSurvey.Files SketchSurvey.Text.Utf8

/-- A record on a line of the console. -/
def consoleLine (r : Record) : String :=
  Level.name r.level ++ " | " ++ r.logger ++ " | " ++ r.message ++ "\n"

/-- A record on a line of a log file. -/
def fileLine (now : Moment) (r : Record) : String :=
  now.write "%Y-%m-%d %H:%M:%S" ++ " | " ++ consoleLine r

/-- A setup that says nothing of how records are written. -/
structure Setup.HasStandardFormats (setup : Setup) : Prop where
  console : setup.consoleFormat = "%(levelname)s | %(name)s | %(message)s"
  file : setup.fileFormat = "%(asctime)s | %(levelname)s | %(name)s | %(message)s"
  time : setup.timeFormat = "%Y-%m-%d %H:%M:%S"

namespace InForce

/-- What a record adds to the console while a setup is in force. -/
def shown (f : InForce) (r : Record) : List (Channel × String) :=
  if f.setup.console then [(.log, consoleLine r)] else []

/-- What a record adds to the file in a place while a setup is in force. -/
def written (f : InForce) (now : Moment) (location : Location) (r : Record) : Bytes :=
  if f.file = some location then encode (fileLine now r) else []

end InForce

/-- What a setup says itself: that its log file could not be opened. -/
def Session.notices (s : Session) (setup : Setup) : List (Channel × String) :=
  match setup.path? with
  | none => []
  | some path =>
    match openForMore s.files path with
    | .ok _ => []
    | .error p => [(.log, logFileWarning path p)]

/-- Some records, written one after another, never find the log file full. -/
def Sinks.HasRoom (sinks : Sinks) : Session → List Record → Prop
  | _, [] => True
  | s, r :: rest =>
    (∀ file text, sinks.file = some file →
      file.layout.render? (s.now.write file.timeFormat) r = some text →
      file.isFull s.files (text ++ "\n") = false) ∧ sinks.HasRoom (Session.deliver sinks s r) rest

section Formats

def consoleLayout : Layout where
  pieces := some [.slot { field := .levelName }, .char ' ', .char '|', .char ' ', .slot { field := .logger },
    .char ' ', .char '|', .char ' ', .slot { field := .message }]

def fileLayout : Layout where
  pieces := some [.slot { field := .time }, .char ' ', .char '|', .char ' ', .slot { field := .levelName },
    .char ' ', .char '|', .char ' ', .slot { field := .logger }, .char ' ', .char '|', .char ' ',
    .slot { field := .message }]

theorem ofText?_console :
    Layout.ofText? "%(levelname)s | %(name)s | %(message)s" = some consoleLayout := rfl

theorem ofText?_file :
    Layout.ofText? "%(asctime)s | %(levelname)s | %(name)s | %(message)s" = some fileLayout := rfl

/-- A slot without a width shows a text as it is. -/
theorem showText_plain (field : Field) (text : String) : { field : Slot }.showText text = text := by
  have none' : "".pushn ' ' (0 - text.length) = "" := by rw [Nat.zero_sub]; rfl
  simp only [Slot.showText, Slot.fill, none']
  exact String.empty_append

theorem bar_eq : " | " = " " ++ ("|" ++ " ") := rfl

theorem render?_console (time : String) (r : Record) :
    (consoleLayout.render? time r).map (· ++ "\n") = some (consoleLine r) := by
  simp only [consoleLayout, Layout.render?, LayoutPiece.show?, Slot.show?, showText_plain, consoleLine,
    bar_eq, List.mapM_cons, List.mapM_nil, Option.pure_def, Option.bind_eq_bind, Option.bind_some,
    Option.map_some, String.join_cons, String.join_nil, String.append_assoc, String.append_empty]
  rfl

theorem render?_file (now : Moment) (r : Record) :
    (fileLayout.render? (now.write "%Y-%m-%d %H:%M:%S") r).map (· ++ "\n") = some (fileLine now r) := by
  simp only [fileLayout, Layout.render?, LayoutPiece.show?, Slot.show?, showText_plain, fileLine,
    consoleLine, bar_eq, List.mapM_cons, List.mapM_nil, Option.pure_def, Option.bind_eq_bind,
    Option.bind_some, Option.map_some, String.join_cons, String.join_nil, String.append_assoc,
    String.append_empty]
  rfl

end Formats

/-- Some sinks are those of what is in force. -/
structure Sinks.Serve (sinks : Sinks) (files : FileSystem) (f : InForce) : Prop where
  console : sinks.console = if f.setup.console then some consoleLayout else none
  noFile : f.file = none → sinks.file = none
  file : ∀ {location}, f.file = some location → ∃ file bytes, sinks.file = some file ∧
    file.layout = fileLayout ∧ file.timeFormat = "%Y-%m-%d %H:%M:%S" ∧
    asksForDirectory file.path = false ∧ files.status file.path = .ok (location, .file bytes)

section Delivery

variable {sinks : Sinks} {f : InForce}

/-- What a session gets to show and to write while it goes on to another one. -/
structure Session.Adds (s s' : Session) (shown : List (Channel × String)) (written : Location → Bytes) :
    Prop where
  shown : s'.shown = s.shown ++ shown
  written : ∀ location, s'.files.bytesAt location = s.files.bytesAt location ++ written location

theorem Session.Adds.trans {s s' s'' : Session} {shown shown' : List (Channel × String)}
    {written written' : Location → Bytes} (first : s.Adds s' shown written)
    (second : s'.Adds s'' shown' written') :
    s.Adds s'' (shown ++ shown') (fun location => written location ++ written' location) where
  shown := by rw [second.shown, first.shown, List.append_assoc]
  written location := by rw [second.written, first.written, List.append_assoc]

/-- Nothing is shown, and no file has other bytes. -/
theorem Session.Adds.nothing {s s' : Session} (shown : s'.shown = s.shown)
    (bytes : ∀ location, s'.files.bytesAt location = s.files.bytesAt location) :
    s.Adds s' [] (fun _ => []) where
  shown := by rw [shown, List.append_nil]
  written location := by rw [bytes, List.append_nil]

/-- The sinks stay as they are while files grow. -/
theorem Sinks.Serve.grow {files files' : FileSystem} (serve : sinks.Serve files f)
    (grows : files.Grows files') : sinks.Serve files' f where
  console := serve.console
  noFile := serve.noFile
  file inFile := by
    obtain ⟨file, bytes, isFile, layout, time, plain, status⟩ := serve.file inFile
    exact ⟨file, _, isFile, layout, time, plain, grows.status_file status⟩

theorem shown_toConsole (s : Session) (r : Record) {layout : Option Layout}
    (isLayout : layout = if f.setup.console then some consoleLayout else none) :
    s.toConsole layout r = { s with shown := s.shown ++ f.shown r } := by
  rw [Session.toConsole, isLayout, InForce.shown]
  cases f.setup.console with
  | false => simp
  | true =>
      obtain ⟨text, render, line⟩ := Option.map_eq_some_iff.mp (render?_console (s.now.write "") r)
      rw [if_pos rfl, if_pos rfl, Option.bind_some, render]
      simp only [line]
      rfl

/-- A line that finds room is added to the file. -/
theorem write_of_room {file : FileSink} {files : FileSystem} {location : Location} {bytes : Bytes}
    {line : String} (plain : asksForDirectory file.path = false)
    (status : files.status file.path = .ok (location, .file bytes))
    (room : file.isFull files line = false) :
    file.write files line = files.put location (.file (bytes ++ encode line)) := by
  rw [FileSink.write, room, if_neg (by decide), FileSystem.append,
    FileSystem.update_of_status plain status]
  rfl

/-- Writing a record adds its lines where they belong, and the sinks stay in place. -/
theorem deliver_spec {s : Session} {r : Record} {rest : List Record} (serve : sinks.Serve s.files f)
    (heavy : sinks.level ≤ r.level) (room : sinks.HasRoom s (r :: rest)) :
    s.Adds (Session.deliver sinks s r) (f.shown r) (f.written s.now · r) ∧
      sinks.Serve (Session.deliver sinks s r).files f := by
  rw [Session.deliver, if_neg (by omega), shown_toConsole s r serve.console]
  cases place : f.file with
  | none =>
      rw [serve.noFile place]
      refine ⟨⟨rfl, fun location => ?_⟩, serve⟩
      simp [Session.toFile, InForce.written, place]
  | some own =>
      obtain ⟨file, bytes, isFile, layout, time, plain, status⟩ := serve.file place
      obtain ⟨text, render, line⟩ := Option.map_eq_some_iff.mp (render?_file s.now r)
      rw [← layout, ← time] at render
      have roomy := room.1 file text isFile render
      rw [line] at roomy
      have isOpen := FileSystem.isOpen_of_status status
      have before := FileSystem.bytesAt_of_status status
      rw [isFile, Session.toFile]
      simp only [render, line, write_of_room plain status roomy]
      refine ⟨⟨rfl, fun location => ?_⟩, serve.grow (isOpen.growsByFiles _).toGrows⟩
      simp only [FileSystem.bytesAt_put_file isOpen.1, InForce.written, place, Option.some.injEq]
      by_cases same : location = own
      · subst same
        simp [before]
      · simp [same, Ne.symm same]

theorem deliverAll_spec {s : Session} {records : List Record} (serve : sinks.Serve s.files f)
    (heavy : ∀ r ∈ records, sinks.level ≤ r.level) (room : sinks.HasRoom s records) :
    s.Adds (records.foldl (Session.deliver sinks) s) (records.flatMap f.shown)
        (fun location => records.flatMap (f.written s.now location)) ∧
      sinks.Serve (records.foldl (Session.deliver sinks) s).files f := by
  induction records generalizing s with
  | nil => exact ⟨.nothing rfl fun _ => rfl, serve⟩
  | cons r rest ih =>
      obtain ⟨adds, serve'⟩ := deliver_spec serve (heavy r List.mem_cons_self) room
      obtain ⟨adds', serve''⟩ := ih serve' (fun r' inRest => heavy r' (List.mem_cons_of_mem r inRest)) room.2
      rw [(s.writes_deliver sinks r).now] at adds'
      exact ⟨adds.trans adds', serve''⟩

/-- Where records go depends on the files and the time alone. -/
theorem files_deliver {s t : Session} (files : s.files = t.files) (now : s.now = t.now) (r : Record) :
    (Session.deliver sinks s r).files = (Session.deliver sinks t r).files := by
  have toConsole (u : Session) : (u.toConsole sinks.console r).files = u.files := by
    unfold Session.toConsole
    split <;> rfl
  unfold Session.deliver
  split
  · exact files
  · unfold Session.toFile
    rw [(s.writes_toConsole sinks.console r).now, (t.writes_toConsole sinks.console r).now, toConsole,
      toConsole, files, now]
    split
    · rw [toConsole, toConsole, files]
    · split
      · rfl
      · rw [toConsole, toConsole, files]

theorem hasRoom_congr {s t : Session} (files : s.files = t.files) (now : s.now = t.now)
    {records : List Record} (room : sinks.HasRoom s records) : sinks.HasRoom t records := by
  induction records generalizing s t with
  | nil => trivial
  | cons r rest ih =>
      refine ⟨?_, ih (files_deliver files now r) ?_ room.2⟩
      · rw [← files, ← now]
        exact room.1
      · rw [(s.writes_deliver sinks r).now, (t.writes_deliver sinks r).now, now]

end Delivery

section Opening

variable {s t : Session} {setup : Setup} {sinks : Sinks}

/-- A log file that opens is made if there is none; nothing else is new but the directories above it. -/
theorem extends_openForMore {files files' : FileSystem} {path : String}
    (opened : openForMore files path = .ok files') :
    files.Extends files' ∧ asksForDirectory (Path.absolute files.workingPath path) = false ∧
      ∃ location bytes, files'.status (Path.absolute files.workingPath path) =
        .ok (location, .file bytes) := by
  unfold openForMore at opened
  dsimp only at opened
  have made := files.extends_makeDirectories (Path.parent (Path.absolute files.workingPath path))
  generalize files.makeDirectories (Path.parent (Path.absolute files.workingPath path)) = outcome
    at opened made
  obtain ⟨middle, result⟩ := outcome
  cases result with
  | error p => cases opened
  | ok =>
      dsimp only [Except.bind] at opened made
      obtain ⟨plain, location, -, -, status⟩ := FileSystem.update_spec opened
      exact ⟨made.trans (FileSystem.extends_of_append_nil opened), plain, location, _, status⟩

/-- Opening the sinks changes no bytes; what is shown is the notice that the log file could not be opened. -/
theorem adds_openFile {layout : Layout} {path : String} {file : Option FileSink}
    (isPath : setup.path? = some path) (opened : s.openFile setup layout path = (t, .ok file)) :
    s.Adds t (s.notices setup) (fun _ => []) := by
  rw [Session.notices, isPath]
  dsimp only
  cases done : openForMore s.files path with
  | ok files =>
      rw [openFile_of_ok done, Prod.mk.injEq] at opened
      rw [← opened.1]
      exact .nothing rfl (extends_openForMore done).1.bytes
  | error p =>
      have made := s.files.extends_makeDirectories (Path.parent (Path.absolute s.files.workingPath path))
      rw [openFile_of_error done] at opened
      dsimp only at opened
      generalize (s.files.makeDirectories (Path.parent (Path.absolute s.files.workingPath path))).1 = files
        at made opened
      split at opened
      · rw [Prod.mk.injEq] at opened
        rw [← opened.1]
        refine ⟨rfl, fun location => ?_⟩
        rw [List.append_nil]
        exact made.bytes location
      · simp at opened

theorem adds_openSinks (opened : s.openSinks setup = (t, .ok sinks)) :
    s.Adds t (s.notices setup) (fun _ => []) := by
  unfold Session.openSinks at opened
  dsimp only at opened
  split at opened
  · cases opened
  · next unwanted =>
      have none' : setup.path? = none := unwanted
      simp only [Prod.mk.injEq] at opened
      rw [← opened.1, Session.notices, none']
      exact .nothing rfl fun _ => rfl
  · next path read wants =>
      split at opened
      · cases opened
      · split at opened
        · next file found =>
            simp only [Prod.mk.injEq] at opened
            rw [← opened.1]
            exact adds_openFile wants found
        · cases opened

/-- Where the log file opens, the files are as opening it leaves them. -/
theorem openForMore_of_openSinks {path : String} (isPath : setup.path? = some path)
    (opens : s.opens setup = true) (opened : s.openSinks setup = (t, .ok sinks)) :
    openForMore s.files path = .ok t.files := by
  rw [Session.opens, isPath, Option.any_some] at opens
  unfold Session.openSinks at opened
  dsimp only at opened
  split at opened
  · cases opened
  · next unwanted =>
      have none' : setup.path? = none := unwanted
      rw [none'] at isPath
      cases isPath
  · next path' read wants =>
      have same : setup.path? = some path' := wants
      obtain rfl := Option.some.inj (isPath.symm.trans same)
      split at opened
      · cases opened
      · cases done : openForMore s.files path with
        | error p =>
            rw [done] at opens
            cases opens
        | ok files =>
            rw [openFile_of_ok done] at opened
            simp only [Prod.mk.injEq] at opened
            rw [← opened.1]

/-- The sinks that are opened are those of what is in force from then on. -/
theorem serve_openSinks (standard : setup.HasStandardFormats)
    (opened : s.openSinks setup = (t, .ok sinks)) :
    sinks.Serve t.files
      { setup, file := if s.opens setup then t.logFilePlace setup else none } := by
  have isSinks := (sinks_of_openSinks opened).1
  have working : t.files.workingPath = s.files.workingPath := by
    have keeps := (s.writes_openSinks setup).working
    rw [opened] at keeps
    rw [FileSystem.workingPath, keeps, FileSystem.workingPath]
  have console : sinks.console = if setup.console then some consoleLayout else none := by
    rw [isSinks, Setup.sinks, standard.console, ofText?_console]
  cases opens : s.opens setup with
  | false =>
      rw [opens] at isSinks
      exact ⟨console, fun _ => by rw [isSinks]; rfl, by simp⟩
  | true =>
      obtain ⟨path, isPath⟩ : ∃ path, setup.path? = some path := by
        rw [Session.opens, Option.any_eq_true] at opens
        exact opens.imp fun _ => And.left
      obtain ⟨-, plain, own, bytes, status⟩ :=
        extends_openForMore (openForMore_of_openSinks isPath opens opened)
      have place : t.logFilePlace setup = some own := by
        rw [Session.logFilePlace, isPath, working]
        simp only [Option.bind_eq_bind, Option.bind_some, status]
      have file : sinks.file = some (setup.fileSink s.files.workingPath fileLayout path) := by
        rw [isSinks, Setup.sinks, opens, isPath, standard.file, ofText?_file]
        rfl
      rw [if_pos rfl, place]
      refine ⟨console, by simp, fun inFile => ?_⟩
      cases inFile
      refine ⟨_, bytes, file, rfl, standard.time, ?_, ?_⟩
      · simpa only [Setup.fileSink] using plain
      · simpa only [Setup.fileSink] using status

/-- The formats of a setup can be read, where it has a use for them. -/
structure Setup.HasReadableFormats (setup : Setup) : Prop where
  console : setup.console = true → (Layout.ofText? setup.consoleFormat).isSome = true
  file : setup.path?.isSome = true → (Layout.ofText? setup.fileFormat).isSome = true

theorem Setup.HasStandardFormats.readable (standard : setup.HasStandardFormats) :
    setup.HasReadableFormats where
  console _ := by rw [standard.console, ofText?_console]; rfl
  file _ := by rw [standard.file, ofText?_file]; rfl

/-- Where its format can be read the console gets what it wants. -/
theorem exists_console (readable : setup.HasReadableFormats) :
    (if setup.console then
      match Layout.ofText? setup.consoleFormat with
      | some l => .ok (some l)
      | none => .error (SetupProblem.layout setup.consoleFormat)
      else .ok none : Except SetupProblem (Option Layout)) =
      .ok (if setup.console then Layout.ofText? setup.consoleFormat else none) := by
  cases wanted : setup.console with
  | false => rfl
  | true =>
      obtain ⟨layout, isLayout⟩ := Option.isSome_iff_exists.mp (readable.console wanted)
      rw [isLayout]
      rfl

theorem openSinks_of_none {opening : Session.Opening} (readable : setup.HasReadableFormats)
    (unwanted : setup.path? = none) :
    s.openSinks setup opening = (s, .ok (setup.sinks s.files.workingPath false)) := by
  unfold Session.openSinks
  dsimp only
  split
  · next failed => cases (exists_console readable).symm.trans failed
  · next read _ =>
      obtain rfl := Except.ok.inj ((exists_console readable).symm.trans read)
      rfl
  · next wants => cases unwanted.symm.trans wants

/-- What opening the log file gives is what opening the sinks gives. -/
theorem openSinks_of_some {opening : Session.Opening} (readable : setup.HasReadableFormats) {path : String}
    (isPath : setup.path? = some path) : ∃ layout, s.openSinks setup opening =
      match s.openFile setup layout path opening with
      | (t, .ok file) => (t, .ok {
          level := Level.ofName setup.level
          console := if setup.console then Layout.ofText? setup.consoleFormat else none
          file })
      | (t, .error p) => (t, .error p) := by
  obtain ⟨layout, isLayout⟩ := Option.isSome_iff_exists.mp (readable.file (by rw [isPath]; rfl))
  refine ⟨layout, ?_⟩
  unfold Session.openSinks
  dsimp only
  split
  · next failed => cases (exists_console readable).symm.trans failed
  · next unwanted => cases isPath.symm.trans unwanted
  · next read wants =>
      obtain rfl := Except.ok.inj ((exists_console readable).symm.trans read)
      obtain rfl := Option.some.inj (isPath.symm.trans wants)
      rcases opened : s.openFile setup layout path opening with ⟨t, file | p⟩ <;>
        simp only [isLayout, opened]

/-- A setup that is not passed over opens its sinks. -/
theorem configure_of_acts {opening : Session.Opening} {force : Bool}
    (acts : force = true ∨ s.logging.configured = false) :
    s.configure setup force opening =
      match (s.readyFor setup).openSinks setup opening with
      | (t, .ok sinks) => (t.attach sinks, .ok ())
      | (t, .error p) => (t, .error p) := by
  have passed : ¬ (s.logging.configured && !force) = true := by
    rcases acts with rfl | down <;> simp_all
  rewrite [Session.configure, if_neg passed]
  rfl

/-- A setup with formats that can be read returns where nothing but the system keeps its log file from being
opened. -/
theorem configure_returns_of_readable {opening : Session.Opening} (s : Session)
    (readable : setup.HasReadableFormats) (force : Bool)
    (openable : ∀ path p, setup.path? = some path →
      (opening (s.readyFor setup).files (Path.absolute (s.readyFor setup).files.workingPath path)).2 =
        .error p → p.isOfSystem = true) :
    (s.configure setup force opening).2 = .ok () := by
  by_cases acts : force = true ∨ s.logging.configured = false
  · obtain ⟨t, sinks, opened⟩ :
        ∃ t sinks, (s.readyFor setup).openSinks setup opening = (t, .ok sinks) := by
      cases wants : setup.path? with
      | none => exact ⟨_, _, openSinks_of_none readable wants⟩
      | some path =>
          obtain ⟨layout, opened⟩ := openSinks_of_some (s := s.readyFor setup) readable wants
          rw [opened]
          have ofSystem := openable path
          rcases done : opening (s.readyFor setup).files
            (Path.absolute (s.readyFor setup).files.workingPath path) with ⟨files, p | _⟩
          · rw [done] at ofSystem
            rw [openFile_of_unopened done, if_pos (ofSystem p wants rfl)]
            exact ⟨_, _, rfl⟩
          · rw [openFile_of_opened done]
            exact ⟨_, _, rfl⟩
    rw [configure_of_acts acts, opened]
  · rw [not_or, Bool.not_eq_true, Bool.not_eq_false] at acts
    obtain ⟨rfl, configured⟩ := acts
    rw [Session.configure, configured]
    rfl

/-- A file opens, or the system has a reason not to open it. -/
def IsOpenable (fs : FileSystem) (path : String) : Prop :=
  ∀ p, openForMore fs path = .error p → p.isOfSystem = true

theorem configure_returns (s : Session) (standard : setup.HasStandardFormats) (force : Bool)
    (openable : ∀ path, setup.path? = some path → IsOpenable (s.readyFor setup).files path) :
    s.configure setup force = ((s.configure setup force).1, .ok ()) := by
  refine Prod.ext rfl (configure_returns_of_readable s standard.readable force fun path p wants failed => ?_)
  cases done : openForMore (s.readyFor setup).files path with
  | ok files =>
      rw [openForLines_of_ok done] at failed
      cases failed
  | error p' =>
      rw [openForLines_of_error done] at failed
      cases failed
      exact openable path wants p done

end Opening

end SketchSurvey.Log
