import SketchSurvey.Log.Session
import SketchSurvey.Proofs.Files.Growth

/-! What the operations on a session leave as it is. Writing records and opening files does not touch the
set-up of logging; and nothing that logging does turns the clock, moves the working directory or prints. -/

set_option autoImplicit false

namespace SketchSurvey.Files

theorem FileSystem.working_of_update {fs fs' : FileSystem} {path : String}
    {change : Text.Utf8.Bytes → Text.Utf8.Bytes} (updated : fs.update path change = .ok fs') :
    fs'.working = fs.working := by
  obtain ⟨-, location, -, rfl, -⟩ := update_spec updated
  exact working_put ..

theorem FileSystem.working_of_rename {fs fs' : FileSystem} {old new : String}
    (renamed : fs.rename old new = .ok fs') : fs'.working = fs.working := by
  unfold FileSystem.rename at renamed
  split at renamed
  · cases renamed
    split
    · exact working_put ..
    · exact working_put ..
  · cases renamed
    exact working_put ..
  · cases renamed
  · cases renamed
  · cases renamed

end SketchSurvey.Files

namespace SketchSurvey.Log

open SketchSurvey.Files

namespace FileSink

/-- What an operation that may fail gives, or what was there before. -/
theorem working_getD {fs : FileSystem} {done : Except Problem FileSystem}
    (keeps : ∀ fs', done = .ok fs' → fs'.working = fs.working) :
    (done.toOption.getD fs).working = fs.working := by
  cases done with
  | error p => rfl
  | ok fs' => exact keeps fs' rfl

@[simp] theorem working_shift (fs : FileSystem) (old new : String) :
    (shift fs old new).working = fs.working := by
  unfold shift
  split
  · exact working_getD fun fs' renamed => FileSystem.working_of_rename renamed
  · rfl

@[simp] theorem working_shiftBackups (f : FileSink) (fs : FileSystem) (n : Nat) :
    (f.shiftBackups fs n).working = fs.working := by
  induction n generalizing fs with
  | zero => rfl
  | succ n ih => rw [shiftBackups, ih, working_shift]

@[simp] theorem working_rollOver (f : FileSink) (fs : FileSystem) :
    (f.rollOver fs).working = fs.working := by
  unfold rollOver
  dsimp only
  refine (working_getD fun fs' appended => FileSystem.working_of_update appended).trans ?_
  split
  · rw [working_shift, working_shiftBackups]
  · rfl

@[simp] theorem working_write (f : FileSink) (fs : FileSystem) (line : String) :
    (f.write fs line).working = fs.working := by
  unfold write
  dsimp only
  refine (working_getD fun fs' appended => FileSystem.working_of_update appended).trans ?_
  split
  · exact working_rollOver ..
  · rfl

end FileSink

/-- The handlers that were attached by others. -/
def Logging.others (l : Logging) : List Handler := l.handlers.filter (· != .queue)

namespace Session

/-- A session goes on from another one with the same clock and working directory, and nothing is printed. -/
structure Keeps (s s' : Session) : Prop where
  now : s'.now = s.now
  working : s'.files.working = s.files.working
  output : s'.shownOn [.output] = s.shownOn [.output]

/-- The set-up of logging stays too: there is only writing. -/
structure Writes (s s' : Session) : Prop extends Keeps s s' where
  logging : s'.logging = s.logging

theorem Keeps.trans {s s' s'' : Session} (first : Keeps s s') (second : Keeps s' s'') : Keeps s s'' where
  now := second.now.trans first.now
  working := second.working.trans first.working
  output := second.output.trans first.output

theorem Writes.refl (s : Session) : Writes s s := ⟨⟨rfl, rfl, rfl⟩, rfl⟩

theorem Writes.trans {s s' s'' : Session} (first : Writes s s') (second : Writes s' s'') :
    Writes s s'' :=
  ⟨first.toKeeps.trans second.toKeeps, second.logging.trans first.logging⟩

variable (s : Session)

theorem shownOn_say (channel : Channel) (text : String) (channels : List Channel) :
    (s.say channel text).shownOn channels =
      s.shownOn channels ++ if channel ∈ channels then text else "" := by
  unfold shownOn say
  by_cases known : channel ∈ channels <;>
    simp [List.filter_append, String.join_append, known]

/-- Changes of the set-up alone. -/
theorem keeps_setUp (logging : Logging) : Keeps s { s with logging } := ⟨rfl, rfl, rfl⟩

theorem writes_say {channel : Channel} (unprinted : channel ≠ .output) (text : String) :
    Writes s (s.say channel text) where
  now := rfl
  working := rfl
  output := by
    rw [shownOn_say, if_neg (by simpa using unprinted), String.append_empty]
  logging := rfl

theorem writes_files {files : FileSystem} (stays : files.working = s.files.working) :
    Writes s { s with files } := ⟨⟨rfl, stays, rfl⟩, rfl⟩

theorem writes_toConsole (layout : Option Layout) (r : Record) : Writes s (s.toConsole layout r) := by
  unfold toConsole
  split
  · exact s.writes_say (by decide) _
  · exact .refl s

theorem writes_toFile (file : Option FileSink) (r : Record) : Writes s (s.toFile file r) := by
  unfold toFile
  split
  · exact .refl s
  · split
    · exact s.writes_files (FileSink.working_write ..)
    · exact .refl s

theorem writes_deliver (sinks : Sinks) (r : Record) : Writes s (deliver sinks s r) := by
  unfold deliver
  split
  · exact .refl s
  · exact (s.writes_toConsole ..).trans (writes_toFile ..)

theorem writes_deliverAll (sinks : Sinks) (records : List Record) :
    Writes s (records.foldl (deliver sinks) s) := by
  induction records generalizing s with
  | nil => exact .refl s
  | cons r rest ih => exact (s.writes_deliver sinks r).trans (ih _)

theorem working_openForLines (fs : FileSystem) (path : String) :
    (openForLines fs path).1.working = fs.working := by
  unfold openForLines
  have made := (FileSystem.extends_makeDirectories fs (Path.parent path)).working
  generalize fs.makeDirectories (Path.parent path) = outcome at made ⊢
  obtain ⟨files, result⟩ := outcome
  dsimp only at made ⊢
  cases result with
  | error p => exact made
  | ok =>
      dsimp only [Except.bind]
      split
      · next opened => exact (FileSystem.working_of_update opened).trans made
      · exact made

theorem writes_openFile (setup : Setup) (layout : Layout) (path : String) :
    Writes s (s.openFile setup layout path).1 := by
  unfold openFile
  dsimp only
  have stays := working_openForLines s.files (Path.absolute s.files.workingPath path)
  split
  · exact s.writes_files stays
  · split
    · exact (s.writes_files stays).trans (writes_say _ (by decide) _)
    · exact s.writes_files stays

theorem writes_openSinks (setup : Setup) : Writes s (s.openSinks setup).1 := by
  unfold openSinks
  dsimp only
  split
  · exact .refl s
  · exact .refl s
  · split
    · exact .refl s
    · next layout _ =>
        have opened := s.writes_openFile setup layout
        split
        · next result => exact congrArg Prod.fst result ▸ opened _
        · next result => exact congrArg Prod.fst result ▸ opened _

/-- What ends the listening writes the records that wait. -/
theorem keeps_stopListening : Keeps s s.stopListening := by
  unfold stopListening
  split
  · exact (Writes.refl s).toKeeps
  · exact (s.writes_deliverAll ..).toKeeps.trans (keeps_setUp ..)

theorem logging_stopListening : s.stopListening.logging = { s.logging with listener := none } := by
  unfold stopListening
  split
  · next gone => rw [← gone]
  · next l _ => simp only [(s.writes_deliverAll l.sinks l.pending).logging]

theorem keeps_detach : Keeps s s.detach := keeps_setUp ..

theorem logging_reset (level : Int) : (s.reset level).logging =
    { s.logging with level, handlers := s.logging.others, listener := none } := by
  rw [reset, logging_stopListening]
  rfl

theorem keeps_reset (level : Int) : Keeps s (s.reset level) :=
  (s.keeps_setUp _).trans ((keeps_detach _).trans (keeps_stopListening _))

theorem logging_shutdown : s.shutdown.logging =
    { s.logging with configured := false, handlers := s.logging.others, listener := none } := by
  simp only [shutdown, detach, logging_stopListening, Logging.others]

theorem keeps_shutdown : Keeps s s.shutdown :=
  s.keeps_stopListening.trans ((keeps_detach _).trans (keeps_setUp ..))

theorem keeps_attach (sinks : Sinks) : Keeps s (s.attach sinks) := by
  unfold attach
  split <;> exact keeps_setUp ..

theorem files_attach (sinks : Sinks) : (s.attach sinks).files = s.files := by
  unfold attach
  split <;> rfl

theorem keeps_configure (setup : Setup) (force : Bool) : Keeps s (s.configure setup force).1 := by
  unfold configure
  split
  · exact (Writes.refl s).toKeeps
  · have opened := ((s.reset (Level.ofName setup.level)).writes_openSinks setup).toKeeps
    have before := (s.keeps_reset (Level.ofName setup.level)).trans opened
    split
    · next result =>
        rw [result] at before
        exact before.trans (keeps_attach ..)
    · next result =>
        rw [result] at before
        exact before

theorem keeps_log (r : Record) : Keeps s (s.log r) := by
  unfold log
  split
  · exact (Writes.refl s).toKeeps
  · split
    · split
      · exact (s.writes_say (by decide) _).toKeeps
      · exact (Writes.refl s).toKeeps
    · split
      · exact keeps_setUp ..
      · exact (Writes.refl s).toKeeps

/-- Logging looks at no files. -/
theorem log_withFiles (files : FileSystem) (r : Record) :
    ({ s with files } : Session).log r = { s.log r with files } := by
  unfold log
  rw [show ({ s with files } : Session).ignores r = s.ignores r from rfl]
  cases s.ignores r with
  | true => rfl
  | false =>
      dsimp only
      cases s.logging.handlers.isEmpty with
      | true => by_cases warns : r.level ≥ Level.warning <;> simp [warns, say]
      | false => cases s.logging.handlers.contains .queue <;> rfl

theorem logAll_withFiles (files : FileSystem) (records : List Record) :
    ({ s with files } : Session).logAll records = { s.logAll records with files } := by
  unfold logAll
  induction records generalizing s with
  | nil => rfl
  | cons r rest ih => rw [List.foldl_cons, List.foldl_cons, log_withFiles, ih]

theorem files_logAll (records : List Record) : (s.logAll records).files = s.files := by
  have same := congrArg (fun t => t.files) (s.logAll_withFiles s.files records)
  exact same

theorem keeps_logAll (records : List Record) : Keeps s (s.logAll records) := by
  unfold logAll
  induction records generalizing s with
  | nil => exact (Writes.refl s).toKeeps
  | cons r rest ih => exact (s.keeps_log r).trans (ih _)

theorem keeps_writeOldest : Keeps s s.writeOldest := by
  unfold writeOldest
  split
  · exact (s.keeps_setUp _).trans (writes_deliver ..).toKeeps
  · exact (Writes.refl s).toKeeps

end Session

end SketchSurvey.Log
