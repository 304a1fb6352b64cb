import SketchSurvey.Proofs.Files.Directories
import SketchSurvey.Proofs.Log.Delivery

/-! Setting up logging as it was set up before. A log file whose path was one stays so: what kept its
directory from being made still does, though files were added since. -/

set_option autoImplicit false

namespace SketchSurvey.Log

open SketchSurvey.Files
open SketchSurvey.Files.Path (ofNames IsStart)

section Paths

variable {fs fs' : FileSystem} {start path : String}

/-- Nothing is in the way of the directory that everything is in. -/
theorem makeDirectories_start (fs : FileSystem) (isStart : IsStart start) :
    (fs.makeDirectories start).2 = .ok () := by
  have noneAbove : fs.lacksAbove start = false := by
    rcases isStart with rfl | rfl <;> rfl
  cases made : (fs.makeDirectories start).2 with
  | ok => rfl
  | error p =>
      have there := FileSystem.isDirectory_start fs isStart
      have isCause : p.cause?.isSome = true := by
        rcases FileSystem.makeDirectoriesWithin_error made with ⟨-, null⟩ | ⟨cause, q, rfl⟩
        · exact absurd (isStart.eq_slash _ null) (by decide)
        · rfl
      unfold FileSystem.makeDirectories FileSystem.makeDirectoriesWithin FileSystem.ensureDirectory at made
      rw [noneAbove, if_neg (by decide)] at made
      split at made
      · cases made
      · dsimp only at made
        split at made
        · cases made
        · next missing =>
            obtain rfl := Except.error.inj made
            exact absurd (Bool.and_eq_true _ _ ▸ ⟨isCause, there⟩) missing

/-- A path with the character that no path can have leads nowhere. -/
theorem append_of_null {bytes : Text.Utf8.Bytes} (plain : asksForDirectory path = false)
    (null : '\x00' ∈ path.toList) : fs.append path bytes = .error .nullInPath := by
  have stops : fs.locate true path = .error .nullInPath := by
    rw [FileSystem.locate, if_pos (List.contains_iff_mem.mpr null)]
  rw [FileSystem.append, FileSystem.update, plain, if_neg (by decide), stops]

/-- Where it is not the system that keeps a file from being opened, the path has a character that no path can
have. -/
theorem null_of_openForLines {p : Problem} (failed : (Session.openForLines fs path).2 = .error p)
    (unable : p.isOfSystem = false) : p = .nullInPath ∧ '\x00' ∈ path.toList := by
  unfold Session.openForLines at failed
  dsimp only at failed
  split at failed
  · cases failed
  · next p' unopened =>
      cases failed
      cases made : (fs.makeDirectories (Path.parent path)).2 with
      | error q =>
          rw [made] at unopened
          obtain rfl := Except.error.inj unopened
          rcases FileSystem.makeDirectoriesWithin_error made with ⟨isNull, null⟩ | ⟨cause, q, rfl⟩
          · exact ⟨isNull, (Path.prefix_parent path).subset null⟩
          · cases unable
      | ok =>
          rw [made] at unopened
          dsimp only [Except.bind] at unopened
          rw [FileSystem.append] at unopened
          rcases FileSystem.update_error unopened with null | ⟨cause, q, rfl⟩
          · exact null
          · cases unable

theorem null_of_openForMore {p : Problem} (failed : openForMore fs path = .error p)
    (unable : p.isOfSystem = false) :
    p = .nullInPath ∧ '\x00' ∈ (Path.absolute fs.workingPath path).toList :=
  null_of_openForLines (by rw [openForLines_of_error failed]) unable

/-- A path that could be opened, or failed to open though it is one, is still a path when files are added. -/
theorem openForMore_again (once : IsOpenable fs path)
    (working : fs'.working = fs.working)
    (grows : ∀ p, openForMore fs path = .error p →
      (fs.makeDirectories (Path.parent (Path.absolute fs.workingPath path))).1.GrowsByFiles fs') :
    IsOpenable fs' path := by
  intro p failed
  by_contra unable
  rw [Bool.not_eq_true] at unable
  have samePath : fs'.workingPath = fs.workingPath := by
    rw [FileSystem.workingPath, working, FileSystem.workingPath]
  obtain ⟨rfl, null⟩ := null_of_openForMore failed unable
  have once : openForMore fs path ≠ .error .nullInPath := by
    intro null
    cases once _ null
  obtain ⟨start, names, full, isStart, areNames⟩ := Path.exists_absolute_eq fs path
  unfold openForMore at once failed grows
  dsimp only at once failed grows
  rw [samePath, full] at null failed
  rw [full] at once grows
  obtain rfl | ⟨others, last, rfl⟩ := List.eq_nil_or_concat' names
  · rw [Path.toList_ofNames_nil] at null
    exact absurd (isStart.eq_slash _ null) (by decide)
  · obtain ⟨areOthers, isLast⟩ := List.forall_mem_append.mp areNames
    rw [List.forall_mem_singleton] at isLast
    have unopened (fs : FileSystem) : fs.append (ofNames start (others ++ [last])) [] = .error .nullInPath :=
      append_of_null (Path.asksForDirectory_ofNames isLast) null
    rw [Path.parent_ofNames isStart areOthers isLast] at once failed grows
    rw [unopened] at once failed grows
    -- The file itself would not open: so its directory was not made.
    cases made : (fs.makeDirectories (ofNames start others)).2 with
    | ok => rw [made] at once; exact once rfl
    | error p =>
        rw [made] at once grows
        obtain ⟨cause, q, rfl⟩ : ∃ cause q, p = .failed cause q := by
          rcases FileSystem.makeDirectoriesWithin_error made with ⟨rfl, -⟩ | isCause
          · exact absurd rfl once
          · exact isCause
        have grown := grows _ rfl
        obtain rfl | ⟨before, name, rfl⟩ := List.eq_nil_or_concat' others
        · rw [show ofNames start [] = start from String.toList_inj.mp (Path.toList_ofNames_nil start),
            makeDirectories_start fs isStart] at made
          cases made
        · obtain ⟨areBefore, isName⟩ := List.forall_mem_append.mp areOthers
          rw [List.forall_mem_singleton] at isName
          have enough := Path.length_le_length_ofNames start areOthers
          rw [List.length_append, List.length_singleton] at enough
          unfold FileSystem.makeDirectories at made grown failed
          generalize before' : fs.makeDirectoriesWithin (ofNames start (before ++ [name])) _ = outcome
            at made grown
          obtain ⟨middle, result⟩ := outcome
          dsimp only at made grown
          subst made
          have again := grown.makeDirectoriesWithin isStart areBefore isName (by omega) before'
          generalize fs'.makeDirectoriesWithin (ofNames start (before ++ [name])) _ = outcome at again failed
          cases again <;> cases failed

end Paths

section Sessions

variable {s t u : Session} {setup : Setup}

/-- Logging that is down stays so, whatever is logged. -/
theorem Logging.IsDown.log (down : s.logging.IsDown) (r : Record) : (s.log r).logging.IsDown := by
  obtain ⟨change, -, logging⟩ := logging_log s r
  rw [logging]
  exact ⟨down.configured, down.attached, by rw [down.listener]; rfl⟩

theorem Logging.IsDown.logAll (down : s.logging.IsDown) (records : List Record) :
    (s.logAll records).logging.IsDown := by
  unfold Session.logAll
  induction records generalizing s with
  | nil => exact down
  | cons r rest ih => exact ih (down.log r)

/-- Nobody writes records to a file. -/
def Session.IsFileless (s : Session) : Prop := ∀ l, s.logging.listener = some l → l.sinks.file = none

theorem Session.IsFileless.log (fileless : s.IsFileless) (r : Record) : (s.log r).IsFileless := by
  obtain ⟨change, keeps, logging⟩ := logging_log s r
  intro l listening
  rw [logging] at listening
  obtain ⟨before, listening', rfl⟩ := Option.map_eq_some_iff.mp listening
  rw [keeps]
  exact fileless before listening'

theorem Session.IsFileless.logAll (fileless : s.IsFileless) (records : List Record) :
    (s.logAll records).IsFileless := by
  unfold Session.logAll
  induction records generalizing s with
  | nil => exact fileless
  | cons r rest ih => exact ih (fileless.log r)

theorem files_deliver_of_fileless {sinks : Sinks} (fileless : sinks.file = none) (r : Record) :
    (Session.deliver sinks s r).files = s.files := by
  unfold Session.deliver
  split
  · rfl
  · rw [fileless, Session.toFile]
    unfold Session.toConsole
    split <;> rfl

theorem files_stopListening (fileless : s.IsFileless) : s.stopListening.files = s.files := by
  unfold Session.stopListening
  cases listening : s.logging.listener with
  | none => rfl
  | some l =>
      have each (records : List Record) (t : Session) :
          (records.foldl (Session.deliver l.sinks) t).files = t.files := by
        induction records generalizing t with
        | nil => rfl
        | cons r rest ih => exact (ih _).trans (files_deliver_of_fileless (fileless l listening) r)
      exact each l.pending s

theorem files_shutdown (fileless : s.IsFileless) : s.shutdown.files = s.files :=
  files_stopListening fileless

theorem files_readyFor (idle : s.logging.listener = none) (setup : Setup) :
    (s.readyFor setup).files = s.files := by
  unfold Session.readyFor Session.reset
  generalize Level.ofName setup.level = level
  refine files_stopListening fun l listening => ?_
  have same : some l = none := listening.symm.trans idle
  cases same

/-- Where the log file does not open, its directories are all that opening the sinks makes. -/
theorem files_openSinks {sinks : Sinks} {path : String} {p : Problem} (isPath : setup.path? = some path)
    (failed : openForMore s.files path = .error p) (opened : s.openSinks setup = (t, .ok sinks)) :
    p.isOfSystem = true ∧
      t.files = (s.files.makeDirectories (Path.parent (Path.absolute s.files.workingPath path))).1 := by
  unfold Session.openSinks at opened
  dsimp only at opened
  split at opened
  · cases opened
  · next unwanted =>
      have none' : setup.path? = none := unwanted
      rw [none'] at isPath
      cases isPath
  · next path' read wants =>
      have same : setup.path? = some path' := wants
      obtain rfl := Option.some.inj (isPath.symm.trans same)
      split at opened
      · cases opened
      · rw [openFile_of_error failed] at opened
        dsimp only at opened
        generalize (s.files.makeDirectories (Path.parent (Path.absolute s.files.workingPath path))).1 = files
          at opened ⊢
        by_cases ofSystem : p.isOfSystem = true
        · simp only [if_pos ofSystem, Prod.mk.injEq] at opened
          rw [← opened.1]
          exact ⟨ofSystem, rfl⟩
        · simp [ofSystem] at opened

theorem files_openSinks_of_none {sinks : Sinks} (unwanted : setup.path? = none)
    (opened : s.openSinks setup = (t, .ok sinks)) : t.files = s.files := by
  unfold Session.openSinks at opened
  dsimp only at opened
  split at opened
  · cases opened
  · rw [← (Prod.mk.inj opened).1]
  · next path read wants =>
      have some' : setup.path? = some path := wants
      rw [unwanted] at some'
      cases some'

/-- A setup whose log file does not open leaves nobody who writes to one. -/
theorem isFileless_of_logging {working : String} {others : List Handler}
    (logging : t.logging = setup.logging working false others) : t.IsFileless := by
  intro l listening
  rw [logging, Setup.logging] at listening
  dsimp only at listening
  split at listening
  · rw [← Option.some.inj listening]
    rfl
  · cases listening

/-- What a setup leaves where its log file does not open: nobody writes to a file. -/
theorem files_configure (down : s.logging.IsDown) {path : String} {p : Problem}
    (isPath : setup.path? = some path) (failed : openForMore s.files path = .error p)
    (returned : s.configure setup = (t, .ok ())) :
    p.isOfSystem = true ∧ t.IsFileless ∧
      t.files = (s.files.makeDirectories (Path.parent (Path.absolute s.files.workingPath path))).1 := by
  have logging := logging_of_configure (.inr down.configured) returned
  have same := files_readyFor down.listener setup
  have closed : (s.readyFor setup).opens setup = false := by
    rw [Session.opens, isPath, Option.any_some, same, failed]
    rfl
  rw [closed] at logging
  have fileless := isFileless_of_logging logging
  rw [Session.configure, down.configured, ← Session.readyFor] at returned
  rw [← same] at failed ⊢
  generalize s.readyFor setup = ready at failed returned ⊢
  split at returned
  · next active => cases active
  · split at returned
    · next opened =>
        obtain ⟨ofSystem, files⟩ := files_openSinks isPath failed opened
        rw [← (Prod.mk.inj returned).1, Session.files_attach]
        exact ⟨ofSystem, (Prod.mk.inj returned).1 ▸ fileless, files⟩
    · cases returned

/-- A setup without a log file leaves the files as they are, and nobody writes to one. -/
theorem files_configure_of_none (down : s.logging.IsDown) (unwanted : setup.path? = none)
    (returned : s.configure setup = (t, .ok ())) : t.IsFileless ∧ t.files = s.files := by
  have logging := logging_of_configure (.inr down.configured) returned
  have same := files_readyFor down.listener setup
  have closed : (s.readyFor setup).opens setup = false := by rw [Session.opens, unwanted, Option.any_none]
  rw [closed] at logging
  refine ⟨isFileless_of_logging logging, ?_⟩
  rw [Session.configure, down.configured, ← Session.readyFor] at returned
  rw [← same]
  generalize s.readyFor setup = ready at returned ⊢
  split at returned
  · next active => cases active
  · split at returned
    · next opened =>
        rw [← (Prod.mk.inj returned).1, Session.files_attach]
        exact files_openSinks_of_none unwanted opened
    · cases returned

/-- A setup that returned does so again, in the same working directory and with what is new there. -/
theorem configure_again (standard : setup.HasStandardFormats) (down : s.logging.IsDown)
    (returned : s.configure setup = (t, .ok ())) (down' : u.logging.IsDown)
    (working : u.files.working = s.files.working) (grows : t.IsFileless → t.files.GrowsByFiles u.files) :
    ∃ v, u.configure setup = (v, .ok ()) := by
  refine ⟨_, configure_returns u standard false fun path isPath => ?_⟩
  rw [files_readyFor down'.listener]
  refine openForMore_again (fun p failed => ?_) working fun p failed => ?_
  · exact (files_configure down isPath failed returned).1
  · obtain ⟨-, fileless, files⟩ := files_configure down isPath failed returned
    rw [← files]
    exact grows fileless

end Sessions

end SketchSurvey.Log
