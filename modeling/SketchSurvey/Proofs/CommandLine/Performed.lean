import SketchSurvey.CommandLine.Perform
import SketchSurvey.Proofs.Sketch.ProjectTitle

/-! Commands print all they have to say or nothing, or they stop at a line that cannot be printed. Titles are
looked up between lines that are already printed; the title of a project that a scan has found cannot fail. -/

set_option autoImplicit false

namespace SketchSurvey.Sketch

open SketchSurvey.Files SketchSurvey.Log SketchSurvey.Settings

/-- Every project that a scan has found has a title. -/
theorem title_returns_of_scan [Host] {fs : FileSystem} {s : AnalysisSettings} {dir : String} {found : Scan}
    (scanned : (scan fs s dir).result = .ok found) {p : Project} (known : p ∈ found.projects) :
    ∃ shown, (title fs p).result = .ok shown := by
  obtain ⟨shown, result, -⟩ := title_spec (pageReadable_of_scan scanned known)
  exact ⟨shown, result⟩

/-- A listing is about the projects of a scan. -/
theorem exists_scan_of_listing [Host] {fs : FileSystem} {s : AnalysisSettings} {dir : String} {l : Listing}
    (listed : (listing fs s dir).result = .ok l) :
    ∃ found, (scan fs s dir).result = .ok found ∧ l.projects = found.projects := by
  obtain ⟨found, scanned, made⟩ := Logged.result_bind_eq_ok_iff.mp listed
  refine ⟨found, scanned, ?_⟩
  rw [← Except.ok.inj made]

/-- A script that can be read within a limit, and has an error. -/
def IsBroken [Host] (fs : FileSystem) (limit : Int) (path : String) (e : Script.SyntaxError) : Prop :=
  ∃ text, fs.Holds limit path text ∧ Script.parseOn text path = .error (.notScript e)

theorem checkScript_of_broken [Host] {fs : FileSystem} {limit : Int} {path : String} {e : Script.SyntaxError}
    (broken : IsBroken fs limit path e) :
    (checkScript fs path limit).result = .ok (some (syntaxErrorReport e.fileName e.message)) := by
  obtain ⟨text, holds, failed⟩ := broken
  have read : (readScript fs path limit).result = .error (.script e) := by
    rw [readScript, readText_bind_result, FileSystem.readText_eq_ok_iff.mpr holds]
    dsimp only
    rw [failed]
    rfl
  rw [checkScript, read]
  rfl

/-- A check finds nothing but such errors. -/
theorem exists_broken_of_checkScript [Host] {fs : FileSystem} {limit : Int} {path report : String}
    (found : (checkScript fs path limit).result = .ok (some report)) :
    ∃ e, IsBroken fs limit path e := by
  unfold checkScript at found
  dsimp only at found
  split at found
  · cases found
  · next e failed =>
      rw [readScript, readText_bind_result] at failed
      split at failed
      · next text read =>
          have holds := FileSystem.readText_eq_ok_iff.mp read
          dsimp only at failed
          cases parsed : Script.parseOn text path with
          | ok p =>
              rw [parsed] at failed
              cases failed
          | error p =>
              rw [parsed] at failed
              cases p with
              | notScript e' => exact ⟨e', text, holds, parsed⟩
              | missingPart => cases failed
              | stackExhausted => cases failed
      · cases failed
  · cases found

end SketchSurvey.Sketch

namespace SketchSurvey.CommandLine

open SketchSurvey.Files SketchSurvey.Log SketchSurvey.Settings SketchSurvey.Sketch

/-- A command has printed some lines and stops at one that cannot be printed. -/
structure Performed.StopsAt [Host] (d : Performed) (printed : List String) (line : String) : Prop where
  output : d.output = String.join (printed.map (· ++ "\n"))
  printable : ∀ l ∈ printed, Host.unprintable? (l ++ "\n") = none
  failed : ∃ reason, Host.unprintable? (line ++ "\n") = some reason ∧
    d.result = .error (.unprintable reason)

/-- A command succeeded, or failed before it printed anything; or it printed lines up to one that cannot be
printed. -/
structure Performed.LineByLine [Host] (d : Performed) : Prop where
  succeeds : ∀ {code}, d.result = .ok code → code = 0
  stops : ∀ {p}, d.result = .error p → d.output = "" ∨ ∃ printed line, d.StopsAt printed line

/-- A command succeeded, or failed before it printed anything. -/
structure Performed.AllOrNothing (d : Performed) : Prop where
  succeeds : ∀ {code}, d.result = .ok code → code = 0
  silent : ∀ {p}, d.result = .error p → d.output = ""

section Printing

variable {α : Type} {fs : FileSystem} {json : Bool} {s : AnalysisSettings}

theorem allOrNothing_of_ok {d : Performed} (done : d.result = .ok 0) : d.AllOrNothing where
  succeeds done' := by
    rw [done] at done'
    cases done'
    rfl
  silent failed := by
    rw [done] at failed
    cases failed

theorem allOrNothing_after {m : Logged Sketch.Problem α} {f : α → Performed}
    (rest : ∀ a, m.result = .ok a → (f a).AllOrNothing) : (Performed.after m f).AllOrNothing := by
  unfold Performed.after
  split
  · next a found => exact ⟨(rest a found).succeeds, (rest a found).silent⟩
  · exact ⟨nofun, fun _ => rfl⟩

theorem found_titledLines {projects : List Project} (shown : Project → String → String)
    (titled : ∀ p ∈ projects, ∃ shown, (Sketch.title fs p).result = .ok shown) :
    ∀ line ∈ titledLines fs projects shown, ∃ text, line.result = .ok text := by
  intro line member
  obtain ⟨p, known, rfl⟩ := List.mem_map.mp member
  obtain ⟨title, isTitle⟩ := titled p known
  exact ⟨_, Logged.result_bind_eq_ok_iff.mpr ⟨title, isTitle, rfl⟩⟩

theorem found_pure (texts : List String) :
    ∀ line ∈ texts.map (pure : String → Logged Sketch.Problem String), ∃ text, line.result = .ok text := by
  intro line member
  obtain ⟨text, -, rfl⟩ := List.mem_map.mp member
  exact ⟨text, rfl⟩

variable [Host]

theorem Performed.AllOrNothing.lineByLine {d : Performed} (whole : d.AllOrNothing) : d.LineByLine :=
  ⟨whole.succeeds, fun failed => .inl (whole.silent failed)⟩

theorem allOrNothing_print (output : String) : (Performed.print output).AllOrNothing := by
  unfold Performed.print
  split
  · exact allOrNothing_of_ok rfl
  · exact ⟨nofun, fun _ => rfl⟩

theorem lineByLine_after {m : Logged Sketch.Problem α} {f : α → Performed}
    (rest : ∀ a, m.result = .ok a → (f a).LineByLine) : (Performed.after m f).LineByLine := by
  unfold Performed.after
  split
  · next a found =>
      refine ⟨(rest a found).succeeds, fun failed => ((rest a found).stops failed).imp id ?_⟩
      rintro ⟨printed, line, stops⟩
      exact ⟨printed, line, stops.output, stops.printable, stops.failed⟩
  · exact ⟨nofun, fun _ => .inl rfl⟩

/-- Of lines that are all found out, all are printed, or those before one that cannot be. -/
theorem printEach_of_found {lines : List (Logged Sketch.Problem String)}
    (found : ∀ line ∈ lines, ∃ text, line.result = .ok text) :
    (Performed.printEach lines).result = .ok 0 ∨
      ∃ printed line, (Performed.printEach lines).StopsAt printed line := by
  induction lines with
  | nil => exact .inl rfl
  | cons line rest ih =>
      obtain ⟨⟨text, isText⟩, others⟩ := List.forall_mem_cons.mp found
      rw [Performed.printEach, Performed.after, isText]
      dsimp only
      cases taken : Host.unprintable? (text ++ "\n") with
      | some reason =>
          refine .inr ⟨[], text, ?_⟩
          simp only [Performed.print, taken, Performed.followedBy]
          exact ⟨rfl, List.forall_mem_nil _, reason, taken, rfl⟩
      | none =>
          simp only [Performed.print, taken, Performed.followedBy]
          refine (ih others).imp id ?_
          rintro ⟨printed, last, stops⟩
          refine ⟨text :: printed, last, ?_, List.forall_mem_cons.mpr ⟨taken, stops.printable⟩, stops.failed⟩
          rw [stops.output, List.map_cons, String.join_cons]

theorem lineByLine_printEach {lines : List (Logged Sketch.Problem String)}
    (found : ∀ line ∈ lines, ∃ text, line.result = .ok text) :
    (Performed.printEach lines).LineByLine := by
  rcases printEach_of_found found with done | stops
  · exact (allOrNothing_of_ok done).lineByLine
  · obtain ⟨printed, line, stops⟩ := stops
    obtain ⟨reason, -, failed⟩ := stops.failed
    refine ⟨fun done => ?_, fun _ => .inr ⟨printed, line, stops⟩⟩
    rw [failed] at done
    cases done

theorem lineByLine_printLines (lines : List String) : (printLines lines).LineByLine :=
  lineByLine_printEach (found_pure lines)

/-- The report of a check, as it is printed. -/
def printedReport (json : Bool) (path : String) (e : Script.SyntaxError) : String :=
  let report := syntaxErrorReport e.fileName e.message
  if json then printValue (checkValue path (some report)) else report

theorem performCheck_of_broken (json : Bool) {path : String} {e : Script.SyntaxError}
    (broken : IsBroken fs s.maxFileBytes path e) :
    (performCheck fs json s path).result = (Performed.print (printedReport json path e) 1).result ∧
      (performCheck fs json s path).output = (Performed.print (printedReport json path e) 1).output := by
  rw [performCheck, Performed.after, checkScript_of_broken broken]
  simp only [Option.isSome_some, ↓reduceIte, Option.getD_some, printedReport, and_self]

/-- A script that can be read within a limit has an error, and the report about it can be printed. -/
structure IsReported (fs : FileSystem) (limit : Int) (json : Bool) (path : String)
    (e : Script.SyntaxError) : Prop where
  broken : IsBroken fs limit path e
  printable : Host.unprintable? (printedReport json path e) = none

theorem performCheck_of_reported {path : String} {e : Script.SyntaxError}
    (reported : IsReported fs s.maxFileBytes json path e) :
    (performCheck fs json s path).result = .ok 1 ∧
      (performCheck fs json s path).output = printedReport json path e := by
  obtain ⟨result, output⟩ := performCheck_of_broken json reported.broken
  rw [result, output, Performed.print, reported.printable]
  exact ⟨rfl, rfl⟩

theorem allOrNothing_check {path : String} (sound : ∀ e, ¬ IsReported fs s.maxFileBytes json path e) :
    (performCheck fs json s path).AllOrNothing := by
  cases checked : (checkScript fs path s.maxFileBytes).result with
  | error p =>
      rw [performCheck, Performed.after, checked]
      exact ⟨nofun, fun _ => rfl⟩
  | ok report =>
      cases report with
      | none =>
          refine allOrNothing_after fun report checked' => ?_
          cases checked.symm.trans checked'
          exact allOrNothing_print _
      | some report =>
          obtain ⟨e, broken⟩ := exists_broken_of_checkScript checked
          obtain ⟨result, output⟩ := performCheck_of_broken json broken
          cases taken : Host.unprintable? (printedReport json path e) with
          | none => exact absurd ⟨broken, taken⟩ (sound e)
          | some reason =>
              rw [Performed.print, taken] at result output
              refine ⟨fun done => ?_, fun _ => output⟩
              rw [result] at done
              cases done

/-- Printing for programs, a command prints all or nothing, unless it reports an error in a script. -/
theorem allOrNothing_perform {c : Command}
    (sound : ∀ path e, c = .check path → ¬ IsReported fs s.maxFileBytes true path e) :
    (c.perform fs true s).AllOrNothing := by
  cases c with
  | scan path => exact allOrNothing_after fun _ _ => allOrNothing_after fun _ _ => allOrNothing_print _
  | classify paths => exact allOrNothing_after fun _ _ => allOrNothing_print _
  | freeVars path excludeGlobals => exact allOrNothing_after fun _ _ => allOrNothing_print _
  | members path namespaceName => exact allOrNothing_after fun _ _ => allOrNothing_print _
  | check path => exact allOrNothing_check fun e => sound path e rfl
  | listing path => exact allOrNothing_after fun _ _ => allOrNothing_after fun _ _ => allOrNothing_print _

theorem lineByLine_scan (path : String) : (performScan fs false s path).LineByLine := by
  refine lineByLine_after fun found scanned => ?_
  refine lineByLine_printEach (List.forall_mem_append.mpr ⟨?_, found_pure _⟩)
  split
  · exact List.forall_mem_singleton.mpr ⟨_, rfl⟩
  · exact found_titledLines _ fun p known => title_returns_of_scan scanned known

theorem lineByLine_listing (path : String) : (performListing fs false s path).LineByLine := by
  refine lineByLine_after fun l listed => ?_
  obtain ⟨found, scanned, same⟩ := exists_scan_of_listing listed
  refine lineByLine_printEach ?_
  rw [listingLines, List.forall_mem_append, List.forall_mem_append]
  refine ⟨⟨found_pure _, found_titledLines _ fun p known => ?_⟩, found_pure _⟩
  exact title_returns_of_scan scanned (same ▸ known)

/-- Printing for people, a command goes line by line, unless it is a check. -/
theorem lineByLine_perform {c : Command} (other : ∀ path, c ≠ .check path) :
    (c.perform fs false s).LineByLine := by
  cases c with
  | scan path => exact lineByLine_scan path
  | classify paths => exact lineByLine_after fun _ _ => lineByLine_printLines _
  | freeVars path excludeGlobals => exact lineByLine_after fun _ _ => lineByLine_printLines _
  | members path namespaceName => exact lineByLine_after fun _ _ => lineByLine_printLines _
  | check path => exact absurd rfl (other path)
  | listing path => exact lineByLine_listing path

end Printing

end SketchSurvey.CommandLine
