import SketchSurvey.Proofs.Files.Growth
import SketchSurvey.Proofs.Json.Lines
import SketchSurvey.Proofs.Json.Members
import SketchSurvey.Proofs.Json.ShortNumbers
import SketchSurvey.Proofs.Settings.Settled
import SketchSurvey.Proofs.Text.Utf8
import SketchSurvey.Settings.Load

/-! Configurations in files. Whatever a file holds, the numbers of what is loaded can be written again; and
a checked configuration that is written is loaded as it is. -/

set_option autoImplicit false

namespace SketchSurvey.Settings

open SketchSurvey.Files SketchSurvey.Json

section Loading

/-- A configuration as it was found whose numbers can be written again, and whose version is the current
one. -/
structure Given.IsCurrent (g : Given) : Prop where
  short : ∀ m ∈ g, m.2.HasShortNumbers
  version : g.get? "version" = some (.string currentVersion)

theorem Given.get?_eq_lookup (g : Given) (key : String) : g.get? key = g.lookup key :=
  (lookup_eq_find? g key).symm

theorem forall_mem_putAll {κ α : Type} [BEq κ] {P : α → Prop} {known ms : List (κ × α)}
    (each : ∀ m ∈ known, P m.2) (new : ∀ m ∈ ms, P m.2) : ∀ m ∈ putAll known ms, P m.2 := by
  unfold putAll
  induction ms generalizing known with
  | nil => exact each
  | cons m rest ih =>
      obtain ⟨first, others⟩ := List.forall_mem_cons.mp new
      exact ih (forall_mem_put m.1 each first) others

theorem Given.short_over {base given : Given} (short : ∀ m ∈ base, m.2.HasShortNumbers)
    (each : ∀ m ∈ given, m.2.HasShortNumbers) : ∀ m ∈ Given.over base given, m.2.HasShortNumbers :=
  forall_mem_putAll short each

/-- A member that is not named by the configuration above stays. -/
theorem Given.get?_over_of_ne {base given : Given} {key : String} (other : ∀ m ∈ given, m.1 ≠ key) :
    (Given.over base given).get? key = base.get? key := by
  rw [Given.get?_eq_lookup, Given.get?_eq_lookup]
  exact lookup_putAll_of_ne other

theorem hasShortNumbers_ofStrings (texts : List String) : (Value.ofStrings texts).HasShortNumbers := by
  refine .array fun v member => ?_
  obtain ⟨s, -, rfl⟩ := List.mem_map.mp member
  exact .string s

theorem short_zero : Text.IsShort Config.standard.maxFileBytes := Nat.pow_pos (by decide)

theorem short_standard : ∀ m ∈ Config.standard.members, m.2.HasShortNumbers := by
  simp only [Config.members, List.forall_mem_cons]
  exact ⟨.string _, .string _, hasShortNumbers_ofStrings _, .string _, .int short_zero,
    hasShortNumbers_ofStrings _, .string _, .string _, List.forall_mem_nil _⟩

theorem isCurrent_standard : Given.IsCurrent Config.standard.members := ⟨short_standard, rfl⟩

/-- What a file holds is read in three steps. -/
theorem readDocument_eq_ok_iff {fs : FileSystem} {path : String} {v : Document} :
    readDocument fs path = .ok v ↔ ∃ bytes chars, fs.read path = .ok bytes ∧
      Text.Utf8.decode bytes = .ok chars ∧
        Json.parseDocument (String.ofList (Text.Utf8.unifyLines chars)) = .ok v := by
  unfold readDocument
  cases fs.read path with
  | error p => simp [Except.mapError, bind, Except.bind]
  | ok bytes =>
      cases decoded : Text.Utf8.decode bytes with
      | error p => simp [decoded, Except.mapError, bind, Except.bind]
      | ok chars =>
          cases parsed : Json.parseDocument (String.ofList (Text.Utf8.unifyLines chars)) <;>
            simp [decoded, parsed, Except.mapError, bind, Except.bind]

theorem short_standardMembers : ∀ m ∈ standardMembers, m.2.HasShortNumbers := by
  have texts (l : List String) : (Value.ofStrings l).toDocument.HasShortNumbers := by
    rw [Value.ofStrings, Value.toDocument, documentsOf_eq_map, List.map_map]
    exact .array (List.forall_mem_map.mpr fun s _ => .string _)
  simp only [standardMembers, Config.members, membersOf, List.forall_mem_cons]
  exact ⟨.string _, .string _, texts _, .string _, .int short_zero, texts _, .string _, .string _,
    List.forall_mem_nil _⟩

/-- What stands under a field in a file, of those that stand there. -/
theorem get?_givenOf {field : String} (known : '\uFFFD' ∉ field.toList) (ms : Members) :
    Given.get? (givenOf ms) field = (ms.lookup (pointsOf field)).map Document.toValue :=
  (Given.get?_eq_lookup _ field).trans (lookup_givenOf known ms)

theorem isCurrent_givenOf {ms : Members} (short : ∀ m ∈ ms, m.2.HasShortNumbers)
    (version : ms.lookup (pointsOf "version") = some (.string (pointsOf currentVersion))) :
    Given.IsCurrent (givenOf ms) where
  short := by
    rw [givenOf_eq_map]
    exact List.forall_mem_map.mpr fun m member => (short m member).toValue
  version := by
    rw [get?_givenOf (by decide), version]
    exact congrArg (fun s => some (Value.string s)) (textOf_pointsOf currentVersion)

/-- What is loaded is current, whatever the file holds. -/
theorem isCurrent_load (fs : FileSystem) (path : String) : (load fs path).given.IsCurrent := by
  have standard : Given.IsCurrent (givenOf standardMembers) := isCurrent_givenOf short_standardMembers rfl
  unfold load loadDocument
  split
  · exact standard
  · split
    · exact standard
    · next ms read =>
        have short : ∀ m ∈ ms, m.2.HasShortNumbers := by
          obtain ⟨bytes, chars, -, -, parsed⟩ := readDocument_eq_ok_iff.mp read
          cases hasShortNumbers_of_parseDocument parsed with
          | object each => exact each
        refine isCurrent_givenOf (forall_mem_put _ (forall_mem_putAll short_standardMembers short) (.string _)) ?_
        dsimp only
        rw [lookup_put, if_pos rfl]
    · exact standard

theorem Given.IsCurrent.short_field {given : Given} (current : given.IsCurrent) (name : String) :
    ((given.get? name).getD .null).HasShortNumbers := by
  unfold Given.get?
  cases found : given.find? (·.1 == name) with
  | none => exact .null
  | some m => exact current.short m (List.mem_of_find?_eq_some found)

end Loading

namespace Check

variable {homes : Path.Homes}

/-- A check that passes a value gives that one. -/
theorem Passes.gives {α : Type} {check : Check α} {a : α} (passes : Passes check a) : Gives check (· = a) := by
  constructor
  intro strict before b after done
  exact (Prod.mk.inj (Except.ok.inj (done.symm.trans (passes strict before)))).1

/-- What a current configuration gives is current, and its number can be written again, also where it was
found as a text. -/
theorem gives_checkFields_current [Host] {given : Given} (current : given.IsCurrent) :
    Gives (checkFields homes given) fun c => c.version = currentVersion ∧ Text.IsShort c.maxFileBytes := by
  have tidy : IsTidy currentVersion := ⟨by decide, Text.isTrimmed_of_ends rfl rfl rfl rfl⟩
  have size := current.short_field "max_file_bytes"
  unfold checkFields
  dsimp only
  generalize (given.get? "max_file_bytes").getD .null = found at size
  rw [current.version]
  refine (gives_anything _).bind fun _ _ => ?_
  refine (passes_asText "version" _ tidy).gives.bind fun version isVersion => ?_
  refine (gives_anything _).bind fun _ _ => ?_
  refine (gives_anything _).bind fun _ _ => ?_
  refine (gives_anything _).bind fun _ _ => ?_
  refine (gives_asCount "max_file_bytes" (P := Text.IsShort) short_zero ?_ ?_).bind fun size isShort => ?_
  · rintro n rfl -
    cases size with
    | int isShort => exact isShort
  · intro s n _ read _
    exact Text.isShort_of_parseInt read
  refine (gives_anything _).bind fun _ _ => ?_
  refine (gives_anything _).bind fun _ _ => ?_
  exact (gives_anything _).bind fun _ _ => gives_pure ⟨isVersion, isShort⟩

end Check

/-- A configuration with a short number can be written and read again. -/
theorem Config.isReadable_toValue {c : Config} (short : Text.IsShort c.maxFileBytes) :
    c.toValue.IsReadable := by
  refine .object (by decide : fieldNames.Nodup) ?_
  simp only [Config.members, List.forall_mem_cons]
  exact ⟨.string _, .string _, .ofStrings _, .string _, .int short, .ofStrings _, .string _, .string _,
    List.forall_mem_nil _⟩

/-- A current configuration that passed can be written and read again. -/
theorem isReadable_of_validate [Host] {homes : Path.Homes} {given : Given} {strict : Bool} {v : Validated}
    (current : given.IsCurrent) (passed : validate homes (.object given) strict = .ok v) :
    v.config.version = currentVersion ∧ v.config.toValue.IsReadable := by
  obtain ⟨version, short⟩ := (Check.gives_checkFields_current current).holds (validate_eq_ok_iff.mp passed)
  exact ⟨version, Config.isReadable_toValue short⟩

/-- A value that was written into a file is read from there. -/
theorem readDocument_of_status {fs : FileSystem} {path : String} {location : Location} {v : Value}
    (readable : v.IsReadable)
    (status : fs.status path = .ok (location, .file (Text.Utf8.encode (write .readable v ++ "\n")))) :
    readDocument fs path = .ok v.toDocument := by
  have bytes : fs.read path = .ok (Text.Utf8.encode (write .readable v ++ "\n")) := by
    rw [FileSystem.read, status]
  have lines : Text.Utf8.unifyLines (write .readable v ++ "\n").toList =
      (write .readable v ++ "\n").toList := by
    refine Text.Utf8.unifyLines_of_not_mem ?_
    rw [String.toList_append]
    exact Returnless.append_iff.mpr ⟨returnless_write readable, by decide⟩
  refine readDocument_eq_ok_iff.mpr ⟨_, _, bytes, Text.Utf8.decode_encode _, ?_⟩
  rw [lines, String.ofList_toList]
  exact parseDocument_write Layout.isSpaced_readable readable (List.forall_mem_singleton.mpr rfl)

theorem loadDocument_of_read {fs : FileSystem} {path : String} {ms : Members}
    (present : fs.pathExists path = true) (read : readDocument fs path = .ok (.object ms)) :
    loadDocument fs path = {
      given := put (putAll standardMembers ms) (pointsOf "version") (.string (pointsOf currentVersion))
      log := [] } := by
  rw [loadDocument, present, read]
  rfl

/-- Members that were written into a file are put over the standard ones, like those that were never in one. -/
theorem load_of_status {fs : FileSystem} {path : String} {location : Location} {given : Given}
    (readable : (Value.object given).IsReadable)
    (status : fs.status path =
      .ok (location, .file (Text.Utf8.encode (write .readable (.object given) ++ "\n")))) :
    load fs path = {
      given := put (Given.over Config.standard.members given) "version" (.string currentVersion)
      log := [] } := by
  have present : fs.pathExists path = true := by rw [FileSystem.pathExists, status]
  have read : readDocument fs path = .ok (.object (membersOf given)) := readDocument_of_status readable status
  have merged : put (putAll standardMembers (membersOf given)) (pointsOf "version")
      (.string (pointsOf currentVersion)) =
        membersOf (put (Given.over Config.standard.members given) "version" (.string currentVersion)) := by
    rw [membersOf_put, Given.over, membersOf_putAll]
    rfl
  simp only [load, loadDocument_of_read present read, merged, givenOf_membersOf]

/-- A current configuration that was written into a file is loaded from there. -/
theorem load_of_write {fs fs' : FileSystem} {path : String} {c : Config} (current : c.version = currentVersion)
    (readable : c.toValue.IsReadable)
    (written : fs.write path (Text.Utf8.encode (write .readable c.toValue ++ "\n")) = .ok fs') :
    load fs' path = { given := c.members, log := [] } := by
  obtain ⟨-, location, -, -, status⟩ := FileSystem.update_spec written
  have kept : put (Given.over Config.standard.members c.members) "version" (.string currentVersion) =
      c.members := by
    rw [Given.over_members]
    simp [put, Config.members, current]
  rw [load_of_status readable status, kept]

end SketchSurvey.Settings
