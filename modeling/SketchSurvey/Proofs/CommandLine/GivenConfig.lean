import SketchSurvey.CommandLine.Phases
import SketchSurvey.Proofs.Settings.Written

/-! The configuration that a run is given. Whether it was loaded or named on the command line, its numbers
can be written again, and its version is the current one. -/

set_option autoImplicit false

namespace SketchSurvey.CommandLine

open SketchSurvey.Files SketchSurvey.Json SketchSurvey.Settings
open SketchSurvey.Text (IsShort)

/-- A number that an option is given is short. -/
def Setting.IsShort : Setting → Prop
  | .number _ (.value n) => Text.IsShort n
  | _ => True

/-- Whatever a reading gives is of some kind. -/
structure Yields {α : Type} (read : Except Stop α) (P : α → Prop) : Prop where
  holds : ∀ {a}, read = .ok a → P a

section Readings

variable {α β : Type} {P : α → Prop} {Q : β → Prop}

theorem yields_ok {a : α} (holds : P a) : Yields (.ok a) P := by
  constructor
  rintro a ⟨⟩
  exact holds

theorem yields_error (stop : Stop) : Yields (.error stop) P := ⟨nofun⟩

theorem Yields.bind {read : Except Stop α} {next : α → Except Stop β} (first : Yields read P)
    (rest : ∀ a, P a → Yields (next a) Q) : Yields (read >>= next) Q := by
  cases read with
  | error stop => exact yields_error stop
  | ok a => exact rest a (first.holds rfl)

/-- What a reading gives may be anything. -/
theorem yields_any (read : Except Stop α) : Yields read fun _ => True := ⟨fun _ => trivial⟩

variable (c : CommandSpec)

theorem yields_settingOf (o : OptionSpec) (value : String) : Yields (c.settingOf o value) Setting.IsShort := by
  unfold CommandSpec.settingOf
  split
  · split
    · exact yields_ok trivial
    · split
      · next read => exact yields_ok (Text.isShort_of_parseInt read)
      · exact yields_error _
  · exact yields_ok trivial

theorem yields_takeOption (f : Found) (rest : List Marked) :
    Yields (c.takeOption f rest) fun taken => taken.1.IsShort := by
  have one (value : String) (rest : List Marked) :
      Yields (do return (← c.settingOf f.option value, rest)) fun taken => taken.1.IsShort :=
    (yields_settingOf c f.option value).bind fun _ short => yields_ok short
  unfold CommandSpec.takeOption
  split
  · exact yields_error _
  · dsimp only
    generalize (if f.short then _ else _) = left
    split <;> exact yields_error _
  · exact yields_ok trivial
  · exact yields_error _
  · exact one ..
  · split
    · exact one ..
    · exact yields_error _

variable (accept : List String → Except Stop β)

theorem yields_takePositional (l : Level β) (args : List Marked) :
    Yields (c.takePositional accept l args) fun taken => taken.1.settings = l.settings := by
  unfold CommandSpec.takePositional
  split
  · exact yields_ok rfl
  · split
    · exact yields_ok rfl
    · exact (yields_any _).bind fun _ _ => yields_ok rfl

theorem yields_readArgs (fuel : Nat) {l : Level β} (short : ∀ s ∈ l.settings, s.IsShort)
    (args : List Marked) : Yields (c.readArgs accept fuel l args) fun l => ∀ s ∈ l.settings, s.IsShort := by
  induction fuel generalizing l args with
  | zero => exact yields_ok short
  | succ fuel ih =>
      have positional := yields_takePositional c accept l
      unfold CommandSpec.readArgs
      split
      · refine (positional args).bind fun taken same => yields_ok ?_
        rw [same]
        exact short
      · split
        · exact yields_ok short
        · refine (yields_takeOption c ..).bind fun taken isShort => ih ?_ _
          exact List.forall_mem_append.mpr ⟨short, List.forall_mem_singleton.mpr isShort⟩
        · refine ih ?_ _
          exact short
        · refine (positional _).bind fun taken same => ?_
          dsimp only
          split
          · exact ih (same ▸ short) _
          · exact ih (same ▸ short) _

theorem yields_readAll (args : List String) :
    Yields (c.readAll accept args) fun l => ∀ s ∈ l.settings, s.IsShort := by
  refine (yields_any _).bind fun marked _ =>
    (yields_readArgs c accept _ (List.forall_mem_nil _) marked).bind fun l short => ?_
  split
  · exact yields_ok short
  · exact yields_ok short
  · exact yields_error _

end Readings

/-- The number among some options is short. -/
def Options.IsShort (o : Options) : Prop := ∀ n, o.maxFileBytes = .value n → Text.IsShort n

theorem Options.IsShort.set {o : Options} (short : o.IsShort) {s : Setting} (isShort : s.IsShort) :
    (o.set s).IsShort := by
  cases s with
  | flag spec =>
      unfold Options.set
      dsimp only
      repeat' split
      all_goals exact short
  | text spec v =>
      unfold Options.set
      dsimp only
      repeat' split
      all_goals exact short
  | number spec v =>
      rintro n rfl
      exact isShort

/-- The number on a command line is short. -/
theorem isShort_of_read {args : List String} {a : Arguments} (read : Arguments.read args = .ok a) :
    a.options.IsShort := by
  have all (settings : List Setting) (o : Options) (short : o.IsShort) (each : ∀ s ∈ settings, s.IsShort) :
      (settings.foldl Options.set o).IsShort := by
    induction settings generalizing o with
    | nil => exact short
    | cons s rest ih =>
        obtain ⟨first, others⟩ := List.forall_mem_cons.mp each
        exact ih _ (short.set first) others
  have yields : Yields (Arguments.read args) fun a => a.options.IsShort := by
    refine (yields_readAll _ _ args).bind fun l short => ?_
    dsimp only
    split
    · exact yields_ok (all _ _ nofun short)
    · exact yields_error _
  exact yields.holds read

/-- What the command line says of the configuration can be written, and it says nothing of the version. -/
theorem overrides_spec {a : Arguments} (short : a.options.IsShort) :
    ∀ m ∈ a.overrides, m.1 ≠ "version" ∧ m.2.HasShortNumbers := by
  have given (text : Option String) {key : String} (other : key ≠ "version") {f : String → Value}
      (written : ∀ s, (f s).HasShortNumbers) :
      ∀ m ∈ text.toList.map fun s => (key, f s), m.1 ≠ "version" ∧ m.2.HasShortNumbers := by
    intro m member
    obtain ⟨s, -, rfl⟩ := List.mem_map.mp member
    exact ⟨other, written s⟩
  have one {m : String × Value} (other : m.1 ≠ "version") (written : m.2.HasShortNumbers) :
      ∀ m' ∈ [m], m'.1 ≠ "version" ∧ m'.2.HasShortNumbers := List.forall_mem_singleton.mpr ⟨other, written⟩
  unfold Arguments.overrides
  simp only [List.forall_mem_append, and_assoc]
  refine ⟨?_, given _ (by decide) .string, given _ (by decide) fun s => hasShortNumbers_ofStrings _, ?_, ?_⟩
  · split
    · exact one (by decide) (.string _)
    · exact List.forall_mem_nil _
  · split
    · exact List.forall_mem_nil _
    · exact one (by decide) (.array (List.forall_mem_nil _))
    · next n isNumber => exact one (show "max_file_bytes" ≠ _ by decide) (.int (short n isNumber))
  · split
    · exact given _ (by decide) .string
    · exact List.forall_mem_nil _

/-- The configuration of a run is current. -/
theorem isCurrent_givenConfig {args : List String} {a : Arguments} (read : Arguments.read args = .ok a)
    (homes : Path.Homes) (fs : FileSystem) : (givenConfig homes fs a).given.IsCurrent := by
  have current : (if a.options.useDefaults then { given := Config.standard.members, log := [] }
      else load fs (a.options.config.text?.getD (userFile homes))).given.IsCurrent := by
    split
    · exact isCurrent_standard
    · exact isCurrent_load ..
  have above := overrides_spec (isShort_of_read read)
  unfold givenConfig
  exact ⟨Given.short_over current.short fun m member => (above m member).2,
    (Given.get?_over_of_ne fun m member => (above m member).1).trans current.version⟩

end SketchSurvey.CommandLine
