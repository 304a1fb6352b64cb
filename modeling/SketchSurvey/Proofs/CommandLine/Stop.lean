import SketchSurvey.CommandLine.Arguments

/-! How reading a command line ends early: with a help text that was asked for, or with a message about a
wrong call. -/

set_option autoImplicit false

namespace SketchSurvey.CommandLine

/-- A message about how a command is called. -/
def Stop.IsWrongCall (stop : Stop) : Prop := ∃ (c : CommandSpec) (message : String), stop = c.stop message

/-- A help text that was asked for. -/
def Stop.IsHelp (stop : Stop) : Prop := ∃ c : CommandSpec, stop = { code := 0, output := c.helpText }

/-- A reading that ends early only in one of the two ways. -/
structure StopsOrderly {α : Type} (read : Except Stop α) : Prop where
  kinds : ∀ {stop}, read = .error stop → stop.IsHelp ∨ stop.IsWrongCall

section Readings

variable {α β : Type}

theorem stopsOrderly_ok (a : α) : StopsOrderly (.ok a) := ⟨nofun⟩

theorem stopsOrderly_help (c : CommandSpec) :
    StopsOrderly (.error { code := 0, output := c.helpText } : Except Stop α) := by
  constructor
  rintro stop ⟨⟩
  exact .inl ⟨c, rfl⟩

theorem stopsOrderly_stop (c : CommandSpec) (message : String) :
    StopsOrderly (.error (c.stop message) : Except Stop α) := by
  constructor
  rintro stop ⟨⟩
  exact .inr ⟨c, message, rfl⟩

theorem stopsOrderly_stopAt (c : CommandSpec) (o : OptionSpec) (message : String) :
    StopsOrderly (.error (c.stopAt o message) : Except Stop α) :=
  stopsOrderly_stop ..

theorem StopsOrderly.bind {read : Except Stop α} {next : α → Except Stop β} (first : StopsOrderly read)
    (rest : ∀ a, StopsOrderly (next a)) : StopsOrderly (read >>= next) := by
  cases read with
  | error stop =>
      constructor
      rintro stop ⟨⟩
      exact first.kinds rfl
  | ok a => exact rest a

variable (c : CommandSpec)

theorem stopsOrderly_kindOf (text : String) : StopsOrderly (c.kindOf text) := by
  unfold CommandSpec.kindOf
  split
  · exact stopsOrderly_ok _
  · dsimp only
    split
    · exact stopsOrderly_ok _
    · split
      · exact stopsOrderly_ok _
      · split
        · exact stopsOrderly_ok _
        · split
          · exact stopsOrderly_ok _
          · split
            · exact stopsOrderly_ok _
            · split
              · exact stopsOrderly_ok _
              · exact stopsOrderly_ok _
            · exact stopsOrderly_stop ..

theorem stopsOrderly_markAll (args : List String) : StopsOrderly (c.markAll args) := by
  induction args with
  | nil => exact stopsOrderly_ok _
  | cons text rest ih =>
      rw [CommandSpec.markAll]
      split
      · exact stopsOrderly_ok _
      · exact (stopsOrderly_kindOf c text).bind fun _ => ih.bind fun _ => stopsOrderly_ok _

theorem stopsOrderly_settingOf (o : OptionSpec) (value : String) : StopsOrderly (c.settingOf o value) := by
  unfold CommandSpec.settingOf
  split
  · split
    · exact stopsOrderly_ok _
    · split
      · exact stopsOrderly_ok _
      · exact stopsOrderly_stopAt ..
  · exact stopsOrderly_ok _

theorem stopsOrderly_takeOption (f : Found) (rest : List Marked) : StopsOrderly (c.takeOption f rest) := by
  unfold CommandSpec.takeOption
  split
  · exact stopsOrderly_help c
  · dsimp only
    generalize (if f.short then _ else _) = left
    split
    · exact stopsOrderly_help c
    · exact stopsOrderly_stopAt ..
  · exact stopsOrderly_ok _
  · exact stopsOrderly_stopAt ..
  · exact (stopsOrderly_settingOf c ..).bind fun _ => stopsOrderly_ok _
  · split
    · exact (stopsOrderly_settingOf c ..).bind fun _ => stopsOrderly_ok _
    · exact stopsOrderly_stopAt ..

variable {accept : List String → Except Stop β} (accepts : ∀ texts, StopsOrderly (accept texts))

include accepts

theorem stopsOrderly_takePositional (l : Level β) (args : List Marked) :
    StopsOrderly (c.takePositional accept l args) := by
  unfold CommandSpec.takePositional
  split
  · exact stopsOrderly_ok _
  · split
    · exact stopsOrderly_ok _
    · exact (accepts _).bind fun _ => stopsOrderly_ok _

theorem stopsOrderly_readArgs (fuel : Nat) (l : Level β) (args : List Marked) :
    StopsOrderly (c.readArgs accept fuel l args) := by
  induction fuel generalizing l args with
  | zero => exact stopsOrderly_ok _
  | succ fuel ih =>
      have positional := stopsOrderly_takePositional c accepts l
      unfold CommandSpec.readArgs
      split
      · exact (positional args).bind fun _ => stopsOrderly_ok _
      · split
        · exact stopsOrderly_ok _
        · exact (stopsOrderly_takeOption c ..).bind fun _ => ih ..
        · exact ih ..
        · refine (positional _).bind fun taken => ?_
          dsimp only
          split <;> exact ih ..

theorem stopsOrderly_readAll (args : List String) : StopsOrderly (c.readAll accept args) := by
  refine (stopsOrderly_markAll c args).bind fun marked =>
    (stopsOrderly_readArgs c accepts ..).bind fun l => ?_
  split
  · exact stopsOrderly_ok _
  · exact stopsOrderly_ok _
  · exact stopsOrderly_stop ..

end Readings

theorem stopsOrderly_readCommand (args : List String) : StopsOrderly (readCommand args) := by
  unfold readCommand
  dsimp only
  split
  · exact (stopsOrderly_readAll _ stopsOrderly_ok _).bind fun _ => stopsOrderly_ok _
  · exact stopsOrderly_stop ..

/-- A command line is read, or help was asked for, or the call is wrong. -/
theorem stopsOrderly_read (args : List String) : StopsOrderly (Arguments.read args) := by
  refine (stopsOrderly_readAll _ stopsOrderly_readCommand args).bind fun l => ?_
  dsimp only
  split
  · exact stopsOrderly_ok _
  · exact stopsOrderly_stop ..

/-- Only a wrong call gives the code 2, and only help is printed. -/
theorem Stop.IsHelp.code {stop : Stop} (help : stop.IsHelp) : stop.code = 0 := by
  obtain ⟨c, rfl⟩ := help
  rfl

theorem Stop.IsWrongCall.code {stop : Stop} (wrong : stop.IsWrongCall) :
    stop.code = 2 ∧ stop.output = "" := by
  obtain ⟨c, message, rfl⟩ := wrong
  exact ⟨rfl, rfl⟩

end SketchSurvey.CommandLine
