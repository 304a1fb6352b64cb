import SketchSurvey.Proofs.Settings.Loaded
import SketchSurvey.Proofs.Settings.Repair

/-! The sketch functions that a lenient check leaves. They depend on nothing but the texts that are found for them,
so a text with commas in it says the same as the list of its items. -/

set_option autoImplicit false

namespace SketchSurvey.Settings

open SketchSurvey.Files SketchSurvey.Json

/-- A name is added to others if it is an identifier and none of them. -/
def addName (found : List String) (name : String) : List String :=
  if isIdentifier name && !found.contains name then found ++ [name] else found

/-- The identifiers among some texts, each once; the standard functions if there are none. -/
def functionsAmong (texts : List String) : List String :=
  orFallback false Config.standard.sketchFunctions (texts.foldl addName [])

namespace Check

section Leaving

variable {α β : Type} {check : Check α} {form : α → Prop} {goal : β → Prop}

/-- Whatever a lenient run of a check gives is of some form. -/
structure Leaves (check : Check α) (form : α → Prop) : Prop where
  holds : ∀ {before a after}, check.result false before = .ok (a, after) → form a

theorem Gives.leaves (gives : Gives check form) : Leaves check form := ⟨gives.holds⟩

theorem Repairs.leaves {breaks : Prop} {faults : Issue → Prop} (repairs : Repairs check breaks faults form) :
    Leaves check form where
  holds := by
    intro before a after done
    rcases repairs before with ⟨-, p, failed⟩ | ⟨-, b, after', done', holds, -⟩
    · cases done.symm.trans failed
    · cases done.symm.trans done'
      exact holds

theorem Leaves.bind {next : α → Check β} (first : Leaves check form)
    (second : ∀ a, form a → Leaves (next a) goal) : Leaves (check >>= next) goal where
  holds := by
    intro before b after done
    obtain ⟨a, middle, early, late⟩ := result_bind_eq_ok_iff.mp done
    exact (second a (first.holds early)).holds late

theorem leaves_anything (check : Check α) : Leaves check fun _ => True := (gives_anything check).leaves

theorem leaves_pure {a : α} (holds : form a) : Leaves (pure a) form := (gives_pure holds).leaves

end Leaving

section Functions

variable (field : String)

theorem gives_keepIdentifiers_foldl (found names : List String) :
    Gives (keepIdentifiers field found names) (· = names.foldl addName found) := by
  induction names generalizing found with
  | nil => exact gives_pure rfl
  | cons name rest ih =>
      rw [keepIdentifiers, List.foldl_cons]
      split
      · next identifier =>
          have added : addName found name = if found.contains name then found else found ++ [name] := by
            rw [addName, identifier, Bool.true_and]
            cases found.contains name <;> rfl
          rw [added]
          exact ih _
      · next other =>
          have skipped : addName found name = found := by
            rw [addName, Bool.eq_false_iff.mpr other, Bool.false_and]
            rfl
          rw [skipped]
          exact (gives_anything _).bind fun _ _ => ih found

/-- Where no text was found, the names of the fallback are kept as they are. -/
theorem leaves_asIdentifiers (v : Value) :
    Leaves (asIdentifiers field Config.standard.sketchFunctions v) (· = functionsAmong (textsIn v)) := by
  refine (repairs_asTexts field Config.standard.sketchFunctions false v).leaves.bind fun texts found => ?_
  refine (gives_keepIdentifiers_foldl field [] texts).leaves.bind fun names kept => leaves_pure ?_
  rw [kept, found]
  by_cases nothing : textsIn v = []
  · have whole : textsOr false Config.standard.sketchFunctions v = Config.standard.sketchFunctions := by
      simp [textsOr, nothing, orFallback]
    rw [whole, nothing]
    decide
  · rw [textsOr_of_textsIn nothing]
    rfl

theorem leaves_checkFields [Host] (homes : Path.Homes) (given : Given) :
    Leaves (checkFields homes given) fun c =>
      c.sketchFunctions = functionsAmong (textsIn (given.field "sketch_functions")) := by
  refine (leaves_anything _).bind fun _ _ => ?_
  refine (leaves_anything _).bind fun version _ => ?_
  refine (leaves_anything _).bind fun namespaceName _ => ?_
  refine (leaves_asIdentifiers _ _).bind fun sketchFunctions same => ?_
  refine (leaves_anything _).bind fun libraryScriptPattern _ => ?_
  refine (leaves_anything _).bind fun maxFileBytes _ => ?_
  refine (leaves_anything _).bind fun listingExclusions _ => ?_
  refine (leaves_anything _).bind fun logLevel _ => ?_
  exact (leaves_anything _).bind fun logFile _ => leaves_pure same

end Functions

end Check

section Merged

theorem textIn?_string {s : String} (tidy : IsTidy s) : textIn? (.string s) = some s := by
  have filled : ¬ s.isEmpty = true := by
    rw [String.isEmpty_iff]
    exact tidy.nonempty
  rw [textIn?, Text.trim_of_isTrimmed tidy.trimmed, if_neg filled]

theorem textsIn_ofStrings {texts : List String} (tidy : ∀ text ∈ texts, IsTidy text) :
    textsIn (.ofStrings texts) = texts := by
  change (texts.map Value.string).filterMap textIn? = texts
  induction texts with
  | nil => rfl
  | cons text rest ih =>
      obtain ⟨first, others⟩ := List.forall_mem_cons.mp tidy
      rw [List.map_cons, List.filterMap_cons_some (textIn?_string first), ih others]

/-- The items of a list that was made of a text are those of the text. -/
theorem textsIn_splitCommas (s : String) : textsIn (.ofStrings (splitCommas s)) = textsIn (.string s) :=
  textsIn_ofStrings fun _ => Check.isTidy_of_mem_splitCommas

variable {g : Given}

theorem not_breaks_standard [Host] {key : String} {v : Value}
    (standard : Given.get? Config.standard.members key = some v) : ¬ Breaks key v := by
  intro breaks
  cases breaks with
  | maxFileBytes noCount =>
      obtain rfl : Value.int 0 = v := Option.some.inj standard
      cases noCount with
      | negative less _ => exact absurd less (by decide)
  | libraryScriptPattern text noPattern =>
      obtain rfl : Value.string Config.standard.libraryScriptPattern = v := Option.some.inj standard
      have tidy : IsTidy Config.standard.libraryScriptPattern :=
        ⟨by decide, Text.isTrimmed_of_ends rfl rfl rfl rfl⟩
      obtain rfl := Option.some.inj ((textIn?_string tidy).symm.trans text)
      obtain ⟨regex, compiled⟩ := compile_standard_pattern
      obtain ⟨p, failed, -⟩ := noPattern
      cases compiled.symm.trans failed
  | logFile text _ =>
      obtain rfl : Value.string "" = v := Option.some.inj standard
      cases text

/-- A lenient check gives a configuration if it breaks off at no value. -/
theorem validate_of_unbroken [Host] (homes : Path.Homes)
    (unbroken : ∀ {key v}, g.get? key = some v → ¬ Breaks key v) :
    ∃ validated, validate homes (.object g) false = .ok validated ∧
      validated.config.sketchFunctions = functionsAmong (textsIn (g.field "sketch_functions")) := by
  rcases Check.repairs_checkFields homes g [] with ⟨⟨key, v, found, breaks⟩, -⟩ | ⟨-, c, warnings, done, -⟩
  · exact absurd breaks (unbroken found)
  · exact ⟨{ config := c, warnings }, validate_eq_ok_iff.mpr done,
      (Check.leaves_checkFields homes g).holds done⟩

end Merged

end SketchSurvey.Settings
