import Mathlib.Data.List.Infix
import SketchSurvey.Settings.Validation

/-! Strict checks and lenient ones: a strict check of a configuration gives a result just where a lenient
one reports nothing but unknown fields, and then the two give the same. -/

set_option autoImplicit false

namespace SketchSurvey.Settings

/-- A text that reports a member as no field. -/
def SaysUnknownField (text : String) : Prop := ∃ key, text = "Unknown field '" ++ key ++ "' ignored."

/-- A warning that has no part in whether a strict check goes through. -/
def Warning.IsUnknownField (w : Warning) : Prop := ∃ key, w = .unknownField key

theorem head?_message_issue (issue : Issue) : issue.message.toList.head? = some 'I' := by
  unfold Issue.message
  cases issue <;>
    · simp only [String.toList_append, List.head?_append]
      rfl

def Warning.firstLetter : Warning → Char
  | .unknownField _ => 'U'
  | .listFromText _ | .numberFromText .. => 'F'
  | .replaced _ => 'I'

theorem Warning.head?_message (w : Warning) : w.message.toList.head? = some w.firstLetter := by
  unfold Warning.message
  cases w with
  | replaced issue =>
      simp only [String.toList_append, List.append_assoc]
      rw [List.head?_append]
      exact Option.or_eq_some_iff.mpr (.inl (head?_message_issue issue))
  | unknownField | listFromText | numberFromText =>
      simp only [String.toList_append, List.head?_append]
      rfl

/-- Only the warning about an unknown field reads like one. -/
theorem Warning.saysUnknownField_iff (w : Warning) :
    SaysUnknownField w.message ↔ w.IsUnknownField := by
  constructor
  · rintro ⟨key, same⟩
    have letters : some w.firstLetter = some 'U' := by
      rw [← w.head?_message, same]
      exact (Warning.unknownField key).head?_message
    cases w with
    | unknownField key => exact ⟨key, rfl⟩
    | listFromText | numberFromText | replaced => simp [Warning.firstLetter] at letters
  · rintro ⟨key, rfl⟩
    exact ⟨key, rfl⟩

/-- Warnings to which nothing but unknown fields was added. -/
def AddsUnknownFields (before after : List Warning) : Prop :=
  ∃ added, after = before ++ added ∧ ∀ w ∈ added, w.IsUnknownField

namespace AddsUnknownFields

theorem refl (warnings : List Warning) : AddsUnknownFields warnings warnings :=
  ⟨[], (List.append_nil _).symm, nofun⟩

theorem trans {before middle after : List Warning} (first : AddsUnknownFields before middle)
    (second : AddsUnknownFields middle after) : AddsUnknownFields before after := by
  obtain ⟨early, rfl, earlyUnknown⟩ := first
  obtain ⟨late, rfl, lateUnknown⟩ := second
  refine ⟨early ++ late, List.append_assoc .., ?_⟩
  intro w member
  rcases List.mem_append.mp member with inside | inside
  · exact earlyUnknown w inside
  · exact lateUnknown w inside

/-- Where warnings are only ever added, both halves of a run add what the whole run adds. -/
theorem split {before middle after : List Warning} (whole : AddsUnknownFields before after)
    (first : before <+: middle) (second : middle <+: after) :
    AddsUnknownFields before middle ∧ AddsUnknownFields middle after := by
  obtain ⟨added, rfl, unknown⟩ := whole
  obtain ⟨early, rfl⟩ := first
  obtain ⟨late, same⟩ := second
  rw [List.append_assoc, List.append_cancel_left_eq] at same
  subst same
  refine ⟨⟨early, rfl, ?_⟩, ⟨late, (List.append_assoc ..).symm, ?_⟩⟩
  · intro w member
    exact unknown w (List.mem_append_left _ member)
  · intro w member
    exact unknown w (List.mem_append_right _ member)

theorem not_of_prefix {before after : List Warning} {w : Warning} (known : ¬ w.IsUnknownField)
    (reported : before ++ [w] <+: after) : ¬ AddsUnknownFields before after := by
  rintro ⟨added, rfl, unknown⟩
  obtain ⟨more, same⟩ := reported
  rw [List.append_assoc, List.append_cancel_left_eq] at same
  subst same
  exact known (unknown w (.head _))

end AddsUnknownFields

namespace Check

variable {α β : Type}

/-- What a check does to the warnings before it, and what it gives. -/
def result (check : Check α) (strict : Bool) (before : List Warning) :
    Except Problem (α × List Warning) :=
  (check.run strict).run before

@[simp] theorem result_pure (a : α) (strict : Bool) (before : List Warning) :
    (pure a : Check α).result strict before = .ok (a, before) := rfl

@[simp] theorem result_throw (p : Problem) (strict : Bool) (before : List Warning) :
    (throw p : Check α).result strict before = .error p := rfl

@[simp] theorem result_warn (w : Warning) (strict : Bool) (before : List Warning) :
    (warn w).result strict before = .ok ((), before ++ [w]) := rfl

theorem result_bind (check : Check α) (next : α → Check β) (strict : Bool) (before : List Warning) :
    (check >>= next).result strict before =
      (check.result strict before >>= fun found => (next found.1).result strict found.2) := rfl

theorem result_bind_eq_ok_iff {check : Check α} {next : α → Check β} {strict : Bool}
    {before after : List Warning} {b : β} :
    (check >>= next).result strict before = .ok (b, after) ↔
      ∃ a middle, check.result strict before = .ok (a, middle) ∧
        (next a).result strict middle = .ok (b, after) := by
  rw [result_bind]
  cases done : check.result strict before with
  | error p =>
      constructor
      · nofun
      · rintro ⟨a, middle, found, _⟩
        cases found
  | ok found =>
      constructor
      · intro rest
        exact ⟨found.1, found.2, rfl, rest⟩
      · rintro ⟨a, middle, same, rest⟩
        cases same
        exact rest

/-- A check that looks at how strict it is goes on in one way or the other. -/
theorem result_read_bind (next : Bool → Check α) (strict : Bool) (before : List Warning) :
    (read >>= next : Check α).result strict before = (next strict).result strict before := rfl

/-- A check whose strict run is its lenient run, except that it fails where the lenient one reports more
than unknown fields. -/
structure Aligned (check : Check α) : Prop where
  /-- No report is taken back. -/
  extends_warnings : ∀ {strict before a after},
    check.result strict before = .ok (a, after) → before <+: after
  strict_iff : ∀ {before a after}, check.result true before = .ok (a, after) ↔
    check.result false before = .ok (a, after) ∧ AddsUnknownFields before after

theorem aligned_pure (a : α) : Aligned (pure a : Check α) where
  extends_warnings := by
    rintro strict before b after done
    cases done
    exact List.prefix_rfl
  strict_iff := by
    intro before b after
    simp only [result_pure]
    constructor
    · intro done
      cases done
      exact ⟨rfl, .refl _⟩
    · exact And.left

theorem aligned_throw (p : Problem) : Aligned (throw p : Check α) where
  extends_warnings := nofun
  strict_iff := by simp

theorem aligned_warn_unknownField (key : String) : Aligned (warn (.unknownField key)) where
  extends_warnings := by
    rintro strict before a after done
    cases done
    exact List.prefix_append ..
  strict_iff := by
    intro before a after
    simp only [result_warn]
    constructor
    · intro done
      cases done
      refine ⟨rfl, [.unknownField key], rfl, ?_⟩
      intro w member
      exact ⟨key, List.mem_singleton.mp member⟩
    · exact And.left

theorem Aligned.bind {check : Check α} {next : α → Check β} (first : Aligned check)
    (second : ∀ a, Aligned (next a)) : Aligned (check >>= next) where
  extends_warnings := by
    intro strict before b after done
    obtain ⟨a, middle, early, late⟩ := result_bind_eq_ok_iff.mp done
    exact (first.extends_warnings early).trans ((second a).extends_warnings late)
  strict_iff := by
    intro before b after
    simp only [result_bind_eq_ok_iff]
    constructor
    · rintro ⟨a, middle, early, late⟩
      obtain ⟨early, earlyUnknown⟩ := first.strict_iff.mp early
      obtain ⟨late, lateUnknown⟩ := (second a).strict_iff.mp late
      exact ⟨⟨a, middle, early, late⟩, earlyUnknown.trans lateUnknown⟩
    · rintro ⟨⟨a, middle, early, late⟩, unknown⟩
      obtain ⟨earlyUnknown, lateUnknown⟩ :=
        unknown.split (first.extends_warnings early) ((second a).extends_warnings late)
      exact ⟨a, middle, first.strict_iff.mpr ⟨early, earlyUnknown⟩,
        (second a).strict_iff.mpr ⟨late, lateUnknown⟩⟩

/-- A check that strict runs refuse and that lenient runs report. -/
structure Refused (check : Check α) : Prop where
  strict_error : ∀ {before a after}, check.result true before ≠ .ok (a, after)
  lenient_reports : ∀ {before a after}, check.result false before = .ok (a, after) →
    ∃ w, ¬ w.IsUnknownField ∧ before ++ [w] <+: after

theorem Refused.aligned {check : Check α} (refused : Refused check) : Aligned check where
  extends_warnings := by
    intro strict before a after done
    cases strict with
    | true => exact absurd done refused.strict_error
    | false =>
        obtain ⟨w, _, reported⟩ := refused.lenient_reports done
        exact (List.prefix_append ..).trans reported
  strict_iff := by
    intro before a after
    constructor
    · intro done
      exact absurd done refused.strict_error
    · rintro ⟨done, unknown⟩
      obtain ⟨w, known, reported⟩ := refused.lenient_reports done
      exact absurd unknown (AddsUnknownFields.not_of_prefix known reported)

theorem refused_reject (issue : Issue) (instead : α) : Refused (reject issue instead) where
  strict_error := nofun
  lenient_reports := by
    intro before a after done
    cases done
    exact ⟨.replaced issue, nofun, List.prefix_rfl⟩

theorem aligned_reject (issue : Issue) (instead : α) : Aligned (reject issue instead) :=
  (refused_reject issue instead).aligned

/-- Checks that run alike are aligned alike. -/
theorem Aligned.congr {check other : Check α} (aligned : Aligned other)
    (alike : ∀ strict before, check.result strict before = other.result strict before) :
    Aligned check where
  extends_warnings done := aligned.extends_warnings (alike .. ▸ done)
  strict_iff := by
    intro before a after
    rw [alike, alike]
    exact aligned.strict_iff

theorem Aligned.forIn {step : α → β → Check (ForInStep β)} (items : List α) (first : β)
    (each : ∀ a b, Aligned (step a b)) : Aligned (ForIn.forIn items first step) := by
  induction items generalizing first with
  | nil => exact aligned_pure _
  | cons item rest ih =>
      rw [List.forIn_cons]
      refine (each item first).bind fun next => ?_
      cases next with
      | yield b => exact ih b
      | done b => exact aligned_pure b

theorem aligned_asText (field fallback : String) (v : Json.Value) :
    Aligned (asText field fallback v) := by
  cases v with
  | null => exact aligned_pure _
  | string s => exact aligned_pure _
  | bool | int | float | array | object => exact aligned_reject ..

theorem aligned_asItems (field : String) (index : Nat) (items : List Json.Value) :
    Aligned (asItems field index items) := by
  induction items generalizing index with
  | nil => exact aligned_pure _
  | cons item rest ih =>
      have discarded {issue : Issue} :
          Aligned (do reject issue (); asItems field (index + 1) rest) :=
        (aligned_reject issue ()).bind fun _ => ih _
      cases item with
      | string s => exact (ih _).bind fun more => aligned_pure _
      | null | bool | int | float | array | object => exact discarded

/-- A text stands for a list in lenient checks only, and with a report. -/
theorem refused_asTexts_string (field : String) (fallback : List String) (mayBeEmpty : Bool)
    (s : String) : Refused (asTexts field fallback mayBeEmpty (.string s)) where
  strict_error := nofun
  lenient_reports := by
    intro before a after done
    cases done
    exact ⟨.listFromText field, nofun, List.prefix_rfl⟩

theorem aligned_asTexts (field : String) (fallback : List String) (mayBeEmpty : Bool)
    (v : Json.Value) : Aligned (asTexts field fallback mayBeEmpty v) := by
  cases v with
  | null => exact (aligned_pure fallback).congr fun strict _ => by cases strict <;> rfl
  | string s => exact (refused_asTexts_string field fallback mayBeEmpty s).aligned
  | array items =>
      have listed := (aligned_asItems field 0 items).bind fun found =>
        aligned_pure (orFallback mayBeEmpty fallback found)
      exact listed.congr fun strict _ => by cases strict <;> rfl
  | bool | int | float | object =>
      exact (aligned_reject _ fallback).congr fun strict _ => by cases strict <;> rfl

theorem aligned_notNegative (field : String) (fallback number : Int) :
    Aligned (notNegative field fallback number) := by
  unfold notNegative
  split
  · split
    · exact aligned_reject ..
    · exact aligned_throw _
  · exact aligned_pure _

/-- A text stands for a number in lenient checks only, and with a report. -/
theorem refused_asCount_string (field : String) (fallback : Int) (s : String) :
    Refused (asCount field fallback (.string s)) where
  strict_error := nofun
  lenient_reports := by
    intro before a after done
    rw [asCount, result_read_bind] at done
    dsimp only at done
    split at done
    · split at done
      · next n _ =>
          obtain ⟨_, middle, reported, checked⟩ := result_bind_eq_ok_iff.mp done
          cases reported
          exact ⟨.numberFromText field s n, nofun,
            (aligned_notNegative field fallback n).extends_warnings checked⟩
      · cases done
      · cases done
    · exact (refused_reject _ fallback).lenient_reports done

theorem aligned_asCount (field : String) (fallback : Int) (v : Json.Value) :
    Aligned (asCount field fallback v) := by
  cases v with
  | null => exact (aligned_pure fallback).congr fun strict _ => by cases strict <;> rfl
  | int n =>
      exact (aligned_notNegative field fallback n).congr fun strict _ => by cases strict <;> rfl
  | string s => exact (refused_asCount_string field fallback s).aligned
  | bool | float | array | object =>
      exact (aligned_reject _ fallback).congr fun strict _ => by cases strict <;> rfl

theorem aligned_asIdentifier (field fallback : String) (v : Json.Value) :
    Aligned (asIdentifier field fallback v) := by
  refine (aligned_asText field fallback v).bind fun name => ?_
  split
  · exact aligned_pure _
  · exact aligned_reject ..

theorem aligned_keepIdentifiers (field : String) (found names : List String) :
    Aligned (keepIdentifiers field found names) := by
  induction names generalizing found with
  | nil => exact aligned_pure _
  | cons name rest ih =>
      rw [keepIdentifiers]
      split
      · exact ih _
      · exact (aligned_reject ..).bind fun _ => ih _

theorem aligned_asIdentifiers (field : String) (fallback : List String) (v : Json.Value) :
    Aligned (asIdentifiers field fallback v) :=
  (aligned_asTexts field fallback false v).bind fun names =>
    (aligned_keepIdentifiers field [] names).bind fun _ => aligned_pure _

theorem aligned_asPattern [Host] (field fallback : String) (v : Json.Value) :
    Aligned (asPattern field fallback v) := by
  refine (aligned_asText field fallback v).bind fun pattern => ?_
  split
  · exact aligned_pure _
  · exact aligned_throw _
  · exact aligned_throw _
  · exact aligned_throw _
  · exact aligned_throw _
  · exact aligned_throw _
  · exact aligned_reject ..

theorem aligned_asLevel (fallback : String) (v : Json.Value) : Aligned (asLevel fallback v) := by
  refine (aligned_asText "log_level" fallback v).bind fun text => ?_
  dsimp only
  split
  · exact aligned_pure _
  · exact aligned_reject ..

theorem aligned_asLogFile [Host] (homes : Files.Path.Homes) (fallback : String) (v : Json.Value) :
    Aligned (asLogFile homes fallback v) := by
  refine (aligned_asText "log_file" fallback v).bind fun path => ?_
  split
  · exact aligned_throw _
  · exact aligned_pure _

theorem aligned_checkFields [Host] (homes : Files.Path.Homes) (given : Given) :
    Aligned (checkFields homes given) :=
  (Aligned.forIn _ _ fun _ _ =>
    (aligned_warn_unknownField _).bind fun _ => aligned_pure _).bind fun _ =>
  (aligned_asText ..).bind fun _ =>
  (aligned_asIdentifier ..).bind fun _ =>
  (aligned_asIdentifiers ..).bind fun _ =>
  (aligned_asPattern ..).bind fun _ =>
  (aligned_asCount ..).bind fun _ =>
  (aligned_asTexts ..).bind fun _ =>
  (aligned_asLevel ..).bind fun _ =>
  (aligned_asLogFile ..).bind fun _ =>
  aligned_pure _

theorem aligned_checkConfig [Host] (homes : Files.Path.Homes) (v : Json.Value) :
    Aligned (checkConfig homes v) := by
  cases v with
  | object given => exact aligned_checkFields homes given
  | null | bool | int | float | string | array => exact aligned_reject ..

end Check

theorem validate_eq_ok_iff [Host] {homes : Files.Path.Homes} {v : Json.Value} {strict : Bool}
    {validated : Validated} :
    validate homes v strict = .ok validated ↔
      (checkConfig homes v).result strict [] = .ok (validated.config, validated.warnings) := by
  rw [validate, Check.result]
  split
  · next config warnings done =>
      rw [done, Except.ok.injEq, Except.ok.injEq, Prod.mk.injEq]
      constructor
      · rintro rfl
        exact ⟨rfl, rfl⟩
      · rintro ⟨rfl, rfl⟩
        rfl
  · next p failed =>
      rw [failed]
      constructor <;> nofun

/-- A strict check gives what a lenient one gives that reports nothing but unknown fields. -/
theorem validate_strict_eq_ok_iff [Host] {homes : Files.Path.Homes} {v : Json.Value}
    {validated : Validated} :
    validate homes v true = .ok validated ↔
      validate homes v false = .ok validated ∧
        ∀ w ∈ validated.warnings, SaysUnknownField w.message := by
  rw [validate_eq_ok_iff, validate_eq_ok_iff, (Check.aligned_checkConfig homes v).strict_iff]
  refine and_congr_right fun _ => ?_
  simp only [AddsUnknownFields, List.nil_append, exists_eq_left', Warning.saysUnknownField_iff]

/-- A strict check gives a result just where a lenient one does and reports nothing but unknown fields,
and then both give the same configuration and the same warnings. -/
theorem validate_strict_iff_lenient [Host] (homes : Files.Path.Homes) (v : Json.Value) :
    ((∃ strict, validate homes v true = .ok strict) ↔
      ∃ lenient, validate homes v false = .ok lenient ∧
        ∀ w ∈ lenient.warnings, SaysUnknownField w.message) ∧
    ∀ strict lenient, validate homes v true = .ok strict → validate homes v false = .ok lenient →
      strict.config = lenient.config ∧ strict.warnings = lenient.warnings := by
  refine ⟨exists_congr fun _ => validate_strict_eq_ok_iff, ?_⟩
  intro strict lenient ofStrict ofLenient
  have same := (validate_strict_eq_ok_iff.mp ofStrict).1
  rw [ofLenient] at same
  cases same
  exact ⟨rfl, rfl⟩

end SketchSurvey.Settings
