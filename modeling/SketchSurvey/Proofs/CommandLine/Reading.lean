import Mathlib.Data.List.Forall2
import SketchSurvey.CommandLine.Reader

/-! How arguments are read whose options stand alone: an option that has its value in the same argument, or
needs none, takes nothing from the arguments behind it. -/

set_option autoImplicit false

namespace SketchSurvey.CommandLine

section Kinds

variable {c : CommandSpec} {o : OptionSpec} {name text : String} {more : List Char}

/-- What does not start with a hyphen is no option. -/
theorem kindOf_plain (noHyphen : text.toList.head? ≠ some '-') : c.kindOf text = .ok .plain := by
  unfold CommandSpec.kindOf
  split
  · rfl
  · next first rest same =>
      have other : (first != '-') = true := by
        rw [same, List.head?_cons, ne_eq, Option.some.injEq] at noHyphen
        simpa using noHyphen
      rw [if_pos other]

theorem splitEquals?_append (plain : '=' ∉ name.toList) (value : String) :
    splitEquals? (name ++ "=" ++ value) = some (name, value) := by
  have chars : (name ++ "=" ++ value).toList = name.toList ++ '=' :: value.toList := by
    rw [String.toList_append, String.toList_append, List.append_assoc]
    rfl
  have before : (name.toList ++ '=' :: value.toList).takeWhile (· != '=') = name.toList := by
    rw [List.takeWhile_append_of_pos fun c member => by
      simp only [bne_iff_ne, ne_eq]
      rintro rfl
      exact plain member]
    rw [List.takeWhile_cons_of_neg (by decide), List.append_nil]
  unfold splitEquals?
  simp only [chars, before, List.drop_left, String.ofList_toList]

section Valued

variable (starts : name.toList = '-' :: '-' :: more) (plain : '=' ∉ name.toList)
  (others : ∀ o ∈ c.options, ∀ n ∈ o.names, '=' ∉ n.toList) (value : String)

include starts in
theorem toList_valued : (name ++ "=" ++ value).toList = '-' :: '-' :: (more ++ '=' :: value.toList) := by
  rw [String.toList_append, String.toList_append, starts]
  simp

include starts others in
theorem byName?_valued : byName? c.options (name ++ "=" ++ value) = none := by
  rw [byName?, List.find?_eq_none]
  intro o member holds
  refine others o member _ (List.contains_iff_mem.mp holds) ?_
  rw [toList_valued starts]
  simp

include starts plain others

/-- An option with its value behind an equals sign. -/
theorem kindOf_value (known : byName? c.options name = some o) :
    c.kindOf (name ++ "=" ++ value) = .ok (.found { option := o, value := some value }) := by
  unfold CommandSpec.kindOf
  simp only [toList_valued starts, byName?_valued starts others, splitEquals?_append plain, known,
    Option.bind_some, Option.map_some]
  rfl

/-- What has the name of no option, nor the start of one, is taken for none. -/
theorem exists_kindOf_unnamed (unknown : ∀ o ∈ c.options, ∀ n ∈ o.names, ¬ name.toList <+: n.toList) :
    ∃ kind, c.kindOf (name ++ "=" ++ value) = .ok kind := by
  have unnamed : byName? c.options name = none := by
    rw [byName?, List.find?_eq_none]
    exact fun o member holds => unknown o member _ (List.contains_iff_mem.mp holds) (List.prefix_refl _)
  have nothing : completions c.options (name ++ "=" ++ value) = [] := by
    unfold completions
    simp only [toList_valued starts, splitEquals?_append plain, List.flatMap_eq_nil_iff, List.map_eq_nil_iff,
      List.filter_eq_nil_iff, List.isPrefixOf_iff_prefix]
    exact unknown
  have kind : c.kindOf (name ++ "=" ++ value) =
      if looksNegative (name ++ "=" ++ value) || (name ++ "=" ++ value).toList.contains ' ' then .ok .plain
      else .ok .unknown := by
    unfold CommandSpec.kindOf
    simp only [toList_valued starts, byName?_valued starts others, splitEquals?_append plain, unnamed,
      Option.bind_some, Option.map_none, nothing]
    rfl
  rw [kind]
  split
  · exact ⟨_, rfl⟩
  · exact ⟨_, rfl⟩

end Valued

end Kinds

section Marks

variable {c : CommandSpec} {args more : List String} {marked others : List Marked}

/-- Arguments among which no mark ends the options, and what they are. -/
def AreMarked (c : CommandSpec) (args : List String) (marked : List Marked) : Prop :=
  List.Forall₂ (fun text m => text ≠ "--" ∧ m.text = text ∧ c.kindOf text = .ok m.kind) args marked

theorem AreMarked.markAll (areMarked : AreMarked c args marked) : c.markAll args = .ok marked := by
  induction areMarked with
  | nil => rfl
  | @cons text m args marked isMarked _ ih =>
      obtain ⟨notDashes, rfl, isKind⟩ := isMarked
      rw [CommandSpec.markAll, if_neg (by simpa using notDashes), isKind, ih]
      rfl

theorem AreMarked.append (first : AreMarked c args marked) (second : AreMarked c more others) :
    AreMarked c (args ++ more) (marked ++ others) :=
  List.rel_append first second

theorem AreMarked.of_plain (noHyphen : ∀ text ∈ args, text.toList.head? ≠ some '-') :
    AreMarked c args (args.map fun text => ⟨text, .plain⟩) := by
  unfold AreMarked
  rw [List.forall₂_map_right_iff, List.forall₂_same]
  intro text member
  refine ⟨?_, rfl, kindOf_plain (noHyphen text member)⟩
  rintro rfl
  exact noHyphen "--" member rfl

end Marks

section Options

variable {β : Type} {c : CommandSpec} {args : List String} {settings : List Setting}

/-- An argument that is an option by itself, and what it sets. -/
structure Sets (c : CommandSpec) (text : String) (s : Setting) : Prop where
  notDashes : text ≠ "--"
  found : ∃ f, c.kindOf text = .ok (.found f) ∧ ∀ rest, c.takeOption f rest = .ok (s, rest)

/-- Options are taken one after another, each with one step. -/
theorem readArgs_options (accept : List String → Except Stop β) (sets : List.Forall₂ (Sets c) args settings) :
    ∃ marked, AreMarked c args marked ∧ (∀ m ∈ marked, m.kind.isOption = true) ∧
      ∀ fuel (l : Level β) rest, c.readArgs accept (marked.length + fuel) l (marked ++ rest) =
        c.readArgs accept fuel { l with settings := l.settings ++ settings } rest := by
  induction sets with
  | nil =>
      refine ⟨[], .nil, List.forall_mem_nil _, fun fuel l rest => ?_⟩
      rw [List.length_nil, Nat.zero_add, List.append_nil, List.nil_append]
  | @cons text s args settings first _ ih =>
      obtain ⟨marked, areMarked, options, read⟩ := ih
      obtain ⟨f, isKind, taken⟩ := first.found
      refine ⟨⟨text, .found f⟩ :: marked, .cons ⟨first.notDashes, rfl, isKind⟩ areMarked,
        List.forall_mem_cons.mpr ⟨rfl, options⟩, fun fuel l rest => ?_⟩
      have some' : ¬ (!((Marked.mk text (.found f) :: (marked ++ rest)).any (·.kind.isOption))) = true := by
        simp [ArgumentKind.isOption]
      rw [List.length_cons, Nat.add_right_comm, List.cons_append, CommandSpec.readArgs, if_neg some', taken]
      change c.readArgs accept (marked.length + fuel) _ _ = _
      rw [read, List.append_assoc, List.singleton_append]

end Options

section Positionals

variable {β : Type} {c : CommandSpec} {accept : List String → Except Stop β} {l : Level β}
  {plains options : List Marked} {taken : β}

/-- The plain arguments that are the positional ones of a command: one, or at least one. -/
def Positional.Fits (p : Positional) (plains : List Marked) : Prop :=
  match p with
  | .one .. => plains.length = 1
  | .many .. => plains ≠ []
  | .command _ => False

theorem Positional.Fits.ne_nil {p : Positional} (fits : p.Fits plains) : plains ≠ [] := by
  rintro rfl
  cases p with
  | one => cases fits
  | many => exact fits rfl
  | command => exact fits

theorem takeWhile_options {p : Marked → Bool} (areOptions : ∀ m ∈ options, m.kind.isOption = true)
    (stops : ∀ m, m.kind.isOption = true → p m = false) : options.takeWhile p = [] := by
  cases options with
  | nil => rfl
  | cons m rest =>
      have first := stops m (areOptions m List.mem_cons_self)
      exact List.takeWhile_cons_of_neg (by rw [first]; exact Bool.false_ne_true)

theorem count_append {p : Positional} (fits : p.Fits plains) (arePlain : ∀ m ∈ plains, m.kind = .plain)
    (areOptions : ∀ m ∈ options, m.kind.isOption = true) : p.count (plains ++ options) = plains.length := by
  obtain ⟨⟨text, kind⟩, others, rfl⟩ := List.exists_cons_of_ne_nil fits.ne_nil
  obtain ⟨rfl, others'⟩ := List.forall_mem_cons.mp arePlain
  have noMark : (Marked.mk text .plain :: (others ++ options)).takeWhile (·.kind == .dashes) = [] := rfl
  unfold Positional.count
  simp only [List.cons_append, noMark, List.length_nil, List.drop_zero, Nat.zero_add, List.length_cons]
  cases p with
  | one =>
      obtain rfl : others = [] := List.length_eq_zero_iff.mp (Nat.succ.inj fits)
      have stops : options.takeWhile (·.kind == .dashes) = [] := by
        refine takeWhile_options areOptions fun m isOption => ?_
        cases kind : m.kind <;> rw [kind] at isOption <;> first | rfl | cases isOption
      simp only [List.nil_append, stops, List.length_nil, Nat.add_zero, Nat.zero_add]
  | many =>
      have stops : options.takeWhile (fun m => !m.kind.isOption) = [] :=
        takeWhile_options areOptions fun m isOption => by rw [isOption, Bool.not_true]
      have all : ∀ m ∈ others, (!m.kind.isOption) = true := by
        intro m member
        rw [others' m member]
        rfl
      rw [List.takeWhile_append_of_pos all, stops, List.append_nil, Nat.add_comm]
  | command => exact absurd fits id

theorem readArgs_nil (some' : l.positional.isSome = true) (fuel : Nat) : c.readArgs accept fuel l [] = .ok l := by
  cases fuel with
  | zero => rfl
  | succ fuel =>
      have nothing : (!([] : List Marked).any (·.kind.isOption)) = true := rfl
      rw [CommandSpec.readArgs, if_pos nothing, CommandSpec.takePositional, if_pos some']
      change Except.ok { l with extras := l.extras ++ [] } = _
      rw [List.append_nil]

theorem takePositional_append (none' : l.positional = none) (fits : c.positional.Fits plains)
    (arePlain : ∀ m ∈ plains, m.kind = .plain) (noDashes : ∀ m ∈ plains, m.text ≠ "--")
    (areOptions : ∀ m ∈ options, m.kind.isOption = true)
    (accepted : accept (plains.map (·.text)) = .ok taken) :
    c.takePositional accept l (plains ++ options) = .ok ({ l with positional := some taken }, options) := by
  have texts : c.positional.values plains = plains.map (·.text) := by
    have noMark : "--" ∉ plains.map (·.text) := by
      intro member
      obtain ⟨m, inside, isMark⟩ := List.mem_map.mp member
      exact noDashes m inside isMark
    unfold Positional.values
    split
    · rfl
    · exact List.erase_of_not_mem noMark
  have count := count_append fits arePlain areOptions
  have missing : ¬ l.positional.isSome = true := by simp [none']
  unfold CommandSpec.takePositional
  rw [if_neg missing, count]
  split
  · next zero =>
      rw [List.length_eq_zero_iff] at zero
      subst zero
      exact absurd rfl (fits.ne_nil)
  · rw [List.take_left, texts, accepted, List.drop_left]
    rfl

/-- The positional arguments are taken as they are, with options behind them or none. -/
theorem readArgs_positionals (none' : l.positional = none) (fits : c.positional.Fits plains)
    (arePlain : ∀ m ∈ plains, m.kind = .plain) (noDashes : ∀ m ∈ plains, m.text ≠ "--")
    (areOptions : ∀ m ∈ options, m.kind.isOption = true)
    (accepted : accept (plains.map (·.text)) = .ok taken) {settings : List Setting}
    (read : ∀ fuel (l : Level β) rest, c.readArgs accept (options.length + fuel) l (options ++ rest) =
      c.readArgs accept fuel { l with settings := l.settings ++ settings } rest) (fuel : Nat) :
    c.readArgs accept (options.length + fuel + 1) l (plains ++ options) =
      .ok { l with settings := l.settings ++ settings, positional := some taken } := by
  have taken' := takePositional_append none' fits arePlain noDashes areOptions accepted
  obtain ⟨⟨text, kind⟩, others, rfl⟩ := List.exists_cons_of_ne_nil fits.ne_nil
  obtain ⟨rfl, others'⟩ := List.forall_mem_cons.mp arePlain
  rw [List.cons_append] at taken' ⊢
  rw [CommandSpec.readArgs.eq_def]
  dsimp only
  rw [taken']
  cases options with
  | nil =>
      have nothing : settings = [] := by
        have same : Except.ok l = Except.ok { l with settings := l.settings ++ settings } := read 0 l []
        simpa using congrArg Level.settings (Except.ok.inj same)
      have noOption : (!(Marked.mk text .plain :: (others ++ [])).any (·.kind.isOption)) = true := by
        simp only [List.append_nil, List.any_cons, Bool.not_eq_true', Bool.or_eq_false_iff, List.any_eq_false]
        refine ⟨rfl, fun m member => ?_⟩
        rw [others' m member]
        exact Bool.false_ne_true
      rw [if_pos noOption, nothing, List.append_nil]
      change Except.ok { l with positional := some taken, extras := l.extras ++ [] } = _
      rw [List.append_nil]
  | cons m rest =>
      have someOption : ¬ (!(Marked.mk text .plain :: (others ++ m :: rest)).any (·.kind.isOption)) = true := by
        simp [areOptions m List.mem_cons_self]
      have fewer : (m :: rest).length < (Marked.mk text .plain :: (others ++ m :: rest)).length := by
        simp only [List.length_cons, List.length_append]
        omega
      have others := read fuel { l with positional := some taken } []
      rw [List.append_nil, readArgs_nil rfl] at others
      rw [if_neg someOption]
      dsimp only [bind, Except.bind]
      rw [if_pos fewer, others]

end Positionals

section Levels

variable {β : Type} {c : CommandSpec} {accept : List String → Except Stop β}
  {before paths after options more : List String} {settings settings' : List Setting} {taken : β}

/-- A command is read from its positional arguments with options before and behind them. -/
theorem readAll_positionals (first : List.Forall₂ (Sets c) before settings)
    (last : List.Forall₂ (Sets c) after settings') (noHyphen : ∀ p ∈ paths, p.toList.head? ≠ some '-')
    (fits : c.positional.Fits (paths.map fun text => ⟨text, .plain⟩)) (accepted : accept paths = .ok taken) :
    c.readAll accept (before ++ (paths ++ after)) =
      .ok { settings := settings ++ settings', positional := some taken } := by
  obtain ⟨marked, areMarked, areOptions, read⟩ := readArgs_options accept first
  obtain ⟨marked', areMarked', areOptions', read'⟩ := readArgs_options accept last
  have arePlain := AreMarked.of_plain (c := c) noHyphen
  have all := (areMarked.append (arePlain.append areMarked')).markAll
  have isPlain : ∀ m ∈ paths.map fun text => Marked.mk text .plain, m.kind = .plain ∧ m.text ≠ "--" := by
    intro m member
    obtain ⟨text, inside, rfl⟩ := List.mem_map.mp member
    refine ⟨rfl, ?_⟩
    rintro rfl
    exact noHyphen "--" inside rfl
  have accepted' : accept ((paths.map fun text => Marked.mk text .plain).map (·.text)) = .ok taken := by
    rw [List.map_map]
    simpa [Function.comp_def] using accepted
  generalize (paths.map fun text => Marked.mk text .plain) = plains at *
  have steps : 2 * (marked ++ (plains ++ marked')).length + 1 =
      marked.length + (marked'.length + (marked.length + 2 * plains.length + marked'.length) + 1) := by
    simp only [List.length_append]
    omega
  have done := readArgs_positionals rfl fits (fun m member => (isPlain m member).1)
    (fun m member => (isPlain m member).2) areOptions' accepted' read'
    (marked.length + 2 * plains.length + marked'.length) (l := { settings := [] ++ settings })
  unfold CommandSpec.readAll
  rw [all]
  dsimp only [bind, Except.bind]
  rw [steps, read, done]
  dsimp only
  split
  · rfl
  · rfl
  · next missing _ => cases missing

/-- A program is read from its options and the name of a command, with whatever is said to it. -/
theorem readAll_command {metavar name : String} (isCommand : c.positional = .command metavar)
    (sets : List.Forall₂ (Sets c) options settings) (noHyphen : name.toList.head? ≠ some '-')
    (kinds : ∀ text ∈ more, text ≠ "--" ∧ ∃ kind, c.kindOf text = .ok kind)
    (accepted : accept (name :: more) = .ok taken) :
    c.readAll accept (options ++ name :: more) = .ok { settings, positional := some taken } := by
  obtain ⟨marked, areMarked, -, read⟩ := readArgs_options accept sets
  obtain ⟨others, areMarked'⟩ : ∃ others, AreMarked c more others := by
    clear accepted
    induction more with
    | nil => exact ⟨[], .nil⟩
    | cons text more ih =>
        obtain ⟨⟨notDashes, kind, isKind⟩, rest⟩ := List.forall_mem_cons.mp kinds
        obtain ⟨others, areMarked⟩ := ih rest
        exact ⟨⟨text, kind⟩ :: others, .cons ⟨notDashes, rfl, isKind⟩ areMarked⟩
  have isName : AreMarked c [name] [⟨name, .plain⟩] :=
    AreMarked.of_plain (List.forall_mem_singleton.mpr noHyphen)
  have all := (areMarked.append (isName.append areMarked')).markAll
  have texts : others.map (·.text) = more := by
    clear all accepted kinds
    induction areMarked' with
    | nil => rfl
    | cons isMarked _ ih => rw [List.map_cons, isMarked.2.1, ih]
  have steps : 2 * (marked ++ ([Marked.mk name .plain] ++ others)).length + 1 =
      marked.length + (marked.length + 2 * others.length + 2 + 1) := by
    simp only [List.length_append, List.length_singleton]
    omega
  have taken' : c.takePositional accept { settings := [] ++ settings } (Marked.mk name .plain :: others) =
      .ok ({ settings, positional := some taken }, []) := by
    have noMark : (Marked.mk name .plain :: others).takeWhile (·.kind == .dashes) = [] := rfl
    have count : c.positional.count (Marked.mk name .plain :: others) =
        (Marked.mk name .plain :: others).length := by
      rw [isCommand, Positional.count, noMark, List.length_cons]
      simp only [List.length_nil, List.drop_zero]
      omega
    have values : c.positional.values (Marked.mk name .plain :: others) = name :: more := by
      rw [isCommand, ← texts]
      rfl
    unfold CommandSpec.takePositional
    rw [if_neg (by exact Bool.false_ne_true), count]
    split
    · next zero => cases zero
    · rw [List.take_length, values, accepted, List.drop_length]
      rfl
  unfold CommandSpec.readAll
  rw [← List.singleton_append, all]
  dsimp only [bind, Except.bind]
  rw [steps, read, List.singleton_append, CommandSpec.readArgs.eq_def]
  dsimp only
  rw [taken', isCommand]
  dsimp only [bind, Except.bind]
  have done : c.readArgs accept (marked.length + 2 * others.length + 2)
      { settings, positional := some taken } [] = .ok { settings, positional := some taken } :=
    readArgs_nil rfl _
  have fewer : ([] : List Marked).length < (Marked.mk name .plain :: others).length := Nat.succ_pos _
  rw [done, if_pos fewer]
  by_cases noOption : (!(Marked.mk name .plain :: others).any (·.kind.isOption)) = true
  · rw [if_pos noOption]
    rfl
  · rw [if_neg noOption]
    rfl

end Levels

end SketchSurvey.CommandLine
