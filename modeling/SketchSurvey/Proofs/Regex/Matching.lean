import SketchSurvey.Proofs.Regex.Escaped
import SketchSurvey.Regex.Matcher

/-! What it takes that a search finds something. The matcher goes through the choices in order and gives
characters back where it took too many, so it finds a match if there is any: characters match a text that
starts with them, a repetition matches any beginning that is made of its characters, alternatives match if
one of them does, and a search may start anywhere. -/

set_option autoImplicit false

namespace SketchSurvey.Regex

/-- What a match has come to after more characters, where `rest` follows them. -/
def Progress.past (p : Progress) (taken rest : List Char) : Progress where
  place := ⟨taken.reverse ++ p.place.before, rest, p.place.position + taken.length⟩
  groups := p.groups

theorem Progress.past_past (p : Progress) (first second middle rest : List Char) :
    (p.past first middle).past second rest = p.past (first ++ second) rest := by
  simp [Progress.past, Nat.add_assoc]

section Matching

variable {widths : List Node → Nat} {f : Flags} {length : Nat} {p : Progress} {k : Continue}

theorem isSome_orElse {α : Type} (first : Option α) (second : Unit → Option α) :
    (first.orElse second).isSome = true ↔ first.isSome = true ∨ (second ()).isSome = true := by
  cases first with
  | none => simp
  | some a => simp

theorem matchChar_isSome_iff {test : Char → Bool} :
    (matchChar test p k).isSome = true ↔
      ∃ c rest, p.place.after = c :: rest ∧ test c = true ∧ (k (p.past [c] rest)).isSome = true := by
  rw [matchChar, Place.next?]
  cases after : p.place.after with
  | nil => simp
  | cons c rest =>
      by_cases passes : test c = true
      · simp only [passes, if_true]
        constructor
        · intro found
          exact ⟨c, rest, rfl, passes, found⟩
        · rintro ⟨_, _, same, _, found⟩
          cases same
          exact found
      · simp only [passes]
        constructor
        · exact nofun
        · rintro ⟨_, _, same, passes', _⟩
          cases same
          exact absurd passes' passes

/-- Characters that are written out match a text that starts with them. -/
theorem matcherOf_literals_isSome_iff (exact : f.ignoreCase = false) (text : List Char) (nodes : List Node) :
    (matcherOf widths f length (literals text ++ nodes) p k).isSome = true ↔
      ∃ rest, p.place.after = text ++ rest ∧
        (matcherOf widths f length nodes (p.past text rest) k).isSome = true := by
  induction text generalizing p with
  | nil =>
      constructor
      · intro found
        exact ⟨p.place.after, rfl, found⟩
      · rintro ⟨rest, same, found⟩
        rw [List.nil_append] at same
        subst same
        exact found
  | cons c text ih =>
      have own (d : Char) : f.sameChar c.toNat d.toNat = true ↔ d = c := by
        rw [Flags.sameChar, exact, if_neg Bool.false_ne_true, beq_iff_eq, Char.toNat_inj, eq_comm]
      change (matchChar (fun d => f.sameChar c.toNat d.toNat) p fun q =>
        matcherOf widths f length (literals text ++ nodes) q k).isSome = true ↔ _
      rw [matchChar_isSome_iff]
      constructor
      · rintro ⟨d, middle, after, same, found⟩
        obtain rfl := (own d).mp same
        obtain ⟨rest, rfl, found⟩ := ih.mp found
        exact ⟨rest, after, by rwa [Progress.past_past] at found⟩
      · rintro ⟨rest, after, found⟩
        refine ⟨c, text ++ rest, after, (own c).mpr rfl, ih.mpr ⟨rest, rfl, ?_⟩⟩
        rwa [Progress.past_past]

/-- Something goes on after some characters of a kind, which with those before are enough. -/
def GoesOn (test : Char → Bool) (least : Nat) (k : Continue) (count : Nat) (p : Progress) : Prop :=
  ∃ taken rest, p.place.after = taken ++ rest ∧ (∀ c ∈ taken, test c = true) ∧
    least ≤ count + taken.length ∧ (k (p.past taken rest)).isSome = true

/-- None of the characters is taken, or the first one is. -/
theorem goesOn_iff {test : Char → Bool} {least count : Nat} :
    GoesOn test least k count p ↔ least ≤ count ∧ (k p).isSome = true ∨
      ∃ c rest, p.place.after = c :: rest ∧ test c = true ∧
        GoesOn test least k (count + 1) (p.past [c] rest) := by
  constructor
  · rintro ⟨taken, rest, after, each, long, found⟩
    cases taken with
    | nil =>
        left
        rw [List.nil_append] at after
        subst after
        exact ⟨long, found⟩
    | cons c taken =>
        right
        obtain ⟨passes, others⟩ := List.forall_mem_cons.mp each
        refine ⟨c, taken ++ rest, after, passes, taken, rest, rfl, others, ?_, ?_⟩
        · rw [List.length_cons] at long
          omega
        · rwa [Progress.past_past]
  · rintro (⟨long, found⟩ | ⟨c, _, after, passes, taken, rest, rfl, others, long, found⟩)
    · exact ⟨[], p.place.after, rfl, nofun, long, found⟩
    · refine ⟨c :: taken, rest, after, List.forall_mem_cons.mpr ⟨passes, others⟩, ?_, ?_⟩
      · rw [List.length_cons]
        omega
      · rwa [Progress.past_past] at found

/-- A repetition of one character matches any beginning that is made of such characters and is long enough.
The fuel is no bound: each round takes a character, and no round is the last for taking none. -/
theorem repeatGreedy_isSome_iff {test : Char → Bool} {least : Nat} (fuel count : Nat) {last : Option Nat}
    (enough : p.place.after.length < fuel) (earlier : ∀ position ∈ last, position < p.place.position) :
    (repeatGreedy (matchChar test) least none k fuel count last p).isSome = true ↔
      GoesOn test least k count p := by
  induction fuel generalizing count last p with
  | zero => omega
  | succ fuel ih =>
      have round {last' : Option Nat} (earlier' : ∀ position ∈ last', position ≤ p.place.position) :
          (matchChar test p fun q =>
              repeatGreedy (matchChar test) least none k fuel (count + 1) last' q).isSome = true ↔
            ∃ c rest, p.place.after = c :: rest ∧ test c = true ∧
              GoesOn test least k (count + 1) (p.past [c] rest) := by
        rw [matchChar_isSome_iff]
        apply exists_congr
        intro c
        apply exists_congr
        intro rest
        apply and_congr_right
        intro after
        rw [after, List.length_cons] at enough
        rw [ih (p := p.past [c] rest) (count + 1) (Nat.lt_of_succ_lt_succ enough)
          fun position known => Nat.lt_succ_of_le (earlier' position known)]
      rw [repeatGreedy, goesOn_iff]
      by_cases few : count < least
      · rw [if_pos few, round fun position known => Nat.le_of_lt (earlier position known), or_iff_right]
        exact fun enough => Nat.not_le.mpr few enough.1
      · have again : last ≠ some p.place.position := by
          rintro rfl
          exact Nat.lt_irrefl _ (earlier _ rfl)
        rw [if_neg few]
        simp only [Option.all_none, bne_iff_ne, Bool.true_and, again, ne_eq, not_false_eq_true, if_true]
        refine (isSome_orElse _ _).trans ?_
        rw [round fun position known => Nat.le_of_eq (Option.some.inj known).symm, or_comm,
          and_iff_right (Nat.not_lt.mp few)]

theorem matcherOfBranches_isSome_iff (exact : f.ignoreCase = false) (texts : List (List Char)) :
    (matcherOfBranches widths f length (texts.map literals) p k).isSome = true ↔
      ∃ text ∈ texts, ∃ rest, p.place.after = text ++ rest ∧ (k (p.past text rest)).isSome = true := by
  induction texts with
  | nil => simp [matcherOfBranches]
  | cons text texts ih =>
      have own : (matcherOf widths f length (literals text ++ []) p k).isSome = true ↔ _ :=
        matcherOf_literals_isSome_iff exact text []
      rw [List.append_nil] at own
      rw [List.map_cons, matcherOfBranches]
      refine (isSome_orElse _ _).trans ?_
      rw [own, ih]
      simp only [List.mem_cons, exists_eq_or_imp]
      rfl

theorem matcherOf_alternatives_isSome_iff (exact : f.ignoreCase = false) (first : List Char)
    (others : List (List Char)) :
    (matcherOf widths f length (alternatives first others) p k).isSome = true ↔
      ∃ text ∈ first :: others, ∃ rest, p.place.after = text ++ rest ∧
        (k (p.past text rest)).isSome = true := by
  cases others with
  | nil =>
      have own : (matcherOf widths f length (literals first ++ []) p k).isSome = true ↔ _ :=
        matcherOf_literals_isSome_iff exact first []
      rw [List.append_nil] at own
      rw [alternatives, own]
      simp only [List.mem_singleton, exists_eq_left]
      rfl
  | cons second others => exact matcherOfBranches_isSome_iff exact (first :: second :: others)

/-- An anchor takes nothing; it holds where it stands or it does not. -/
theorem matcherOf_anchor_isSome_iff {a : Anchor} {nodes : List Node} :
    (matcherOf widths f length (.anchor a :: nodes) p k).isSome = true ↔
      p.place.holds f a = true ∧ (matcherOf widths f length nodes p k).isSome = true := by
  change (if p.place.holds f a = true then matcherOf widths f length nodes p k else none).isSome = true ↔ _
  by_cases holds : p.place.holds f a = true
  · rw [if_pos holds, and_iff_right holds]
  · rw [if_neg holds]
    exact ⟨nofun, fun both => absurd both.1 holds⟩

/-- What is optional matches once, or what follows matches without it. -/
theorem repeatGreedy_once_isSome_iff {m : Matcher} (fuel : Nat) :
    (repeatGreedy m 0 (some 1) k (fuel + 2) 0 none p).isSome = true ↔
      (m p k).isSome = true ∨ (k p).isSome = true := by
  have once (q : Progress) (last : Option Nat) : repeatGreedy m 0 (some 1) k (fuel + 1) 1 last q = k q := by
    simp [repeatGreedy]
  rw [repeatGreedy]
  simp only [once]
  exact isSome_orElse _ _

/-- A search finds something if there is a match anywhere. -/
theorem searchFrom_isSome_iff {m : Matcher} (before : List Char) (position : Nat) (cs : List Char) :
    (searchFrom m before position cs).isSome = true ↔
      ∃ skipped rest, cs = skipped ++ rest ∧ (m { place :=
        ⟨skipped.reverse ++ before, rest, position + skipped.length⟩ } some).isSome = true := by
  induction cs generalizing before position with
  | nil =>
      rw [searchFrom]
      constructor
      · intro found
        exact ⟨[], [], rfl, found⟩
      · rintro ⟨skipped, rest, same, found⟩
        obtain ⟨rfl, rfl⟩ := List.append_eq_nil_iff.mp same.symm
        exact found
  | cons c cs ih =>
      have later : (searchFrom m (c :: before) (position + 1) cs).isSome = true ↔
          ∃ skipped rest, cs = skipped ++ rest ∧ (m { place :=
            ⟨(c :: skipped).reverse ++ before, rest, position + (c :: skipped).length⟩ } some).isSome = true := by
        rw [ih]
        simp only [List.reverse_cons, List.append_assoc, List.singleton_append, List.length_cons,
          Nat.add_assoc, Nat.add_comm 1]
      rw [searchFrom]
      cases here : m { place := ⟨before, c :: cs, position⟩ } some with
      | some found =>
          simp only [Option.isSome_some, true_iff]
          refine ⟨[], c :: cs, rfl, ?_⟩
          rw [List.reverse_nil, List.nil_append, List.length_nil, Nat.add_zero, here]
          rfl
      | none =>
          dsimp only
          rw [later]
          constructor
          · rintro ⟨skipped, rest, rfl, found⟩
            exact ⟨c :: skipped, rest, rfl, found⟩
          · rintro ⟨skipped, rest, same, found⟩
            cases skipped with
            | nil =>
                cases same
                rw [List.reverse_nil, List.nil_append, List.length_nil, Nat.add_zero, here] at found
                cases found
            | cons d skipped =>
                obtain ⟨rfl, later⟩ := List.cons.inj same
                exact ⟨skipped, rest, later, found⟩

end Matching

end SketchSurvey.Regex
