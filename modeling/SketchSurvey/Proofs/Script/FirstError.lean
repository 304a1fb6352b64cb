import SketchSurvey.Proofs.Script.Agreement
import SketchSurvey.Proofs.Script.Preorder
import SketchSurvey.Proofs.Text.Trimmed

/-! What is said of a text that is no script. The search for its first error passes over the nodes that are
not marked, and finds what a search among all nodes would find; the message names the line where that is. -/

set_option autoImplicit false

namespace SketchSurvey.Script

namespace Node

/-- A place where the text did not fit, or a token that was put in. -/
def isFault (n : Node) : Bool := n.kind == "ERROR" || n.missing

/-- A node is marked if there is a fault at or below it. That is not asked of what stands in a fault. -/
inductive Marked : Node → Prop where
  | intro {n} : (n.hasError = true ↔ ∃ m ∈ n.preorder, m.isFault = true) →
      (n.isFault = false → ∀ c ∈ n.children, Marked c) → Marked n

/-- A node stands in a text, in the row that the line feeds before it make. -/
def StandsIn (text : String) (n : Node) : Prop :=
  ∃ before after, text = before ++ n.text ++ after ∧ n.row = before.toList.count '\n'

variable {n m : Node} {text : String}

theorem Marked.own (marked : n.Marked) : n.hasError = true ↔ ∃ m ∈ n.preorder, m.isFault = true := by
  cases marked with
  | intro own _ => exact own

/-- The search among nodes passes over no fault. -/
theorem firstErrorIn?_eq (nodes : List Node) (marked : ∀ c ∈ nodes, c.Marked)
    (found : ∀ c ∈ nodes, c.firstError? = c.preorder.find? isFault) :
    firstErrorIn? nodes = (nodes.flatMap preorder).find? isFault := by
  induction nodes with
  | nil => rfl
  | cons c rest ih =>
      obtain ⟨marked, markedRest⟩ := List.forall_mem_cons.mp marked
      obtain ⟨found, foundRest⟩ := List.forall_mem_cons.mp found
      rw [firstErrorIn?, ih markedRest foundRest, List.flatMap_cons, List.find?_append, ← found]
      split
      · cases c.firstError? <;> rfl
      · next passed =>
          rw [Bool.or_eq_true, not_or] at passed
          have faultless : c.preorder.find? isFault = none := by
            rw [List.find?_eq_none]
            exact fun m inside fault => passed.1 (marked.own.mpr ⟨m, inside, fault⟩)
          rw [found, faultless, Option.none_or]

/-- The search that passes over what is not marked finds the first fault among all nodes. -/
theorem Marked.firstError?_eq (marked : n.Marked) : n.firstError? = n.preorder.find? isFault := by
  induction marked with
  | @intro n own below ih =>
      cases n with
      | mk kind named missing hasError row text field children =>
          rw [firstError?, preorder_eq, List.find?_cons]
          cases fault : isFault (.mk kind named missing hasError row text field children) with
          | true => rw [if_pos (show (kind == "ERROR" || missing) = true from fault)]
          | false =>
              rw [if_neg (by rw [show (kind == "ERROR" || missing) = false from fault]; decide)]
              exact firstErrorIn?_eq children (below fault) (ih fault)

theorem firstLeaf_mem_preorder (n : Node) : n.firstLeaf ∈ n.preorder := by
  fun_induction firstLeaf n with
  | case1 => exact self_mem_preorder _
  | case2 kind named missing hasError row text field c rest ih =>
      exact mem_preorder_of_child List.mem_cons_self ih

theorem StandsIn.line_le (stands : n.StandsIn text) : n.line ≤ 1 + text.toList.count '\n' := by
  obtain ⟨before, after, same, row⟩ := stands
  rw [line, row, same, String.toList_append, String.toList_append, List.count_append, List.count_append]
  omega

theorem StandsIn.isInfix (stands : n.StandsIn text) : n.text.toList <:+: text.toList := by
  obtain ⟨before, after, same, -⟩ := stands
  exact ⟨before.toList, after.toList, by rw [same, String.toList_append, String.toList_append]⟩

end Node

/-- A token that a message can show of a text. -/
structure IsShownToken (text token : String) : Prop where
  nonempty : token ≠ ""
  short : token.length ≤ 40
  notBlank : ∀ c ∈ token.toList.head?, Text.isBlank c = false
  isInfix : token.toList <:+: text.toList

theorem isShownToken_take {text leaf : String} (isInfix : leaf.toList <:+: text.toList)
    (filled : ¬ (Text.trim leaf).isEmpty = true) :
    IsShownToken text (String.ofList ((Text.trim leaf).toList.take tokenLimit)) := by
  obtain ⟨c, rest, chars⟩ : ∃ c rest, (Text.trim leaf).toList = c :: rest :=
    List.exists_cons_of_ne_nil fun empty =>
      filled (String.isEmpty_iff.mpr (String.toList_inj.mp empty))
  have inLeaf : (Text.trim leaf).toList <:+: leaf.toList := by
    rw [Text.trim, String.toList_ofList]
    exact Text.isInfix_trimList _
  have first := (Text.isTrimmed_trim leaf).first
  rw [chars] at first inLeaf ⊢
  constructor
  · intro empty
    have none' := congrArg String.toList empty
    rw [String.toList_ofList] at none'
    cases none'
  · rw [String.length_ofList]
    exact List.length_take_le ..
  · rw [String.toList_ofList]
    exact first
  · rw [String.toList_ofList]
    exact ((List.take_prefix _ _).isInfix.trans inLeaf).trans isInfix

/-- What the message for a text that is no script says of its first fault. -/
inductive Node.IsReported (text : String) (n : Node) : String → Prop where
  | expected : n.missing = true → n.IsReported text ("Line " ++ toString n.line ++ ": Expected " ++ n.kind)
  | unexpectedEnd : n.missing = false →
      n.IsReported text ("Line " ++ toString n.line ++ ": Unexpected end of input")
  | unexpected {token : String} : n.missing = false → IsShownToken text token →
      n.IsReported text ("Line " ++ toString n.line ++ ": Unexpected token " ++ token)

/-- Every message of a fault begins with its line. -/
theorem Node.IsReported.ne_bare {text message : String} {n : Node} (reported : n.IsReported text message) :
    message ≠ SyntaxProblem.somewhere.message := by
  have begins (rest : String) : ("Line " ++ rest).toList.head? = some 'L' := by
    rw [String.toList_append]
    rfl
  have first : message.toList.head? = some 'L' := by
    cases reported <;> simp only [String.append_assoc, begins]
  intro bare
  rw [bare] at first
  cases first

theorem Node.isReported_problem {root n : Node} {text : String} (first : root.firstError? = some n)
    (stands : n.firstLeaf.StandsIn text) : n.IsReported text root.problem.message := by
  rw [Node.problem, first]
  dsimp only
  cases missing : n.missing with
  | true =>
      rw [if_pos rfl]
      exact .expected missing
  | false =>
      rw [if_neg Bool.false_ne_true]
      split
      · exact .unexpectedEnd missing
      · next filled => exact .unexpected missing (isShownToken_take stands.isInfix filled)

/-- A text is rejected for the first fault among all nodes of its tree, and the message names the line of
that fault. A token that it names stands in the text. -/
theorem parseWith_rejected {read : String → Node} {text fileName : String} {e : SyntaxError}
    (marked : (read text).Marked) (stands : (read text).Everywhere (Node.StandsIn text))
    (rejected : parseWith read text fileName = .error (.notScript e)) :
    ∃ n, (read text).firstError? = some n ∧ (read text).preorder.find? Node.isFault = some n ∧
      1 ≤ n.line ∧ n.line ≤ 1 + text.toList.count '\n' ∧
      n.IsReported text e.message ∧ e.message ≠ "Unexpected token" := by
  rw [parseWith] at rejected
  split at rejected
  · next isMarked =>
      obtain rfl := ParseProblem.notScript.inj (Except.error.inj rejected)
      obtain ⟨m, inside, fault⟩ := marked.own.mp isMarked
      obtain ⟨n, found⟩ : ∃ n, (read text).preorder.find? Node.isFault = some n :=
        Option.isSome_iff_exists.mp (List.find?_isSome.mpr ⟨m, inside, fault⟩)
      have first := marked.firstError?_eq.trans found
      have below := List.mem_of_find?_eq_some found
      have reported := Node.isReported_problem first ((stands.lower below).of_mem n.firstLeaf_mem_preorder)
      exact ⟨n, first, found, Nat.succ_pos _, (stands.of_mem below).line_le, reported, reported.ne_bare⟩
  · generalize Lowering.program (read text) = lowered at rejected
    cases lowered <;> cases rejected

section Example

/-- The tree of a name, and of a text with an escape that is none on the next line. The fault inside the
fault is not marked. -/
def brokenEscape : Node :=
  .mk "program" true false true 0 "a\n\"\\x\"" none [
    .mk "expression_statement" true false false 0 "a" none [
      .mk "identifier" true false false 0 "a" none []],
    .mk "expression_statement" true false true 1 "\"\\x\"" none [
      .mk "string" true false true 1 "\"\\x\"" none [
        .mk "\"" false false false 1 "\"" none [],
        .mk "ERROR" true false true 1 "\\x" none [
          .mk "ERROR" true false false 1 "\\x" none []],
        .mk "\"" false false false 1 "\"" none []]]]

theorem marked_brokenEscape : brokenEscape.Marked := by
  have quote : (Node.mk "\"" false false false 1 "\"" none []).Marked := .intro (by decide) nofun
  refine .intro (by decide) fun _ => List.forall_mem_cons.mpr ⟨?name, List.forall_mem_singleton.mpr ?text⟩
  case name =>
    refine .intro (by decide) fun _ => List.forall_mem_singleton.mpr ?_
    exact .intro (by decide) nofun
  case text =>
    refine .intro (by decide) fun _ => List.forall_mem_singleton.mpr ?_
    refine .intro (by decide) fun _ => List.forall_mem_cons.mpr ⟨quote, List.forall_mem_cons.mpr ⟨?_, ?_⟩⟩
    · exact .intro (by decide) fun sound => absurd sound (by decide)
    · exact List.forall_mem_singleton.mpr quote

theorem standsIn_brokenEscape : brokenEscape.Everywhere (Node.StandsIn "a\n\"\\x\"") := by
  refine .of_forall_mem ?_
  simp only [brokenEscape, Node.preorder, preorderOf, List.append_nil, List.nil_append, List.cons_append,
    List.forall_mem_cons, Node.StandsIn, Node.text, Node.row]
  exact ⟨⟨"", "", by decide⟩, ⟨"", "\n\"\\x\"", by decide⟩, ⟨"", "\n\"\\x\"", by decide⟩,
    ⟨"a\n", "", by decide⟩, ⟨"a\n", "", by decide⟩, ⟨"a\n", "\\x\"", by decide⟩,
    ⟨"a\n\"", "\"", by decide⟩, ⟨"a\n\"", "\"", by decide⟩, ⟨"a\n\"\\x", "", by decide⟩,
    List.forall_mem_nil _⟩

theorem parseWith_rejected_brokenEscape :
    brokenEscape.Marked ∧ brokenEscape.Everywhere (Node.StandsIn "a\n\"\\x\"") ∧
      ∃ e, parseWith (fun _ => brokenEscape) "a\n\"\\x\"" = .error (.notScript e) ∧
        e.message = "Line 2: Unexpected token \\x" ∧
        ∃ n, brokenEscape.firstError? = some n ∧ brokenEscape.preorder.find? Node.isFault = some n ∧
          n.IsReported "a\n\"\\x\"" e.message := by
  have rejected : parseWith (fun _ => brokenEscape) "a\n\"\\x\"" = .error
      (.notScript ⟨brokenEscape.problem, anonymous, "a\n\"\\x\""⟩) := rfl
  obtain ⟨n, first, found, -, -, reported, -⟩ :=
    parseWith_rejected marked_brokenEscape standsIn_brokenEscape rejected
  exact ⟨marked_brokenEscape, standsIn_brokenEscape, _, rejected, by rfl, n, first, found, reported⟩

end Example

end SketchSurvey.Script
