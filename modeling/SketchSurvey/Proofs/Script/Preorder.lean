import SketchSurvey.Proofs.Script.WellFormed

/-! The nodes of a concrete tree in the order of the text: each node before its children, and these one
after another. -/

set_option autoImplicit false

namespace SketchSurvey.Script

mutual

/-- A node, and then all nodes below it. Those without a name are among them. -/
def Node.preorder : Node → List Node
  | .mk kind named missing hasError row text field children =>
    .mk kind named missing hasError row text field children :: preorderOf children

def preorderOf : List Node → List Node
  | [] => []
  | c :: rest => c.preorder ++ preorderOf rest

end

theorem preorderOf_eq_flatMap (nodes : List Node) : preorderOf nodes = nodes.flatMap Node.preorder := by
  induction nodes with
  | nil => rfl
  | cons c rest ih => rw [preorderOf, ih, List.flatMap_cons]

namespace Node

variable {n c m : Node}

theorem preorder_eq (n : Node) : n.preorder = n :: n.children.flatMap preorder := by
  cases n
  rw [preorder, preorderOf_eq_flatMap]
  rfl

theorem self_mem_preorder (n : Node) : n ∈ n.preorder := by
  rw [preorder_eq]
  exact List.mem_cons_self

theorem mem_preorder_of_child (isChild : c ∈ n.children) (inside : m ∈ c.preorder) : m ∈ n.preorder := by
  rw [preorder_eq]
  exact List.mem_cons_of_mem _ (List.mem_flatMap.mpr ⟨c, isChild, inside⟩)

/-- What holds everywhere holds everywhere below each node in the order of the text. -/
theorem Everywhere.lower {P : Node → Prop} (all : n.Everywhere P) (inside : m ∈ n.preorder) :
    m.Everywhere P := by
  induction all with
  | @intro n own below ih =>
      rw [preorder_eq] at inside
      rcases List.mem_cons.mp inside with rfl | lower
      · exact .intro own below
      · obtain ⟨c, isChild, inChild⟩ := List.mem_flatMap.mp lower
        exact ih c isChild inChild

theorem Everywhere.of_forall_mem {P : Node → Prop} {n : Node} (each : ∀ m ∈ n.preorder, P m) :
    n.Everywhere P :=
  .intro (each n n.self_mem_preorder) fun _ isChild =>
    of_forall_mem fun m inside => each m (mem_preorder_of_child isChild inside)
termination_by sizeOf n
decreasing_by exact sizeOf_lt_of_mem isChild

theorem Everywhere.of_mem {P : Node → Prop} (all : n.Everywhere P) (inside : m ∈ n.preorder) : P m :=
  (all.lower inside).own

end Node

end SketchSurvey.Script
