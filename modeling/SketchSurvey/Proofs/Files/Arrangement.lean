import SketchSurvey.Proofs.Files.Growth
import SketchSurvey.Proofs.Files.TextFile
import SketchSurvey.Proofs.Text.Sorted

/-! The order in which a file system has its nodes is not to be seen: where two of them have the same nodes
in the same places, all that can be asked about a path is answered alike. -/

set_option autoImplicit false

namespace SketchSurvey.Files.FileSystem

/-- The same nodes in the same places, whatever their order. -/
structure SameTree (fs other : FileSystem) : Prop where
  working : other.working = fs.working
  node? : ∀ location, other.node? location = fs.node? location

theorem find?_eq_some_iff_mem {nodes : List (Location × Node)} {location : Location} {node : Node}
    (distinct : (nodes.map Prod.fst).Nodup) :
    nodes.find? (·.1 == location) = some (location, node) ↔ (location, node) ∈ nodes := by
  constructor
  · exact List.mem_of_find?_eq_some
  · intro member
    induction nodes with
    | nil => cases member
    | cons first rest ih =>
        rw [List.map_cons, List.nodup_cons] at distinct
        obtain ⟨absent, distinct⟩ := distinct
        rcases List.mem_cons.mp member with rfl | member
        · exact List.find?_cons_of_pos (by simp)
        · have other : first.1 ≠ location := by
            rintro rfl
            exact absent (List.mem_map.mpr ⟨_, member, rfl⟩)
          rw [List.find?_cons_of_neg (by simpa using other), ih distinct member]

theorem node?_cons (fs : FileSystem) (name : String) (dir : Location) :
    fs.node? (name :: dir) = (fs.nodes.find? (·.1 == name :: dir)).map (·.2) := rfl

/-- To put the nodes in another order changes nothing, if there is one node in a place. -/
theorem sameTree_of_perm {fs other : FileSystem} (distinct : (fs.nodes.map Prod.fst).Nodup)
    (perm : fs.nodes.Perm other.nodes) (working : other.working = fs.working) : fs.SameTree other where
  working := working
  node? := by
    intro location
    have distinct' : (other.nodes.map Prod.fst).Nodup := (perm.map Prod.fst).nodup_iff.mp distinct
    have same : other.nodes.find? (·.1 == location) = fs.nodes.find? (·.1 == location) := by
      apply Option.ext
      rintro ⟨place, node⟩
      have placed {nodes : List (Location × Node)}
          (found : nodes.find? (·.1 == location) = some (place, node)) : place = location := by
        simpa using List.find?_some found
      constructor
      · intro found
        obtain rfl := placed found
        exact (find?_eq_some_iff_mem distinct).mpr
          (perm.mem_iff.mpr ((find?_eq_some_iff_mem distinct').mp found))
      · intro found
        obtain rfl := placed found
        exact (find?_eq_some_iff_mem distinct').mpr
          (perm.mem_iff.mp ((find?_eq_some_iff_mem distinct).mp found))
    cases location with
    | nil => rfl
    | cons name dir => rw [node?_cons, node?_cons, same]

theorem mem_namesIn_iff {fs : FileSystem} {dir : Location} {name : String} :
    name ∈ fs.namesIn dir ↔ (fs.node? (name :: dir)).isSome := by
  rw [namesIn, Text.mem_sorted, List.mem_eraseDups, List.mem_filterMap, node?_cons, Option.isSome_map,
    List.find?_isSome]
  apply exists_congr
  rintro ⟨location, node⟩
  apply and_congr_right
  intro _
  cases location with
  | nil => simp [childName?]
  | cons first parent => simp [childName?, and_comm]

namespace SameTree

variable {fs other : FileSystem} (same : fs.SameTree other)

include same

theorem walk (followLast : Bool) (links : Nat) (dir : Location) (path : List String) :
    other.walk followLast links dir path = fs.walk followLast links dir path := by
  fun_induction FileSystem.walk fs followLast links dir path with
  | case1 => rw [FileSystem.walk]
  | case2 links dir name rest here ih => rw [FileSystem.walk, if_pos here, ih]
  | case3 links dir name rest notHere above ih => rw [FileSystem.walk, if_neg notHere, if_pos above, ih]
  | case4 links dir name rest notHere notAbove long =>
      rw [FileSystem.walk, if_neg notHere, if_neg notAbove, if_pos long]
  | case5 links dir name rest notHere notAbove short free last =>
      rw [walk_free notHere notAbove short ((same.node? _).trans free), if_pos last]
  | case6 links dir name rest notHere notAbove short free notLast =>
      rw [walk_free notHere notAbove short ((same.node? _).trans free), if_neg notLast]
  | case7 links dir name rest notHere notAbove short there ih =>
      rw [walk_directory notHere notAbove short ((same.node? _).trans there), ih]
  | case8 links dir name rest notHere notAbove short bytes there last =>
      rw [walk_file notHere notAbove short ((same.node? _).trans there), if_pos last]
  | case9 links dir name rest notHere notAbove short bytes there notLast =>
      rw [walk_file notHere notAbove short ((same.node? _).trans there), if_neg notLast]
  | case10 links dir name rest notHere notAbove short target there last =>
      rw [walk_link notHere notAbove short ((same.node? _).trans there), if_pos last]
  | case11 dir name rest notHere notAbove short target there notLast =>
      rw [walk_link notHere notAbove short ((same.node? _).trans there), if_neg notLast, if_pos rfl]
  | case12 dir name rest notHere notAbove short target there notLast links empty =>
      rw [walk_link notHere notAbove short ((same.node? _).trans there), if_neg notLast,
        if_neg (Nat.succ_ne_zero _), if_pos empty]
  | case13 dir name rest notHere notAbove short target there notLast links filled ih =>
      rw [walk_link notHere notAbove short ((same.node? _).trans there), if_neg notLast,
        if_neg (Nat.succ_ne_zero _), if_neg filled]
      exact ih

theorem status (path : String) : other.status path = fs.status path := by
  have start : other.startOf path = fs.startOf path := by rw [startOf, startOf, same.working]
  rw [FileSystem.status, FileSystem.status, locate, locate, start, same.walk]

theorem namesIn (dir : Location) : other.namesIn dir = fs.namesIn dir := by
  apply Text.eq_of_pairwise_lt (Text.pairwise_lt_sorted (Text.nodup_eraseDups _))
    (Text.pairwise_lt_sorted (Text.nodup_eraseDups _))
  intro name
  change name ∈ other.namesIn dir ↔ name ∈ fs.namesIn dir
  rw [mem_namesIn_iff, mem_namesIn_iff, same.node?]

theorem list (path : String) : other.list path = fs.list path := by
  rw [FileSystem.list, FileSystem.list, same.status]
  simp only [same.namesIn]

theorem isDirectory (path : String) : other.isDirectory path = fs.isDirectory path := by
  rw [FileSystem.isDirectory, FileSystem.isDirectory, same.status]

theorem readText (path : String) (limit : Int) : other.readText path limit = fs.readText path limit := by
  rw [FileSystem.readText, FileSystem.readText, checkSize, checkSize, size, size, read, read, same.status]

end SameTree

end SketchSurvey.Files.FileSystem
