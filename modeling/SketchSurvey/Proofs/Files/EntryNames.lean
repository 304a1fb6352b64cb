import Mathlib.Logic.Relation
import SketchSurvey.Files.FileSystem

/-! The names in a file system: no entry of a directory has an empty name, a name with a slash, or one
of the two names that stand for directories on a way. No operation brings in such a name. -/

set_option autoImplicit false

namespace SketchSurvey.Files

/-- A name that an entry of a directory can have. -/
structure IsEntryName (name : String) : Prop where
  nonempty : name ≠ ""
  undivided : '/' ∉ name.toList
  notSame : name ≠ "."
  notAbove : name ≠ ".."

instance (name : String) : Decidable (IsEntryName name) :=
  decidable_of_iff (name ≠ "" ∧ '/' ∉ name.toList ∧ name ≠ "." ∧ name ≠ "..")
    ⟨fun ⟨nonempty, undivided, notSame, notAbove⟩ => ⟨nonempty, undivided, notSame, notAbove⟩,
      fun ⟨nonempty, undivided, notSame, notAbove⟩ => ⟨nonempty, undivided, notSame, notAbove⟩⟩

/-- A place all of whose names are names of entries. -/
def Location.WellNamed (location : Location) : Prop := ∀ name ∈ location, IsEntryName name

theorem Location.wellNamed_cons {name : String} {location : Location} (isName : IsEntryName name)
    (wellNamed : Location.WellNamed location) : Location.WellNamed (name :: location) := by
  intro other member
  rcases List.mem_cons.mp member with rfl | member
  · exact isName
  · exact wellNamed other member

theorem Location.WellNamed.tail {location : Location} (wellNamed : Location.WellNamed location) :
    Location.WellNamed location.tail :=
  fun name member => wellNamed name (List.mem_of_mem_tail member)

theorem isEntryName_of_proper {name : String} (proper : name ≠ "" ∧ '/' ∉ name.toList)
    (notSame : ¬ (name == ".") = true) (notAbove : ¬ (name == "..") = true) : IsEntryName name where
  nonempty := proper.1
  undivided := proper.2
  notSame same := notSame (beq_iff_eq.mpr same)
  notAbove same := notAbove (beq_iff_eq.mpr same)

/-- What is found at a place, or what could be made there. -/
def Place.location : Place → Location
  | .present location _ => location
  | .absent location => location

/-- The names in a path are no names of entries only if they stand for directories on the way. -/
theorem nonempty_undivided_of_mem_names {path name : String} (member : name ∈ names path) :
    name ≠ "" ∧ '/' ∉ name.toList := by
  have cut : ∀ piece ∈ (Text.splitAt '/' path).filter (fun n => !n.isEmpty),
      piece ≠ "" ∧ '/' ∉ piece.toList := by
    intro piece inside
    obtain ⟨inside, nonempty⟩ := List.mem_filter.mp inside
    refine ⟨?_, Text.not_mem_of_mem_splitAt inside⟩
    rintro rfl
    simp at nonempty
  unfold names at member
  split at member
  · rcases List.mem_append.mp member with inside | last
    · exact cut name inside
    · rw [List.mem_singleton] at last
      subst last
      exact ⟨by decide, by decide⟩
  · exact cut name member

namespace FileSystem

/-- Every place that a file system knows is named by names of entries. -/
structure WellNamed (fs : FileSystem) : Prop where
  nodes : ∀ location node, (location, node) ∈ fs.nodes → Location.WellNamed location
  working : Location.WellNamed fs.working

theorem WellNamed.of_entries {fs : FileSystem}
    (entries : ∀ entry ∈ fs.nodes, ∀ name ∈ entry.1, IsEntryName name)
    (working : ∀ name ∈ fs.working, IsEntryName name) : fs.WellNamed :=
  ⟨fun location node known => entries (location, node) known, working⟩

/-- A way along proper names leads to a place with proper names, through links too. -/
theorem walk_wellNamed (fs : FileSystem) (followLast : Bool) (links : Nat) (dir : Location)
    (path : List String) (wellNamed : Location.WellNamed dir)
    (proper : ∀ name ∈ path, name ≠ "" ∧ '/' ∉ name.toList) {place : Place}
    (found : fs.walk followLast links dir path = .ok place) :
    Location.WellNamed place.location := by
  fun_induction FileSystem.walk fs followLast links dir path with
  | case1 =>
      cases found
      exact wellNamed
  | case2 links dir name rest _ ih =>
      exact ih wellNamed (fun n inside => proper n (.tail _ inside)) found
  | case3 links dir name rest _ _ ih =>
      exact ih wellNamed.tail (fun n inside => proper n (.tail _ inside)) found
  | case4 => cases found
  | case5 links dir name rest notSame notAbove =>
      cases found
      exact Location.wellNamed_cons (isEntryName_of_proper (proper name (.head _)) notSame notAbove)
        wellNamed
  | case6 => cases found
  | case7 links dir name rest notSame notAbove _ _ ih =>
      exact ih (Location.wellNamed_cons
        (isEntryName_of_proper (proper name (.head _)) notSame notAbove) wellNamed)
        (fun n inside => proper n (.tail _ inside)) found
  | case8 links dir name rest notSame notAbove =>
      cases found
      exact Location.wellNamed_cons (isEntryName_of_proper (proper name (.head _)) notSame notAbove)
        wellNamed
  | case9 => cases found
  | case10 links dir name rest notSame notAbove =>
      cases found
      exact Location.wellNamed_cons (isEntryName_of_proper (proper name (.head _)) notSame notAbove)
        wellNamed
  | case11 => cases found
  | case12 => cases found
  | case13 dir name rest _ _ _ target _ _ links _ ih =>
      refine ih ?_ ?_ found
      · split
        · exact nofun
        · exact wellNamed
      · intro n inside
        rcases List.mem_append.mp inside with inTarget | inRest
        · exact nonempty_undivided_of_mem_names inTarget
        · exact proper n (.tail _ inRest)

theorem locate_wellNamed {fs : FileSystem} (wellNamed : fs.WellNamed) {followLast : Bool}
    {path : String} {place : Place} (found : fs.locate followLast path = .ok place) :
    Location.WellNamed place.location := by
  unfold locate at found
  split at found
  · cases found
  split at found
  · cases found
  split at found
  · cases found
  split at found
  · next walked =>
      cases found
      refine walk_wellNamed fs followLast maxLinks _ _ ?_ (fun _ => nonempty_undivided_of_mem_names)
        walked
      unfold startOf
      split
      · exact nofun
      · exact wellNamed.working
  · cases found

theorem locateNew_wellNamed {fs : FileSystem} (wellNamed : fs.WellNamed) {path : String}
    {place : Place} (found : fs.locateNew path = .ok place) :
    Location.WellNamed place.location := by
  simp only [locateNew] at found
  split at found
  · cases found
  · exact locate_wellNamed wellNamed found

theorem WellNamed.put {fs : FileSystem} (wellNamed : fs.WellNamed) {location : Location}
    (proper : Location.WellNamed location) (node : Node) : (fs.put location node).WellNamed := by
  unfold FileSystem.put
  split
  · refine ⟨?_, wellNamed.working⟩
    intro l n member
    obtain ⟨⟨old, m⟩, inside, same⟩ := List.mem_map.mp member
    have sameLocation : old = l := by
      dsimp only at same
      split at same <;> exact congrArg Prod.fst same
    exact sameLocation ▸ wellNamed.nodes old m inside
  · refine ⟨?_, wellNamed.working⟩
    intro l n member
    rcases List.mem_append.mp member with inside | added
    · exact wellNamed.nodes l n inside
    · cases List.mem_singleton.mp added
      exact proper

theorem WellNamed.drop {fs : FileSystem} (wellNamed : fs.WellNamed) (location : Location) :
    (fs.drop location).WellNamed where
  nodes l n member := wellNamed.nodes l n (List.mem_filter.mp member).1
  working := wellNamed.working

theorem WellNamed.update {fs fs' : FileSystem} (wellNamed : fs.WellNamed) {path : String}
    {change : Text.Utf8.Bytes → Text.Utf8.Bytes} (updated : fs.update path change = .ok fs') :
    fs'.WellNamed := by
  unfold FileSystem.update at updated
  split at updated
  · split at updated <;> cases updated
  split at updated
  · next found =>
      cases updated
      exact wellNamed.put (locate_wellNamed wellNamed found) _
  · cases updated
  · next found =>
      cases updated
      exact wellNamed.put (locate_wellNamed wellNamed found) _
  · cases updated

theorem WellNamed.makeDirectory {fs fs' : FileSystem} (wellNamed : fs.WellNamed) {path : String}
    (made : fs.makeDirectory path = .ok fs') : fs'.WellNamed := by
  unfold FileSystem.makeDirectory at made
  split at made
  · next found =>
      cases made
      exact wellNamed.put (locateNew_wellNamed wellNamed found) _
  · cases made
  · cases made

theorem WellNamed.ensureDirectory {fs : FileSystem} (wellNamed : fs.WellNamed) (path : String) :
    (fs.ensureDirectory path).1.WellNamed := by
  unfold FileSystem.ensureDirectory
  split
  · next made => exact wellNamed.makeDirectory made
  · exact wellNamed

/-- Directories that were made before a failure have proper names too. -/
theorem WellNamed.makeDirectoriesWithin {fs : FileSystem} (wellNamed : fs.WellNamed) (fuel : Nat) :
    ∀ path : String, (fs.makeDirectoriesWithin path fuel).1.WellNamed := by
  induction fuel with
  | zero =>
      intro path
      rw [FileSystem.makeDirectoriesWithin]
      exact wellNamed
  | succ fuel ih =>
      intro path
      have above := ih (aboveAndName path).1
      have last {fs : FileSystem} (wellNamed : fs.WellNamed) :
          (if (aboveAndName path).2 == "." then (fs, .ok ()) else fs.ensureDirectory path :
            FileSystem × Except Problem Unit).1.WellNamed := by
        split
        · exact wellNamed
        · exact wellNamed.ensureDirectory path
      rw [FileSystem.makeDirectoriesWithin]
      split
      · dsimp only
        split
        · next made => exact last (by rw [made] at above; exact above)
        · next made => exact last (by rw [made] at above; exact above)
        · next made => rw [made] at above; exact above
      · exact wellNamed.ensureDirectory path

theorem WellNamed.remove {fs fs' : FileSystem} (wellNamed : fs.WellNamed) {path : String}
    (removed : fs.remove path = .ok fs') : fs'.WellNamed := by
  unfold FileSystem.remove at removed
  split at removed
  · cases removed
    exact wellNamed.drop _
  · cases removed
  · cases removed

theorem WellNamed.rename {fs fs' : FileSystem} (wellNamed : fs.WellNamed) {old new : String}
    (renamed : fs.rename old new = .ok fs') : fs'.WellNamed := by
  unfold FileSystem.rename at renamed
  split at renamed
  · next found =>
      cases renamed
      split
      · exact wellNamed.put (locate_wellNamed wellNamed found) _
      · exact (wellNamed.drop _).put (locate_wellNamed wellNamed found) _
  · next found =>
      cases renamed
      exact (wellNamed.drop _).put (locate_wellNamed wellNamed found) _
  · cases renamed
  · cases renamed
  · cases renamed

theorem WellNamed.makeLink {fs fs' : FileSystem} (wellNamed : fs.WellNamed) {target path : String}
    (made : fs.makeLink target path = .ok fs') : fs'.WellNamed := by
  unfold FileSystem.makeLink at made
  split at made
  · cases made
  split at made
  · next found =>
      split at made
      · cases made
      · cases made
        exact wellNamed.put (locateNew_wellNamed wellNamed found) _
  · cases made
  · cases made
  · cases made

/-- One operation that changes a file system. -/
inductive Changes : FileSystem → FileSystem → Prop where
  | write {fs fs' path bytes} : fs.write path bytes = .ok fs' → Changes fs fs'
  | append {fs fs' path bytes} : fs.append path bytes = .ok fs' → Changes fs fs'
  | makeDirectory {fs fs' path} : fs.makeDirectory path = .ok fs' → Changes fs fs'
  | makeDirectories {fs path} : Changes fs (fs.makeDirectories path).1
  | remove {fs fs' path} : fs.remove path = .ok fs' → Changes fs fs'
  | rename {fs fs' old new} : fs.rename old new = .ok fs' → Changes fs fs'
  | makeLink {fs fs' target path} : fs.makeLink target path = .ok fs' → Changes fs fs'

theorem Changes.wellNamed {fs fs' : FileSystem} (changes : Changes fs fs')
    (wellNamed : fs.WellNamed) : fs'.WellNamed := by
  cases changes with
  | write done => exact wellNamed.update done
  | append done => exact wellNamed.update done
  | makeDirectory done => exact wellNamed.makeDirectory done
  | makeDirectories => exact wellNamed.makeDirectoriesWithin _ _
  | remove done => exact wellNamed.remove done
  | rename done => exact wellNamed.rename done
  | makeLink done => exact wellNamed.makeLink done

/-- Whatever is done in an empty file system, every entry keeps a proper name. -/
theorem wellNamed_of_changes {working : Location} (proper : Location.WellNamed working)
    {fs : FileSystem} (run : Relation.ReflTransGen Changes { working } fs) : fs.WellNamed := by
  induction run with
  | refl => exact ⟨nofun, proper⟩
  | tail _ changes ih => exact changes.wellNamed ih

end FileSystem

end SketchSurvey.Files
