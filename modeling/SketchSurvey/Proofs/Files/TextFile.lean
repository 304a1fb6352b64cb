import SketchSurvey.Files.TextFile
import SketchSurvey.Proofs.Files.EntryNames

/-! Which text a path leads to, and when there is none. -/

set_option autoImplicit false

namespace SketchSurvey.Files

/-- A file with some text, within a limit on its size. A limit of zero or below is none. -/
def FileSystem.Holds (fs : FileSystem) (limit : Int) (path text : String) : Prop :=
  ∃ location bytes, fs.status path = .ok (location, .file bytes) ∧
    (0 < limit → bytes.length ≤ limit) ∧ textOf bytes = text

namespace FileSystem

variable {fs : FileSystem} {path : String}

theorem readText_of_missing {p : Problem} (missing : fs.status path = .error p) (limit : Int) :
    fs.readText path limit = .error (.file p) := by
  rw [readText, checkSize, size, read, missing]
  split <;> rfl

theorem readText_of_file {location : Location} {bytes : Text.Utf8.Bytes}
    (file : fs.status path = .ok (location, .file bytes)) (limit : Int) :
    fs.readText path limit =
      if 0 < limit ∧ limit < bytes.length then .error (.tooLarge path bytes.length limit)
      else .ok (textOf bytes) := by
  rw [readText, checkSize, size, read, file]
  by_cases limited : 0 < limit
  · by_cases large : limit < bytes.length
    · simp only [gt_iff_lt, limited, large, and_self, ↓reduceIte]
      rfl
    · simp only [gt_iff_lt, limited, large, and_false, ↓reduceIte]
      rfl
  · simp only [gt_iff_lt, limited, false_and, ↓reduceIte]
    rfl

/-- What is no file has no text, whatever the limit. -/
theorem readText_of_other {location : Location} {node : Node}
    (found : fs.status path = .ok (location, node)) (other : ∀ bytes, node ≠ .file bytes)
    (limit : Int) : ∃ p, fs.readText path limit = .error p := by
  have unread : fs.read path = .error (.failed .isDirectory path) := by
    rw [read, found]
    cases node with
    | file bytes => exact absurd rfl (other bytes)
    | directory => rfl
    | link target => rfl
  rw [readText, unread]
  cases fs.checkSize path limit with
  | error p => exact ⟨p, rfl⟩
  | ok => exact ⟨_, rfl⟩

theorem readText_eq_ok_iff {limit : Int} {text : String} :
    fs.readText path limit = .ok text ↔ fs.Holds limit path text := by
  constructor
  · intro read
    cases status : fs.status path with
    | error p =>
        rw [readText_of_missing status] at read
        cases read
    | ok found =>
        obtain ⟨location, node⟩ := found
        by_cases file : ∃ bytes, node = .file bytes
        · obtain ⟨bytes, rfl⟩ := file
          rw [readText_of_file status] at read
          split at read
          · cases read
          · next within =>
              cases read
              exact ⟨location, bytes, status, fun limited => Int.not_lt.mp fun large =>
                within ⟨limited, large⟩, rfl⟩
        · obtain ⟨p, failed⟩ :=
            readText_of_other status (fun bytes same => file ⟨bytes, same⟩) limit
          rw [failed] at read
          cases read
  · rintro ⟨location, bytes, status, within, rfl⟩
    rw [readText_of_file status, if_neg fun large => Int.not_lt.mpr (within large.1) large.2]

theorem Holds.isDirectory_eq_false {limit : Int} {text : String} (holds : fs.Holds limit path text) :
    fs.isDirectory path = false := by
  obtain ⟨location, bytes, status, -, -⟩ := holds
  rw [isDirectory, status]

/-- A text that is within a limit is there without one. -/
theorem Holds.unlimited {limit : Int} {text : String} (holds : fs.Holds limit path text) :
    fs.Holds 0 path text := by
  obtain ⟨location, bytes, status, -, isText⟩ := holds
  exact ⟨location, bytes, status, nofun, isText⟩

/-- An entry that is no link is found by its name. -/
theorem walk_entry (fs : FileSystem) (dir : Location) (links : Nat) {name : String} {node : Node}
    (isName : IsEntryName name) (short : name.utf8ByteSize ≤ maxNameSize)
    (found : fs.node? (name :: dir) = some node) (noLink : ∀ target, node ≠ .link target) :
    fs.walk true links dir [name] = .ok (.present (name :: dir) node) := by
  rw [walk, if_neg (by simpa using isName.notSame), if_neg (by simpa using isName.notAbove),
    if_neg (by omega), found]
  cases node with
  | file bytes => rfl
  | directory => simp [walk]
  | link target => exact absurd rfl (noLink target)

theorem status_of_walk {location : Location} {node : Node}
    (proper : '\x00' ∉ path.toList) (nonempty : path ≠ "") (short : path.utf8ByteSize ≤ maxPathSize)
    (walked : fs.walk true maxLinks (fs.startOf path) (names path) = .ok (.present location node)) :
    fs.status path = .ok (location, node) := by
  rw [status, locate, if_neg (by simpa using proper),
    if_neg (by simpa [String.isEmpty_iff] using nonempty), if_neg (by omega), walked]

/-- A path leads to an entry of the directory it starts from, if that is no link. -/
theorem status_of_entry {name : String} {node : Node}
    (inPath : names path = [name] ∨ names path = [".", name]) (isName : IsEntryName name)
    (shortName : name.utf8ByteSize ≤ maxNameSize)
    (asked : '\x00' ∉ path.toList ∧ path ≠ "" ∧ path.utf8ByteSize ≤ maxPathSize)
    (found : fs.node? (name :: fs.startOf path) = some node) (noLink : ∀ target, node ≠ .link target) :
    fs.status path = .ok (name :: fs.startOf path, node) := by
  obtain ⟨proper, nonempty, short⟩ := asked
  refine status_of_walk proper nonempty short ?_
  have walked := walk_entry fs (fs.startOf path) maxLinks isName shortName found noLink
  rcases inPath with inPath | inPath
  · rwa [inPath]
  · rwa [inPath, walk, if_pos (beq_self_eq_true ".")]

theorem status_working (fs : FileSystem) : fs.status "." = .ok (fs.working, .directory) := by
  have walked : fs.walk true maxLinks (fs.startOf ".") (names ".") =
      .ok (.present fs.working .directory) := by
    rw [show names "." = ["."] by rfl, walk, if_pos (beq_self_eq_true "."), walk]
    rfl
  exact status_of_walk (by decide) (by decide) (by decide) walked

/-- The names in a directory, in their order. -/
theorem list_of_ordered {location : Location} {entries : List String}
    (directory : fs.status path = .ok (location, .directory))
    (children : (fs.nodes.filterMap fun (l, _) => childName? location l).eraseDups = entries)
    (ordered : entries.Pairwise fun a b => decide (a ≤ b) = true) : fs.list path = .ok entries := by
  rw [list, directory]
  dsimp only
  rw [namesIn, children, Text.sorted, List.mergeSort_of_pairwise ordered]

end FileSystem

end SketchSurvey.Files
