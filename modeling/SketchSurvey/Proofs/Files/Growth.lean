import SketchSurvey.Files.FileSystem

/-! File systems that only grow: files get other bytes, and places that were free are taken by files and
directories. A path that led to something still leads there. -/

set_option autoImplicit false

namespace SketchSurvey.Files

open SketchSurvey.Text.Utf8 (Bytes)

/-- What a node may turn into: a file into one with other bytes. -/
inductive Node.Becomes : Node → Node → Prop where
  | same (n : Node) : Becomes n n
  | rewritten (before after : Bytes) : Becomes (.file before) (.file after)

theorem Node.Becomes.trans {a b c : Node} (first : a.Becomes b) (second : b.Becomes c) : a.Becomes c := by
  cases first with
  | same => exact second
  | rewritten =>
      cases second with
      | same => exact .rewritten ..
      | rewritten => exact .rewritten ..

namespace FileSystem

/-- The bytes of the file in a place; none if there is no file. -/
def bytesAt (fs : FileSystem) (location : Location) : Bytes :=
  match fs.node? location with
  | some (.file bytes) => bytes
  | _ => []

/-- What was there is there still, and there are no new links. -/
structure Grows (fs fs' : FileSystem) : Prop where
  working : fs'.working = fs.working
  kept : ∀ {location node}, fs.node? location = some node →
    ∃ node', fs'.node? location = some node' ∧ node.Becomes node'
  links : ∀ {location target}, fs'.node? location = some (.link target) →
    fs.node? location = some (.link target)

/-- What is new has no bytes, and no bytes have changed. -/
structure Extends (fs fs' : FileSystem) : Prop extends Grows fs fs' where
  bytes : ∀ location, fs'.bytesAt location = fs.bytesAt location

/-- Nothing but files is new. -/
structure GrowsByFiles (fs fs' : FileSystem) : Prop extends Grows fs fs' where
  directories : ∀ {location}, fs'.node? location = some .directory →
    fs.node? location = some .directory

/-- Where a path leads in a file system that has grown. -/
inductive Leads (fs' : FileSystem) : Place → Place → Prop where
  | directory (location : Location) :
      Leads fs' (.present location .directory) (.present location .directory)
  | link (location : Location) (target : String) :
      Leads fs' (.present location (.link target)) (.present location (.link target))
  | file {location : Location} {before after : Bytes} : fs'.node? location = some (.file after) →
      Leads fs' (.present location (.file before)) (.present location (.file after))
  | free {location : Location} : fs'.node? location = none →
      Leads fs' (.absent location) (.absent location)
  | taken {location : Location} {node : Node} : fs'.node? location = some node →
      (∀ target, node ≠ .link target) → Leads fs' (.absent location) (.present location node)

variable {fs fs' : FileSystem}

section Steps

variable {followLast : Bool} {links : Nat} {dir : Location} {name : String} {rest : List String}
  (notSame : ¬ (name == ".") = true) (notAbove : ¬ (name == "..") = true)
  (short : ¬ name.utf8ByteSize > maxNameSize)

include notSame notAbove short

theorem walk_free (free : fs.node? (name :: dir) = none) :
    fs.walk followLast links dir (name :: rest) =
      if rest.isEmpty then .ok (.absent (name :: dir)) else .error .notFound := by
  rw [FileSystem.walk, if_neg notSame, if_neg notAbove, if_neg short, free]

theorem walk_directory (there : fs.node? (name :: dir) = some .directory) :
    fs.walk followLast links dir (name :: rest) = fs.walk followLast links (name :: dir) rest := by
  rw [FileSystem.walk, if_neg notSame, if_neg notAbove, if_neg short, there]

theorem walk_file {bytes : Bytes} (there : fs.node? (name :: dir) = some (.file bytes)) :
    fs.walk followLast links dir (name :: rest) =
      if rest.isEmpty then .ok (.present (name :: dir) (.file bytes)) else .error .notDirectory := by
  rw [FileSystem.walk, if_neg notSame, if_neg notAbove, if_neg short, there]

/-- A link is followed, unless it stands at the end and none is to be followed there. -/
theorem walk_link {target : String} (there : fs.node? (name :: dir) = some (.link target)) :
    fs.walk followLast links dir (name :: rest) =
      if rest.isEmpty && !followLast then .ok (.present (name :: dir) (.link target))
      else if links = 0 then .error .tooManyLinks
      else if target.isEmpty then .error .notFound
      else
        fs.walk followLast (links - 1) (if Path.isAbsolute target then [] else dir) (names target ++ rest) := by
  rw [FileSystem.walk, if_neg notSame, if_neg notAbove, if_neg short, there]
  cases links <;> rfl

end Steps

theorem Grows.walk (grows : fs.Grows fs') (followLast : Bool) (links : Nat) (dir : Location)
    (path : List String) {place : Place} (found : fs.walk followLast links dir path = .ok place) :
    ∃ place', fs'.walk followLast links dir path = .ok place' ∧ fs'.Leads place place' := by
  fun_induction FileSystem.walk fs followLast links dir path with
  | case1 links dir =>
      cases found
      exact ⟨_, by rw [FileSystem.walk], .directory dir⟩
  | case2 links dir name rest same ih =>
      obtain ⟨place', walked, leads⟩ := ih found
      exact ⟨place', by rw [FileSystem.walk, if_pos same, walked], leads⟩
  | case3 links dir name rest notSame above ih =>
      obtain ⟨place', walked, leads⟩ := ih found
      exact ⟨place', by rw [FileSystem.walk, if_neg notSame, if_pos above, walked], leads⟩
  | case4 => cases found
  | case5 links dir name rest notSame notAbove short free last =>
      cases found
      have ended : rest = [] := List.isEmpty_iff.mp last
      subst ended
      cases now : fs'.node? (name :: dir) with
      | none => exact ⟨_, by rw [walk_free notSame notAbove short now, if_pos last], .free now⟩
      | some node =>
          cases node with
          | file bytes => exact ⟨_, by rw [walk_file notSame notAbove short now, if_pos last], .taken now nofun⟩
          | directory =>
              exact ⟨_, by rw [walk_directory notSame notAbove short now, FileSystem.walk], .taken now nofun⟩
          | link target => exact absurd (grows.links now) (by simp [free])
  | case6 => cases found
  | case7 links dir name rest notSame notAbove short there ih =>
      obtain ⟨place', walked, leads⟩ := ih found
      obtain ⟨node, now, becomes⟩ := grows.kept there
      cases becomes
      exact ⟨place', by rw [walk_directory notSame notAbove short now, walked], leads⟩
  | case8 links dir name rest notSame notAbove short bytes there last =>
      cases found
      obtain ⟨node, now, becomes⟩ := grows.kept there
      cases becomes <;> exact ⟨_, by rw [walk_file notSame notAbove short now, if_pos last], .file now⟩
  | case9 => cases found
  | case10 links dir name rest notSame notAbove short target there last =>
      cases found
      obtain ⟨node, now, becomes⟩ := grows.kept there
      cases becomes
      exact ⟨_, by rw [walk_link notSame notAbove short now, if_pos last], .link ..⟩
  | case11 => cases found
  | case12 => cases found
  | case13 dir name rest notSame notAbove short target there notLast links filled ih =>
      obtain ⟨place', walked, leads⟩ := ih found
      obtain ⟨node, now, becomes⟩ := grows.kept there
      cases becomes
      exact ⟨place', by
        rw [walk_link notSame notAbove short now, if_neg notLast, if_neg (Nat.succ_ne_zero _), if_neg filled]
        exact walked, leads⟩

theorem GrowsByFiles.walk (grows : fs.GrowsByFiles fs') (followLast : Bool) (links : Nat)
    (dir : Location) (path : List String) {cause : Cause}
    (failed : fs.walk followLast links dir path = .error cause) :
    ∃ cause', fs'.walk followLast links dir path = .error cause' := by
  fun_induction FileSystem.walk fs followLast links dir path with
  | case1 => cases failed
  | case2 links dir name rest same ih =>
      obtain ⟨cause', walked⟩ := ih failed
      exact ⟨cause', by rw [FileSystem.walk, if_pos same, walked]⟩
  | case3 links dir name rest notSame above ih =>
      obtain ⟨cause', walked⟩ := ih failed
      exact ⟨cause', by rw [FileSystem.walk, if_neg notSame, if_pos above, walked]⟩
  | case4 links dir name rest notSame notAbove long =>
      exact ⟨_, by rw [FileSystem.walk, if_neg notSame, if_neg notAbove, if_pos long]⟩
  | case5 => cases failed
  | case6 links dir name rest notSame notAbove short free notLast =>
      cases now : fs'.node? (name :: dir) with
      | none => exact ⟨_, by rw [walk_free notSame notAbove short now, if_neg notLast]⟩
      | some node =>
          cases node with
          | file bytes => exact ⟨_, by rw [walk_file notSame notAbove short now, if_neg notLast]⟩
          | directory => exact absurd (grows.directories now) (by simp [free])
          | link target => exact absurd (grows.links now) (by simp [free])
  | case7 links dir name rest notSame notAbove short there ih =>
      obtain ⟨cause', walked⟩ := ih failed
      obtain ⟨node, now, becomes⟩ := grows.kept there
      cases becomes
      exact ⟨cause', by rw [walk_directory notSame notAbove short now, walked]⟩
  | case8 => cases failed
  | case9 links dir name rest notSame notAbove short bytes there notLast =>
      obtain ⟨node, now, becomes⟩ := grows.kept there
      cases becomes <;> exact ⟨_, by rw [walk_file notSame notAbove short now, if_neg notLast]⟩
  | case10 => cases failed
  | case11 dir name rest notSame notAbove short target there notLast =>
      obtain ⟨node, now, becomes⟩ := grows.kept there
      cases becomes
      exact ⟨_, by rw [walk_link notSame notAbove short now, if_neg notLast, if_pos rfl]⟩
  | case12 dir name rest notSame notAbove short target there notLast links empty =>
      obtain ⟨node, now, becomes⟩ := grows.kept there
      cases becomes
      exact ⟨_, by
        rw [walk_link notSame notAbove short now, if_neg notLast, if_neg (Nat.succ_ne_zero _), if_pos empty]⟩
  | case13 dir name rest notSame notAbove short target there notLast links filled ih =>
      obtain ⟨cause', walked⟩ := ih failed
      obtain ⟨node, now, becomes⟩ := grows.kept there
      cases becomes
      exact ⟨cause', by
        rw [walk_link notSame notAbove short now, if_neg notLast, if_neg (Nat.succ_ne_zero _), if_neg filled]
        exact walked⟩

theorem Grows.locate (grows : fs.Grows fs') {followLast : Bool} {path : String} {place : Place}
    (found : fs.locate followLast path = .ok place) :
    ∃ place', fs'.locate followLast path = .ok place' ∧ fs'.Leads place place' := by
  unfold FileSystem.locate at found
  split at found
  · cases found
  · next noNull =>
      split at found
      · cases found
      · next nonempty =>
          split at found
          · cases found
          · next short =>
              split at found
              · next walked =>
                  cases found
                  obtain ⟨place', walked', leads⟩ := grows.walk _ _ _ _ walked
                  refine ⟨place', ?_, leads⟩
                  rw [FileSystem.locate, if_neg noNull, if_neg nonempty, if_neg short, FileSystem.startOf,
                    grows.working]
                  rw [FileSystem.startOf] at walked'
                  rw [walked']
              · cases found

/-- A path leads to a node in a place, and to a free place or nowhere otherwise. -/
theorem status_eq_ok_iff {path : String} {location : Location} {node : Node} :
    fs.status path = .ok (location, node) ↔ fs.locate true path = .ok (.present location node) := by
  rw [status]
  cases fs.locate true path with
  | error p => simp
  | ok place => cases place <;> simp

theorem Grows.status_file (grows : fs.Grows fs') {path : String} {location : Location} {bytes : Bytes}
    (found : fs.status path = .ok (location, .file bytes)) :
    fs'.status path = .ok (location, .file (fs'.bytesAt location)) := by
  rw [status_eq_ok_iff] at found ⊢
  obtain ⟨place', located, leads⟩ := grows.locate found
  cases leads with
  | file now => rw [located, bytesAt, now]

theorem Grows.pathExists (grows : fs.Grows fs') {path : String} (exists' : fs.pathExists path = true) :
    fs'.pathExists path = true := by
  rw [FileSystem.pathExists] at exists' ⊢
  split at exists'
  · next found found' =>
      obtain ⟨location, node⟩ := found
      obtain ⟨place', located, leads⟩ := grows.locate (status_eq_ok_iff.mp found')
      cases leads with
      | directory => rw [status_eq_ok_iff.mpr located]
      | link => rw [status_eq_ok_iff.mpr located]
      | file => rw [status_eq_ok_iff.mpr located]
  · cases exists'

theorem Grows.refl (fs : FileSystem) : fs.Grows fs where
  working := rfl
  kept there := ⟨_, there, .same _⟩
  links := id

theorem Grows.trans {fs'' : FileSystem} (first : fs.Grows fs') (second : fs'.Grows fs'') :
    fs.Grows fs'' where
  working := second.working.trans first.working
  kept there := by
    obtain ⟨middle, there', becomes⟩ := first.kept there
    obtain ⟨last, there'', becomes'⟩ := second.kept there'
    exact ⟨last, there'', becomes.trans becomes'⟩
  links there := first.links (second.links there)

section Put

theorem find?_map_put (nodes : List (Location × Node)) (location other : Location) (node : Node) :
    ((nodes.map fun (l, n) => if l == location then (l, node) else (l, n)).find? (·.1 == other)) =
      (nodes.find? (·.1 == other)).map fun (l, n) => if l == location then (l, node) else (l, n) := by
  induction nodes with
  | nil => rfl
  | cons entry rest ih =>
      obtain ⟨l, n⟩ := entry
      by_cases put : l == location <;> by_cases sought : l == other <;> simp_all

theorem node?_put_same (fs : FileSystem) {location : Location} (named : location ≠ []) (node : Node) :
    (fs.put location node).node? location = some node := by
  unfold FileSystem.put node?
  cases location with
  | nil => exact absurd rfl named
  | cons name dir =>
      dsimp only
      split
      · next known =>
          obtain ⟨entry, member, same⟩ := List.any_eq_true.mp known
          rw [find?_map_put]
          cases found : fs.nodes.find? (·.1 == name :: dir) with
          | none => exact absurd same (List.find?_eq_none.mp found entry member)
          | some entry =>
              have isIt := List.find?_some found
              simp_all
      · next unknown =>
          have missing : fs.nodes.find? (·.1 == name :: dir) = none := by
            rw [List.find?_eq_none]
            intro entry member same
            exact unknown (List.any_eq_true.mpr ⟨entry, member, same⟩)
          simp [List.find?_append, missing]

theorem node?_put_of_ne (fs : FileSystem) {location other : Location} (different : other ≠ location)
    (node : Node) : (fs.put location node).node? other = fs.node? other := by
  unfold FileSystem.put node?
  cases other with
  | nil => rfl
  | cons name dir =>
      dsimp only
      split
      · rw [find?_map_put]
        cases found : fs.nodes.find? (·.1 == name :: dir) with
        | none => rfl
        | some entry =>
            have isIt : entry.1 = name :: dir := by simpa using List.find?_some found
            simp [isIt, different]
      · simp [List.find?_append, different.symm]

@[simp] theorem working_put (fs : FileSystem) (location : Location) (node : Node) :
    (fs.put location node).working = fs.working := by
  unfold FileSystem.put
  split <;> rfl

/-- A place that may be taken by a file: there is nothing, or a file. -/
def IsOpen (fs : FileSystem) (location : Location) : Prop :=
  location ≠ [] ∧ ∀ node, fs.node? location = some node → ∃ bytes, node = .file bytes

theorem IsOpen.growsByFiles {location : Location} (isOpen : fs.IsOpen location) (bytes : Bytes) :
    fs.GrowsByFiles (fs.put location (.file bytes)) where
  working := working_put ..
  kept := by
    intro other node there
    by_cases same : other = location
    · subst same
      obtain ⟨before, rfl⟩ := isOpen.2 node there
      exact ⟨_, node?_put_same fs isOpen.1 _, .rewritten ..⟩
    · exact ⟨node, by rw [node?_put_of_ne fs same, there], .same _⟩
  links := by
    intro other target there
    by_cases same : other = location
    · subst same
      rw [node?_put_same fs isOpen.1] at there
      cases there
    · rwa [node?_put_of_ne fs same] at there
  directories := by
    intro other there
    by_cases same : other = location
    · subst same
      rw [node?_put_same fs isOpen.1] at there
      cases there
    · rwa [node?_put_of_ne fs same] at there

theorem Grows.putDirectory {location : Location} (named : location ≠ [])
    (free : fs.node? location = none) : fs.Grows (fs.put location .directory) where
  working := working_put ..
  kept := by
    intro other node there
    have different : other ≠ location := by
      rintro rfl
      rw [free] at there
      cases there
    exact ⟨node, by rw [node?_put_of_ne fs different, there], .same _⟩
  links := by
    intro other target there
    by_cases same : other = location
    · subst same
      rw [node?_put_same fs named] at there
      cases there
    · rwa [node?_put_of_ne fs same] at there

theorem bytesAt_put_file {location : Location} (named : location ≠ []) (bytes : Bytes)
    (other : Location) : (fs.put location (.file bytes)).bytesAt other =
      if other = location then bytes else fs.bytesAt other := by
  split
  · next same =>
      subst same
      rw [bytesAt, node?_put_same fs named]
  · next different => rw [bytesAt, node?_put_of_ne fs different, bytesAt]

theorem bytesAt_put_directory {location : Location} (named : location ≠ [])
    (free : fs.node? location = none) (other : Location) :
    (fs.put location .directory).bytesAt other = fs.bytesAt other := by
  by_cases same : other = location
  · subst same
    rw [bytesAt, node?_put_same fs named, bytesAt, free]
  · rw [bytesAt, node?_put_of_ne fs same, bytesAt]

end Put

section Operations

/-- A free place has a name, and nothing is in it. -/
theorem free_of_walk {followLast : Bool} {links : Nat} {dir : Location} {path : List String}
    {location : Location} (found : fs.walk followLast links dir path = .ok (.absent location)) :
    location ≠ [] ∧ fs.node? location = none := by
  fun_induction FileSystem.walk fs followLast links dir path with
  | case1 => cases found
  | case2 links dir name rest same ih => exact ih found
  | case3 links dir name rest notSame above ih => exact ih found
  | case4 => cases found
  | case5 links dir name rest notSame notAbove short free last =>
      cases found
      exact ⟨List.cons_ne_nil _ _, free⟩
  | case6 => cases found
  | case7 links dir name rest notSame notAbove short there ih => exact ih found
  | case8 => cases found
  | case9 => cases found
  | case10 => cases found
  | case11 => cases found
  | case12 => cases found
  | case13 dir name rest notSame notAbove short target there notLast links filled ih => exact ih found

/-- The file that a way leads to is in a place that has a name. -/
theorem file_of_walk {followLast : Bool} {links : Nat} {dir : Location} {path : List String}
    {location : Location} {bytes : Bytes}
    (found : fs.walk followLast links dir path = .ok (.present location (.file bytes))) :
    location ≠ [] ∧ fs.node? location = some (.file bytes) := by
  fun_induction FileSystem.walk fs followLast links dir path with
  | case1 => cases found
  | case2 links dir name rest same ih => exact ih found
  | case3 links dir name rest notSame above ih => exact ih found
  | case4 => cases found
  | case5 => cases found
  | case6 => cases found
  | case7 links dir name rest notSame notAbove short there ih => exact ih found
  | case8 links dir name rest notSame notAbove short bytes there last =>
      cases found
      exact ⟨List.cons_ne_nil _ _, there⟩
  | case9 => cases found
  | case10 => cases found
  | case11 => cases found
  | case12 => cases found
  | case13 dir name rest notSame notAbove short target there notLast links filled ih => exact ih found

/-- A path that can be followed is not empty, has no null in it and is not too long. -/
theorem locate_eq_ok_iff {followLast : Bool} {path : String} {place : Place} :
    fs.locate followLast path = .ok place ↔
      '\x00' ∉ path.toList ∧ path ≠ "" ∧ path.utf8ByteSize ≤ maxPathSize ∧
        fs.walk followLast maxLinks (fs.startOf path) (names path) = .ok place := by
  unfold FileSystem.locate
  split
  · next null => simp_all
  · next noNull =>
      split
      · next empty => simp_all [String.isEmpty_iff]
      · next nonempty =>
          split
          · next long => simp; omega
          · next short =>
              cases fs.walk followLast maxLinks (fs.startOf path) (names path) with
              | ok place' => simp_all [String.isEmpty_iff]
              | error cause => simp

theorem isOpen_of_status {path : String} {location : Location} {bytes : Bytes}
    (found : fs.status path = .ok (location, .file bytes)) : fs.IsOpen location := by
  obtain ⟨-, -, -, walked⟩ := locate_eq_ok_iff.mp (status_eq_ok_iff.mp found)
  obtain ⟨named, there⟩ := file_of_walk walked
  refine ⟨named, fun node there' => ⟨bytes, ?_⟩⟩
  rw [there] at there'
  exact (Option.some.inj there').symm

theorem bytesAt_of_status {path : String} {location : Location} {bytes : Bytes}
    (found : fs.status path = .ok (location, .file bytes)) : fs.bytesAt location = bytes := by
  obtain ⟨-, -, -, walked⟩ := locate_eq_ok_iff.mp (status_eq_ok_iff.mp found)
  rw [bytesAt, (file_of_walk walked).2]

/-- The bytes of a file that is there can be changed. -/
theorem update_of_status {path : String} {location : Location} {bytes : Bytes}
    (plain : asksForDirectory path = false) (found : fs.status path = .ok (location, .file bytes))
    (change : Bytes → Bytes) :
    fs.update path change = .ok (fs.put location (.file (change bytes))) := by
  rw [update, if_neg (by simp [plain]), status_eq_ok_iff.mp found]

/-- What an update does: the bytes of one file change, which may be new. -/
theorem update_spec {path : String} {change : Bytes → Bytes}
    (updated : fs.update path change = .ok fs') :
    asksForDirectory path = false ∧ ∃ location, fs.IsOpen location ∧
      fs' = fs.put location (.file (change (fs.bytesAt location))) ∧
      fs'.status path = .ok (location, .file (change (fs.bytesAt location))) := by
  have leadsThere {location : Location} {bytes : Bytes} {place : Place} (isOpen : fs.IsOpen location)
      (found : fs.locate true path = .ok place)
      (isPlace : place = .absent location ∨ ∃ before, place = .present location (.file before)) :
      (fs.put location (.file bytes)).status path = .ok (location, .file bytes) := by
    obtain ⟨place', located, leads⟩ := (isOpen.growsByFiles bytes).locate found
    have now := node?_put_same fs isOpen.1 (.file bytes)
    rw [status_eq_ok_iff, located]
    rcases isPlace with rfl | ⟨before, rfl⟩
    · cases leads with
      | free there => exact absurd (now.symm.trans there) nofun
      | taken there => rw [Option.some.inj (now.symm.trans there)]
    · cases leads with
      | file there => rw [Option.some.inj (now.symm.trans there)]
  unfold FileSystem.update at updated
  split at updated
  · split at updated <;> cases updated
  · next plain =>
    refine ⟨Bool.eq_false_iff.mpr plain, ?_⟩
    split at updated
    · next location bytes found =>
        cases updated
        have isOpen := isOpen_of_status (status_eq_ok_iff.mpr found)
        have before := bytesAt_of_status (status_eq_ok_iff.mpr found)
        refine ⟨location, isOpen, by rw [before], ?_⟩
        rw [before]
        exact leadsThere isOpen found (.inr ⟨bytes, rfl⟩)
    · cases updated
    · next location found =>
        cases updated
        obtain ⟨-, -, -, walked⟩ := locate_eq_ok_iff.mp found
        obtain ⟨named, free⟩ := free_of_walk walked
        have isOpen : fs.IsOpen location := ⟨named, fun node there => by rw [free] at there; cases there⟩
        have before : fs.bytesAt location = [] := by rw [bytesAt, free]
        refine ⟨location, isOpen, by rw [before], ?_⟩
        rw [before]
        exact leadsThere isOpen found (.inl rfl)
    · cases updated

theorem Extends.refl (fs : FileSystem) : fs.Extends fs := ⟨.refl fs, fun _ => rfl⟩

theorem Extends.trans {fs'' : FileSystem} (first : fs.Extends fs') (second : fs'.Extends fs'') :
    fs.Extends fs'' :=
  ⟨first.toGrows.trans second.toGrows,
    fun location => (second.bytes location).trans (first.bytes location)⟩

/-- Opening a file for more bytes makes it, if there is none. -/
theorem extends_of_append_nil {path : String} (opened : fs.append path [] = .ok fs') :
    fs.Extends fs' := by
  obtain ⟨-, location, isOpen, rfl, -⟩ := update_spec opened
  rw [List.append_nil]
  refine ⟨(isOpen.growsByFiles _).toGrows, fun other => ?_⟩
  rw [bytesAt_put_file isOpen.1]
  split
  · next same => rw [same]
  · rfl

theorem locate_of_locateNew {path : String} {place : Place} (found : fs.locateNew path = .ok place) :
    ∃ bare, fs.locate false bare = .ok place := by
  simp only [locateNew] at found
  split at found
  · cases found
  · exact ⟨_, found⟩

theorem extends_of_makeDirectory {path : String} (made : fs.makeDirectory path = .ok fs') :
    fs.Extends fs' := by
  unfold FileSystem.makeDirectory at made
  split at made
  · next location found =>
      cases made
      obtain ⟨bare, located⟩ := locate_of_locateNew found
      obtain ⟨named, free⟩ := free_of_walk (locate_eq_ok_iff.mp located).2.2.2
      exact ⟨.putDirectory named free, bytesAt_put_directory named free⟩
  · cases made
  · cases made

theorem extends_ensureDirectory (fs : FileSystem) (path : String) :
    fs.Extends (fs.ensureDirectory path).1 := by
  unfold FileSystem.ensureDirectory
  split
  · next made => exact extends_of_makeDirectory made
  · exact .refl fs

theorem extends_makeDirectoriesWithin (fuel : Nat) (fs : FileSystem) (path : String) :
    fs.Extends (fs.makeDirectoriesWithin path fuel).1 := by
  induction fuel generalizing path with
  | zero =>
      rw [FileSystem.makeDirectoriesWithin]
      exact .refl fs
  | succ fuel ih =>
      have above := ih (aboveAndName path).1
      have last (middle : FileSystem) :
          middle.Extends (if (aboveAndName path).2 == "." then (middle, .ok ())
            else middle.ensureDirectory path : FileSystem × Except Problem Unit).1 := by
        split
        · exact .refl middle
        · exact extends_ensureDirectory middle path
      rw [FileSystem.makeDirectoriesWithin]
      split
      · dsimp only
        split
        · next middle made =>
            rw [made] at above
            exact above.trans (last middle)
        · next middle path made =>
            rw [made] at above
            exact above.trans (last middle)
        · next middle p made =>
            rw [made] at above
            exact above
      · exact extends_ensureDirectory fs path

theorem extends_makeDirectories (fs : FileSystem) (path : String) :
    fs.Extends (fs.makeDirectories path).1 :=
  extends_makeDirectoriesWithin ..

end Operations

end FileSystem

end SketchSurvey.Files
