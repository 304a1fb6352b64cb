import Mathlib.Data.List.Induction
import SketchSurvey.Proofs.Files.AbsolutePath
import SketchSurvey.Proofs.Files.Growth

/-! Making directories along an absolute path. What is in the way of a directory stays in its way when
files are added. -/

set_option autoImplicit false

namespace SketchSurvey.Files.FileSystem

open SketchSurvey.Files.Path (ofNames IsStart)

variable {fs fs' : FileSystem}

section Walks

/-- Whether a link at the end is followed matters only where there is one. -/
theorem walk_follow (links : Nat) (dir : Location) (path : List String) {r : Except Cause Place}
    (found : fs.walk false links dir path = r)
    (noLink : ∀ location target, r ≠ .ok (.present location (.link target))) :
    fs.walk true links dir path = r := by
  fun_induction FileSystem.walk fs false links dir path with
  | case1 links dir => rw [FileSystem.walk]; exact found
  | case2 links dir name rest same ih => rw [FileSystem.walk, if_pos same]; exact ih found
  | case3 links dir name rest notSame above ih =>
      rw [FileSystem.walk, if_neg notSame, if_pos above]
      exact ih found
  | case4 links dir name rest notSame notAbove long =>
      rw [FileSystem.walk, if_neg notSame, if_neg notAbove, if_pos long]
      exact found
  | case5 links dir name rest notSame notAbove short free last =>
      rw [walk_free notSame notAbove short free, if_pos last, found]
  | case6 links dir name rest notSame notAbove short free notLast =>
      rw [walk_free notSame notAbove short free, if_neg notLast, found]
  | case7 links dir name rest notSame notAbove short there ih =>
      rw [walk_directory notSame notAbove short there, ih found]
  | case8 links dir name rest notSame notAbove short bytes there last =>
      rw [walk_file notSame notAbove short there, if_pos last, found]
  | case9 links dir name rest notSame notAbove short bytes there notLast =>
      rw [walk_file notSame notAbove short there, if_neg notLast, found]
  | case10 links dir name rest notSame notAbove short target there last =>
      exact absurd found.symm (noLink _ _)
  | case11 dir name rest notSame notAbove short target there notLast =>
      rw [walk_link notSame notAbove short there, if_neg (by simp), if_pos rfl, found]
  | case12 dir name rest notSame notAbove short target there notLast links empty =>
      rw [walk_link notSame notAbove short there, if_neg (by simp), if_neg (Nat.succ_ne_zero _), if_pos empty,
        found]
  | case13 dir name rest notSame notAbove short target there notLast links filled ih =>
      rw [walk_link notSame notAbove short there, if_neg (by simp), if_neg (Nat.succ_ne_zero _), if_neg filled]
      exact ih found

/-- The way to a name leads through a directory. -/
theorem walk_init {followLast : Bool} (links : Nat) (dir : Location) (before : List String) {name : String}
    {place : Place} (found : fs.walk followLast links dir (before ++ [name]) = .ok place) :
    ∃ location, fs.walk true links dir before = .ok (.present location .directory) := by
  fun_induction FileSystem.walk fs true links dir before with
  | case1 links dir => exact ⟨dir, rfl⟩
  | case2 links dir first rest same ih =>
      rw [List.cons_append, FileSystem.walk, if_pos same] at found
      exact ih found
  | case3 links dir first rest notSame above ih =>
      rw [List.cons_append, FileSystem.walk, if_neg notSame, if_pos above] at found
      exact ih found
  | case4 links dir first rest notSame notAbove long =>
      rw [List.cons_append, FileSystem.walk, if_neg notSame, if_neg notAbove, if_pos long] at found
      cases found
  | case5 links dir first rest notSame notAbove short free last =>
      rw [List.cons_append, walk_free notSame notAbove short free] at found
      simp at found
  | case6 links dir first rest notSame notAbove short free notLast =>
      rw [List.cons_append, walk_free notSame notAbove short free] at found
      simp at found
  | case7 links dir first rest notSame notAbove short there ih =>
      rw [List.cons_append, walk_directory notSame notAbove short there] at found
      exact ih found
  | case8 links dir first rest notSame notAbove short bytes there last =>
      rw [List.cons_append, walk_file notSame notAbove short there] at found
      simp at found
  | case9 links dir first rest notSame notAbove short bytes there notLast =>
      rw [List.cons_append, walk_file notSame notAbove short there] at found
      simp at found
  | case10 links dir first rest notSame notAbove short target there last => simp at last
  | case11 dir first rest notSame notAbove short target there notLast =>
      rw [List.cons_append, walk_link notSame notAbove short there] at found
      simp at found
  | case12 dir first rest notSame notAbove short target there notLast links empty =>
      rw [List.cons_append, walk_link notSame notAbove short there] at found
      simp [empty] at found
  | case13 dir first rest notSame notAbove short target there notLast links filled ih =>
      rw [List.cons_append, walk_link notSame notAbove short there, if_neg (by simp),
        if_neg (Nat.succ_ne_zero _), if_neg filled, ← List.append_assoc] at found
      exact ih found

/-- No way ends because something is there already. -/
theorem cause_of_walk {followLast : Bool} (links : Nat) (dir : Location) (path : List String) {cause : Cause}
    (failed : fs.walk followLast links dir path = .error cause) : cause ≠ .alreadyExists := by
  fun_induction FileSystem.walk fs followLast links dir path with
  | case1 | case5 | case8 | case10 => cases failed
  | case2 _ _ _ _ _ ih => exact ih failed
  | case3 _ _ _ _ _ _ ih => exact ih failed
  | case7 _ _ _ _ _ _ _ _ ih => exact ih failed
  | case13 _ _ _ _ _ _ _ _ _ _ _ ih => exact ih failed
  | case4 | case6 | case9 | case11 | case12 =>
      cases failed
      simp

end Walks

section Locations

variable {path : String}

/-- Why a path leads nowhere. -/
theorem locate_error {followLast : Bool} {p : Problem} (failed : fs.locate followLast path = .error p) :
    p = .nullInPath ∧ '\x00' ∈ path.toList ∨ ∃ cause, p = .failed cause path ∧ cause ≠ .alreadyExists := by
  unfold FileSystem.locate at failed
  split at failed
  · next null => exact .inl ⟨(Except.error.inj failed).symm, List.contains_iff_mem.mp null⟩
  · refine .inr ?_
    split at failed
    · exact ⟨_, (Except.error.inj failed).symm, nofun⟩
    · split at failed
      · exact ⟨_, (Except.error.inj failed).symm, nofun⟩
      · split at failed
        · cases failed
        · next walked => exact ⟨_, (Except.error.inj failed).symm, cause_of_walk _ _ _ walked⟩

/-- A path that leads nowhere still does when only files are new. -/
theorem GrowsByFiles.leadsNowhere (grows : fs.GrowsByFiles fs') {followLast : Bool} {p : Problem}
    (failed : fs.locate followLast path = .error p) :
    ∃ p', fs'.locate followLast path = .error p' ∧ (p' = .nullInPath → p = .nullInPath) := by
  unfold FileSystem.locate at failed ⊢
  split at failed
  · next null => exact ⟨_, if_pos null, fun _ => (Except.error.inj failed).symm⟩
  · next noNull =>
      rw [if_neg noNull]
      split at failed
      · next empty => exact ⟨_, if_pos empty, by simp⟩
      · next nonempty =>
          rw [if_neg nonempty]
          split at failed
          · next long => exact ⟨_, if_pos long, by simp⟩
          · next short =>
              rw [if_neg short]
              split at failed
              · cases failed
              · next walked =>
                  obtain ⟨cause', walked'⟩ := grows.walk _ _ _ _ walked
                  rw [FileSystem.startOf] at walked'
                  rw [FileSystem.startOf, grows.working, walked']
                  exact ⟨_, rfl, by simp⟩

theorem locate_follow {r : Except Problem Place} (found : fs.locate false path = r)
    (noLink : ∀ location target, r ≠ .ok (.present location (.link target))) : fs.locate true path = r := by
  unfold FileSystem.locate at found ⊢
  split at found
  · next null => rw [if_pos null]; exact found
  · next noNull =>
      rw [if_neg noNull]
      split at found
      · next empty => rw [if_pos empty]; exact found
      · next nonempty =>
          rw [if_neg nonempty]
          split at found
          · next long => rw [if_pos long]; exact found
          · next short =>
              rw [if_neg short]
              split at found
              · next place walked =>
                  subst found
                  rw [walk_follow _ _ _ walked fun location target same =>
                    noLink location target (congrArg Except.ok (Except.ok.inj same))]
              · next cause walked =>
                  subst found
                  rw [walk_follow _ _ _ walked nofun]

theorem isDirectory_iff {path : String} : fs.isDirectory path = true ↔
    ∃ location, fs.locate true path = .ok (.present location .directory) := by
  simp only [FileSystem.isDirectory, ← status_eq_ok_iff]
  constructor
  · intro found
    split at found
    · next location found' => exact ⟨location, found'⟩
    · cases found
  · rintro ⟨location, found⟩
    rw [found]

/-- No directory is new where only files are. -/
theorem GrowsByFiles.isDirectory (grows : fs.GrowsByFiles fs') (none' : fs.isDirectory path = false) :
    fs'.isDirectory path = false := by
  rw [Bool.eq_false_iff] at none' ⊢
  refine mt (fun isDirectory => ?_) none'
  rw [isDirectory_iff] at isDirectory ⊢
  obtain ⟨location, there⟩ := isDirectory
  cases before : fs.locate true path with
  | error p =>
      obtain ⟨p', failed, -⟩ := grows.leadsNowhere before
      rw [failed] at there
      cases there
  | ok place =>
      obtain ⟨place', located, leads⟩ := grows.locate before
      rw [located] at there
      obtain rfl := Except.ok.inj there
      cases leads with
      | directory => exact ⟨location, rfl⟩
      | taken now =>
          obtain ⟨-, free⟩ := free_of_walk (locate_eq_ok_iff.mp before).2.2.2
          exact absurd (grows.directories now) (by simp [free])

theorem pathExists_eq_true_iff :
    fs.pathExists path = true ↔ ∃ location node, fs.locate true path = .ok (.present location node) := by
  simp only [FileSystem.pathExists, ← status_eq_ok_iff]
  constructor
  · intro found
    split at found
    · next found' => exact ⟨_, _, found'⟩
    · cases found
  · rintro ⟨location, node, found⟩
    rw [found]

end Locations

section AlongNames

variable {start name : String} {names : List String}

theorem isDirectory_start (fs : FileSystem) (isStart : IsStart start) : fs.isDirectory start = true := by
  rw [isDirectory_iff]
  refine ⟨[], locate_eq_ok_iff.mpr ?_⟩
  rcases isStart with rfl | rfl
  · refine ⟨by decide, by decide, by decide, ?_⟩
    rw [show Files.names "/" = ["."] by decide, FileSystem.walk, if_pos (by decide), FileSystem.walk]
    rfl
  · refine ⟨by decide, by decide, by decide, ?_⟩
    rw [show Files.names "//" = ["."] by decide, FileSystem.walk, if_pos (by decide), FileSystem.walk]
    rfl

theorem pathExists_of_isDirectory {path : String} (isDirectory : fs.isDirectory path = true) :
    fs.pathExists path = true := by
  obtain ⟨location, found⟩ := isDirectory_iff.mp isDirectory
  exact pathExists_eq_true_iff.mpr ⟨_, _, found⟩

/-- What exists is in a directory that exists. -/
theorem pathExists_init (isStart : IsStart start) (areNames : ∀ n ∈ names, IsEntryName n)
    (isName : IsEntryName name) (exists' : fs.pathExists (ofNames start (names ++ [name])) = true) :
    fs.pathExists (ofNames start names) = true := by
  obtain rfl | ⟨others, last, rfl⟩ := List.eq_nil_or_concat' names
  · rw [show ofNames start [] = start from String.toList_inj.mp (Path.toList_ofNames_nil start)]
    exact pathExists_of_isDirectory (isDirectory_start fs isStart)
  · obtain ⟨location, node, found⟩ := pathExists_eq_true_iff.mp exists'
    obtain ⟨noNull, -, short, walked⟩ := locate_eq_ok_iff.mp found
    obtain ⟨rest, whole⟩ := Path.exists_append_eq start (others ++ [last]) name
    have areOthers : ∀ n ∈ others, IsEntryName n := fun n member => areNames n (List.mem_append_left _ member)
    have isLast := areNames last (List.mem_append_right _ (List.mem_singleton_self _))
    have absolute {names : List String} : fs.startOf (ofNames start names) = [] := by
      obtain ⟨cs, chars⟩ := isStart.exists_cons
      rw [FileSystem.startOf, if_pos]
      rw [Path.isAbsolute, ofNames, String.toList_append, chars]
      rfl
    rw [Path.names_ofNames isStart areNames isName, absolute] at walked
    obtain ⟨dir, walked⟩ := walk_init _ _ _ walked
    rw [whole, String.toList_append, List.mem_append, not_or] at noNull
    rw [whole, String.utf8ByteSize_append] at short
    refine pathExists_eq_true_iff.mpr ⟨dir, .directory, locate_eq_ok_iff.mpr ⟨noNull.1, ?_, by omega, ?_⟩⟩
    · intro empty
      obtain ⟨cs, chars⟩ := isStart.exists_cons
      have none' := congrArg String.toList empty
      rw [ofNames, String.toList_append, chars] at none'
      cases none'
    · rw [Path.names_ofNames isStart areOthers isLast, absolute]
      exact walked

/-- A path along names has no slash at its end to be dropped. -/
theorem locateNew_ofNames (fs : FileSystem) (isName : IsEntryName name) :
    fs.locateNew (ofNames start (names ++ [name])) = fs.locate false (ofNames start (names ++ [name])) := by
  have bare : String.ofList (Path.dropSlashes (ofNames start (names ++ [name])).toList) =
      ofNames start (names ++ [name]) := by
    rw [Path.dropSlashes_of_last (Path.getLast?_ofNames isName), String.ofList_toList]
  simp only [FileSystem.locateNew, bare, ite_self]
  cases found : fs.locate false (ofNames start (names ++ [name])) with
  | ok place => rfl
  | error p =>
      rcases locate_error found with ⟨rfl, -⟩ | ⟨cause, rfl, -⟩ <;> rfl

/-- Making a directory ends without one: something else is there, or the way to it is blocked. -/
inductive FailsAs (fs : FileSystem) (path : String) (cause : Cause) : FileSystem × Except Problem Unit → Prop where
  | taken {q : String} : cause = .alreadyExists → FailsAs fs path cause (fs, .error (.failed .alreadyExists q))
  | blocked {fs' : FileSystem} {cause' : Cause} {q : String} : cause ≠ .alreadyExists →
      cause' ≠ .alreadyExists → fs.pathExists path = false →
      FailsAs fs path cause (fs', .error (.failed cause' q))

theorem makeDirectory_ofNames (fs : FileSystem) (isName : IsEntryName name) :
    fs.makeDirectory (ofNames start (names ++ [name])) =
      match fs.locate false (ofNames start (names ++ [name])) with
      | .ok (.absent location) => .ok (fs.put location .directory)
      | .ok (.present ..) => .error (.failed .alreadyExists (ofNames start (names ++ [name])))
      | .error p => .error p := by
  have same : fs.locateNew (ofNames start (names ++ [name])) = _ := locateNew_ofNames fs isName
  unfold FileSystem.makeDirectory
  generalize fs.locateNew (ofNames start (names ++ [name])) = found at same ⊢
  subst same
  rfl

/-- What one directory could not be made for keeps it from being made when only files are new. -/
theorem GrowsByFiles.makeDirectory (grows : fs.GrowsByFiles fs') (isName : IsEntryName name) {cause : Cause}
    {q : String} (failed : fs.makeDirectory (ofNames start (names ++ [name])) = .error (.failed cause q)) :
    ∃ cause', fs'.makeDirectory (ofNames start (names ++ [name])) =
        .error (.failed cause' (ofNames start (names ++ [name]))) ∧
      (cause = .alreadyExists ∧ cause' = .alreadyExists ∨
        cause ≠ .alreadyExists ∧ cause' ≠ .alreadyExists ∧
          fs'.pathExists (ofNames start (names ++ [name])) = false) := by
  rw [makeDirectory_ofNames fs isName] at failed
  rw [makeDirectory_ofNames fs' isName]
  generalize ofNames start (names ++ [name]) = path at failed ⊢
  cases before : fs.locate false path with
  | ok place =>
      rw [before] at failed
      cases place with
      | absent location => cases failed
      | present location node =>
          obtain ⟨place', located, leads⟩ := grows.locate before
          cases failed
          rw [located]
          cases leads <;> exact ⟨_, rfl, .inl ⟨rfl, rfl⟩⟩
  | error p =>
      rw [before] at failed
      obtain rfl := Except.error.inj failed
      rcases locate_error before with ⟨null, -⟩ | ⟨cause', isCause, free⟩
      · cases null
      · cases isCause
        obtain ⟨p', located, noNull⟩ := grows.leadsNowhere before
        rcases locate_error located with ⟨rfl, -⟩ | ⟨cause', rfl, free'⟩
        · cases noNull rfl
        · rw [located]
          refine ⟨cause', rfl, .inr ⟨free, free', ?_⟩⟩
          rw [Bool.eq_false_iff]
          refine mt pathExists_eq_true_iff.mp ?_
          rw [locate_follow located nofun]
          nofun

theorem ensureDirectory_of_error {path : String} {p : Problem} (stops : fs.makeDirectory path = .error p) :
    fs.ensureDirectory path =
      (fs, if p.cause?.isSome && fs.isDirectory path then .ok () else .error p) := by
  unfold FileSystem.ensureDirectory
  rw [stops]

/-- So does what no directory could be made for where there was none. -/
theorem GrowsByFiles.ensureDirectory (grows : fs.GrowsByFiles fs') (isName : IsEntryName name) {cause : Cause}
    {q : String}
    (failed : (fs.ensureDirectory (ofNames start (names ++ [name]))).2 = .error (.failed cause q)) :
    FailsAs fs' (ofNames start (names ++ [name])) cause
      (fs'.ensureDirectory (ofNames start (names ++ [name]))) := by
  cases made : fs.makeDirectory (ofNames start (names ++ [name])) with
  | ok fs'' =>
      unfold FileSystem.ensureDirectory at failed
      rw [made] at failed
      cases failed
  | error p =>
      rw [ensureDirectory_of_error made] at failed
      dsimp only at failed
      split at failed
      · cases failed
      · next unmade =>
          obtain rfl := Except.error.inj failed
          have noDirectory := grows.isDirectory (by simpa [Problem.cause?] using unmade)
          obtain ⟨cause', stops, alike⟩ := grows.makeDirectory isName made
          rw [ensureDirectory_of_error stops, noDirectory, Bool.and_false, if_neg Bool.false_ne_true]
          rcases alike with ⟨taken, rfl⟩ | ⟨free, free', missing⟩
          · exact .taken taken
          · exact .blocked free free' missing

/-- A directory that is made is there. -/
theorem pathExists_of_ensureDirectory (isName : IsEntryName name)
    (made : fs.ensureDirectory (ofNames start (names ++ [name])) = (fs', .ok ())) :
    fs'.pathExists (ofNames start (names ++ [name])) = true := by
  generalize isPath : ofNames start (names ++ [name]) = path at made ⊢
  unfold FileSystem.ensureDirectory at made
  split at made
  · next fs'' makes =>
      cases made
      rw [← isPath, makeDirectory_ofNames fs isName, isPath] at makes
      split at makes
      · next location found =>
          cases makes
          obtain ⟨named, free⟩ := free_of_walk (locate_eq_ok_iff.mp found).2.2.2
          obtain ⟨place', located, leads⟩ := (Grows.putDirectory named free).locate found
          have now := node?_put_same fs named .directory
          cases leads with
          | free there => rw [now] at there; cases there
          | taken there =>
              obtain rfl := Option.some.inj (now.symm.trans there)
              exact pathExists_eq_true_iff.mpr ⟨_, _, locate_follow located nofun⟩
      · cases makes
      · cases makes
  · obtain ⟨rfl, done⟩ := Prod.mk.inj made
    split at done
    · next there => exact pathExists_of_isDirectory (Bool.and_eq_true _ _ |>.mp there).2
    · cases done

/-- How directories are made along names: those above come first, if they are missing. -/
theorem makeDirectoriesWithin_ofNames (fs : FileSystem) (fuel : Nat) (isStart : IsStart start)
    (areNames : ∀ n ∈ names, IsEntryName n) (isName : IsEntryName name) :
    fs.makeDirectoriesWithin (ofNames start (names ++ [name])) (fuel + 1) =
      if fs.pathExists (ofNames start names) then fs.ensureDirectory (ofNames start (names ++ [name]))
      else
        match fs.makeDirectoriesWithin (ofNames start names) fuel with
        | (fs, .ok ()) | (fs, .error (.failed .alreadyExists _)) =>
          fs.ensureDirectory (ofNames start (names ++ [name]))
        | (fs, .error p) => (fs, .error p) := by
  have above := Path.aboveAndName_ofNames isStart areNames isName
  have someAbove : (ofNames start names).isEmpty = false := by
    obtain ⟨cs, chars⟩ := isStart.exists_cons
    rw [Bool.eq_false_iff, ne_eq, String.isEmpty_iff]
    intro empty
    have none' := congrArg String.toList empty
    rw [ofNames, String.toList_append, chars] at none'
    cases none'
  have someName : name.isEmpty = false := by simpa using isName.nonempty
  have notSame : (name == ".") = false := by simpa using isName.notSame
  have lacks : fs.lacksAbove (ofNames start (names ++ [name])) = !fs.pathExists (ofNames start names) := by
    simp [FileSystem.lacksAbove, above, someAbove, someName]
  conv_lhs => unfold FileSystem.makeDirectoriesWithin
  rw [lacks, above]
  simp only [notSame, Bool.false_eq_true, if_false]
  cases fs.pathExists (ofNames start names) with
  | true => rfl
  | false =>
      generalize fs.makeDirectoriesWithin (ofNames start names) fuel = outcome
      obtain ⟨middle, done⟩ := outcome
      cases done with
      | ok => rfl
      | error p =>
          cases p with
          | failed cause path => cases cause <;> rfl
          | notLinked | nullInPath | unencodable => rfl

theorem fst_of_ensureDirectory {path : String} {p : Problem}
    (failed : fs.ensureDirectory path = (fs', .error p)) : fs' = fs := by
  unfold FileSystem.ensureDirectory at failed
  split at failed
  · cases failed
  · exact (Prod.mk.inj failed).1.symm

/-- Where making a directory succeeds, it is there. -/
theorem pathExists_of_makeDirectoriesWithin (isStart : IsStart start) (areNames : ∀ n ∈ names, IsEntryName n)
    (isName : IsEntryName name) {fuel : Nat}
    (made : fs.makeDirectoriesWithin (ofNames start (names ++ [name])) (fuel + 1) = (fs', .ok ())) :
    fs'.pathExists (ofNames start (names ++ [name])) = true := by
  rw [makeDirectoriesWithin_ofNames fs fuel isStart areNames isName] at made
  split at made
  · exact pathExists_of_ensureDirectory isName made
  · split at made
    · exact pathExists_of_ensureDirectory isName made
    · exact pathExists_of_ensureDirectory isName made
    · cases made

/-- A directory that is to be made fails as before when only files are new. -/
theorem GrowsByFiles.makeDirectoriesWithin {cause : Cause} {q : String} (isStart : IsStart start)
    (areNames : ∀ n ∈ names, IsEntryName n) (isName : IsEntryName name) {fuel : Nat}
    (enough : names.length < fuel) {fs₁ fs₂ : FileSystem}
    (failed : fs.makeDirectoriesWithin (ofNames start (names ++ [name])) fuel =
      (fs₁, .error (.failed cause q))) (grows : fs₁.GrowsByFiles fs₂) :
    FailsAs fs₂ (ofNames start (names ++ [name])) cause
      (fs₂.makeDirectoriesWithin (ofNames start (names ++ [name])) fuel) := by
  -- The induction is on the directories above.
  induction names using List.reverseRecOn generalizing name fuel cause q with
  | nil =>
      obtain ⟨fuel, rfl⟩ := Nat.exists_eq_succ_of_ne_zero (Nat.ne_zero_of_lt enough)
      have root (fs : FileSystem) : fs.pathExists (ofNames start []) = true := by
        rw [show ofNames start [] = start from String.toList_inj.mp (Path.toList_ofNames_nil start)]
        exact pathExists_of_isDirectory (isDirectory_start fs isStart)
      rw [makeDirectoriesWithin_ofNames _ _ isStart areNames isName, if_pos (root _)] at failed ⊢
      obtain rfl := fst_of_ensureDirectory failed
      exact grows.ensureDirectory isName (congrArg Prod.snd failed)
  | append_singleton others last ih =>
      obtain ⟨fuel, rfl⟩ := Nat.exists_eq_succ_of_ne_zero (Nat.ne_zero_of_lt enough)
      rw [List.length_append, List.length_singleton] at enough
      have areOthers : ∀ n ∈ others, IsEntryName n := fun n member => areNames n (List.mem_append_left _ member)
      have isLast := areNames last (List.mem_append_right _ (List.mem_singleton_self _))
      rw [makeDirectoriesWithin_ofNames _ _ isStart areNames isName] at failed ⊢
      -- What fails is the last directory, and those above are there or will be made as before.
      have lastFails (fails : fs₁.ensureDirectory (ofNames start (others ++ [last] ++ [name])) =
          (fs₁, .error (.failed cause q))) := grows.ensureDirectory isName (congrArg Prod.snd fails)
      split at failed
      · next above =>
          obtain rfl := fst_of_ensureDirectory failed
          rw [if_pos (grows.pathExists above)]
          exact lastFails failed
      · split at failed
        · next middle madeAbove =>
            obtain rfl := fst_of_ensureDirectory failed
            obtain ⟨less, rfl⟩ : ∃ less, fuel = less + 1 := ⟨fuel - 1, by omega⟩
            have above := pathExists_of_makeDirectoriesWithin isStart areOthers isLast madeAbove
            rw [if_pos (grows.pathExists above)]
            exact lastFails failed
        · next middle path taken =>
            obtain rfl := fst_of_ensureDirectory failed
            split
            · exact lastFails failed
            · have again := ih areOthers isLast (by omega) taken
              generalize fs₂.makeDirectoriesWithin (ofNames start (others ++ [last])) fuel = outcome at again
              cases again with
              | taken => exact lastFails failed
              | blocked free => exact absurd rfl free
        · next middle p notTaken failedAbove =>
            obtain ⟨rfl, isProblem⟩ := Prod.mk.inj failed
            obtain rfl := Except.error.inj isProblem
            have again := ih areOthers isLast (by omega) failedAbove
            generalize fs₂.makeDirectoriesWithin (ofNames start (others ++ [last])) fuel = outcome at again
            cases again with
            | taken isTaken => exact absurd (congrArg (Problem.failed · q) isTaken) (notTaken q)
            | @blocked fs' cause' q' free free' missing =>
                have missing' : fs₂.pathExists (ofNames start (others ++ [last] ++ [name])) = false := by
                  rw [Bool.eq_false_iff] at missing ⊢
                  exact mt (pathExists_init isStart areNames isName) missing
                rw [if_neg (by simp [missing])]
                cases cause' with
                | alreadyExists => exact absurd rfl free'
                | _ => exact .blocked free nofun missing'

end AlongNames

section Problems

theorem locateNew_error {path : String} {p : Problem} (failed : fs.locateNew path = .error p) :
    p = .nullInPath ∧ '\x00' ∈ path.toList ∨ ∃ cause, p = .failed cause path := by
  simp only [FileSystem.locateNew] at failed
  split at failed
  · next cause q located => exact .inr ⟨cause, (Except.error.inj failed).symm⟩
  · next notFailed =>
      rcases locate_error failed with ⟨rfl, null⟩ | ⟨cause, rfl, -⟩
      · refine .inl ⟨rfl, ?_⟩
        split at null
        · exact null
        · rw [String.toList_ofList] at null
          exact (Path.prefix_dropSlashes _).subset null
      · exact absurd failed (notFailed cause _)

/-- Why a directory could not be made. -/
theorem ensureDirectory_error {path : String} {p : Problem} (failed : (fs.ensureDirectory path).2 = .error p) :
    p = .nullInPath ∧ '\x00' ∈ path.toList ∨ ∃ cause q, p = .failed cause q := by
  unfold FileSystem.ensureDirectory at failed
  split at failed
  · cases failed
  · next p' stops =>
      dsimp only at failed
      split at failed
      · cases failed
      · obtain rfl := Except.error.inj failed
        unfold FileSystem.makeDirectory at stops
        split at stops
        · cases stops
        · exact .inr ⟨_, _, (Except.error.inj stops).symm⟩
        · next located =>
            obtain rfl := Except.error.inj stops
            exact (locateNew_error located).imp id fun ⟨cause, isCause⟩ => ⟨cause, _, isCause⟩

theorem prefix_aboveAndName (path : String) : (aboveAndName path).1.toList <+: path.toList := by
  have parent := Path.prefix_parent path
  have grandparent := (Path.prefix_parent (Path.parent path)).trans parent
  unfold aboveAndName
  generalize Path.parent (Path.parent path) = above at grandparent
  generalize Path.parent path = above' at parent
  split
  · exact grandparent
  · exact parent

theorem makeDirectoriesWithin_error {path : String} {fuel : Nat} {p : Problem}
    (failed : (fs.makeDirectoriesWithin path fuel).2 = .error p) :
    p = .nullInPath ∧ '\x00' ∈ path.toList ∨ ∃ cause q, p = .failed cause q := by
  induction fuel generalizing path p with
  | zero =>
      unfold FileSystem.makeDirectoriesWithin at failed
      cases failed
  | succ fuel ih =>
      have last {middle : FileSystem} (failed : (if (aboveAndName path).2 == "." then (middle, .ok ())
          else middle.ensureDirectory path : FileSystem × Except Problem Unit).2 = .error p) :
          p = .nullInPath ∧ '\x00' ∈ path.toList ∨ ∃ cause q, p = .failed cause q := by
        split at failed
        · cases failed
        · exact ensureDirectory_error failed
      have above {p : Problem} (failed : (fs.makeDirectoriesWithin (aboveAndName path).1 fuel).2 = .error p) :
          p = .nullInPath ∧ '\x00' ∈ path.toList ∨ ∃ cause q, p = .failed cause q :=
        (ih failed).imp (And.imp id fun null => (prefix_aboveAndName path).subset null) id
      unfold FileSystem.makeDirectoriesWithin at failed
      split at failed
      · dsimp only at failed
        split at failed
        · exact last failed
        · exact last failed
        · next stops =>
            obtain rfl := Except.error.inj failed
            exact above (congrArg Prod.snd stops)
      · exact ensureDirectory_error failed

theorem update_error {path : String} {change : Text.Utf8.Bytes → Text.Utf8.Bytes} {p : Problem}
    (failed : fs.update path change = .error p) :
    p = .nullInPath ∧ '\x00' ∈ path.toList ∨ ∃ cause q, p = .failed cause q := by
  have weaken {p : Problem} (found : p = .nullInPath ∧ '\x00' ∈ path.toList ∨ ∃ cause, p = .failed cause path) :
      p = .nullInPath ∧ '\x00' ∈ path.toList ∨ ∃ cause q, p = .failed cause q :=
    found.imp id fun ⟨cause, isCause⟩ => ⟨cause, path, isCause⟩
  unfold FileSystem.update at failed
  split at failed
  · split at failed
    · exact .inr ⟨_, _, (Except.error.inj failed).symm⟩
    · next located => exact weaken (Except.error.inj failed ▸ locateNew_error located)
  · split at failed
    · cases failed
    · exact .inr ⟨_, _, (Except.error.inj failed).symm⟩
    · cases failed
    · next located =>
        obtain rfl := Except.error.inj failed
        exact weaken ((locate_error located).imp id fun ⟨cause, isCause, _⟩ => ⟨cause, isCause⟩)

end Problems

end SketchSurvey.Files.FileSystem
