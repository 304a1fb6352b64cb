import Mathlib.Data.List.Basic
import SketchSurvey.Proofs.Files.EntryNames
import SketchSurvey.Proofs.Files.Extension

/-! Absolute paths in their shortest form: slashes at the start, and names with one slash between them. -/

set_option autoImplicit false

namespace SketchSurvey.Files

namespace Path

/-- What stands before the first name of an absolute path. -/
def IsStart (start : String) : Prop := start = "/" ∨ start = "//"

/-- The path along some names. -/
def ofNames (start : String) (names : List String) : String := start ++ "/".intercalate names

variable {start name : String} {names : List String}

theorem IsStart.eq_slash {start : String} (isStart : IsStart start) : ∀ c ∈ start.toList, c = '/' := by
  rcases isStart with rfl | rfl
  · exact List.forall_mem_singleton.mpr rfl
  · exact List.forall_mem_cons.mpr ⟨rfl, List.forall_mem_singleton.mpr rfl⟩

theorem IsStart.exists_cons {start : String} (isStart : IsStart start) : ∃ cs, start.toList = '/' :: cs := by
  rcases isStart with rfl | rfl
  · exact ⟨[], rfl⟩
  · exact ⟨['/'], rfl⟩

/-- The last of some texts stands behind the others with their slashes. -/
theorem intercalate_append (names : List (List Char)) (name : List Char) :
    ['/'].intercalate (names ++ [name]) = names.flatMap (· ++ ['/']) ++ name := by
  induction names with
  | nil => rw [List.nil_append, List.intercalate_singleton, List.flatMap_nil, List.nil_append]
  | cons first others ih =>
      rw [List.cons_append, List.intercalate_cons_of_ne_nil (by simp), ih, List.flatMap_cons, List.append_assoc,
        List.append_assoc, List.append_assoc]

theorem toList_ofNames (start : String) (names : List String) (name : String) :
    (ofNames start (names ++ [name])).toList =
      (start.toList ++ (names.map String.toList).flatMap (· ++ ['/'])) ++ name.toList := by
  rw [ofNames, String.toList_append, String.toList_intercalate, List.map_append, List.map_singleton,
    show "/".toList = ['/'] from rfl, intercalate_append, List.append_assoc]

theorem toList_ofNames_nil (start : String) : (ofNames start []).toList = start.toList := by
  rw [ofNames, String.toList_append, String.toList_intercalate, List.map_nil, List.intercalate_nil,
    List.append_nil]

/-- What stands before the last name ends in a slash. -/
theorem exists_slash_before (isStart : IsStart start) (names : List (List Char)) :
    ∃ before, start.toList ++ names.flatMap (· ++ ['/']) = before ++ ['/'] := by
  obtain rfl | ⟨others, last, rfl⟩ := List.eq_nil_or_concat' names
  · rcases isStart with rfl | rfl
    · exact ⟨[], rfl⟩
    · exact ⟨['/'], rfl⟩
  · exact ⟨start.toList ++ others.flatMap (· ++ ['/']) ++ last, by
      rw [List.flatMap_append, List.flatMap_singleton, List.append_assoc, List.append_assoc]⟩

theorem prefix_dropSlashes (cs : List Char) : dropSlashes cs <+: cs := by
  have suffix := List.dropWhile_suffix (l := cs.reverse) (· == '/')
  rw [← List.reverse_prefix, List.reverse_reverse] at suffix
  exact suffix

theorem prefix_parent (p : String) : (parent p).toList <+: p.toList := by
  have head : (p.toList.reverse.dropWhile (· != '/')).reverse <+: p.toList := by
    have suffix := List.dropWhile_suffix (l := p.toList.reverse) (· != '/')
    rw [← List.reverse_prefix, List.reverse_reverse] at suffix
    exact suffix
  unfold parent
  dsimp only
  split
  · rwa [String.toList_ofList]
  · rw [String.toList_ofList]
    exact (prefix_dropSlashes _).trans head

theorem dropSlashes_append_slash (cs : List Char) : dropSlashes (cs ++ ['/']) = dropSlashes cs := by
  rw [dropSlashes, List.reverse_append]
  rfl

theorem dropSlashes_of_last {cs : List Char} (last : ∀ c ∈ cs.getLast?, c ≠ '/') : dropSlashes cs = cs := by
  rw [dropSlashes]
  cases reversed : cs.reverse with
  | nil => rw [List.reverse_eq_nil_iff.mp reversed]; rfl
  | cons c rest =>
      have isLast : cs.getLast? = some c := by rw [← List.head?_reverse, reversed]; rfl
      have other : ¬ (c == '/') = true := by simpa using last c isLast
      rw [@List.dropWhile_cons_of_neg _ (· == '/') c rest other, ← reversed, List.reverse_reverse]

/-- The last character of a path along names is no slash. -/
theorem getLast?_ofNames (isName : IsEntryName name) :
    ∀ c ∈ (ofNames start (names ++ [name])).toList.getLast?, c ≠ '/' := by
  intro c last
  rw [toList_ofNames, List.getLast?_append] at last
  cases lastOfName : name.toList.getLast? with
  | none =>
      have empty : name = "" := String.toList_inj.mp (List.getLast?_eq_none_iff.mp lastOfName)
      exact absurd empty isName.nonempty
  | some d =>
      rw [lastOfName] at last
      obtain rfl := Option.some.inj last
      rintro rfl
      exact isName.undivided (List.mem_of_mem_getLast? lastOfName)

theorem asksForDirectory_ofNames (isName : IsEntryName name) :
    asksForDirectory (ofNames start (names ++ [name])) = false := by
  rw [asksForDirectory, beq_eq_false_iff_ne]
  intro slash
  exact getLast?_ofNames isName '/' slash rfl

theorem baseName_ofNames (isStart : IsStart start) (isName : IsEntryName name) :
    baseName (ofNames start (names ++ [name])) = name := by
  obtain ⟨before, ends⟩ := exists_slash_before isStart (names.map String.toList)
  rw [baseName, toList_ofNames, ends, nameList, List.append_assoc, List.singleton_append,
    reverse_takeWhile_reverse isName.undivided, String.ofList_toList]

theorem parent_ofNames (isStart : IsStart start) (areNames : ∀ n ∈ names, IsEntryName n)
    (isName : IsEntryName name) : parent (ofNames start (names ++ [name])) = ofNames start names := by
  obtain ⟨before, ends⟩ := exists_slash_before isStart (names.map String.toList)
  have head : ((ofNames start (names ++ [name])).toList.reverse.dropWhile (· != '/')).reverse =
      before ++ ['/'] := by
    rw [toList_ofNames, ends, List.reverse_append, List.dropWhile_append_of_pos (all_ne_reverse isName.undivided),
      List.reverse_append, List.reverse_singleton, List.singleton_append, List.dropWhile_cons_of_neg (by decide),
      List.reverse_cons, List.reverse_reverse]
  unfold parent
  rw [head]
  obtain rfl | ⟨others, last, rfl⟩ := List.eq_nil_or_concat' names
  · have isWhole : before ++ ['/'] = start.toList := by
      rw [← ends, List.map_nil, List.flatMap_nil, List.append_nil]
    have all : (start.toList.all (· == '/')) = true :=
      List.all_eq_true.mpr fun c member => by simp [isStart.eq_slash c member]
    apply String.toList_inj.mp
    rw [isWhole, if_pos all, String.toList_ofList, toList_ofNames_nil]
  · have isLast := areNames last (List.mem_append_right _ (List.mem_singleton_self _))
    have isBefore : before = (ofNames start (others ++ [last])).toList := by
      rw [List.map_append, List.map_singleton, List.flatMap_append, List.flatMap_singleton, ← List.append_assoc,
        ← List.append_assoc] at ends
      rw [toList_ofNames]
      exact (List.append_cancel_right ends).symm
    have notAll : ¬ ((before ++ ['/']).all (· == '/')) = true := by
      intro all
      obtain ⟨c, isChar⟩ := List.exists_mem_of_ne_nil last.toList fun empty =>
        isLast.nonempty (String.toList_inj.mp empty)
      have inside : c ∈ before ++ ['/'] := by
        rw [isBefore, toList_ofNames]
        simp [isChar]
      have slash : c = '/' := by simpa using List.all_eq_true.mp all c inside
      exact isLast.undivided (slash ▸ isChar)
    rw [if_neg notAll, dropSlashes_append_slash, isBefore, dropSlashes_of_last (getLast?_ofNames isLast),
      String.ofList_toList]

theorem aboveAndName_ofNames (isStart : IsStart start) (areNames : ∀ n ∈ names, IsEntryName n)
    (isName : IsEntryName name) :
    FileSystem.aboveAndName (ofNames start (names ++ [name])) = (ofNames start names, name) := by
  have named : ¬ (baseName (ofNames start (names ++ [name]))).isEmpty = true := by
    rw [baseName_ofNames isStart isName, String.isEmpty_iff]
    exact isName.nonempty
  rw [FileSystem.aboveAndName, if_neg named, baseName_ofNames isStart isName,
    parent_ofNames isStart areNames isName]

/-- The names in a path along names are those. -/
theorem names_ofNames (isStart : IsStart start) (areNames : ∀ n ∈ names, IsEntryName n)
    (isName : IsEntryName name) : Files.names (ofNames start (names ++ [name])) = names ++ [name] := by
  have all : ∀ n ∈ names ++ [name], IsEntryName n :=
    List.forall_mem_append.mpr ⟨areNames, List.forall_mem_singleton.mpr isName⟩
  have cut : (['/'].intercalate ((names ++ [name]).map String.toList)).splitOn '/' =
      (names ++ [name]).map String.toList := by
    refine List.splitOn_intercalate '/' (fun piece member => ?_) (by simp)
    obtain ⟨n, inside, rfl⟩ := List.mem_map.mp member
    exact (all n inside).undivided
  have filled : (names ++ [name]).filter (fun n => !n.isEmpty) = names ++ [name] := by
    refine List.filter_eq_self.mpr fun n member => ?_
    simpa using (all n member).nonempty
  have texts (pieces : List String) : (pieces.map String.toList).map String.ofList = pieces := by
    rw [List.map_map]
    exact List.map_id'' (fun n => String.ofList_toList) pieces
  have chars : (ofNames start (names ++ [name])).toList =
      start.toList ++ ['/'].intercalate ((names ++ [name]).map String.toList) := by
    rw [ofNames, String.toList_append, String.toList_intercalate]
    rfl
  have begins (rest : List Char) : ('/' :: rest).splitOn '/' = [] :: rest.splitOn '/' :=
    List.splitOn_append_cons_self [] rest
  rw [Files.names, asksForDirectory_ofNames isName, if_neg Bool.false_ne_true, Text.splitAt, chars]
  rcases isStart with rfl | rfl
  · rw [show "/".toList = ['/'] from rfl, List.singleton_append, begins, cut, List.map_cons, texts]
    exact filled
  · rw [show "//".toList = ['/', '/'] from rfl, List.cons_append, List.singleton_append, begins, begins, cut,
      List.map_cons, List.map_cons, texts]
    exact filled

section Normalize

theorem isEntryName_of_step {names : List String} {name : String} (areNames : ∀ n ∈ names, IsEntryName n)
    (undivided : '/' ∉ name.toList) : ∀ n ∈ step true names name, IsEntryName n := by
  unfold step
  split
  · exact areNames
  · next isName =>
      simp only [Bool.or_eq_true, String.isEmpty_iff, beq_iff_eq, not_or] at isName
      split
      · cases names with
        | nil => exact List.forall_mem_nil _
        | cons last before =>
            have notAbove : ¬ (last == "..") = true := by
              simpa using (areNames last List.mem_cons_self).notAbove
            dsimp only
            rw [if_neg notAbove]
            exact fun n member => areNames n (List.mem_cons_of_mem _ member)
      · next notAbove =>
          refine List.forall_mem_cons.mpr ⟨⟨isName.1, undivided, isName.2, ?_⟩, areNames⟩
          simpa using notAbove

/-- The shortest form of an absolute path is a path along names. -/
theorem exists_normalize_eq {p : String} (absolute : isAbsolute p = true) :
    ∃ start names, normalize p = ofNames start names ∧ IsStart start ∧ ∀ n ∈ names, IsEntryName n := by
  obtain ⟨cs, chars⟩ : ∃ cs, p.toList = '/' :: cs := by
    rw [isAbsolute, beq_iff_eq] at absolute
    exact ⟨_, List.eq_cons_of_mem_head? absolute⟩
  have slashes : 0 < (p.toList.takeWhile (· == '/')).length := by
    rw [chars, List.takeWhile_cons_of_pos (by decide)]
    exact Nat.succ_pos _
  have areNames (pieces names : List String) (undivided : ∀ n ∈ pieces, '/' ∉ n.toList)
      (known : ∀ n ∈ names, IsEntryName n) : ∀ n ∈ pieces.foldl (step true) names, IsEntryName n := by
    induction pieces generalizing names with
    | nil => exact known
    | cons piece rest ih =>
        exact ih _ (List.forall_mem_cons.mp undivided).2
          (isEntryName_of_step known (undivided piece List.mem_cons_self))
  have entries := areNames (Text.splitAt '/' p) [] (fun n member => Text.not_mem_of_mem_splitAt member)
    (List.forall_mem_nil _)
  have positive : decide ((p.toList.takeWhile (· == '/')).length > 0) = true := decide_eq_true slashes
  obtain ⟨start, isStart, same⟩ : ∃ start, IsStart start ∧
      (if (p.toList.takeWhile (· == '/')).length == 2 then "//"
        else if (p.toList.takeWhile (· == '/')).length > 0 then "/" else "") = start := by
    split
    · exact ⟨"//", .inr rfl, rfl⟩
    · exact ⟨"/", .inl rfl, rfl⟩
  refine ⟨start, _, ?_, isStart, fun n member => entries n (List.mem_reverse.mp member)⟩
  have nonempty : ¬ (ofNames start ((Text.splitAt '/' p).foldl (step true) []).reverse).isEmpty = true := by
    obtain ⟨cs, chars⟩ := isStart.exists_cons
    rw [String.isEmpty_iff]
    intro empty
    have none' := congrArg String.toList empty
    rw [ofNames, String.toList_append, chars] at none'
    cases none'
  unfold normalize
  dsimp only
  rw [positive, same]
  exact if_neg nonempty

/-- A path that depends on no working directory is a path along names. -/
theorem exists_absolute_eq (fs : FileSystem) (p : String) :
    ∃ start names, absolute fs.workingPath p = ofNames start names ∧ IsStart start ∧
      ∀ n ∈ names, IsEntryName n := by
  have working : fs.workingPath.toList.head? = some '/' := by
    rw [FileSystem.workingPath, String.toList_append]
    rfl
  refine exists_normalize_eq ?_
  split
  · next isAbsolute => exact isAbsolute
  · next relative =>
      unfold join
      rw [if_neg relative, isAbsolute, beq_iff_eq]
      split <;> simp only [String.toList_append, List.head?_append, working] <;> rfl

end Normalize

/-- A path along names starts with the path along the names before the last. -/
theorem exists_append_eq (start : String) (names : List String) (name : String) :
    ∃ rest, ofNames start (names ++ [name]) = ofNames start names ++ rest := by
  obtain rfl | ⟨others, last, rfl⟩ := List.eq_nil_or_concat' names
  · refine ⟨name, String.toList_inj.mp ?_⟩
    rw [String.toList_append, toList_ofNames, toList_ofNames_nil, List.map_nil, List.flatMap_nil, List.append_nil]
  · refine ⟨"/" ++ name, String.toList_inj.mp ?_⟩
    rw [String.toList_append, String.toList_append, toList_ofNames, toList_ofNames, List.map_append,
      List.flatMap_append, List.map_singleton, List.flatMap_singleton]
    simp only [List.append_assoc]
    rfl

/-- There are no more names in a path than characters. -/
theorem length_le_length_ofNames (start : String) {names : List String} (areNames : ∀ n ∈ names, IsEntryName n) :
    names.length ≤ (ofNames start names).length := by
  obtain rfl | ⟨others, last, rfl⟩ := List.eq_nil_or_concat' names
  · exact Nat.zero_le _
  · have isLast := areNames last (List.mem_append_right _ (List.mem_singleton_self _))
    have filled : 0 < last.toList.length := List.length_pos_iff.mpr fun empty =>
      isLast.nonempty (String.toList_inj.mp empty)
    have slashes (pieces : List (List Char)) : pieces.length ≤ (pieces.flatMap (· ++ ['/'])).length := by
      induction pieces with
      | nil => exact Nat.zero_le _
      | cons piece rest ih =>
          rw [List.flatMap_cons, List.length_append, List.length_append, List.length_cons, List.length_singleton]
          omega
    have each := slashes (others.map String.toList)
    rw [List.length_map] at each
    rw [← String.length_toList, toList_ofNames, List.length_append, List.length_append, List.length_append,
      List.length_singleton]
    omega

section Characters

variable {c : Char}

theorem mem_intercalate {pieces : List (List Char)} (member : c ∈ ['/'].intercalate pieces) :
    c = '/' ∨ ∃ piece ∈ pieces, c ∈ piece := by
  obtain rfl | ⟨others, last, rfl⟩ := List.eq_nil_or_concat' pieces
  · rw [List.intercalate_nil] at member
    exact absurd member List.not_mem_nil
  · rw [intercalate_append, List.mem_append, List.mem_flatMap] at member
    rcases member with ⟨piece, isPiece, inside⟩ | inside
    · rcases List.mem_append.mp inside with inside | slash
      · exact .inr ⟨piece, List.mem_append_left _ isPiece, inside⟩
      · exact .inl (List.mem_singleton.mp slash)
    · exact .inr ⟨last, List.mem_append_right _ (List.mem_singleton_self _), inside⟩

theorem subset_intercalate {piece : List Char} {pieces : List (List Char)} (isPiece : piece ∈ pieces) :
    piece ⊆ ['/'].intercalate pieces := by
  intro c inside
  obtain rfl | ⟨others, last, rfl⟩ := List.eq_nil_or_concat' pieces
  · exact absurd isPiece List.not_mem_nil
  · rw [intercalate_append, List.mem_append, List.mem_flatMap]
    rcases List.mem_append.mp isPiece with isPiece | isLast
    · exact .inl ⟨piece, isPiece, List.mem_append_left _ inside⟩
    · exact .inr (List.mem_singleton.mp isLast ▸ inside)

/-- Every name of the shortest form is one of the path. -/
theorem step_subset (absolute : Bool) (names : List String) (name : String) :
    step absolute names name ⊆ name :: names := by
  intro n member
  unfold step at member
  split at member
  · exact List.mem_cons_of_mem _ member
  · split at member
    · next above =>
        obtain rfl : name = ".." := by simpa using above
        cases names with
        | nil => cases absolute <;> simp_all
        | cons last before =>
            dsimp only at member
            split at member
            · exact member
            · exact List.mem_cons_of_mem _ (List.mem_cons_of_mem _ member)
    · exact member

theorem foldl_step_subset (absolute : Bool) (pieces names : List String) :
    pieces.foldl (step absolute) names ⊆ pieces ++ names := by
  induction pieces generalizing names with
  | nil => exact List.Subset.refl _
  | cons piece rest ih =>
      refine List.Subset.trans (ih _) fun n member => ?_
      rcases List.mem_append.mp member with inRest | inStep
      · exact List.mem_append_left _ (List.mem_cons_of_mem _ inRest)
      · rcases List.mem_cons.mp (step_subset absolute names piece inStep) with rfl | known
        · exact List.mem_append_left _ List.mem_cons_self
        · exact List.mem_append_right _ known

/-- The shortest form of a path has no characters of its own but slashes and dots. -/
theorem mem_normalize {p : String} (member : c ∈ (normalize p).toList) :
    c ∈ p.toList ∨ c = '/' ∨ c = '.' := by
  obtain ⟨start, names, slashes, isPart, same⟩ : ∃ (start : String) (names : List String),
      (∀ d ∈ start.toList, d = '/') ∧ names ⊆ Text.splitAt '/' p ∧
      normalize p = if (start ++ "/".intercalate names).isEmpty then "." else start ++ "/".intercalate names := by
    refine ⟨_, _, ?_, fun name isName => ?_, rfl⟩
    · split
      · simp
      · split <;> simp
    · simpa using foldl_step_subset _ _ _ (List.mem_reverse.mp isName)
  rw [same] at member
  split at member
  · exact .inr (.inr (List.mem_singleton.mp member))
  · rw [String.toList_append, String.toList_intercalate, List.mem_append] at member
    rcases member with inStart | inNames
    · exact .inr (.inl (slashes c inStart))
    · rcases mem_intercalate inNames with slash | ⟨piece, isPiece, inside⟩
      · exact .inr (.inl slash)
      · obtain ⟨name, isName, rfl⟩ := List.mem_map.mp isPiece
        obtain ⟨part, isPart, rfl⟩ := List.mem_map.mp (isPart isName)
        rw [String.toList_ofList] at inside
        have whole := subset_intercalate isPart inside
        rw [List.intercalate_splitOn] at whole
        exact .inl whole

/-- Nor has an absolute path, besides those of the working directory. -/
theorem mem_absolute {working p : String} (member : c ∈ (absolute working p).toList) :
    c ∈ working.toList ∨ c ∈ p.toList ∨ c = '/' ∨ c = '.' := by
  rcases mem_normalize member with joined | own
  · split at joined
    · exact .inr (.inl joined)
    · next relative =>
        rw [join, if_neg relative] at joined
        split at joined
        · rw [String.toList_append, List.mem_append] at joined
          exact joined.imp_right .inl
        · rw [String.toList_append, String.toList_append, List.mem_append, List.mem_append] at joined
          rcases joined with (inWorking | slash) | inPath
          · exact .inl inWorking
          · exact .inr (.inr (.inl (List.mem_singleton.mp slash)))
          · exact .inr (.inl inPath)
  · exact .inr (.inr own)

end Characters
end Path

end SketchSurvey.Files
