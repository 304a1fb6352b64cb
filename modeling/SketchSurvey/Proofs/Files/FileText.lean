import SketchSurvey.Proofs.Files.TextFile
import SketchSurvey.Proofs.Text.Utf8

/-! What is read from a file, whatever its bytes: the size limit is on the bytes alone, and all that a file
within it gives is a text without returns. Of the bytes of a text, that text is read with its lines ended in
one way. -/

set_option autoImplicit false

namespace SketchSurvey.Text

/-- A text in which every occurrence of some characters is replaced, from the left to the right. What is
empty occurs nowhere. -/
def replaceAll (old new : List Char) : List Char → List Char
  | [] => []
  | c :: rest =>
    if old ≠ [] ∧ old <+: c :: rest then new ++ replaceAll old new ((c :: rest).drop old.length)
    else c :: replaceAll old new rest
termination_by cs => cs.length
decreasing_by
  · next found =>
      have filled := List.length_pos_iff.mpr found.1
      simp only [List.length_drop, List.length_cons]
      omega
  · exact Nat.lt_succ_self _

section ReplaceAll

variable {old new : List Char}

theorem replaceAll_of_prefix (filled : old ≠ []) (rest : List Char) :
    replaceAll old new (old ++ rest) = new ++ replaceAll old new rest := by
  obtain ⟨c, more, rfl⟩ := List.exists_cons_of_ne_nil filled
  rw [List.cons_append, replaceAll, if_pos ⟨filled, ⟨rest, rfl⟩⟩, ← List.cons_append, List.drop_left]

theorem replaceAll_of_not_prefix {c : Char} {rest : List Char} (other : ¬ old <+: c :: rest) :
    replaceAll old new (c :: rest) = c :: replaceAll old new rest := by
  rw [replaceAll, if_neg fun found => other found.2]

end ReplaceAll

namespace Utf8

/-- Lines are ended in one way by replacing every return that a line feed follows, and then every other. -/
theorem unifyLines_eq_replaceAll (cs : List Char) :
    unifyLines cs = replaceAll ['\r'] ['\n'] (replaceAll ['\r', '\n'] ['\n'] cs) := by
  fun_induction unifyLines cs with
  | case1 rest ih =>
      have pair : replaceAll ['\r', '\n'] ['\n'] ('\r' :: '\n' :: rest) =
          '\n' :: replaceAll ['\r', '\n'] ['\n'] rest := replaceAll_of_prefix (List.cons_ne_nil _ _) rest
      have feed : ¬ ['\r'] <+: '\n' :: replaceAll ['\r', '\n'] ['\n'] rest := by simp
      rw [ih, pair, replaceAll_of_not_prefix feed]
  | case2 rest alone ih =>
      have noPair : ¬ ['\r', '\n'] <+: '\r' :: rest := by
        rintro ⟨more, same⟩
        exact alone more (List.cons.inj same).2.symm
      have single (more : List Char) : replaceAll ['\r'] ['\n'] ('\r' :: more) =
          '\n' :: replaceAll ['\r'] ['\n'] more := replaceAll_of_prefix (List.cons_ne_nil _ _) more
      rw [ih, replaceAll_of_not_prefix noPair, single]
  | case3 c rest notPair notReturn ih =>
      have other : c ≠ '\r' := notReturn
      have noPair : ¬ ['\r', '\n'] <+: c :: rest := fun found => other (List.cons_prefix_cons.mp found).1.symm
      have noSingle : ¬ ['\r'] <+: c :: replaceAll ['\r', '\n'] ['\n'] rest :=
        fun found => other (List.cons_prefix_cons.mp found).1.symm
      rw [ih, replaceAll_of_not_prefix noPair, replaceAll_of_not_prefix noSingle]
  | case4 => rw [replaceAll, replaceAll]

/-- No line ends in a return. -/
theorem return_not_mem_unifyLines (cs : List Char) : '\r' ∉ unifyLines cs := by
  fun_induction unifyLines cs with
  | case1 rest ih => exact List.not_mem_cons_of_ne_of_not_mem (by decide) ih
  | case2 rest alone ih => exact List.not_mem_cons_of_ne_of_not_mem (by decide) ih
  | case3 c rest notPair notReturn ih =>
      exact List.not_mem_cons_of_ne_of_not_mem (fun same => notReturn same.symm) ih
  | case4 => exact List.not_mem_nil

end Utf8

end SketchSurvey.Text

namespace SketchSurvey.Files

open SketchSurvey.Text
open SketchSurvey.Text.Utf8 (Bytes encode)

theorem FileSystem.read_eq_ok_iff {fs : FileSystem} {path : String} {bytes : Bytes} :
    fs.read path = .ok bytes ↔ ∃ location, fs.status path = .ok (location, .file bytes) := by
  rw [FileSystem.read]
  cases fs.status path with
  | error p => simp
  | ok found =>
      obtain ⟨location, node⟩ := found
      cases node <;> simp

/-- What is read from a file. A limit refuses it exactly if it is positive and the bytes are more. All bytes
within the limit are read, as a text that does not depend on it and has no returns; of the bytes of a text it
is that text, with line feeds for its returns. -/
theorem readText_of_read {fs : FileSystem} {path : String} {bytes : Bytes} (found : fs.read path = .ok bytes) :
    (∀ limit : Int, fs.readText path limit =
      if 0 < limit ∧ limit < bytes.length then .error (.tooLarge path bytes.length limit)
      else .ok (textOf bytes)) ∧
    '\r' ∉ (textOf bytes).toList ∧
    ∀ content : String, bytes = encode content →
      (textOf bytes).toList = replaceAll ['\r'] ['\n'] (replaceAll ['\r', '\n'] ['\n'] content.toList) := by
  obtain ⟨location, isFile⟩ := FileSystem.read_eq_ok_iff.mp found
  rw [textOf, String.toList_ofList]
  refine ⟨FileSystem.readText_of_file isFile, Utf8.return_not_mem_unifyLines _, ?_⟩
  rintro content rfl
  rw [Utf8.decodeAll_encode, Utf8.unifyLines_eq_replaceAll]

/-- A file with lines that end in three ways. -/
def mixedLines : FileSystem where
  nodes := [(["a.js"], .file (encode "é\r\r\nb\nc\r"))]

theorem read_mixedLines : mixedLines.read "a.js" = .ok (encode "é\r\r\nb\nc\r") := by
  have status : mixedLines.status "a.js" = .ok (["a.js"], .file (encode "é\r\r\nb\nc\r")) :=
    FileSystem.status_of_entry (.inl (by rfl)) (by decide) (by decide) (by decide) rfl nofun
  rw [FileSystem.read, status]

theorem readText_of_read_mixedLines :
    mixedLines.read "a.js" = .ok (encode "é\r\r\nb\nc\r") ∧
      mixedLines.readText "a.js" 8 = .error (.tooLarge "a.js" 9 8) ∧
      mixedLines.readText "a.js" 9 = .ok "é\n\nb\nc\n" := by
  obtain ⟨reads, -, isText⟩ := readText_of_read read_mixedLines
  have text : textOf (encode "é\r\r\nb\nc\r") = "é\n\nb\nc\n" := by
    rw [← String.toList_inj, isText _ rfl]
    simp [replaceAll]
  refine ⟨read_mixedLines, ?_, ?_⟩
  · rw [reads, if_pos (by decide)]
    rfl
  · rw [reads, if_neg (by decide), text]

end SketchSurvey.Files
