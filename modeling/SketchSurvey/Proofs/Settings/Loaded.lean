import SketchSurvey.Proofs.Files.TextFile
import SketchSurvey.Proofs.Json.Completeness
import SketchSurvey.Proofs.Json.LineEnds
import SketchSurvey.Proofs.Settings.Written

/-! What is loaded: from a file that holds an object, its members over the standard ones; and from whatever
else stands at a path, or does not, the standard configuration. -/

set_option autoImplicit false

namespace SketchSurvey.Settings

open SketchSurvey.Files SketchSurvey.Json

/-- A file of text in which an object stands, and nothing else. -/
def HoldsObject (fs : FileSystem) (path : String) (ms : Members) : Prop :=
  ∃ text : String, fs.read path = .ok (Text.Utf8.encode text) ∧ IsObject text.toList ms

/-- The members of an object over the standard ones: each key has its last value. The version is the current
one, whatever the object says. -/
structure IsMerged (ms g : Members) : Prop where
  keys : (g.map (·.1)).Nodup
  version : g.lookup (pointsOf "version") = some (.string (pointsOf currentVersion))
  named : ∀ {key v}, key ≠ pointsOf "version" → LastValue ms key v → g.lookup key = some v
  other : ∀ {key}, key ≠ pointsOf "version" → (∀ m ∈ ms, m.1 ≠ key) →
    g.lookup key = standardMembers.lookup key

section Merging

variable {g ms : Members} {key : Points} {v : Document}

/-- An object as it is read, over the standard configuration, is merged with it. -/
theorem isMerged_of_object (ms : Members) :
    IsMerged ms (put (putAll standardMembers (putAll [] ms)) (pointsOf "version")
      (.string (pointsOf currentVersion))) := by
  have keys : ((putAll [] ms).map (·.1)).Nodup := @nodup_putAll _ _ [] _ _ List.nodup_nil ms
  have standard : (standardMembers.map (·.1)).Nodup := by decide
  constructor
  · exact nodup_put (nodup_putAll standard _) _ _
  · rw [lookup_put, if_pos rfl]
  · intro key v notVersion last
    rw [lookup_put, if_neg notVersion]
    exact lookup_putAll_of_last (lastValue_of_lookup keys (lookup_putAll_of_last last))
  · intro key notVersion other
    rw [lookup_put, if_neg notVersion]
    have missing : (putAll [] ms).lookup key = none := @lookup_putAll_of_ne _ _ [] ms key _ _ other
    exact lookup_putAll_of_ne (forall_ne_of_lookup missing)

/-- What a merged configuration has under a key was said, or is standard. -/
theorem IsMerged.lastValue_or_standard (merged : IsMerged ms g) (found : g.lookup key = some v) :
    LastValue ms key v ∨ standardMembers.lookup key = some v := by
  by_cases isVersion : key = pointsOf "version"
  · subst isVersion
    exact .inr (merged.version.symm.trans found)
  · rcases exists_lastValue_or_forall_ne ms key with ⟨last, isLast⟩ | others
    · obtain rfl := Option.some.inj ((merged.named isVersion isLast).symm.trans found)
      exact .inl isLast
    · exact .inr ((merged.other isVersion others).symm.trans found)

end Merging

section Files

variable {fs : FileSystem} {path : String}

theorem pathExists_of_read {bytes : Text.Utf8.Bytes} (read : fs.read path = .ok bytes) :
    fs.pathExists path = true := by
  unfold FileSystem.read at read
  unfold FileSystem.pathExists
  split at read
  · next found => rw [found]
  · next found _ => cases read
  · cases read

/-- A value is read from the files of text that are documents of it. -/
theorem readDocument_eq_ok_iff_isDocument {v : Document} : readDocument fs path = .ok v ↔
    ∃ text : String, fs.read path = .ok (Text.Utf8.encode text) ∧ IsDocument text.toList v := by
  rw [readDocument_eq_ok_iff]
  constructor
  · rintro ⟨bytes, chars, read, decoded, parsed⟩
    rw [parseDocument_eq_ok_iff, String.toList_ofList, isDocument_unifyLines_iff] at parsed
    refine ⟨String.ofList chars, ?_, by rwa [String.toList_ofList]⟩
    rw [read, Text.Utf8.decode_eq_ok_iff.mp decoded]
  · rintro ⟨text, read, document⟩
    refine ⟨_, text.toList, read, Text.Utf8.decode_encode text, ?_⟩
    rwa [parseDocument_eq_ok_iff, String.toList_ofList, isDocument_unifyLines_iff]

/-- An object is read exactly from a file that holds one. -/
theorem exists_holdsObject_iff {given : Members} : readDocument fs path = .ok (.object given) ↔
    ∃ ms, HoldsObject fs path ms ∧ putAll [] ms = given := by
  rw [readDocument_eq_ok_iff_isDocument]
  constructor
  · rintro ⟨text, read, document⟩
    obtain ⟨ms, isObject, same⟩ := isDocument_object_iff.mp document
    exact ⟨ms, ⟨text, read, isObject⟩, Document.object.inj same⟩
  · rintro ⟨ms, ⟨text, read, isObject⟩, rfl⟩
    exact ⟨text, read, isDocument_object_iff.mpr ⟨ms, isObject, rfl⟩⟩

theorem loadDocument_of_holdsObject {ms : Members} (holds : HoldsObject fs path ms) : loadDocument fs path = {
    given := put (putAll standardMembers (putAll [] ms)) (pointsOf "version")
      (.string (pointsOf currentVersion))
    log := [] } := by
  have read := exists_holdsObject_iff.mpr ⟨ms, holds, rfl⟩
  obtain ⟨text, isText, -⟩ := holds
  exact loadDocument_of_read (pathExists_of_read isText) read

theorem loadDocument_of_not_holdsObject (nothing : ∀ ms, ¬ HoldsObject fs path ms) :
    (loadDocument fs path).given = standardMembers := by
  unfold loadDocument
  split
  · rfl
  · split
    · rfl
    · next given read =>
        obtain ⟨ms, holds, -⟩ := exists_holdsObject_iff.mp read
        exact absurd holds (nothing ms)
    · rfl

theorem load_of_not_holdsObject (nothing : ∀ ms, ¬ HoldsObject fs path ms) :
    (load fs path).given = Config.standard.members := by
  rw [load, loadDocument_of_not_holdsObject nothing]
  exact givenOf_membersOf _

end Files

section Example

/-- The one file that there is. -/
def oneFile (text : String) : FileSystem := { nodes := [(["o.json"], .file (Text.Utf8.encode text))] }

theorem read_oneFile (text : String) : (oneFile text).read "/o.json" = .ok (Text.Utf8.encode text) := by
  have status : (oneFile text).status "/o.json" = .ok (["o.json"], .file (Text.Utf8.encode text)) :=
    FileSystem.status_of_entry (.inl (by rfl)) (by decide) (by decide) (by decide) rfl nofun
  rw [FileSystem.read, status]

end Example

end SketchSurvey.Settings
