import PodAdmission.Proofs.Pod.Change

/-!
# Annotations

Setting an annotation is a change of the metadata. If there are no annotations yet, they are added
as a whole, and else the one entry is set.
-/

namespace PodAdmission

open Json Reader Shape

namespace Pod

variable {p : Pod} {m r : Record} {d : Datum} {key value : String}

/-- The annotations in the metadata. -/
def annotationsIn (m : Record) : Record :=
  (Record.record? "annotations" m).getD []

/-- The metadata with an annotation. -/
def annotated (key value : String) (m : Record) : Record :=
  Entries.insert "annotations" (.record (Entries.insert key (.text value) (annotationsIn m))) m

/-- The patch of metadata that sets an annotation. -/
def annotationPatch (key value : String) (m : Record) : Patch :=
  match Entries.get? "annotations" m with
  | some _ =>
    (setPatch key (Entries.get? key (annotationsIn m)) (.text value)).under ["annotations"]
  | none => [.add ["annotations"] (Datum.record [(key, .text value)]).toJson]

/-- The places of metadata that are touched when an annotation is set. -/
def AnnotationTouched (key : String) (m : Record) (path : Pointer) : Prop :=
  match Entries.get? "annotations" m with
  | some _ => path = ["annotations", key]
  | none => path = ["annotations"]

lemma annotate_eq (hm : Entries.get? "metadata" p.fields = some (.record m)) (key value : String) :
    p.annotate key value =
      ⟨Entries.insert "metadata" (.record (annotated key value m)) p.fields⟩ := by
  rw [annotate, annotations, metadata_eq hm]
  rfl

lemma stable_entry (hkey : key ≠ embeddingKey) (depth : Nat) (value : String) :
    Stable (.dict .text) (depth + 1) (.record [(key, .text value)]) := by
  refine ⟨.entry hkey value, ?_, rfl⟩
  have hfirst : Unreserved [(key, Json.text value)] := by
    intro e he
    obtain rfl := Option.some.inj he
    exact hkey
  refine (back?_object depth hfirst).trans ?_
  simp [backMembers?, addMember?, Entries.insert]
  rfl

lemma annotationsIn_of_none (hget : Entries.get? "annotations" m = none) :
    annotationsIn m = [] := by
  rw [annotationsIn, Record.record?, hget]
  rfl

lemma annotationsIn_of_some (hget : Entries.get? "annotations" m = some (.record r)) :
    annotationsIn m = r := by
  rw [annotationsIn, Record.record?, hget]
  rfl

/-- Annotations are a string map. -/
lemma dict_of_annotations (hholds : Holds objectMeta (.record m))
    (hget : Entries.get? "annotations" m = some d) :
    ∃ r, d = .record r ∧ Holds (.dict .text) (.record r) := by
  have hdict : Holds (.dict .text) d := hholds.field rfl hget
  obtain ⟨r, rfl⟩ := hdict.dict
  exact ⟨r, rfl, hdict⟩

/-- The first annotation is a change of the field. -/
lemma fieldChange_of_none (hkey : embeddingKey < key)
    (hget : Entries.get? "annotations" m = none) (value : String) :
    FieldChange (.dict .text) 125 "annotations" (annotationPatch key value m)
      (AnnotationTouched key m) none
      (.record (Entries.insert key (.text value) (annotationsIn m))) := by
  have hne : key ≠ embeddingKey := fun heq => String.lt_irrefl key (heq ▸ hkey)
  have hpatch : annotationPatch key value m =
      [.add ["annotations"] (Datum.record [(key, .text value)]).toJson] := by
    rw [annotationPatch, hget]
  have htouched : AnnotationTouched key m = (· = ["annotations"]) := by
    funext path
    rw [AnnotationTouched, hget]
  rw [hpatch, htouched, annotationsIn_of_none hget]
  exact .of_new "annotations" (stable_entry hne 124 value)

/-- An annotation beside others is a change of the field. -/
lemma fieldChange_of_some (hdict : Holds (.dict .text) (.record r)) (hkey : embeddingKey < key)
    (hget : Entries.get? "annotations" m = some (.record r)) (value : String) :
    FieldChange (.dict .text) 125 "annotations" (annotationPatch key value m)
      (AnnotationTouched key m) (some (.record r))
      (.record (Entries.insert key (.text value) (annotationsIn m))) := by
  have hpatch : annotationPatch key value m =
      (setPatch key (Entries.get? key r) (.text value)).under ["annotations"] := by
    rw [annotationPatch, hget, annotationsIn_of_some hget]
  have hentry : FieldChange .text 124 key (setPatch key (Entries.get? key r) (.text value))
      (· = [key]) (Entries.get? key r) (.text value) :=
    .set key (rigid_text 124 value).toStable fun d hd => by
      obtain ⟨t, rfl⟩ := (hdict.entry hd).text
      exact Change.text 124 t value
  rw [hpatch, annotationsIn_of_some hget]
  refine (FieldChange.of_change "annotations" (Change.dict hdict hkey hentry)).mono ?_
  rintro path ⟨rest, rfl, rfl⟩
  rw [AnnotationTouched, hget]

/-- Setting an annotation is a change of the metadata. -/
lemma change_annotated (hholds : Holds objectMeta (.record m)) (hkey : embeddingKey < key)
    (value : String) :
    objectMeta.Change 126 (annotationPatch key value m) (AnnotationTouched key m) (.record m)
      (.record (annotated key value m)) := by
  have hfield : FieldChange (.dict .text) 125 "annotations" (annotationPatch key value m)
      (AnnotationTouched key m) (Entries.get? "annotations" m)
      (.record (Entries.insert key (.text value) (annotationsIn m))) := by
    cases hget : Entries.get? "annotations" m with
    | none => exact fieldChange_of_none hkey hget value
    | some d =>
      obtain ⟨r, rfl, hdict⟩ := dict_of_annotations hholds hget
      exact fieldChange_of_some hdict hkey hget value
  exact Change.record hholds rfl hfield rfl rfl fun d _ => by
    rw [show Entries.get? "annotations" (defaults _) = none from rfl]
    simp

/-- Nothing has to be done to set an annotation that is set already. -/
lemma annotationPatch_eq_nil_iff (hholds : Holds objectMeta (.record m)) :
    annotationPatch key value m = [] ↔
      Entries.get? key (annotationsIn m) = some (.text value) := by
  rw [annotationPatch]
  cases hget : Entries.get? "annotations" m with
  | none =>
    rw [annotationsIn_of_none hget]
    simp
  | some d =>
    obtain ⟨r, rfl, hdict⟩ := dict_of_annotations hholds hget
    have hwf : (Datum.text value).toJson.WellFormed := .text value
    simp only [annotationsIn_of_some hget, Patch.under_eq_nil_iff]
    rw [setPatch_eq_nil_iff (fun d hd => (hdict.entry hd).2) hwf]
    constructor
    · rintro ⟨d, hd, hsame⟩
      obtain ⟨t, rfl⟩ := (hdict.entry hd).text
      rw [hd, same_text_iff.1 hsame]
    · intro h
      exact ⟨_, h, Json.same_self _⟩

/-- There is no place for the first annotation without metadata. -/
lemma needsMetadata_annotationPatch (key value : String) (hm : m = []) :
    NeedsMetadata (annotationPatch key value m) := by
  subst hm
  exact ⟨_, [], rfl, rfl⟩

end Pod

end PodAdmission
