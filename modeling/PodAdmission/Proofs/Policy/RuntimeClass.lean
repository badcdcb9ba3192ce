import PodAdmission.Policy.RuntimeClass
import PodAdmission.Proofs.Pod.Annotation

/-!
# The runtime class of a pod

What the policy does to a pod is a change of its metadata and, if the pod has a specification
without a runtime class, of its specification. There is nothing to do just if the pod has the
annotation and no such specification (`Marked`).
-/

namespace PodAdmission.RuntimeClass

open Json Shape Pod

variable {p : Pod} {spec : Record}

/-! ### Specifications -/

/-- The specification with a runtime class. -/
def assigned (name : String) (spec : Record) : Record :=
  match Entries.get? "runtimeClassName" spec with
  | some _ => spec
  | none => Entries.insert "runtimeClassName" (.text name) spec

/-- The patch of a specification that assigns a runtime class. -/
def specPatch (name : String) (spec : Record) : Patch :=
  match Entries.get? "runtimeClassName" spec with
  | some _ => []
  | none => [.add ["runtimeClassName"] (.text name)]

/-- The places of a specification that are touched. -/
def SpecTouched (spec : Record) (path : Pointer) : Prop :=
  Entries.get? "runtimeClassName" spec = none ∧ path = ["runtimeClassName"]

lemma change_spec (h : Holds podSpec (.record spec)) (name : String) :
    podSpec.Change 126 (specPatch name spec) (SpecTouched spec) (.record spec)
      (.record (assigned name spec)) := by
  cases hget : Entries.get? "runtimeClassName" spec with
  | some d =>
    have hpatch : specPatch name spec = [] := by rw [specPatch, hget]
    have hassigned : assigned name spec = spec := by rw [assigned, hget]
    rw [hpatch, hassigned]
    exact .refl podSpec 126 _ h.2
  | none =>
    have hpatch : specPatch name spec = [.add ["runtimeClassName"] (.text name)] := by
      rw [specPatch, hget]
    have hassigned : assigned name spec =
        Entries.insert "runtimeClassName" (.text name) spec := by
      rw [assigned, hget]
    have hfield : FieldChange .text 125 "runtimeClassName" (specPatch name spec)
        (SpecTouched spec) (Entries.get? "runtimeClassName" spec) (.text name) := by
      rw [hpatch, hget]
      refine (FieldChange.of_new "runtimeClassName" (rigid_text 125 name).toStable).mono ?_
      exact fun path hpath => ⟨hget, hpath⟩
    rw [hassigned]
    exact Change.record h rfl hfield rfl rfl fun d hd => by
      rw [hget] at hd
      cases hd

/-! ### Pods -/

/-- The patch of a pod. -/
def patch (name : String) (p : Pod) : Patch :=
  (annotationPatch annotationKey annotationValue p.metadata).under ["metadata"] ++
    match p.spec? with
    | some spec => (specPatch name spec).under ["spec"]
    | none => []

/-- The pod has the annotation, and no specification without a runtime class. -/
structure Marked (p : Pod) : Prop where
  note : Entries.get? annotationKey p.annotations = some (.text annotationValue)
  runtimeClass : ∀ s, p.spec? = some s → (Entries.get? "runtimeClassName" s).isSome = true

lemma specPatch_eq_nil_iff {name : String} :
    specPatch name spec = [] ↔ (Entries.get? "runtimeClassName" spec).isSome = true := by
  rw [specPatch]
  cases Entries.get? "runtimeClassName" spec <;> simp

/-- Nothing has to be done to a pod just if it has all that the policy sets. -/
lemma patch_eq_nil_iff (hp : p.Sound) {name : String} : patch name p = [] ↔ Marked p := by
  obtain ⟨m, hm, hholds⟩ := hp.metadata
  have hannotations : annotationsIn m = p.annotations := by
    rw [Pod.annotations, metadata_eq hm, annotationsIn]
  rw [patch, List.append_eq_nil_iff, Patch.under_eq_nil_iff, metadata_eq hm,
    annotationPatch_eq_nil_iff hholds, hannotations]
  constructor
  · rintro ⟨hnote, hspec⟩
    refine ⟨hnote, fun s hs => ?_⟩
    rw [hs] at hspec
    exact specPatch_eq_nil_iff.1 (Patch.under_eq_nil_iff.1 hspec)
  · intro h
    refine ⟨h.note, ?_⟩
    cases hs : p.spec? with
    | none => rfl
    | some s => exact Patch.under_eq_nil_iff.2 (specPatch_eq_nil_iff.2 (h.runtimeClass s hs))

/-- The places of a pod that are touched. -/
def Touched (p : Pod) (path : Pointer) : Prop :=
  Below "metadata" (AnnotationTouched annotationKey p.metadata) path ∨
    ∃ spec, p.spec? = some spec ∧ Below "spec" (SpecTouched spec) path

section

variable {m : Record} (hm : Entries.get? "metadata" p.fields = some (.record m)) (name : String)
include hm

lemma fields_mutate : mutate name p = ⟨Entries.modify "spec" (Datum.mapRecord (assigned name))
    (Entries.insert "metadata" (.record (annotated annotationKey annotationValue m))
      p.fields)⟩ := by
  rw [mutate, annotate_eq hm]
  rfl

/-- A pod without a specification gets the annotation only. -/
lemma mutate_of_none (hspec : Entries.get? "spec" p.fields = none) :
    mutate name p = ⟨Entries.insert "metadata"
      (.record (annotated annotationKey annotationValue m)) p.fields⟩ := by
  rw [fields_mutate hm, Entries.modify_of_get?_eq_none]
  rw [Entries.get?_insert_of_ne (by decide), hspec]

lemma mutate_of_some (ha : Entries.Ascending p.fields)
    (hspec : Entries.get? "spec" p.fields = some (.record spec)) :
    mutate name p = ⟨Entries.insert "spec" (.record (assigned name spec)) (Entries.insert "metadata"
      (.record (annotated annotationKey annotationValue m)) p.fields)⟩ := by
  have hother : Entries.get? "spec" (Entries.insert "metadata"
      (.record (annotated annotationKey annotationValue m)) p.fields) = some (.record spec) := by
    rw [Entries.get?_insert_of_ne (by decide), hspec]
  rw [fields_mutate hm, Entries.modify_eq_insert _ (Entries.ascending_insert _ _ ha) hother]
  rfl

end

/-- What the policy does to a pod is a change. -/
theorem change_mutate (hp : p.Sound) (name : String) :
    Change p (mutate name p) (patch name p) (Touched p) := by
  obtain ⟨m, hm, hholds⟩ := hp.metadata
  have hmetadata := metadata_eq hm
  have hchange := change_annotated hholds (by decide : embeddingKey < annotationKey) annotationValue
  have hneeds := needsMetadata_annotationPatch (m := m) annotationKey annotationValue
  cases hspec : Entries.get? "spec" p.fields with
  | none =>
    have hnone : p.spec? = none := by rw [spec?, Record.record?, hspec]; rfl
    rw [mutate_of_none hm name hspec, patch, hnone, hmetadata, List.append_nil]
    refine (change_metadata hp hm hchange hneeds).mono fun path hpath => .inl ?_
    rw [hmetadata]
    exact hpath
  | some d =>
    obtain ⟨spec, rfl, hspecHolds⟩ := hp.spec hspec
    have hsome := spec?_eq hspec
    rw [mutate_of_some hm name hp.ascending hspec, patch, hsome, hmetadata]
    refine (change_metadata_spec hp hm hspec hchange (change_spec hspecHolds name) hneeds).mono ?_
    rintro path (hpath | hpath)
    · left
      rw [hmetadata]
      exact hpath
    · exact .inr ⟨spec, hsome, hpath⟩

end PodAdmission.RuntimeClass
