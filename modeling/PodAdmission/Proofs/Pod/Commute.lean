import PodAdmission.Proofs.Pod.Document

/-!
# Changes of a pod in either order

A change of the specification and an annotation do not disturb each other, two changes of the
specification are one, and annotations under different keys may be set in any order: the fields of
a pod, its metadata and its annotations are kept in order of their names.
-/

namespace PodAdmission

variable {p : Pod}

lemma Datum.mapRecord_comp (f g : Record → Record) :
    Datum.mapRecord f ∘ Datum.mapRecord g = Datum.mapRecord (f ∘ g) := by
  funext d
  cases d <;> rfl

namespace Pod

lemma modifySpec_modifySpec (f g : Record → Record) (p : Pod) :
    (p.modifySpec g).modifySpec f = p.modifySpec (f ∘ g) := by
  rw [modifySpec, modifySpec, Entries.modify_modify, Datum.mapRecord_comp, modifySpec]

lemma metadata_modifySpec (f : Record → Record) (p : Pod) :
    (p.modifySpec f).metadata = p.metadata := by
  rw [metadata, Record.record?, modifySpec, Entries.get?_modify, if_neg (by decide)]
  rfl

/-- An annotation is no part of the specification. -/
lemma modifySpec_annotate (f : Record → Record) (key value : String) (p : Pod) :
    (p.annotate key value).modifySpec f = (p.modifySpec f).annotate key value := by
  rw [annotate, annotate, annotations, annotations, metadata_modifySpec, modifySpec,
    Entries.modify_insert (by decide)]
  rfl

/-- The fields, the metadata and the annotations of a pod are in order. -/
structure Ordered (p : Pod) : Prop where
  fields : Entries.Ascending p.fields
  metadata : Entries.Ascending p.metadata
  annotations : Entries.Ascending p.annotations

lemma Ordered.modifySpec (h : p.Ordered) (f : Record → Record) : (p.modifySpec f).Ordered := by
  refine ⟨Entries.ascending_modify _ _ h.fields, ?_, ?_⟩
  · rw [metadata_modifySpec]
    exact h.metadata
  · rw [Pod.annotations, metadata_modifySpec]
    exact h.annotations

/-- The pod with other annotations. -/
def withAnnotations (annotations : Record) (p : Pod) : Pod :=
  ⟨Entries.insert "metadata"
    (.record (Entries.insert "annotations" (.record annotations) p.metadata)) p.fields⟩

lemma annotate_eq_withAnnotations (key value : String) (p : Pod) :
    p.annotate key value = p.withAnnotations (Entries.insert key (.text value) p.annotations) := rfl

@[simp] lemma metadata_withAnnotations (r : Record) (p : Pod) :
    (p.withAnnotations r).metadata = Entries.insert "annotations" (.record r) p.metadata := by
  rw [metadata, Record.record?, withAnnotations, Entries.get?_insert_self]
  rfl

@[simp] lemma annotations_withAnnotations (r : Record) (p : Pod) :
    (p.withAnnotations r).annotations = r := by
  rw [annotations, metadata_withAnnotations, Record.record?, Entries.get?_insert_self]
  rfl

@[simp] lemma withAnnotations_withAnnotations (r s : Record) (p : Pod) :
    (p.withAnnotations r).withAnnotations s = p.withAnnotations s := by
  rw [withAnnotations, metadata_withAnnotations, Entries.insert_insert, withAnnotations,
    Entries.insert_insert, withAnnotations]

lemma metadata_annotate (p : Pod) (key value : String) :
    (p.annotate key value).metadata =
      Entries.insert "annotations" (.record (Entries.insert key (.text value) p.annotations))
        p.metadata :=
  metadata_withAnnotations _ p

lemma annotations_annotate (p : Pod) (key value : String) :
    (p.annotate key value).annotations = Entries.insert key (.text value) p.annotations :=
  annotations_withAnnotations _ p

lemma annotate_twice (p : Pod) (key value key' value' : String) :
    (p.annotate key' value').annotate key value = p.withAnnotations
      (Entries.insert key (.text value) (Entries.insert key' (.text value') p.annotations)) := by
  rw [annotate_eq_withAnnotations, annotations_annotate, annotate_eq_withAnnotations,
    withAnnotations_withAnnotations]

/-- Annotations under different keys may be set in any order. -/
lemma annotate_comm (hp : p.Ordered) {key key' : String} (h : key ≠ key') (value value' : String) :
    (p.annotate key' value').annotate key value = (p.annotate key value).annotate key' value' := by
  rw [annotate_twice, annotate_twice, Entries.insert_comm h _ _ hp.annotations]

/-- Of two annotations under one key the later one stays. -/
lemma annotate_annotate (p : Pod) (key value value' : String) :
    (p.annotate key value').annotate key value = p.annotate key value := by
  rw [annotate_twice, Entries.insert_insert, annotate_eq_withAnnotations]

end Pod

end PodAdmission
