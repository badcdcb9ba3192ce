import PodAdmission.Proofs.Pod.Conforming

/-!
# What a change leaves alone

A pod that is annotated and has one field of its specification changed is otherwise the same, field
by field. `Frame` says so, and two pods that belong to their shape and are in this way the same as a
third are equal if the annotation and the field are.
-/

namespace PodAdmission.Pod

open Shape

variable {p q q' : Pod} {key value field : String} {f : Record → Record}

/-- The pods have the same fields, annotations and fields of the specification, but for the
annotation under the key and the field of the specification. -/
structure Frame (key field : String) (p q : Pod) : Prop where
  fields : ∀ k, k ≠ "metadata" → k ≠ "spec" → Entries.get? k q.fields = Entries.get? k p.fields
  metadata : ∀ k, k ≠ "annotations" → Entries.get? k q.metadata = Entries.get? k p.metadata
  annotations : ∀ k, k ≠ key → Entries.get? k q.annotations = Entries.get? k p.annotations
  spec : Option.Rel (fun s t => ∀ k, k ≠ field → Entries.get? k t = Entries.get? k s)
    p.spec? q.spec?

lemma Frame.refl (key field : String) (p : Pod) : Frame key field p p := by
  refine ⟨fun k _ _ => rfl, fun k _ => rfl, fun k _ => rfl, ?_⟩
  cases p.spec? with
  | none => exact .none
  | some s => exact .some fun k _ => rfl

/-- An annotation and a change of one field of the specification. -/
lemma frame_annotate_modifySpec (hf : ∀ k, k ≠ field → Keeps f k) (key value : String) (p : Pod) :
    Frame key field p ((p.modifySpec f).annotate key value) := by
  constructor
  · intro k hmetadata hspec
    rw [annotate, Entries.get?_insert_of_ne hmetadata, modifySpec, Entries.get?_modify,
      if_neg hspec]
  · intro k hk
    rw [metadata_annotate, Entries.get?_insert_of_ne hk, metadata_modifySpec]
  · intro k hk
    rw [annotations_annotate, Entries.get?_insert_of_ne hk, Pod.annotations, metadata_modifySpec,
      Pod.annotations]
  · rw [spec?_annotate, spec?_modifySpec]
    cases p.spec? with
    | none => exact .none
    | some s => exact .some fun k hk => hf k hk s

lemma Frame.spec_cases (h : Frame key field p q) : (p.spec? = none ∧ q.spec? = none) ∨
    ∃ s t, p.spec? = some s ∧ q.spec? = some t ∧
      ∀ k, k ≠ field → Entries.get? k t = Entries.get? k s := by
  obtain ⟨-, -, -, hspec⟩ := h
  cases hp : p.spec? with
  | none =>
    rw [hp] at hspec
    generalize q.spec? = o at hspec
    cases hspec
    exact .inl ⟨rfl, rfl⟩
  | some s =>
    rw [hp] at hspec
    generalize q.spec? = o at hspec
    cases hspec with
    | some hst => exact .inr ⟨s, _, rfl, rfl, hst⟩

/-- Containers in other fields than the one that is changed stay as they are. -/
lemma Frame.containersIn_eq (h : Frame key field p q) {list : String} (hlist : list ≠ field) :
    q.containersIn list = p.containersIn list := by
  rw [containersIn, containersIn]
  rcases h.spec_cases with ⟨hp, hq⟩ | ⟨s, t, hp, hq, hst⟩
  · rw [hp, hq]
  · rw [hp, hq, Option.bind_some, Option.bind_some, Record.list?, hst list hlist]
    rfl

/-! ### Equal pods -/

/-- If there is an annotation, there are annotations. -/
lemma get?_annotations {k : String} {d : Datum} (h : Entries.get? k q.annotations = some d) :
    Entries.get? "annotations" q.metadata = some (.record q.annotations) := by
  rw [annotations] at h ⊢
  cases hget : Record.record? "annotations" q.metadata with
  | none =>
    rw [hget] at h
    cases h
  | some r =>
    rw [Record.record?_eq_some_iff.1 hget]
    rfl

lemma Frame.metadata_ext (hq : q.Conforms) (hq' : q'.Conforms) (h : Frame key field p q)
    (h' : Frame key field p q') {d : Datum} (hkey : Entries.get? key q.annotations = some d)
    (hkey' : Entries.get? key q'.annotations = some d) : q.metadata = q'.metadata := by
  have hannotations : q.annotations = q'.annotations := by
    refine Entries.ext hq.ordered.annotations hq'.ordered.annotations fun k => ?_
    by_cases hk : k = key
    · rw [hk, hkey, hkey']
    · rw [h.annotations k hk, h'.annotations k hk]
  refine Entries.ext hq.ordered.metadata hq'.ordered.metadata fun k => ?_
  by_cases hk : k = "annotations"
  · rw [hk, get?_annotations hkey, get?_annotations hkey', hannotations]
  · rw [h.metadata k hk, h'.metadata k hk]

lemma Frame.spec_ext (hq : q.Conforms) (hq' : q'.Conforms) (h : Frame key field p q)
    (h' : Frame key field p q') (hfield : ∀ s s', q.spec? = some s → q'.spec? = some s' →
      Entries.get? field s = Entries.get? field s') :
    Entries.get? "spec" q.fields = Entries.get? "spec" q'.fields := by
  rcases h.spec_cases with ⟨hp, hs⟩ | ⟨r, s, hp, hs, hrs⟩
  · rcases h'.spec_cases with ⟨-, hs'⟩ | ⟨r, s', hp', -, -⟩
    · rw [hq.spec_eq_none hs, hq'.spec_eq_none hs']
    · cases hp.symm.trans hp'
  · rcases h'.spec_cases with ⟨hp', -⟩ | ⟨r', s', hp', hs', hrs'⟩
    · cases hp.symm.trans hp'
    · obtain rfl := Option.some.inj (hp.symm.trans hp')
      have heq : s = s' := by
        refine Entries.ext (hq.spec hs).2.1 (hq'.spec hs').2.1 fun k => ?_
        by_cases hk : k = field
        · rw [hk, hfield s s' hs hs']
        · rw [hrs k hk, hrs' k hk]
      rw [(hq.spec hs).1, (hq'.spec hs').1, heq]

/-- Two pods that are like a third but for an annotation and a field of the specification are equal
if they have both in common. -/
theorem Frame.ext (hq : q.Conforms) (hq' : q'.Conforms) (h : Frame key field p q)
    (h' : Frame key field p q') {d : Datum} (hkey : Entries.get? key q.annotations = some d)
    (hkey' : Entries.get? key q'.annotations = some d)
    (hfield : ∀ s s', q.spec? = some s → q'.spec? = some s' →
      Entries.get? field s = Entries.get? field s') : q = q' := by
  have hfields : q.fields = q'.fields := by
    refine Entries.ext hq.1 hq'.1 fun k => ?_
    by_cases hmeta : k = "metadata"
    · rw [hmeta, hq.metadata.1, hq'.metadata.1, Frame.metadata_ext hq hq' h h' hkey hkey']
    · by_cases hspec : k = "spec"
      · rw [hspec, Frame.spec_ext hq hq' h h' hfield]
      · rw [h.fields k hmeta hspec, h'.fields k hmeta hspec]
  exact congrArg Pod.mk hfields

end PodAdmission.Pod
