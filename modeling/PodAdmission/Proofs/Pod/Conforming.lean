import PodAdmission.Proofs.Pod.Commute
import PodAdmission.Proofs.Pod.Views

/-!
# Pods that belong to their shape

What the fields of such a pod hold, and which changes leave it one: an annotation, and any change of
the specification that keeps that to its shape.
-/

namespace PodAdmission

open Shape

lemma Record.record?_eq_some_iff {key : String} {r m : Record} :
    Record.record? key r = some m ↔ Entries.get? key r = some (.record m) := by
  rw [Record.record?]
  cases Entries.get? key r with
  | none => simp
  | some d => cases d <;> simp [Datum.asRecord?]

lemma Record.list?_eq_some_iff {key : String} {r : Record} {items : List Datum} :
    Record.list? key r = some items ↔ Entries.get? key r = some (.list items) := by
  rw [Record.list?]
  cases Entries.get? key r with
  | none => simp
  | some d => cases d <;> simp [Datum.asList?]

namespace Pod

variable {p : Pod} {s : Record}

/-! ### Shapes of the parts -/

lemma ordered_objectMeta : ordered objectMeta = true :=
  ordered_field "metadata" ordered_pod rfl

lemma ordered_podSpec : ordered podSpec = true :=
  ordered_field "spec" ordered_pod rfl

lemma ordered_container : ordered container = true :=
  ordered_field (s := .list container) "containers" ordered_podSpec rfl

/-! ### Parts of a pod -/

lemma Conforms.metadata (h : p.Conforms) :
    Entries.get? "metadata" p.fields = some (.record p.metadata) ∧
      objectMeta.Fits (.record p.metadata) := by
  have hfield : Entries.get? "metadata" podFields = some (.required, objectMeta) := rfl
  obtain ⟨d, hd, hfits⟩ := Fits.required h hfield
  obtain ⟨m, rfl⟩ := hfits.record
  rw [metadata_eq hd]
  exact ⟨hd, hfits⟩

lemma Conforms.annotations (h : p.Conforms) : (Shape.dict .text).Fits (.record p.annotations) := by
  rw [Pod.annotations]
  cases hget : Record.record? "annotations" p.metadata with
  | none =>
    rw [Option.getD_none, Fits]
    exact ⟨List.Pairwise.nil, by simp⟩
  | some r => exact Fits.field h.metadata.2 rfl (Record.record?_eq_some_iff.1 hget)

/-- A pod that belongs to its shape is in order. -/
lemma Conforms.ordered (h : p.Conforms) : p.Ordered := by
  have hannotations := h.annotations
  rw [Fits] at hannotations
  exact ⟨h.1, h.metadata.2.1, hannotations.1⟩

lemma Conforms.spec (h : p.Conforms) (hs : p.spec? = some s) :
    Entries.get? "spec" p.fields = some (.record s) ∧ podSpec.Fits (.record s) := by
  have hget := Record.record?_eq_some_iff.1 hs
  have hfield : Entries.get? "spec" podFields = some (.optional, podSpec) := rfl
  exact ⟨hget, Fits.field h hfield hget⟩

lemma Conforms.spec_eq_none (h : p.Conforms) (hs : p.spec? = none) :
    Entries.get? "spec" p.fields = none := by
  cases hget : Entries.get? "spec" p.fields with
  | none => rfl
  | some d =>
    have hfield : Entries.get? "spec" podFields = some (.optional, podSpec) := rfl
    obtain ⟨r, rfl⟩ := (Fits.field h hfield hget).record
    rw [spec?_eq hget] at hs
    cases hs

/-- The containers of a pod are those of its specification. -/
lemma Conforms.containers (h : p.Conforms) (hs : p.spec? = some s) :
    Entries.get? "containers" s = some (.list (p.containers.map fun c => .record c.fields)) ∧
      ∀ c ∈ p.containers, container.Fits (.record c.fields) := by
  obtain ⟨d, hd, hlist⟩ : ∃ d, Entries.get? "containers" s = some d ∧
      Fits (.list container) d := Fits.required (h.spec hs).2 rfl
  obtain ⟨ds, rfl, hds⟩ := hlist.list
  obtain ⟨rs, rfl⟩ := exists_records fun d hd => (hds d hd).record
  have hcontainers : p.containers = rs.map Container.mk := by
    rw [Pod.containers, containersIn, hs, Option.bind_some, Record.list?_eq_some_iff.2 hd]
    simp only [filterMap_asRecord?]
  rw [hcontainers, List.map_map, hd]
  refine ⟨rfl, fun c hc => ?_⟩
  obtain ⟨r, hr, rfl⟩ := List.mem_map.1 hc
  exact hds _ (List.mem_map_of_mem hr)

/-- A pod with a container has a specification. -/
lemma exists_spec_of_mem {c : Container} (h : c ∈ p.containers) : ∃ s, p.spec? = some s := by
  cases hs : p.spec? with
  | some s => exact ⟨s, rfl⟩
  | none =>
    rw [Pod.containers, containersIn, hs] at h
    cases h

/-- Pods that are written alike have in every field what is written alike. -/
lemma get?_of_same_toJson {q : Pod} {key : String} {d' : Datum} (hkey : "kind" < key)
    (h : p.toJson.same q.toJson = true) (hd' : Entries.get? key q.fields = some d') :
    ∃ d, Entries.get? key p.fields = some d ∧ d.toJson.same d'.toJson = true :=
  get?_of_sameMembers h (get?_members hkey p) (get?_members hkey q) hd'

/-! ### Changes that keep a pod to its shape -/

lemma Conforms.annotate (h : p.Conforms) (key value : String) :
    (p.annotate key value).Conforms := by
  have hfield : Entries.get? "metadata" podFields = some (.required, objectMeta) := rfl
  have hentry : (Shape.dict .text).Fits
      (.record (Entries.insert key (.text value) p.annotations)) :=
    h.annotations.insert_entry key trivial
  have hmetadata : objectMeta.Fits (.record (Entries.insert "annotations"
      (.record (Entries.insert key (.text value) p.annotations)) p.metadata)) :=
    Fits.insert ordered_objectMeta h.metadata.2 "annotations" rfl hentry
  exact Fits.insert ordered_pod h _ hfield hmetadata

lemma Conforms.modifySpec (h : p.Conforms) {f : Record → Record}
    (hf : ∀ s, p.spec? = some s → podSpec.Fits (.record (f s))) : (p.modifySpec f).Conforms := by
  cases hs : p.spec? with
  | none =>
    rw [Pod.modifySpec, Entries.modify_of_get?_eq_none _ (h.spec_eq_none hs)]
    exact h
  | some s =>
    have hfield : Entries.get? "spec" podFields = some (.optional, podSpec) := rfl
    rw [Pod.modifySpec, Entries.modify_eq_insert _ h.1 (h.spec hs).1]
    exact Fits.insert ordered_pod h _ hfield (hf s hs)

end Pod

end PodAdmission
