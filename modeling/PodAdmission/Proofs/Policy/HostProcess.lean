import PodAdmission.Policy.HostProcess
import PodAdmission.Proofs.Pod.Annotation

/-!
# Host-process pods

What the policy does to a pod is a change of its metadata and of the arguments and the command of
every container that runs the program. A container that has been wrapped does not run the program
any more.
-/

namespace PodAdmission.HostProcess

open Json Shape Pod

variable {p : Pod} {c spec : Record}

/-! ### Containers -/

/-- The patch of a container that wraps its command. -/
def wrapPatch (c : Container) : Patch :=
  setPatch "args" (Entries.get? "args" c.fields) (texts (wrap c.command? c.args?).2) ++
    setPatch "command" (Entries.get? "command" c.fields) (texts (wrap c.command? c.args?).1)

/-- A list of texts that is set is a change of the field. -/
lemma fieldChange_texts (field : String) {o : Option Datum}
    (h : ∀ d, o = some d → Holds (.list .text) d) (ts : List String) :
    FieldChange (.list .text) 123 field (setPatch field o (texts ts)) (· = [field]) o
      (texts ts) :=
  .set field (rigid_texts 122 ts).toStable fun d hd => by
    obtain ⟨us, rfl⟩ := (h d hd).texts
    exact Change.texts 122 us ts

lemma change_wrapContainer (h : Holds container (.record c)) :
    container.Change 124 (wrapPatch ⟨c⟩) (fun path => path = ["args"] ∨ path = ["command"])
      (.record c) (.record (wrapContainer ⟨c⟩).fields) := by
  have hargs (d : Datum) (hd : Entries.get? "args" c = some d) : Holds (.list .text) d :=
    h.field rfl hd
  have hcommand (d : Datum) (hd : Entries.get? "command" c = some d) : Holds (.list .text) d :=
    h.field rfl hd
  have hchange := Change.record_two h rfl (by decide)
    (fieldChange_texts "args" hargs (wrap (Container.command? ⟨c⟩) (Container.args? ⟨c⟩)).2)
    rfl rfl (fun d _ heq => by cases heq)
    (fieldChange_texts "command" hcommand (wrap (Container.command? ⟨c⟩) (Container.args? ⟨c⟩)).1)
    rfl rfl (fun d _ heq => by cases heq)
  rw [Entries.insert_comm (by decide) _ _ h.ascending] at hchange
  exact hchange

/-- A container once the policy has seen it. -/
def seen (c : Container) : Container :=
  if runsProgram c then wrapContainer c else c

/-- The patch of a container. -/
def itemPatch : Datum → Patch
  | .record c => if runsProgram ⟨c⟩ then wrapPatch ⟨c⟩ else []
  | _ => []

/-- The places of a container that are touched. -/
def ItemTouched (d : Datum) (path : Pointer) : Prop :=
  ∃ c, d = .record c ∧ runsProgram ⟨c⟩ = true ∧ (path = ["args"] ∨ path = ["command"])

lemma change_container (h : Holds container (.record c)) :
    container.Change 124 (itemPatch (.record c)) (ItemTouched (.record c)) (.record c)
      (.record (seen ⟨c⟩).fields) := by
  rw [itemPatch, seen]
  split_ifs with hruns
  · exact (change_wrapContainer h).mono fun path hpath => ⟨c, rfl, hruns, hpath⟩
  · exact .refl container 124 _ h.2

/-! ### Specifications -/

/-- The specification with all containers that run the program wrapped. -/
def wrapped (spec : Record) : Record :=
  Entries.modify "containers"
    (Datum.mapItems (Datum.mapRecord fun fields => (seen ⟨fields⟩).fields)) spec

/-- The patch of the containers. -/
def containersPatch (cs : List Container) : Patch :=
  itemsPatch 0 (cs.map fun c => itemPatch (.record c.fields))

/-- The places of the containers that are touched. -/
def ContainersTouched (cs : List Container) (path : Pointer) : Prop :=
  ∃ (i : Nat) (c : Container), cs[i]? = some c ∧ runsProgram c = true ∧
    (path = [toString i, "args"] ∨ path = [toString i, "command"])

lemma change_spec (h : Holds podSpec (.record spec)) {cs : List Record}
    (hget : Entries.get? "containers" spec = some (.list (cs.map .record)))
    (hcs : ∀ c ∈ cs, Holds container (.record c)) (hne : cs ≠ []) :
    podSpec.Change 126 ((containersPatch (cs.map Container.mk)).under ["containers"])
      (Below "containers" (ContainersTouched (cs.map Container.mk))) (.record spec)
      (.record (wrapped spec)) := by
  have hitems (d : Datum) (hd : d ∈ cs.map Datum.record) : container.Change 124 (itemPatch d)
      (ItemTouched d) d (d.mapRecord fun fields => (seen ⟨fields⟩).fields) := by
    obtain ⟨c, hc, rfl⟩ := List.mem_map.1 hd
    exact change_container (hcs c hc)
  have hle (path : Pointer) (hpath : ItemsTouched ItemTouched (cs.map .record) path) :
      ContainersTouched (cs.map Container.mk) path := by
    obtain ⟨i, d, rest, hd, rfl, c, rfl, hruns, hrest⟩ := hpath
    rw [List.getElem?_map] at hd
    obtain ⟨c', hc', heq⟩ := Option.map_eq_some_iff.1 hd
    obtain rfl := Datum.record.inj heq
    refine ⟨i, ⟨c'⟩, ?_, hruns, ?_⟩
    · rw [List.getElem?_map, hc']
      rfl
    · rcases hrest with rfl | rfl
      · exact .inl rfl
      · exact .inr rfl
  have hlist := (Change.list hitems).mono hle
  have hfield := FieldChange.of_change "containers" hlist
  rw [← hget] at hfield
  rw [wrapped, Entries.modify_eq_insert _ h.ascending hget, containersPatch, List.map_map]
  rw [List.map_map] at hfield
  apply Change.record h rfl hfield rfl rfl
  intro d hd hdefault
  rw [hget] at hd
  obtain rfl := Option.some.inj hd
  -- the default is no container at all
  change some (Datum.list []) = some (Datum.list (cs.map Datum.record)) at hdefault
  exact hne (List.map_eq_nil_iff.1 (Datum.list.inj (Option.some.inj hdefault)).symm)

/-! ### Pods -/

/-- The patch of a pod. -/
def patch (p : Pod) : Patch :=
  (annotationPatch annotationKey "true" p.metadata).under ["metadata"] ++
    ((containersPatch p.containers).under ["containers"]).under ["spec"]

/-- The places of a pod that are touched. -/
def Touched (p : Pod) (path : Pointer) : Prop :=
  Below "metadata" (AnnotationTouched annotationKey p.metadata) path ∨
    Below "spec" (Below "containers" (ContainersTouched p.containers)) path

/-- A pod with a container has a specification. -/
lemma spec_of_any (hp : p.Sound) (h : p.containers.any runsProgram = true) :
    ∃ spec, Entries.get? "spec" p.fields = some (.record spec) := by
  cases hspec : Entries.get? "spec" p.fields with
  | none =>
    have hnone : p.containers = [] := by
      rw [Pod.containers, containersIn, spec?, Record.record?, hspec]
      rfl
    rw [hnone] at h
    cases h
  | some d =>
    obtain ⟨spec, rfl, -⟩ := hp.spec hspec
    exact ⟨spec, rfl⟩

lemma mutate_eq (hp : p.Sound) {m : Record}
    (hm : Entries.get? "metadata" p.fields = some (.record m))
    (hspec : Entries.get? "spec" p.fields = some (.record spec))
    (h : p.containers.any runsProgram = true) :
    mutate p = ⟨Entries.insert "spec" (.record (wrapped spec))
      (Entries.insert "metadata" (.record (annotated annotationKey "true" m)) p.fields)⟩ := by
  have hmap : p.mapContainers (fun c => if runsProgram c then wrapContainer c else c) =
      ⟨Entries.insert "spec" (.record (wrapped spec)) p.fields⟩ :=
    congrArg Pod.mk (Entries.modify_eq_insert (Datum.mapRecord wrapped) hp.ascending hspec)
  have hother : Entries.get? "metadata" (Pod.mk
      (Entries.insert "spec" (.record (wrapped spec)) p.fields)).fields = some (.record m) := by
    rw [Entries.get?_insert_of_ne (by decide), hm]
  rw [mutate, if_pos h, hmap, annotate_eq hother, Entries.insert_comm (by decide) _ _ hp.ascending]

/-- What the policy does to a pod with a container that runs the program is a change. -/
theorem change_mutate (hp : p.Sound) (h : p.containers.any runsProgram = true) :
    Change p (mutate p) (patch p) (Touched p) := by
  obtain ⟨m, hm, hholds⟩ := hp.metadata
  obtain ⟨spec, hspec⟩ := spec_of_any hp h
  obtain ⟨spec', heq, hspecHolds⟩ := hp.spec hspec
  obtain rfl := Datum.record.inj heq
  obtain ⟨cs, hget, hcontainers, hcs⟩ := hp.containers hspec
  have hmetadata := metadata_eq hm
  have hne : cs ≠ [] := by
    rintro rfl
    rw [hcontainers] at h
    cases h
  rw [mutate_eq hp hm hspec h, patch, hmetadata, hcontainers]
  refine (change_metadata_spec hp hm hspec (change_annotated hholds (by decide) "true")
    (change_spec hspecHolds hget hcs hne)
    (needsMetadata_annotationPatch (m := m) annotationKey "true")).mono fun path hpath => ?_
  rw [Touched, hmetadata, hcontainers]
  exact hpath

end PodAdmission.HostProcess
