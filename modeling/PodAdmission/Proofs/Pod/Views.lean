import PodAdmission.Proofs.Entries
import PodAdmission.Pod.Basic

/-!
# Views after a change

What the policies look at in a pod is a part of its specification. An annotation leaves the
specification alone, and a change of the specification leaves alone every view of a field that it
keeps.
-/

namespace PodAdmission.Pod

variable {p q : Pod} {f : Record → Record} {field : String}

lemma spec?_annotate (p : Pod) (key value : String) : (p.annotate key value).spec? = p.spec? := by
  rw [spec?, Record.record?, annotate, Entries.get?_insert_of_ne (by decide)]
  rfl

lemma spec?_modifySpec (p : Pod) (f : Record → Record) :
    (p.modifySpec f).spec? = p.spec?.map f := by
  rw [spec?, Record.record?, modifySpec, Entries.get?_modify, if_pos rfl, spec?, Record.record?]
  cases Entries.get? "spec" p.fields with
  | none => rfl
  | some d => cases d <;> rfl

/-- A view that does not look at what has changed. -/
lemma bind_spec?_map {α : Type} {view : Record → Option α} (h : q.spec? = p.spec?.map f)
    (hview : ∀ r, view (f r) = view r) : q.spec?.bind view = p.spec?.bind view := by
  rw [h]
  cases p.spec? with
  | none => rfl
  | some r => exact hview r

/-- The change keeps what is in a field. -/
def Keeps (f : Record → Record) (field : String) : Prop :=
  ∀ r, Entries.get? field (f r) = Entries.get? field r

variable (h : q.spec? = p.spec?.map f)

include h

lemma hostProcess?_congr (hf : Keeps f "securityContext") : q.hostProcess? = p.hostProcess? :=
  bind_spec?_map h fun r => by rw [Record.hostProcess?, Record.record?, hf r]; rfl

lemma hostNetwork_congr (hf : Keeps f "hostNetwork") : q.hostNetwork = p.hostNetwork := by
  have hview : q.spec?.bind (Record.flag? "hostNetwork") =
      p.spec?.bind (Record.flag? "hostNetwork") :=
    bind_spec?_map h fun r => by rw [Record.flag?, hf r]; rfl
  rw [hostNetwork, hostNetwork, hview]

lemma nodeSelector?_congr (hf : Keeps f "nodeSelector") (key : String) :
    q.nodeSelector? key = p.nodeSelector? key := by
  have hview : q.spec?.bind (Record.record? "nodeSelector") =
      p.spec?.bind (Record.record? "nodeSelector") :=
    bind_spec?_map h fun r => by rw [Record.record?, hf r]; rfl
  rw [nodeSelector?, nodeSelector?, hview]

lemma containersIn_congr (hf : Keeps f field) : q.containersIn field = p.containersIn field := by
  have hview : q.spec?.bind (Record.list? field) = p.spec?.bind (Record.list? field) :=
    bind_spec?_map h fun r => by rw [Record.list?, hf r]; rfl
  rw [containersIn, containersIn, hview]

end PodAdmission.Pod
