import PodAdmission.Proofs.Admission.Soundness
import PodAdmission.Proofs.Pod.Commute

/-!
# Two webhooks on one pod

A cluster may ask the two webhooks in either order. `Policy.Independent` says that two policies
leave each other alone on a pod: not both select it, neither changes which way the other decides,
and the pod comes out the same in both orders. The policies of the two webhooks are independent on
every pod, for one sets a runtime class and the other rewrites containers, and their annotations
have different keys.
-/

namespace PodAdmission

open Pod

/-- The pod as a webhook hands it on: changed if the policy selects it. -/
def Policy.pass (P : Policy) (p : Pod) : Pod :=
  if P.selects p then P.mutate p else p

/-- Two policies leave each other alone on a pod. -/
structure Policy.Independent (P Q : Policy) (p : Pod) : Prop where
  exclusive : P.selects p = true → Q.selects p = false
  selects_mutate : P.selects (Q.mutate p) = P.selects p
  mutate_selects : Q.selects (P.mutate p) = Q.selects p
  mutate_comm : P.mutate (Q.mutate p) = Q.mutate (P.mutate p)
  pass_comm : P.pass (Q.pass p) = Q.pass (P.pass p)

variable {P Q : Policy} {p : Pod}

/-- In the two orders the pod is handed on alike if neither policy changes which way the other
decides and the changes commute. -/
lemma Policy.pass_comm (hP : P.selects (Q.mutate p) = P.selects p)
    (hQ : Q.selects (P.mutate p) = Q.selects p)
    (hcomm : P.mutate (Q.mutate p) = Q.mutate (P.mutate p)) :
    P.pass (Q.pass p) = Q.pass (P.pass p) := by
  by_cases hp : P.selects p = true
  · by_cases hq : Q.selects p = true
    · simp [pass, hp, hq, hP, hQ, hcomm]
    · simp [pass, hp, hq, hQ]
  · by_cases hq : Q.selects p = true
    · simp [pass, hp, hq, hP]
    · simp [pass, hp, hq]

/-! ### The policies of the two webhooks -/

namespace HostProcess

/-- Wrapping containers and assigning a runtime class do not depend on their order. -/
lemma wrapped_assigned (name : String) :
    wrapped ∘ RuntimeClass.assigned name = RuntimeClass.assigned name ∘ wrapped := by
  funext spec
  have hget : Entries.get? "runtimeClassName" (wrapped spec) =
      Entries.get? "runtimeClassName" spec := keeps_wrapped (by decide) spec
  simp only [Function.comp_apply, RuntimeClass.assigned, hget]
  cases Entries.get? "runtimeClassName" spec with
  | some d => rfl
  | none => exact Entries.modify_insert (by decide) _ _ spec

lemma any_runtimeClass_mutate (name : String) (p : Pod) :
    (RuntimeClass.mutate name p).containers.any runsProgram = p.containers.any runsProgram := by
  rw [Pod.containers, containersIn_congr (RuntimeClass.spec?_mutate name p)
    (RuntimeClass.keeps_assigned name (by decide))]
  rfl

/-- What the policy for runtime classes decides does not depend on what the other one has done. -/
lemma runtimeClass_selects_mutate (p : Pod) :
    RuntimeClass.selects (mutate p) = RuntimeClass.selects p := by
  cases h : p.containers.any runsProgram with
  | true =>
    have hspec := spec?_mutate h
    rw [RuntimeClass.selects, RuntimeClass.runsOnHost,
      hostProcess?_congr hspec (keeps_wrapped (by decide)), anyHostProcess, List.any_append,
      ← anyHostProcess, containers_mutate, anyHostProcess_seen, initContainers,
      containersIn_congr hspec (keeps_wrapped (by decide)),
      nodeSelector?_congr hspec (keeps_wrapped (by decide)), anyHostProcess, ← List.any_append]
    rfl
  | false => rw [mutate_of_not_any h]

/-- The two changes of a pod do not depend on their order. -/
theorem mutate_runtimeClass_mutate (hp : p.Conforms) (name : String) :
    mutate (RuntimeClass.mutate name p) = RuntimeClass.mutate name (mutate p) := by
  have hany := any_runtimeClass_mutate name p
  cases h : p.containers.any runsProgram with
  | true =>
    rw [mutate_of_any (hany.trans h), mutate_of_any h, RuntimeClass.mutate_eq,
      RuntimeClass.mutate_eq, modifySpec_annotate, modifySpec_annotate, modifySpec_modifySpec,
      modifySpec_modifySpec, wrapped_assigned]
    exact annotate_comm (hp.ordered.modifySpec _) (by decide) _ _
  | false => rw [mutate_of_not_any (hany.trans h), mutate_of_not_any h]

end HostProcess

/-- The policies of the two webhooks are independent on every pod. -/
theorem HostProcess.independent_runtimeClass (hp : p.Conforms) (name : String) :
    Policy.Independent HostProcess.policy (RuntimeClass.policy name) p := by
  have hselects : HostProcess.selects (RuntimeClass.mutate name p) = HostProcess.selects p :=
    selects_runtimeClass_mutate name p
  have hother := runtimeClass_selects_mutate p
  have hcomm := mutate_runtimeClass_mutate hp name
  refine ⟨fun h => ?_, hselects, hother, hcomm, Policy.pass_comm hselects hother hcomm⟩
  exact RuntimeClass.selects_of_isRequested (isRequested_of_selects h)

/-- On a pod that the one policy selects and both can change, they are independent. -/
theorem HostProcess.independent_agnhostPod : agnhostPod.Conforms ∧
    Policy.Independent HostProcess.policy (RuntimeClass.policy RuntimeClass.defaultName)
      agnhostPod := by
  have hconforms : agnhostPod.Conforms := (sound_of_decode decode_agnhostDocument).1
  exact ⟨hconforms, HostProcess.independent_runtimeClass hconforms RuntimeClass.defaultName⟩

end PodAdmission
