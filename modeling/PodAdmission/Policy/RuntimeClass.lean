import PodAdmission.Policy.Basic
import PodAdmission.Text.Blank

/-!
# Hyper-V runtime class

Gives a runtime class to every pod that has none, so that it runs isolated by Hyper-V. Pods that
run as a process of the host and pods pinned to Linux nodes are left alone, for neither can run in
such a sandbox. A runtime class that is set already is kept, whatever it is.
-/

namespace PodAdmission.RuntimeClass

/-- The annotation of a pod that the policy has seen. -/
def annotationKey : String := "hyperv-runtimeclass-mutating-webhook"

/-- The value of the annotation. -/
def annotationValue : String := "mutated"

/-- The runtime class if none is configured. -/
def defaultName : String := "runhcs-wcow-hypervisor"

/-- The runtime class to assign. A blank name counts as none. -/
def resolve (configured : Option String) : String :=
  match configured with
  | none => defaultName
  | some name =>
    let trimmed := Text.trim name
    if trimmed.isEmpty then defaultName else trimmed

/-- The pod or any of its containers, those that run first included, asks to run as a process of
the host. -/
def runsOnHost (p : Pod) : Bool :=
  p.hostProcess? == some true || Pod.anyHostProcess (p.containers ++ p.initContainers)

/-- The pods that the policy selects. -/
def selects (p : Pod) : Bool :=
  !runsOnHost p && p.nodeSelector? "kubernetes.io/os" != some "linux"

/-- Sets the annotation and, if the pod has a specification without a runtime class, the runtime
class. -/
def mutate (name : String) (p : Pod) : Pod :=
  (p.annotate annotationKey annotationValue).defaultSpecText "runtimeClassName" name

/-- The policy that assigns a runtime class. -/
def policy (name : String) : Policy where
  name := "hyperv"
  selects := selects
  mutate := mutate name

end PodAdmission.RuntimeClass
