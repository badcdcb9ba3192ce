import PodAdmission.Pod.Shape.Spec
import PodAdmission.Pod.Shape.State

/-!
# Whole objects

The fields of a pod and of the status of a rejected review. Both are preceded by an API version
and a kind, which are the same for all objects of the kind.
-/

namespace PodAdmission.Shape

/-- The fields of a pod. -/
def podFields : List (String × Presence × Shape) :=
  [required "metadata" objectMeta, optional "spec" podSpec, optional "status" podStatus]

/-- The fields of a status. -/
def statusFields : List (String × Presence × Shape) :=
  [optional "code" .int32, optional "details" statusDetails, optional "message" .text,
   required "metadata" listMeta, optional "reason" .text, optional "status" .text]

/-- The fixed members in front of the fields of an object. -/
def header (kind : String) : List (String × String) :=
  [("apiVersion", "v1"), ("kind", kind)]

end PodAdmission.Shape
