import PodAdmission.Review.Basic

/-!
# Policies

A policy says which resources it is about, which pods it selects, and what it makes of a pod. It is
asked to change a pod only after it has selected it.
-/

namespace PodAdmission

/-- What a webhook does with pods. -/
structure Policy where
  name : String
  handles : GroupVersionResource → Bool := GroupVersionResource.isPod
  selects : Pod → Bool
  mutate : Pod → Pod

end PodAdmission
