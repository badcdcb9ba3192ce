import PodAdmission.Pod.Shape.Meta

/-!
# Scheduling fields

Where a pod may run: affinity, tolerations and spreading. Every table is in ascending order of
field names.
-/

namespace PodAdmission.Shape

def nodeSelectorRequirement : Shape :=
  .record "NodeSelectorRequirement"
    [required "key" .text, required "operator" .text, optional "values" (.list .text)]

def nodeSelectorTerm : Shape :=
  .record "NodeSelectorTerm"
    [optional "matchExpressions" (.list nodeSelectorRequirement),
     optional "matchFields" (.list nodeSelectorRequirement)]

def preferredSchedulingTerm : Shape :=
  .record "PreferredSchedulingTerm"
    [required "preference" nodeSelectorTerm, required "weight" .int32]

def nodeSelector : Shape :=
  .record "NodeSelector"
    [required "nodeSelectorTerms" (.list nodeSelectorTerm)]

def nodeAffinity : Shape :=
  .record "NodeAffinity"
    [optional "preferredDuringSchedulingIgnoredDuringExecution" (.list preferredSchedulingTerm),
     optional "requiredDuringSchedulingIgnoredDuringExecution" nodeSelector]

def podAffinityTerm : Shape :=
  .record "PodAffinityTerm"
    [optional "labelSelector" labelSelector, optional "matchLabelKeys" (.list .text),
     optional "mismatchLabelKeys" (.list .text), optional "namespaceSelector" labelSelector,
     optional "namespaces" (.list .text), required "topologyKey" .text]

def weightedPodAffinityTerm : Shape :=
  .record "WeightedPodAffinityTerm"
    [required "podAffinityTerm" podAffinityTerm, required "weight" .int32]

def podAffinity : Shape :=
  .record "PodAffinity"
    [optional "preferredDuringSchedulingIgnoredDuringExecution" (.list weightedPodAffinityTerm),
     optional "requiredDuringSchedulingIgnoredDuringExecution" (.list podAffinityTerm)]

def podAntiAffinity : Shape :=
  .record "PodAntiAffinity"
    [optional "preferredDuringSchedulingIgnoredDuringExecution" (.list weightedPodAffinityTerm),
     optional "requiredDuringSchedulingIgnoredDuringExecution" (.list podAffinityTerm)]

def affinity : Shape :=
  .record "Affinity"
    [optional "nodeAffinity" nodeAffinity, optional "podAffinity" podAffinity,
     optional "podAntiAffinity" podAntiAffinity]

def toleration : Shape :=
  .record "Toleration"
    [optional "effect" .text, optional "key" .text, optional "operator" .text,
     optional "tolerationSeconds" .int64, optional "value" .text]

def topologySpreadConstraint : Shape :=
  .record "TopologySpreadConstraint"
    [optional "labelSelector" labelSelector, optional "matchLabelKeys" (.list .text),
     required "maxSkew" .int32, optional "minDomains" .int32, optional "nodeAffinityPolicy" .text,
     optional "nodeTaintsPolicy" .text, required "topologyKey" .text,
     required "whenUnsatisfiable" .text]

def podSchedulingGate : Shape :=
  .record "PodSchedulingGate"
    [required "name" .text]

def podReadinessGate : Shape :=
  .record "PodReadinessGate"
    [required "conditionType" .text]

end PodAdmission.Shape
