import PodAdmission.Schema.Shape

/-!
# Metadata fields

Metadata of objects: labels and selectors, owners, field managers, and references to other objects
by name. Every table is in ascending order of field names.
-/

namespace PodAdmission.Shape

def managedFieldsEntry : Shape :=
  .record "ManagedFieldsEntry"
    [optional "apiVersion" .text, optional "fieldsType" .text, optional "fieldsV1" .free,
     optional "manager" .text, optional "operation" .text, optional "subresource" .text,
     optional "time" .time]

def ownerReference : Shape :=
  .record "OwnerReference"
    [required "apiVersion" .text, optional "blockOwnerDeletion" .flag,
     optional "controller" .flag, required "kind" .text, required "name" .text,
     required "uid" .text]

def objectMeta : Shape :=
  .record "ObjectMeta"
    [optional "annotations" (.dict .text), optional "creationTimestamp" .time,
     optional "deletionGracePeriodSeconds" .int64, optional "deletionTimestamp" .time,
     optional "finalizers" (.list .text), optional "generateName" .text,
     optional "generation" .int64, optional "labels" (.dict .text),
     optional "managedFields" (.list managedFieldsEntry), optional "name" .text,
     optional "namespace" .text, optional "ownerReferences" (.list ownerReference),
     optional "resourceVersion" .text, optional "selfLink" .text, optional "uid" .text]

def listMeta : Shape :=
  .record "ListMeta"
    [optional "continue" .text, optional "remainingItemCount" .int64,
     optional "resourceVersion" .text, optional "selfLink" .text]

def localObjectReference : Shape :=
  .record "LocalObjectReference"
    [required "name" .text]

def statusCause : Shape :=
  .record "StatusCause"
    [optional "field" .text, optional "message" .text, optional "reason" .text]

def statusDetails : Shape :=
  .record "StatusDetails"
    [optional "causes" (.list statusCause), optional "group" .text, optional "kind" .text,
     optional "name" .text, optional "retryAfterSeconds" .int32, optional "uid" .text]

def labelSelectorRequirement : Shape :=
  .record "LabelSelectorRequirement"
    [required "key" .text, required "operator" .text, optional "values" (.list .text)]

def labelSelector : Shape :=
  .record "LabelSelector"
    [optional "matchExpressions" (.list labelSelectorRequirement),
     optional "matchLabels" (.dict .text)]

end PodAdmission.Shape
