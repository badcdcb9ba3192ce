import PodAdmission.Pod.Basic

/-!
# Admission reviews

The cluster posts a review that carries a request and expects the same envelope back with a
response. The object under review is kept as its own text, so a review whose object is no pod still
has an identifier to answer to.
-/

namespace PodAdmission

/-- The group, version and kind of an object. -/
structure GroupVersionKind where
  group : String
  version : String
  kind : String
  deriving DecidableEq

/-- The group, version and name of a type of resources. -/
structure GroupVersionResource where
  group : String
  version : String
  resource : String
  apiVersion : String
  deriving DecidableEq

/-- The resource is a pod of the core group, in whatever version. -/
def GroupVersionResource.isPod (r : GroupVersionResource) : Bool :=
  r.group == "" && r.resource == "pods"

/-- What the cluster was asked to do. -/
inductive Trigger where
  | create
  | update
  | delete
  | connect
  deriving DecidableEq

/-- A question: may this object be admitted, and should it be changed? -/
structure AdmissionRequest where
  uid : String
  kind : GroupVersionKind
  resource : GroupVersionResource
  subResource : Option String
  requestKind : Option GroupVersionKind
  requestResource : Option GroupVersionResource
  name : Option String
  objectNamespace : Option String
  operation : Trigger
  object : Option Bytes
  oldObject : Option Bytes
  dryRun : Option Bool

/-- The text of the object under review, unless it is `null`. -/
def AdmissionRequest.objectText? (r : AdmissionRequest) : Option Bytes :=
  r.object.filter (· ≠ Ascii.nullWord)

/-- The form of the changes in a response. -/
inductive PatchType where
  | jsonPatch
  deriving DecidableEq

/-- Why a review is rejected. -/
inductive Reason where
  /-- The review or its object is malformed. -/
  | badRequest
  /-- The answer could not be built. -/
  | internalError
  deriving DecidableEq

namespace Reason

/-- The name of a reason. -/
def name : Reason → String
  | .badRequest => "BadRequest"
  | .internalError => "InternalError"

/-- The HTTP status that goes with a reason. -/
def code : Reason → Int
  | .badRequest => 400
  | .internalError => 500

end Reason

/-- The explanation of a rejection: a record of the fields in `Shape.statusFields`. -/
structure Status where
  fields : Record

namespace Status

/-- The status of a rejection. -/
def failure (reason : Reason) (message : String) : Status :=
  ⟨[("code", .whole reason.code), ("message", .text message), ("metadata", .record []),
    ("reason", .text reason.name), ("status", .text "Failure")]⟩

/-- The reason, if one is given. -/
def reason? (s : Status) : Option String :=
  Record.text? "reason" s.fields

/-- The message, if one is given. -/
def message? (s : Status) : Option String :=
  Record.text? "message" s.fields

/-- The code, if one is given. -/
def code? (s : Status) : Option Int :=
  Record.whole? "code" s.fields

/-- Reads a status. -/
def read (depth : Nat) (bytes : Bytes) : Read Status :=
  (Reader.readRecord "Status" (Shape.header "Status") (Shape.readers Shape.statusFields) depth
    bytes).map fun (fields, r) => (⟨Shape.complete Shape.statusFields fields⟩, r)

/-- The JSON value that a status is written as. -/
def toJson (s : Status) : Json :=
  .object
    ((Shape.header "Status").map (fun (k, v) => (k, .text v)) ++ Datum.fieldsToJson s.fields)

end Status

/-- The answer to a request. -/
structure AdmissionResponse where
  uid : String
  allowed : Bool
  status : Option Status
  patch : Option Bytes
  patchType : Option PatchType

namespace AdmissionResponse

/-- Admits the object as it is. -/
def allow (uid : String) : AdmissionResponse :=
  ⟨uid, true, none, none, none⟩

/-- Rejects the object and says why. -/
def reject (uid : String) (reason : Reason) (message : String) : AdmissionResponse :=
  ⟨uid, false, some (.failure reason message), none, none⟩

/-- Adds the text of a patch. -/
def withPatch (patch : Bytes) (r : AdmissionResponse) : AdmissionResponse :=
  { r with patch := some patch, patchType := some .jsonPatch }

/-- The reason in the status, if there is one. -/
def reason? (r : AdmissionResponse) : Option String :=
  r.status.bind Status.reason?

end AdmissionResponse

/-- The envelope of a request on the way in and of a response on the way out. -/
structure AdmissionReview where
  apiVersion : String
  kind : String
  request : Option AdmissionRequest
  response : Option AdmissionResponse

/-- The envelope of the answer to a review. -/
def AdmissionReview.reply (r : AdmissionReview) (response : AdmissionResponse) : AdmissionReview :=
  { r with request := none, response := some response }

end PodAdmission
