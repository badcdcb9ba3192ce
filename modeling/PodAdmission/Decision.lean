import PodAdmission.Failure
import PodAdmission.Patch.Diff
import PodAdmission.Policy.Basic
import PodAdmission.Review.Codec

/-!
# Decisions

How a request is answered: the object is decoded, the policy is asked, the pod before and after the
change is encoded, and the difference of the two texts is the patch of the response. Whatever goes
wrong on the way becomes a rejection with the request's identifier.

A decision comes with the events that it logs, in order.
-/

namespace PodAdmission

/-! ### Collaborators -/

/-- The pod as submitted or as changed. -/
inductive Snapshot where
  | submitted
  | changed
  deriving DecidableEq

/-- How pods are read from and written as texts. Neither has to succeed. -/
structure Codec where
  decode : Bytes → Except Failure Pod
  encode : Snapshot → Pod → Except Failure Bytes

/-- Pods as JSON. -/
def Codec.json : Codec where
  decode text := (Pod.decode text).mapError .decode
  encode _ p := .ok p.encode

/-! ### Events -/

/-- How much an event matters. -/
inductive Level where
  | error
  | warn
  | info
  | debug
  | trace
  deriving DecidableEq

/-- The value of a field of an event. -/
inductive EventValue where
  | text (s : String)
  | count (n : Nat)
  deriving DecidableEq

/-- An entry of the log. -/
structure Event where
  level : Level
  message : String
  fields : List (String × EventValue)
  deriving DecidableEq

namespace Patch

/-- The patch between two texts. -/
def create (submitted changed : Bytes) : Except Failure Patch :=
  match Json.read submitted with
  | .error e => .error (.patch ("original object is not JSON: " ++ e.message))
  | .ok old =>
    match Json.read changed with
    | .error e => .error (.patch ("mutated object is not JSON: " ++ e.message))
    | .ok new => .ok (between old new)

end Patch

/-! ### Decisions -/

/-- A response and the events logged on the way to it. -/
structure Decision where
  response : AdmissionResponse
  events : List Event

namespace Decision

/-- The patch between the encodings of a pod before and after a change. -/
def patchFor (codec : Codec) (submitted changed : Pod) : Except Failure Patch :=
  match codec.encode .submitted submitted with
  | .error e => .error e
  | .ok before =>
    match codec.encode .changed changed with
    | .error e => .error e
    | .ok after => Patch.create before after

/-- The rejection of a request for a failure. -/
def rejection (uid : String) (failure : Failure) : AdmissionResponse :=
  .reject uid (if failure.isBadRequest then .badRequest else .internalError) failure.message

/-- The answer for a selected pod, given its patch. -/
def ofPatch (policy : Policy) (uid : String) (pod : Pod) (patch : Patch) : Decision :=
  let context := [("uid", .text uid), ("policy", .text policy.name), ("pod", .text pod.displayName)]
  match patch with
  | [] =>
    ⟨.allow uid,
      [⟨.warn, "Mutation produced an empty patch, allowing without patch", context⟩]⟩
  | ops =>
    let text := Patch.write ops
    ⟨(AdmissionResponse.allow uid).withPatch text,
      [⟨.info, "Mutating pod", context ++ [("patch_ops", .count ops.length)]⟩,
        ⟨.debug, "Generated JSON patch",
          [("uid", .text uid), ("patch", .text (Utf8.display text))]⟩]⟩

/-- The answer for a pod. -/
def ofPod (codec : Codec) (policy : Policy) (uid : String) (pod : Pod) : Decision :=
  if policy.selects pod then
    match patchFor codec pod (policy.mutate pod) with
    | .ok patch => ofPatch policy uid pod patch
    | .error failure =>
      ⟨rejection uid failure,
        [⟨.error, "Failed to build patch",
          [("uid", .text uid), ("policy", .text policy.name), ("error", .text failure.message)]⟩]⟩
  else
    ⟨.allow uid,
      [⟨.debug, "Pod does not require mutation",
        [("uid", .text uid), ("policy", .text policy.name), ("pod", .text pod.displayName)]⟩]⟩

/-- The answer for the text of an object. -/
def ofObject (codec : Codec) (policy : Policy) (uid : String) (text : Bytes) : Decision :=
  match codec.decode text with
  | .ok pod => ofPod codec policy uid pod
  | .error failure =>
    ⟨rejection uid failure,
      [⟨.error, "Failed to decode pod",
        [("uid", .text uid), ("policy", .text policy.name), ("error", .text failure.message)]⟩]⟩

/-- The answer to a request. -/
def ofRequest (codec : Codec) (policy : Policy) (request : AdmissionRequest) : Decision :=
  let uid := request.uid
  if policy.handles request.resource then
    match request.objectText? with
    | some text => ofObject codec policy uid text
    | none =>
      ⟨.reject uid .badRequest "no object provided in admission request",
        [⟨.warn, "No object in admission request",
          [("uid", .text uid), ("policy", .text policy.name)]⟩]⟩
  else
    ⟨.allow uid,
      [⟨.debug, "Resource not handled by policy, allowing unchanged",
        [("uid", .text uid), ("policy", .text policy.name),
          ("group", .text request.resource.group),
          ("resource", .text request.resource.resource)]⟩]⟩

end Decision

/-! ### Whole reviews -/

/-- Why a review gets no answer of its own kind. -/
inductive ReviewFault where
  /-- The body is not declared as JSON but as what is given. -/
  | unsupportedMediaType (declared : String)
  /-- The body is no review with a request. -/
  | malformed (why : String)
  deriving DecidableEq

namespace ReviewFault

/-- The wording of a fault. -/
def message : ReviewFault → String
  | .unsupportedMediaType declared =>
    "contentType=" ++ declared ++ ", expected application/json"
  | .malformed why => "invalid admission review: " ++ why

/-- The HTTP status of a fault. -/
def status : ReviewFault → Nat
  | .unsupportedMediaType _ => 415
  | .malformed _ => 400

/-- The body of the HTTP response to a fault. -/
def body (f : ReviewFault) : Bytes :=
  Json.objectOf [("error", Json.writeText f.message)]

end ReviewFault

/-- The answer to a review and the events logged on the way to it. -/
def AdmissionReview.answer (codec : Codec) (policy : Policy) (review : AdmissionReview) :
    Except ReviewFault (AdmissionReview × List Event) :=
  match review.request with
  | none => .error (.malformed "admission review request is nil")
  | some request =>
    let decision := Decision.ofRequest codec policy request
    .ok (review.reply { decision.response with uid := request.uid }, decision.events)

end PodAdmission
