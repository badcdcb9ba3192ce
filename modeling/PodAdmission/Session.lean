import PodAdmission.Decision

/-!
# Sessions

What becomes of one document under a sequence of steps: admissions, whose patches are applied to
it, changes by a policy or to an annotation, and edits by hand. A step that fails leaves the
document as it is.
-/

namespace PodAdmission

/-- One step. -/
inductive SessionStep where
  /-- Ask for admission and apply the patch of the response. -/
  | submit (codec : Codec) (policy : Policy) (operation : Trigger)
  /-- Let a policy change the pod, whether it selects it or not. -/
  | mutate (policy : Policy)
  /-- Set an annotation of the pod. -/
  | annotate (key value : String)
  /-- Set a member of an object, or take it away. -/
  | edit (path : String) (value : Option Json)

/-- What a step answers. -/
inductive SessionOutcome where
  | admitted (response : AdmissionResponse) (failure : Option PatchFailure)
  | mutated (selected : Bool)
  | annotated (annotations : Json)
  | edited
  | failed (failure : Failure)
  /-- A text that the step has made cannot be read back. -/
  | unreadable (error : JsonError)
  | noSuchPath (parent : String)

namespace Session

/-- The request to admit a document. -/
def request (doc : Json) (operation : Trigger) : AdmissionRequest :=
  { AdmissionRequest.blank with
    uid := "session"
    kind := ⟨"", "v1", "Pod"⟩
    resource := ⟨"", "v1", "pods", ""⟩
    operation := operation
    object := match doc with
      | .null => none
      | doc => some doc.write }

/-- The patch of a response, read from its text. -/
def patchOf (response : AdmissionResponse) : Except JsonError Patch :=
  match response.patch with
  | some text => Patch.read text
  | none => .ok []

/-- The document that a pod is written as. -/
def document (p : Pod) : Except JsonError Json :=
  Json.read p.encode

/-- Cuts a path at its last slash: the path of the parent, and the key behind it. -/
def splitPath (path : String) : String × String :=
  let key := (path.toList.reverse.takeWhile (· != '/')).reverse
  (String.ofList (path.toList.take (path.length - key.length - 1)),
    String.ofList (Pointer.unescape key))

/-- Sets a member of the object that a path leads to, or takes it away. -/
def setMember? (path : Pointer) (key : String) (value : Option Json) (doc : Json) : Option Json :=
  match doc.at? path with
  | some (.object members) =>
    let changed := Json.object
      (match value with
        | some v => Entries.insert key v members
        | none => Entries.erase key members)
    (Operation.replace path changed).perform? doc
  | _ => none

/-- The document after a change of the pod in it, and what the step answers. -/
def changePod (doc : Json) (change : Pod → Pod) (outcome : Pod → SessionOutcome) :
    Json × SessionOutcome :=
  match Codec.json.decode doc.write with
  | .error failure => (doc, .failed failure)
  | .ok pod =>
    match document (change pod) with
    | .error error => (doc, .unreadable error)
    | .ok next => (next, outcome pod)

/-- The document after a step, and what the step answers. -/
def step (doc : Json) : SessionStep → Json × SessionOutcome
  | .submit codec policy operation =>
    let response := (Decision.ofRequest codec policy (request doc operation)).response
    match patchOf response with
    | .error error => (doc, .unreadable error)
    | .ok patch =>
      match patch.apply doc with
      | .ok next => (next, .admitted response none)
      | .error failure => (doc, .admitted response (some failure))
  | .mutate policy => changePod doc policy.mutate fun pod => .mutated (policy.selects pod)
  | .annotate key value =>
    changePod doc (·.annotate key value) fun pod =>
      .annotated (Datum.record (pod.annotate key value).annotations).toJson
  | .edit path value =>
    let (parent, key) := splitPath path
    match (Pointer.parse? parent).bind fun p => setMember? p key value doc with
    | some doc => (doc, .edited)
    | none => (doc, .noSuchPath parent)

/-- The documents after each step and what the steps answer. -/
def run (doc : Json) : List SessionStep → List (Json × SessionOutcome)
  | [] => []
  | s :: rest =>
    let (next, outcome) := step doc s
    (next, outcome) :: run next rest

end Session

end PodAdmission
