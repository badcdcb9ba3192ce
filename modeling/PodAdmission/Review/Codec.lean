import PodAdmission.Review.Basic
import PodAdmission.Review.Form
import PodAdmission.Text.Base64

/-!
# The text of a review

Reading and writing envelopes. The text of an object is passed over when an envelope is read and
put back as it is when one is written; a patch is written in base64. An optional member that is
not there is left out.
-/

namespace PodAdmission

namespace Trigger

/-- The triggers by name. -/
def variants : List (String × Trigger) :=
  [("CREATE", .create), ("UPDATE", .update), ("DELETE", .delete), ("CONNECT", .connect)]

/-- The name of a trigger. -/
def name : Trigger → String
  | .create => "CREATE"
  | .update => "UPDATE"
  | .delete => "DELETE"
  | .connect => "CONNECT"

end Trigger

namespace PatchType

/-- The patch types by name. -/
def variants : List (String × PatchType) :=
  [("JSONPatch", .jsonPatch)]

/-- The name of a patch type. -/
def name : PatchType → String
  | .jsonPatch => "JSONPatch"

end PatchType

/-! ### Reading -/

/-- What a text has to be to stand for bytes. -/
def base64Text : String := "a base64-encoded string"

/-- The bytes that a value stands for. -/
def acceptBase64 : Json → Except Cause Bytes
  | .text s =>
    match Base64.decode (Utf8.encode s) with
    | .ok bytes => .ok bytes
    | .error fault => .error (.malformedContent fault.message)
  | found => .error (.wrongType found base64Text)

namespace GroupVersionKind

/-- The form of a kind. -/
def form : Form GroupVersionKind where
  name := "GroupVersionKind"
  blank := ⟨"", "", ""⟩
  slots :=
    [.required "group" Form.readString fun k v => { k with group := v },
     .required "version" Form.readString fun k v => { k with version := v },
     .required "kind" Form.readString fun k v => { k with kind := v }]

/-- Reads a kind. -/
def read (depth : Nat) (bytes : Bytes) : Read GroupVersionKind :=
  Form.read (fun _ => form) depth bytes

/-- The text of a kind. -/
def write (k : GroupVersionKind) : Bytes :=
  Json.objectOf [("group", Json.writeText k.group), ("version", Json.writeText k.version),
    ("kind", Json.writeText k.kind)]

end GroupVersionKind

namespace GroupVersionResource

/-- The form of a resource. -/
def form : Form GroupVersionResource where
  name := "GroupVersionResource"
  blank := ⟨"", "", "", ""⟩
  slots :=
    [.required "group" Form.readString fun r v => { r with group := v },
     .required "version" Form.readString fun r v => { r with version := v },
     .required "resource" Form.readString fun r v => { r with resource := v },
     .defaulted "api_version" Form.readString fun r v => { r with apiVersion := v }]

/-- Reads a resource. -/
def read (depth : Nat) (bytes : Bytes) : Read GroupVersionResource :=
  Form.read (fun _ => form) depth bytes

/-- The text of a resource. -/
def write (r : GroupVersionResource) : Bytes :=
  Json.objectOf [("group", Json.writeText r.group), ("version", Json.writeText r.version),
    ("resource", Json.writeText r.resource), ("api_version", Json.writeText r.apiVersion)]

end GroupVersionResource

namespace AdmissionRequest

/-- A request with nothing in it. -/
def blank : AdmissionRequest :=
  ⟨"", ⟨"", "", ""⟩, ⟨"", "", "", ""⟩, none, none, none, none, none, .create, none, none, none⟩

/-- The form of a request. -/
def form (depth : Nat) : Form AdmissionRequest where
  name := "AdmissionRequest"
  blank := blank
  slots :=
    [.required "uid" Form.readString fun r v => { r with uid := v },
     .required "kind" (GroupVersionKind.read depth) fun r v => { r with kind := v },
     .required "resource" (GroupVersionResource.read depth) fun r v => { r with resource := v },
     .optional "subResource" Form.readString fun r v => { r with subResource := v },
     .optional "requestKind" (GroupVersionKind.read depth) fun r v => { r with requestKind := v },
     .optional "requestResource" (GroupVersionResource.read depth)
       fun r v => { r with requestResource := v },
     .optional "name" Form.readString fun r v => { r with name := v },
     .optional "namespace" Form.readString fun r v => { r with objectNamespace := v },
     .required "operation" (Form.readVariant Trigger.variants depth)
       fun r v => { r with operation := v },
     .optional "object" Reader.readRaw fun r v => { r with object := v },
     .optional "oldObject" Reader.readRaw fun r v => { r with oldObject := v },
     .optional "dryRun" Form.readFlag fun r v => { r with dryRun := v }]

/-- Reads a request. -/
def read (depth : Nat) (bytes : Bytes) : Read AdmissionRequest :=
  Form.read form depth bytes

end AdmissionRequest

namespace AdmissionResponse

/-- The form of a response. -/
def form (depth : Nat) : Form AdmissionResponse where
  name := "AdmissionResponse"
  blank := ⟨"", false, none, none, none⟩
  slots :=
    [.required "uid" Form.readString fun r v => { r with uid := v },
     .required "allowed" Form.readFlag fun r v => { r with allowed := v },
     .optional "status" (Status.read depth) fun r v => { r with status := v },
     .optional "patch" (Reader.readAs base64Text acceptBase64) fun r v => { r with patch := v },
     .optional "patchType" (Form.readVariant PatchType.variants depth)
       fun r v => { r with patchType := v }]

/-- Reads a response. -/
def read (depth : Nat) (bytes : Bytes) : Read AdmissionResponse :=
  Form.read form depth bytes

end AdmissionResponse

namespace AdmissionReview

/-- The form of a review. -/
def form (depth : Nat) : Form AdmissionReview where
  name := "AdmissionReview"
  blank := ⟨"", "", none, none⟩
  slots :=
    [.required "apiVersion" Form.readString fun r v => { r with apiVersion := v },
     .required "kind" Form.readString fun r v => { r with kind := v },
     .optional "request" (AdmissionRequest.read depth) fun r v => { r with request := v },
     .optional "response" (AdmissionResponse.read depth) fun r v => { r with response := v }]

/-- The review that a text stands for. -/
def decode (text : Bytes) : Except JsonError AdmissionReview :=
  Reader.readWhole (Form.read form Reader.maxDepth) text

end AdmissionReview

/-! ### Writing -/

/-- A member that is written if there is something to write. -/
def optionalMember {α : Type} (key : String) (write : α → Bytes) :
    Option α → List (String × Bytes)
  | some a => [(key, write a)]
  | none => []

/-- The text of a request. -/
def AdmissionRequest.write (r : AdmissionRequest) : Bytes :=
  Json.objectOf
    ([("uid", Json.writeText r.uid), ("kind", r.kind.write), ("resource", r.resource.write)] ++
      optionalMember "subResource" Json.writeText r.subResource ++
      optionalMember "requestKind" GroupVersionKind.write r.requestKind ++
      optionalMember "requestResource" GroupVersionResource.write r.requestResource ++
      optionalMember "name" Json.writeText r.name ++
      optionalMember "namespace" Json.writeText r.objectNamespace ++
      [("operation", Json.writeText r.operation.name)] ++
      optionalMember "object" id r.object ++
      optionalMember "oldObject" id r.oldObject ++
      optionalMember "dryRun" Json.writeBool r.dryRun)

/-- The text of bytes in base64. -/
def writeBase64 (bytes : Bytes) : Bytes :=
  Ascii.quote :: Base64.encode bytes ++ [Ascii.quote]

/-- The text of a response. -/
def AdmissionResponse.write (r : AdmissionResponse) : Bytes :=
  Json.objectOf
    ([("uid", Json.writeText r.uid), ("allowed", Json.writeBool r.allowed)] ++
      optionalMember "status" (fun s => s.toJson.write) r.status ++
      optionalMember "patch" writeBase64 r.patch ++
      optionalMember "patchType" (fun t => Json.writeText t.name) r.patchType)

/-- The text of a review. -/
def AdmissionReview.write (r : AdmissionReview) : Bytes :=
  Json.objectOf
    ([("apiVersion", Json.writeText r.apiVersion), ("kind", Json.writeText r.kind)] ++
      optionalMember "request" AdmissionRequest.write r.request ++
      optionalMember "response" AdmissionResponse.write r.response)

end PodAdmission
