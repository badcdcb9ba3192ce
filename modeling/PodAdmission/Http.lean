import PodAdmission.Decision
import PodAdmission.Text.Blank

/-!
# The front door

Which HTTP request gets which response. Reviews are posted to `/mutate`; `/healthz` and `/readyz`
tell that the webhook is up. A request is judged by its path, its method, the size of its body, its
content type and at last its body, in this order.

Whatever goes wrong behind the envelope of a review is a response to that review, with status 200.
-/

namespace PodAdmission

/-- An HTTP request. -/
structure HttpRequest where
  method : String
  target : String
  headers : List (String × Bytes)
  body : Bytes

/-- An HTTP response. -/
structure HttpResponse where
  status : Nat
  allow : Option String
  contentType : Option String
  body : Bytes
  deriving DecidableEq

/-- What a path leads to. -/
inductive Route where
  | mutate
  | probe
  deriving DecidableEq

namespace Route

/-- The route of a path. -/
def ofPath? (path : String) : Option Route :=
  if path = "/mutate" then some .mutate
  else if path = "/healthz" ∨ path = "/readyz" then some .probe
  else none

/-- The methods of a route, as a response lists them. -/
def allow : Route → String
  | .mutate => "POST"
  | .probe => "GET,HEAD"

/-- The method is one of the route's. -/
def takes : Route → String → Bool
  | .mutate, method => method == "POST"
  | .probe, method => method == "GET" || method == "HEAD"

end Route

namespace HttpRequest

/-- A character that ends the authority of a target: what follows is a path, a query or a
fragment. -/
def endsAuthority (c : Char) : Bool :=
  c == '/' || c == '?' || c == '#'

/-- The part of a target that names a resource of the host. A target is such a part, or names a
scheme and an authority before it, or names an authority alone. -/
def resource? (target : List Char) : Option (List Char) :=
  match target with
  | '/' :: _ => some target
  | _ =>
    match target.dropWhile (· != ':') with
    | ':' :: '/' :: '/' :: rest => some (rest.dropWhile fun c => !endsAuthority c)
    | _ => none

/-- The path of a request: the resource of its target up to a query or fragment. It is the root if
there is nothing before those, and empty if the target names no resource. -/
def path (r : HttpRequest) : String :=
  match resource? r.target.toList with
  | none => ""
  | some resource =>
    let path := resource.takeWhile fun c => c != '?' && c != '#'
    if path.isEmpty then "/" else String.ofList path

/-- A byte of a header value that is shown as text. -/
def isVisible (b : UInt8) : Bool :=
  (0x20 ≤ b && b ≤ 0x7E) || b == 0x09

/-- The content type that the first header of that name declares. A value with bytes that are not
visible ASCII counts as empty, and so does no header at all. -/
def contentType (r : HttpRequest) : String :=
  match r.headers.find? fun (name, _) => Ascii.sameIgnoringCase name "content-type" with
  | some (_, value) => if value.all isVisible then Utf8.display value else ""
  | none => ""

/-- The declared content type is JSON; parameters behind a semicolon do not matter. -/
def isJson (r : HttpRequest) : Bool :=
  let mediaType := String.ofList (r.contentType.toList.takeWhile (· != ';'))
  Ascii.sameIgnoringCase (Text.trim mediaType) "application/json"

end HttpRequest

namespace HttpResponse

/-- A response without a body. -/
def empty (status : Nat) (allow : Option String) : HttpResponse :=
  ⟨status, allow, none, []⟩

/-- A response with a plain text. -/
def plain (status : Nat) (text : String) : HttpResponse :=
  ⟨status, none, some "text/plain; charset=utf-8", Utf8.encode text⟩

/-- A response with a JSON text. -/
def json (status : Nat) (body : Bytes) : HttpResponse :=
  ⟨status, none, some "application/json", body⟩

/-- The response to a review that gets no answer of its own kind. -/
def ofFault (f : ReviewFault) : HttpResponse :=
  .json f.status f.body

end HttpResponse

/-- The largest body of a review: eight mebibytes. -/
def maxBodyBytes : Nat := 8 * 1024 * 1024

/-- The event of a review that gets no answer of its own kind. -/
def rejectionEvent (f : ReviewFault) : Event :=
  ⟨.error, "Rejecting review", [("error", .text f.message)]⟩

/-- The response to the body of a review. -/
def respondToReview (codec : Codec) (policy : Policy) (body : Bytes) :
    HttpResponse × List Event :=
  let received : Event := ⟨.debug, "Handling request", []⟩
  match AdmissionReview.decode body with
  | .error e =>
    (.ofFault (.malformed ("failed to unmarshal AdmissionReview: " ++ e.message)),
      [received, ⟨.error, "Failed to parse admission review", [("error", .text e.message)]⟩])
  | .ok review =>
    match review.answer codec policy with
    | .error fault => (.ofFault fault, [received, rejectionEvent fault])
    | .ok (reply, events) =>
      (.json 200 reply.write, received :: events ++ [⟨.debug, "Sending response", []⟩])

/-- The response to a request. -/
def respond (codec : Codec) (policy : Policy) (r : HttpRequest) : HttpResponse × List Event :=
  match Route.ofPath? r.path with
  | none => (.empty 404 none, [])
  | some route =>
    if route.takes r.method then
      match route with
      | .probe => (.plain 200 (if r.method = "HEAD" then "" else "ok"), [])
      | .mutate =>
        if maxBodyBytes < r.body.length then
          (.plain 413 "Failed to buffer the request body: length limit exceeded", [])
        else if r.isJson then respondToReview codec policy r.body
        else
          let fault := ReviewFault.unsupportedMediaType r.contentType
          (.ofFault fault, [rejectionEvent fault])
    else (.empty 405 (some route.allow), [])

end PodAdmission
