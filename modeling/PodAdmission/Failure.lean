import PodAdmission.Json.Fault

/-!
# Failures

What can go wrong in a webhook once it has been given its input, and how it is worded. Only an
object that cannot be decoded is the caller's fault.
-/

namespace PodAdmission

/-- A failure of the webhook. -/
inductive Failure where
  /-- The object under review is no pod. -/
  | decode (error : JsonError)
  /-- A pod could not be written. -/
  | encode (error : JsonError)
  /-- Two snapshots could not be compared. -/
  | patch (why : String)
  /-- The certificate or the key could not be loaded. -/
  | tls (why : String)
  /-- The listener failed. -/
  | server (why : String)
  /-- The log could not be set up. -/
  | logging (why : String)

namespace Failure

/-- The wording of a failure. -/
def message : Failure → String
  | .decode e => "failed to decode object: " ++ e.message
  | .encode e => "failed to encode object: " ++ e.message
  | .patch why => "failed to create JSON patch: " ++ why
  | .tls why => "TLS configuration error: " ++ why
  | .server why => "server error: " ++ why
  | .logging why => "failed to initialize logging: " ++ why

/-- The failure was caused by what the caller sent. -/
def isBadRequest : Failure → Bool
  | .decode _ => true
  | _ => false

end Failure

end PodAdmission
