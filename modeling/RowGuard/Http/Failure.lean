import RowGuard.Error
import RowGuard.Http.Message

/-!
# Failures of a request

A request fails because of the data layer, because its body is out of limits, or because nobody is
signed in. The sender learns the reason, except for faults of the service itself, of which it only
learns that there is one.
-/

set_option autoImplicit false

namespace RowGuard.Http

/-- **Why a request failed.** -/
inductive Failure where
  /-- The data layer refused or failed. -/
  | data (e : Error)
  /-- The body is out of limits. -/
  | invalid (reason : String)
  /-- Nobody is signed in. -/
  | unauthorized (reason : String)

namespace Failure

/-- The status of a failure. -/
def status : Failure → Nat
  | data .forbidden => 403
  | data (.notFound _) => 404
  | data (.invalidInput _) => 400
  | data _ => 500
  | invalid _ => 400
  | unauthorized _ => 401

/-- The wording of a failure. -/
def message : Failure → String
  | data e => e.message
  | invalid reason => "Validation error: " ++ reason
  | unauthorized reason => "Unauthorized: " ++ reason

/-- The wording that is sent. Nothing is said about faults of the service. -/
def publicMessage (f : Failure) : String :=
  if 500 ≤ f.status then "Internal server error" else f.message

/-- **The response to a failed request.** -/
def response (f : Failure) : Response :=
  .of f.status (.json (.object [("error", .string f.publicMessage), ("status", .int f.status)]))

end Failure

end RowGuard.Http
