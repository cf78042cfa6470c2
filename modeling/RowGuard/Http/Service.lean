import RowGuard.Http.Failure
import RowGuard.Http.Identity
import RowGuard.Http.RequestId
import RowGuard.Http.Route
import RowGuard.Post.Limits
import RowGuard.Post.Service

/-!
# The service

A request is answered by a dialogue with a backend. The caller is taken from the headers, and
whoever cannot be identified is anonymous; every question of the dialogue is put in the caller's
context.

* `Call.perform`: the dialogue of a call, which knows nothing about headers or rules
* `Service.respond`: the dialogue of a request
-/

set_option autoImplicit false

namespace RowGuard.Http

/-- The content of a list of posts. -/
def postsJson (ps : List Post) : Json :=
  .object [("posts", .array (ps.map Post.toJson)), ("total", .int ps.length)]

/-- A successful answer of a call with its status, or its failure. -/
abbrev CallResult := Except Failure (Nat × Json)

/-- The result of a call, from the answer of the post service. -/
def answered {α : Type} (status : Nat) (encode : α → Json) : Result α → CallResult
  | .ok a => .ok (status, encode a)
  | .error e => .error (.data e)

/-- What a service is set up with. -/
structure Service where
  /-- Finds the caller in the headers. -/
  identify : Headers → Except IdentityFault (Option Caller)
  version : String
  /-- How long the service has been running, in seconds. -/
  uptime : Nat

/-- The content of a report on the service. -/
def Service.healthJson (s : Service) : Json :=
  .object [("status", .string "healthy"), ("uptime_seconds", .int s.uptime),
    ("version", .string s.version)]

/-- **The dialogue of a call.** Limits come before everything else, and a new post needs a caller.
-/
def Call.perform (s : Service) (caller : Option Caller) : Call → Dialogue CallResult
  | .health => .done (.ok (200, s.healthJson))
  | .create input =>
    if input.violations ≠ [] then .done (.error (.invalid (Violation.message input.violations)))
    else
      match caller with
      | none => .done (.error (.unauthorized "Sign in to create posts"))
      | some c => (PostService.create input c.id).map (answered 201 Post.toJson)
  | .list => PostService.findAll.map (answered 200 postsJson)
  | .fetch id => (PostService.findOne id).map (answered 200 Post.toJson)
  | .change id changes =>
    if changes.violations ≠ [] then .done (.error (.invalid (Violation.message changes.violations)))
    else (PostService.update id changes).map (answered 200 Post.toJson)
  | .remove id => (PostService.remove id).map (answered 200 Post.toJson)

/-- The response to a call. -/
def callResponse : CallResult → Response
  | .ok (status, v) => .of status (.json v)
  | .error f => f.response

/-- The headers by which browsers of any origin may use the service. -/
def originHeaders : List (String × String) :=
  [("vary", "origin, access-control-request-method, access-control-request-headers"),
    ("access-control-allow-origin", "*")]

/-- **The response to a question about what is allowed**, whatever the path. -/
def preflight (uri : String) : Response :=
  ⟨200, originHeaders ++
    [("access-control-allow-methods", "GET,POST,PATCH,DELETE,OPTIONS"),
      ("access-control-allow-headers",
        "content-type,accept,x-request-id,x-user-id,x-user-role,x-user-email"),
      ("access-control-max-age", "3600")] ++
    ((Resource.ofUri? uri).map fun r => ("allow", r.allowed)).toList, .empty⟩

namespace Service

/-- The context of a request. Whoever cannot be identified is anonymous. -/
def contextOf (s : Service) (headers : Headers) : RequestContext :=
  .forCaller
    (match s.identify headers with
      | .ok caller => caller
      | .error _ => none)

/-- The dialogue of a request that is no question about what is allowed. -/
def handle (s : Service) (r : Request) : Dialogue Response :=
  match r.call with
  | .error rejection => .done rejection.response
  | .ok call =>
    let context := s.contextOf r.headers
    ((call.perform s context.caller).inContext (some context)).map callResponse

/-- A response as it is sent: without content where only headers are asked for, and with the
identifier of the request. -/
def finish (fresh : String) (r : Request) (response : Response) : Response :=
  let sent := if r.method = "HEAD" then response.withoutContent else response
  sent.withHeaders (originHeaders ++
    [("access-control-expose-headers", requestIdHeader),
      (requestIdHeader, (requestId? r.headers).getD fresh)])

/-- **The dialogue of a request.** A request that brings no identifier gets a fresh one. -/
def respond (s : Service) (fresh : String) (r : Request) : Dialogue Response :=
  if r.method = "OPTIONS" then .done (preflight r.uri) else (s.handle r).map (finish fresh r)

end Service

end RowGuard.Http
