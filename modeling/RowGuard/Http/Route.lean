import RowGuard.Http.Form
import RowGuard.Http.MediaType
import RowGuard.Text.Numeral

/-!
# Routes and calls

A path leads to one of three resources, and a method on a resource to a call of the service. A
request that names a call may still be refused before the call is made: for an identifier that is
none, for a body that is not announced as JSON or is too large, and for a body that cannot be read,
in this order.
-/

set_option autoImplicit false

namespace RowGuard.Http

/-- What a path leads to. -/
inductive Resource where
  | health
  | posts
  /-- One post, by the text of its identifier. -/
  | post (id : List Char)
  deriving DecidableEq

/-- Whether a character may stand in the scheme of an address. -/
def isSchemeChar (c : Char) : Bool := c.isAlphanum || "+-.~".toList.contains c

/-- **The path of an address**, without scheme, host, query and fragment. An address starts with its
path or with a scheme, which may be any; without either it has no path. An empty path is the root.
-/
def pathOf? (uri : String) : Option (List Char) :=
  let pathFrom (cs : List Char) := cs.takeWhile fun c => c != '?' && c != '#'
  match uri.toList with
  | '/' :: rest => some (pathFrom ('/' :: rest))
  | cs =>
    match cs.dropWhile isSchemeChar with
    | ':' :: '/' :: '/' :: rest =>
      match pathFrom (rest.dropWhile fun c => c != '/' && c != '?' && c != '#') with
      | [] => some ['/']
      | path => some path
    | _ => none

/-- **The resource of a path**, compared character by character. -/
def Resource.ofPath? (path : List Char) : Option Resource :=
  let root := "/posts".toList
  if path = "/health".toList then some .health
  else if path = root then some .posts
  else if path.take 7 = root ++ ['/'] then
    let id := path.drop 7
    if id.isEmpty ∨ id.contains '/' then none else some (.post id)
  else none

/-- The resource at an address. -/
def Resource.ofUri? (uri : String) : Option Resource := (pathOf? uri).bind ofPath?

/-- The methods of a resource. -/
def Resource.methods : Resource → List String
  | health => ["GET", "HEAD"]
  | posts => ["POST", "GET", "HEAD"]
  | post _ => ["GET", "HEAD", "PATCH", "DELETE"]

/-- The methods of a resource as one header value. -/
def Resource.allowed (r : Resource) : String := ",".intercalate r.methods

/-- The characters of a path with its percent signs resolved. Two hexadecimal digits after a percent
sign stand for a character; any other percent sign stands for itself. -/
def percentDecoded : List Char → List Char
  | '%' :: a :: b :: rest =>
    match hexValue? a, hexValue? b with
    | some h, some l => Char.ofNat (16 * h + l) :: percentDecoded rest
    | _, _ => '%' :: percentDecoded (a :: b :: rest)
  | c :: rest => c :: percentDecoded rest
  | [] => []

/-- The identifier in a path. -/
def pathId? (text : List Char) : Option Int64 := idOfText? (percentDecoded text)

/-- **A call of the service.** -/
inductive Call where
  | health
  | create (input : NewPost)
  | list
  | fetch (id : Int64)
  | change (id : Int64) (changes : PostChanges)
  | remove (id : Int64)

/-- Why a request is refused before its call is made. -/
inductive Rejection where
  /-- The path leads nowhere. -/
  | noResource
  /-- The resource has other methods. -/
  | noMethod (allowed : String)
  /-- The identifier in the path is none. -/
  | badId
  /-- The body is not announced as JSON. -/
  | mediaType
  /-- The body is too large. -/
  | tooLarge
  | body (fault : BodyFault)
  deriving DecidableEq

namespace Rejection

/-- The status of a rejection. -/
def status : Rejection → Nat
  | noResource => 404
  | noMethod _ => 405
  | badId => 400
  | mediaType => 415
  | tooLarge => 413
  | body .malformed => 400
  | body .misfit => 422

/-- The explanation that is sent, if there is one. -/
def content : Rejection → Content
  | noResource => .empty
  | noMethod _ => .empty
  | badId => .text "The identifier in the path is not a whole number"
  | mediaType => .text "The body has to be announced as application/json"
  | tooLarge => .text "The body is too large"
  | body .malformed => .text "The body is not well-formed JSON"
  | body .misfit => .text "The body does not have the expected fields"

/-- **The response to a rejected request.** -/
def response (r : Rejection) : Response :=
  (Response.of r.status r.content).withHeaders
    (match r with
      | noMethod allowed => [("allow", allowed)]
      | _ => [])

end Rejection

/-- The size in bytes beyond which a body is not read. -/
def maxBodySize : Nat := 2097152

/-- The form in the body of a request. -/
def Request.form {α : Type} (r : Request) (read : String → Except BodyFault α) :
    Except Rejection α :=
  if !announcesJsonBody r.headers then .error .mediaType
  else if maxBodySize < r.body.utf8ByteSize then .error .tooLarge
  else
    match read r.body with
    | .ok a => .ok a
    | .error fault => .error (.body fault)

/-- The identifier in the path of a request. -/
def idOrReject (text : List Char) : Except Rejection Int64 :=
  match pathId? text with
  | some id => .ok id
  | none => .error .badId

/-- The call of a method on a resource. -/
def Request.callOn (r : Request) : Resource → Except Rejection Call
  | .health => .ok .health
  | .posts => if r.method = "POST" then (r.form newPostOf).map .create else .ok .list
  | .post text => do
    let id ← idOrReject text
    if r.method = "PATCH" then return .change id (← r.form postChangesOf)
    else if r.method = "DELETE" then return .remove id
    else return .fetch id

/-- **The call that a request makes**, or why it is rejected. -/
def Request.call (r : Request) : Except Rejection Call :=
  match Resource.ofUri? r.uri with
  | none => .error .noResource
  | some resource =>
    if resource.methods.contains r.method then r.callOn resource
    else .error (.noMethod resource.allowed)

end RowGuard.Http
