import RowGuard.Json.Basic

/-!
# Requests and responses

A header value is a string of bytes, which may or may not be readable as text. Header names are
compared in lower case, and of several headers with one name the first counts.
-/

set_option autoImplicit false

namespace RowGuard.Http

/-- Headers in the order received, with their names in lower case. -/
abbrev Headers := List (String × List UInt8)

/-- A name in lower case. -/
def lowered (name : String) : String := String.ofList (name.toList.map Char.toLower)

/-- The first value under a name. -/
def firstValue? (name : String) (headers : Headers) : Option (List UInt8) :=
  (headers.find? fun h => h.1 == name).map Prod.snd

/-- Whether a byte may stand in a readable value: a tab, or a character of ASCII that shows. -/
def isReadable (b : UInt8) : Bool := b == 9 || (32 ≤ b && b < 127)

/-- The text of a header value, if all of it is readable. -/
def readable? (value : List UInt8) : Option (List Char) :=
  if value.all isReadable then some (value.map fun b => Char.ofNat b.toNat) else none

/-- **A request.** -/
structure Request where
  method : String
  /-- The path with its query, or the whole address. -/
  uri : String
  headers : Headers
  body : String

/-- The content of a response. -/
inductive Content where
  | empty
  | json (v : Json)
  /-- A plain text that explains a refusal. -/
  | text (s : String)

/-- **A response.** -/
structure Response where
  status : Nat
  headers : List (String × String)
  content : Content

namespace Content

/-- The media type of a content. -/
def mediaType? : Content → Option String
  | empty => none
  | json _ => some "application/json"
  | text _ => some "text/plain; charset=utf-8"

end Content

/-- A response with a content and its media type. -/
def Response.of (status : Nat) (content : Content) : Response :=
  ⟨status, (content.mediaType?.map fun type => ("content-type", type)).toList, content⟩

/-- The response without its content. -/
def Response.withoutContent (r : Response) : Response := { r with content := .empty }

/-- The response with more headers. -/
def Response.withHeaders (r : Response) (headers : List (String × String)) : Response :=
  { r with headers := r.headers ++ headers }

end RowGuard.Http
