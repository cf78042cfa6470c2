import RowGuard.Codec.Fields
import RowGuard.Rule.Policy
import RowGuard.Store.Basic
import RowGuard.Timestamp.Reader

/-!
# Posts

A `Post` is the typed reading of a stored row. It is a subject with the fields of that row, except
that a content nobody supplied, which the row lacks, is a field with null in the post. `NewPost` and
`PostChanges` are what a caller supplies for one.

* `Post.ofFields`: reads a row, or says which field is at fault
-/

set_option autoImplicit false

namespace RowGuard

/-- The fault of a value of another kind. -/
def otherKind {α : Type} (wanted : String) (found : Json) : Except DecodeFault α :=
  .error (.kind found wanted)

namespace Json

/-- A string, or what was found instead. -/
def wantString : Json → Except DecodeFault String
  | string s => .ok s
  | v => otherKind "a string" v

/-- A string or null, or what was found instead. -/
def wantNullableString : Json → Except DecodeFault (Option String)
  | null => .ok none
  | v => (wantString v).map some

/-- A truth value, or what was found instead. -/
def wantBool : Json → Except DecodeFault Bool
  | bool b => .ok b
  | v => otherKind "a boolean" v

/-- An identifier, or what was found instead. -/
def wantId : Json → Except DecodeFault Int64
  | number (.int n) =>
    match idOfInt? n with
    | some id => .ok id
    | none => .error (.range (int n) "i64")
  | v => otherKind "i64" v

/-- A date and time, or what was found instead. -/
def wantTimestamp : Json → Except DecodeFault Timestamp
  | string s =>
    match Timestamp.parse s with
    | .ok t => .ok t
    | .error fault => .error (.timestamp fault)
  | v => otherKind "an RFC 3339 formatted date and time string" v

end Json

/-- **A post.** -/
structure Post where
  id : Int64
  title : String
  content : Option String
  published : Bool
  authorId : Int64
  createdAt : Timestamp
  updatedAt : Timestamp
  deriving DecidableEq

/-- Text that may be absent, as a value. -/
def Json.ofString? : Option String → Json
  | some s => .string s
  | none => .null

namespace Post

/-- The fields of a post by the names of a stored row. -/
def field (p : Post) : String → Option Json
  | "id" => some (.ofId p.id)
  | "title" => some (.string p.title)
  | "content" => some (.ofString? p.content)
  | "published" => some (.bool p.published)
  | "authorId" => some (.ofId p.authorId)
  | "createdAt" => some (.ofTimestamp p.createdAt)
  | "updatedAt" => some (.ofTimestamp p.updatedAt)
  | _ => none

instance : Subject Post where
  subjectType _ := .post
  field := field

/-- A post in JSON. -/
def toJson (p : Post) : Json :=
  .object [("authorId", .ofId p.authorId), ("content", .ofString? p.content),
    ("createdAt", .string p.createdAt.publicText), ("id", .ofId p.id),
    ("published", .bool p.published), ("title", .string p.title),
    ("updatedAt", .string p.updatedAt.publicText)]

/-- Whether a field that is there is fit for a post. Unknown fields are. -/
def checkField (name : String) (v : Json) : Except DecodeFault Unit :=
  match name with
  | "id" | "authorId" => (v.wantId).map fun _ => ()
  | "title" => (v.wantString).map fun _ => ()
  | "content" => (v.wantNullableString).map fun _ => ()
  | "published" => (v.wantBool).map fun _ => ()
  | "createdAt" | "updatedAt" => (v.wantTimestamp).map fun _ => ()
  | _ => .ok ()

/-- A field that must be there. -/
def needed {α : Type} (name : String) (want : Json → Except DecodeFault α) (fields : Fields) :
    Except DecodeFault α :=
  match fields.get? name with
  | some v => want v
  | none => .error (.missing name)

/-- A field that stands for `fallback` when it is left out. -/
def orElse {α : Type} (name : String) (fallback : α) (want : Json → Except DecodeFault α)
    (fields : Fields) : Except DecodeFault α :=
  match fields.get? name with
  | some v => want v
  | none => .ok fallback

/-- **Reads a row as a post.** The fields that are there are looked at first, in key order, and the
first one at fault is reported; then the first one that is missing, in order of declaration. -/
def ofFields (fields : Fields) : Except DecodeFault Post := do
  fields.forM fun p => checkField p.1 p.2
  let id ← needed "id" Json.wantId fields
  let title ← needed "title" Json.wantString fields
  let content ← orElse "content" none Json.wantNullableString fields
  let published ← orElse "published" false Json.wantBool fields
  let authorId ← needed "authorId" Json.wantId fields
  let createdAt ← needed "createdAt" Json.wantTimestamp fields
  let updatedAt ← needed "updatedAt" Json.wantTimestamp fields
  return ⟨id, title, content, published, authorId, createdAt, updatedAt⟩

/-- An element that must be there. -/
def neededAt {α : Type} (i : Nat) (want : Json → Except DecodeFault α) (elems : List Json) :
    Except DecodeFault α :=
  match elems[i]? with
  | some v => want v
  | none => .error (.size i "struct Post with 7 elements")

/-- An element that stands for `fallback` when the list ends before it. -/
def orElseAt {α : Type} (i : Nat) (fallback : α) (want : Json → Except DecodeFault α)
    (elems : List Json) : Except DecodeFault α :=
  match elems[i]? with
  | some v => want v
  | none => .ok fallback

/-- **Reads a list of values as a post**, in order of declaration. The first value that is at fault
or missing is reported, and after all of them a list that goes on. -/
def ofList (elems : List Json) : Except DecodeFault Post := do
  let id ← neededAt 0 Json.wantId elems
  let title ← neededAt 1 Json.wantString elems
  let content ← orElseAt 2 none Json.wantNullableString elems
  let published ← orElseAt 3 false Json.wantBool elems
  let authorId ← neededAt 4 Json.wantId elems
  let createdAt ← neededAt 5 Json.wantTimestamp elems
  let updatedAt ← neededAt 6 Json.wantTimestamp elems
  if 7 < elems.length then throw (.size elems.length "fewer elements in array")
  return ⟨id, title, content, published, authorId, createdAt, updatedAt⟩

/-- Reads a post that is written as an object or as a list of its fields. -/
def ofJson : Json → Except DecodeFault Post
  | .object fields => ofFields fields
  | .array elems => ofList elems
  | v => otherKind "struct Post" v

/-- Reads a record as a post. -/
def ofRecord (r : Record) : Result Post :=
  match ofFields r.data with
  | .ok p => .ok p
  | .error fault => .error (.serialization fault)

end Post

/-- **What a caller supplies for a new post.** -/
structure NewPost where
  title : String
  content : Option String
  published : Bool
  deriving DecidableEq

namespace NewPost

/-- The fields of a new row. -/
def toFields (p : NewPost) : Fields :=
  Json.present "content" (p.content.map .string) ++
    [("published", .bool p.published), ("title", .string p.title)]

/-- A new post in JSON. -/
def toJson (p : NewPost) : Json := .object p.toFields

/-- Reads a new post. -/
def ofJson? (v : Json) : Option NewPost := do
  let fields ← v.members? ["title", "content", "published"]
  let title ← Fields.required "title" Json.asString? fields
  let content ← Fields.optional "content" Json.asString? fields
  let published ← Fields.defaulted "published" false Json.asBool? fields
  return ⟨title, content, published⟩

end NewPost

/-- **Changes to a post**: the fields that are there are replaced. -/
structure PostChanges where
  title : Option String
  content : Option String
  published : Option Bool
  deriving DecidableEq

namespace PostChanges

/-- The changed fields. -/
def toFields (c : PostChanges) : Fields :=
  Json.present "content" (c.content.map .string) ++
    (Json.present "published" (c.published.map .bool) ++
      Json.present "title" (c.title.map .string))

/-- Changes in JSON. -/
def toJson (c : PostChanges) : Json := .object c.toFields

/-- Reads changes. -/
def ofJson? (v : Json) : Option PostChanges := do
  let fields ← v.members? ["title", "content", "published"]
  let title ← Fields.optional "title" Json.asString? fields
  let content ← Fields.optional "content" Json.asString? fields
  let published ← Fields.optional "published" Json.asBool? fields
  return ⟨title, content, published⟩

end PostChanges

end RowGuard
