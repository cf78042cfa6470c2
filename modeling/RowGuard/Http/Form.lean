import RowGuard.Json.Token
import RowGuard.Post.Basic

/-!
# Forms

The body of a request that writes a post is a JSON value with a title, a content and a publication
mark: an object of these, or a list of their values in this order. It is read from left to right as
far as the form goes, and the first fault is the one that counts: a text that is no JSON, or a value
that does not fit. The value of an unknown field only has to be well-formed, and nothing after the
form is looked at.
-/

set_option autoImplicit false

namespace RowGuard.Http

/-- What is wrong with a body. -/
inductive BodyFault where
  /-- The text is no JSON. -/
  | malformed
  /-- A value of another kind, a repeated field or a missing one. -/
  | misfit
  deriving DecidableEq

/-- What was read and the characters after it, or the fault. -/
abbrev FormReading (α : Type) := Except BodyFault (α × List Char)

/-- What was read, or malformed text. -/
def wellFormed {α : Type} : Option α → Except BodyFault α
  | some a => .ok a
  | none => .error .malformed

/-- **The fault of a value of another kind.** A scalar has to be well-formed to be a misfit. -/
def wrongKind (cs : List Char) : BodyFault :=
  let token := match cs with
    | '[' :: _ => true
    | '\x7b' :: _ => true
    | '"' :: rest => (Json.scanString rest).isSome
    | 'n' :: rest => (Json.afterWord "ull" rest).isSome
    | 't' :: rest => (Json.afterWord "rue" rest).isSome
    | 'f' :: rest => (Json.afterWord "alse" rest).isSome
    | cs => ((Json.scanNumber cs).bind fun r => r.1.number?).isSome
  if token then .misfit else .malformed

/-- A string. -/
def readString (cs : List Char) : FormReading String :=
  match Json.skipGap cs with
  | '"' :: rest => (wellFormed (Json.scanString rest)).map fun r => (String.ofList r.1, r.2)
  | cs => .error (wrongKind cs)

/-- A truth value. -/
def readBool (cs : List Char) : FormReading Bool :=
  match Json.skipGap cs with
  | 't' :: rest => (wellFormed (Json.afterWord "rue" rest)).map fun r => (true, r)
  | 'f' :: rest => (wellFormed (Json.afterWord "alse" rest)).map fun r => (false, r)
  | cs => .error (wrongKind cs)

/-- A value, or null where it may be null. -/
def readNullable {α : Type} (nullable : Bool) (read : List Char → FormReading α) (cs : List Char) :
    FormReading (Option α) :=
  match nullable, Json.skipGap cs with
  | true, 'n' :: rest => (wellFormed (Json.afterWord "ull" rest)).map fun r => (none, r)
  | _, cs => (read cs).map fun r => (some r.1, r.2)

/-- The characters after a key and its colon. -/
def skipKey (cs : List Char) : Option (List Char) :=
  match Json.skipGap cs with
  | '"' :: rest =>
    match (Json.skipString rest).map Json.skipGap with
    | some (':' :: rest) => some rest
    | _ => none
  | _ => none

mutual

/-- **The characters after a value** that is not wanted. The open lists and objects around it are
given from the inside out, an object as true. Fuel is bounded by the number of characters. -/
def skipValue : Nat → List Bool → List Char → Option (List Char)
  | 0, _, _ => none
  | fuel + 1, enclosing, cs =>
    match Json.skipGap cs with
    | '"' :: rest => (Json.skipString rest).bind (skipOn fuel enclosing)
    | 'n' :: rest => (Json.afterWord "ull" rest).bind (skipOn fuel enclosing)
    | 't' :: rest => (Json.afterWord "rue" rest).bind (skipOn fuel enclosing)
    | 'f' :: rest => (Json.afterWord "alse" rest).bind (skipOn fuel enclosing)
    | '[' :: rest =>
      match Json.skipGap rest with
      | ']' :: rest => skipOn fuel enclosing rest
      | _ => skipValue fuel (false :: enclosing) rest
    | '\x7b' :: rest =>
      match Json.skipGap rest with
      | '\x7d' :: rest => skipOn fuel enclosing rest
      | _ => (skipKey rest).bind (skipValue fuel (true :: enclosing))
    | cs => (Json.scanNumber cs).bind fun r => skipOn fuel enclosing r.2

/-- What follows a value inside of open lists and objects. -/
def skipOn : Nat → List Bool → List Char → Option (List Char)
  | _, [], cs => some cs
  | 0, _ :: _, _ => none
  | fuel + 1, isObject :: outer, cs =>
    match isObject, Json.skipGap cs with
    | false, ',' :: rest => skipValue fuel (false :: outer) rest
    | false, ']' :: rest => skipOn fuel outer rest
    | true, ',' :: rest => (skipKey rest).bind (skipValue fuel (true :: outer))
    | true, '\x7d' :: rest => skipOn fuel outer rest
    | _, _ => none

end

/-- Which fields of a form may be null. The content always may. -/
structure FormShape where
  nullTitle : Bool
  nullPublished : Bool

/-- **What a form holds**: of each field nothing, null or a value. -/
structure PostForm where
  title : Option (Option String)
  content : Option (Option String)
  published : Option (Option Bool)

namespace PostForm

/-- A form with nothing in it. -/
def blank : PostForm := ⟨none, none, none⟩

/-- The fields of a form in order. -/
def fieldNames : List String := ["title", "content", "published"]

/-- Whether a field is in the form already. -/
def holds (form : PostForm) (key : String) : Bool :=
  match key with
  | "title" => form.title.isSome
  | "content" => form.content.isSome
  | "published" => form.published.isSome
  | _ => false

/-- The value of a field, put into the form. -/
def readField (shape : FormShape) (form : PostForm) (key : String) (cs : List Char) :
    FormReading PostForm :=
  match key with
  | "title" =>
    (readNullable shape.nullTitle readString cs).map fun r => ({ form with title := some r.1 }, r.2)
  | "content" =>
    (readNullable true readString cs).map fun r => ({ form with content := some r.1 }, r.2)
  | "published" =>
    (readNullable shape.nullPublished readBool cs).map fun r =>
      ({ form with published := some r.1 }, r.2)
  | _ => (wellFormed (skipValue (cs.length + 1) [] cs)).map fun rest => (form, rest)

/-- The members of an object, from a key on. A repeated field is noticed at its key. Fuel is bounded
by the number of characters. -/
def readMembers (shape : FormShape) : Nat → PostForm → List Char → Except BodyFault PostForm
  | 0, _, _ => .error .malformed
  | fuel + 1, form, cs =>
    match Json.skipGap cs with
    | '"' :: rest => do
      let (name, rest) ← wellFormed (Json.scanString rest)
      let key := String.ofList name
      if form.holds key then throw .misfit
      match Json.skipGap rest with
      | ':' :: rest =>
        let (form, rest) ← readField shape form key rest
        match Json.skipGap rest with
        | ',' :: rest => readMembers shape fuel form rest
        | '\x7d' :: _ => return form
        | _ => throw .malformed
      | _ => throw .malformed
    | _ => .error .malformed

/-- The elements of a list, from a value on. -/
def readElements (shape : FormShape) : List String → PostForm → List Char →
    Except BodyFault PostForm
  | [], _, _ => .error .malformed
  | key :: keys, form, cs => do
    let (form, rest) ← readField shape form key cs
    match Json.skipGap rest with
    | ',' :: rest => readElements shape keys form rest
    | ']' :: _ => return form
    | _ => throw .malformed

/-- **Reads a form** from the start of a body. -/
def read (shape : FormShape) (body : String) : Except BodyFault PostForm :=
  match Json.skipGap body.toList with
  | '\x7b' :: rest =>
    match Json.skipGap rest with
    | '\x7d' :: _ => .ok blank
    | rest => readMembers shape (rest.length + 1) blank rest
  | '[' :: rest =>
    match Json.skipGap rest with
    | ']' :: _ => .ok blank
    | rest => readElements shape fieldNames blank rest
  | cs => .error (wrongKind cs)

end PostForm

/-- **The new post in a body.** The title must be there. -/
def newPostOf (body : String) : Except BodyFault NewPost := do
  let form ← PostForm.read ⟨false, false⟩ body
  match form.title.join with
  | some title => return ⟨title, form.content.join, form.published.join.getD false⟩
  | none => throw .misfit

/-- **The changes in a body.** -/
def postChangesOf (body : String) : Except BodyFault PostChanges := do
  let form ← PostForm.read ⟨true, true⟩ body
  return ⟨form.title.join, form.content.join, form.published.join⟩

end RowGuard.Http
