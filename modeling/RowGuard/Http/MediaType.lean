import RowGuard.Http.Message

/-!
# Media types

A media type is a type, a subtype and parameters. JSON is announced by `application/json` or by any
other `application` subtype with the suffix `+json`, in any case of the letters.
-/

set_option autoImplicit false

namespace RowGuard.Http

/-- Whether a character may stand in a bare word of a header. -/
def isWordChar (c : Char) : Bool := c.isAlphanum || "!#$%&'*+-.^_\x60|~".toList.contains c

/-- Whether a character may stand between quotes, apart from a quote. -/
def isQuotedChar (c : Char) : Bool := ' ' ≤ c && c.toNat != 127

/-- The text after the value of a parameter. The first character after an opening quote belongs to
the value even if it is a quote; the next quote closes it. -/
def afterParameterValue : List Char → Option (List Char)
  | '"' :: first :: rest =>
    if !isQuotedChar first then none
    else
      match rest.dropWhile fun c => isQuotedChar c && c != '"' with
      | '"' :: rest =>
        match rest.dropWhile (· == ' ') with
        | [] => some []
        | ';' :: rest => some rest
        | _ => none
      | _ => none
  | cs =>
    match cs.takeWhile isWordChar, cs.dropWhile isWordChar with
    | _, [] => some []
    | [], _ => none
    | _, ';' :: rest => some rest
    | _, _ => none

/-- Whether the text after a semicolon is a list of parameters. Fuel is bounded by its length. -/
def areParameters : Nat → List Char → Bool
  | 0, _ => true
  | fuel + 1, cs =>
    match cs.dropWhile (· == ' ') with
    | [] => true
    | cs =>
      match cs.takeWhile isWordChar, cs.dropWhile isWordChar with
      | _ :: _, '=' :: rest =>
        match afterParameterValue rest with
        | some rest => areParameters fuel rest
        | none => false
      | _, _ => false

/-- The part of a subtype before its last plus sign, and the suffix after it. A plus sign at the
start is part of the name. -/
def splitSuffix (subtype : List Char) : List Char × Option (List Char) :=
  let tail := subtype.reverse.takeWhile (· != '+')
  let name := (subtype.take (subtype.length - tail.length)).dropLast
  if name.isEmpty then (subtype, none) else (name, some tail.reverse)

/-- Whether a type and subtype announce JSON. -/
def announcesJson (type subtype : List Char) : Bool :=
  let json := "json".toList
  let (name, suffix) := splitSuffix (subtype.map Char.toLower)
  type.map Char.toLower == "application".toList && (name == json || suffix == some json)

/-- **Whether a text is a media type that announces JSON.** -/
def isJsonType (cs : List Char) : Bool :=
  match cs.takeWhile isWordChar, cs.dropWhile isWordChar with
  | _ :: _, '/' :: rest =>
    let type := cs.takeWhile isWordChar
    let subtype := rest.takeWhile isWordChar
    match subtype, rest.dropWhile isWordChar with
    | _, [] => announcesJson type subtype
    | _ :: _, ';' :: params => areParameters params.length params && announcesJson type subtype
    | _, _ => false
  | _, _ => false

/-- **Whether a request announces a JSON body.** -/
def announcesJsonBody (headers : Headers) : Bool :=
  match (firstValue? "content-type" headers).bind readable? with
  | some cs => isJsonType cs
  | none => false

end RowGuard.Http
