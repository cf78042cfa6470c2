import RowGuard.Json.Token

/-!
# Reading a JSON text

`Json.read?` reads a whole text: one value with nothing after it but gaps. The readers below it take
fuel, which the number of characters bounds, since each of them consumes a character before it
calls another.
-/

set_option autoImplicit false

namespace RowGuard.Json

mutual

/-- A value at the start of the characters, and the characters after it. -/
def readValue (fuel : Nat) (cs : List Char) : Option (Json × List Char) :=
  match fuel with
  | 0 => none
  | fuel + 1 =>
    match skipGap cs with
    | '"' :: rest => (scanString rest).map fun r => (string (String.ofList r.1), r.2)
    | '[' :: rest =>
      match skipGap rest with
      | ']' :: rest => some (array [], rest)
      | _ => (readElements fuel rest).map fun r => (array r.1, r.2)
    | '\x7b' :: rest =>
      match skipGap rest with
      | '\x7d' :: rest => some (object [], rest)
      | _ => (readMembers fuel rest).map fun r => (object (Keyed.ofPairs r.1), r.2)
    | 'n' :: rest => (afterWord "ull" rest).map fun r => (null, r)
    | 't' :: rest => (afterWord "rue" rest).map fun r => (bool true, r)
    | 'f' :: rest => (afterWord "alse" rest).map fun r => (bool false, r)
    | cs => do
      let (literal, rest) ← scanNumber cs
      let n ← literal.number?
      return (number n, rest)

/-- The elements of an array up to its closing bracket. -/
def readElements (fuel : Nat) (cs : List Char) : Option (List Json × List Char) :=
  match fuel with
  | 0 => none
  | fuel + 1 => do
    let (v, rest) ← readValue fuel cs
    match skipGap rest with
    | ',' :: rest =>
      let (vs, rest) ← readElements fuel rest
      return (v :: vs, rest)
    | ']' :: rest => return ([v], rest)
    | _ => none

/-- The members of an object up to its closing brace, in the order written. -/
def readMembers (fuel : Nat) (cs : List Char) : Option (List (String × Json) × List Char) :=
  match fuel with
  | 0 => none
  | fuel + 1 =>
    match skipGap cs with
    | '"' :: rest => do
      let (key, rest) ← scanString rest
      match skipGap rest with
      | ':' :: rest =>
        let (v, rest) ← readValue fuel rest
        let member := (String.ofList key, v)
        match skipGap rest with
        | ',' :: rest =>
          let (ms, rest) ← readMembers fuel rest
          return (member :: ms, rest)
        | '\x7d' :: rest => return ([member], rest)
        | _ => none
      | _ => none
    | _ => none

end

/-- **Reads a whole text** as one value. -/
def read? (text : String) : Option Json := do
  let cs := text.toList
  let (v, rest) ← readValue (cs.length + 1) cs
  if (skipGap rest).isEmpty then some v else none

end RowGuard.Json
