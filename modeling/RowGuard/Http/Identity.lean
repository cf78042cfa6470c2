import RowGuard.Http.Message
import RowGuard.Subject
import RowGuard.Text.Blank
import RowGuard.Text.Numeral

/-!
# Who sends a request

Three headers name the caller: an identifier, a role and an address. Without the first one the
request is anonymous, whatever the others hold. The headers are looked at in this order and the
first fault is reported.
-/

set_option autoImplicit false

namespace RowGuard.Http

/-- The header with the caller's identifier. -/
def userIdHeader : String := "x-user-id"

/-- The header with the caller's role. -/
def userRoleHeader : String := "x-user-role"

/-- The header with the caller's address. -/
def userEmailHeader : String := "x-user-email"

/-- Why the headers name no caller. -/
inductive IdentityFault where
  /-- A header that is not readable. -/
  | unreadable (header : String)
  /-- An identifier that is no numeral or too large. -/
  | userId (text : String)
  | role (text : String)
  deriving DecidableEq

/-- The wording of an identity fault. -/
def IdentityFault.message : IdentityFault → String
  | unreadable header => "Header " ++ header ++ " is not valid UTF-8"
  | userId text => "Invalid user id: " ++ text
  | role text => "Unknown role: " ++ text

/-- The text of a header, if the header is there. -/
def headerText (name : String) (headers : Headers) : Except IdentityFault (Option (List Char)) :=
  match firstValue? name headers with
  | none => .ok none
  | some value =>
    match readable? value with
    | some cs => .ok (some cs)
    | none => .error (.unreadable name)

/-- The identifier in a header text, blanks around it aside. -/
def readUserId (cs : List Char) : Except IdentityFault Int64 :=
  match idOfText? (trimBlanks cs) with
  | some id => .ok id
  | none => .error (.userId (String.ofList cs))

/-- The role in a header text, blanks around it aside; without the header an ordinary user's. -/
def readRole : Option (List Char) → Except IdentityFault Role
  | none => .ok .user
  | some cs =>
    match Role.parse (String.ofList (trimBlanks cs)) with
    | .ok r => .ok r
    | .error _ => .error (.role (String.ofList cs))

/-- **The caller that the headers name**, none for an anonymous request. -/
def identify (headers : Headers) : Except IdentityFault (Option Caller) := do
  match ← headerText userIdHeader headers with
  | none => return none
  | some raw =>
    let id ← readUserId raw
    let role ← readRole (← headerText userRoleHeader headers)
    let email ← headerText userEmailHeader headers
    return some { Caller.new id role with email := email.map String.ofList }

end RowGuard.Http
