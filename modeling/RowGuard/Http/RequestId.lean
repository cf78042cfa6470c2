import RowGuard.Http.Message
import RowGuard.Text.Numeral

/-!
# Request identifiers

A sender may name its request by a UUID, in any of four spellings and in any case of the letters. It
is echoed in one spelling, with hyphens and in lower case.
-/

set_option autoImplicit false

namespace RowGuard.Http

/-- The header with the identifier of a request. -/
def requestIdHeader : String := "x-request-id"

/-- Whether all characters are hexadecimal digits. -/
def isHexRun (cs : List Char) : Bool := cs.all fun c => (hexValue? c).isSome

/-- Thirty-two hexadecimal digits in groups of 8, 4, 4, 4 and 12. -/
def grouped (cs : List Char) : List Char :=
  cs.take 8 ++ '-' :: (cs.drop 8).take 4 ++ '-' :: (cs.drop 12).take 4 ++
    '-' :: (cs.drop 16).take 4 ++ '-' :: cs.drop 20

/-- The digits of an identifier with hyphens in their places. -/
def hyphenated? (cs : List Char) : Option (List Char) :=
  let digits := cs.filter fun c => c != '-'
  if digits.length = 32 ∧ isHexRun digits ∧ grouped digits = cs then some digits else none

/-- **The digits of an identifier**: bare, or with hyphens, which may stand in braces or after a
scheme. -/
def identifierDigits? (cs : List Char) : Option (List Char) :=
  if cs.length = 32 then
    if isHexRun cs then some cs else none
  else if cs.length = 38 ∧ cs.head? = some '\x7b' ∧ cs.getLast? = some '\x7d' then
    hyphenated? (cs.drop 1).dropLast
  else if cs.length = 45 ∧ (cs.take 9).map Char.toLower = "urn:uuid:".toList then
    hyphenated? (cs.drop 9)
  else hyphenated? cs

/-- **The identifier that a request brings along**, as it is echoed. -/
def requestId? (headers : Headers) : Option String := do
  let cs ← readable? (← firstValue? requestIdHeader headers)
  let digits ← identifierDigits? cs
  return String.ofList (grouped (digits.map Char.toLower))

end RowGuard.Http
