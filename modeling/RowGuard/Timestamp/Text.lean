import RowGuard.Timestamp.Basic

/-!
# Writing dates and times

The form is `YYYY-MM-DDTHH:MM:SS` with a fraction of three, six or nine digits, the fewest that lose
nothing, and none for a whole second. Years outside 0 to 9999 are signed. UTC is written `+00:00` in
stored fields and `Z` in published ones.
-/

set_option autoImplicit false

namespace RowGuard

/-- A number in at least `width` decimal digits. -/
def padded (width n : Nat) : List Char :=
  let ds := Nat.toDigits 10 n
  List.replicate (width - ds.length) '0' ++ ds

namespace Timestamp

/-- The year: four digits, with a sign outside 0 to 9999. -/
def yearText (year : Int) : List Char :=
  if 0 ≤ year ∧ year ≤ 9999 then padded 4 year.toNat
  else (if year < 0 then '-' else '+') :: padded 4 year.natAbs

/-- The fraction of a second, in as few of 0, 3, 6 or 9 digits as lose nothing. -/
def fractionText (nano : Nat) : List Char :=
  if nano = 0 then []
  else if nano % 1000000 = 0 then '.' :: padded 3 (nano / 1000000)
  else if nano % 1000 = 0 then '.' :: padded 6 (nano / 1000)
  else '.' :: padded 9 nano

/-- The date and time without its zone. -/
def bareText (t : Timestamp) : List Char :=
  yearText t.date.year ++ '-' :: padded 2 t.date.month ++ '-' :: padded 2 t.date.day ++
    'T' :: padded 2 t.hour ++ ':' :: padded 2 t.minute ++ ':' :: padded 2 t.second ++
    fractionText t.nano

/-- **The text in stored fields.** -/
def storedText (t : Timestamp) : String := String.ofList (t.bareText ++ "+00:00".toList)

/-- **The text in published posts.** -/
def publicText (t : Timestamp) : String := String.ofList (t.bareText ++ ['Z'])

end Timestamp

end RowGuard
