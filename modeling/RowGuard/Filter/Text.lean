import RowGuard.Filter.Basic

/-!
# The text of a filter

Comparisons read `field == value` or `field != value` with the value as compact JSON, the parts of a
connective stand in parentheses, and a negation reads `!(…)`.
-/

set_option autoImplicit false

namespace RowGuard

/-- The sign of a comparison. -/
def Comparison.sign : Comparison → String
  | eq => " == "
  | ne => " != "

/-- The sign between the parts of a connective. -/
def Connective.sign : Connective → String
  | all => " && "
  | any => " || "

namespace Filter

mutual

/-- **The text of a filter.** -/
def text : Filter → String
  | const b => if b then "true" else "false"
  | test op field value => field ++ op.sign ++ value.text
  | join c parts => "(" ++ c.sign.intercalate (textList parts) ++ ")"
  | negate f => "!(" ++ text f ++ ")"

/-- The texts of the parts. -/
def textList : List Filter → List String
  | [] => []
  | f :: rest => text f :: textList rest

end

end Filter

end RowGuard
