import RowGuard.Query

/-!
# Aggregates over stored numbers

Only the numbers in a field count; over none of them every aggregate is null.

* `sumOf`: exact while every number and every partial sum fits a signed 64-bit word, and otherwise
  the doubles added up from first to last; null when that sum overflows
* `averageOf`: the sum of the doubles by their count
* `extremeOf`: the first number that none beats, compared as doubles
-/

set_option autoImplicit false

namespace RowGuard

/-- The numbers in a field, in the order of the records. -/
def numbersIn (field : String) (rs : List Record) : List Number :=
  rs.filterMap fun r =>
    match r.data.get? field with
    | some (.number n) => some n
    | _ => none

/-- A number as a double. -/
def Number.toDouble? : Number → Option Double
  | int n => Double.ofInt? n
  | double d => some d

/-- The exact sum, as long as everything fits a signed 64-bit word. -/
def exactSum? : Int → List Number → Option Int
  | total, [] => some total
  | total, n :: rest =>
    match n.signed? with
    | none => none
    | some v =>
      if -0x8000000000000000 ≤ total + v ∧ total + v < 0x8000000000000000 then exactSum? (total + v) rest
      else none

/-- The doubles added up from first to last; none once a sum overflows. -/
def doubleSum? (ns : List Number) : Option Double :=
  ns.foldl (fun acc n => do (← acc).add? (← n.toDouble?)) (some (.zero true))

/-- A double as a value, or null in its absence. -/
def Json.ofDouble? : Option Double → Json
  | some d => .number (.double d)
  | none => .null

/-- **The sum of the numbers.** -/
def sumOf (ns : List Number) : Json :=
  match exactSum? 0 ns with
  | some total => .int total
  | none => .ofDouble? (doubleSum? ns)

/-- **The average of the numbers.** -/
def averageOf (ns : List Number) : Json :=
  .ofDouble? ((doubleSum? ns).bind fun d => d.divCount? ns.length)

/-- The number that is left when each later one that beats it takes its place. -/
def extremeFrom (beats : Int → Int → Bool) (best : Number) : List Number → Number
  | [] => best
  | n :: rest => extremeFrom beats (if beats n.units best.units then n else best) rest

/-- **The first number that no other beats**, null over none. -/
def extremeOf (beats : Int → Int → Bool) : List Number → Json
  | [] => .null
  | n :: rest => .number (extremeFrom beats n rest)

/-- **An aggregate over numbers.** -/
def AggregateKind.over (kind : AggregateKind) (ns : List Number) : Json :=
  match ns, kind with
  | [], _ => .null
  | ns, sum => sumOf ns
  | ns, avg => averageOf ns
  | ns, min => extremeOf (fun a b => a < b) ns
  | ns, max => extremeOf (fun a b => b < a) ns

/-- An aggregate over the numbers in a field of records. -/
def Aggregation.over (a : Aggregation) (rs : List Record) : Json :=
  a.kind.over (numbersIn a.field rs)

end RowGuard
