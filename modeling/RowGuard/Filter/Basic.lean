import RowGuard.Subject

/-!
# Filters

A filter is a predicate on subjects: constants, comparisons of a field with a value, conjunctions,
disjunctions and negations. The two connectives are treated alike through `Connective`, so that each
law is stated once. `Filter.all`, `any`, `and`, `or` and `not` build simplified filters:

* `Filter.combine`: drops neutral parts, stops at an absorbing one, takes the parts of an inner
  filter of the same connective and leaves out repeated parts
* `Filter.not`: negates constants and comparisons in place and undoes a negation
* `Filter.admits`: the meaning, in two-valued logic; a missing field equals nothing
-/

set_option autoImplicit false

namespace RowGuard

/-- How a field is compared with a value. -/
inductive Comparison where
  /-- The field is present and agrees with the value. -/
  | eq
  /-- The field is absent or does not agree with the value. -/
  | ne
  deriving DecidableEq

namespace Comparison

/-- The written name. -/
def name : Comparison → String
  | eq => "eq"
  | ne => "ne"

/-- The comparison with a written name. -/
def ofName? : String → Option Comparison
  | "eq" => some eq
  | "ne" => some ne
  | _ => none

/-- The other comparison. -/
def flip : Comparison → Comparison
  | eq => ne
  | ne => eq

/-- Whether a field, if present, passes the comparison with a value. -/
def holds (op : Comparison) (actual : Option Json) (value : Json) : Bool :=
  let found := match actual with
    | some v => v.agrees value
    | none => false
  match op with
  | eq => found
  | ne => !found

end Comparison

/-- Conjunction or disjunction. -/
inductive Connective where
  | all
  | any
  deriving DecidableEq

namespace Connective

/-- The truth value of no parts, which is neutral among parts. -/
def neutral : Connective → Bool
  | all => true
  | any => false

/-- The truth value of two parts. -/
def join : Connective → Bool → Bool → Bool
  | all, a, b => a && b
  | any, a, b => a || b

end Connective

/-- **A predicate on subjects.** -/
inductive Filter where
  | const (b : Bool)
  | test (op : Comparison) (field : String) (value : Json)
  | join (c : Connective) (parts : List Filter)
  | negate (inner : Filter)
  deriving Inhabited

namespace Filter

/-- The filter every subject passes. -/
def pass : Filter := const true

/-- The filter no subject passes. -/
def fail : Filter := const false

/-- The field is present and agrees with the value. -/
def eq (field : String) (value : Json) : Filter := test .eq field value

/-- The field is absent or does not agree with the value. -/
def ne (field : String) (value : Json) : Filter := test .ne field value

mutual

/-- Equality of structure, with the values compared by structure. -/
def same : Filter → Filter → Bool
  | const a, const b => a == b
  | test p f v, test q g w => p == q && f == g && v.same w
  | join c fs, join d gs => c == d && sameList fs gs
  | negate f, negate g => same f g
  | _, _ => false

/-- `same`, part by part. -/
def sameList : List Filter → List Filter → Bool
  | [], [] => true
  | f :: fs, g :: gs => same f g && sameList fs gs
  | _, _ => false

end

/-- The parts with one more at the end, unless it is there already. -/
def pushNew (parts : List Filter) (f : Filter) : List Filter :=
  if parts.any fun g => g.same f then parts else parts ++ [f]

/-- **The parts of a combination** of filters, gathered after `parts`; none when one of the filters
is absorbing. -/
def gather (c : Connective) (parts : List Filter) : List Filter → Option (List Filter)
  | [] => some parts
  | const b :: rest => if b = c.neutral then gather c parts rest else none
  | join d inner :: rest =>
    if d = c then gather c (inner.foldl pushNew parts) rest
    else gather c (pushNew parts (join d inner)) rest
  | f :: rest => gather c (pushNew parts f) rest

/-- **The simplified combination** of filters. -/
def combine (c : Connective) (fs : List Filter) : Filter :=
  match gather c [] fs with
  | none => const !c.neutral
  | some [] => const c.neutral
  | some [f] => f
  | some parts => join c parts

/-- Passes what passes every one of the filters. -/
def all (fs : List Filter) : Filter := combine .all fs

/-- Passes what passes some of the filters. -/
def any (fs : List Filter) : Filter := combine .any fs

/-- Passes what passes both filters. -/
def and (f g : Filter) : Filter := all [f, g]

/-- Passes what passes one of the filters. -/
def or (f g : Filter) : Filter := any [f, g]

/-- **Passes what the filter does not.** -/
def not : Filter → Filter
  | const b => const !b
  | test op field value => test op.flip field value
  | negate f => f
  | join c parts => negate (join c parts)

/-- Whether the filter is the constant true. -/
def isPass : Filter → Bool
  | const true => true
  | _ => false

/-- Whether the filter is the constant false. -/
def isFail : Filter → Bool
  | const false => true
  | _ => false

mutual

/-- **The meaning of a filter** on named fields. -/
def holds (field : String → Option Json) : Filter → Bool
  | const b => b
  | test op name value => op.holds (field name) value
  | join c parts => holdsJoin field c parts
  | negate f => !holds field f

/-- The meaning of the parts under a connective. -/
def holdsJoin (field : String → Option Json) (c : Connective) : List Filter → Bool
  | [] => c.neutral
  | f :: rest => c.join (holds field f) (holdsJoin field c rest)

end

/-- Whether a subject passes the filter. -/
def admits {α : Type} [Subject α] (f : Filter) (s : α) : Bool := f.holds (Subject.field s)

end Filter

end RowGuard
