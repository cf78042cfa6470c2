import RowGuard.Proofs.Filter.Compared

/-!
# Filters under another equality of values

A database that decides a filter compares values by an equality of its own. The filter has the same
meaning under both equalities if its comparisons have, each with the one value that it reads.

* `Filter.holdsBy`: the meaning of a filter under an equality of values
* `Filter.holdsBy_congr`: two equalities that tell no difference in the comparisons made
* `Filter.ComparesBy`: an equality that is as good as the one of filters
-/

set_option autoImplicit false

namespace RowGuard

/-- Whether a field, if present, passes the comparison with a value, under an equality of values. -/
def Comparison.holdsBy (equal : Json → Json → Bool) (op : Comparison) (actual : Option Json)
    (value : Json) : Bool :=
  let found := match actual with
    | some v => equal v value
    | none => false
  match op with
  | eq => found
  | ne => !found

/-- A comparison depends on the equality in one place only. -/
theorem Comparison.holdsBy_congr {equal equal' : Json → Json → Bool} {actual : Option Json}
    {value : Json} (op : Comparison)
    (h : ∀ v, actual = some v → equal v value = equal' v value) :
    op.holdsBy equal actual value = op.holdsBy equal' actual value := by
  cases actual with
  | none => rfl
  | some v => simp only [holdsBy, h v rfl]

/-- Comparisons under two equalities come out alike only if the equalities do. -/
theorem Comparison.equal_of_holdsBy {equal equal' : Json → Json → Bool} {v value : Json}
    {op : Comparison} (h : op.holdsBy equal (some v) value = op.holdsBy equal' (some v) value) :
    equal v value = equal' v value := by
  cases op with
  | eq => exact h
  | ne => exact Bool.not_inj h

namespace Filter

mutual

/-- **The meaning of a filter** on named fields, under an equality of values. -/
def holdsBy (equal : Json → Json → Bool) (field : String → Option Json) : Filter → Bool
  | const b => b
  | test op name value => op.holdsBy equal (field name) value
  | join c parts => holdsJoinBy equal field c parts
  | negate f => !holdsBy equal field f

/-- The meaning of the parts under a connective. -/
def holdsJoinBy (equal : Json → Json → Bool) (field : String → Option Json) (c : Connective) :
    List Filter → Bool
  | [] => c.neutral
  | f :: rest => c.join (holdsBy equal field f) (holdsJoinBy equal field c rest)

end

variable {equal equal' : Json → Json → Bool} {field : String → Option Json}

mutual

/-- **Two equalities** that do not differ in the comparisons made give a filter one meaning. -/
theorem holdsBy_congr (f : Filter) (h : ∀ t ∈ f.tests, ∀ v, field t.field = some v →
    equal v t.value = equal' v t.value) : f.holdsBy equal field = f.holdsBy equal' field := by
  match f with
  | const b => rfl
  | test op name value => exact op.holdsBy_congr (h ⟨name, op, value⟩ (List.mem_singleton_self _))
  | join c parts => exact holdsJoinBy_congr c parts h
  | negate g => rw [holdsBy, holdsBy, holdsBy_congr g h]

/-- `holdsBy_congr`, part by part. -/
theorem holdsJoinBy_congr (c : Connective) (fs : List Filter)
    (h : ∀ t ∈ testsList fs, ∀ v, field t.field = some v →
      equal v t.value = equal' v t.value) :
    holdsJoinBy equal field c fs = holdsJoinBy equal' field c fs := by
  match fs with
  | [] => rfl
  | f :: rest =>
    rw [testsList, List.forall_mem_append] at h
    rw [holdsJoinBy, holdsJoinBy, holdsBy_congr f h.1, holdsJoinBy_congr c rest h.2]

end

mutual

/-- The meaning of a filter is the one under agreement of values. -/
theorem holdsBy_agrees (f : Filter) : f.holdsBy Json.agrees field = f.holds field := by
  match f with
  | const _ | test _ _ _ => rfl
  | join c parts => exact holdsJoinBy_agrees c parts
  | negate g => rw [holdsBy, holds, holdsBy_agrees g]

/-- `holdsBy_agrees`, part by part. -/
theorem holdsJoinBy_agrees (c : Connective) (fs : List Filter) :
    holdsJoinBy Json.agrees field c fs = holdsJoin field c fs := by
  match fs with
  | [] => rfl
  | f :: rest => rw [holdsJoinBy, holdsJoin, holdsBy_agrees f, holdsJoinBy_agrees c rest]

end

/-- **An equality that a filter can be compared by**: it takes each value that the filter reads as
agreement does. -/
def ComparesBy (equal : Json → Json → Bool) (field : String → Option Json) (f : Filter) : Prop :=
  ∀ t ∈ f.tests, ∀ v, field t.field = some v → equal v t.value = v.agrees t.value

/-- Under such an equality a filter keeps its meaning. -/
theorem ComparesBy.holdsBy_eq {f : Filter} (h : f.ComparesBy equal field) :
    f.holdsBy equal field = f.holds field := (f.holdsBy_congr h).trans f.holdsBy_agrees

end Filter

end RowGuard
