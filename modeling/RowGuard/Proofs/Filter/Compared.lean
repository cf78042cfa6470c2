import RowGuard.Rule.Basic

/-!
# What a filter asks of a subject

A filter is decided by its comparisons: subjects on which each of them comes out alike pass or fail
together, and so do subjects that have the compared fields in common.

* `Filter.tests`: the comparisons of a filter, and `Filter.holds_congr_of_tests`
* `Filter.compared`: the names of the compared fields, and `Filter.holds_congr`
-/

set_option autoImplicit false

namespace RowGuard

namespace Filter

mutual

/-- The names of the fields that a filter compares, at any depth. -/
def compared : Filter → List String
  | const _ => []
  | test _ field _ => [field]
  | join _ parts => comparedList parts
  | negate f => compared f

/-- `compared`, part by part. -/
def comparedList : List Filter → List String
  | [] => []
  | f :: rest => compared f ++ comparedList rest

end

mutual

/-- The comparisons of a filter, at any depth. -/
def tests : Filter → List Predicate
  | const _ => []
  | test op field value => [⟨field, op, value⟩]
  | join _ parts => testsList parts
  | negate f => tests f

/-- `tests`, part by part. -/
def testsList : List Filter → List Predicate
  | [] => []
  | f :: rest => tests f ++ testsList rest

end

mutual

/-- The compared fields are those of the comparisons. -/
theorem compared_eq (f : Filter) : f.compared = f.tests.map Predicate.field := by
  match f with
  | const b => rfl
  | test op name value => rfl
  | join c parts => exact comparedList_eq parts
  | negate g => exact compared_eq g

/-- `compared_eq`, part by part. -/
theorem comparedList_eq (fs : List Filter) :
    comparedList fs = (testsList fs).map Predicate.field := by
  match fs with
  | [] => rfl
  | f :: rest =>
    rw [comparedList, testsList, List.map_append, compared_eq f, comparedList_eq rest]

end

variable {field field' : String → Option Json}

mutual

/-- **A filter is decided by its comparisons**, and by nothing else. -/
theorem holds_congr_of_tests (f : Filter)
    (h : ∀ t ∈ f.tests, t.toFilter.holds field = t.toFilter.holds field') :
    f.holds field = f.holds field' := by
  match f with
  | const b => rfl
  | test op name value => exact h ⟨name, op, value⟩ (List.mem_singleton_self _)
  | join c parts => exact holdsJoin_congr_of_tests c parts h
  | negate g => rw [holds, holds, holds_congr_of_tests g h]

/-- `holds_congr_of_tests`, part by part. -/
theorem holdsJoin_congr_of_tests (c : Connective) (fs : List Filter)
    (h : ∀ t ∈ testsList fs, t.toFilter.holds field = t.toFilter.holds field') :
    holdsJoin field c fs = holdsJoin field' c fs := by
  match fs with
  | [] => rfl
  | f :: rest =>
    rw [testsList, List.forall_mem_append] at h
    rw [holdsJoin, holdsJoin, holds_congr_of_tests f h.1, holdsJoin_congr_of_tests c rest h.2]

end

/-- **A filter reads what it compares**, and nothing else. -/
theorem holds_congr (f : Filter) (h : ∀ name ∈ f.compared, field name = field' name) :
    f.holds field = f.holds field' := by
  refine holds_congr_of_tests f fun t ht => ?_
  have hname : t.field ∈ f.compared := by
    rw [compared_eq]
    exact List.mem_map_of_mem ht
  rw [Predicate.toFilter, holds, holds, h t.field hname]

/-- Subjects on which each comparison comes out alike pass or fail together. -/
theorem admits_congr {α β : Type} [Subject α] [Subject β] {x : α} {y : β} (f : Filter)
    (h : ∀ t ∈ f.tests, t.toFilter.admits x = t.toFilter.admits y) : f.admits x = f.admits y :=
  holds_congr_of_tests f h

end Filter

end RowGuard
