import RowGuard.Guard
import RowGuard.Proofs.Rule.Agreement
import RowGuard.Proofs.Store.Reachable

/-!
# Narrowed queries

The guard narrows a query to the records on which the rules allow its action. On a store in order
the narrowed query is about the rows that pass the caller's own filter and on which the decision is
to allow, so that neither a row is leaked nor one is lost.

* `Guard.admits_narrowed`: what the narrowed filter passes
* `Store.permitted`: the rows a guarded query is about, and `Guard.matching_narrowed`
-/

set_option autoImplicit false

namespace RowGuard

/-- **The rows a caller may act on** with a query that is not about one record: those that pass its
filter and on which the rules allow its action, in order of their identifiers. -/
def Store.permitted (rules : RuleSet) (q : Query) (s : Store) : List Record :=
  ((s.table q.model).rows.map Prod.snd).filter fun r =>
    q.filter.admits r && rules.can q.operation.action r

namespace Guard

variable {rules : RuleSet} {q : Query}

/-- **The narrowed filter** passes what the caller's filter passes and the rules allow. -/
theorem admits_narrowed {r : Record} (h : r.model = q.model) :
    (narrowed rules q).filter.admits r =
      (q.filter.admits r && rules.can q.operation.action r) := by
  have hs : Subject.subjectType r = q.model := h
  simp only [narrowed, Filter.admits_and, RuleSet.admits_filterFor, RuleSet.can, hs]

/-- The rows that a narrowed query matches are the permitted ones. -/
theorem matching_narrowed {s : Store} (h : s.Sound) :
    (s.table q.model).matching (narrowed rules q).filter = s.permitted rules q := by
  unfold Table.matching Store.permitted
  apply List.filter_congr
  intro r hr
  obtain ⟨p, hp, rfl⟩ := List.mem_map.1 hr
  have hrow := (Keyed.get?_eq_some_iff (h q.model).ascending).2 hp
  exact admits_narrowed ((h q.model).filed hrow).2

end Guard

namespace Store

variable {s : Store} {rules : RuleSet} {q : Query}

/-- A row is permitted when it is stored, passes the filter and the rules allow the action. -/
theorem mem_permitted (h : s.Sound) {r : Record} : r ∈ s.permitted rules q ↔
    s.row q.model r.id = some r ∧ q.filter.admits r = true ∧
      rules.can q.operation.action r = true := by
  unfold permitted row
  rw [List.mem_filter, List.mem_map, Bool.and_eq_true]
  refine and_congr_left fun _ => ⟨?_, fun hr => ?_⟩
  · rintro ⟨⟨id, r'⟩, hp, rfl⟩
    have hrow := (Keyed.get?_eq_some_iff (h q.model).ascending).2 hp
    rw [((h q.model).filed hrow).1]; exact hrow
  · exact ⟨(r.id, r), Keyed.mem_of_get? hr, rfl⟩

/-- The permitted rows stand in ascending order of their identifiers. -/
theorem permitted_ascending (h : s.Sound) :
    ((s.permitted rules q).map Record.id).Pairwise (· < ·) := by
  have hids : ((s.table q.model).rows.map Prod.snd).Pairwise fun a b => a.id < b.id := by
    refine List.pairwise_map.2 ((h q.model).ascending.imp_of_mem ?_)
    intro p p' hp hp' hlt
    have hrow := (Keyed.get?_eq_some_iff (h q.model).ascending).2 hp
    have hrow' := (Keyed.get?_eq_some_iff (h q.model).ascending).2 hp'
    rw [((h q.model).filed hrow).1, ((h q.model).filed hrow').1]; exact hlt
  exact List.pairwise_map.2 (hids.filter _)

/-! ## A query alone -/

/-- **A query in a context**, put to a store with nothing else between its questions. The clock
reading is that of the write, for a lookup reads no clock. -/
def executeIn (context : Option RequestContext) (now : Timestamp) (q : Query) (s : Store) :
    Result Output × Store :=
  (guarded (effectiveRules context) q).run (Store.execute now) s

/-- A query that is neither a creation nor about one record is asked once, narrowed. -/
theorem executeIn_bulk (context : Option RequestContext) (now : Timestamp)
    (hc : q.operation ≠ .create) (hb : q.operation.isById = false) :
    s.executeIn context now q = s.execute now (Guard.narrowed (effectiveRules context) q) := by
  unfold executeIn guarded
  rw [if_neg hc, if_neg (Bool.eq_false_iff.1 hb)]
  rfl

end Store

end RowGuard
