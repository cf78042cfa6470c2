import Mathlib.Algebra.Group.Nat.Defs
import RowGuard.Proofs.Store.Reachable

/-!
# Identifiers that were given out

A table gives its rows identifiers by counting. Identifiers are signed 64-bit words, so the count
starts over after `2 ^ 64` rows; until then an identifier is given out once (`Counted.next_free`).

* `Table.Counted`: how many identifiers a table has given out, and that its rows have such ones
* `Store.Counted.execute`: a query counts the rows it makes
-/

set_option autoImplicit false

namespace RowGuard

/-- **A table that has given out `n` identifiers**, from 1 on, one of them for each of its rows. -/
structure Table.Counted (t : Table) (n : Nat) : Prop where
  last : t.lastId = Int64.ofNat n
  given : ∀ {id r}, t.rows.get? id = some r → ∃ k, 1 ≤ k ∧ k ≤ n ∧ id = Int64.ofNat k

/-- Counts that give one identifier are the same modulo `2 ^ 64`. -/
theorem mod_eq_of_ofNat_eq {a b : Nat} (h : Int64.ofNat a = Int64.ofNat b) :
    a % 2 ^ 64 = b % 2 ^ 64 := by
  have hb := congrArg (fun x => x.toBitVec.toNat) h
  simpa using hb

/-- How many rows a query makes. -/
def Query.makes (q : Query) : Nat := if q.operation = .create ∧ q.data.isSome then 1 else 0

theorem Query.makes_le (q : Query) : q.makes ≤ 1 := by unfold makes; split <;> omega

namespace Table.Counted

variable {t : Table} {n : Nat}

/-- **The next identifier is free** until the count has started over. -/
theorem next_free (h : t.Counted n) {r : Record} (hr : t.rows.get? (t.lastId + 1) = some r) :
    2 ^ 64 ≤ n := by
  obtain ⟨k, h1, hn, hk⟩ := h.given hr
  -- two counts, one of them at most `n`, come to one word, so they are a multiple of `2 ^ 64` apart
  have hnext : Int64.ofNat (n + 1) = Int64.ofNat k := by
    rw [Int64.ofNat_add, ← h.last]; exact hk
  have := mod_eq_of_ofNat_eq hnext
  omega

/-- A new row is counted, whatever is in it. -/
theorem create (h : t.Counted n) (model : SubjectType) (data : Fields) :
    (t.create model data).2.Counted (n + 1) := by
  have hnext : t.lastId + 1 = Int64.ofNat (n + 1) := by rw [Int64.ofNat_add, ← h.last]; rfl
  refine ⟨hnext, fun {id r} hr => ?_⟩
  rw [Table.create, Keyed.get?_insert] at hr
  split at hr
  · rename_i hid
    exact ⟨n + 1, by omega, Nat.le_refl _, hid.trans hnext⟩
  · obtain ⟨k, h1, hn, hk⟩ := h.given hr
    exact ⟨k, h1, by omega, hk⟩

/-- **A query counts the rows it makes.** -/
theorem onTable (h : t.Counted n) (now : Timestamp) (q : Query) (ha : t.rows.Ascending) :
    (q.onTable now t).Counted (n + q.makes) := by
  by_cases hc : q.operation = .create
  · cases hd : q.data with
    | none =>
      have hm : q.makes = 0 := if_neg fun hm => by rw [hd] at hm; cases hm.2
      simpa only [Query.onTable, hc, hd, hm, Nat.add_zero] using h
    | some data =>
      have hm : q.makes = 1 := if_pos ⟨hc, by rw [hd]; rfl⟩
      simpa only [Query.onTable, hc, hd, hm] using h.create q.model _
  · have hm : q.makes = 0 := if_neg fun hm => hc hm.1
    rw [hm]
    refine ⟨(q.lastId_onTable now t hc).trans h.last, fun {id r} hr => ?_⟩
    rw [q.rows_onTable now hc ha, Option.bind_eq_some_iff] at hr
    obtain ⟨r₀, hr₀, -⟩ := hr
    exact h.given hr₀

end Table.Counted

/-- How many identifiers each table of a store has given out. -/
def Store.Counted (s : Store) (made : SubjectType → Nat) : Prop :=
  ∀ model, (s.table model).Counted (made model)

namespace Store.Counted

/-- The empty store has made no rows. -/
theorem empty : Store.empty.Counted fun _ => 0 := by
  intro model
  cases model <;> exact ⟨rfl, fun h => nomatch h⟩

/-- **A query counts the rows it makes**, in the table of its model. -/
theorem execute {s : Store} {made : SubjectType → Nat} (h : s.Counted made) (hs : s.Sound)
    (now : Timestamp) (q : Query) :
    (s.execute now q).2.Counted fun model =>
      made model + if model = q.model then q.makes else 0 := by
  intro model
  rw [table_execute]
  by_cases hm : model = q.model
  · subst hm
    simpa only [if_pos] using (h q.model).onTable now q (hs q.model).ascending
  · simpa only [if_neg hm, Nat.add_zero] using h model

end Store.Counted

end RowGuard
