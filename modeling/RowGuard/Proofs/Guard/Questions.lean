import RowGuard.Proofs.Guard.Narrowed
import RowGuard.Proofs.Store.Identifiers

/-!
# The questions of a guarded query

What a guarded query may ask does not depend on the answers it gets: a lookup, the creation of a row
from a draft that the rules allow, or the caller's query narrowed to what they allow
(`guarded_asks`). And it never fails once it has written (`guarded_failsClean`). Both are said of
the dialogue as such, so that they hold whatever happens to the store between two questions.

* `Lawful`: what one turn may do to a row
* `Guard.Fit.lawful`: a question of a guarded query does nothing else, in any state of the store
-/

set_option autoImplicit false

namespace RowGuard

namespace Dialogue

variable {α : Type}

/-- **Every question** that a dialogue can come to, by whatever answers, is of a kind. -/
def Asks (kind : Query → Prop) : Dialogue α → Prop
  | done _ => True
  | ask q next => kind q ∧ ∀ answer, Asks kind (next answer)

/-- An answer after which the store is as it was before the question. -/
def Idle (q : Query) (answer : Result Output) : Prop :=
  q.operation.action = .read ∨ (∃ e, answer = .error e) ∨ answer = .ok (.record none)

/-- **A dialogue that fails only when it has written nothing**: after a question that may have
written it is over, with success. -/
def FailsClean : Dialogue (Result Output) → Prop
  | done _ => True
  | ask q next => ∀ answer,
    FailsClean (next answer) ∧ (Idle q answer ∨ ∃ output, next answer = .done (.ok output))

theorem query_failsClean (q : Query) : (query q).FailsClean := by
  intro answer
  refine ⟨trivial, ?_⟩
  cases answer with
  | error e => exact .inl (.inr (.inl ⟨e, rfl⟩))
  | ok output => exact .inr ⟨output, rfl⟩

end Dialogue

namespace Guard

/-- **The questions** that come of a caller's query. -/
inductive Fit (rules : RuleSet) (q : Query) : Query → Prop
  | lookup (id : Int64) : Fit rules q (Guard.lookup q id)
  | create {data : Fields} (hop : q.operation = .create) (hd : q.data = some data)
      (hcan : rules.can .create (Draft.mk q.model data) = true) : Fit rules q q
  | narrowed (hop : q.operation ≠ .create) : Fit rules q (Guard.narrowed rules q)

variable (rules : RuleSet) (q : Query)

theorem write_failsClean (existing : Record) (id : Int64) :
    (write rules q existing id).FailsClean := by
  intro answer
  match answer with
  | .error e => exact ⟨trivial, .inl (.inr (.inl ⟨e, rfl⟩))⟩
  | .ok (.record none) => exact ⟨trivial, .inl (.inr (.inr rfl))⟩
  | .ok (.record (some r)) => exact ⟨trivial, .inr ⟨_, rfl⟩⟩
  | .ok (.records rs) => exact ⟨trivial, .inr ⟨_, rfl⟩⟩
  | .ok (.count n) => exact ⟨trivial, .inr ⟨_, rfl⟩⟩
  | .ok (.value v) => exact ⟨trivial, .inr ⟨_, rfl⟩⟩

/-- The write after a look-up is one that fits. -/
theorem write_asks (hop : q.operation ≠ .create) (existing : Record) (id : Int64) :
    (write rules q existing id).Asks (Fit rules q) := by
  refine ⟨.narrowed hop, fun answer => ?_⟩
  dsimp only
  split <;> trivial

theorem afterLookup_failsClean (id : Int64) (found : Result (Option Record)) :
    (afterLookup rules q id found).FailsClean := by
  unfold afterLookup
  split
  · trivial
  · trivial
  · split
    · trivial
    · split
      · trivial
      · exact write_failsClean rules q _ id

/-- After a look-up there is a write that fits, or nothing. -/
theorem afterLookup_asks (hop : q.operation ≠ .create) (id : Int64)
    (found : Result (Option Record)) : (afterLookup rules q id found).Asks (Fit rules q) := by
  unfold afterLookup
  split
  · trivial
  · trivial
  · split
    · trivial
    · split
      · trivial
      · exact write_asks rules q hop _ id

end Guard

/-- **A guarded query fails only when it has written nothing**, whatever it is answered. -/
theorem guarded_failsClean (rules : RuleSet) (q : Query) : (guarded rules q).FailsClean := by
  unfold guarded
  split
  · unfold Guard.create
    split
    · trivial
    · split
      · exact Dialogue.query_failsClean q
      · trivial
  · split
    · unfold Guard.byId
      split
      · trivial
      · -- the first question is a lookup, which writes nothing
        exact fun answer => ⟨Guard.afterLookup_failsClean .., .inl (.inl rfl)⟩
    · exact Dialogue.query_failsClean _

/-- **A guarded query asks fit questions only**, whatever it is answered. -/
theorem guarded_asks (rules : RuleSet) (q : Query) :
    (guarded rules q).Asks (Guard.Fit rules q) := by
  unfold guarded
  split
  · rename_i hop
    unfold Guard.create
    split
    · trivial
    · rename_i data hd
      split
      · rename_i hcan; exact ⟨.create hop hd hcan, fun _ => trivial⟩
      · trivial
  · rename_i hop
    split
    · unfold Guard.byId
      split
      · trivial
      · exact ⟨.lookup _, fun answer => Guard.afterLookup_asks rules q hop ..⟩
    · exact ⟨.narrowed hop, fun _ => trivial⟩

/-! ## What a question does to a row -/

/-- **What a turn may do to a row**, from what stood under its identifier to what stands there now.
A row is written only where the rules allow the action on it and the caller's query asks for it. A
row is made only of a draft that the rules allow, under an identifier that is free, unless so many
turns came before that the count of identifiers may have started over. -/
inductive Lawful (rules : RuleSet) (q : Query) (now : Timestamp) (turns : Nat) (id : Int64) :
    Option Record → Option Record → Prop
  | write {r : Record} (after : Option Record)
      (hop : q.operation.action = .update ∨ q.operation.action = .delete)
      (hcan : rules.can q.operation.action r = true) (hfilter : q.filter.admits r = true)
      (hid : q.operation.isById = true → q.id = some id) : Lawful rules q now turns id (some r) after
  | make {before : Option Record} {data : Fields} (hop : q.operation = .create)
      (hd : q.data = some data) (hcan : rules.can .create (Draft.mk q.model data) = true)
      (hfree : before = none ∨ 2 ^ 64 ≤ turns) :
      Lawful rules q now turns id before (some (.new q.model id (prepareInsert now data)))

namespace Guard

variable {rules : RuleSet} {q asked : Query} {s : Store} {turns : Nat}

/-- A created row is lawful where the draft was allowed. -/
theorem lawful_create (now : Timestamp) {n : Nat}
    (hn : (s.table q.model).Counted n) (hturns : n ≤ turns) {data : Fields}
    (hop : q.operation = .create) (hd : q.data = some data)
    (hcan : rules.can .create (Draft.mk q.model data) = true) {id : Int64}
    (hne : (s.execute now q).2.row q.model id ≠ s.row q.model id) :
    Lawful rules q now turns id (s.row q.model id) ((s.execute now q).2.row q.model id) := by
  rw [Store.row_execute_create now hop hd] at hne ⊢
  dsimp only at hne ⊢
  by_cases hid : id = (s.table q.model).lastId + 1
  · rw [if_pos hid, ← hid]
    refine .make hop hd hcan ?_
    cases hrow : s.row q.model id with
    | none => exact .inl rfl
    | some r =>
      -- the next identifier is taken, so the count has started over
      rw [hid] at hrow
      exact .inr (Nat.le_trans (hn.next_free hrow) hturns)
  · exact absurd (if_neg hid) hne

/-- **The narrowed query** changes permitted rows only. -/
theorem lawful_narrowed (now : Timestamp) (hs : s.Sound) (hop : q.operation ≠ .create) {id : Int64}
    (hne : (s.execute now (narrowed rules q)).2.row q.model id ≠ s.row q.model id) :
    Lawful rules q now turns id (s.row q.model id)
      ((s.execute now (narrowed rules q)).2.row q.model id) := by
  have hrow := Store.row_execute now (q := narrowed rules q) hop (hs q.model).ascending id
  cases hbefore : s.row q.model id with
  | none =>
    rw [show s.row (narrowed rules q).model id = none from hbefore] at hrow
    exact absurd (hrow.trans hbefore.symm) hne
  | some r =>
    rw [show s.row (narrowed rules q).model id = some r from hbefore, Option.bind_some] at hrow
    by_cases hp : (narrowed rules q).picks id r = true
    · rw [if_pos hp] at hrow
      obtain ⟨hf, hid⟩ := Bool.and_eq_true_iff.1 hp
      rw [admits_narrowed ((hs q.model).filed hbefore).2, Bool.and_eq_true] at hf
      -- a row that is picked and still differs was written
      rcases q.leaves_or_writes now r hop with hl | hw
      · exact absurd (hrow.trans (hl.trans hbefore.symm)) hne
      · refine .write _ hw hf.2 hf.1 fun hb => ?_
        rw [show (narrowed rules q).operation = q.operation from rfl, hb] at hid
        exact of_decide_eq_true hid
    · rw [if_neg hp] at hrow
      exact absurd (hrow.trans hbefore.symm) hne

/-- **A question of a guarded query is lawful** in any state of the store: it changes rows of the
query's model only, each as the rules allow. -/
theorem Fit.lawful_of_counted (h : Fit rules q asked) (now : Timestamp) (hs : s.Sound) {n : Nat}
    (hn : (s.table q.model).Counted n) (hturns : n ≤ turns) {model : SubjectType} {id : Int64}
    (hne : (s.execute now asked).2.row model id ≠ s.row model id) :
    model = q.model ∧ Lawful rules q now turns id (s.row model id)
      ((s.execute now asked).2.row model id) := by
  have hmodel : model = asked.model := by
    by_contra hother
    exact hne (Store.row_execute_of_ne now hother id)
  cases h with
  | lookup i => exact absurd (congrArg (Store.row · model id) (Store.execute_read now _ s rfl)) hne
  | create hop hd hcan =>
    subst hmodel
    exact ⟨rfl, lawful_create now hn hturns hop hd hcan hne⟩
  | narrowed hop =>
    have hq : model = q.model := hmodel
    subst hq
    exact ⟨rfl, lawful_narrowed now hs hop hne⟩

theorem Fit.lawful (h : Fit rules q asked) (now : Timestamp) (hs : s.Sound)
    {made : SubjectType → Nat} (hm : s.Counted made) (hturns : ∀ model, made model ≤ turns)
    {model : SubjectType} {id : Int64}
    (hne : (s.execute now asked).2.row model id ≠ s.row model id) :
    model = q.model ∧ Lawful rules q now turns id (s.row model id)
      ((s.execute now asked).2.row model id) :=
  h.lawful_of_counted now hs (hm q.model) (hturns q.model) hne

end Guard

end RowGuard
