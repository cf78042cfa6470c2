import RowGuard.Proofs.Clients.Basic

/-!
# Queries report what they did

A query that succeeds with a write says what the write did: the outcome is the answer to the one
question that wrote, and that question differs from the query in nothing but its filter. No other
question of it writes anything or ends it with success.

* `Dialogue.Reports`: said of a dialogue, whatever it is answered
* `Access.reports`: raw and guarded queries report
-/

set_option autoImplicit false

namespace RowGuard

/-- The output of a dialogue that is over with success. -/
def Dialogue.output? : Dialogue (Result Output) → Option Output
  | .done (.ok output) => some output
  | _ => none

namespace Dialogue

/-- **A dialogue that is over with the answer** to its last question, or with an error where that
question found no record. -/
def EndsWith (answer : Result Output) (left : Dialogue (Result Output)) : Prop :=
  left = .done answer ∨ answer = .ok (.record none) ∧ ∃ e, left = .done (.error e)

/-- A dialogue that ends with an error has no output. -/
theorem EndsWith.output_of_error {answer : Result Output} {left : Dialogue (Result Output)}
    (h : EndsWith answer left) {e : Error} (ha : answer = .error e) : left.output? = none := by
  rcases h with rfl | ⟨hn, -⟩
  · rw [ha]; rfl
  · rw [ha] at hn; cases hn

/-- A dialogue that ends with what was found has it for its output. -/
theorem EndsWith.output_of_ok {answer : Result Output} {left : Dialogue (Result Output)}
    (h : EndsWith answer left) {output : Output} (ha : answer = .ok output)
    (hne : output ≠ .record none) : left.output? = some output := by
  rcases h with rfl | ⟨hn, -⟩
  · rw [ha]; rfl
  · rw [ha] at hn; cases hn; exact absurd rfl hne

theorem EndsWith.output_of_nothing {answer : Result Output} {left : Dialogue (Result Output)}
    (h : EndsWith answer left) (ha : answer = .ok (.record none)) :
    left.output? = some (.record none) ∨ left.output? = none := by
  rcases h with rfl | ⟨-, e, rfl⟩
  · rw [ha]; exact .inl rfl
  · exact .inr rfl

/-- **What comes of an answer** to a question asked for a query. The question may write, and then
the query is over with the answer; or it only reads, and then a query that is to write is not over
with success. -/
inductive Reported (q asked : Query) (answer : Result Output) (left : Dialogue (Result Output)) :
    Prop
  | write (same : asked = { q with filter := asked.filter }) (ends : EndsWith answer left)
  | read (only : asked.operation.action = .read)
      (quiet : q.operation.action ≠ .read → left.output? = none)

/-- **A dialogue that reports** for a query what it did. -/
def Reports (q : Query) : Dialogue (Result Output) → Prop
  | done _ => True
  | ask asked next => ∀ answer, Reports q (next answer) ∧ Reported q asked answer (next answer)

theorem query_reports (q : Query) : (query q).Reports q :=
  fun _ => ⟨trivial, .write rfl (.inl rfl)⟩

end Dialogue

namespace Guard

variable (rules : RuleSet) (q : Query)

theorem narrowed_reports : (Dialogue.query (narrowed rules q)).Reports q :=
  fun _ => ⟨trivial, .write rfl (.inl rfl)⟩

/-- The write after a look-up reports what it did. -/
theorem write_reports (existing : Record) (id : Int64) : (write rules q existing id).Reports q := by
  intro answer
  dsimp only
  split
  · exact ⟨trivial, .write rfl (.inr ⟨rfl, _, rfl⟩)⟩
  · exact ⟨trivial, .write rfl (.inl rfl)⟩

theorem afterLookup_reports (id : Int64) (found : Result (Option Record)) :
    (afterLookup rules q id found).Reports q := by
  unfold afterLookup
  split
  · trivial
  · trivial
  · split
    · trivial
    · split
      · trivial
      · exact write_reports rules q _ id

/-- After its lookup a query that is to write has not succeeded yet. -/
theorem output_afterLookup (hw : q.operation.action ≠ .read) (id : Int64)
    (found : Result (Option Record)) : (afterLookup rules q id found).output? = none := by
  unfold afterLookup
  split
  · rfl
  · rfl
  · split
    · rfl
    · split
      · rename_i hop
        rw [hop] at hw
        exact absurd rfl hw
      · rfl

end Guard

/-- **A guarded query reports** what it did, whatever the backend answers. -/
theorem guarded_reports (rules : RuleSet) (q : Query) : (guarded rules q).Reports q := by
  unfold guarded
  split
  · unfold Guard.create
    split
    · trivial
    · split
      · exact Dialogue.query_reports q
      · trivial
  · split
    · unfold Guard.byId
      split
      · trivial
      · -- the first question is the lookup, which only reads
        exact fun answer => ⟨Guard.afterLookup_reports ..,
          .read rfl fun hw => Guard.output_afterLookup rules q hw ..⟩
    · exact Guard.narrowed_reports rules q

namespace Access

variable (access : Access) (q : Query)

/-- **Every query reports** what it did, raw or guarded. -/
theorem reports : (access.dialogue q).Reports q := by
  cases access with
  | raw => exact Dialogue.query_reports q
  | inContext context => exact guarded_reports _ q

/-- No query succeeds before it has asked anything. -/
theorem output_dialogue : (access.dialogue q).output? = none := by
  cases access with
  | raw => rfl
  | inContext context =>
    unfold dialogue guarded
    dsimp only
    split
    · unfold Guard.create
      split
      · rfl
      · split <;> rfl
    · split
      · unfold Guard.byId
        split <;> rfl
      · rfl

end Access

end RowGuard
