import RowGuard.Guard
import RowGuard.Store.Basic

/-!
# Actions on a shared state

A `Procedure` is a sequence of acts on a state that others use as well. Between two acts anything
may happen to the state, so a later act depends on what an earlier one saw only by its choice. An
act says how it holds the state, for it may have to wait until it can. A procedure may look which
context is current, each time anew.

* `Dialogue.onShared`: a dialogue with a store that is part of a shared state, as a procedure
* `Dialogue.guardedOnShared`: the same through the guard, under the rule set in force at each
  question
-/

set_option autoImplicit false

namespace RowGuard

/-- How an act holds the state. -/
inductive Hold where
  /-- Not at all. -/
  | free
  /-- Together with others that only look at it. -/
  | shared
  /-- Alone. -/
  | alone
  deriving DecidableEq

/-- **A sequence of acts** on a state `σ` with an outcome `β`. -/
inductive Procedure (σ β : Type) where
  | done (outcome : β)
  /-- One act. What comes next is chosen by the state before it. -/
  | act (hold : Hold) (change : σ → σ) (next : σ → Procedure σ β)
  /-- Looks which context is current. -/
  | look (next : Option RequestContext → Procedure σ β)

namespace Procedure

variable {σ α β : Type}

/-- One act: the outcome and the state after it, by the state before it. -/
def once (hold : Hold) (run : σ → β × σ) : Procedure σ β :=
  .act hold (fun s => (run s).2) fun s => .done (run s).1

/-- A procedure followed by another that depends on its outcome. -/
def bind : Procedure σ α → (α → Procedure σ β) → Procedure σ β
  | done a, f => f a
  | act hold change next, f => .act hold change fun s => bind (next s) f
  | look next, f => .look fun context => bind (next context) f

end Procedure

/-- **Where a shared state keeps a store**, and what its clock says. -/
structure SharedStore (σ : Type) where
  get : σ → Store
  set : Store → σ → σ
  now : σ → Timestamp

/-- Whether a store refuses a query before it looks at its rows. -/
def Query.isTurnedAway (q : Query) : Bool :=
  match q.operation with
  | .create => q.data.isNone
  | .aggregate => q.aggregation.isNone
  | .update => q.id.isNone
  | .delete => q.id.isNone
  | _ => false

/-- How a query holds the store. -/
def Query.hold (q : Query) : Hold :=
  if q.isTurnedAway then .free else if q.operation.action = .read then .shared else .alone

/-- One query to a shared store that was asked at a clock reading. A new row is dated when it is
inserted, a change when it is asked for. -/
def SharedStore.answer {σ : Type} (shared : SharedStore σ) (asked : Timestamp) (q : Query) (s : σ) :
    Result Output × σ :=
  let (answer, store) :=
    Store.execute (if q.operation = .create then shared.now s else asked) q (shared.get s)
  (answer, shared.set store s)

/-- **A dialogue with a shared store.** Each question is an act of its own, so that others may come
between two questions. -/
def Dialogue.onShared {σ α : Type} (shared : SharedStore σ) : Dialogue α → Procedure σ α
  | done a => .done a
  | ask q next =>
    .act .free id fun before =>
      let answer := shared.answer (shared.now before) q
      .act q.hold (fun s => (answer s).2) fun s => onShared shared (next (answer s).1)

/-- **A dialogue through the guard** with a shared store. Each question is put under the rule set
that is in force when it is put. -/
def Dialogue.guardedOnShared {σ α : Type} (shared : SharedStore σ) : Dialogue α → Procedure σ α
  | done a => .done a
  | ask q next =>
    .look fun context => ((guarded (effectiveRules context) q).onShared shared).bind fun answer =>
      guardedOnShared shared (next answer)

end RowGuard
