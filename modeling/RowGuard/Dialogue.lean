import RowGuard.Query

/-!
# Dialogues with a backend

A `Dialogue` is a computation that asks a backend queries and goes on with the answers. It says
nothing about the backend, so that the same dialogue runs over a store, over a database or over any
answers at all, and so that its questions can be interleaved with those of others one by one.

* `Dialogue.bind`: a dialogue followed by another
* `Dialogue.through`: a dialogue whose every question is put by way of another dialogue
* `Dialogue.run`: a dialogue with a backend that has a state
-/

set_option autoImplicit false

namespace RowGuard

/-- **A computation that asks queries.** -/
inductive Dialogue (α : Type) where
  | done (a : α)
  | ask (q : Query) (next : Result Output → Dialogue α)

namespace Dialogue

variable {α β σ : Type}

/-- A dialogue followed by another that depends on its outcome. -/
def bind : Dialogue α → (α → Dialogue β) → Dialogue β
  | done a, f => f a
  | ask q next, f => ask q fun answer => bind (next answer) f

/-- A dialogue with its outcome changed. -/
def map (f : α → β) (d : Dialogue α) : Dialogue β := d.bind fun a => done (f a)

/-- One question, answered as it is. -/
def query (q : Query) : Dialogue (Result Output) := ask q done

/-- The dialogue that puts each question by way of another dialogue. -/
def through (via : Query → Dialogue (Result Output)) : Dialogue α → Dialogue α
  | done a => done a
  | ask q next => (via q).bind fun answer => through via (next answer)

/-- **A dialogue with a backend**: the outcome, and the state of the backend after it. -/
def run (backend : Query → σ → Result Output × σ) : Dialogue α → σ → α × σ
  | done a, s => (a, s)
  | ask q next, s =>
    let (answer, s') := backend q s
    run backend (next answer) s'

end Dialogue

end RowGuard
