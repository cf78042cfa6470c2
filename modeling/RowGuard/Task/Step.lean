import RowGuard.Task.Procedure

/-!
# Programs that run in tasks

A `Step` is a piece of a program that other pieces may run beside. It acts on a shared state, where
it may look which context it runs in; it gives the others a turn; it installs a context for another
step; it starts a task and waits for it, or lets it go; or it runs several steps side by side. Each
step ends with an `Answer` of its own shape.
-/

set_option autoImplicit false

namespace RowGuard

/-- What a step answers: one value, or a list of answers. -/
inductive Answer (β : Type) where
  /-- Nothing, from a step that only gave the others a turn or let a task go. -/
  | none
  | one (b : β)
  | many (answers : List (Answer β))
  deriving Inhabited

/-- **A piece of a program** over a state `σ` with answers `β`. -/
inductive Step (σ β : Type) where
  /-- Acts on the state. -/
  | act (procedure : Procedure σ β)
  /-- Gives the others a turn. -/
  | pause
  /-- One step after the other. -/
  | seq (steps : List (Step σ β))
  /-- A step in a context. -/
  | install (context : RequestContext) (body : Step σ β)
  /-- A step in a task of its own, which takes over the current context or starts without any. It
  is waited for. -/
  | spawn (inherits : Bool) (body : Step σ β)
  /-- A step in a task of its own that nobody waits for. -/
  | detach (inherits : Bool) (body : Step σ β)
  /-- Steps side by side in one task. -/
  | join (branches : List (Step σ β))

namespace Step

variable {σ β : Type}

instance : Inhabited (Step σ β) := ⟨.pause⟩

mutual

/-- How deep a step is nested. -/
def depth : Step σ β → Nat
  | act _ => 1
  | pause => 1
  | seq steps => depthList steps + 1
  | install _ body => depth body + 1
  | spawn _ body => depth body + 1
  | detach _ body => depth body + 1
  | join branches => depthList branches + 1

/-- How deep the deepest of several steps is nested. -/
def depthList : List (Step σ β) → Nat
  | [] => 0
  | s :: rest => max (depth s) (depthList rest)

end

end Step

end RowGuard
