import RowGuard.Task.Machine

/-!
# The order of turns

Tasks have their turns in the order in which they were called. The main task has its turn when no
other task is called, or after a number of other turns. Before that those are called who gave the
others a turn, the latest first.

* `Machine.rounds`: turns of the main task, with those of the others between them
* `Step.execute`: a step run to its end
-/

set_option autoImplicit false

namespace RowGuard

variable {σ β : Type}

namespace Machine

/-- The greatest number of turns of other tasks between two turns of the main one. -/
def maxOtherTurns : Nat := 61

/-- The turn of the main task, if it was called. -/
def mainTurn (m : Machine σ β) : Machine σ β :=
  if m.mainCalled then { m with mainCalled := false }.turn 0 else m

/-- The turns of the other tasks, up to a number of them, and then the calls that were put off. -/
def otherTurns : Nat → Machine σ β → Machine σ β
  | 0, m => m.callPostponed
  | turns + 1, m =>
    match m.queue with
    | [] => m.callPostponed
    | task :: rest => otherTurns turns ({ m with queue := rest }.turn task)

/-- **Rounds of turns** until the main task is done, up to a number of them. -/
def rounds : Nat → Machine σ β → Machine σ β
  | 0, m => m
  | limit + 1, m =>
    let m' := m.mainTurn
    if m'.answer?.isSome then m' else rounds limit (otherTurns maxOtherTurns m')

end Machine

/-- **A step run to its end** from a state without any context, within a number of rounds. -/
def Step.execute (limit : Nat) (step : Step σ β) (world : σ) : Option (Answer β) × σ :=
  let m := (Machine.boot step world).rounds limit
  (m.answer?, m.world)

end RowGuard
