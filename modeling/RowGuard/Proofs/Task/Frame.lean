import RowGuard.Task.Schedule

/-!
# What leaves contexts and tasks alone

Calls, visits to the state and the accounts of crowds are kept apart from the tasks and from the
place for the current context, which they leave as they are (`Machine.Keeps`). So do the acts of a
procedure, whatever they do to the state and whoever they call (`Machine.keeps_perform`).
-/

set_option autoImplicit false

namespace RowGuard

variable {σ β : Type}

namespace Machine

/-- **The context in its place and the tasks are the same** in both machines. -/
structure Keeps (m m' : Machine σ β) : Prop where
  current : m'.current = m.current
  tasks : m'.tasks = m.tasks

namespace Keeps

variable {m m' m'' : Machine σ β}

theorem refl (m : Machine σ β) : m.Keeps m := ⟨rfl, rfl⟩

theorem trans (h : m.Keeps m') (h' : m'.Keeps m'') : m.Keeps m'' :=
  ⟨h'.current.trans h.current, h'.tasks.trans h.tasks⟩

/-- What every operation of a list keeps, all of them keep. -/
theorem foldl {ι : Type} {f : Machine σ β → ι → Machine σ β}
    (hf : ∀ (m : Machine σ β) i, m.Keeps (f m i)) (is : List ι) (m : Machine σ β) :
    m.Keeps (is.foldl f m) := by
  induction is generalizing m with
  | nil => exact .refl m
  | cons i rest ih => exact (hf m i).trans (ih (f m i))

end Keeps

variable (m : Machine σ β)

/-- A call of a task marks it or puts it in the queue. -/
theorem keeps_callTask (task : Nat) : m.Keeps (m.callTask task) := by
  unfold callTask
  split
  · exact ⟨rfl, rfl⟩
  · split
    · exact ⟨rfl, rfl⟩
    · split
      · exact .refl m
      · exact ⟨rfl, rfl⟩

/-- A call on its way through crowds is written into their accounts. -/
theorem keeps_callThrough (task : Nat) (branches : List (Nat × Nat)) :
    m.Keeps (callThrough task branches m) := by
  induction branches generalizing m with
  | nil => exact m.keeps_callTask task
  | cons branch outer ih =>
    unfold callThrough
    split
    · exact .refl m
    · split
      · exact .refl m
      · dsimp only
        split
        · obtain ⟨hcurrent, htasks⟩ := ih _
          exact ⟨hcurrent, htasks⟩
        · exact ⟨rfl, rfl⟩

theorem keeps_call (callee : Callee) : m.Keeps (m.call callee) :=
  m.keeps_callThrough callee.task callee.branches

theorem keeps_postpone (callee : Callee) : m.Keeps (m.postpone callee) := by
  unfold postpone
  split
  · exact .refl m
  · exact ⟨rfl, rfl⟩

/-- A visit to the state is entered in the lock. -/
theorem keeps_visit (callee : Callee) (alone : Bool) (pending : Option Nat) :
    m.Keeps (m.visit callee alone pending).2 := by
  cases pending with
  | none => exact ⟨rfl, rfl⟩
  | some number => exact .refl m

/-- The end of a visit is entered in the lock, and those that are let in are called. -/
theorem keeps_leave (number : Nat) : m.Keeps (m.leave number) := by
  have hcalls : ∀ (m : Machine σ β) (v : Visit Callee), m.Keeps (m.call v.caller) :=
    fun m v => m.keeps_call v.caller
  obtain ⟨hcurrent, htasks⟩ := Keeps.foldl hcalls (m.lock.leave number).1
    { m with lock := (m.lock.leave number).2 }
  exact ⟨hcurrent, htasks⟩

/-- The next branch of a crowd is struck off its account. -/
theorem keeps_nextCalled {number place : Nat} {m' : Machine σ β}
    (h : m.nextCalled number = some (place, m')) : m.Keeps m' := by
  unfold nextCalled at h
  split at h
  · split at h
    · cases h; exact ⟨rfl, rfl⟩
    · cases h
  · cases h

/-- An act that holds the state waits until it is let in, and then until the turn allows it. -/
theorem perform_held (callee : Callee) (pending : Option Nat) {hold : Hold} (hhold : hold ≠ .free)
    (change : σ → σ) (next : σ → Procedure σ β) : m.perform callee pending (.act hold change next) =
      let number := (m.visit callee (hold == .alone) pending).1
      let m' := (m.visit callee (hold == .alone) pending).2
      if !m'.lock.isInside number then (.acting (some number) (.act hold change next), m')
      else if m'.allowance = 0 then
        (.acting (some number) (.act hold change next), m'.postpone callee)
      else
        perform callee none (next m'.world) (leave { m' with
          world := change m'.world, allowance := m'.allowance - 1 } number) := by
  rw [perform]
  exact hhold

/-- **The acts of a procedure** keep contexts and tasks. -/
theorem keeps_perform (callee : Callee) (p : Procedure σ β) (pending : Option Nat) :
    m.Keeps (m.perform callee pending p).2 := by
  induction p generalizing pending m with
  | done b => exact .refl m
  | act hold change next ih =>
    -- A free act changes the state alone. One that holds it goes through a visit.
    by_cases hhold : hold = .free
    · subst hhold
      obtain ⟨hcurrent, htasks⟩ := ih m.world { m with world := change m.world } none
      exact ⟨hcurrent, htasks⟩
    · rw [m.perform_held callee pending hhold]
      have hvisit := m.keeps_visit callee (hold == .alone) pending
      dsimp only
      split
      · exact hvisit
      · split
        · exact hvisit.trans (keeps_postpone _ callee)
        · obtain ⟨hcurrent, htasks⟩ := (keeps_leave _ _).trans (ih _ _ none)
          exact hvisit.trans ⟨hcurrent, htasks⟩
  | look next ih => exact ih m.current m pending

/-- Whoever waits for a task. -/
def waiter (task : Nat) : Option Callee := (m.tasks[task]?).bind Task.waiter

/-- The machine in which a task came so far and is no longer active. -/
def stopped (task : Nat) (progress : Running σ β) : Machine σ β :=
  { m with tasks := m.tasks.set task ⟨progress, m.waiter task⟩, active := none }

/-- The end of a turn calls whoever waits for the task if it is done, or else the task again if it
was called in its own turn. -/
theorem endTurn_eq (task : Nat) (progress : Running σ β) : m.endTurn task progress =
    if progress.isDone then
      match m.waiter task with
      | some callee => (m.stopped task progress).call callee
      | none => m.stopped task progress
    else if m.again then (m.stopped task progress).callTask task
    else m.stopped task progress := rfl

/-- What the end of a turn calls keeps contexts and tasks. -/
theorem keeps_endTurn (task : Nat) (progress : Running σ β) :
    (m.stopped task progress).Keeps (m.endTurn task progress) := by
  rw [endTurn_eq]
  split
  · cases m.waiter task with
    | none => exact .refl _
    | some callee => exact keeps_call _ callee
  · split
    · exact keeps_callTask _ task
    · exact .refl _

end Machine

end RowGuard
