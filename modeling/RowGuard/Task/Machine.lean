import RowGuard.Task.Lock
import RowGuard.Task.Step

/-!
# Tasks on one thread

Tasks take turns on one thread. In its turn a task runs until every branch of it waits for
something. The thread has one place for the current context: a step with a context of its own puts
it there whenever it is run, and puts back what was there whenever it stops, whether it is finished
or waits.

What waits is called when there is a reason to go on: a task that it waits for is done, the state is
free for it, or the others have had their turn. A turn has a limited allowance of acts that hold the
state. What is let in without any allowance left stays inside and waits as if it had given the
others a turn. Of many branches side by side only those that were called are run.

* `Running.resume`: a step under way up to its next wait
* `Machine.call`: what is called runs in its next turn
* `Machine.turn`: the turn of a task, and `Machine.run`: any schedule of turns
-/

set_option autoImplicit false

namespace RowGuard

variable {σ β : Type}

/-- **A step under way.** -/
inductive Running (σ β : Type) where
  | done (answer : Answer β)
  /-- A step that had no turn yet. -/
  | ready (step : Step σ β)
  /-- The acts that are left, and the visit to the state that the first of them waits for. -/
  | acting (visit : Option Nat) (rest : Procedure σ β)
  /-- Gave the others a turn. -/
  | paused
  /-- Answers so far, the step under way and the steps after it. -/
  | seq (answered : List (Answer β)) (current : Running σ β) (rest : List (Step σ β))
  /-- A step with a context of its own. -/
  | install (context : RequestContext) (body : Running σ β)
  /-- Waits for a task. -/
  | awaiting (task : Nat)
  /-- A few branches, all of which run whenever their task does. -/
  | join (branches : List (Running σ β))
  /-- Many branches, each of which runs when it was called. -/
  | crowd (number : Nat) (branches : List (Running σ β))

/-- **Who is called**: a task, or a branch of a crowd in it. The branch is given by the number of
its crowd and its place there, and is followed by the branches of crowds around it. -/
structure Callee where
  task : Nat
  branches : List (Nat × Nat)
  deriving DecidableEq

/-- **What is known of many branches.** -/
structure Crowd where
  /-- The branches that were called, in order. -/
  called : List Nat
  finished : List Nat
  /-- Whoever is around the crowd is still to be told of the next call. -/
  listening : Bool

/-- A task: how far it is, and who waits for it. -/
structure Task (σ β : Type) where
  progress : Running σ β
  waiter : Option Callee

/-- **The thread.** Task 0 is the main one. -/
structure Machine (σ β : Type) where
  /-- The context in its place. -/
  current : Option RequestContext
  world : σ
  /-- Who holds the state, and who waits for it. -/
  lock : Lock Callee
  /-- The tasks in the order in which they were started. -/
  tasks : List (Task σ β)
  /-- The crowds in the order in which they gathered. -/
  crowds : List Crowd
  /-- A bound on how deep steps are nested. -/
  depth : Nat
  /-- How many acts that hold the state are left in this turn. -/
  allowance : Nat
  /-- The task whose turn it is. -/
  active : Option Nat
  /-- The task whose turn it is was called in it. -/
  again : Bool
  /-- The main task was called. -/
  mainCalled : Bool
  /-- The other tasks that were called, in order. -/
  queue : List Nat
  /-- Who is called when the others have had their turn, the latest first. -/
  postponed : List Callee

namespace Running

/-- The answer of a step, if it is done. -/
def answer? : Running σ β → Option (Answer β)
  | done a => some a
  | _ => none

/-- Whether a step is done. -/
def isDone (r : Running σ β) : Bool := r.answer?.isSome

/-- A step in a context of its own, after it stopped: the answer is that of the step. -/
def within (context : RequestContext) : Running σ β → Running σ β
  | done a => done a
  | r => install context r

/-- Branches after all of them stopped, joined in one way or another while some still wait. -/
def joined (waiting : List (Running σ β) → Running σ β) (branches : List (Running σ β)) :
    Running σ β :=
  match branches.mapM answer? with
  | some answers => done (.many answers)
  | none => waiting branches

end Running

namespace Machine

/-! ## Calls -/

/-- Whether a task is done. -/
def isDone (m : Machine σ β) (task : Nat) : Bool :=
  match m.tasks[task]? with
  | some t => t.progress.isDone
  | none => true

/-- The machine after a call of a task, which has one turn however often it was called. -/
def callTask (m : Machine σ β) (task : Nat) : Machine σ β :=
  if task = 0 then { m with mainCalled := true }
  else if m.active = some task then { m with again := true }
  else if m.queue.contains task || m.isDone task then m
  else { m with queue := m.queue ++ [task] }

/-- The machine after a call of branches from the inside out, and then of their task. -/
def callThrough (task : Nat) : List (Nat × Nat) → Machine σ β → Machine σ β
  | [], m => m.callTask task
  | (number, place) :: outer, m =>
    match m.crowds[number]? with
    | none => m
    | some c =>
      if c.called.contains place || c.finished.contains place then m
      else
        let told : Crowd := { c with called := c.called ++ [place], listening := false }
        let m' := { m with crowds := m.crowds.set number told }
        if c.listening then callThrough task outer m' else m'

/-- **The machine after a call.** -/
def call (m : Machine σ β) (callee : Callee) : Machine σ β :=
  callThrough callee.task callee.branches m

/-- Puts a call off until the others have had their turn. -/
def postpone (m : Machine σ β) (callee : Callee) : Machine σ β :=
  if m.postponed.head? = some callee then m else { m with postponed := callee :: m.postponed }

/-- The calls that were put off, the latest first. -/
def callPostponed (m : Machine σ β) : Machine σ β :=
  m.postponed.foldl call { m with postponed := [] }

/-! ## Acts, contexts and tasks -/

/-- Runs something with a context in its place, and puts back what was there. -/
def inContext (m : Machine σ β) (context : RequestContext)
    (run : Machine σ β → Running σ β × Machine σ β) : Running σ β × Machine σ β :=
  let (r, m') := run { m with current := some context }
  (r.within context, { m' with current := m.current })

/-- The visit of an act that holds the state: the one it waits for, or a new one. -/
def visit (m : Machine σ β) (callee : Callee) (alone : Bool) : Option Nat → Nat × Machine σ β
  | some number => (number, m)
  | none => (m.lock.next, { m with lock := m.lock.enter alone callee })

/-- The machine after a visit ended. Those who are let in are called. -/
def leave (m : Machine σ β) (number : Nat) : Machine σ β :=
  let (admitted, lock) := m.lock.leave number
  admitted.foldl (fun m v => m.call v.caller) { m with lock }

/-- **The acts of a procedure**, up to the first one that has to wait. -/
def perform (callee : Callee) :
    Option Nat → Procedure σ β → Machine σ β → Running σ β × Machine σ β
  | _, .done b, m => (.done (.one b), m)
  | _, .act .free change next, m =>
    perform callee none (next m.world) { m with world := change m.world }
  | pending, .look next, m => perform callee pending (next m.current) m
  | pending, .act hold change next, m =>
    let (number, m) := m.visit callee (hold == .alone) pending
    let waits : Running σ β := .acting (some number) (.act hold change next)
    if !m.lock.isInside number then (waits, m)
    else if m.allowance = 0 then (waits, m.postpone callee)
    else
      let after := { m with world := change m.world, allowance := m.allowance - 1 }
      perform callee none (next m.world) (after.leave number)

/-- Looks whether a task is done, which takes of the allowance if it is, and waits for it if it is
not. -/
def await (callee : Callee) (task : Nat) (m : Machine σ β) : Running σ β × Machine σ β :=
  if m.allowance = 0 then (.awaiting task, m.postpone callee)
  else
    match m.tasks[task]? with
    | none => (.awaiting task, m)
    | some t =>
      match t.progress with
      | .done a => (.done a, { m with allowance := m.allowance - 1 })
      | _ =>
        (.awaiting task, { m with tasks := m.tasks.set task { t with waiter := some callee } })

/-- The machine with one more task, which is called. -/
def addTask (m : Machine σ β) (progress : Running σ β) : Machine σ β :=
  { m with tasks := m.tasks ++ [⟨progress, none⟩], queue := m.queue ++ [m.tasks.length] }

/-! ## Many branches -/

/-- The machine with one more crowd, all of whose branches are called. -/
def addCrowd (m : Machine σ β) (branches : Nat) : Machine σ β :=
  { m with crowds := m.crowds ++ [⟨List.range branches, [], false⟩] }

/-- The machine with a crowd changed. -/
def withCrowd (m : Machine σ β) (number : Nat) (change : Crowd → Crowd) : Machine σ β :=
  { m with crowds := m.crowds.modify number change }

/-- The branch of a crowd that was called first, and the machine in which that call is answered. -/
def nextCalled (m : Machine σ β) (number : Nat) : Option (Nat × Machine σ β) :=
  match m.crowds[number]? with
  | some c =>
    match c.called with
    | place :: rest => some (place, m.withCrowd number fun c => { c with called := rest })
    | [] => none
  | none => none

/-- Whether a branch of a crowd is called. -/
def isCalled (m : Machine σ β) (number place : Nat) : Bool :=
  m.crowds[number]?.any fun c => c.called.contains place

/-- The machine in which whoever is around a crowd is told of the next call. -/
def listen (m : Machine σ β) (number : Nat) : Machine σ β :=
  m.withCrowd number fun c => { c with listening := true }

/-- The machine in which a branch of a crowd is finished, and any call of it with it. -/
def finish (m : Machine σ β) (number place : Nat) : Machine σ β :=
  m.withCrowd number fun c =>
    { c with called := c.called.filter (· != place), finished := place :: c.finished }

/-- **Runs the branches of a crowd** that were called. After as many branches as are left have
stopped without finishing, or two of them have called themselves, the crowd lets others go first and
calls itself. A branch that finishes starts the count anew. Fuel bounds how many branches run. -/
def runCrowd (callee : Callee) (number : Nat)
    (run : Callee → Running σ β → Machine σ β → Running σ β × Machine σ β) :
    Nat → (stopped : Nat) → (eager : Nat) → List (Running σ β) → Machine σ β →
      List (Running σ β) × Machine σ β
  | 0, _, _, branches, m => (branches, m)
  | fuel + 1, stopped, eager, branches, m =>
    match m.nextCalled number with
    | none => (branches, m)
    | some (place, m) =>
      match branches[place]? with
      | none => (branches, m)
      | some r =>
        let (r, m) := run ⟨callee.task, (number, place) :: callee.branches⟩ r m
        let branches := branches.set place r
        if r.isDone then
          runCrowd callee number run fuel 0 0 branches ((m.finish number place).listen number)
        else
          let eager := if m.isCalled number place then eager + 1 else eager
          let left := branches.countP fun r => !r.isDone
          if 2 ≤ eager || stopped + 1 == left then (branches, m.call callee)
          else runCrowd callee number run fuel (stopped + 1) eager branches m

end Machine

namespace Running

/-- The greatest number of branches that all run whenever their task does. -/
def maxJoined : Nat := 30

/-- A step in a task of its own, with the context it takes over. -/
def ofTask (body : Step σ β) : Option RequestContext → Running σ β
  | some context => .install context (.ready body)
  | none => .ready body

/-- The steps of a sequence from the current one on, after some answers. -/
def runSeq (run : Running σ β → Machine σ β → Running σ β × Machine σ β) :
    List (Answer β) → Running σ β → List (Step σ β) → Machine σ β → Running σ β × Machine σ β
  | answered, current, [], m =>
    match run current m with
    | (done a, m') => (done (.many (answered ++ [a])), m')
    | (r, m') => (seq answered r [], m')
  | answered, current, next :: rest, m =>
    match run current m with
    | (done a, m') => runSeq run (answered ++ [a]) (ready next) rest m'
    | (r, m') => (seq answered r (next :: rest), m')

/-- Branches, one by one. -/
def runAll (run : Running σ β → Machine σ β → Running σ β × Machine σ β) :
    List (Running σ β) → Machine σ β → List (Running σ β) × Machine σ β
  | [], m => ([], m)
  | r :: rest, m =>
    let (r', m') := run r m
    let (rs, m'') := runAll run rest m'
    (r' :: rs, m'')

/-- A few branches. -/
def runJoin (run : Running σ β → Machine σ β → Running σ β × Machine σ β)
    (branches : List (Running σ β)) (m : Machine σ β) : Running σ β × Machine σ β :=
  let (rs, m') := runAll run branches m
  (joined join rs, m')

/-- Many branches. -/
def runCrowd (callee : Callee)
    (run : Callee → Running σ β → Machine σ β → Running σ β × Machine σ β) (number : Nat)
    (branches : List (Running σ β)) (m : Machine σ β) : Running σ β × Machine σ β :=
  let fuel := (branches.length + 1) * (branches.length + 1)
  let (rs, m') := Machine.runCrowd callee number run fuel 0 0 branches (m.listen number)
  (joined (crowd number) rs, m')

/-- **A step under way up to its next wait.** Who is called when it can go on is given; the depth to
which it is looked into is bounded. -/
def resume : Nat → Callee → Running σ β → Machine σ β → Running σ β × Machine σ β
  | 0, _, r, m => (r, m)
  | depth + 1, callee, r, m =>
    match r with
    | done a => (done a, m)
    | ready (.act procedure) => m.perform callee none procedure
    | ready .pause => (paused, m.postpone callee)
    | ready (.seq []) => (done (.many []), m)
    | ready (.seq (first :: rest)) => runSeq (resume depth callee) [] (ready first) rest m
    | ready (.install context body) => m.inContext context (resume depth callee (ready body))
    | ready (.spawn inherits body) =>
      let task := ofTask body (if inherits then m.current else none)
      Machine.await callee m.tasks.length (m.addTask task)
    | ready (.detach inherits body) =>
      (done .none, m.addTask (ofTask body (if inherits then m.current else none)))
    | ready (.join branches) =>
      let branches := branches.map ready
      if branches.length ≤ maxJoined then runJoin (resume depth callee) branches m
      else
        runCrowd callee (resume depth) m.crowds.length branches (m.addCrowd branches.length)
    | acting visit rest => m.perform callee visit rest
    | paused => (done .none, m)
    | seq answered current rest => runSeq (resume depth callee) answered current rest m
    | install context body => m.inContext context (resume depth callee body)
    | awaiting task => Machine.await callee task m
    | join branches => runJoin (resume depth callee) branches m
    | crowd number branches => runCrowd callee (resume depth) number branches m

end Running

namespace Machine

/-! ## Turns -/

/-- How many acts that hold the state a turn allows. -/
def turnAllowance : Nat := 128

/-- The machine after a turn in which a task came so far. Whoever waits for a task that is done is
called, and a task that was called in its own turn is called again. -/
def endTurn (m : Machine σ β) (task : Nat) (progress : Running σ β) : Machine σ β :=
  let waiter := (m.tasks[task]?).bind Task.waiter
  let m' := { m with tasks := m.tasks.set task ⟨progress, waiter⟩, active := none }
  if progress.isDone then
    match waiter with
    | some callee => m'.call callee
    | none => m'
  else if m.again then m'.callTask task
  else m'

/-- **The turn of a task.** A task that does not exist does nothing. -/
def turn (m : Machine σ β) (task : Nat) : Machine σ β :=
  match m.tasks[task]? with
  | none => m
  | some t =>
    let start := { m with active := some task, again := false, allowance := turnAllowance }
    let (progress, m') := t.progress.resume m.depth ⟨task, []⟩ start
    m'.endTurn task progress

/-- **A schedule of turns.** -/
def run (schedule : List Nat) (m : Machine σ β) : Machine σ β := schedule.foldl turn m

/-- A machine with one task that had no turn yet. -/
def boot (step : Step σ β) (world : σ) : Machine σ β :=
  { current := none
    world
    lock := .fresh
    tasks := [⟨.ready step, none⟩]
    crowds := []
    depth := step.depth
    allowance := 0
    active := none
    again := false
    mainCalled := true
    queue := []
    postponed := [] }

/-- The answer of the main task, if it is done. -/
def answer? (m : Machine σ β) : Option (Answer β) :=
  m.tasks.head?.bind fun t => t.progress.answer?

end Machine

end RowGuard
