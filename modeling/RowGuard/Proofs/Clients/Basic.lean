import RowGuard.Guard
import RowGuard.Store.Basic

/-!
# Clients of one store

Any number of clients use one store, each with queries of its own that it runs one after the other.
A question to the store is one step. Between two questions of a query the other clients may take any
steps, so whether a record may be written can change after it was looked up.

A run is a list of turns. In a turn a client begins its next query, puts the next question of the
query under way, or notes its outcome (`Client.turn`); the store answers with the clock reading of
the turn. What each question found and left is kept with the query that it belongs to.

* `World.start`: clients that have done nothing yet, and a store that never had a row
* `World.run`: the world after a list of turns
-/

set_option autoImplicit false

namespace RowGuard

/-- How the queries of a client reach the store. -/
inductive Access where
  /-- As they are. -/
  | raw
  /-- Through the guard, in a context of the client's own or without any. -/
  | inContext (context : Option RequestContext)

/-- The questions that a query comes to. -/
def Access.dialogue : Access → Query → Dialogue (Result Output)
  | raw, q => .query q
  | inContext context, q => guarded (effectiveRules context) q

/-- **A question put to the store**, with its answer and the store before and after it. -/
structure Call where
  asked : Query
  answer : Result Output
  before : Store
  after : Store

/-- **A query under way**: the query as the client supplied it, the calls so far, and what is left
to do. Once nothing is left to ask, its outcome is there. -/
structure Errand where
  query : Query
  calls : List Call
  left : Dialogue (Result Output)

namespace Errand

/-- A query that has put no question yet. -/
def start (access : Access) (q : Query) : Errand := ⟨q, [], access.dialogue q⟩

/-- The outcome, once nothing is left to ask. -/
def outcome? (e : Errand) : Option (Result Output) :=
  match e.left with
  | .done outcome => some outcome
  | .ask .. => none

/-- **The next question**, put to a store at a clock reading. -/
def step (now : Timestamp) (e : Errand) (s : Store) : Errand × Store :=
  match e.left with
  | .done _ => (e, s)
  | .ask q next =>
    let (answer, s') := s.execute now q
    (⟨e.query, e.calls ++ [⟨q, answer, s, s'⟩], next answer⟩, s')

end Errand

/-- **A client**: the queries to come, the one under way and those that are done. -/
structure Client where
  access : Access
  upcoming : List Query
  current : Option Errand
  finished : List Errand

namespace Client

/-- A client that has done nothing yet. -/
def start (access : Access) (queries : List Query) : Client := ⟨access, queries, none, []⟩

/-- The queries that were begun, over or under way. -/
def errands (c : Client) : List Errand := c.finished ++ c.current.toList

/-- **The turn of a client** at a clock reading, and the store after it. -/
def turn (now : Timestamp) (c : Client) (s : Store) : Client × Store :=
  match c.current, c.upcoming with
  | some e, _ =>
    if e.outcome?.isSome then ({ c with current := none, finished := c.finished ++ [e] }, s)
    else
      let (e', s') := e.step now s
      ({ c with current := some e' }, s')
  | none, q :: rest => ({ c with current := some (.start c.access q), upcoming := rest }, s)
  | none, [] => (c, s)

end Client

/-- **The clients and their store.** -/
structure World where
  store : Store
  clients : List Client

namespace World

/-- **A world in which nothing has happened**: how each client reaches the store, and its queries. -/
def start (clients : List (Access × List Query)) : World :=
  ⟨.empty, clients.map fun c => .start c.1 c.2⟩

/-- **A turn**: whose it is, and the clock reading. A client that does not exist does nothing. -/
def turn (w : World) (t : Nat × Timestamp) : World :=
  match w.clients[t.1]? with
  | none => w
  | some c =>
    let (c', s') := c.turn t.2 w.store
    ⟨s', w.clients.set t.1 c'⟩

/-- **The world after a list of turns.** -/
def run (w : World) (turns : List (Nat × Timestamp)) : World := turns.foldl turn w

end World

end RowGuard
