import RowGuard.Dialogue
import RowGuard.Rule.Policy

/-!
# The guard

The guard stands between a caller and a backend. It turns a query into a dialogue of at most two
questions under the caller's rule set:

* an operation on one record first looks the record up, so that a missing record is reported as
  missing and a record the caller may not touch as forbidden; the write that follows is narrowed to
  the permitted records
* a new record is judged by the fields supplied for it
* any other operation is narrowed to the permitted records and asked once
-/

set_option autoImplicit false

namespace RowGuard

namespace Guard

/-- What is missing when a record is. -/
def missing (model : SubjectType) (id : Int64) : Error :=
  .notFound (model.name ++ " with id " ++ toString id.toInt)

/-- The query narrowed to the records on which the rules allow its action. -/
def narrowed (rules : RuleSet) (q : Query) : Query :=
  { q with filter := q.filter.and (rules.filterFor q.operation.action q.model) }

/-- The question that looks up the record of an operation. -/
def lookup (q : Query) (id : Int64) : Query :=
  { Query.findUnique q.model id with filter := q.filter }

/-- The write to a record that may be written. A record lost since the lookup is missing. -/
def write (rules : RuleSet) (q : Query) (existing : Record) (id : Int64) :
    Dialogue (Result Output) :=
  .ask (narrowed rules q) fun answer =>
    match answer with
    | .ok (.record none) => .done (.error (missing existing.model id))
    | answer => .done answer

/-- An operation on one record, after its lookup. -/
def afterLookup (rules : RuleSet) (q : Query) (id : Int64) (found : Result (Option Record)) :
    Dialogue (Result Output) :=
  match found with
  | .error e => .done (.error e)
  | .ok none => .done (.error (missing q.model id))
  | .ok (some existing) =>
    if !rules.can q.operation.action existing then .done (.error .forbidden)
    else if q.operation = .findUnique then .done (.ok (.record (some existing)))
    else write rules q existing id

/-- **An operation on one record.** -/
def byId (rules : RuleSet) (q : Query) : Dialogue (Result Output) :=
  match q.id with
  | none =>
    .done (.error (.invalidInput
      (q.operation.inspect ++ " on " ++ q.model.name ++ " requires an id")))
  | some id =>
    .ask (lookup q id) fun answer => afterLookup rules q id (answer.bind Output.toRecord)

/-- **A new record.** -/
def create (rules : RuleSet) (q : Query) : Dialogue (Result Output) :=
  match q.data with
  | none => .done (.error (.invalidInput ("create on " ++ q.model.name ++ " requires data")))
  | some data =>
    if rules.can .create (Draft.mk q.model data) then .query q else .done (.error .forbidden)

/-- An operation on whatever records are permitted. -/
def bulk (rules : RuleSet) (q : Query) : Dialogue (Result Output) := .query (narrowed rules q)

end Guard

/-- **A query under a rule set.** -/
def guarded (rules : RuleSet) (q : Query) : Dialogue (Result Output) :=
  if q.operation = .create then Guard.create rules q
  else if q.operation.isById then Guard.byId rules q
  else Guard.bulk rules q

/-- **A dialogue in a context**: every question is put under the rule set in force there. -/
def Dialogue.inContext {α : Type} (context : Option RequestContext) (d : Dialogue α) : Dialogue α :=
  d.through (guarded (effectiveRules context))

end RowGuard
