import RowGuard.Store.Aggregate
import RowGuard.Timestamp.Text

/-!
# The in-memory store

A store has one table for each type of data. A table keeps its rows by identifier and the last
identifier it gave out, so that identifiers are never given out twice. Every write stamps the row
with the clock reading it was made at.

* `prepareInsert`, `prepareUpdate`: what a write leaves of the caller's fields
* `Store.execute`: the answer to a query, and the store after it
-/

set_option autoImplicit false

namespace RowGuard

/-- The field that holds a row's identifier. -/
def idField : String := "id"

/-- The field that holds the time a row was made. -/
def createdField : String := "createdAt"

/-- The field that holds the time a row was last written. -/
def updatedField : String := "updatedAt"

/-- A clock reading as a stored value. -/
def Json.ofTimestamp (now : Timestamp) : Json := .string now.storedText

/-- **The fields of a new row**: the identifier is the store's to choose, the time of creation is
the caller's or else now, and the time of writing is now. -/
def prepareInsert (now : Timestamp) (data : Fields) : Fields :=
  ((data.erase idField).insertNew createdField (.ofTimestamp now)).insert updatedField
    (.ofTimestamp now)

/-- **The changes to a row**: neither identifier nor time of creation, and the time of writing is
now. -/
def prepareUpdate (now : Timestamp) (data : Fields) : Fields :=
  ((data.erase idField).erase createdField).insert updatedField (.ofTimestamp now)

/-- The record with changes written over its data. -/
def Record.apply (r : Record) (changes : Fields) : Record :=
  { r with data := r.data.merge changes }

/-- **The rows of one type**, in ascending order of their identifiers. -/
structure Table where
  /-- The last identifier given out. -/
  lastId : Int64
  rows : Keyed Int64 Record

namespace Table

/-- A table that never had a row. -/
def empty : Table := ⟨0, []⟩

/-- The records that pass a filter. -/
def matching (t : Table) (f : Filter) : List Record := (t.rows.map Prod.snd).filter f.admits

/-- The record with an identifier, if it passes a filter. -/
def byId (t : Table) (id : Int64) (f : Filter) : Option Record :=
  (t.rows.get? id).filter f.admits

/-- A new record under the next identifier, and the table with it. -/
def create (t : Table) (model : SubjectType) (data : Fields) : Record × Table :=
  let id := t.lastId + 1
  let r := Record.new model id data
  (r, ⟨id, t.rows.insert id r⟩)

/-- The changed record, if it passes the filter, and the table with it. -/
def update (t : Table) (id : Int64) (f : Filter) (changes : Fields) : Option Record × Table :=
  match t.byId id f with
  | some r => (some (r.apply changes), { t with rows := t.rows.insert id (r.apply changes) })
  | none => (none, t)

/-- The number of records that pass the filter, and the table with them changed. -/
def updateMany (t : Table) (f : Filter) (changes : Fields) : Nat × Table :=
  ((t.matching f).length,
    { t with rows := t.rows.map fun p => (p.1, if f.admits p.2 then p.2.apply changes else p.2) })

/-- The record that goes, if it passes the filter, and the table without it. -/
def delete (t : Table) (id : Int64) (f : Filter) : Option Record × Table :=
  match t.byId id f with
  | some r => (some r, { t with rows := t.rows.erase id })
  | none => (none, t)

/-- The number of records that pass the filter, and the table without them. -/
def deleteMany (t : Table) (f : Filter) : Nat × Table :=
  ((t.matching f).length, { t with rows := t.rows.filter fun p => !f.admits p.2 })

end Table

/-- **The store**: a table for each type. -/
structure Store where
  all : Table
  post : Table
  user : Table

namespace Store

/-- A store that never had a row. -/
def empty : Store := ⟨.empty, .empty, .empty⟩

/-- The table of a type. -/
def table (s : Store) : SubjectType → Table
  | .all => s.all
  | .post => s.post
  | .user => s.user

/-- The store with another table for a type. -/
def withTable (s : Store) (model : SubjectType) (t : Table) : Store :=
  match model with
  | .all => { s with all := t }
  | .post => { s with post := t }
  | .user => { s with user := t }

/-- A written table is read back, and the tables of other types are as they were. -/
theorem table_withTable (s : Store) (model model' : SubjectType) (t : Table) :
    (s.withTable model t).table model' = if model' = model then t else s.table model' := by
  cases model <;> cases model' <;> rfl

/-- The number of rows of a type. -/
def rowCount (s : Store) (model : SubjectType) : Nat := (s.table model).rows.length

/-- **The answer to a query at a clock reading**, and the store after it. -/
def execute (now : Timestamp) (q : Query) (s : Store) : Result Output × Store :=
  let t := s.table q.model
  let needsId : Result Output := .error (.invalidInput (q.operation.inspect ++ " requires an id"))
  let changes := prepareUpdate now (q.data.getD [])
  match q.operation with
  | .findUnique =>
    match q.id with
    | none => (needsId, s)
    | some id => (.ok (.record (t.byId id q.filter)), s)
  | .findFirst => (.ok (.record (t.matching q.filter).head?), s)
  | .findMany => (.ok (.records (t.matching q.filter)), s)
  | .count => (.ok (.count (t.matching q.filter).length), s)
  | .aggregate =>
    match q.aggregation with
    | none => (.error (.invalidInput "aggregate requires an aggregation"), s)
    | some a => (.ok (.value (a.over (t.matching q.filter))), s)
  | .create =>
    match q.data with
    | none => (.error (.invalidInput "create requires data"), s)
    | some data =>
      let (r, t') := t.create q.model (prepareInsert now data)
      (.ok (.record (some r)), s.withTable q.model t')
  | .update =>
    match q.id with
    | none => (needsId, s)
    | some id =>
      let (r, t') := t.update id q.filter changes
      (.ok (.record r), s.withTable q.model t')
  | .updateMany =>
    let (n, t') := t.updateMany q.filter changes
    (.ok (.count n), s.withTable q.model t')
  | .delete =>
    match q.id with
    | none => (needsId, s)
    | some id =>
      let (r, t') := t.delete id q.filter
      (.ok (.record r), s.withTable q.model t')
  | .deleteMany =>
    let (n, t') := t.deleteMany q.filter
    (.ok (.count n), s.withTable q.model t')

end Store

end RowGuard
