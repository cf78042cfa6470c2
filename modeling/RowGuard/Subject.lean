import RowGuard.Error

/-!
# Subjects, actions and callers

The nouns of a permission check: who asks (`Caller`), what for (`Action`), on which type of data
(`SubjectType`), and the instance itself. Anything with a type and named fields is a `Subject`, so
that stored records, drafts and typed values are judged alike.
-/

set_option autoImplicit false

namespace RowGuard

/-- A type of data that rules speak about. -/
inductive SubjectType where
  /-- Every type. -/
  | all
  | post
  | user
  deriving DecidableEq

namespace SubjectType

/-- The written name. -/
def name : SubjectType → String
  | all => "all"
  | post => "Post"
  | user => "User"

/-- The name in messages that show a whole record. -/
def inspect : SubjectType → String
  | all => "All"
  | post => "Post"
  | user => "User"

/-- The type with a written name. -/
def ofName? : String → Option SubjectType
  | "all" => some all
  | "Post" => some post
  | "User" => some user
  | _ => none

/-- Reads a name, or says which one is unknown. -/
def parse (s : String) : Result SubjectType :=
  match ofName? s with
  | some t => .ok t
  | none => .error (.invalidInput ("unknown subject type '" ++ s ++ "'"))

/-- Whether a rule about `rule` speaks about `asked`. -/
def covers (rule asked : SubjectType) : Bool := rule == .all || rule == asked

end SubjectType

/-- What a caller may want to do. -/
inductive Action where
  /-- Any action. -/
  | manage
  | create
  | read
  | update
  | delete
  deriving DecidableEq

namespace Action

/-- The written name. -/
def name : Action → String
  | manage => "manage"
  | create => "create"
  | read => "read"
  | update => "update"
  | delete => "delete"

/-- The action with a written name. -/
def ofName? : String → Option Action
  | "manage" => some manage
  | "create" => some create
  | "read" => some read
  | "update" => some update
  | "delete" => some delete
  | _ => none

/-- Reads a name, or says which one is unknown. -/
def parse (s : String) : Result Action :=
  match ofName? s with
  | some a => .ok a
  | none => .error (.invalidInput ("unknown action '" ++ s ++ "'"))

/-- Whether a rule about `rule` speaks about `asked`. -/
def covers (rule asked : Action) : Bool := rule == .manage || rule == asked

end Action

/-- What a rule says. -/
inductive Effect where
  | allow
  | deny
  deriving DecidableEq

namespace Effect

/-- The written name. -/
def name : Effect → String
  | allow => "allow"
  | deny => "deny"

/-- The effect with a written name. -/
def ofName? : String → Option Effect
  | "allow" => some allow
  | "deny" => some deny
  | _ => none

/-- Whether the effect allows. -/
def isAllow : Effect → Bool
  | allow => true
  | deny => false

end Effect

/-- The role of a caller. -/
inductive Role where
  | admin
  | user
  deriving DecidableEq

namespace Role

/-- The written name. -/
def name : Role → String
  | admin => "ADMIN"
  | user => "USER"

/-- The role with a written name. -/
def ofName? : String → Option Role
  | "ADMIN" => some admin
  | "USER" => some user
  | _ => none

/-- Reads a name in any case of its ASCII letters, or says which one is unknown. -/
def parse (s : String) : Result Role :=
  let upper := String.ofList (s.toList.map Char.toUpper)
  match ofName? upper with
  | some r => .ok r
  | none => .error (.invalidInput ("unknown role '" ++ upper ++ "'"))

end Role

/-- **Who a request is made for.** -/
structure Caller where
  id : Int64
  email : Option String
  role : Role
  attributes : Keyed String String

namespace Caller

/-- A caller with nothing but an identifier and a role. -/
def new (id : Int64) (role : Role) : Caller := ⟨id, none, role, []⟩

/-- An ordinary user. -/
def user (id : Int64) : Caller := new id .user

/-- An administrator. -/
def admin (id : Int64) : Caller := new id .admin

/-- The caller with an address. -/
def withEmail (c : Caller) (email : String) : Caller := { c with email := some email }

/-- The caller with one more attribute. -/
def withAttribute (c : Caller) (key value : String) : Caller :=
  { c with attributes := c.attributes.insert key value }

/-- Whether the caller is an administrator. -/
def isAdmin (c : Caller) : Bool := c.role == .admin

end Caller

/-- **An instance that rules can be asked about**: it has a type and named fields. -/
class Subject (α : Type) where
  subjectType : α → SubjectType
  field : α → String → Option Json

/-- A stored record. Its identifier is also a field of its data. -/
structure Record where
  model : SubjectType
  id : Int64
  data : Fields

/-- The record of a field map, with the identifier written into it. -/
def Record.new (model : SubjectType) (id : Int64) (data : Fields) : Record :=
  ⟨model, id, data.insert "id" (.ofId id)⟩

instance : Subject Record where
  subjectType := Record.model
  field r name := r.data.get? name

/-- A field map that is not stored yet. -/
structure Draft where
  model : SubjectType
  data : Fields

instance : Subject Draft where
  subjectType := Draft.model
  field d name := d.data.get? name

/-- A record as messages show it. -/
def Record.inspect (r : Record) : String :=
  "Record \x7b model: " ++ r.model.inspect ++ ", id: " ++ toString r.id.toInt ++ ", data: " ++
    braced (Json.inspectFields r.data) ++ " \x7d"

end RowGuard
