import RowGuard.Codec.Fields

/-!
# Callers and records in JSON

A caller is written as `id`, `email` when there is one, `role` and `attributes`; a record as
`model`, `id` and `data`.
-/

set_option autoImplicit false

namespace RowGuard

/-- A type of data. -/
def SubjectType.ofJson? : Json → Option SubjectType := Json.variant? ofName?

/-- An action. -/
def Action.ofJson? : Json → Option Action := Json.variant? ofName?

/-- An effect. -/
def Effect.ofJson? : Json → Option Effect := Json.variant? ofName?

/-- A role. -/
def Role.ofJson? : Json → Option Role := Json.variant? ofName?

/-- An attribute of a caller. -/
def attribute? : String × Json → Option (String × String)
  | (name, .string s) => some (name, s)
  | _ => none

/-- The attributes of a caller. -/
def attributes? (v : Json) : Option (Keyed String String) :=
  v.asFields?.bind fun fields => fields.mapM attribute?

namespace Caller

/-- **A caller in JSON.** -/
def toJson (c : Caller) : Json :=
  .object (("attributes", .object (c.attributes.map fun p => (p.1, .string p.2))) ::
    (Json.present "email" (c.email.map .string) ++
      [("id", .ofId c.id), ("role", .string c.role.name)]))

/-- **Reads a caller.** Address and attributes may be left out. -/
def ofJson? (v : Json) : Option Caller := do
  let fields ← v.members? ["id", "email", "role", "attributes"]
  let id ← Fields.required "id" Json.asId? fields
  let email ← Fields.optional "email" Json.asString? fields
  let role ← Fields.required "role" Role.ofJson? fields
  let attributes ← Fields.defaulted "attributes" [] attributes? fields
  return ⟨id, email, role, attributes⟩

end Caller

namespace Record

/-- **A record in JSON.** -/
def toJson (r : Record) : Json :=
  .object [("data", .object r.data), ("id", .ofId r.id), ("model", .string r.model.name)]

/-- **Reads a record**, taking its data as it stands. -/
def ofJson? (v : Json) : Option Record := do
  let fields ← v.members? ["model", "id", "data"]
  let model ← Fields.required "model" SubjectType.ofJson? fields
  let id ← Fields.required "id" Json.asId? fields
  let data ← Fields.required "data" Json.asFields? fields
  return ⟨model, id, data⟩

end Record

end RowGuard
