import RowGuard.Codec.Filter
import RowGuard.Codec.Subject
import RowGuard.Rule.Basic

/-!
# Rules in JSON

A rule is written as `effect`, `action`, `subject` and, when it has one, `condition`; a condition is
the list of its predicates, and a rule set the list of its rules.
-/

set_option autoImplicit false

namespace RowGuard

namespace Predicate

/-- A predicate in JSON. -/
def toJson (p : Predicate) : Json :=
  .object [("field", .string p.field), ("op", .string p.op.name), ("value", p.value)]

/-- Reads a predicate. -/
def ofJson? (v : Json) : Option Predicate := do
  let fields ← v.members? ["field", "op", "value"]
  let field ← Fields.required "field" Json.asString? fields
  let op ← Fields.required "op" Comparison.ofJson? fields
  let value ← Fields.required "value" some fields
  return ⟨field, op, value⟩

end Predicate

namespace Condition

/-- A condition in JSON. -/
def toJson (c : Condition) : Json :=
  .object [("predicates", .array (c.predicates.map Predicate.toJson))]

/-- Reads a condition. -/
def ofJson? (v : Json) : Option Condition := do
  let fields ← v.members? ["predicates"]
  let predicates ← Fields.required "predicates" (Json.asListOf? Predicate.ofJson?) fields
  return ⟨predicates⟩

end Condition

namespace Rule

/-- **A rule in JSON.** -/
def toJson (r : Rule) : Json :=
  .object (("action", .string r.action.name) ::
    (Json.present "condition" (r.condition.map Condition.toJson) ++
      [("effect", .string r.effect.name), ("subject", .string r.subject.name)]))

/-- **Reads a rule.** The condition may be left out or null. -/
def ofJson? (v : Json) : Option Rule := do
  let fields ← v.members? ["effect", "action", "subject", "condition"]
  let effect ← Fields.required "effect" Effect.ofJson? fields
  let action ← Fields.required "action" Action.ofJson? fields
  let subject ← Fields.required "subject" SubjectType.ofJson? fields
  let condition ← Fields.optional "condition" Condition.ofJson? fields
  return ⟨effect, action, subject, condition⟩

end Rule

namespace RuleSet

/-- **A rule set in JSON.** -/
def toJson (rs : RuleSet) : Json := .object [("rules", .array (rs.rules.map Rule.toJson))]

/-- **Reads a rule set.** -/
def ofJson? (v : Json) : Option RuleSet := do
  let fields ← v.members? ["rules"]
  let rules ← Fields.required "rules" (Json.asListOf? Rule.ofJson?) fields
  return ⟨rules⟩

end RuleSet

end RowGuard
