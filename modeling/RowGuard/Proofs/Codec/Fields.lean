import RowGuard.Codec.Fields
import RowGuard.Proofs.Text.Numeral

/-!
# Parts of structures are read back

Values and fields as readers of structures find them. A field that is only written when it is there
stands for itself and for its absence, as long as what is written is not null: null would be read as
an absent part.

* `ReadsBack`: reading gives back what was written
* `Keyed.get?_present_append`: what is found after a field that may be absent
* `Fields.required_of_get?`, `Fields.optional_of_get?`: reading a field that was written
-/

set_option autoImplicit false

namespace RowGuard

/-- **Reading gives back what was written**, and never fails on it. -/
def ReadsBack {α : Type} (write : α → Json) (read : Json → Option α) : Prop :=
  ∀ a, read (write a) = some a

variable {α : Type}

namespace Json

theorem readsBack_string : ReadsBack .string asString? := fun _ => rfl

theorem readsBack_bool : ReadsBack .bool asBool? := fun _ => rfl

theorem readsBack_fields : ReadsBack .object asFields? := fun _ => rfl

theorem readsBack_id : ReadsBack ofId asId? := by
  intro id
  have hread : (ofId id).asId? = idOfInt? id.toInt := rfl
  rw [hread, idOfInt?_toInt]

theorem string_ne_null (s : String) : string s ≠ null := nofun

variable {write : α → Json} {read : Json → Option α}

/-- **A list is read** element by element. -/
theorem readsBack_list (h : ReadsBack write read) :
    ReadsBack (fun as => .array (as.map write)) (asListOf? read) := by
  intro as
  have helems : asListOf? read (.array (as.map write)) = (as.map write).mapM read := rfl
  rw [helems]
  induction as with
  | nil => rfl
  | cons a rest ih =>
    rw [List.map_cons, List.mapM_cons, h a, ih rfl]
    rfl

/-- A value that is there is not taken for null. -/
theorem asNullable?_of_ne_null {v : Json} (hv : v ≠ .null) :
    asNullable? read v = (read v).map some := by
  cases v with
  | null => exact absurd rfl hv
  | bool _ | number _ | string _ | array _ | object _ => rfl

end Json

/-- **Reading past a field that may be absent**: the field under its own name, and the other fields
as if it were not there. -/
theorem Keyed.get?_present_append (name k : String) (v : Option Json) (rest : Fields) :
    get? k (Json.present name v ++ rest) =
      if k = name then v.or (get? k rest) else get? k rest := by
  cases v with
  | none => simp [Json.present]
  | some v => simp [Json.present, get?]

/-- A field that may be absent, alone or after the others. -/
theorem Keyed.get?_present (name k : String) (v : Option Json) :
    get? k (Json.present name v) = if k = name then v else none := by
  have happend := get?_present_append name k v []
  rw [List.append_nil] at happend
  rw [happend, get?, Option.or_none]

namespace Fields

variable {name : String} {fields : Fields} {write : α → Json} {read : Json → Option α}

/-- A field that must be there, and is. -/
theorem required_of_get? (h : ReadsBack write read) {a : α}
    (hget : fields.get? name = some (write a)) : required name read fields = some a := by
  rw [required, hget, Option.bind_some, h a]

/-- A field that may be left out, but is there. -/
theorem defaulted_of_get? (h : ReadsBack write read) (fallback : α) {a : α}
    (hget : fields.get? name = some (write a)) : defaulted name fallback read fields = some a := by
  rw [defaulted, hget]
  exact h a

/-- **A field that is only written when it is there.** -/
theorem optional_of_get? (h : ReadsBack write read) (hnull : ∀ a, write a ≠ .null) {o : Option α}
    (hget : fields.get? name = o.map write) : optional name read fields = some o := by
  rw [optional, defaulted, hget]
  cases o with
  | none => rfl
  | some a =>
    have hread : Json.asNullable? read (write a) = some (some a) := by
      rw [Json.asNullable?_of_ne_null (hnull a), h a, Option.map_some]
    exact hread

end Fields

end RowGuard
