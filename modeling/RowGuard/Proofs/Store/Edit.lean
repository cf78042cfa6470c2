import RowGuard.Proofs.Keyed
import RowGuard.Store.Basic

/-!
# What an update leaves of a record

An update writes the caller's fields over those of the record, except for the identifier and the
time of creation, and dates the record anew. Nothing else changes (`Record.edited_apply`).
-/

set_option autoImplicit false

namespace RowGuard

/-- What an update writes under a name. -/
theorem get?_prepareUpdate (now : Timestamp) (data : Fields) (name : String) :
    (prepareUpdate now data).get? name =
      if name = updatedField then some (.ofTimestamp now)
      else if name = createdField ∨ name = idField then none
      else data.get? name := by
  unfold prepareUpdate
  rw [Keyed.get?_insert, Keyed.get?_erase, Keyed.get?_erase]
  by_cases hc : name = createdField
  · rw [if_pos hc, if_pos (Or.inl hc)]
  · by_cases hi : name = idField
    · rw [if_neg hc, if_pos hi, if_pos (Or.inr hi)]
    · rw [if_neg hc, if_neg hi, if_neg (not_or.2 ⟨hc, hi⟩)]

theorem ascending_prepareUpdate (now : Timestamp) {data : Fields} (h : data.Ascending) :
    (prepareUpdate now data).Ascending := ((h.erase _).erase _).insert _ _

namespace Record

/-- **An edited record**: the same record with the supplied fields in the place of the old ones and
the clock reading as the time of writing. -/
structure Edited (now : Timestamp) (supplied : Fields) (r r' : Record) : Prop where
  id : r'.id = r.id
  model : r'.model = r.model
  stamped : r'.data.get? updatedField = some (.ofTimestamp now)
  protect : ∀ name, name = idField ∨ name = createdField → r'.data.get? name = r.data.get? name
  replaced : ∀ name v, name ≠ idField → name ≠ createdField → name ≠ updatedField →
    supplied.get? name = some v → r'.data.get? name = some v
  kept : ∀ name, name ≠ updatedField → supplied.get? name = none →
    r'.data.get? name = r.data.get? name

theorem get?_apply {changes : Fields} (h : changes.Ascending) (r : Record) (name : String) :
    (r.apply changes).data.get? name = (changes.get? name).or (r.data.get? name) :=
  Keyed.get?_merge h name r.data

/-- **An update edits the record** and does nothing else to it. -/
theorem edited_apply (now : Timestamp) {data : Fields} (h : data.Ascending) (r : Record) :
    r.Edited now data (r.apply (prepareUpdate now data)) := by
  have hread : ∀ name, (r.apply (prepareUpdate now data)).data.get? name =
      ((prepareUpdate now data).get? name).or (r.data.get? name) :=
    get?_apply (ascending_prepareUpdate now h) r
  refine ⟨rfl, rfl, ?_, fun name hn => ?_, fun name v hi hc hu hv => ?_, fun name hu hn => ?_⟩
  · rw [hread, get?_prepareUpdate, if_pos rfl]; rfl
  · have hu : name ≠ updatedField := by rcases hn with rfl | rfl <;> decide
    rw [hread, get?_prepareUpdate, if_neg hu, if_pos hn.symm, Option.none_or]
  · rw [hread, get?_prepareUpdate, if_neg hu, if_neg (not_or.2 ⟨hc, hi⟩), hv]; rfl
  · rw [hread, get?_prepareUpdate, if_neg hu, hn, ite_self, Option.none_or]

end Record

end RowGuard
