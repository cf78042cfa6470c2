/-!
# Finite maps as ascending lists of pairs

Field maps and tables are lists of key/value pairs kept in ascending key order, so that listing a
map shows its order. The laws of reading and writing need no order at all:

* `get?_insert`: reading after a write
* `get?_erase`: reading after a removal
-/

set_option autoImplicit false

namespace RowGuard

/-- A finite map, as a list of pairs in ascending key order. -/
abbrev Keyed (κ α : Type) := List (κ × α)

namespace Keyed

variable {κ α : Type} [DecidableEq κ]

/-- The value under a key. -/
def get? (k : κ) : Keyed κ α → Option α
  | [] => none
  | (k', v) :: rest => if k = k' then some v else get? k rest

/-- Whether a key is present. -/
def has (k : κ) (m : Keyed κ α) : Bool := (get? k m).isSome

/-- The map without a key. -/
def erase (k : κ) : Keyed κ α → Keyed κ α
  | [] => []
  | (k', v) :: rest => if k = k' then erase k rest else (k', v) :: erase k rest

variable [LT κ] [DecidableLT κ]

/-- **Writes a value under a key**, in the key's place; a value already there is replaced. -/
def insert (k : κ) (v : α) : Keyed κ α → Keyed κ α
  | [] => [(k, v)]
  | (k', v') :: rest =>
    if k = k' then (k, v) :: rest
    else if k < k' then (k, v) :: (k', v') :: rest
    else (k', v') :: insert k v rest

/-- Writes a value only under a key that is absent. -/
def insertNew (k : κ) (v : α) (m : Keyed κ α) : Keyed κ α := if has k m then m else insert k v m

/-- Every pair of `changes` written over `m`, in order. -/
def merge (m changes : Keyed κ α) : Keyed κ α := changes.foldl (fun acc p => insert p.1 p.2 acc) m

/-- The map of a list of pairs; of several pairs with one key the last counts. -/
def ofPairs (ps : List (κ × α)) : Keyed κ α := merge [] ps

/-- **Reading after a write** gives the written value under its key and the old one elsewhere. -/
theorem get?_insert (k k' : κ) (v : α) (m : Keyed κ α) :
    get? k' (insert k v m) = if k' = k then some v else get? k' m := by
  induction m with
  | nil => rfl
  | cons p rest ih =>
    obtain ⟨k₀, v₀⟩ := p
    by_cases h : k = k₀
    · subst h; by_cases hk : k' = k <;> simp [insert, get?, hk]
    · by_cases hlt : k < k₀
      · simp [insert, get?, h, hlt]
      · by_cases hk₀ : k' = k₀
        · subst hk₀; simp [insert, get?, h, hlt, Ne.symm h]
        · simp [insert, get?, h, hlt, hk₀, ih]

omit [LT κ] [DecidableLT κ] in
/-- **Reading after a removal** finds nothing under the removed key and the old value elsewhere. -/
theorem get?_erase (k k' : κ) (m : Keyed κ α) :
    get? k' (erase k m) = if k' = k then none else get? k' m := by
  induction m with
  | nil => simp [erase, get?]
  | cons p rest ih =>
    obtain ⟨k₀, v₀⟩ := p
    by_cases h : k = k₀
    · subst h
      by_cases hk : k' = k
      · subst hk; simpa [erase] using ih
      · simpa [erase, get?, hk] using ih
    · by_cases hk₀ : k' = k₀
      · subst hk₀; simp [erase, get?, h, Ne.symm h]
      · simp [erase, get?, h, hk₀, ih]

end Keyed

end RowGuard
