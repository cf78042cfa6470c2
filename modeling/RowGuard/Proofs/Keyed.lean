import Mathlib.Data.List.Sort
import RowGuard.Keyed

/-!
# Laws of finite maps

A map whose keys ascend has one pair for each key, so that reading it and listing it say the same
(`get?_eq_some_iff`). Writing, removing and filtering keep the keys ascending.

* `get?_mapValues`, `get?_filterValues`: reading a map whose values were changed or sorted out
* `insert_mapValues`, `erase_mapValues`: writing to a map whose values were changed
* `get?_insertNew`: reading after a write that keeps a value already there
* `get?_merge`, `get?_merge_of_ne`: reading after many writes, a written value before an old one
* `merge_insert`: a write and many others under other keys, in either order
* `length_insert`, `length_erase`: how many keys a map has after a write or a removal
-/

set_option autoImplicit false

namespace RowGuard

namespace Keyed

variable {κ α : Type} [DecidableEq κ]

theorem mem_of_get? {k : κ} {v : α} {m : Keyed κ α} (h : get? k m = some v) : (k, v) ∈ m := by
  induction m with
  | nil => cases h
  | cons p rest ih =>
    obtain ⟨k₀, v₀⟩ := p
    by_cases hk : k = k₀
    · subst hk
      rw [get?, if_pos rfl, Option.some.injEq] at h
      subst h; exact List.mem_cons_self
    · rw [get?, if_neg hk] at h
      exact List.mem_cons_of_mem _ (ih h)

/-- Reading a map whose values were changed changes what is read. -/
theorem get?_mapValues {β : Type} (f : α → β) (k : κ) (m : Keyed κ α) :
    get? k (m.map fun p => (p.1, f p.2)) = (get? k m).map f := by
  induction m with
  | nil => rfl
  | cons p rest ih =>
    obtain ⟨k₀, v₀⟩ := p
    rw [List.map_cons]
    by_cases hk : k = k₀
    · rw [get?, if_pos hk, get?, if_pos hk]; rfl
    · rw [get?, if_neg hk, get?, if_neg hk, ih]

/-- Changing the values of a map commutes with a removal. -/
theorem erase_mapValues {β : Type} (f : α → β) (k : κ) (m : Keyed κ α) :
    erase k (m.map fun p => (p.1, f p.2)) = (erase k m).map fun p => (p.1, f p.2) := by
  induction m with
  | nil => rfl
  | cons p rest ih =>
    obtain ⟨k₀, v₀⟩ := p
    rw [List.map_cons, erase, erase]
    by_cases hk : k = k₀
    · rw [if_pos hk, if_pos hk, ih]
    · rw [if_neg hk, if_neg hk, ih, List.map_cons]

theorem mem_of_mem_erase {k : κ} {p : κ × α} {m : Keyed κ α} (h : p ∈ erase k m) : p ∈ m := by
  induction m with
  | nil => cases h
  | cons q rest ih =>
    obtain ⟨k₀, v₀⟩ := q
    rw [erase] at h
    split at h
    · exact List.mem_cons_of_mem _ (ih h)
    · rcases List.mem_cons.1 h with rfl | h
      · exact List.mem_cons_self
      · exact List.mem_cons_of_mem _ (ih h)

/-- Nothing is left under a removed key. -/
theorem ne_of_mem_erase {k : κ} {p : κ × α} {m : Keyed κ α} (h : p ∈ erase k m) : p.1 ≠ k := by
  induction m with
  | nil => cases h
  | cons q rest ih =>
    obtain ⟨k₀, v₀⟩ := q
    rw [erase] at h
    split at h
    · exact ih h
    · rename_i hk
      rcases List.mem_cons.1 h with rfl | h
      · exact Ne.symm hk
      · exact ih h

variable [LT κ]

theorem mem_insert [DecidableLT κ] {k : κ} {v : α} {p : κ × α} {m : Keyed κ α}
    (h : p ∈ insert k v m) : p = (k, v) ∨ p ∈ m := by
  induction m with
  | nil => exact .inl (List.mem_singleton.1 h)
  | cons q rest ih =>
    obtain ⟨k₀, v₀⟩ := q
    rw [insert] at h
    split at h
    · rcases List.mem_cons.1 h with h | h
      · exact .inl h
      · exact .inr (List.mem_cons_of_mem _ h)
    · split at h
      · exact List.mem_cons.1 h
      · rcases List.mem_cons.1 h with rfl | h
        · exact .inr List.mem_cons_self
        · exact (ih h).imp_right (List.mem_cons_of_mem _)

/-- Changing the values of a map commutes with a write. -/
theorem insert_mapValues {β : Type} [DecidableLT κ] (f : α → β) (k : κ) (v : α) (m : Keyed κ α) :
    insert k (f v) (m.map fun p => (p.1, f p.2)) = (insert k v m).map fun p => (p.1, f p.2) := by
  induction m with
  | nil => rfl
  | cons p rest ih =>
    obtain ⟨k₀, v₀⟩ := p
    rw [List.map_cons, insert, insert]
    by_cases hk : k = k₀
    · rw [if_pos hk, if_pos hk, List.map_cons]
    · by_cases hlt : k < k₀
      · rw [if_neg hk, if_neg hk, if_pos hlt, if_pos hlt, List.map_cons, List.map_cons]
      · rw [if_neg hk, if_neg hk, if_neg hlt, if_neg hlt, ih, List.map_cons]

/-- Reading after a write under an absent key only: a value already there is kept. -/
theorem get?_insertNew [DecidableLT κ] (k k' : κ) (v : α) (m : Keyed κ α) :
    get? k' (insertNew k v m) = if k' = k then some ((get? k m).getD v) else get? k' m := by
  cases h : get? k m with
  | none =>
    have hnew : insertNew k v m = insert k v m := if_neg (by rw [has, h]; exact Bool.false_ne_true)
    rw [hnew, get?_insert]
    rfl
  | some w =>
    have hold : insertNew k v m = m := if_pos (by rw [has, h]; rfl)
    rw [hold]
    by_cases hk : k' = k
    · rw [if_pos hk, hk, h]; rfl
    · rw [if_neg hk]

/-! ## Ascending keys -/

/-- **The keys ascend.** -/
def Ascending (m : Keyed κ α) : Prop := m.Pairwise fun p q => p.1 < q.1

omit [DecidableEq κ] in
theorem Ascending.filter {m : Keyed κ α} (h : Ascending m) (P : κ × α → Bool) :
    Ascending (m.filter P) := List.Pairwise.filter P h

omit [DecidableEq κ] in
theorem Ascending.mapValues {β : Type} {m : Keyed κ α} (h : Ascending m) (f : α → β) :
    Ascending (m.map fun p => (p.1, f p.2)) := List.pairwise_map.2 h

theorem Ascending.erase {m : Keyed κ α} (h : Ascending m) (k : κ) : Ascending (erase k m) := by
  induction m with
  | nil => exact List.Pairwise.nil
  | cons p rest ih =>
    obtain ⟨hp, hr⟩ := List.pairwise_cons.1 h
    rw [Keyed.erase]
    split
    · exact ih hr
    · exact List.pairwise_cons.2 ⟨fun q hq => hp q (mem_of_mem_erase hq), ih hr⟩

variable [LE κ] [Std.LawfulOrderLT κ]

/-- **Reading and listing** an ascending map say the same. -/
theorem get?_eq_some_iff {m : Keyed κ α} (h : Ascending m) {k : κ} {v : α} :
    get? k m = some v ↔ (k, v) ∈ m := by
  refine ⟨mem_of_get?, fun hm => ?_⟩
  induction m with
  | nil => cases hm
  | cons p rest ih =>
    obtain ⟨hp, hr⟩ := List.pairwise_cons.1 h
    rcases List.mem_cons.1 hm with rfl | hm
    · rw [get?, if_pos rfl]
    · -- the pair stands further on, so its key is not the first one
      have hne : k ≠ p.1 := fun he => Std.lt_irrefl (he ▸ hp _ hm)
      rw [get?, if_neg hne]
      exact ih hr hm

theorem get?_eq_none_of_lt {m : Keyed κ α} {k : κ} (h : ∀ q ∈ m, k < q.1) : get? k m = none := by
  cases hg : get? k m with
  | none => rfl
  | some v => exact absurd (h _ (mem_of_get? hg)) Std.lt_irrefl

omit [DecidableEq κ] in
/-- An ascending map is the pairs in it. -/
theorem Ascending.eq_of_mem_iff {m m' : Keyed κ α} (h : Ascending m) (h' : Ascending m')
    (hmem : ∀ p, p ∈ m ↔ p ∈ m') : m = m' := by
  have : Std.Irrefl fun p q : κ × α => p.1 < q.1 := ⟨fun _ => Std.lt_irrefl⟩
  have : Std.Antisymm fun p q : κ × α => p.1 < q.1 :=
    ⟨fun _ _ hpq hqp => absurd hqp (Std.not_gt_of_lt hpq)⟩
  exact List.Pairwise.eq_of_mem_iff h h' hmem

/-- **An ascending map is what reading it says.** -/
theorem Ascending.ext {m m' : Keyed κ α} (h : Ascending m) (h' : Ascending m')
    (heq : ∀ k, get? k m = get? k m') : m = m' := by
  refine h.eq_of_mem_iff h' fun p => ?_
  rw [← get?_eq_some_iff h, heq, get?_eq_some_iff h']

/-- Two ascending maps with the same keys have as many pairs. -/
theorem Ascending.length_eq {β : Type} {m : Keyed κ α} {m' : Keyed κ β} (h : Ascending m)
    (h' : Ascending m') (heq : ∀ k, (get? k m).isSome = (get? k m').isSome) :
    m.length = m'.length := by
  -- forget the values and compare what is left
  have hkeys : m.map (fun p => (p.1, ())) = m'.map fun p => (p.1, ()) := by
    refine Ascending.ext (h.mapValues fun _ => ()) (h'.mapValues fun _ => ()) fun k => ?_
    have hk := heq k
    rw [get?_mapValues fun _ => (), get?_mapValues fun _ => ()]
    cases hm : get? k m <;> cases hm' : get? k m' <;> rw [hm, hm'] at hk
    · rfl
    · cases hk
    · cases hk
    · rfl
  have hlength := congrArg List.length hkeys
  rwa [List.length_map, List.length_map] at hlength

/-- Ascending maps with as many pairs have the same keys if one has none that the other lacks. -/
theorem Ascending.keys_eq {β : Type} {m : Keyed κ α} {m' : Keyed κ β} (h : Ascending m)
    (h' : Ascending m') (hlength : m.length = m'.length)
    (hkeys : ∀ p ∈ m, (get? p.1 m').isSome = true) : m.map Prod.fst = m'.map Prod.fst := by
  have : Std.Irrefl fun k k' : κ => k < k' := ⟨fun _ => Std.lt_irrefl⟩
  have : Std.Antisymm fun k k' : κ => k < k' :=
    ⟨fun _ _ hlt hgt => absurd hgt (Std.not_gt_of_lt hlt)⟩
  have hup : (m.map Prod.fst).Pairwise fun k k' => k < k' := List.pairwise_map.2 h
  have hup' : (m'.map Prod.fst).Pairwise fun k k' => k < k' := List.pairwise_map.2 h'
  have hsub : m.map Prod.fst ⊆ m'.map Prod.fst := by
    intro k hk
    obtain ⟨p, hp, rfl⟩ := List.mem_map.1 hk
    obtain ⟨v, hv⟩ := Option.isSome_iff_exists.1 (hkeys p hp)
    exact List.mem_map_of_mem (mem_of_get? hv)
  have hsubperm := List.subperm_of_subset hup.nodup hsub
  have hsublist := List.sublist_of_subperm_of_pairwise hsubperm hup hup'
  exact hsublist.eq_of_length (by rw [List.length_map, List.length_map, hlength])

/-- A removal of a key takes one pair away. -/
theorem length_erase {m : Keyed κ α} (h : Ascending m) {k : κ} {v : α} (hk : get? k m = some v) :
    (erase k m).length + 1 = m.length := by
  induction m with
  | nil => cases hk
  | cons p rest ih =>
    obtain ⟨hp, hr⟩ := List.pairwise_cons.1 h
    rw [erase]
    by_cases he : k = p.1
    · -- further on every key is greater, so nothing else goes
      have hrest : (erase k rest).length = rest.length := by
        refine Ascending.length_eq (Ascending.erase hr k) hr fun k' => ?_
        rw [get?_erase]
        by_cases hk' : k' = k
        · rw [if_pos hk', hk', get?_eq_none_of_lt fun q hq => he ▸ hp q hq]
        · rw [if_neg hk']
      rw [if_pos he, hrest, List.length_cons]
    · rw [get?, if_neg he] at hk
      rw [if_neg he, List.length_cons, ih hr hk, List.length_cons]

/-- Reading an ascending map whose values were sorted out. -/
theorem get?_filterValues {m : Keyed κ α} (h : Ascending m) (P : α → Bool) (k : κ) :
    get? k (m.filter fun p => P p.2) = (get? k m).filter P := by
  apply Option.ext
  intro v
  rw [get?_eq_some_iff (h.filter _), List.mem_filter, Option.filter_eq_some_iff,
    get?_eq_some_iff h]

variable [DecidableLT κ]

omit [LE κ] [Std.LawfulOrderLT κ] in
theorem merge_cons (k : κ) (v : α) (m rest : Keyed κ α) :
    merge m ((k, v) :: rest) = merge (insert k v m) rest := rfl

/-- **Reading after many writes** gives a written value before an old one. -/
theorem get?_merge {changes : Keyed κ α} (h : Ascending changes) (k : κ) : ∀ m : Keyed κ α,
    get? k (merge m changes) = (get? k changes).or (get? k m) := by
  induction changes with
  | nil => intro m; rfl
  | cons p rest ih =>
    obtain ⟨hp, hr⟩ := List.pairwise_cons.1 h
    obtain ⟨k₀, v₀⟩ := p
    intro m
    rw [merge_cons, ih hr, get?_insert, get?]
    by_cases hk : k = k₀
    · subst hk
      rw [if_pos rfl, if_pos rfl, get?_eq_none_of_lt hp]; rfl
    · rw [if_neg hk, if_neg hk]

omit [LE κ] [Std.LawfulOrderLT κ] in
/-- Reading under a key that many writes leave alone. -/
theorem get?_merge_of_ne {k : κ} {changes : Keyed κ α} (h : ∀ p ∈ changes, p.1 ≠ k) :
    ∀ m : Keyed κ α, get? k (merge m changes) = get? k m := by
  induction changes with
  | nil => intro m; rfl
  | cons p rest ih =>
    obtain ⟨k₀, v₀⟩ := p
    obtain ⟨hne, hrest⟩ := List.forall_mem_cons.1 h
    intro m
    rw [merge_cons, ih hrest, get?_insert, if_neg (Ne.symm hne)]

variable [Std.IsLinearOrder κ]

theorem Ascending.insert {m : Keyed κ α} (h : Ascending m) (k : κ) (v : α) :
    Ascending (insert k v m) := by
  induction m with
  | nil => exact List.pairwise_cons.2 ⟨fun q hq => (List.not_mem_nil hq).elim, List.Pairwise.nil⟩
  | cons p rest ih =>
    obtain ⟨hp, hr⟩ := List.pairwise_cons.1 h
    obtain ⟨k₀, v₀⟩ := p
    rw [Keyed.insert]
    by_cases hk : k = k₀
    · subst hk
      rw [if_pos rfl]; exact List.pairwise_cons.2 ⟨hp, hr⟩
    rw [if_neg hk]
    by_cases hlt : k < k₀
    · rw [if_pos hlt]
      refine List.pairwise_cons.2 ⟨fun q hq => ?_, h⟩
      rcases List.mem_cons.1 hq with rfl | hq
      · exact hlt
      · exact Std.lt_trans hlt (hp q hq)
    · rw [if_neg hlt]
      have hgt : k₀ < k := Std.lt_of_le_of_ne (Std.not_lt.1 hlt) (Ne.symm hk)
      refine List.pairwise_cons.2 ⟨fun q hq => ?_, ih hr⟩
      rcases mem_insert hq with rfl | hq
      · exact hgt
      · exact hp q hq

omit [LE κ] [Std.LawfulOrderLT κ] [Std.IsLinearOrder κ] in
/-- A write under a new key adds one pair. -/
theorem length_insert {m : Keyed κ α} {k : κ} (h : get? k m = none) (v : α) :
    (Keyed.insert k v m).length = m.length + 1 := by
  induction m with
  | nil => rfl
  | cons p rest ih =>
    have hk : k ≠ p.1 := fun he => by rw [get?, if_pos he] at h; cases h
    rw [get?, if_neg hk] at h
    rw [Keyed.insert, if_neg hk]
    split
    · rfl
    · rw [List.length_cons, ih h, List.length_cons]

/-- Writes under two keys may change places. -/
theorem insert_comm_of_lt {k k' : κ} (h : k < k') (v v' : α) (m : Keyed κ α) :
    insert k v (insert k' v' m) = insert k' v' (insert k v m) := by
  have hne : k ≠ k' := fun he => Std.lt_irrefl (he ▸ h)
  have hle : ¬ k' < k := Std.not_gt_of_lt h
  induction m with
  | nil => simp [insert, hne, hne.symm, h, hle]
  | cons p rest ih =>
    obtain ⟨k₀, v₀⟩ := p
    by_cases hk : k = k₀
    · subst hk
      simp [insert, hne.symm, hle]
    by_cases hk' : k' = k₀
    · subst hk'
      simp [insert, hne, hne.symm, h, hle]
    by_cases hlt : k < k₀
    · by_cases hlt' : k' < k₀ <;> simp [insert, hk, hk', hne, hne.symm, h, hle, hlt, hlt']
    · have hgt : k₀ < k := Std.lt_of_le_of_ne (Std.not_lt.1 hlt) (Ne.symm hk)
      have hlt' : ¬ k' < k₀ := Std.not_gt_of_lt (Std.lt_trans hgt h)
      simp [insert, hk, hk', hlt, hlt', ih]

theorem insert_comm {k k' : κ} (h : k ≠ k') (v v' : α) (m : Keyed κ α) :
    insert k v (insert k' v' m) = insert k' v' (insert k v m) := by
  by_cases hlt : k < k'
  · exact insert_comm_of_lt hlt v v' m
  · have hgt : k' < k := Std.lt_of_le_of_ne (Std.not_lt.1 hlt) (Ne.symm h)
    exact (insert_comm_of_lt hgt v' v m).symm

/-- A write may come after many under other keys. -/
theorem merge_insert {changes : Keyed κ α} {k : κ} (h : ∀ p ∈ changes, p.1 ≠ k) (v : α) :
    ∀ m : Keyed κ α, merge (insert k v m) changes = insert k v (merge m changes) := by
  induction changes with
  | nil => exact fun m => rfl
  | cons p rest ih =>
    obtain ⟨k₀, v₀⟩ := p
    intro m
    have hhead : k₀ ≠ k := h (k₀, v₀) List.mem_cons_self
    rw [merge_cons, merge_cons, insert_comm hhead, ih fun q hq => h q (List.mem_cons_of_mem _ hq)]

end Keyed

end RowGuard
