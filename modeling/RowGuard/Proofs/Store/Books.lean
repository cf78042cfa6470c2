import RowGuard.Proofs.Store.Identifiers

/-!
# The books of a table

The rows of a table are those that were made less those that were taken away, one by one or many at
a time. Books say so with the identifiers: those that were given out, those whose rows were taken
away one by one, and how many rows went together.

* `Table.Books`: books that are in order
* `Table.Books.create`, `Table.Books.delete`, `Table.Books.deleteMany`, `Table.Books.rewrite`: what
  each operation enters in them
-/

set_option autoImplicit false

namespace RowGuard

/-- **Books of a table that are in order.** The identifiers `made` were given out by counting. The
rows with the identifiers `taken` were taken away one by one, and `swept` rows were taken away many
at a time. -/
structure Table.Books (t : Table) (made taken : List Int64) (swept : Nat) : Prop where
  last : t.lastId = Int64.ofNat made.length
  given : ∀ id ∈ made, ∃ k, 1 ≤ k ∧ k ≤ made.length ∧ id = Int64.ofNat k
  distinct : made.Nodup
  once : taken.Nodup
  known : ∀ id ∈ taken, id ∈ made
  listed : ∀ {id r}, t.rows.get? id = some r → id ∈ made
  gone : ∀ id ∈ taken, t.rows.get? id = none
  balance : made.length = t.rows.length + taken.length + swept

namespace Table.Books

variable {t : Table} {made taken : List Int64} {swept : Nat}

theorem empty : Table.empty.Books [] [] 0 where
  last := rfl
  given := nofun
  distinct := List.nodup_nil
  once := List.nodup_nil
  known := nofun
  listed := nofun
  gone := nofun
  balance := rfl

/-- The order of the entries does not matter. -/
theorem perm (h : t.Books made taken swept) {made' taken' : List Int64} (hm : made'.Perm made)
    (ht : taken'.Perm taken) : t.Books made' taken' swept where
  last := by rw [hm.length_eq]; exact h.last
  given id hid := by rw [hm.length_eq]; exact h.given id (hm.mem_iff.1 hid)
  distinct := hm.nodup_iff.2 h.distinct
  once := ht.nodup_iff.2 h.once
  known id hid := hm.mem_iff.2 (h.known id (ht.mem_iff.1 hid))
  listed hr := hm.mem_iff.2 (h.listed hr)
  gone id hid := h.gone id (ht.mem_iff.1 hid)
  balance := by rw [hm.length_eq, ht.length_eq]; exact h.balance

/-- The next identifier was not given out before, until the count starts over. -/
theorem next_new (h : t.Books made taken swept) (hfew : made.length < 2 ^ 64 - 1) :
    t.lastId + 1 ∉ made := by
  intro hmem
  obtain ⟨k, h1, hk, heq⟩ := h.given _ hmem
  have hnext : Int64.ofNat (made.length + 1) = Int64.ofNat k := by
    rw [Int64.ofNat_add, ← h.last]; exact heq
  have := mod_eq_of_ofNat_eq hnext
  omega

/-- **A new row** is entered with the next identifier. -/
theorem create (h : t.Books made taken swept) (hfew : made.length < 2 ^ 64 - 1)
    (model : SubjectType) (data : Fields) :
    (t.create model data).2.Books ((t.lastId + 1) :: made) taken swept := by
  have hnew := h.next_new hfew
  have hnext : t.lastId + 1 = Int64.ofNat (made.length + 1) := by
    rw [Int64.ofNat_add, ← h.last]; rfl
  have hfree : t.rows.get? (t.lastId + 1) = none := by
    cases hr : t.rows.get? (t.lastId + 1) with
    | none => rfl
    | some r => exact absurd (h.listed hr) hnew
  refine ⟨hnext, fun id hid => ?_, List.nodup_cons.2 ⟨hnew, h.distinct⟩, h.once,
    fun id hid => List.mem_cons_of_mem _ (h.known id hid), fun {id r} hr => ?_, fun id hid => ?_, ?_⟩
  · rcases List.mem_cons.1 hid with rfl | hid
    · exact ⟨made.length + 1, by omega, Nat.le_refl _, hnext⟩
    · obtain ⟨k, h1, hk, heq⟩ := h.given id hid
      exact ⟨k, h1, by rw [List.length_cons]; omega, heq⟩
  · rw [Table.create, Keyed.get?_insert] at hr
    split at hr
    · rename_i hid; rw [hid]; exact List.mem_cons_self
    · exact List.mem_cons_of_mem _ (h.listed hr)
  · have hne : id ≠ t.lastId + 1 := fun he => hnew (he ▸ h.known id hid)
    rw [Table.create, Keyed.get?_insert, if_neg hne]
    exact h.gone id hid
  · have hlength := Keyed.length_insert hfree (Record.new model (t.lastId + 1) data)
    have := h.balance
    rw [Table.create, List.length_cons, hlength]
    omega

/-- **A row taken away** was there and is entered once. -/
theorem delete (h : t.Books made taken swept) (ha : t.rows.Ascending) {id : Int64} {f : Filter}
    {r : Record} (hr : t.byId id f = some r) :
    (t.delete id f).2.Books made (id :: taken) swept := by
  have hrow : t.rows.get? id = some r := (Option.filter_eq_some_iff.1 hr).1
  have hrest : (t.delete id f).2 = { t with rows := t.rows.erase id } := by
    rw [Table.delete, hr]
  have hnew : id ∉ taken := fun hid => by
    have hnone := h.gone id hid
    rw [hrow] at hnone; cases hnone
  rw [hrest]
  refine ⟨h.last, h.given, h.distinct, List.nodup_cons.2 ⟨hnew, h.once⟩, fun k hk => ?_,
    fun {k r'} hr' => ?_, fun k hk => ?_, ?_⟩
  · rcases List.mem_cons.1 hk with rfl | hk
    · exact h.listed hrow
    · exact h.known k hk
  · rw [Keyed.get?_erase] at hr'
    split at hr'
    · cases hr'
    · exact h.listed hr'
  · rw [Keyed.get?_erase]
    split
    · rfl
    · rename_i hne
      exact h.gone k ((List.mem_cons.1 hk).resolve_left hne)
  · have hlength := Keyed.length_erase ha hrow
    have := h.balance
    rw [List.length_cons]
    dsimp only
    omega

/-- **Rows taken away together** are as many as is said. -/
theorem deleteMany (h : t.Books made taken swept) (ha : t.rows.Ascending) (f : Filter) :
    (t.deleteMany f).2.Books made taken ((t.deleteMany f).1 + swept) := by
  refine ⟨h.last, h.given, h.distinct, h.once, h.known, fun {k r'} hr' => ?_, fun k hk => ?_, ?_⟩
  · rw [rows_deleteMany t f k ha] at hr'
    exact h.listed (Option.filter_eq_some_iff.1 hr').1
  · rw [rows_deleteMany t f k ha, h.gone k hk]; rfl
  · have hsplit : t.rows.length =
        (t.matching f).length + (t.rows.filter fun p => !f.admits p.2).length := by
      unfold matching
      rw [List.filter_map, List.length_map, ← List.countP_eq_length_filter,
        ← List.countP_eq_length_filter, List.length_eq_countP_add_countP (f.admits ∘ Prod.snd)]
      congr 2
      funext p
      simp
    have hleft : (t.deleteMany f).2.rows.length =
        (t.rows.filter fun p => !f.admits p.2).length := rfl
    have hgone : (t.deleteMany f).1 = (t.matching f).length := rfl
    have := h.balance
    omega

/-- **Rows that are only rewritten** need no entry. -/
theorem rewrite (h : t.Books made taken swept) {t' : Table} (ha : t.rows.Ascending)
    (ha' : t'.rows.Ascending) (hlast : t'.lastId = t.lastId)
    (hkeys : ∀ id, (t'.rows.get? id).isSome = (t.rows.get? id).isSome) :
    t'.Books made taken swept := by
  refine ⟨hlast.trans h.last, h.given, h.distinct, h.once, h.known, fun {id r} hr => ?_,
    fun id hid => ?_, ?_⟩
  · have hk := hkeys id
    rw [hr, eq_comm, Option.isSome_some, Option.isSome_iff_exists] at hk
    obtain ⟨r₀, hr₀⟩ := hk
    exact h.listed hr₀
  · have hk := hkeys id
    rw [h.gone id hid, Option.isSome_none, Option.isSome_eq_false_iff,
      Option.isNone_iff_eq_none] at hk
    exact hk
  · rw [ha'.length_eq ha hkeys]; exact h.balance

end Table.Books

/-- **An operation that neither makes nor removes rows** only rewrites them. -/
theorem Query.books_onTable {t : Table} {made taken : List Int64} {swept : Nat}
    (h : t.Books made taken swept) (ha : t.rows.Ascending) (now : Timestamp) {q : Query}
    (hc : q.operation ≠ .create) (hd : q.operation ≠ .delete) (hm : q.operation ≠ .deleteMany) :
    (q.onTable now t).Books made taken swept := by
  refine h.rewrite ha (q.ascending_onTable now t ha) (q.lastId_onTable now t hc) fun id => ?_
  rw [q.rows_onTable now hc ha]
  cases t.rows.get? id with
  | none => rfl
  | some r =>
    rw [Option.bind_some]
    split
    · unfold leaves
      split
      · rfl
      · rfl
      · rename_i hop; exact absurd hop hd
      · rename_i hop; exact absurd hop hm
      · rfl
    · rfl

end RowGuard
