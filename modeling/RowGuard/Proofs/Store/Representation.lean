import RowGuard.Proofs.Clients.History

/-!
# Stored rows and their identifiers

Whatever fields the queries of a history supply, also an identifier or dates of their own, each row
is filed under its identifier, shows it in its data, and has both dates. An identifier is given out
once: later rows have greater ones, also where the earlier row is gone by then.

* `Query.Alters`: what a query may do to a row, and `Request.alters`
* `Record.Filed`: a row as it should stand under an identifier
* `rows_filed_and_identifiers_fresh`: what holds after every history, and of the request after it
-/

set_option autoImplicit false

namespace RowGuard

/-- What a creation writes under a name. -/
theorem get?_prepareInsert (now : Timestamp) (data : Fields) (name : String) :
    (prepareInsert now data).get? name =
      if name = updatedField then some (.ofTimestamp now)
      else if name = createdField then some ((data.get? createdField).getD (.ofTimestamp now))
      else if name = idField then none
      else data.get? name := by
  unfold prepareInsert
  rw [Keyed.get?_insert, Keyed.get?_insertNew, Keyed.get?_erase, Keyed.get?_erase,
    if_neg (show createdField ≠ idField by decide)]

/-! ## What a request does to a row -/

/-- **What a query may do to a row**, from what stood under an identifier to what stands there
after it. A row is made under the identifier after the last one. -/
inductive Query.Alters (now : Timestamp) (q : Query) (last : Int64) (model : SubjectType)
    (id : Int64) : Option Record → Option Record → Prop
  | keep (row : Option Record) : Alters now q last model id row row
  | edit {row row' : Record} (h : row.Edited now (q.data.getD []) row') :
      Alters now q last model id (some row) (some row')
  | remove (row : Record) : Alters now q last model id (some row) none
  | make {data : Fields} (before : Option Record) (hop : q.operation = .create)
      (hmodel : model = q.model) (hid : id = last + 1) :
      Alters now q last model id before (some (.new model id (prepareInsert now data)))

theorem Query.alters_leaves (now : Timestamp) (q : Query) (hq : (q.data.getD []).Ascending)
    (last : Int64) (model : SubjectType) (id : Int64) (row : Record) :
    q.Alters now last model id (some row) (q.leaves now row) := by
  unfold leaves
  split
  · exact .edit (row.edited_apply now hq)
  · exact .edit (row.edited_apply now hq)
  · exact .remove row
  · exact .remove row
  · exact .keep (some row)

theorem Query.alters_execute {s : Store} (hs : s.Sound) (now : Timestamp) (q : Query)
    (hq : (q.data.getD []).Ascending) (model : SubjectType) (id : Int64) :
    q.Alters now (s.table model).lastId model id (s.row model id)
      ((s.execute now q).2.row model id) := by
  by_cases hmodel : model = q.model
  · subst hmodel
    by_cases hc : q.operation = .create
    · cases hd : q.data with
      | none =>
        have herror : (s.execute now q).1 = .error (.invalidInput "create requires data") := by
          unfold Store.execute
          simp only [hc, hd]
        rw [Store.execute_error herror]
        exact .keep _
      | some data =>
        rw [Store.row_execute_create now hc hd]
        dsimp only
        by_cases hid : id = (s.table q.model).lastId + 1
        · rw [if_pos hid, ← hid]
          exact .make _ hc rfl hid
        · rw [if_neg hid]
          exact .keep _
    · rw [Store.row_execute now hc (hs q.model).ascending]
      cases hrow : s.row q.model id with
      | none => exact .keep none
      | some row =>
        rw [Option.bind_some]
        by_cases hp : q.picks id row = true
        · rw [if_pos hp]
          exact q.alters_leaves now hq _ _ id row
        · rw [if_neg hp]
          exact .keep _
  · rw [Store.row_execute_of_ne now hmodel]
    exact .keep _

/-- What a query may do to a row does not depend on its filter. -/
theorem Query.Alters.of_refiltered {now : Timestamp} {q : Query} {f : Filter} {last : Int64}
    {model : SubjectType} {id : Int64} {before after : Option Record}
    (h : Query.Alters now { q with filter := f } last model id before after) :
    q.Alters now last model id before after := by
  cases h with
  | keep => exact .keep _
  | edit h => exact .edit h
  | remove row => exact .remove row
  | make before hop hmodel hid => exact .make before hop hmodel hid

/-- **What a request does to a row.** -/
theorem Request.alters {s : Store} (hs : s.Sound) (r : Request) (model : SubjectType) (id : Int64) :
    r.query.Alters r.now (s.table model).lastId model id (s.row model id)
      ((r.run s).2.row model id) := by
  rcases r.run_cases s with ⟨hkeep, -⟩ | ⟨asked, hputs, hrun, -⟩
  · rw [hkeep]
    exact .keep _
  · have hascending : (asked.data.getD []).Ascending := by
      rw [hputs.same]
      cases hd : r.query.data with
      | none => exact List.Pairwise.nil
      | some data => exact r.ascending data hd
    have halters := Query.alters_execute hs r.now asked hascending model id
    rw [hputs.same] at halters
    rw [hrun, hputs.same]
    exact halters.of_refiltered

/-! ## Rows as they should stand -/

namespace Record

/-- **A row filed under an identifier**: it has the identifier and the type of its table, its data
shows the identifier, and it has both dates. -/
structure Filed (r : Record) (model : SubjectType) (id : Int64) : Prop where
  key : r.id = id
  model : r.model = model
  shown : r.data.get? idField = some (.ofId id)
  dated : ∃ created, r.data.get? createdField = some created
  stamped : ∃ text, r.data.get? updatedField = some (.string text)

variable (now : Timestamp) (data : Fields) (model : SubjectType) (id : Int64)

/-- **A new row is filed** under its identifier, whatever its fields were to be. -/
theorem filed_new : (Record.new model id (prepareInsert now data)).Filed model id := by
  have hread : ∀ name, (Record.new model id (prepareInsert now data)).data.get? name =
      if name = idField then some (.ofId id) else (prepareInsert now data).get? name := by
    intro name
    unfold Record.new idField
    rw [Keyed.get?_insert]
  refine ⟨rfl, rfl, ?_, ?_, ?_⟩
  · rw [hread, if_pos rfl]
  · rw [hread, if_neg (by decide), get?_prepareInsert, if_neg (by decide), if_pos rfl]
    exact ⟨_, rfl⟩
  · rw [hread, if_neg (by decide), get?_prepareInsert, if_pos rfl]
    exact ⟨_, rfl⟩

variable {now data model id}

/-- An edited row stays filed, and keeps its identifier and its time of creation. -/
theorem Filed.edited {r r' : Record} (h : r.Filed model id) (he : r.Edited now data r') :
    r'.Filed model id := by
  obtain ⟨created, hcreated⟩ := h.dated
  refine ⟨he.id.trans h.key, he.model.trans h.model, ?_, ⟨created, ?_⟩, ⟨_, he.stamped⟩⟩
  · rw [he.protect idField (.inl rfl), h.shown]
  · rw [he.protect createdField (.inr rfl), hcreated]

end Record

/-- **Every row is filed** under its identifier. -/
def Store.Filed (s : Store) : Prop :=
  ∀ model id r, s.row model id = some r → r.Filed model id

theorem Query.Alters.filed {now : Timestamp} {q : Query} {last : Int64} {model : SubjectType}
    {id : Int64} {before after : Option Record} (h : q.Alters now last model id before after)
    (hbefore : ∀ r, before = some r → r.Filed model id) :
    ∀ r, after = some r → r.Filed model id := by
  intro r hr
  cases h with
  | keep => exact hbefore r hr
  | edit he =>
    cases hr
    exact (hbefore _ rfl).edited he
  | remove row => cases hr
  | make before hop hmodel hid =>
    cases hr
    exact Record.filed_new now _ model id

namespace Store

variable {s : Store}

theorem filed_empty : Store.empty.Filed := by
  intro model id r hr
  cases model <;> cases hr

theorem Filed.run (h : s.Filed) (hs : s.Sound) (r : Request) : (r.run s).2.Filed :=
  fun model id => (r.alters hs model id).filed (h model id)

/-- **Every history files its rows.** -/
theorem Filed.after (h : s.Filed) (hs : s.Sound) (history : List Request) :
    (s.after history).Filed := by
  induction history generalizing s with
  | nil => exact h
  | cons r rest ih => exact ih (h.run hs r) (hs.run r)

/-! ## Identifiers are given out once -/

/-- **An identifier above all** that rows of a type had at any time of a history. -/
def AboveAll (history : List Request) (model : SubjectType) (id : Int64) : Prop :=
  ∀ past, past <+: history → ∀ id₀ row, (empty.after past).row model id₀ = some row → id₀ < id

variable {history : List Request} {model : SubjectType}

/-- Identifiers that were given out are counted from 1 to the last one. -/
theorem bounds_after (hfew : empty.made history model < 2 ^ 63 - 1) {id : Int64} {r : Record}
    (hr : (empty.after history).row model id = some r) :
    1 ≤ id ∧ id ≤ ((empty.after history).table model).lastId := by
  have hcounted := counted_after history model
  obtain ⟨k, h1, hk, rfl⟩ := hcounted.given hr
  rw [hcounted.last]
  have hfirst : Int64.ofNat 1 ≤ Int64.ofNat k :=
    (Int64.ofNat_le_iff_le (by omega) (by omega)).2 h1
  exact ⟨hfirst, (Int64.ofNat_le_iff_le (by omega) (by omega)).2 hk⟩

/-- **The next identifier is above all** that were ever given out in its table. -/
theorem next_aboveAll (hfew : empty.made history model < 2 ^ 63 - 1) :
    AboveAll history model (((empty.after history).table model).lastId + 1) := by
  intro past hpast id₀ row hrow
  obtain ⟨rest, rfl⟩ := hpast
  obtain ⟨k, h1, hk, rfl⟩ := (counted_after past model).given hrow
  have hmade := made_append (s := empty) past rest model
  have hnext : ((empty.after (past ++ rest)).table model).lastId + 1 =
      Int64.ofNat (empty.made (past ++ rest) model + 1) := by
    rw [(counted_after (past ++ rest) model).last, Int64.ofNat_add]
    rfl
  rw [hnext]
  exact (Int64.ofNat_lt_iff_lt (by omega) (by omega)).2 (by omega)

/-- **A creation that succeeds** answers with the row it made under the next identifier. -/
theorem answer_create {s : Store} {r : Request} (hop : r.query.operation = .create)
    {output : Output} (hok : (r.run s).1 = .ok output) : ∃ row : Record,
      output = .record (some row) ∧ row.id = (s.table r.query.model).lastId + 1 ∧
        (r.run s).2.row r.query.model row.id = some row := by
  rcases r.run_cases s with ⟨-, herror⟩ | ⟨asked, hputs, hrun, hanswer⟩
  · obtain ⟨e, he⟩ := herror hop
    rw [he] at hok
    cases hok
  have hsame := hputs.same
  have hmodel : asked.model = r.query.model := by rw [hsame]
  have hasked : asked.operation = .create := by rw [hsame]; exact hop
  rw [hanswer hop] at hok
  rw [hrun, ← hmodel]
  cases hd : asked.data with
  | none =>
    have hisOk := isOk_create r.now s hasked
    rw [hok, hd] at hisOk
    cases hisOk
  | some data =>
    rw [answer_drafted r.now s hasked hd, Except.ok.injEq] at hok
    refine ⟨_, hok.symm, rfl, ?_⟩
    rw [row_execute_create r.now hasked hd]
    exact if_pos rfl

/-- **Rows are filed, and identifiers are given out once.** Take any history, of queries with or
without the guard and with any fields, that has made fewer than `2 ^ 63 - 1` rows of each type. Each
row is filed under its identifier, which lies between 1 and the last one given out. Whatever is
requested next, a row is made only by a creation, under an identifier above all that rows of its
type ever had; and a row that was there before keeps its identifier and its time of creation. -/
theorem rows_filed_and_identifiers_fresh (history : List Request)
    (hfew : ∀ model, empty.made history model < 2 ^ 63 - 1) :
    let s := empty.after history
    (∀ model id r, s.row model id = some r →
      r.Filed model id ∧ 1 ≤ id ∧ id ≤ (s.table model).lastId) ∧
    ∀ next : Request, let s' := (next.run s).2
      (next.query.operation = .create → ∀ output, (next.run s).1 = .ok output → ∃ row : Record,
        output = .record (some row) ∧ s'.row next.query.model row.id = some row ∧
          AboveAll history next.query.model row.id) ∧
      ∀ model id r', s'.row model id = some r' →
        (s.row model id = none → next.query.operation = .create ∧ model = next.query.model ∧
          AboveAll history model id) ∧
        ∀ r, s.row model id = some r →
          r'.id = r.id ∧ r'.data.get? idField = r.data.get? idField ∧
            r'.data.get? createdField = r.data.get? createdField := by
  intro s
  have hs : s.Sound := sound_empty.after history
  refine ⟨fun model id r hr => ?_, fun next => ⟨fun hop output hok => ?_,
    fun model id r' hr' => ?_⟩⟩
  · have hfiled : s.Filed := filed_empty.after sound_empty history
    exact ⟨hfiled model id r hr, bounds_after (hfew model) hr⟩
  · obtain ⟨row, houtput, hid, hrow⟩ := answer_create hop hok
    refine ⟨row, houtput, hrow, ?_⟩
    rw [hid]
    exact next_aboveAll (hfew _)
  · have halters := next.alters hs model id
    have hfresh : id = (s.table model).lastId + 1 → AboveAll history model id := by
      rintro rfl
      exact next_aboveAll (hfew model)
    rw [hr'] at halters
    refine ⟨fun hnone => ?_, fun r hr => ?_⟩
    · rw [hnone] at halters
      cases halters with
      | make before hop hmodel hid => exact ⟨hop, hmodel, hfresh hid⟩
    · rw [hr] at halters
      cases halters with
      | keep => exact ⟨rfl, rfl, rfl⟩
      | edit he => exact ⟨he.id, he.protect _ (.inl rfl), he.protect _ (.inr rfl)⟩
      | make before hop hmodel hid =>
        -- the row would have the identifier of a row that is there now
        have hlt := hfresh hid history (List.prefix_refl history) id r hr
        exact absurd hlt Int64.lt_irrefl

/-- A post made with an identifier and a date of its own. -/
def backdated : Request where
  access := .raw
  query := .create .post [(createdField, .string "2001"), (idField, .int 7)]
  now := dayOne
  ascending := by
    rintro data ⟨⟩
    exact List.pairwise_pair.2 (by decide)

/-- The removal of the first post. -/
def removal : Request := ⟨.raw, .delete .post 1, dayOne, nofun⟩

/-- A post is made and removed, and the next one has another identifier. -/
theorem identifier_of_removed_post_stays_unused :
    (∀ model, empty.made [backdated, removal] model < 2 ^ 63 - 1) ∧
    (empty.after [backdated, removal]).row .post 1 = none ∧
    ∃ row : Record, (backdated.run (empty.after [backdated, removal])).1 =
        .ok (.record (some row)) ∧ 1 < row.id := by
  have hfew : ∀ model, empty.made [backdated, removal] model < 2 ^ 63 - 1 := fun model =>
    Nat.lt_of_le_of_lt (made_le_length [backdated, removal] model) (by decide)
  refine ⟨hfew, rfl, ?_⟩
  obtain ⟨output, hok⟩ : ∃ output,
      (backdated.run (empty.after [backdated, removal])).1 = .ok output := ⟨_, rfl⟩
  obtain ⟨-, hnext⟩ := rows_filed_and_identifiers_fresh [backdated, removal] hfew
  obtain ⟨row, rfl, -, habove⟩ := (hnext backdated).1 rfl output hok
  obtain ⟨first, hfirst⟩ : ∃ first, (empty.after [backdated]).row .post 1 = some first := ⟨_, rfl⟩
  exact ⟨row, hok, habove [backdated] ⟨[removal], rfl⟩ 1 first hfirst⟩

end Store

end RowGuard
