import Mathlib.Algebra.Ring.Nat
import RowGuard.Proofs.Clients.Safety
import RowGuard.Proofs.Guard.Reports
import RowGuard.Proofs.Store.Books

/-!
# No record lost, none counted twice

Any number of clients make and delete records of one store, with lookups, deletions and bulk
deletions that race for the same rows. What they are told adds up all the same. An identifier is
returned by one creation only, and by one deletion at most, after its creation; and what was made is
what is stored and what the deletions say they took away.

* `World.outputs`: what the queries of a run that succeeded came to
* `World.outputs_turn`: a turn adds at most one output, and none is ever forgotten
* `World.Booked.turn`: what a turn enters in the books
* `World.records_accounted_for`: the books after any run
-/

set_option autoImplicit false

namespace RowGuard

namespace Output

/-- The identifier of the record that was returned, if one was. -/
def id? : Output → Option Int64
  | record (some r) => some r.id
  | _ => none

/-- The number of records that was returned. -/
def number : Output → Nat
  | count n => n
  | _ => 0

end Output

/-- The identifiers of the records that were returned. -/
def idsOf (outputs : List Output) : List Int64 := outputs.filterMap Output.id?

/-- The numbers of records that were returned, all together. -/
def numberOf (outputs : List Output) : Nat := (outputs.map Output.number).sum

theorem idsOf_append (new outputs : List Output) :
    idsOf (new ++ outputs) = idsOf new ++ idsOf outputs := List.filterMap_append

theorem numberOf_append (new outputs : List Output) :
    numberOf (new ++ outputs) = numberOf new + numberOf outputs := by
  unfold numberOf
  rw [List.map_append, List.sum_append_nat]

/-- What an errand of an operation on a model came to, once it is over with success. -/
def Errand.outputFor? (op : Operation) (model : SubjectType) (e : Errand) : Option Output :=
  if e.query.operation = op ∧ e.query.model = model then e.left.output? else none

namespace World

/-- The queries of all clients that were begun. -/
def errands (w : World) : List Errand := w.clients.flatMap Client.errands

/-- **What the operations on a model came to**, those of all clients that succeeded so far. -/
def outputs (w : World) (op : Operation) (model : SubjectType) : List Output :=
  w.errands.filterMap (Errand.outputFor? op model)

/-- **The identifiers that creations returned.** -/
def createdIds (w : World) (model : SubjectType) : List Int64 :=
  idsOf (w.outputs .create model)

/-- **The identifiers that deletions of one record returned.** A deletion without the guard may also
return no record. -/
def deletedIds (w : World) (model : SubjectType) : List Int64 :=
  idsOf (w.outputs .delete model)

/-- **How many records the bulk deletions say they took away**, all together. -/
def sweptCount (w : World) (model : SubjectType) : Nat :=
  numberOf (w.outputs .deleteMany model)

/-! ## What a turn does to the outputs -/

/-- Exchanging one client exchanges its errands and keeps those of the others. -/
theorem errands_set {clients : List Client} {i : Nat} {c : Client} (hc : clients[i]? = some c) :
    ∃ others, (clients.flatMap Client.errands).Perm (c.errands ++ others) ∧
      ∀ c', ((clients.set i c').flatMap Client.errands).Perm (c'.errands ++ others) := by
  induction clients generalizing i with
  | nil => cases hc
  | cons first rest ih =>
    cases i with
    | zero =>
      cases hc
      exact ⟨rest.flatMap Client.errands, .refl _, fun c' => .refl _⟩
    | succ i =>
      obtain ⟨others, hold, hnew⟩ := ih hc
      have hswap : ∀ (mine : List Errand) (all : List Errand), all.Perm (mine ++ others) →
          (first.errands ++ all).Perm (mine ++ (first.errands ++ others)) := by
        intro mine all h
        rw [← List.append_assoc]
        exact (h.append_left _).trans (by
          rw [← List.append_assoc]
          exact List.perm_append_comm.append_right others)
      exact ⟨first.errands ++ others, hswap _ _ hold, fun c' => hswap _ _ (hnew c')⟩

/-- **Everything a turn can do to the errands**: move them about, begin one, or put a question of
one. -/
theorem errands_turn (w : World) (t : Nat × Timestamp) :
    ((w.turn t).store = w.store ∧ ((w.turn t).errands.Perm w.errands ∨
      ∃ access q, (w.turn t).errands.Perm (.start access q :: w.errands))) ∨
    ∃ e others q next calls, e.left = .ask q next ∧ w.errands.Perm (e :: others) ∧
      (w.turn t).store = (w.store.execute t.2 q).2 ∧
      (w.turn t).errands.Perm
        (⟨e.query, calls, next (w.store.execute t.2 q).1⟩ :: others) := by
  rcases w.turn_cases t with ht | ⟨c, hc, ht⟩
  · rw [ht]; exact .inl ⟨rfl, .inl (.refl _)⟩
  obtain ⟨others, hold, hnew⟩ := errands_set hc
  have hturn : (w.turn t).errands.Perm ((c.turn t.2 w.store).1.errands ++ others) := by
    rw [ht]; exact hnew _
  have hstore : (w.turn t).store = (c.turn t.2 w.store).2 := congrArg store ht
  -- an errand under way stands after the finished ones
  have hlast : ∀ (e : Errand) (done : List Errand),
      (done ++ [e] ++ others).Perm (e :: (done ++ others)) := fun e done => by
    rw [List.append_assoc]; exact List.perm_middle
  rcases c.turn_cases t.2 w.store with
    hn | ⟨q, rest, hc, hn⟩ | ⟨e, hc, hn⟩ | ⟨e, q, next, hc, hl, hn⟩
  all_goals
    rw [hn] at hturn hstore
    unfold Client.errands at hturn hold
  -- nothing happened
  · exact .inl ⟨hstore, .inl (hturn.trans hold.symm)⟩
  -- a query was begun
  · rw [hc, Option.toList_none, List.append_nil] at hold
    exact .inl ⟨hstore, .inr ⟨c.access, q, hturn.trans ((hlast _ _).trans (hold.symm.cons _))⟩⟩
  -- an outcome was noted
  · rw [hc] at hold
    rw [Option.toList_none, List.append_nil] at hturn
    exact .inl ⟨hstore, .inl (hturn.trans hold.symm)⟩
  -- a question was put
  · rw [hc] at hold
    exact .inr ⟨e, c.finished ++ others, q, next, _, hl, hold.trans (hlast _ _), hstore,
      hturn.trans (hlast _ _)⟩

/-- Every errand reports what it does. -/
def Reporting (w : World) : Prop := ∀ e ∈ w.errands, e.left.Reports e.query

theorem reporting_start (clients : List (Access × List Query)) : (start clients).Reporting := by
  intro e he
  obtain ⟨c, hc, he⟩ := List.mem_flatMap.1 he
  obtain ⟨a, -, rfl⟩ := List.mem_map.1 hc
  exact (List.not_mem_nil he).elim

theorem Reporting.turn {w : World} (h : w.Reporting) (t : Nat × Timestamp) :
    (w.turn t).Reporting := by
  intro e he
  rcases w.errands_turn t with
    ⟨-, hp | ⟨access, q, hp⟩⟩ | ⟨e₀, others, q, next, calls, hl, hold, -, hp⟩
  · exact h e (hp.mem_iff.1 he)
  · rcases List.mem_cons.1 (hp.mem_iff.1 he) with rfl | he
    · exact access.reports q
    · exact h e he
  · rcases List.mem_cons.1 (hp.mem_iff.1 he) with rfl | he
    · have hreports := h e₀ (hold.mem_iff.2 List.mem_cons_self)
      rw [hl] at hreports
      exact (hreports _).1
    · exact h e (hold.mem_iff.2 (List.mem_cons_of_mem _ he))

/-- **A turn adds at most one output**, and none is forgotten. The store changes only with a
question, and what is added comes of its answer. -/
theorem outputs_turn {w : World} (h : w.Reporting) (t : Nat × Timestamp) :
    ((w.turn t).store = w.store ∧
      ∀ op model, ((w.turn t).outputs op model).Perm (w.outputs op model)) ∨
    ∃ (e : Errand) (asked : Query),
      Dialogue.Reported e.query asked (w.store.execute t.2 asked).1 e.left ∧
      (w.turn t).store = (w.store.execute t.2 asked).2 ∧
      ∀ op model, ((w.turn t).outputs op model).Perm
        ((e.outputFor? op model).toList ++ w.outputs op model) := by
  rcases w.errands_turn t with
    ⟨hs, hp | ⟨access, q, hp⟩⟩ | ⟨e, others, asked, next, calls, hl, hold, hs, hp⟩
  · exact .inl ⟨hs, fun op model => hp.filterMap _⟩
  · refine .inl ⟨hs, fun op model => (hp.filterMap _).trans ?_⟩
    have hfresh : Errand.outputFor? op model (.start access q) = none := by
      unfold Errand.outputFor?
      rw [show (Errand.start access q).left.output? = none from access.output_dialogue q, ite_self]
    rw [List.filterMap_cons_none hfresh]
    exact .refl _
  · have hreports := h e (hold.mem_iff.2 List.mem_cons_self)
    rw [hl] at hreports
    refine .inr ⟨⟨e.query, calls, _⟩, asked, (hreports _).2, hs,
      fun op model => (hp.filterMap _).trans ?_⟩
    -- the errand had come to nothing before its question
    have hnone : e.outputFor? op model = none := by
      unfold Errand.outputFor?
      rw [hl]
      exact ite_self _
    have hrest : (w.outputs op model).Perm (others.filterMap (Errand.outputFor? op model)) := by
      refine (hold.filterMap _).trans ?_
      rw [List.filterMap_cons_none hnone]
    refine List.Perm.trans ?_ (hrest.symm.append_left _)
    rw [List.filterMap_cons]
    cases Errand.outputFor? op model ⟨e.query, calls, next (w.store.execute t.2 asked).1⟩ with
    | none => exact .refl _
    | some output => exact .refl _

end World

/-! ## What a question enters in the books -/

section Written

variable {s : Store} {made taken : List Int64} {swept : Nat} {asked : Query}
  {left : Dialogue (Result Output)} (now : Timestamp)

/-- A creation enters the record that it returns. -/
theorem Table.Books.created (h : (s.table asked.model).Books made taken swept)
    (hfew : made.length < 2 ^ 64 - 1) (hop : asked.operation = .create)
    (hends : Dialogue.EndsWith (s.execute now asked).1 left) :
    (∀ output ∈ left.output?.toList, ∃ r, output = .record (some r)) ∧
      (asked.onTable now (s.table asked.model)).Books
        (idsOf left.output?.toList ++ made) taken swept := by
  cases hd : asked.data with
  | none =>
    rw [hends.output_of_error (Store.answer_undrafted now s hop hd)]
    refine ⟨fun output ho => absurd ho List.not_mem_nil, ?_⟩
    simp only [Query.onTable, hop, hd]
    exact h
  | some data =>
    rw [hends.output_of_ok (Store.answer_drafted now s hop hd) (by rintro ⟨⟩)]
    refine ⟨fun output ho => ⟨_, List.mem_singleton.1 ho⟩, ?_⟩
    simp only [Query.onTable, hop, hd]
    exact h.create hfew asked.model (prepareInsert now data)

/-- A deletion of one record enters it if it returns it. -/
theorem Table.Books.deleted (h : (s.table asked.model).Books made taken swept)
    (hs : s.Sound) (hop : asked.operation = .delete)
    (hends : Dialogue.EndsWith (s.execute now asked).1 left) :
    (asked.onTable now (s.table asked.model)).Books made
      (idsOf left.output?.toList ++ taken) swept := by
  cases hid : asked.id with
  | none =>
    rw [hends.output_of_error (Store.answer_no_id now s (by rw [hop]; rfl) hid)]
    simp only [Query.onTable, hop, hid]
    exact h
  | some id =>
    have hanswer : (s.execute now asked).1 =
        .ok (.record ((s.table asked.model).delete id asked.filter).1) := by
      unfold Store.execute; simp only [hop, hid]
    simp only [Query.onTable, hop, hid]
    cases hrow : (s.table asked.model).byId id asked.filter with
    | none =>
      -- no record was found, so the table is as it was
      have hnone : ((s.table asked.model).delete id asked.filter).1 = none := by
        rw [Table.delete, hrow]
      rw [hnone] at hanswer
      rw [Table.delete_of_none _ hnone]
      rcases hends.output_of_nothing hanswer with hleft | hleft <;> rw [hleft] <;> exact h
    | some r =>
      have hsome : ((s.table asked.model).delete id asked.filter).1 = some r := by
        rw [Table.delete, hrow]
      rw [hsome] at hanswer
      rw [hends.output_of_ok hanswer (by rintro ⟨⟩)]
      have hr : r.id = id := ((hs asked.model).filed (Option.filter_eq_some_iff.1 hrow).1).1
      subst hr
      exact h.delete (hs asked.model).ascending hrow

/-- A bulk deletion enters the number that it returns. -/
theorem Table.Books.cleared (h : (s.table asked.model).Books made taken swept) (hs : s.Sound)
    (hop : asked.operation = .deleteMany)
    (hends : Dialogue.EndsWith (s.execute now asked).1 left) :
    (asked.onTable now (s.table asked.model)).Books made taken
      (numberOf left.output?.toList + swept) := by
  have hanswer : (s.execute now asked).1 =
      .ok (.count ((s.table asked.model).deleteMany asked.filter).1) := by
    unfold Store.execute; simp only [hop]
  rw [hends.output_of_ok hanswer (by rintro ⟨⟩)]
  simp only [Query.onTable, hop]
  exact h.deleteMany (hs asked.model).ascending asked.filter

/-- **A table that outputs account for**: every creation that succeeded returned a record, and the
books made of what the operations came to are in order. -/
structure Table.Booked (t : Table) (outputs : Operation → List Output) : Prop where
  records : ∀ output ∈ outputs .create, ∃ r, output = .record (some r)
  books : t.Books (idsOf (outputs .create)) (idsOf (outputs .delete))
    (numberOf (outputs .deleteMany))

theorem Table.Booked.perm {t : Table} {outputs outputs' : Operation → List Output}
    (h : t.Booked outputs) (hp : ∀ op, op.action ≠ .read → (outputs' op).Perm (outputs op)) :
    t.Booked outputs' := by
  have hcreate := hp .create (by decide)
  have hsweep := (hp .deleteMany (by decide)).map Output.number
  refine ⟨fun output ho => h.records output (hcreate.mem_iff.1 ho), ?_⟩
  have hnumber : numberOf (outputs' .deleteMany) = numberOf (outputs .deleteMany) := hsweep.sum_nat
  rw [hnumber]
  exact h.books.perm (hcreate.filterMap _) ((hp .delete (by decide)).filterMap _)

/-- **A question that may write** enters what it comes to. -/
theorem Table.Booked.written {outputs : Operation → List Output}
    (h : (s.table asked.model).Booked outputs) (hs : s.Sound)
    (hfew : (idsOf (outputs .create)).length < 2 ^ 64 - 1)
    (hends : Dialogue.EndsWith (s.execute now asked).1 left) :
    (asked.onTable now (s.table asked.model)).Booked fun op =>
      (if asked.operation = op then left.output?.toList else []) ++ outputs op := by
  cases hop : asked.operation with
  | create =>
    obtain ⟨hrecords, hbooks⟩ := h.books.created now hfew hop hends
    refine ⟨fun output ho => ?_, ?_⟩
    · rw [if_pos rfl] at ho
      exact (List.mem_append.1 ho).elim (hrecords output) (h.records output)
    · simpa only [reduceCtorEq, if_true, if_false, List.nil_append, idsOf_append] using hbooks
  | delete =>
    refine ⟨h.records, ?_⟩
    have hbooks := h.books.deleted now hs hop hends
    simpa only [reduceCtorEq, if_true, if_false, List.nil_append, idsOf_append] using hbooks
  | deleteMany =>
    refine ⟨h.records, ?_⟩
    have hbooks := h.books.cleared now hs hop hends
    simpa only [reduceCtorEq, if_true, if_false, List.nil_append, numberOf_append] using hbooks
  | findUnique | findFirst | findMany | count | aggregate | update | updateMany =>
    refine ⟨h.records, Query.books_onTable h.books (hs asked.model).ascending now ?_ ?_ ?_⟩
    all_goals rw [hop]; decide

end Written

namespace World

variable {w : World} {model : SubjectType}

/-- **The books of a model** are those of its table and of all outputs so far. -/
def Booked (w : World) (model : SubjectType) : Prop :=
  (w.store.table model).Booked fun op => w.outputs op model

theorem booked_start (clients : List (Access × List Query)) (model : SubjectType) :
    (start clients).Booked model := by
  have herrands : (start clients).errands = [] := by
    refine List.flatMap_eq_nil_iff.2 fun c hc => ?_
    obtain ⟨a, -, rfl⟩ := List.mem_map.1 hc
    rfl
  have hnone : (fun op => (start clients).outputs op model) = fun _ => [] := by
    funext op
    unfold outputs
    rw [herrands]; rfl
  unfold Booked
  rw [hnone]
  refine ⟨nofun, ?_⟩
  cases model <;> exact Table.Books.empty

/-- **A turn keeps the books in order**, as long as identifiers are not given out anew. -/
theorem Booked.turn (h : w.Booked model) (hs : w.store.Sound) (hr : w.Reporting)
    (t : Nat × Timestamp) (hfew : (w.createdIds model).length < 2 ^ 64 - 1) :
    (w.turn t).Booked model := by
  unfold Booked
  rcases outputs_turn hr t with ⟨hstore, hsame⟩ | ⟨e, asked, hreported, hstore, hadded⟩
  · rw [hstore]
    exact h.perm fun op _ => hsame op model
  -- what is entered nowhere leaves the outputs that count as they are
  have hquiet : (∀ op, op.action ≠ .read → e.outputFor? op model = none) →
      ∀ op, op.action ≠ .read → ((w.turn t).outputs op model).Perm (w.outputs op model) := by
    intro hnone op hop
    have hp := hadded op model
    rwa [hnone op hop] at hp
  cases hreported with
  | read only quiet =>
    rw [hstore, Store.execute_read t.2 asked _ only]
    refine h.perm (hquiet fun op hop => ?_)
    unfold Errand.outputFor?
    split
    · rename_i he; exact quiet (by rw [he.1]; exact hop)
    · rfl
  | write same ends =>
    have hop : asked.operation = e.query.operation := by rw [same]
    have hmodel : asked.model = e.query.model := by rw [same]
    rw [hstore, Store.table_execute]
    by_cases hm : model = asked.model
    · subst hm
      rw [if_pos rfl]
      refine (h.written t.2 hs hfew ends).perm fun op _ => (hadded op asked.model).trans (.of_eq ?_)
      unfold Errand.outputFor?
      rw [← hop, ← hmodel]
      by_cases ho : asked.operation = op
      · rw [if_pos ⟨ho, rfl⟩, if_pos ho]
      · rw [if_neg fun hc => ho hc.1, if_neg ho]; rfl
    · rw [if_neg hm]
      refine h.perm (hquiet fun op _ => ?_)
      unfold Errand.outputFor?
      exact if_neg fun hc => hm (hc.2.symm.trans hmodel.symm)

/-- A turn takes back no output. -/
theorem length_outputs_turn (hr : w.Reporting) (t : Nat × Timestamp) (op : Operation)
    (model : SubjectType) : (w.outputs op model).length ≤ ((w.turn t).outputs op model).length := by
  rcases outputs_turn hr t with ⟨-, hsame⟩ | ⟨e, asked, -, -, hadded⟩
  · exact Nat.le_of_eq (hsame op model).length_eq.symm
  · have hp := (hadded op model).length_eq
    rw [List.length_append] at hp
    omega

/-- Neither does a run. -/
theorem length_outputs_run {w : World} (hr : w.Reporting) (op : Operation) (model : SubjectType)
    (turns : List (Nat × Timestamp)) :
    (w.outputs op model).length ≤ ((w.run turns).outputs op model).length := by
  induction turns generalizing w with
  | nil => exact Nat.le_refl _
  | cons t rest ih => exact Nat.le_trans (length_outputs_turn hr t op model) (ih (hr.turn t))

theorem reporting_run {w : World} (hr : w.Reporting) (turns : List (Nat × Timestamp)) :
    (w.run turns).Reporting := by
  induction turns generalizing w with
  | nil => exact hr
  | cons t rest ih => exact ih (hr.turn t)

theorem run_append (w : World) (past later : List (Nat × Timestamp)) :
    w.run (past ++ later) = (w.run past).run later := List.foldl_append ..

/-- The creations that returned an identifier are among those that succeeded. -/
theorem length_createdIds_le (w : World) (model : SubjectType) :
    (w.createdIds model).length ≤ (w.outputs .create model).length := List.length_filterMap_le ..

/-- **Every run keeps the books in order.** -/
theorem booked_run (clients : List (Access × List Query)) (model : SubjectType)
    (schedule : List (Nat × Timestamp))
    (hfew : (((start clients).run schedule).outputs .create model).length < 2 ^ 64 - 1) :
    ((start clients).run schedule).Booked model := by
  -- induction from the end of the schedule, for the bound is on the whole run
  induction schedule using List.reverseRecOn with
  | nil => exact booked_start clients model
  | append_singleton past t ih =>
    rw [run_append] at hfew ⊢
    have hr := reporting_run (reporting_start clients) past
    have hpast := Nat.lt_of_le_of_lt (length_outputs_turn hr t .create model) hfew
    have hs := ((inv_start clients).run past).store
    exact (ih hpast).turn hs hr t (Nat.lt_of_le_of_lt (length_createdIds_le _ model) hpast)

/-- **No record lost, none counted twice.** Take any clients, raw or guarded, any queries of theirs
and any order of turns in which fewer than `2 ^ 63 - 1` records of a model are created. After any
number of the turns, the creations that succeeded so far returned records with different
identifiers; the deletions of one record returned each of these once at most, and no other; and as
many records were created as are stored, were returned by deletions and were counted by bulk
deletions. -/
theorem records_accounted_for (clients : List (Access × List Query))
    (schedule : List (Nat × Timestamp)) (model : SubjectType)
    (hfew : (((start clients).run schedule).outputs .create model).length < 2 ^ 63 - 1)
    (past : List (Nat × Timestamp)) (hpast : past <+: schedule) :
    let w := (start clients).run past
    (∀ output ∈ w.outputs .create model, ∃ r, output = .record (some r)) ∧
    (w.createdIds model).Nodup ∧
    (w.deletedIds model).Nodup ∧ (∀ id ∈ w.deletedIds model, id ∈ w.createdIds model) ∧
    (w.outputs .create model).length =
      w.store.rowCount model + (w.deletedIds model).length + w.sweptCount model := by
  intro w
  obtain ⟨later, rfl⟩ := hpast
  rw [run_append] at hfew
  have hreporting := reporting_run (reporting_start clients) past
  have hsofar := length_outputs_run hreporting .create model later
  have h : w.Booked model := booked_run clients model past (by omega)
  refine ⟨h.records, h.books.distinct, h.books.once, h.books.known, ?_⟩
  -- every creation that succeeded returned an identifier
  have hall : (w.createdIds model).length = (w.outputs .create model).length := by
    refine List.filterMap_length_eq_length.2 fun output ho => ?_
    obtain ⟨r, rfl⟩ := h.records output ho
    rfl
  rw [← hall]
  exact h.books.balance

/-- Someone makes a post of user 1 and one of user 2. User 1 deletes the first, while someone else
deletes it too and then all that is left. -/
def race : List (Access × List Query) :=
  [(.raw, [.create .post [(authorField, .int 1)], .create .post [(authorField, .int 2)]]),
   (.inContext (some (.forCaller (some (.user 1)))), [.delete .post 1]),
   (.raw, [.delete .post 1, .deleteMany .post .pass])]

/-- The deletion of user 1 is past its check when the other one takes the post away. -/
def raceTurns : List (Nat × Timestamp) :=
  [0, 0, 0, 0, 0, 1, 1, 2, 2, 2, 1, 2, 2].map (·, Store.dayOne)

/-- **Two deletions that race for one post**: one of them returns it, and two posts were made. -/
theorem racing_deletions_accounted_for :
    let w := (start race).run raceTurns
    (w.outputs .create .post).length < 2 ^ 63 - 1 ∧
    w.store.rowCount .post = 0 ∧ w.deletedIds .post = [1] ∧ w.sweptCount .post = 1 ∧
    (w.outputs .create .post).length = 2 ∧ 1 ∈ w.createdIds .post := by
  intro w
  have hfew : (w.outputs .create .post).length < 2 ^ 63 - 1 := by
    rw [show (w.outputs .create .post).length = 2 from rfl]; decide
  have hrows : w.store.rowCount .post = 0 := rfl
  have hdeleted : w.deletedIds .post = [1] := rfl
  have hswept : w.sweptCount .post = 1 := rfl
  obtain ⟨-, -, -, hknown, hbalance⟩ :=
    records_accounted_for race raceTurns .post hfew raceTurns (List.prefix_refl raceTurns)
  refine ⟨hfew, hrows, hdeleted, hswept, ?_, hknown 1 ?_⟩
  · rw [hbalance, hrows, hdeleted, hswept]; rfl
  · rw [hdeleted]; exact List.mem_singleton_self 1

end World

end RowGuard
