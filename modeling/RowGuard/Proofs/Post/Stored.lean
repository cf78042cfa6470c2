import RowGuard.Post.Basic
import RowGuard.Proofs.Except
import RowGuard.Proofs.Keyed
import RowGuard.Proofs.Timestamp.RoundTrip

/-!
# Posts as they are stored

A post is stored as a row with one field for each part; a content that nobody supplied has no field.
The row of a new post and the row of a changed one are again rows of posts, and a row of a post
is read as that post.

* `Post.row`: the row of a post
* `NewPost.post`, `PostChanges.applied`: what becomes of the parts that a caller supplies
* `Post.ofFields_stored`: reading a row of a post
-/

set_option autoImplicit false

namespace RowGuard

namespace Post

/-- The fields of a post in its row. -/
def stored (p : Post) : Fields :=
  (authorField, .ofId p.authorId) :: Json.present "content" (p.content.map .string) ++
    [(createdField, .ofTimestamp p.createdAt), (idField, .ofId p.id),
      ("published", .bool p.published), ("title", .string p.title),
      (updatedField, .ofTimestamp p.updatedAt)]

/-- **The row of a post.** -/
def row (p : Post) : Record := ⟨.post, p.id, p.stored⟩

/-- **A post with dates that exist.** -/
structure Dated (p : Post) : Prop where
  created : p.createdAt.Exists
  updated : p.updatedAt.Exists

end Post

/-- **The new post** of an author, under an identifier and made at a clock reading. -/
def NewPost.post (input : NewPost) (id author : Int64) (now : Timestamp) : Post :=
  ⟨id, input.title, input.content, input.published, author, now, now⟩

/-- **The changed post**: the parts that are there replace the old ones. -/
def PostChanges.applied (c : PostChanges) (now : Timestamp) (p : Post) : Post :=
  { p with
    title := c.title.getD p.title
    content := c.content.or p.content
    published := c.published.getD p.published
    updatedAt := now }

theorem NewPost.dated_post (input : NewPost) (id author : Int64) {now : Timestamp}
    (h : now.Exists) : (input.post id author now).Dated := ⟨h, h⟩

theorem PostChanges.dated_applied (c : PostChanges) {now : Timestamp} (h : now.Exists) {p : Post}
    (hp : p.Dated) : (c.applied now p).Dated := ⟨hp.created, h⟩

/-! ## Writing a row -/

/-- **The row made for a new post** is the row of that post. -/
theorem NewPost.row_post (input : NewPost) (id author : Int64) (now : Timestamp) :
    Record.new .post id (prepareInsert now (input.toFields.insert authorField (.ofId author))) =
      (input.post id author now).row := by
  obtain ⟨title, content, published⟩ := input
  cases content <;> rfl

namespace Post

variable (p : Post)

/-- A content that is there takes its place in the row, and likewise the other parts. -/
theorem merge_content (content : Option String) (rest : Fields) :
    p.stored.merge (Json.present "content" (content.map .string) ++ rest) =
      { p with content := content.or p.content }.stored.merge rest := by
  cases content with
  | none => rfl
  | some s =>
    have hput : p.stored.insert "content" (.string s) = { p with content := some s }.stored := by
      obtain ⟨id, title, content, published, author, created, updated⟩ := p
      cases content <;> rfl
    exact (Keyed.merge_cons ..).trans (congrArg (Keyed.merge · rest) hput)

theorem merge_published (published : Option Bool) (rest : Fields) :
    p.stored.merge (Json.present "published" (published.map .bool) ++ rest) =
      { p with published := published.getD p.published }.stored.merge rest := by
  cases published with
  | none => rfl
  | some b =>
    have hput : p.stored.insert "published" (.bool b) = { p with published := b }.stored := by
      obtain ⟨id, title, content, published, author, created, updated⟩ := p
      cases content <;> rfl
    exact (Keyed.merge_cons ..).trans (congrArg (Keyed.merge · rest) hput)

theorem merge_title (title : Option String) (rest : Fields) :
    p.stored.merge (Json.present "title" (title.map .string) ++ rest) =
      { p with title := title.getD p.title }.stored.merge rest := by
  cases title with
  | none => rfl
  | some s =>
    have hput : p.stored.insert "title" (.string s) = { p with title := s }.stored := by
      obtain ⟨id, title, content, published, author, created, updated⟩ := p
      cases content <;> rfl
    exact (Keyed.merge_cons ..).trans (congrArg (Keyed.merge · rest) hput)

/-- The time of the change is merged in last. -/
theorem merge_updated (now : Timestamp) :
    p.stored.merge [(updatedField, .ofTimestamp now)] = { p with updatedAt := now }.stored := by
  rw [Keyed.merge_cons]
  obtain ⟨id, title, content, published, author, created, updated⟩ := p
  cases content <;> rfl

end Post

/-- A change writes the parts that are there, and then the time of writing. -/
theorem PostChanges.prepareUpdate_toFields (c : PostChanges) (now : Timestamp) :
    prepareUpdate now c.toFields = c.toFields ++ [(updatedField, .ofTimestamp now)] := by
  obtain ⟨title, content, published⟩ := c
  cases title <;> cases content <;> cases published <;> rfl

/-- **The row of a changed post** is the old row with the changes written over it. -/
theorem PostChanges.row_applied (c : PostChanges) (now : Timestamp) (p : Post) :
    p.row.apply (prepareUpdate now c.toFields) = (c.applied now p).row := by
  have hwritten : p.stored.merge (prepareUpdate now c.toFields) = (c.applied now p).stored := by
    rw [c.prepareUpdate_toFields, toFields, List.append_assoc, List.append_assoc, p.merge_content,
      Post.merge_published, Post.merge_title, Post.merge_updated]
    rfl
  exact congrArg (Record.mk .post p.id) hwritten

/-! ## Reading a row -/

theorem wantId_ofId (id : Int64) : (Json.ofId id).wantId = .ok id := by
  unfold Json.ofId Json.int Json.wantId
  dsimp only
  rw [idOfInt?_toInt]

/-- A time that exists is read back from its text. -/
theorem wantTimestamp_ofTimestamp {t : Timestamp} (h : t.Exists) :
    (Json.ofTimestamp t).wantTimestamp = .ok t := by
  unfold Json.ofTimestamp Json.wantTimestamp
  dsimp only
  rw [Timestamp.parse_storedText h]

namespace Post

/-- Every field of a row of a post is fit for a post. -/
theorem checkField_stored {p : Post} (h : p.Dated) :
    ∀ f ∈ p.stored, checkField f.1 f.2 = .ok () := by
  have hid : ∀ id, (Json.ofId id).wantId.map (fun _ => ()) = .ok () := fun id =>
    map_eq_ok_iff.2 ⟨id, wantId_ofId id, rfl⟩
  have htime : ∀ t : Timestamp, t.Exists →
      (Json.ofTimestamp t).wantTimestamp.map (fun _ => ()) = .ok () := fun t ht =>
    map_eq_ok_iff.2 ⟨t, wantTimestamp_ofTimestamp ht, rfl⟩
  have hcontent : ∀ f ∈ Json.present "content" (p.content.map .string),
      checkField f.1 f.2 = .ok () := by
    intro f hf
    cases hc : p.content with
    | none => rw [hc] at hf; cases hf
    | some s =>
      rw [hc] at hf
      rw [List.mem_singleton.1 hf]
      rfl
  intro f hf
  unfold stored at hf
  simp only [List.mem_append, List.mem_cons, List.not_mem_nil, or_false] at hf
  rcases hf with (rfl | hf) | rfl | rfl | rfl | rfl | rfl
  · exact hid p.authorId
  · exact hcontent f hf
  · exact htime p.createdAt h.created
  · exact hid p.id
  · rfl
  · rfl
  · exact htime p.updatedAt h.updated

/-- A field is decoded if it is there and has the form that is wanted. -/
theorem needed_of_get? {α : Type} {name : String} {want : Json → Except DecodeFault α}
    {fields : Fields} {v : Json} {a : α} (hget : fields.get? name = some v)
    (hwant : want v = .ok a) : needed name want fields = .ok a := by
  rw [needed, hget]
  exact hwant

/-- **A row of a post** is read as that post. -/
theorem ofFields_stored {p : Post} (h : p.Dated) : ofFields p.stored = .ok p := by
  have hcheck := forM_eq_ok (checkField_stored h)
  have hid : needed "id" Json.wantId p.stored = .ok p.id :=
    needed_of_get? (by unfold stored; cases p.content <;> rfl) (wantId_ofId p.id)
  have htitle : needed "title" Json.wantString p.stored = .ok p.title :=
    needed_of_get? (v := .string p.title) (by unfold stored; cases p.content <;> rfl) rfl
  have hcontent : orElse "content" none Json.wantNullableString p.stored = .ok p.content := by
    obtain ⟨id, title, content, published, author, created, updated⟩ := p
    cases content <;> rfl
  have hpublished : orElse "published" false Json.wantBool p.stored = .ok p.published := by
    obtain ⟨id, title, content, published, author, created, updated⟩ := p
    cases content <;> rfl
  have hauthor : needed "authorId" Json.wantId p.stored = .ok p.authorId :=
    needed_of_get? rfl (wantId_ofId p.authorId)
  have hcreated : needed "createdAt" Json.wantTimestamp p.stored = .ok p.createdAt :=
    needed_of_get? (by unfold stored; cases p.content <;> rfl)
      (wantTimestamp_ofTimestamp h.created)
  have hupdated : needed "updatedAt" Json.wantTimestamp p.stored = .ok p.updatedAt :=
    needed_of_get? (by unfold stored; cases p.content <;> rfl)
      (wantTimestamp_ofTimestamp h.updated)
  unfold ofFields
  refine bind_eq_ok_iff.2 ⟨_, hcheck, bind_eq_ok_iff.2 ⟨_, hid, bind_eq_ok_iff.2 ⟨_, htitle, ?_⟩⟩⟩
  refine bind_eq_ok_iff.2 ⟨_, hcontent, bind_eq_ok_iff.2 ⟨_, hpublished, ?_⟩⟩
  refine bind_eq_ok_iff.2 ⟨_, hauthor, bind_eq_ok_iff.2 ⟨_, hcreated, ?_⟩⟩
  exact bind_eq_ok_iff.2 ⟨_, hupdated, rfl⟩

end Post

end RowGuard
