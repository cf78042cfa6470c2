import Mathlib.Data.List.Forall2
import RowGuard.Json.Text
import RowGuard.Proofs.Http.Form

/-!
# What a body asks for

What the fields of a body say tells which new post it holds, or which changes to a post
(`HoldsNewPost`, `HoldsChanges`). These and no others are read from it, and the text of a new post
or of changes is such a body.

* `newPostOf_eq_ok_iff`, `postChangesOf_eq_ok_iff`: what is read from a body
* `bodyAt_text`: the text of an object as a body
-/

set_option autoImplicit false

namespace RowGuard.Http

open Json

/-! ## What the fields hold -/

/-- What stands under a name. -/
def heldUnder (key : String) (ms : List (String × Held)) : List Held :=
  (ms.filter fun m => m.1 = key).map Prod.snd

/-- **A field that may be left out**: it is not there, or null, or holds a value. It is not there
twice. -/
inductive MayHold {α : Type} (wrap : α → Held) : List Held → Option α → Prop
  | absent : MayHold wrap [] none
  | null : MayHold wrap [.null] none
  | given (a : α) : MayHold wrap [wrap a] (some a)

/-- **The fields of a new post**: the title must be there, and what is not said to be published is
not. -/
structure HoldsNewPost (ms : List (String × Held)) (input : NewPost) : Prop where
  title : heldUnder "title" ms = [.text input.title]
  content : MayHold .text (heldUnder "content" ms) input.content
  published : heldUnder "published" ms = [.truth input.published] ∨
    heldUnder "published" ms = [] ∧ input.published = false

/-- **The fields of changes.** -/
structure HoldsChanges (ms : List (String × Held)) (changes : PostChanges) : Prop where
  title : MayHold .text (heldUnder "title" ms) changes.title
  content : MayHold .text (heldUnder "content" ms) changes.content
  published : MayHold .truth (heldUnder "published" ms) changes.published

theorem heldUnder_cons_self (key : String) (held : Held) (ms : List (String × Held)) :
    heldUnder key ((key, held) :: ms) = held :: heldUnder key ms := by
  simp [heldUnder]

theorem heldUnder_cons_of_ne {key other : String} (h : other ≠ key) (held : Held)
    (ms : List (String × Held)) : heldUnder key ((other, held) :: ms) = heldUnder key ms := by
  simp [heldUnder, h]

/-! ## Forms by their fields -/

/-- **A field of a form**, before and after what stands under its name is put into it. It is put
there once at most. -/
inductive Keeps {α : Type} (nullable : Bool) (wrap : α → Held) :
    Option (Option α) → List Held → Option (Option α) → Prop
  | nothing {x : Option (Option α)} : Keeps nullable wrap x [] x
  | once {held : Held} {x : Option α} (h : Fills nullable wrap held x) :
      Keeps nullable wrap none [held] (some x)

/-- What stands under a name is put into a field that is free. -/
theorem keeps_cons_iff {α : Type} {nullable : Bool} {wrap : α → Held}
    {before after : Option (Option α)} {held : Held} {hs : List Held} :
    Keeps nullable wrap before (held :: hs) after ↔
      before = none ∧ ∃ x, Fills nullable wrap held x ∧ Keeps nullable wrap (some x) hs after := by
  constructor
  · rintro ⟨⟩
    rename_i x h
    exact ⟨rfl, x, h, .nothing⟩
  · rintro ⟨rfl, x, h, hrest⟩
    cases hrest
    exact .once h

/-- **A form with more fields**, field by field. -/
structure Filled (shape : FormShape) (form : PostForm) (ms : List (String × Held))
    (form' : PostForm) : Prop where
  title : Keeps shape.nullTitle .text form.title (heldUnder "title" ms) form'.title
  content : Keeps true .text form.content (heldUnder "content" ms) form'.content
  published : Keeps shape.nullPublished .truth form.published (heldUnder "published" ms)
    form'.published

/-- **A form is filled** with a first field if it does not have this field, and with the others
after it. -/
theorem filled_cons_iff {shape : FormShape} {form form' : PostForm} {key : String} {held : Held}
    {ms : List (String × Held)} : Filled shape form ((key, held) :: ms) form' ↔
      form.holds key = false ∧ ∃ mid, Puts shape form held key mid ∧ Filled shape mid ms form' := by
  have hfree : ∀ {α : Type} {x : Option α}, x.isSome = false ↔ x = none :=
    Option.isSome_eq_false_iff.trans Option.isNone_iff_eq_none
  constructor
  · rintro ⟨htitle, hcontent, hpublished⟩
    -- a name is that of one field at most, and the others stay as they are
    by_cases hkey : key = "title"
    · subst hkey
      rw [heldUnder_cons_self, keeps_cons_iff] at htitle
      obtain ⟨hnone, x, hx, htitle⟩ := htitle
      exact ⟨hfree.2 hnone, _, .title hx, htitle, hcontent, hpublished⟩
    by_cases hkey' : key = "content"
    · subst hkey'
      rw [heldUnder_cons_self, keeps_cons_iff] at hcontent
      obtain ⟨hnone, x, hx, hcontent⟩ := hcontent
      exact ⟨hfree.2 hnone, _, .content hx, htitle, hcontent, hpublished⟩
    by_cases hkey'' : key = "published"
    · subst hkey''
      rw [heldUnder_cons_self, keeps_cons_iff] at hpublished
      obtain ⟨hnone, x, hx, hpublished⟩ := hpublished
      exact ⟨hfree.2 hnone, _, .published hx, htitle, hcontent, hpublished⟩
    · rw [heldUnder_cons_of_ne hkey] at htitle
      rw [heldUnder_cons_of_ne hkey'] at hcontent
      rw [heldUnder_cons_of_ne hkey''] at hpublished
      refine ⟨?_, form, .other ⟨hkey, hkey', hkey''⟩, htitle, hcontent, hpublished⟩
      unfold PostForm.holds
      split <;> first | rfl | contradiction
  · rintro ⟨hnew, mid, hputs, htitle, hcontent, hpublished⟩
    cases hputs with
    | title h =>
      refine ⟨?_, hcontent, hpublished⟩
      rw [heldUnder_cons_self, keeps_cons_iff]
      exact ⟨hfree.1 hnew, _, h, htitle⟩
    | content h =>
      refine ⟨htitle, ?_, hpublished⟩
      rw [heldUnder_cons_self, keeps_cons_iff]
      exact ⟨hfree.1 hnew, _, h, hcontent⟩
    | published h =>
      refine ⟨htitle, hcontent, ?_⟩
      rw [heldUnder_cons_self, keeps_cons_iff]
      exact ⟨hfree.1 hnew, _, h, hpublished⟩
    | other h =>
      refine ⟨?_, ?_, ?_⟩
      · rwa [heldUnder_cons_of_ne h.1]
      · rwa [heldUnder_cons_of_ne h.2.1]
      · rwa [heldUnder_cons_of_ne h.2.2]

/-- **A form is filled** by its fields one after the other, or by each of them alone. -/
theorem putsAll_iff {shape : FormShape} {form form' : PostForm} {ms : List (String × Held)} :
    PutsAll shape form ms form' ↔ Filled shape form ms form' := by
  induction ms generalizing form with
  | nil =>
    constructor
    · rintro ⟨⟩
      exact ⟨.nothing, .nothing, .nothing⟩
    · obtain ⟨t, c, p⟩ := form
      obtain ⟨t', c', p'⟩ := form'
      rintro ⟨⟨⟩, ⟨⟩, ⟨⟩⟩
      exact .nil
  | cons m ms ih =>
    obtain ⟨key, held⟩ := m
    rw [filled_cons_iff]
    constructor
    · rintro ⟨⟩
      rename_i mid hnew hput h
      exact ⟨hnew, mid, hput, ih.1 h⟩
    · rintro ⟨hnew, mid, hput, h⟩
      exact .cons hnew hput (ih.2 h)

/-! ## Bodies by what they hold -/

/-- A field that may be left out is one that may be null. -/
theorem mayHold_iff {α : Type} {wrap : α → Held} {hs : List Held} {value : Option α} :
    MayHold wrap hs value ↔ ∃ x, Keeps true wrap none hs x ∧ x.join = value := by
  constructor
  · rintro ⟨⟩
    · exact ⟨none, .nothing, rfl⟩
    · exact ⟨some none, .once (.null rfl), rfl⟩
    · exact ⟨_, .once (.given _), rfl⟩
  · rintro ⟨x, hx, rfl⟩
    cases hx with
    | nothing => exact .absent
    | once h =>
      cases h with
      | null => exact .null
      | given a => exact .given a

/-- A field that may not be null holds a value if it is there. -/
theorem keeps_not_null_iff {α : Type} {wrap : α → Held} {hs : List Held} {x : Option (Option α)} :
    Keeps false wrap none hs x ↔ hs = [] ∧ x = none ∨ ∃ a, hs = [wrap a] ∧ x = some (some a) := by
  constructor
  · intro h
    cases h with
    | nothing => exact .inl ⟨rfl, rfl⟩
    | once h =>
      obtain ⟨⟨⟩⟩ | ⟨a⟩ := h
      exact .inr ⟨a, rfl, rfl⟩
  · rintro (⟨rfl, rfl⟩ | ⟨a, rfl, rfl⟩)
    · exact .nothing
    · exact .once (.given a)

/-- **The new post that is read from a body.** -/
theorem newPostOf_eq_ok_iff {body : String} {input : NewPost} :
    newPostOf body = .ok input ↔ ∃ ms, BodyAt body.toList ms ∧ HoldsNewPost ms input := by
  obtain ⟨title, content, published⟩ := input
  unfold newPostOf
  rw [bind_eq_ok_iff]
  constructor
  · rintro ⟨⟨t, c, p⟩, hread, h⟩
    obtain ⟨ms, hbody, hall⟩ := read_eq_ok_iff.1 hread
    obtain ⟨htitle, hcontent, hpublished⟩ := putsAll_iff.1 hall
    refine ⟨ms, hbody, ?_⟩
    dsimp only at h
    rcases keeps_not_null_iff.1 htitle with ⟨-, rfl⟩ | ⟨a, ha, rfl⟩
    · cases h
    cases h
    refine ⟨ha, mayHold_iff.2 ⟨c, hcontent, rfl⟩, ?_⟩
    rcases keeps_not_null_iff.1 hpublished with ⟨hnone, rfl⟩ | ⟨b, hb, rfl⟩
    · exact .inr ⟨hnone, rfl⟩
    · exact .inl hb
  · rintro ⟨ms, hbody, htitle, hcontent, hpublished⟩
    obtain ⟨c, hkeeps, rfl⟩ := mayHold_iff.1 hcontent
    obtain ⟨p, hp, rfl⟩ : ∃ p, Keeps false .truth none (heldUnder "published" ms) p ∧
        p.join.getD false = published := by
      rcases hpublished with hb | ⟨hnone, rfl⟩
      · exact ⟨_, keeps_not_null_iff.2 (.inr ⟨published, hb, rfl⟩), rfl⟩
      · exact ⟨_, keeps_not_null_iff.2 (.inl ⟨hnone, rfl⟩), rfl⟩
    have hfilled : Filled ⟨false, false⟩ .blank ms ⟨some (some title), c, p⟩ :=
      ⟨keeps_not_null_iff.2 (.inr ⟨title, htitle, rfl⟩), hkeeps, hp⟩
    exact ⟨_, read_eq_ok_iff.2 ⟨ms, hbody, putsAll_iff.2 hfilled⟩, rfl⟩

/-- **The changes that are read from a body.** -/
theorem postChangesOf_eq_ok_iff {body : String} {changes : PostChanges} :
    postChangesOf body = .ok changes ↔ ∃ ms, BodyAt body.toList ms ∧ HoldsChanges ms changes := by
  obtain ⟨title, content, published⟩ := changes
  unfold postChangesOf
  rw [bind_eq_ok_iff]
  constructor
  · rintro ⟨⟨t, c, p⟩, hread, h⟩
    obtain ⟨ms, hbody, hall⟩ := read_eq_ok_iff.1 hread
    obtain ⟨htitle, hcontent, hpublished⟩ := putsAll_iff.1 hall
    cases h
    exact ⟨ms, hbody, mayHold_iff.2 ⟨t, htitle, rfl⟩, mayHold_iff.2 ⟨c, hcontent, rfl⟩,
      mayHold_iff.2 ⟨p, hpublished, rfl⟩⟩
  · rintro ⟨ms, hbody, htitle, hcontent, hpublished⟩
    obtain ⟨t, ht, rfl⟩ := mayHold_iff.1 htitle
    obtain ⟨c, hc, rfl⟩ := mayHold_iff.1 hcontent
    obtain ⟨p, hp, rfl⟩ := mayHold_iff.1 hpublished
    have hfilled : Filled ⟨true, true⟩ .blank ms ⟨t, c, p⟩ := ⟨ht, hc, hp⟩
    exact ⟨_, read_eq_ok_iff.2 ⟨ms, hbody, putsAll_iff.2 hfilled⟩, rfl⟩

/-! ## Written bodies -/

theorem hexDigit_lower {n : Nat} (h : n < 16) : HexDigit (hexDigit n) n := by
  refine ⟨h, ?_⟩
  have hlower : ∀ n < 16, (Nat.digitChar n).toLower = Nat.digitChar n := by decide
  exact hlower n h

/-- A character is escaped to what spells it. -/
theorem quoted_escape_append {cs s rest : List Char} (c : Char) (h : Quoted cs s rest) :
    Quoted (escape c ++ cs) (c :: s) rest := by
  unfold escape
  split
  case isTrue hc =>
    subst hc
    exact .short .quote h
  case isFalse hquote =>
  split
  case isTrue hc =>
    subst hc
    exact .short .backslash h
  case isFalse hslash =>
  split
  case isTrue hc =>
    subst hc
    exact .short .backspace h
  split
  case isTrue hc =>
    subst hc
    exact .short .formFeed h
  split
  case isTrue hc =>
    subst hc
    exact .short .newline h
  split
  case isTrue hc =>
    subst hc
    exact .short .carriageReturn h
  split
  case isTrue hc =>
    subst hc
    exact .short .tab h
  split
  case isTrue hc =>
    have hsmall : c.toNat < 32 := hc
    have hlower : ∀ n, HexDigit (hexDigit (n % 16)) (n % 16) := fun n =>
      hexDigit_lower (Nat.mod_lt _ (by decide))
    refine .code ⟨_, _, _, _, hlower _, hlower _, hlower _, hlower _, ?_⟩ h
    omega
  case isFalse hshow => exact .plain hquote hslash hshow h

/-- A string of any characters, as it is written. -/
theorem quoted_escape (s rest : List Char) : Quoted (s.flatMap escape ++ '"' :: rest) s rest := by
  induction s with
  | nil => exact .close
  | cons c s ih =>
    rw [List.flatMap_cons, List.append_assoc]
    exact quoted_escape_append c ih

/-- **What a written value says**, if it is null, a truth value or a string. -/
inductive Says : Json → Held → Prop
  | null : Says .null .null
  | truth (b : Bool) : Says (.bool b) (.truth b)
  | text (s : String) : Says (.string s) (.text s)

/-- What a written field says, under its name. -/
def SaysField (f : String × Json) (m : String × Held) : Prop := f.1 = m.1 ∧ Says f.2 m.2

theorem toList_quote_append (s : String) (rest : List Char) :
    (quote s).toList ++ rest = '"' :: (s.toList.flatMap escape ++ '"' :: rest) := by
  rw [quote, String.toList_ofList, List.cons_append, List.append_assoc]
  rfl

/-- The text of a value is the text of what it says. -/
theorem Says.heldAt {v : Json} {held : Held} (h : Says v held) (rest : List Char) :
    HeldAt held (v.text.toList ++ rest) rest := by
  cases h with
  | null => exact .null
  | truth b =>
    cases b
    · exact .no
    · exact .yes
  | text s =>
    rw [Json.text, toList_quote_append]
    have hquoted := quoted_escape s.toList rest
    have hheld := HeldAt.text hquoted
    rwa [String.ofList_toList] at hheld

/-- The name of a field, as it is written. -/
theorem keyAt_quote (key : String) (v : List Char) :
    KeyAt ((quote key).toList ++ ':' :: v) key v := by
  have h : KeyAt ((quote key).toList ++ ':' :: v) (String.ofList key.toList) v :=
    .mk (toList_quote_append key _ ▸ .none) (quoted_escape key.toList _) .none .none
  rwa [String.ofList_toList] at h

/-- Written fields, as they stand in an object. -/
theorem membersAt_text {fields : List (String × Json)} {ms : List (String × Held)}
    (h : List.Forall₂ SaysField fields ms) (hne : fields ≠ [])
    (rest : List Char) :
    MembersAt ((",".intercalate (textFields fields)).toList ++ '\x7d' :: rest) ms := by
  have hfield : ∀ (key : String) (v : Json) (after : List Char),
      (quote key ++ ":" ++ v.text).toList ++ after =
        (quote key).toList ++ ':' :: (v.text.toList ++ after) := by
    intro key v after
    simp [String.toList_append]
  rw [String.toList_intercalate]
  induction h with
  | nil => exact absurd rfl hne
  | @cons f m fields ms hm h ih =>
    obtain ⟨key, v⟩ := f
    obtain ⟨_, held⟩ := m
    obtain ⟨rfl, htells⟩ := hm
    cases h with
    | nil =>
      rw [textFields, textFields, List.map_cons, List.map_nil, List.intercalate_singleton, hfield]
      exact .last (keyAt_quote key _) (htells.heldAt _) .none
    | cons hm' h =>
      have hrest := ih nofun
      rw [textFields, textFields, List.map_cons, List.map_cons, List.intercalate_cons_cons,
        List.append_assoc, List.append_assoc, hfield]
      refine .more (keyAt_quote key _) (htells.heldAt _) .none ?_
      exact hrest

/-- **The text of an object is a body** with the fields of the object. -/
theorem bodyAt_text {fields : List (String × Json)} {ms : List (String × Held)}
    (h : List.Forall₂ SaysField fields ms) :
    BodyAt (Json.object fields).text.toList ms := by
  have htext : (Json.object fields).text.toList =
      '\x7b' :: ((",".intercalate (textFields fields)).toList ++ ['\x7d']) := by
    rw [Json.text, String.toList_append, String.toList_append]
    rfl
  rw [htext]
  cases h with
  | nil => exact .emptyObject .none .none
  | cons hm h => exact .object .none (membersAt_text (.cons hm h) nofun [])

/-- A field that is written if there is a value for it. -/
def given {α : Type} (key : String) (wrap : α → Held) (value : Option α) : List (String × Held) :=
  value.toList.map fun a => (key, wrap a)

theorem heldUnder_append (key : String) (ms ms' : List (String × Held)) :
    heldUnder key (ms ++ ms') = heldUnder key ms ++ heldUnder key ms' := by
  simp [heldUnder]

theorem heldUnder_given_of_ne {α : Type} {key other : String} (h : other ≠ key) (wrap : α → Held)
    (value : Option α) : heldUnder key (given other wrap value) = [] := by
  simp [heldUnder, given, h]

/-- A field that is written if there is a value may be left out. -/
theorem mayHold_given {α : Type} (key : String) (wrap : α → Held) (value : Option α) :
    MayHold wrap (heldUnder key (given key wrap value)) value := by
  cases value with
  | none => exact .absent
  | some a =>
    have hunder : heldUnder key (given key wrap (some a)) = [wrap a] := by simp [heldUnder, given]
    rw [hunder]
    exact .given a

theorem says_present {α : Type} (key : String) {value : α → Json} {wrap : α → Held}
    (h : ∀ a, Says (value a) (wrap a)) (x : Option α) :
    List.Forall₂ SaysField (present key (x.map value))
      (given key wrap x) := by
  cases x with
  | none => exact .nil
  | some a => exact .cons ⟨rfl, h a⟩ .nil

/-- **The text of a new post** is read back. -/
theorem newPostOf_text (input : NewPost) : newPostOf input.toJson.text = .ok input := by
  have hlater : List.Forall₂ SaysField [("published", .bool input.published),
      ("title", .string input.title)] [("published", .truth input.published),
      ("title", .text input.title)] :=
    .cons ⟨rfl, .truth input.published⟩ (.cons ⟨rfl, .text input.title⟩ .nil)
  have hbody := bodyAt_text
    (List.rel_append (says_present "content" Says.text input.content) hlater)
  refine newPostOf_eq_ok_iff.2 ⟨_, hbody, ?_, ?_, .inl ?_⟩
  · rw [heldUnder_append, heldUnder_given_of_ne (by decide)]
    rfl
  · rw [heldUnder_append]
    simpa [heldUnder] using mayHold_given "content" .text input.content
  · rw [heldUnder_append, heldUnder_given_of_ne (by decide)]
    rfl

/-- **The text of changes** is read back. -/
theorem postChangesOf_text (changes : PostChanges) :
    postChangesOf changes.toJson.text = .ok changes := by
  have hbody := bodyAt_text (List.rel_append (says_present "content" Says.text changes.content)
    (List.rel_append (says_present "published" Says.truth changes.published)
      (says_present "title" Says.text changes.title)))
  refine postChangesOf_eq_ok_iff.2 ⟨_, hbody, ?_, ?_, ?_⟩
  · simp [heldUnder_append, heldUnder_given_of_ne, mayHold_given]
  · simp [heldUnder_append, heldUnder_given_of_ne, mayHold_given]
  · simp [heldUnder_append, heldUnder_given_of_ne, mayHold_given]

end RowGuard.Http
