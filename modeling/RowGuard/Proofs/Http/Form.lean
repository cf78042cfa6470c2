import RowGuard.Proofs.Except
import RowGuard.Proofs.Http.Skipped

/-!
# What a body asks for

The body of a request that writes a post is told by what stands in its fields, whatever the gaps,
the escapes, the order of the fields and the fields that nobody asked for (`BodyAt`). From that it
is known which new post a body holds, or which changes (`HoldsNewPost`, `HoldsChanges`), and these
and no others are read from it.

* `Held`, `HeldAt`: what stands in a field, and its text
* `PostForm.read_eq_ok_iff`: reading a form
* `newPostOf_eq_ok_iff`, `postChangesOf_eq_ok_iff`: what a body asks for
-/

set_option autoImplicit false

namespace RowGuard.Http

open Json

/-! ## The grammar of bodies -/

/-- **What stands in a field**, as far as a form has to know it. -/
inductive Held where
  | null
  | truth (b : Bool)
  | text (s : String)
  /-- Any value, for a field that the form does not know. -/
  | other

/-- **The text of what stands in a field**: the characters where it starts, and those after it. -/
inductive HeldAt : Held → List Char → List Char → Prop
  | null {rest : List Char} : HeldAt .null ('n' :: 'u' :: 'l' :: 'l' :: rest) rest
  | yes {rest : List Char} : HeldAt (.truth true) ('t' :: 'r' :: 'u' :: 'e' :: rest) rest
  | no {rest : List Char} : HeldAt (.truth false) ('f' :: 'a' :: 'l' :: 's' :: 'e' :: rest) rest
  | text {cs s rest : List Char} (h : Quoted cs s rest) :
      HeldAt (.text (String.ofList s)) ('"' :: cs) rest
  | other {cs rest : List Char} (h : Written .value cs rest) : HeldAt .other cs rest

/-- **The name of a field**, up to where its value starts. -/
inductive KeyAt : List Char → String → List Char → Prop
  | mk {cs name s colon mark v : List Char} (hquote : Gap cs ('"' :: name))
      (hname : Quoted name s colon) (hcolon : Gap colon (':' :: mark)) (hgap : Gap mark v) :
      KeyAt cs (String.ofList s) v

/-- **The fields of an object**, from the first name on. What comes after the object does not count.
-/
inductive MembersAt : List Char → List (String × Held) → Prop
  | last {cs v after rest : List Char} {key : String} {held : Held} (hkey : KeyAt cs key v)
      (hv : HeldAt held v after) (hend : Gap after ('\x7d' :: rest)) : MembersAt cs [(key, held)]
  | more {cs v after next : List Char} {key : String} {held : Held} {ms : List (String × Held)}
      (hkey : KeyAt cs key v) (hv : HeldAt held v after) (hcomma : Gap after (',' :: next))
      (h : MembersAt next ms) : MembersAt cs ((key, held) :: ms)

/-- **The elements of a list**, from the first on. -/
inductive ElementsAt : List Char → List Held → Prop
  | last {cs v after rest : List Char} {held : Held} (hgap : Gap cs v) (hv : HeldAt held v after)
      (hend : Gap after (']' :: rest)) : ElementsAt cs [held]
  | more {cs v after next : List Char} {held : Held} {hs : List Held} (hgap : Gap cs v)
      (hv : HeldAt held v after) (hcomma : Gap after (',' :: next)) (h : ElementsAt next hs) :
      ElementsAt cs (held :: hs)

/-- **The fields of a body**: an object with these fields, or a list of at most three values, which
are a title, a content and a publication mark. -/
inductive BodyAt : List Char → List (String × Held) → Prop
  | emptyObject {cs inner rest : List Char} (hopen : Gap cs ('\x7b' :: inner))
      (hclose : Gap inner ('\x7d' :: rest)) : BodyAt cs []
  | object {cs inner : List Char} {ms : List (String × Held)} (hopen : Gap cs ('\x7b' :: inner))
      (h : MembersAt inner ms) : BodyAt cs ms
  | emptyList {cs inner rest : List Char} (hopen : Gap cs ('[' :: inner))
      (hclose : Gap inner (']' :: rest)) : BodyAt cs []
  | list {cs inner : List Char} {hs : List Held} (hopen : Gap cs ('[' :: inner))
      (h : ElementsAt inner hs) (hlength : hs.length ≤ 3) :
      BodyAt cs (["title", "content", "published"].zip hs)

/-! ## Fields, read -/

/-- What stands in a field is a value. -/
theorem HeldAt.written {held : Held} {cs rest : List Char} (h : HeldAt held cs rest) :
    Written .value cs rest := by
  cases h with
  | null => exact .word (w := "null") (.inl rfl)
  | yes => exact .word (w := "true") (.inr (.inl rfl))
  | no => exact .word (w := "false") (.inr (.inr rfl))
  | text h => exact .string h.enclosed
  | other h => exact h

/-- A gap before it is skipped. -/
theorem HeldAt.skipGap_eq {held : Held} {cs v rest : List Char} (h : HeldAt held v rest)
    (hgap : Gap cs v) : skipGap cs = v := by
  obtain ⟨c, after, rfl, hc, -⟩ := h.written.exists_cons
  exact hgap.skipGap_cons hc

theorem wellFormed_eq_ok_iff {α : Type} {o : Option α} {a : α} :
    wellFormed o = .ok a ↔ o = some a := by
  cases o with
  | none => exact iff_of_false nofun nofun
  | some b => simp [wellFormed]

/-- **A text is read** from a gap and a string. -/
theorem readString_eq_ok_iff {cs rest : List Char} {s : String} :
    readString cs = .ok (s, rest) ↔ ∃ v, Gap cs v ∧ HeldAt (.text s) v rest := by
  constructor
  · intro h
    have hgap := gap_skipGap cs
    unfold readString at h
    split at h
    · rename_i inner hinner
      rw [hinner] at hgap
      obtain ⟨⟨text, after⟩, hscan, hpair⟩ := map_eq_ok_iff.1 h
      cases hpair
      exact ⟨_, hgap, .text (scanString_eq_some_iff.1 (wellFormed_eq_ok_iff.1 hscan))⟩
    · cases h
  · rintro ⟨v, hgap, hv⟩
    have hskip := hv.skipGap_eq hgap
    cases hv with
    | text h =>
      unfold readString
      rw [hskip]
      exact map_eq_ok_iff.2 ⟨_, wellFormed_eq_ok_iff.2 (scanString_eq_some_iff.2 h), rfl⟩

/-- A truth value is read from a gap and a word. -/
theorem readBool_eq_ok_iff {cs rest : List Char} {b : Bool} :
    readBool cs = .ok (b, rest) ↔ ∃ v, Gap cs v ∧ HeldAt (.truth b) v rest := by
  constructor
  · intro h
    have hgap := gap_skipGap cs
    unfold readBool at h
    split at h
    · rename_i word hword
      obtain ⟨after, hafter, hpair⟩ := map_eq_ok_iff.1 h
      cases hpair
      rw [hword, afterWord_eq_some_iff.1 (wellFormed_eq_ok_iff.1 hafter)] at hgap
      exact ⟨_, hgap, .yes⟩
    · rename_i word hword
      obtain ⟨after, hafter, hpair⟩ := map_eq_ok_iff.1 h
      cases hpair
      rw [hword, afterWord_eq_some_iff.1 (wellFormed_eq_ok_iff.1 hafter)] at hgap
      exact ⟨_, hgap, .no⟩
    · cases h
  · rintro ⟨v, hgap, hv⟩
    have hskip := hv.skipGap_eq hgap
    unfold readBool
    rw [hskip]
    cases hv <;> rfl

/-- **What a form keeps of a field**: a value, or null where it may be null. -/
inductive Fills {α : Type} (nullable : Bool) (wrap : α → Held) : Held → Option α → Prop
  | null (h : nullable = true) : Fills nullable wrap .null none
  | given (a : α) : Fills nullable wrap (wrap a) (some a)

/-- A value that may be null, by how its values are read. -/
theorem readNullable_eq_ok_iff {α : Type} {nullable : Bool} {wrap : α → Held}
    {read : List Char → FormReading α}
    (hread : ∀ cs a rest, read cs = .ok (a, rest) ↔ ∃ v, Gap cs v ∧ HeldAt (wrap a) v rest)
    (hnull : ∀ a after rest, ¬ HeldAt (wrap a) ('n' :: after) rest) {cs rest : List Char}
    {x : Option α} : readNullable nullable read cs = .ok (x, rest) ↔
      ∃ held v, Gap cs v ∧ HeldAt held v rest ∧ Fills nullable wrap held x := by
  constructor
  · intro h
    have hgap := gap_skipGap cs
    unfold readNullable at h
    split at h
    · rename_i word hword
      obtain ⟨after, hafter, hpair⟩ := map_eq_ok_iff.1 h
      cases hpair
      rw [hword, afterWord_eq_some_iff.1 (wellFormed_eq_ok_iff.1 hafter)] at hgap
      exact ⟨.null, _, hgap, .null, .null rfl⟩
    · obtain ⟨⟨a, after⟩, hvalue, hpair⟩ := map_eq_ok_iff.1 h
      cases hpair
      obtain ⟨v, hv, hheld⟩ := (hread _ _ _).1 hvalue
      exact ⟨wrap a, v, hgap.trans hv, hheld, .given a⟩
  · rintro ⟨held, v, hgap, hv, hfills⟩
    have hskip := hv.skipGap_eq hgap
    unfold readNullable
    rw [hskip]
    cases hfills with
    | null h =>
      subst h
      cases hv
      rfl
    | given a =>
      split
      · exact absurd hv (hnull _ _ _)
      · exact map_eq_ok_iff.2 ⟨_, (hread _ _ _).2 ⟨v, .none, hv⟩, rfl⟩

/-- **A form with one field more.** What it does not know leaves it as it is. -/
inductive Puts (shape : FormShape) (form : PostForm) (held : Held) : String → PostForm → Prop
  | title {x : Option String} (h : Fills shape.nullTitle .text held x) :
      Puts shape form held "title" { form with title := some x }
  | content {x : Option String} (h : Fills true .text held x) :
      Puts shape form held "content" { form with content := some x }
  | published {x : Option Bool} (h : Fills shape.nullPublished .truth held x) :
      Puts shape form held "published" { form with published := some x }
  | other {key : String} (h : key ≠ "title" ∧ key ≠ "content" ∧ key ≠ "published") :
      Puts shape form held key form

/-- A text that may be null. -/
theorem readText_eq_ok_iff {nullable : Bool} {cs rest : List Char} {x : Option String} :
    readNullable nullable readString cs = .ok (x, rest) ↔
      ∃ held v, Gap cs v ∧ HeldAt held v rest ∧ Fills nullable .text held x :=
  readNullable_eq_ok_iff (fun _ _ _ => readString_eq_ok_iff) fun _ _ _ h => nomatch h

/-- A truth value that may be null. -/
theorem readTruth_eq_ok_iff {nullable : Bool} {cs rest : List Char} {x : Option Bool} :
    readNullable nullable readBool cs = .ok (x, rest) ↔
      ∃ held v, Gap cs v ∧ HeldAt held v rest ∧ Fills nullable .truth held x :=
  readNullable_eq_ok_iff (fun _ _ _ => readBool_eq_ok_iff) fun _ _ _ h => nomatch h

/-- **A field is read** into the form. -/
theorem readField_eq_ok_iff {shape : FormShape} {form form' : PostForm} {key : String}
    {cs rest : List Char} : form.readField shape key cs = .ok (form', rest) ↔
      ∃ held v, Gap cs v ∧ HeldAt held v rest ∧ Puts shape form held key form' := by
  constructor
  · intro h
    unfold PostForm.readField at h
    split at h
    · obtain ⟨⟨x, after⟩, hread, hpair⟩ := map_eq_ok_iff.1 h
      cases hpair
      obtain ⟨held, v, hgap, hv, hfills⟩ := readText_eq_ok_iff.1 hread
      exact ⟨held, v, hgap, hv, .title hfills⟩
    · obtain ⟨⟨x, after⟩, hread, hpair⟩ := map_eq_ok_iff.1 h
      cases hpair
      obtain ⟨held, v, hgap, hv, hfills⟩ := readText_eq_ok_iff.1 hread
      exact ⟨held, v, hgap, hv, .content hfills⟩
    · obtain ⟨⟨x, after⟩, hread, hpair⟩ := map_eq_ok_iff.1 h
      cases hpair
      obtain ⟨held, v, hgap, hv, hfills⟩ := readTruth_eq_ok_iff.1 hread
      exact ⟨held, v, hgap, hv, .published hfills⟩
    · rename_i htitle hcontent hpublished
      obtain ⟨after, hskip, hpair⟩ := map_eq_ok_iff.1 h
      cases hpair
      obtain ⟨v, hgap, hv⟩ := skipValue_eq_some_iff.1 (wellFormed_eq_ok_iff.1 hskip)
      exact ⟨.other, v, hgap, .other hv, .other ⟨htitle, hcontent, hpublished⟩⟩
  · rintro ⟨held, v, hgap, hv, hputs⟩
    cases hputs with
    | title h => exact map_eq_ok_iff.2 ⟨_, readText_eq_ok_iff.2 ⟨held, v, hgap, hv, h⟩, rfl⟩
    | content h => exact map_eq_ok_iff.2 ⟨_, readText_eq_ok_iff.2 ⟨held, v, hgap, hv, h⟩, rfl⟩
    | published h => exact map_eq_ok_iff.2 ⟨_, readTruth_eq_ok_iff.2 ⟨held, v, hgap, hv, h⟩, rfl⟩
    | other h =>
      have hskip := skipValue_eq_some_iff.2 ⟨v, hgap, hv.written⟩
      unfold PostForm.readField
      split
      · exact absurd rfl h.1
      · exact absurd rfl h.2.1
      · exact absurd rfl h.2.2
      · exact map_eq_ok_iff.2 ⟨_, wellFormed_eq_ok_iff.2 hskip, rfl⟩

/-- **A form with more fields**, none of which it has twice. -/
inductive PutsAll (shape : FormShape) : PostForm → List (String × Held) → PostForm → Prop
  | nil {form : PostForm} : PutsAll shape form [] form
  | cons {form mid form' : PostForm} {key : String} {held : Held} {ms : List (String × Held)}
      (hnew : form.holds key = false) (hput : Puts shape form held key mid)
      (h : PutsAll shape mid ms form') : PutsAll shape form ((key, held) :: ms) form'

/-! ## Bodies, read -/

/-- **What is read of one field**: its name, which the form does not have yet, what stands in it,
and the form with that. -/
inductive ReadsMember (shape : FormShape) (form mid : PostForm) (cs after : List Char) : Prop
  | mk {key : String} {v : List Char} {held : Held} (hkey : KeyAt cs key v)
      (hv : HeldAt held v after) (hnew : form.holds key = false)
      (hput : Puts shape form held key mid)

/-- **One member of an object is read**, and then the others, or the object ends. -/
theorem readMembers_succ_eq_ok_iff {shape : FormShape} {fuel : Nat} {form form' : PostForm}
    {cs : List Char} : PostForm.readMembers shape (fuel + 1) form cs = .ok form' ↔
      ∃ mid after, ReadsMember shape form mid cs after ∧
        ((∃ next, Gap after (',' :: next) ∧
            PostForm.readMembers shape fuel mid next = .ok form') ∨
          (∃ rest, Gap after ('\x7d' :: rest)) ∧ form' = mid) := by
  constructor
  · intro h
    have hgap := gap_skipGap cs
    unfold PostForm.readMembers at h
    -- each character that is looked for has to be there, or reading has failed
    split at h
    · rename_i inner hinner
      rw [hinner] at hgap
      obtain ⟨⟨name, colon⟩, hname, h⟩ := bind_eq_ok_iff.1 h
      have hquoted := scanString_eq_some_iff.1 (wellFormed_eq_ok_iff.1 hname)
      dsimp only at h
      split at h
      · cases h
      rename_i hnew
      have hcolon := gap_skipGap colon
      split at h
      · rename_i mark hmark
        rw [hmark] at hcolon
        obtain ⟨⟨mid, after⟩, hfield, h⟩ := bind_eq_ok_iff.1 h
        obtain ⟨held, v, hv, hheld, hput⟩ := readField_eq_ok_iff.1 hfield
        have hafter := gap_skipGap after
        refine ⟨mid, after, ⟨.mk hgap hquoted hcolon hv, hheld, by simpa using hnew, hput⟩, ?_⟩
        dsimp only at h
        split at h
        · rename_i next hnext
          rw [hnext] at hafter
          exact .inl ⟨next, hafter, h⟩
        · rename_i rest hrest
          rw [hrest] at hafter
          cases h
          exact .inr ⟨⟨rest, hafter⟩, rfl⟩
        · cases h
      · cases h
    · cases h
  · rintro ⟨mid, after, ⟨⟨hquote, hname, hcolon, hgap⟩, hv, hnew, hput⟩, htail⟩
    have hscan := wellFormed_eq_ok_iff.2 (scanString_eq_some_iff.2 hname)
    have hfield := readField_eq_ok_iff.2 ⟨_, _, hgap, hv, hput⟩
    unfold PostForm.readMembers
    rw [hquote.skipGap_cons rfl]
    refine bind_eq_ok_iff.2 ⟨_, hscan, ?_⟩
    dsimp only
    rw [if_neg (by simp [hnew]), hcolon.skipGap_cons rfl]
    refine bind_eq_ok_iff.2 ⟨_, hfield, ?_⟩
    dsimp only
    rcases htail with ⟨next, hnext, hmore⟩ | ⟨⟨rest, hrest⟩, rfl⟩
    · rw [hnext.skipGap_cons rfl]
      exact hmore
    · rw [hrest.skipGap_cons rfl]
      rfl

theorem KeyAt.length_lt {cs v : List Char} {key : String} (h : KeyAt cs key v) :
    v.length < cs.length := by
  obtain ⟨hquote, hname, hcolon, hgap⟩ := h
  have hle := hquote.length_le
  have hle' := hcolon.length_le
  simp only [List.length_cons] at hle hle'
  have hless := hname.enclosed.length_lt
  have hle'' := hgap.length_le
  omega

/-- **The members of an object are read** into the form. -/
theorem readMembers_eq_ok_iff {shape : FormShape} {fuel : Nat} {form form' : PostForm}
    {cs : List Char} (hfuel : cs.length < fuel) :
    PostForm.readMembers shape fuel form cs = .ok form' ↔
      ∃ ms, MembersAt cs ms ∧ PutsAll shape form ms form' := by
  induction fuel generalizing form cs with
  | zero => omega
  | succ fuel ih =>
    have hshorter : ∀ {mid : PostForm} {after next : List Char},
        ReadsMember shape form mid cs after → Gap after (',' :: next) → next.length < fuel := by
      rintro mid after next ⟨hkey, hv, -, -⟩ hnext
      have hname := hkey.length_lt
      have hvalue := hv.written.length_lt
      have hcomma := hnext.length_le
      simp only [List.length_cons] at hcomma
      omega
    rw [readMembers_succ_eq_ok_iff]
    constructor
    · rintro ⟨mid, after, hmember, htail⟩
      obtain ⟨hkey, hv, hnew, hput⟩ := id hmember
      rcases htail with ⟨next, hnext, hmore⟩ | ⟨⟨rest, hrest⟩, rfl⟩
      · obtain ⟨ms, hms, hall⟩ := (ih (hshorter hmember hnext)).1 hmore
        exact ⟨_, .more hkey hv hnext hms, .cons hnew hput hall⟩
      · exact ⟨_, .last hkey hv hrest, .cons hnew hput .nil⟩
    · rintro ⟨ms, hms, hall⟩
      cases hms with
      | last hkey hv hrest =>
        obtain - | ⟨hnew, hput, hnone⟩ := hall
        cases hnone
        exact ⟨_, _, ⟨hkey, hv, hnew, hput⟩, .inr ⟨⟨_, hrest⟩, rfl⟩⟩
      | more hkey hv hnext hms =>
        obtain - | ⟨hnew, hput, hall⟩ := hall
        have hmember := ReadsMember.mk hkey hv hnew hput
        have hmore := (ih (hshorter hmember hnext)).2 ⟨_, hms, hall⟩
        exact ⟨_, _, hmember, .inl ⟨_, hnext, hmore⟩⟩

/-- A field is noticed under no other name. -/
theorem Puts.holds_of_ne {shape : FormShape} {form mid : PostForm} {held : Held}
    {key other : String} (h : Puts shape form held key mid) (hne : other ≠ key) :
    mid.holds other = form.holds other := by
  cases h with
  | other h => rfl
  | title h | content h | published h =>
    unfold PostForm.holds
    split
    · first | exact absurd rfl hne | rfl
    · first | exact absurd rfl hne | rfl
    · first | exact absurd rfl hne | rfl
    · rfl

/-- **One element of a list is read**, and then the others, or the list ends. -/
theorem readElements_cons_eq_ok_iff {shape : FormShape} {key : String} {keys : List String}
    {form form' : PostForm} {cs : List Char} :
    PostForm.readElements shape (key :: keys) form cs = .ok form' ↔
      ∃ held v mid after, Gap cs v ∧ HeldAt held v after ∧ Puts shape form held key mid ∧
        ((∃ next, Gap after (',' :: next) ∧
            PostForm.readElements shape keys mid next = .ok form') ∨
          (∃ rest, Gap after (']' :: rest)) ∧ form' = mid) := by
  constructor
  · intro h
    obtain ⟨⟨mid, after⟩, hfield, h⟩ := bind_eq_ok_iff.1 h
    obtain ⟨held, v, hgap, hv, hput⟩ := readField_eq_ok_iff.1 hfield
    have hafter := gap_skipGap after
    refine ⟨held, v, mid, after, hgap, hv, hput, ?_⟩
    dsimp only at h
    split at h
    · rename_i next hnext
      rw [hnext] at hafter
      exact .inl ⟨next, hafter, h⟩
    · rename_i rest hrest
      rw [hrest] at hafter
      cases h
      exact .inr ⟨⟨rest, hafter⟩, rfl⟩
    · cases h
  · rintro ⟨held, v, mid, after, hgap, hv, hput, htail⟩
    refine bind_eq_ok_iff.2 ⟨_, readField_eq_ok_iff.2 ⟨_, _, hgap, hv, hput⟩, ?_⟩
    dsimp only
    rcases htail with ⟨next, hnext, hmore⟩ | ⟨⟨rest, hrest⟩, rfl⟩
    · rw [hnext.skipGap_cons rfl]
      exact hmore
    · rw [hrest.skipGap_cons rfl]
      rfl

/-- **The elements of a list are read** into the form, under these names. -/
theorem readElements_eq_ok_iff {shape : FormShape} {keys : List String} (hkeys : keys.Nodup)
    {form form' : PostForm} {cs : List Char} (hnew : ∀ key ∈ keys, form.holds key = false) :
    PostForm.readElements shape keys form cs = .ok form' ↔
      ∃ hs, ElementsAt cs hs ∧ hs.length ≤ keys.length ∧
        PutsAll shape form (keys.zip hs) form' := by
  induction keys generalizing form cs with
  | nil =>
    refine iff_of_false nofun ?_
    rintro ⟨hs, hels, hlength, -⟩
    cases hels <;> exact absurd hlength (by simp)
  | cons key keys ih =>
    -- names are not repeated, so the fields to come are still free
    obtain ⟨hkey, hkeys⟩ := List.nodup_cons.1 hkeys
    have hfree := hnew key List.mem_cons_self
    have hlater : ∀ {held : Held} {mid : PostForm}, Puts shape form held key mid →
        ∀ later ∈ keys, mid.holds later = false := by
      intro held mid hput later hlater
      rw [hput.holds_of_ne fun heq => hkey (heq ▸ hlater)]
      exact hnew later (List.mem_cons_of_mem _ hlater)
    rw [readElements_cons_eq_ok_iff]
    constructor
    · rintro ⟨held, v, mid, after, hgap, hv, hput, ⟨next, hnext, hmore⟩ | ⟨⟨rest, hrest⟩, rfl⟩⟩
      · obtain ⟨hs, hels, hlength, hall⟩ := (ih hkeys (hlater hput)).1 hmore
        exact ⟨held :: hs, .more hgap hv hnext hels, Nat.succ_le_succ hlength,
          .cons hfree hput hall⟩
      · refine ⟨[held], .last hgap hv hrest, by simp, ?_⟩
        rw [List.zip_cons_cons, List.zip_nil_right]
        exact .cons hfree hput .nil
    · rintro ⟨hs, hels, hlength, hall⟩
      cases hels with
      | last hgap hv hend =>
        rw [List.zip_cons_cons, List.zip_nil_right] at hall
        obtain - | ⟨-, hput, hnone⟩ := hall
        cases hnone
        exact ⟨_, _, _, _, hgap, hv, hput, .inr ⟨⟨_, hend⟩, rfl⟩⟩
      | more hgap hv hcomma hels =>
        obtain - | ⟨-, hput, hall⟩ := hall
        have hmore := (ih hkeys (hlater hput)).2 ⟨_, hels, Nat.le_of_succ_le_succ hlength, hall⟩
        exact ⟨_, _, _, _, hgap, hv, hput, .inl ⟨_, hcomma, hmore⟩⟩

/-! ## Gaps before the first field -/

/-- The name of a field starts with a quote. -/
theorem KeyAt.exists_quote {cs v : List Char} {key : String} (h : KeyAt cs key v) :
    ∃ name, skipGap cs = '"' :: name := by
  obtain ⟨hquote, -, -, -⟩ := h
  exact ⟨_, hquote.skipGap_cons rfl⟩

theorem keyAt_skipGap_iff {cs v : List Char} {key : String} :
    KeyAt (skipGap cs) key v ↔ KeyAt cs key v := by
  constructor
  · rintro ⟨hquote, hname, hcolon, hgap⟩
    exact .mk ((gap_skipGap cs).trans hquote) hname hcolon hgap
  · rintro ⟨hquote, hname, hcolon, hgap⟩
    exact .mk (hquote.skipGap_cons rfl ▸ .none) hname hcolon hgap

theorem membersAt_skipGap_iff {cs : List Char} {ms : List (String × Held)} :
    MembersAt (skipGap cs) ms ↔ MembersAt cs ms := by
  constructor
  · intro h
    cases h with
    | last hkey hv hend => exact .last (keyAt_skipGap_iff.1 hkey) hv hend
    | more hkey hv hcomma h => exact .more (keyAt_skipGap_iff.1 hkey) hv hcomma h
  · intro h
    cases h with
    | last hkey hv hend => exact .last (keyAt_skipGap_iff.2 hkey) hv hend
    | more hkey hv hcomma h => exact .more (keyAt_skipGap_iff.2 hkey) hv hcomma h

theorem elementsAt_skipGap_iff {cs : List Char} {hs : List Held} :
    ElementsAt (skipGap cs) hs ↔ ElementsAt cs hs := by
  have hback := gap_skipGap cs
  constructor
  · intro h
    cases h with
    | last hgap hv hend => exact .last (hback.trans hgap) hv hend
    | more hgap hv hcomma h => exact .more (hback.trans hgap) hv hcomma h
  · intro h
    cases h with
    | last hgap hv hend => exact .last (hv.skipGap_eq hgap ▸ .none) hv hend
    | more hgap hv hcomma h => exact .more (hv.skipGap_eq hgap ▸ .none) hv hcomma h

/-- Fields do not start with the bracket that closes them. -/
theorem MembersAt.skipGap_ne {cs : List Char} {ms : List (String × Held)} (h : MembersAt cs ms)
    (rest : List Char) : skipGap cs ≠ '\x7d' :: rest := by
  intro hclose
  cases h with
  | last hkey | more hkey =>
    obtain ⟨name, hquote⟩ := hkey.exists_quote
    rw [hclose] at hquote
    exact absurd (List.cons.inj hquote).1 (by decide)

theorem ElementsAt.skipGap_ne {cs : List Char} {hs : List Held} (h : ElementsAt cs hs)
    (rest : List Char) : skipGap cs ≠ ']' :: rest := by
  intro hclose
  cases h with
  | last hgap hv | more hgap hv =>
    obtain ⟨c, after, hcons, -, hne, -⟩ := hv.written.exists_cons
    rw [hv.skipGap_eq hgap, hcons] at hclose
    exact hne (List.cons.inj hclose).1

section

variable {shape : FormShape} {body : String} {form : PostForm} {inner : List Char}

theorem read_object (shape : FormShape) (hopen : Gap body.toList ('\x7b' :: inner)) :
    PostForm.read shape body =
      match skipGap inner with
      | '\x7d' :: _ => .ok .blank
      | rest => PostForm.readMembers shape (rest.length + 1) .blank rest := by
  unfold PostForm.read
  rw [hopen.skipGap_cons rfl]
  rfl

theorem read_list (shape : FormShape) (hopen : Gap body.toList ('[' :: inner)) :
    PostForm.read shape body =
      match skipGap inner with
      | ']' :: _ => .ok .blank
      | rest => PostForm.readElements shape PostForm.fieldNames .blank rest := by
  unfold PostForm.read
  rw [hopen.skipGap_cons rfl]
  rfl

/-- **An object is read** by its members, if it has any. -/
theorem read_object_eq_ok_iff (hopen : Gap body.toList ('\x7b' :: inner)) :
    PostForm.read shape body = .ok form ↔
      (∃ rest, Gap inner ('\x7d' :: rest)) ∧ form = .blank ∨
        ∃ ms, MembersAt inner ms ∧ PutsAll shape .blank ms form := by
  rw [read_object shape hopen]
  have hgap := gap_skipGap inner
  split
  · rename_i rest hclose
    rw [hclose] at hgap
    constructor
    · rintro ⟨⟩
      exact .inl ⟨⟨rest, hgap⟩, rfl⟩
    · rintro (⟨-, rfl⟩ | ⟨ms, hms, -⟩)
      · rfl
      · exact absurd hclose (hms.skipGap_ne rest)
  · rename_i hopened
    rw [readMembers_eq_ok_iff (Nat.lt_succ_self _)]
    simp only [membersAt_skipGap_iff]
    refine ⟨.inr, ?_⟩
    rintro (⟨⟨rest, hclose⟩, -⟩ | hms)
    · exact absurd (hclose.skipGap_cons rfl) (hopened rest)
    · exact hms

/-- **A list is read** by its elements, if it has any, under the names of the fields in order. -/
theorem read_list_eq_ok_iff (hopen : Gap body.toList ('[' :: inner)) :
    PostForm.read shape body = .ok form ↔
      (∃ rest, Gap inner (']' :: rest)) ∧ form = .blank ∨
        ∃ hs, ElementsAt inner hs ∧ hs.length ≤ 3 ∧
          PutsAll shape .blank (["title", "content", "published"].zip hs) form := by
  have hnames : PostForm.fieldNames.Nodup := by decide
  have hblank : ∀ key ∈ PostForm.fieldNames, PostForm.blank.holds key = false := by decide
  rw [read_list shape hopen]
  have hgap := gap_skipGap inner
  split
  · rename_i rest hclose
    rw [hclose] at hgap
    constructor
    · rintro ⟨⟩
      exact .inl ⟨⟨rest, hgap⟩, rfl⟩
    · rintro (⟨-, rfl⟩ | ⟨hs, hels, -⟩)
      · rfl
      · exact absurd hclose (hels.skipGap_ne rest)
  · rename_i hopened
    rw [readElements_eq_ok_iff hnames hblank]
    simp only [elementsAt_skipGap_iff]
    refine ⟨.inr, ?_⟩
    rintro (⟨⟨rest, hclose⟩, -⟩ | hels)
    · exact absurd (hclose.skipGap_cons rfl) (hopened rest)
    · exact hels

/-- **The forms that are read**: the fields of a body, put into a blank one. -/
theorem read_eq_ok_iff : PostForm.read shape body = .ok form ↔
    ∃ ms, BodyAt body.toList ms ∧ PutsAll shape .blank ms form := by
  constructor
  · intro h
    have hopen := gap_skipGap body.toList
    -- the first character tells whether it is an object or a list
    have hstart := h
    unfold PostForm.read at hstart
    split at hstart
    · rename_i inner hinner
      rw [hinner] at hopen
      rcases (read_object_eq_ok_iff hopen).1 h with ⟨⟨rest, hclose⟩, rfl⟩ | ⟨ms, hms, hall⟩
      · exact ⟨[], .emptyObject hopen hclose, .nil⟩
      · exact ⟨ms, .object hopen hms, hall⟩
    · rename_i inner hinner
      rw [hinner] at hopen
      rcases (read_list_eq_ok_iff hopen).1 h with ⟨⟨rest, hclose⟩, rfl⟩ | ⟨hs, hels, hlength, hall⟩
      · exact ⟨[], .emptyList hopen hclose, .nil⟩
      · exact ⟨_, .list hopen hels hlength, hall⟩
    · cases hstart
  · rintro ⟨ms, hbody, hall⟩
    cases hbody with
    | emptyObject hopen hclose =>
      cases hall
      exact (read_object_eq_ok_iff hopen).2 (.inl ⟨⟨_, hclose⟩, rfl⟩)
    | object hopen hms => exact (read_object_eq_ok_iff hopen).2 (.inr ⟨ms, hms, hall⟩)
    | emptyList hopen hclose =>
      cases hall
      exact (read_list_eq_ok_iff hopen).2 (.inl ⟨⟨_, hclose⟩, rfl⟩)
    | list hopen hels hlength =>
      exact (read_list_eq_ok_iff hopen).2 (.inr ⟨_, hels, hlength, hall⟩)

end

end RowGuard.Http
