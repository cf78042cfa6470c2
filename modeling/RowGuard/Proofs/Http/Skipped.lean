import RowGuard.Http.Form
import RowGuard.Proofs.Json.Token

/-!
# Values that are not wanted

A field that a form does not know may hold any JSON value. The value is skipped: the open lists and
objects around the place are kept on a stack, and the text goes on until the stack is as it was
before. What is skipped this way is what the grammar of values says (`Written`).

* `Written`: a value, or what stands inside of a list or an object after its bracket
* `skipValue_eq_some_iff`: what is skipped is a value
-/

set_option autoImplicit false

namespace RowGuard.Http

open Json

/-! ## The grammar of values -/

/-- The bracket that opens a list or an object. -/
def opening : Bool → Char
  | false => '['
  | true => '\x7b'

/-- The bracket that closes it. -/
def closing : Bool → Char
  | false => ']'
  | true => '\x7d'

/-- **What stands before a value** inside of brackets: a gap, and in an object a key with a colon
before it. -/
inductive Lead : Bool → List Char → List Char → Prop
  | element {cs rest : List Char} (h : Gap cs rest) : Lead false cs rest
  | member {cs key colon mark rest : List Char} (hkey : Gap cs ('"' :: key))
      (hname : Enclosed key colon) (hcolon : Gap colon (':' :: mark)) (hgap : Gap mark rest) :
      Lead true cs rest

/-- A part of a text: a value, or the items of a list or an object up to its closing bracket. -/
inductive Part where
  | value
  | items (isObject : Bool)

/-- **The grammar of values**: the characters where a part starts, and those after it. -/
inductive Written : Part → List Char → List Char → Prop
  | string {cs rest : List Char} (h : Enclosed cs rest) : Written .value ('"' :: cs) rest
  | word {w : String} {rest : List Char} (hw : w = "null" ∨ w = "true" ∨ w = "false") :
      Written .value (w.toList ++ rest) rest
  | number {cs rest : List Char} (h : NumberText cs rest) : Written .value cs rest
  | empty {b : Bool} {cs rest : List Char} (h : Gap cs (closing b :: rest)) :
      Written .value (opening b :: cs) rest
  | filled {b : Bool} {cs rest : List Char} (h : Written (.items b) cs rest) :
      Written .value (opening b :: cs) rest
  | last {b : Bool} {cs v after rest : List Char} (hlead : Lead b cs v)
      (hv : Written .value v after) (hgap : Gap after (closing b :: rest)) :
      Written (.items b) cs rest
  | more {b : Bool} {cs v after next rest : List Char} (hlead : Lead b cs v)
      (hv : Written .value v after) (hgap : Gap after (',' :: next))
      (h : Written (.items b) next rest) : Written (.items b) cs rest

/-- How a list or an object goes on after one of its values: it ends, or with the next one. -/
inductive Closes (b : Bool) : List Char → List Char → Prop
  | last {cs rest : List Char} (h : Gap cs (closing b :: rest)) : Closes b cs rest
  | more {cs next rest : List Char} (hgap : Gap cs (',' :: next))
      (h : Written (.items b) next rest) : Closes b cs rest

/-- A value and what comes after it are items. -/
theorem Closes.items {b : Bool} {cs v after rest : List Char} (h : Closes b after rest)
    (hlead : Lead b cs v) (hv : Written .value v after) : Written (.items b) cs rest := by
  cases h with
  | last h => exact .last hlead hv h
  | more hgap h => exact .more hlead hv hgap h

/-! ## What is skipped is a value -/

/-- A name is skipped with the colon after it and the gaps around both. -/
theorem skipKey_eq_some_iff {cs mark : List Char} : skipKey cs = some mark ↔
    ∃ key colon, Gap cs ('"' :: key) ∧ Enclosed key colon ∧ Gap colon (':' :: mark) := by
  have hquote : isGap '"' = false := rfl
  have hcolon : isGap ':' = false := rfl
  constructor
  · intro h
    have hgap := gap_skipGap cs
    unfold skipKey at h
    split at h
    · rename_i key hkey
      rw [hkey] at hgap
      split at h
      · rename_i rest hrest
        cases h
        obtain ⟨colon, hname, hskip⟩ := Option.map_eq_some_iff.1 hrest
        have hafter := gap_skipGap colon
        rw [hskip] at hafter
        exact ⟨key, colon, hgap, skipString_eq_some_iff.1 hname, hafter⟩
      · cases h
    · cases h
  · rintro ⟨key, colon, hkey, hname, hafter⟩
    unfold skipKey
    rw [hkey.skipGap_cons hquote]
    simp only [skipString_eq_some_iff.2 hname, Option.map_some, hafter.skipGap_cons hcolon]

/-- The characters after the items of a list or an object, once its bracket is open. -/
def skipItems (b : Bool) (fuel : Nat) (enclosing : List Bool) (cs : List Char) :
    Option (List Char) :=
  match b with
  | false => skipValue fuel (false :: enclosing) cs
  | true => (skipKey cs).bind (skipValue fuel (true :: enclosing))

/-- **What is skipped is a value**, and what is left is skipped with less fuel. -/
def SkipsValues (fuel : Nat) : Prop :=
  ∀ enclosing cs rest, skipValue fuel enclosing cs = some rest →
    ∃ v after fuel', fuel' < fuel ∧ Gap cs v ∧ Written .value v after ∧
      skipOn fuel' enclosing after = some rest

/-- What is skipped after a value closes the brackets around it. -/
def SkipsOn (fuel : Nat) : Prop :=
  ∀ b enclosing cs rest, skipOn fuel (b :: enclosing) cs = some rest →
    ∃ after fuel', fuel' < fuel ∧ Closes b cs after ∧ skipOn fuel' enclosing after = some rest

/-- What is skipped after an open bracket is a value and what closes the bracket. -/
theorem written_of_skipItems {fuel : Nat} (hvalue : SkipsValues fuel)
    (hon : ∀ fuel' < fuel, SkipsOn fuel') {b : Bool} {enclosing : List Bool}
    {cs rest : List Char} (h : skipItems b fuel enclosing cs = some rest) :
    ∃ after fuel', fuel' < fuel ∧ Written (.items b) cs after ∧
      skipOn fuel' enclosing after = some rest := by
  obtain ⟨first, hlead, hskip⟩ : ∃ first, (∀ v, Gap first v → Lead b cs v) ∧
      skipValue fuel (b :: enclosing) first = some rest := by
    cases b with
    | false => exact ⟨cs, fun v hv => .element hv, h⟩
    | true =>
      obtain ⟨mark, hkey, hskip⟩ := Option.bind_eq_some_iff.1 h
      obtain ⟨key, colon, hquote, hname, hcolon⟩ := skipKey_eq_some_iff.1 hkey
      exact ⟨mark, fun v hv => .member hquote hname hcolon hv, hskip⟩
  obtain ⟨v, after, fuel₁, hless, hgap, hv, hafter⟩ := hvalue _ _ _ hskip
  obtain ⟨end', fuel₂, hless', hcloses, hrest⟩ := hon fuel₁ hless _ _ _ _ hafter
  exact ⟨end', fuel₂, by omega, hcloses.items (hlead v hgap) hv, hrest⟩

/-- A word is known by its first letter and those after it. -/
theorem written_of_afterWord {letter : Char} {tail w : String} {word rest : List Char}
    (hw : w = "null" ∨ w = "true" ∨ w = "false") (hletters : w.toList = letter :: tail.toList)
    (h : afterWord tail word = some rest) : Written .value (letter :: word) rest := by
  rw [afterWord_eq_some_iff.1 h, ← List.cons_append, ← hletters]
  exact .word hw

/-- One step of skipping a value, if fewer steps skip values and close brackets. -/
theorem skipsValues_succ {fuel : Nat} (hvalue : SkipsValues fuel)
    (hon : ∀ fuel' < fuel, SkipsOn fuel') : SkipsValues (fuel + 1) := by
  intro enclosing cs rest h
  have hgap := gap_skipGap cs
  unfold skipValue at h
  split at h
  · rename_i string hstring
    rw [hstring] at hgap
    obtain ⟨after, hskip, hrest⟩ := Option.bind_eq_some_iff.1 h
    exact ⟨_, after, fuel, by omega, hgap, .string (skipString_eq_some_iff.1 hskip), hrest⟩
  · rename_i word hword
    obtain ⟨after, hskip, hrest⟩ := Option.bind_eq_some_iff.1 h
    rw [hword] at hgap
    exact ⟨_, after, fuel, by omega, hgap, written_of_afterWord (.inl rfl) rfl hskip, hrest⟩
  · rename_i word hword
    obtain ⟨after, hskip, hrest⟩ := Option.bind_eq_some_iff.1 h
    rw [hword] at hgap
    exact ⟨_, after, fuel, by omega, hgap, written_of_afterWord (.inr (.inl rfl)) rfl hskip, hrest⟩
  · rename_i word hword
    obtain ⟨after, hskip, hrest⟩ := Option.bind_eq_some_iff.1 h
    rw [hword] at hgap
    exact ⟨_, after, fuel, by omega, hgap, written_of_afterWord (.inr (.inr rfl)) rfl hskip, hrest⟩
  · rename_i inner hinner
    rw [hinner] at hgap
    have hinside := gap_skipGap inner
    split at h
    · rename_i after hafter
      rw [hafter] at hinside
      exact ⟨_, after, fuel, by omega, hgap, .empty (b := false) hinside, h⟩
    · obtain ⟨after, fuel', hless, hitems, hrest⟩ := written_of_skipItems (b := false) hvalue hon h
      exact ⟨_, after, fuel', by omega, hgap, .filled (b := false) hitems, hrest⟩
  · rename_i inner hinner
    rw [hinner] at hgap
    have hinside := gap_skipGap inner
    split at h
    · rename_i after hafter
      rw [hafter] at hinside
      exact ⟨_, after, fuel, by omega, hgap, .empty (b := true) hinside, h⟩
    · obtain ⟨after, fuel', hless, hitems, hrest⟩ := written_of_skipItems (b := true) hvalue hon h
      exact ⟨_, after, fuel', by omega, hgap, .filled (b := true) hitems, hrest⟩
  · obtain ⟨⟨literal, after⟩, hscan, hrest⟩ := Option.bind_eq_some_iff.1 h
    exact ⟨_, after, fuel, by omega, hgap, .number (scanNumber_eq_some_iff.1 ⟨literal, hscan⟩),
      hrest⟩

/-- One step of skipping what comes after a value. -/
theorem skipsOn_succ {fuel : Nat} (hvalue : SkipsValues fuel)
    (hon : ∀ fuel' < fuel, SkipsOn fuel') : SkipsOn (fuel + 1) := by
  intro b enclosing cs rest h
  have hgap := gap_skipGap cs
  -- a comma leads to more items, in a list as in an object
  have hnext : ∀ next, skipGap cs = ',' :: next → skipItems b fuel enclosing next = some rest →
      ∃ after fuel', fuel' < fuel + 1 ∧ Closes b cs after ∧
        skipOn fuel' enclosing after = some rest := by
    intro next hcomma hitems
    rw [hcomma] at hgap
    obtain ⟨after, fuel', hless, hwritten, hrest⟩ := written_of_skipItems hvalue hon hitems
    exact ⟨after, fuel', by omega, .more hgap hwritten, hrest⟩
  unfold skipOn at h
  split at h
  · rename_i next hcomma
    exact hnext next hcomma h
  · rename_i after hclose
    rw [hclose] at hgap
    exact ⟨after, fuel, by omega, .last hgap, h⟩
  · rename_i next hcomma
    exact hnext next hcomma h
  · rename_i after hclose
    rw [hclose] at hgap
    exact ⟨after, fuel, by omega, .last hgap, h⟩
  · cases h

/-- **Values are skipped, and brackets closed**, with any fuel. -/
theorem skips (fuel : Nat) : SkipsValues fuel ∧ SkipsOn fuel := by
  induction fuel using Nat.strong_induction_on with
  | h fuel ih =>
    cases fuel with
    | zero => exact ⟨nofun, nofun⟩
    | succ fuel =>
      -- a value is followed by what closes it with any less fuel, so the induction is a strong one
      have hvalue := (ih fuel (Nat.lt_succ_self fuel)).1
      have hon := fun fuel' hless => (ih fuel' (Nat.lt_succ_of_lt hless)).2
      exact ⟨skipsValues_succ hvalue hon, skipsOn_succ hvalue hon⟩

/-! ## Values are skipped -/

/-- Where a value starts, there is no gap and nothing that closes a bracket. -/
theorem Written.exists_cons {cs rest : List Char} (h : Written .value cs rest) :
    ∃ c after, cs = c :: after ∧ isGap c = false ∧ c ≠ ']' ∧ c ≠ '\x7d' := by
  cases h with
  | string h => exact ⟨_, _, rfl, by decide, by decide, by decide⟩
  | word hw =>
    rcases hw with rfl | rfl | rfl <;> exact ⟨_, _, rfl, by decide, by decide, by decide⟩
  | number h =>
    obtain ⟨c, after, rfl, hc⟩ := h.exists_cons
    refine ⟨c, after, rfl, ?_, ?_, ?_⟩
    · rw [← Bool.not_eq_true, isGap_iff]
      rintro (rfl | rfl | rfl | rfl) <;> exact absurd hc (by decide)
    · rintro rfl
      exact absurd hc (by decide)
    · rintro rfl
      exact absurd hc (by decide)
  | @empty b | @filled b => cases b <;> exact ⟨_, _, rfl, by decide, by decide, by decide⟩

/-- A gap before a value does not count. -/
theorem skipValue_of_gap {cs v : List Char} (h : Gap cs v) (fuel : Nat) (enclosing : List Bool) :
    skipValue fuel enclosing cs = skipValue fuel enclosing v := by
  cases fuel with
  | zero => rfl
  | succ fuel =>
    unfold skipValue
    rw [h.skipGap_eq]

/-- What stands before a value is skipped with no fuel. -/
theorem skipItems_of_lead {b : Bool} {cs v : List Char} (h : Lead b cs v) (fuel : Nat)
    (enclosing : List Bool) :
    skipItems b fuel enclosing cs = skipValue fuel (b :: enclosing) v := by
  cases h with
  | element h => exact skipValue_of_gap h fuel _
  | member hkey hname hcolon hgap =>
    have hmark := skipKey_eq_some_iff.2 ⟨_, _, hkey, hname, hcolon⟩
    unfold skipItems
    dsimp only
    rw [hmark, Option.bind_some, skipValue_of_gap hgap]

section

variable (fuel : Nat) (enclosing : List Bool) (b : Bool) {cs rest : List Char}

theorem skipValue_string (h : Enclosed cs rest) :
    skipValue (fuel + 1) enclosing ('"' :: cs) = skipOn fuel enclosing rest := by
  have hgap : skipGap ('"' :: cs) = '"' :: cs := rfl
  unfold skipValue
  rw [hgap]
  simp only [skipString_eq_some_iff.2 h, Option.bind_some]

theorem skipValue_word {w : String} (hw : w = "null" ∨ w = "true" ∨ w = "false") :
    skipValue (fuel + 1) enclosing (w.toList ++ rest) = skipOn fuel enclosing rest := by
  rcases hw with rfl | rfl | rfl <;> rfl

theorem skipValue_number (h : NumberText cs rest) :
    skipValue (fuel + 1) enclosing cs = skipOn fuel enclosing rest := by
  obtain ⟨literal, hscan⟩ := scanNumber_eq_some_iff.2 h
  obtain ⟨c, after, rfl, hc⟩ := h.exists_cons
  have hgap : skipGap (c :: after) = c :: after := by
    obtain ⟨c', after', hcons, hno, -⟩ := (Written.number h).exists_cons
    cases hcons
    exact Gap.none.skipGap_cons hno
  unfold skipValue
  rw [hgap]
  split
  case h_7 => rw [hscan, Option.bind_some]
  all_goals
    rename_i heq
    cases heq
    exact absurd hc (by decide)

/-- An empty list or object is skipped in one step. -/
theorem skipValue_empty (h : Gap cs (closing b :: rest)) :
    skipValue (fuel + 1) enclosing (opening b :: cs) = skipOn fuel enclosing rest := by
  have hgap : skipGap (opening b :: cs) = opening b :: cs := by cases b <;> rfl
  have hclose : skipGap cs = closing b :: rest := h.skipGap_cons (by cases b <;> rfl)
  unfold skipValue
  rw [hgap]
  cases b <;> simp only [opening, hclose, closing]

/-- A bracket that is not closed at once opens items. -/
theorem skipValue_filled (h : ∀ after, skipGap cs ≠ closing b :: after) :
    skipValue (fuel + 1) enclosing (opening b :: cs) = skipItems b fuel enclosing cs := by
  have hgap : skipGap (opening b :: cs) = opening b :: cs := by cases b <;> rfl
  unfold skipValue
  rw [hgap]
  cases b with
  | false | true =>
    simp only [opening]
    split
    · rename_i after heq
      exact absurd heq (h after)
    · rfl

theorem skipOn_closing (h : Gap cs (closing b :: rest)) :
    skipOn (fuel + 1) (b :: enclosing) cs = skipOn fuel enclosing rest := by
  have hclose : skipGap cs = closing b :: rest := h.skipGap_cons (by cases b <;> rfl)
  rw [skipOn.eq_def]
  cases b <;> simp only [hclose, closing]

theorem skipOn_comma (h : Gap cs (',' :: rest)) :
    skipOn (fuel + 1) (b :: enclosing) cs = skipItems b fuel enclosing rest := by
  have hcomma : skipGap cs = ',' :: rest := h.skipGap_cons rfl
  rw [skipOn.eq_def]
  cases b <;> simp only [hcomma, skipItems]

end

theorem Lead.length_le {b : Bool} {cs v : List Char} (h : Lead b cs v) : v.length ≤ cs.length := by
  cases h with
  | element h => exact h.length_le
  | member hkey hname hcolon hgap =>
    have hquote := hkey.length_le
    have hmark := hcolon.length_le
    simp only [List.length_cons] at hquote hmark
    have hname := hname.length_lt
    have hgap := hgap.length_le
    omega

/-- Every part takes some characters. -/
theorem Written.length_lt {p : Part} {cs rest : List Char} (h : Written p cs rest) :
    rest.length < cs.length := by
  induction h with
  | string h => exact Nat.lt_succ_of_lt h.length_lt
  | word hw =>
    rw [List.length_append]
    rcases hw with rfl | rfl | rfl <;> exact Nat.lt_add_of_pos_left (by decide)
  | number h => exact h.length_lt
  | empty h => exact Nat.lt_succ_of_lt h.length_le
  | filled h ih => exact Nat.lt_succ_of_lt ih
  | last hlead hv hgap ih =>
    have hle := hlead.length_le
    have hend := hgap.length_le
    simp only [List.length_cons] at hend
    omega
  | more hlead hv hgap h ihv ih =>
    have hle := hlead.length_le
    have hcomma := hgap.length_le
    simp only [List.length_cons] at hcomma
    omega

/-- Items do not start with the bracket that closes them. -/
theorem Lead.skipGap_ne {b : Bool} {cs v after : List Char} (h : Lead b cs v)
    (hv : Written .value v after) (rest : List Char) : skipGap cs ≠ closing b :: rest := by
  cases h with
  | element h =>
    obtain ⟨c, after, rfl, hc, hne, -⟩ := hv.exists_cons
    rw [h.skipGap_cons hc]
    exact fun heq => hne (List.cons.inj heq).1
  | member hkey hname hcolon hgap =>
    rw [hkey.skipGap_cons rfl]
    exact fun heq => absurd (List.cons.inj heq).1 (by decide)

/-- **Enough fuel** for a part of a text is enough for it and for what comes after it. -/
def Skipped (cs rest : List Char) (skip : Nat → List Bool → Option (List Char)) : Prop :=
  ∀ fuel enclosing, cs.length < fuel →
    ∃ fuel', rest.length < fuel' ∧ skip fuel enclosing = skipOn fuel' enclosing rest

/-- A step that takes characters leaves enough fuel. -/
theorem skipped_of_step {cs rest : List Char} {skip : Nat → List Bool → Option (List Char)}
    (hless : rest.length < cs.length)
    (hstep : ∀ fuel enclosing, skip (fuel + 1) enclosing = skipOn fuel enclosing rest) :
    Skipped cs rest skip := by
  intro fuel enclosing hfuel
  obtain ⟨fuel, rfl⟩ := Nat.exists_eq_succ_of_ne_zero (Nat.ne_zero_of_lt hfuel)
  exact ⟨fuel, by omega, hstep fuel enclosing⟩

/-- Items after their first value are skipped if what comes after the value is. -/
theorem skipped_of_lead {b : Bool} {cs v after rest : List Char} (hlead : Lead b cs v)
    (hv : Skipped v after fun fuel enclosing => skipValue fuel enclosing v)
    (hafter : Skipped after rest fun fuel enclosing => skipOn fuel (b :: enclosing) after) :
    Skipped cs rest fun fuel enclosing => skipItems b fuel enclosing cs := by
  intro fuel enclosing hfuel
  obtain ⟨fuel₁, hfuel₁, hskip⟩ := hv fuel (b :: enclosing)
    (Nat.lt_of_le_of_lt hlead.length_le hfuel)
  obtain ⟨fuel₂, hfuel₂, hon⟩ := hafter fuel₁ enclosing hfuel₁
  exact ⟨fuel₂, hfuel₂, (skipItems_of_lead hlead fuel enclosing).trans (hskip.trans hon)⟩

/-- **What is written is skipped**, part by part. -/
theorem Written.skipped {p : Part} {cs rest : List Char} (h : Written p cs rest) :
    match p with
    | .value => Skipped cs rest fun fuel enclosing => skipValue fuel enclosing cs
    | .items b => Skipped cs rest fun fuel enclosing => skipItems b fuel enclosing cs := by
  induction h with
  | string h =>
    exact skipped_of_step (Nat.lt_succ_of_lt h.length_lt) fun fuel enclosing =>
      skipValue_string fuel enclosing h
  | @word w rest hw =>
    refine skipped_of_step ?_ fun fuel enclosing => skipValue_word fuel enclosing hw
    have hpos : 0 < w.toList.length := by rcases hw with rfl | rfl | rfl <;> decide
    rw [List.length_append]
    omega
  | number h =>
    exact skipped_of_step h.length_lt fun fuel enclosing => skipValue_number fuel enclosing h
  | @empty b cs rest h =>
    have hle := h.length_le
    refine skipped_of_step ?_ fun fuel enclosing => skipValue_empty fuel enclosing b h
    simp only [List.length_cons] at hle ⊢
    omega
  | @filled b cs rest h ih =>
    intro fuel enclosing hfuel
    obtain ⟨fuel, rfl⟩ := Nat.exists_eq_succ_of_ne_zero (Nat.ne_zero_of_lt hfuel)
    obtain ⟨fuel', hfuel', hskip⟩ := ih fuel enclosing (Nat.lt_of_succ_lt_succ hfuel)
    refine ⟨fuel', hfuel', (skipValue_filled fuel enclosing b ?_).trans hskip⟩
    cases h with
    | last hlead hv | more hlead hv => exact hlead.skipGap_ne hv
  | @last b cs v after rest hlead hv hgap ih =>
    have hle := hgap.length_le
    refine skipped_of_lead hlead ih (skipped_of_step hle fun fuel enclosing => ?_)
    exact skipOn_closing fuel enclosing b hgap
  | @more b cs v after next rest hlead hv hgap h ihv ih =>
    have hle := hgap.length_le
    refine skipped_of_lead hlead ihv fun fuel enclosing hfuel => ?_
    obtain ⟨fuel, rfl⟩ := Nat.exists_eq_succ_of_ne_zero (Nat.ne_zero_of_lt hfuel)
    simp only [List.length_cons] at hle
    obtain ⟨fuel', hfuel', hskip⟩ := ih fuel enclosing (by omega)
    exact ⟨fuel', hfuel', (skipOn_comma fuel enclosing b hgap).trans hskip⟩

/-- **The values that are skipped.** -/
theorem skipValue_eq_some_iff {cs rest : List Char} : skipValue (cs.length + 1) [] cs = some rest ↔
    ∃ v, Gap cs v ∧ Written .value v rest := by
  have hdone : ∀ fuel after, skipOn fuel [] after = some after := by
    intro fuel after
    rw [skipOn.eq_def]
  constructor
  · intro h
    obtain ⟨v, after, fuel, -, hgap, hv, hrest⟩ := (skips _).1 _ _ _ h
    rw [hdone, Option.some_inj] at hrest
    exact ⟨v, hgap, hrest ▸ hv⟩
  · rintro ⟨v, hgap, hv⟩
    obtain ⟨fuel, -, hskip⟩ := hv.skipped (cs.length + 1) [] (Nat.lt_succ_of_le hgap.length_le)
    rw [skipValue_of_gap hgap]
    exact hskip.trans (hdone fuel rest)

end RowGuard.Http
