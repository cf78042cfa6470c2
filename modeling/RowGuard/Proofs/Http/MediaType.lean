import RowGuard.Http.MediaType
import RowGuard.Proofs.Http.Header
import RowGuard.Proofs.Text.CodePoint
import RowGuard.Proofs.Text.Run

/-!
# Media types that announce JSON

A header announces a body as JSON by the media type in it: the type `application`, a subtype that
names JSON, alone or with a suffix, and any parameters (`JsonType`). These media types and no others
are taken for JSON.

* `Parameters`, `JsonSubtype`, `JsonType`: the grammar of these media types
* `announcesJsonBody_iff`: headers that announce a body as JSON
-/

set_option autoImplicit false

namespace RowGuard.Http

/-! ## The grammar -/

/-- A character of a bare word. -/
def WordChar (c : Char) : Prop := c.isAlphanum = true ∨ c ∈ "!#$%&'*+-.^_\x60|~".toList

/-- A character between quotes. -/
def QuotedChar (c : Char) : Prop := ' ' ≤ c ∧ c.toNat ≠ 127

/-- **A bare word**, of one character at least. -/
structure Word (w : List Char) : Prop where
  ne_nil : w ≠ []
  chars : ∀ c ∈ w, WordChar c

/-- Spaces, of any number. -/
def Spaces (pad : List Char) : Prop := ∀ c ∈ pad, c = ' '

/-- **The value of a parameter**: a word, or a text in quotes and spaces after it. The first
character of the text may be a quote itself. -/
inductive ParameterValue : List Char → Prop
  | word {w : List Char} (h : Word w) : ParameterValue w
  | quoted {first : Char} {inner pad : List Char} (hfirst : QuotedChar first)
      (hinner : ∀ c ∈ inner, QuotedChar c ∧ c ≠ '"') (hpad : Spaces pad) :
      ParameterValue ('"' :: first :: (inner ++ '"' :: pad))

/-- **Parameters**, from the first on. The last one may have no value. -/
inductive Parameters : List Char → Prop
  | none {pad : List Char} (hpad : Spaces pad) : Parameters pad
  | last {pad name value : List Char} (hpad : Spaces pad) (hname : Word name)
      (hvalue : value = [] ∨ ParameterValue value) : Parameters (pad ++ (name ++ '=' :: value))
  | more {pad name value rest : List Char} (hpad : Spaces pad) (hname : Word name)
      (hvalue : ParameterValue value) (h : Parameters rest) :
      Parameters (pad ++ (name ++ '=' :: (value ++ ';' :: rest)))

/-- **Subtypes that name JSON**, before or after the last plus sign. -/
inductive JsonSubtype : List Char → Prop
  | alone : JsonSubtype "json".toList
  | before {suffix : List Char} (h : '+' ∉ suffix) : JsonSubtype ("json".toList ++ '+' :: suffix)
  | after {name : List Char} (h : name ≠ []) : JsonSubtype (name ++ '+' :: "json".toList)

/-- **A type and a subtype that announce JSON**, in any case of the letters. -/
structure JsonName (type subtype : List Char) : Prop where
  application : type.map Char.toLower = "application".toList
  json : JsonSubtype (subtype.map Char.toLower)
  chars : ∀ c ∈ subtype, WordChar c

/-- **A media type that announces JSON.** -/
inductive JsonType : List Char → Prop
  | bare {type subtype : List Char} (h : JsonName type subtype) : JsonType (type ++ '/' :: subtype)
  | parameters {type subtype params : List Char} (h : JsonName type subtype)
      (hparams : Parameters params) : JsonType (type ++ '/' :: (subtype ++ ';' :: params))

theorem JsonSubtype.ne_nil {text : List Char} (h : JsonSubtype text) : text ≠ [] := by
  cases h with
  | alone => decide
  | before | after => simp

/-! ## Parameters, read -/

theorem isWordChar_iff {c : Char} : isWordChar c = true ↔ WordChar c := by
  simp only [isWordChar, WordChar, Bool.or_eq_true, List.contains_iff_mem]

theorem isQuotedChar_iff {c : Char} : isQuotedChar c = true ↔ QuotedChar c := by
  simp only [isQuotedChar, QuotedChar, Bool.and_eq_true, decide_eq_true_eq, bne_iff_ne, ne_eq]

/-- Word characters and what comes after them. -/
theorem word_run_iff {cs w rest : List Char} :
    cs.takeWhile isWordChar = w ∧ cs.dropWhile isWordChar = rest ↔
      cs = w ++ rest ∧ (∀ c ∈ w, WordChar c) ∧ ∀ c ∈ rest.head?, isWordChar c = false := by
  simp only [run_iff, isWordChar_iff]

/-- **A word is taken** up to a character that belongs to none. -/
theorem word_taken {w : List Char} (rest : List Char) (h : ∀ c ∈ w, WordChar c)
    (hrest : ∀ c ∈ rest.head?, isWordChar c = false) :
    (w ++ rest).takeWhile isWordChar = w ∧ (w ++ rest).dropWhile isWordChar = rest :=
  word_run_iff.2 ⟨rfl, h, hrest⟩

/-- A word does not start with a quote. -/
theorem Word.ne_quote {w : List Char} (h : Word w) (rest after : List Char) :
    w ++ rest ≠ '"' :: after := by
  obtain ⟨hne, hchars⟩ := h
  obtain ⟨c, w, rfl⟩ := List.exists_cons_of_ne_nil hne
  rintro heq
  have hc := isWordChar_iff.2 (hchars c List.mem_cons_self)
  rw [(List.cons.inj heq).1] at hc
  exact absurd hc (by decide)

/-- **How a value ends**: with the text, or with a semicolon. -/
inductive ValueEnds : List Char → List Char → Prop
  | empty : ValueEnds [] []
  | last {value : List Char} (h : ParameterValue value) : ValueEnds value []
  | more {value rest : List Char} (h : ParameterValue value) :
      ValueEnds (value ++ ';' :: rest) rest

/-- Whether a character may stand inside of quotes and does not close them. -/
def staysQuoted (c : Char) : Bool := isQuotedChar c && c != '"'

theorem staysQuoted_iff {c : Char} : staysQuoted c = true ↔ QuotedChar c ∧ c ≠ '"' := by
  rw [staysQuoted, Bool.and_eq_true, isQuotedChar_iff, bne_iff_ne]

theorem spaces_iff {pad : List Char} : Spaces pad ↔ ∀ c ∈ pad, (c == ' ') = true := by
  simp only [Spaces, beq_iff_eq]

/-- What follows the closing quote of a value. -/
def afterQuotes (cs : List Char) : Option (List Char) :=
  match cs.dropWhile (· == ' ') with
  | [] => some []
  | ';' :: rest => some rest
  | _ => none

/-- After the closing quote there are spaces only, up to the end or a semicolon. -/
theorem afterQuotes_eq_some_iff {cs rest : List Char} : afterQuotes cs = some rest ↔
    ∃ pad, Spaces pad ∧ (cs = pad ∧ rest = [] ∨ cs = pad ++ ';' :: rest) := by
  constructor
  · intro h
    unfold afterQuotes at h
    split at h
    · rename_i hdrop
      cases h
      exact ⟨cs, spaces_iff.2 (List.dropWhile_eq_nil_iff.1 hdrop), .inl ⟨rfl, rfl⟩⟩
    · rename_i after hdrop
      cases h
      obtain ⟨hcs, hpad, -⟩ := run_iff.1 ⟨rfl, hdrop⟩
      exact ⟨_, spaces_iff.2 hpad, .inr hcs⟩
    · cases h
  · rintro ⟨pad, hpad, ⟨rfl, rfl⟩ | rfl⟩
    · unfold afterQuotes
      rw [List.dropWhile_eq_nil_iff.2 (spaces_iff.1 hpad)]
    · unfold afterQuotes
      rw [dropWhile_of_run (spaces_iff.1 hpad) (by rintro c ⟨⟩; rfl)]
      rfl

/-- A value that starts with a quote is read to the next one but the character after it, which may
be a quote. -/
theorem afterParameterValue_quote (first : Char) (cs : List Char) :
    afterParameterValue ('"' :: first :: cs) =
      if isQuotedChar first then
        match cs.dropWhile staysQuoted with
        | '"' :: after => afterQuotes after
        | _ => none
      else none := by
  cases hfirst : isQuotedChar first with
  | false =>
    rw [afterParameterValue, hfirst]
    rfl
  | true =>
    rw [afterParameterValue, hfirst]
    rfl

/-- What follows a value without quotes. -/
def afterBareValue (cs : List Char) : Option (List Char) :=
  match cs.takeWhile isWordChar, cs.dropWhile isWordChar with
  | _, [] => some []
  | [], _ => none
  | _, ';' :: rest => some rest
  | _, _ => none

/-- Any other value is read as a word. -/
theorem afterParameterValue_bare {cs : List Char} (h : ∀ after, cs ≠ '"' :: after) :
    afterParameterValue cs = afterBareValue cs := by
  unfold afterParameterValue
  split
  · exact absurd rfl (h _)
  · rfl

/-- What is read from a quote on is a text in quotes. -/
theorem valueEnds_of_quote {first : Char} {cs rest : List Char}
    (h : afterParameterValue ('"' :: first :: cs) = some rest) :
    ValueEnds ('"' :: first :: cs) rest := by
  rw [afterParameterValue_quote, Option.ite_none_right_eq_some] at h
  obtain ⟨hfirst, h⟩ := h
  split at h
  · rename_i after hdrop
    obtain ⟨hcs, hinner, -⟩ := run_iff.1 ⟨rfl, hdrop⟩
    have hinner' : ∀ c ∈ cs.takeWhile staysQuoted, QuotedChar c ∧ c ≠ '"' := fun c hc =>
      staysQuoted_iff.1 (hinner c hc)
    have hvalue := fun {pad} (hpad : Spaces pad) =>
      ParameterValue.quoted (isQuotedChar_iff.1 hfirst) hinner' hpad
    generalize cs.takeWhile staysQuoted = inner at *
    subst hcs
    obtain ⟨pad, hpad, ⟨rfl, rfl⟩ | rfl⟩ := afterQuotes_eq_some_iff.1 h
    · exact .last (hvalue hpad)
    · have hmore : ValueEnds (_ ++ ';' :: rest) rest := .more (hvalue hpad)
      simpa using hmore
  · cases h

/-- What is read without quotes is a word, or nothing at the very end. -/
theorem valueEnds_of_bare {cs rest : List Char} (h : afterBareValue cs = some rest) :
    ValueEnds cs rest := by
  obtain ⟨hsplit, hchars, -⟩ := word_run_iff.1 ⟨rfl, rfl⟩
  have hword : cs.takeWhile isWordChar ≠ [] → ParameterValue (cs.takeWhile isWordChar) := fun hne =>
    .word ⟨hne, hchars⟩
  unfold afterBareValue at h
  split at h
  · rename_i hrest
    cases h
    rw [hrest, List.append_nil] at hsplit
    by_cases hne : cs.takeWhile isWordChar = []
    · rw [hsplit, hne]
      exact .empty
    · rw [hsplit]
      exact .last (hword hne)
  · cases h
  · rename_i after hrest hne
    cases h
    rw [hsplit, hrest]
    exact .more (hword hne)
  · cases h

theorem afterParameterValue_word {w : List Char} (h : Word w) :
    afterParameterValue w = some [] ∧
      ∀ rest, afterParameterValue (w ++ ';' :: rest) = some rest := by
  constructor
  · obtain ⟨htake, hdrop⟩ := word_taken [] h.chars nofun
    rw [List.append_nil] at htake hdrop
    rw [afterParameterValue_bare fun after => by simpa using h.ne_quote [] after,
      afterBareValue, htake, hdrop]
  · intro rest
    obtain ⟨htake, hdrop⟩ := word_taken (';' :: rest) h.chars (by rintro c ⟨⟩; rfl)
    obtain ⟨c, w, rfl⟩ := List.exists_cons_of_ne_nil h.ne_nil
    rw [afterParameterValue_bare (h.ne_quote _), afterBareValue, htake, hdrop]
    rfl

/-- A text in quotes is read up to its closing quote. -/
theorem afterParameterValue_closed {first : Char} {inner : List Char} (hfirst : QuotedChar first)
    (hinner : ∀ c ∈ inner, QuotedChar c ∧ c ≠ '"') (after : List Char) :
    afterParameterValue ('"' :: first :: (inner ++ '"' :: after)) = afterQuotes after := by
  have hstay : ∀ c ∈ inner, staysQuoted c = true := fun c hc => staysQuoted_iff.2 (hinner c hc)
  rw [afterParameterValue_quote, if_pos (isQuotedChar_iff.2 hfirst),
    dropWhile_of_run hstay (by rintro c ⟨⟩; rfl)]
  rfl

/-- **How the value of a parameter ends** is how it is read. -/
theorem afterParameterValue_eq_some_iff {cs rest : List Char} :
    afterParameterValue cs = some rest ↔ ValueEnds cs rest := by
  constructor
  · intro h
    by_cases hquote : ∃ after, cs = '"' :: after
    · obtain ⟨_ | ⟨first, after⟩, rfl⟩ := hquote
      · cases h
      · exact valueEnds_of_quote h
    · rw [afterParameterValue_bare fun after heq => hquote ⟨after, heq⟩] at h
      exact valueEnds_of_bare h
  · intro h
    cases h with
    | empty => rfl
    | last h =>
      cases h with
      | word h => exact (afterParameterValue_word h).1
      | quoted hfirst hinner hpad =>
        rw [afterParameterValue_closed hfirst hinner]
        exact afterQuotes_eq_some_iff.2 ⟨_, hpad, .inl ⟨rfl, rfl⟩⟩
    | more h =>
      cases h with
      | word h => exact (afterParameterValue_word h).2 rest
      | quoted hfirst hinner hpad =>
        rw [List.cons_append, List.cons_append, List.append_assoc, List.cons_append,
          afterParameterValue_closed hfirst hinner]
        exact afterQuotes_eq_some_iff.2 ⟨_, hpad, .inr rfl⟩

theorem ValueEnds.length_le {cs rest : List Char} (h : ValueEnds cs rest) :
    rest.length ≤ cs.length := by
  cases h with
  | empty => exact Nat.le_refl _
  | last h => exact Nat.zero_le _
  | more h => simp only [List.length_append, List.length_cons]; omega

/-- The text after a parameter. -/
def afterParameter (cs : List Char) : Option (List Char) :=
  match cs.takeWhile isWordChar, cs.dropWhile isWordChar with
  | _ :: _, '=' :: rest => afterParameterValue rest
  | _, _ => none

/-- **A parameter that is read** has a name, which is a word, and a value. -/
theorem afterParameter_eq_some_iff {cs rest : List Char} : afterParameter cs = some rest ↔
    ∃ name value, cs = name ++ '=' :: value ∧ Word name ∧ ValueEnds value rest := by
  constructor
  · intro h
    unfold afterParameter at h
    split at h
    · rename_i c name value hname hvalue
      obtain ⟨hcs, hchars, -⟩ := word_run_iff.1 ⟨hname, hvalue⟩
      exact ⟨_, value, hcs, ⟨nofun, hchars⟩, afterParameterValue_eq_some_iff.1 h⟩
    · cases h
  · rintro ⟨name, value, rfl, hname, hvalue⟩
    obtain ⟨htake, hdrop⟩ := word_taken ('=' :: value) hname.chars (by rintro c ⟨⟩; rfl)
    obtain ⟨c, name, rfl⟩ := List.exists_cons_of_ne_nil hname.ne_nil
    unfold afterParameter
    rw [htake, hdrop]
    exact afterParameterValue_eq_some_iff.2 hvalue

/-- Whether a text is parameters, by the first of them. -/
theorem areParameters_succ_eq_true_iff {fuel : Nat} {cs : List Char} :
    areParameters (fuel + 1) cs = true ↔ Spaces cs ∨
      ∃ rest, afterParameter (cs.dropWhile (· == ' ')) = some rest ∧
        areParameters fuel rest = true := by
  constructor
  · intro h
    unfold areParameters at h
    split at h
    · rename_i hnil
      exact .inl (spaces_iff.2 (List.dropWhile_eq_nil_iff.1 hnil))
    · split at h
      · rename_i hname hvalue
        split at h
        · rename_i rest hrest
          refine .inr ⟨rest, ?_, h⟩
          unfold afterParameter
          rw [hname, hvalue]
          exact hrest
        · cases h
      · cases h
  · rintro (hpad | ⟨rest, hrest, h⟩)
    · unfold areParameters
      rw [List.dropWhile_eq_nil_iff.2 (spaces_iff.1 hpad)]
    · unfold areParameters
      unfold afterParameter at hrest
      split
      · rfl
      · split at hrest
        · rename_i value hname hvalue
          simp only [hname, hvalue, hrest, h]
        · cases hrest

/-- A word does not start with a space. -/
theorem Word.head?_append {w rest : List Char} (h : Word w) {c : Char}
    (hc : c ∈ (w ++ rest).head?) : (c == ' ') = false := by
  obtain ⟨d, w, rfl⟩ := List.exists_cons_of_ne_nil h.ne_nil
  cases hc
  rw [beq_eq_false_iff_ne]
  rintro rfl
  exact absurd (isWordChar_iff.2 (h.chars _ List.mem_cons_self)) (by decide)

/-- **Parameters that are read.** The length of the text is fuel enough. -/
theorem areParameters_eq_true_iff {fuel : Nat} {cs : List Char} (hfuel : cs.length ≤ fuel) :
    areParameters fuel cs = true ↔ Parameters cs := by
  induction fuel generalizing cs with
  | zero =>
    rw [List.length_eq_zero_iff.1 (Nat.le_zero.1 hfuel)]
    exact iff_of_true rfl (.none nofun)
  | succ fuel ih =>
    rw [areParameters_succ_eq_true_iff]
    constructor
    · rintro (hpad | ⟨rest, hafter, hrest⟩)
      · exact .none hpad
      obtain ⟨name, value, hdrop, hname, hvalue⟩ := afterParameter_eq_some_iff.1 hafter
      obtain ⟨hcs, hpad, -⟩ := run_iff.1 ⟨rfl, hdrop⟩
      have hshorter : rest.length ≤ fuel := by
        have hle := hvalue.length_le
        rw [hcs] at hfuel
        simp only [List.length_append, List.length_cons] at hfuel
        omega
      rw [hcs]
      cases hvalue with
      | empty => exact .last (spaces_iff.2 hpad) hname (.inl rfl)
      | last hvalue => exact .last (spaces_iff.2 hpad) hname (.inr hvalue)
      | more hvalue => exact .more (spaces_iff.2 hpad) hname hvalue ((ih hshorter).1 hrest)
    · -- the spaces go, and then the name is the first word
      have hparameter : ∀ {pad name value rest : List Char}, Spaces pad → Word name →
          ValueEnds value rest → afterParameter
            ((pad ++ (name ++ '=' :: value)).dropWhile (· == ' ')) = some rest := by
        intro pad name value rest hpad hname hvalue
        rw [dropWhile_of_run (spaces_iff.1 hpad) fun c => hname.head?_append]
        exact afterParameter_eq_some_iff.2 ⟨name, value, rfl, hname, hvalue⟩
      intro h
      cases h with
      | none hpad => exact .inl hpad
      | last hpad hname hvalue =>
        refine .inr ⟨[], hparameter hpad hname ?_, (ih (Nat.zero_le _)).2 (.none nofun)⟩
        rcases hvalue with rfl | hvalue
        · exact .empty
        · exact .last hvalue
      | more hpad hname hvalue h =>
        refine .inr ⟨_, hparameter hpad hname (.more hvalue), (ih ?_).2 h⟩
        simp only [List.length_append, List.length_cons] at hfuel
        omega

/-! ## Types and subtypes, read -/

/-- Without a plus sign there is no suffix. -/
theorem splitSuffix_of_not_mem {cs : List Char} (h : '+' ∉ cs) : splitSuffix cs = (cs, none) := by
  have htail : cs.reverse.takeWhile (· != '+') = cs.reverse := by
    refine List.takeWhile_eq_self_iff.2 fun c hc => bne_iff_ne.2 ?_
    rintro rfl
    exact h (List.mem_reverse.1 hc)
  unfold splitSuffix
  dsimp only
  rw [htail, List.length_reverse, Nat.sub_self]
  rfl

/-- The suffix stands after the last plus sign. There is none if nothing is before it. -/
theorem splitSuffix_append {name suffix : List Char} (h : '+' ∉ suffix) :
    splitSuffix (name ++ '+' :: suffix) =
      if name = [] then ('+' :: suffix, none) else (name, some suffix) := by
  have hstay : ∀ c ∈ suffix.reverse, (c != '+') = true := by
    intro c hc
    rw [bne_iff_ne]
    rintro rfl
    exact h (List.mem_reverse.1 hc)
  have htail : (name ++ '+' :: suffix).reverse.takeWhile (· != '+') = suffix.reverse := by
    rw [List.reverse_append, List.reverse_cons, List.append_assoc]
    exact takeWhile_of_run hstay (by rintro c ⟨⟩; rfl)
  have htake : (name ++ '+' :: suffix).take ((name ++ '+' :: suffix).length - suffix.length) =
      name ++ ['+'] := by
    have happend : name ++ '+' :: suffix = (name ++ ['+']) ++ suffix := List.append_cons ..
    rw [happend, List.length_append, Nat.add_sub_cancel, List.take_left]
  unfold splitSuffix
  dsimp only
  rw [htail, List.length_reverse, htake, List.dropLast_concat, List.reverse_reverse]
  cases name <;> rfl

/-- A text without plus signs, or with a last one. -/
theorem exists_last_plus (cs : List Char) :
    '+' ∉ cs ∨ ∃ name suffix, cs = name ++ '+' :: suffix ∧ '+' ∉ suffix := by
  by_cases h : '+' ∈ cs
  · obtain ⟨suffix, name, hcs, hsuffix⟩ := List.eq_append_cons_of_mem (List.mem_reverse.2 h)
    refine .inr ⟨name.reverse, suffix.reverse, ?_, by simpa using hsuffix⟩
    simpa using congrArg List.reverse hcs
  · exact .inl h

/-- **A type and a subtype announce JSON** by their names, in any case. -/
theorem announcesJson_eq_true_iff {type subtype : List Char} : announcesJson type subtype = true ↔
    type.map Char.toLower = "application".toList ∧ JsonSubtype (subtype.map Char.toLower) := by
  unfold announcesJson
  dsimp only
  generalize subtype.map Char.toLower = text
  rw [Bool.and_eq_true, beq_iff_eq]
  refine and_congr_right fun _ => ?_
  rw [Bool.or_eq_true, beq_iff_eq, beq_iff_eq]
  -- the suffix has no plus sign, so it is told by the last one
  have hjson : '+' ∉ "json".toList := by decide
  constructor
  · intro h
    rcases exists_last_plus text with hplus | ⟨name, suffix, rfl, hplus⟩
    · rw [splitSuffix_of_not_mem hplus] at h
      rcases h with rfl | h
      · exact .alone
      · cases h
    · rw [splitSuffix_append hplus] at h
      split at h
      · rcases h with h | h <;> cases h
      · rename_i hname
        rcases h with rfl | h
        · exact .before hplus
        · cases h
          exact .after hname
  · intro h
    cases h with
    | alone => exact .inl rfl
    | before hplus =>
      rw [splitSuffix_append hplus]
      exact .inl rfl
    | after hname =>
      rw [splitSuffix_append hjson, if_neg hname]
      exact .inr rfl

/-- A character that is a small letter in lower case belongs to a word. -/
theorem wordChar_of_toLower {c : Char} (h : 97 ≤ c.toLower.toNat ∧ c.toLower.toNat ≤ 122) :
    WordChar c := by
  rw [toNat_toLower] at h
  -- its code is that of a capital, or its own
  have hletter : c.isAlpha = true := by
    rw [isAlpha_iff]
    by_cases hupper : 65 ≤ c.toNat ∧ c.toNat ≤ 90
    · exact .inl hupper
    · rw [if_neg hupper] at h
      exact .inr h
  exact .inl (Bool.or_eq_true_iff.2 (.inl hletter))

/-- The type of JSON is a word. -/
theorem JsonName.word {type subtype : List Char} (h : JsonName type subtype) : Word type := by
  refine ⟨?_, fun c hc => wordChar_of_toLower ?_⟩
  · rintro rfl
    exact absurd h.application (by decide)
  · have hmem : c.toLower ∈ "application".toList := h.application ▸ List.mem_map_of_mem hc
    have hsmall : ∀ d ∈ "application".toList, 97 ≤ d.toNat ∧ d.toNat ≤ 122 := by simp
    exact hsmall _ hmem

/-- A media type is read at its first slash. -/
theorem isJsonType_slash {type : List Char} (h : Word type) (after : List Char) :
    isJsonType (type ++ '/' :: after) =
      match after.takeWhile isWordChar, after.dropWhile isWordChar with
      | _, [] => announcesJson type (after.takeWhile isWordChar)
      | _ :: _, ';' :: params =>
        areParameters params.length params && announcesJson type (after.takeWhile isWordChar)
      | _, _ => false := by
  obtain ⟨htake, hdrop⟩ := word_taken ('/' :: after) h.chars (by rintro c ⟨⟩; rfl)
  obtain ⟨c, type, rfl⟩ := List.exists_cons_of_ne_nil h.ne_nil
  unfold isJsonType
  rw [htake, hdrop]
  dsimp only
  rfl

/-- **The media types that are taken for JSON.** -/
theorem isJsonType_eq_true_iff {cs : List Char} : isJsonType cs = true ↔ JsonType cs := by
  constructor
  · intro h
    unfold isJsonType at h
    split at h
    · rename_i c type rest htype hslash
      obtain ⟨hcs, -⟩ := word_run_iff.1 ⟨htype, hslash⟩
      dsimp only at h
      split at h
      · rename_i hnone
        obtain ⟨happlication, hjson⟩ := announcesJson_eq_true_iff.1 h
        obtain ⟨hrest, hchars, -⟩ := word_run_iff.1 ⟨rfl, hnone⟩
        rw [htype] at happlication
        rw [hcs, hrest, List.append_nil]
        exact .bare ⟨happlication, hjson, hchars⟩
      · rename_i params hparams
        rw [Bool.and_eq_true, announcesJson_eq_true_iff,
          areParameters_eq_true_iff (Nat.le_refl _)] at h
        obtain ⟨hall, happlication, hjson⟩ := h
        obtain ⟨hrest, hchars, -⟩ := word_run_iff.1 ⟨rfl, hparams⟩
        rw [htype] at happlication
        rw [hcs, hrest]
        exact .parameters ⟨happlication, hjson, hchars⟩ hall
      · cases h
    · cases h
  · intro h
    cases h with
    | @bare type subtype h =>
      obtain ⟨htake, hdrop⟩ := word_taken [] h.chars nofun
      rw [List.append_nil] at htake hdrop
      rw [isJsonType_slash h.word, htake, hdrop]
      exact announcesJson_eq_true_iff.2 ⟨h.application, h.json⟩
    | @parameters type subtype params h hparams =>
      obtain ⟨htake, hdrop⟩ := word_taken (';' :: params) h.chars (by rintro c ⟨⟩; rfl)
      have hne : subtype ≠ [] := fun hnil => h.json.ne_nil (by rw [hnil]; rfl)
      obtain ⟨c, word, rfl⟩ := List.exists_cons_of_ne_nil hne
      rw [isJsonType_slash h.word, htake, hdrop]
      exact Bool.and_eq_true_iff.2 ⟨(areParameters_eq_true_iff (Nat.le_refl _)).2 hparams,
        announcesJson_eq_true_iff.2 ⟨h.application, h.json⟩⟩

/-- **Headers that announce a body as JSON.** -/
theorem announcesJsonBody_iff {headers : Headers} : announcesJsonBody headers = true ↔
    ∃ text, Brings headers "content-type" (some text) ∧ JsonType text := by
  have hbrings : ∀ text, Brings headers "content-type" (some text) ↔
      (firstValue? "content-type" headers).bind readable? = some text := by
    intro text
    rw [← headerText_eq_ok_iff, headerText]
    cases firstValue? "content-type" headers with
    | none => exact iff_of_false nofun nofun
    | some value =>
      dsimp only
      rw [Option.bind_some]
      cases readable? value with
      | none => exact iff_of_false nofun nofun
      | some cs => simp
  unfold announcesJsonBody
  simp only [hbrings, ← isJsonType_eq_true_iff]
  cases (firstValue? "content-type" headers).bind readable? with
  | none => exact iff_of_false nofun nofun
  | some cs => simp

end RowGuard.Http
