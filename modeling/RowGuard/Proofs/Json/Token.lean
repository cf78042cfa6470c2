import RowGuard.Json.Token
import RowGuard.Proofs.Text.Numeral

/-!
# The grammar of tokens

What a JSON text is made of, each part told by the characters where it stands and those that follow
it: gaps, strings in quotes with their escapes, and numbers. The scanners take these parts and no
others.

* `Gap`, `Quoted`, `Enclosed`, `NumberText`: gaps, strings with what they spell, strings whose value
  is not wanted, and numbers
* `scanString_eq_some_iff`, `skipString_eq_some_iff`, `scanNumber_eq_some_iff`: what is scanned
-/

set_option autoImplicit false

namespace RowGuard.Json

/-! ## Gaps -/

/-- **A gap**, of any length. -/
inductive Gap : List Char → List Char → Prop
  | none {rest : List Char} : Gap rest rest
  | more {c : Char} {cs rest : List Char} (hc : c = ' ' ∨ c = '\n' ∨ c = '\t' ∨ c = '\r')
      (h : Gap cs rest) : Gap (c :: cs) rest

theorem isGap_iff {c : Char} :
    isGap c = true ↔ c = ' ' ∨ c = '\n' ∨ c = '\t' ∨ c = '\r' := by
  simp [isGap, or_assoc]

/-- What is skipped is a gap. -/
theorem gap_skipGap (cs : List Char) : Gap cs (skipGap cs) := by
  unfold skipGap
  induction cs with
  | nil => exact .none
  | cons c rest ih =>
    by_cases hc : isGap c = true
    · rw [List.dropWhile_cons_of_pos hc]
      exact .more (isGap_iff.1 hc) ih
    · rw [List.dropWhile_cons_of_neg hc]
      exact .none

/-- Gaps that follow each other are one. -/
theorem Gap.trans {cs mid rest : List Char} (h : Gap cs mid) (h' : Gap mid rest) :
    Gap cs rest := by
  induction h with
  | none => exact h'
  | more hc h ih => exact .more hc (ih h')

/-- What a gap leads to does not depend on where one stands in it. -/
theorem Gap.skipGap_eq {cs rest : List Char} (h : Gap cs rest) : skipGap cs = skipGap rest := by
  induction h with
  | none => rfl
  | more hc h ih => rw [← ih, skipGap, List.dropWhile_cons_of_pos (isGap_iff.2 hc), ← skipGap]

/-- **A gap is skipped** up to a character that is none. -/
theorem Gap.skipGap_cons {cs rest : List Char} {c : Char} (h : Gap cs (c :: rest))
    (hc : isGap c = false) : skipGap cs = c :: rest := by
  rw [h.skipGap_eq, skipGap, List.dropWhile_cons_of_neg (by simp [hc])]

theorem Gap.length_le {cs rest : List Char} (h : Gap cs rest) : rest.length ≤ cs.length := by
  induction h with
  | none => exact Nat.le_refl _
  | more hc h ih => exact Nat.le_succ_of_le ih

/-! ## Strings -/

/-- **Four hexadecimal digits** and their value. -/
def HexFour (a b c d : Char) (n : Nat) : Prop :=
  ∃ w x y z, HexDigit a w ∧ HexDigit b x ∧ HexDigit c y ∧ HexDigit d z ∧
    n = ((w * 16 + x) * 16 + y) * 16 + z

/-- The value of four digits. -/
theorem hexFour?_eq_some_iff {a b c d : Char} {n : Nat} :
    hexFour? a b c d = some n ↔ HexFour a b c d n := by
  unfold hexFour? HexFour
  simp only [Option.bind_eq_bind, Option.bind_eq_some_iff, hexValue?_eq_some_iff, Option.pure_def,
    Option.some_inj]
  constructor
  · rintro ⟨w, hw, x, hx, y, hy, z, hz, rfl⟩
    exact ⟨w, x, y, z, hw, hx, hy, hz, rfl⟩
  · rintro ⟨w, x, y, z, hw, hx, hy, hz, rfl⟩
    exact ⟨w, hw, x, hx, y, hy, z, hz, rfl⟩

theorem HexFour.lt {a b c d : Char} {n : Nat} (h : HexFour a b c d n) : n < 0x10000 := by
  obtain ⟨w, x, y, z, ⟨hw, -⟩, ⟨hx, -⟩, ⟨hy, -⟩, ⟨hz, -⟩, rfl⟩ := h
  omega

/-- **The short escapes**: a letter after a backslash and the character that it stands for. -/
inductive ShortEscape : Char → Char → Prop
  | quote : ShortEscape '"' '"'
  | backslash : ShortEscape '\\' '\\'
  | slash : ShortEscape '/' '/'
  | backspace : ShortEscape 'b' '\x08'
  | formFeed : ShortEscape 'f' '\x0c'
  | newline : ShortEscape 'n' '\n'
  | carriageReturn : ShortEscape 'r' '\r'
  | tab : ShortEscape 't' '\t'

/-- The short escapes that are known. -/
theorem shortEscape?_eq_some_iff {e c : Char} : shortEscape? e = some c ↔ ShortEscape e c := by
  constructor
  · intro h
    unfold shortEscape? at h
    split at h <;> cases h <;> constructor
  · intro h
    cases h <;> rfl

/-- **A string in quotes**: the characters after its opening quote, the characters that it spells,
and those after its closing quote. A character beyond `U+FFFF` is escaped by a pair of surrogates.
-/
inductive Quoted : List Char → List Char → List Char → Prop
  | close {rest : List Char} : Quoted ('"' :: rest) [] rest
  | plain {c : Char} {cs s rest : List Char} (hquote : c ≠ '"') (hslash : c ≠ '\\')
      (hshow : ¬ c < ' ') (h : Quoted cs s rest) : Quoted (c :: cs) (c :: s) rest
  | short {e c : Char} {cs s rest : List Char} (he : ShortEscape e c) (h : Quoted cs s rest) :
      Quoted ('\\' :: e :: cs) (c :: s) rest
  | code {a b d e c : Char} {cs s rest : List Char} (hc : HexFour a b d e c.toNat)
      (h : Quoted cs s rest) : Quoted ('\\' :: 'u' :: a :: b :: d :: e :: cs) (c :: s) rest
  | pair {a b d e a' b' d' e' c : Char} {high low : Nat} {cs s rest : List Char}
      (hhigh : HexFour a b d e high) (hlow : HexFour a' b' d' e' low)
      (hhigh' : 0xd800 ≤ high ∧ high ≤ 0xdbff) (hlow' : 0xdc00 ≤ low ∧ low ≤ 0xdfff)
      (hc : c.toNat = 0x10000 + (high - 0xd800) * 0x400 + (low - 0xdc00)) (h : Quoted cs s rest) :
      Quoted ('\\' :: 'u' :: a :: b :: d :: e :: '\\' :: 'u' :: a' :: b' :: d' :: e' :: cs)
        (c :: s) rest

/-- The code of a character is no half of a pair. -/
theorem not_surrogate (c : Char) :
    ¬ (0xdc00 ≤ c.toNat ∧ c.toNat ≤ 0xdfff) ∧ ¬ (0xd800 ≤ c.toNat ∧ c.toNat ≤ 0xdbff) := by
  have hvalid : c.toNat < 0xd800 ∨ 0xdfff < c.toNat ∧ c.toNat < 0x110000 := c.valid
  omega

/-- The character of a pair has the code that the pair stands for. -/
theorem toNat_pairChar {high low : Nat} (hhigh : 0xd800 ≤ high ∧ high ≤ 0xdbff)
    (hlow : 0xdc00 ≤ low ∧ low ≤ 0xdfff) :
    (pairChar high low).toNat = 0x10000 + (high - 0xd800) * 0x400 + (low - 0xdc00) :=
  toNat_ofNat (.inr (by omega))

/-- What is scanned has been spelled. -/
theorem quoted_of_scanInto {taken cs text rest : List Char}
    (h : scanInto taken cs = some (text, rest)) :
    ∃ s, text = taken.reverse ++ s ∧ Quoted cs s rest := by
  fun_induction scanInto taken cs with
  | case1 | case3 | case4 | case5 | case7 | case8 | case10 | case12 => cases h
  | case2 taken after =>
    cases h
    exact ⟨[], (List.append_nil _).symm, .close⟩
  | case6 taken a b c d high hhigh hnotLow hhigh' a' b' c' d' rest' low hlow hlow' ih =>
    obtain ⟨s, rfl, hs⟩ := ih h
    refine ⟨pairChar high low :: s, by simp, ?_⟩
    exact .pair (hexFour?_eq_some_iff.1 hhigh) (hexFour?_eq_some_iff.1 hlow) hhigh' hlow'
      (toNat_pairChar hhigh' hlow') hs
  | case9 taken a b c d after n hn hnotLow hnotHigh ih =>
    obtain ⟨s, rfl, hs⟩ := ih h
    have hfour := hexFour?_eq_some_iff.1 hn
    have hcode : (Char.ofNat n).toNat = n := toNat_ofNat (by have := hfour.lt; omega)
    rw [← hcode] at hfour
    exact ⟨Char.ofNat n :: s, by simp, .code hfour hs⟩
  | case11 taken e after hfull c hc ih =>
    obtain ⟨s, rfl, hs⟩ := ih h
    exact ⟨c :: s, by simp, .short (shortEscape?_eq_some_iff.1 hc) hs⟩
  | case13 taken c after hquote hfull hescape hshow ih =>
    obtain ⟨s, rfl, hs⟩ := ih h
    refine ⟨c :: s, by simp, .plain hquote ?_ hshow hs⟩
    -- a backslash at the very end is followed by no quote
    rintro rfl
    cases after with
    | nil => cases hs
    | cons e rest => exact hescape e rest rfl rfl

/-- What has been spelled is scanned. -/
theorem Quoted.scanInto_eq {cs s rest : List Char} (h : Quoted cs s rest) (taken : List Char) :
    scanInto taken cs = some (taken.reverse ++ s, rest) := by
  have hnext : ∀ (taken : List Char) (c : Char) (s : List Char),
      (c :: taken).reverse ++ s = taken.reverse ++ c :: s := by simp
  induction h generalizing taken with
  | close => rw [scanInto, List.append_nil]
  | @plain c cs s rest hquote hslash hshow h ih =>
    rw [scanInto.eq_def]
    split
    · rename_i heq
      cases heq
    · rename_i heq
      exact absurd (List.cons.inj heq).1 hquote
    · rename_i heq
      exact absurd (List.cons.inj heq).1 hslash
    · rename_i heq
      exact absurd (List.cons.inj heq).1 hslash
    · rename_i heq
      cases heq
      rw [if_neg hshow, ih, hnext]
  -- an escape is short unless four digits follow the letter, which no short one has
  | @short e c cs s rest he h ih =>
    have hshort := shortEscape?_eq_some_iff.2 he
    rw [scanInto.eq_def]
    split
    · rename_i heq
      cases heq
    · rename_i heq
      cases heq
    · rename_i heq
      cases heq
      cases he
    · rename_i heq
      cases heq
      rw [hshort]
      exact (ih _).trans (by rw [hnext])
    · rename_i hnone heq
      cases heq
      exact absurd rfl (hnone e cs rfl)
  | @code a b d e c cs s rest hc h ih =>
    obtain ⟨hlow, hhigh⟩ := not_surrogate c
    rw [scanInto, hexFour?_eq_some_iff.2 hc]
    dsimp only
    rw [if_neg hlow, if_neg hhigh, Char.ofNat_toNat, ih, hnext]
  | @pair a b d e a' b' d' e' c high low cs s rest hhigh hlow hhigh' hlow' hc h ih =>
    have hpair : pairChar high low = c := by
      rw [← Char.toNat_inj, toNat_pairChar hhigh' hlow', hc]
    rw [scanInto, hexFour?_eq_some_iff.2 hhigh]
    dsimp only
    rw [if_neg (by omega), if_pos hhigh']
    simp only [hexFour?_eq_some_iff.2 hlow, if_pos hlow', hpair, ih, hnext]

/-- **The strings that are scanned.** -/
theorem scanString_eq_some_iff {cs s rest : List Char} :
    scanString cs = some (s, rest) ↔ Quoted cs s rest := by
  constructor
  · intro h
    obtain ⟨s', rfl, hs⟩ := quoted_of_scanInto h
    exact hs
  · intro h
    exact h.scanInto_eq []

/-- **A string whose value is not wanted**, with the characters after its closing quote: its escapes
have their form, but half a pair of surrogates may stand in it. -/
inductive Enclosed : List Char → List Char → Prop
  | close {rest : List Char} : Enclosed ('"' :: rest) rest
  | plain {c : Char} {cs rest : List Char} (hquote : c ≠ '"') (hslash : c ≠ '\\')
      (hshow : ¬ c < ' ') (h : Enclosed cs rest) : Enclosed (c :: cs) rest
  | short {e c : Char} {cs rest : List Char} (he : ShortEscape e c) (h : Enclosed cs rest) :
      Enclosed ('\\' :: e :: cs) rest
  | code {a b d e : Char} {n : Nat} {cs rest : List Char} (hn : HexFour a b d e n)
      (h : Enclosed cs rest) : Enclosed ('\\' :: 'u' :: a :: b :: d :: e :: cs) rest

/-- A string that spells something has its form. -/
theorem Quoted.enclosed {cs s rest : List Char} (h : Quoted cs s rest) : Enclosed cs rest := by
  induction h with
  | close => exact .close
  | plain hquote hslash hshow h ih => exact .plain hquote hslash hshow ih
  | short he h ih => exact .short he ih
  | code hc h ih => exact .code hc ih
  | pair hhigh hlow hhigh' hlow' hc h ih => exact .code hhigh (.code hlow ih)

theorem Enclosed.length_lt {cs rest : List Char} (h : Enclosed cs rest) :
    rest.length < cs.length := by
  induction h with
  | close => exact Nat.lt_succ_self _
  | plain | short | code => simp only [List.length_cons]; omega

/-- What is skipped has the form of a string. -/
theorem enclosed_of_skipString {cs rest : List Char} (h : skipString cs = some rest) :
    Enclosed cs rest := by
  fun_induction skipString cs with
  | case1 | case4 | case6 | case7 => cases h
  | case2 after =>
    cases h
    exact .close
  | case3 a b c d after hfour ih =>
    obtain ⟨n, hn⟩ := Option.isSome_iff_exists.1 hfour
    exact .code (hexFour?_eq_some_iff.1 hn) (ih h)
  | case5 e after hfull hshort ih =>
    obtain ⟨c, hc⟩ := Option.isSome_iff_exists.1 hshort
    exact .short (shortEscape?_eq_some_iff.1 hc) (ih h)
  | case8 c after hquote hfull hescape hshow ih =>
    refine .plain hquote ?_ hshow (ih h)
    rintro rfl
    cases after with
    | nil => cases h
    | cons e rest => exact hescape e rest rfl rfl

/-- What has the form of a string is skipped. -/
theorem Enclosed.skipString_eq {cs rest : List Char} (h : Enclosed cs rest) :
    skipString cs = some rest := by
  induction h with
  | close => rw [skipString]
  | @plain c cs rest hquote hslash hshow h ih =>
    rw [skipString.eq_def]
    split
    · rename_i heq
      cases heq
    · rename_i heq
      exact absurd (List.cons.inj heq).1 hquote
    · rename_i heq
      exact absurd (List.cons.inj heq).1 hslash
    · rename_i heq
      exact absurd (List.cons.inj heq).1 hslash
    · rename_i heq
      cases heq
      rw [if_neg hshow, ih]
  | @short e c cs rest he h ih =>
    -- no short escape has the letter that four digits follow
    rw [skipString.eq_def]
    split
    · rename_i heq
      cases heq
    · rename_i heq
      cases heq
    · rename_i heq
      cases heq
      cases he
    · rename_i heq
      cases heq
      rw [shortEscape?_eq_some_iff.2 he]
      exact (if_pos rfl).trans ih
    · rename_i hnone heq
      cases heq
      exact absurd rfl (hnone e cs rfl)
  | @code a b d e n cs rest hn h ih =>
    rw [skipString, hexFour?_eq_some_iff.2 hn]
    exact (if_pos rfl).trans ih

/-- **The strings that are skipped.** -/
theorem skipString_eq_some_iff {cs rest : List Char} :
    skipString cs = some rest ↔ Enclosed cs rest :=
  ⟨enclosed_of_skipString, Enclosed.skipString_eq⟩

/-! ## Numbers -/

/-- **The digits before the point**: a zero alone, or digits that start with another. -/
inductive Whole : List Char → List Char → Prop
  | zero {rest : List Char} (h : NoDigitFirst rest) : Whole ('0' :: rest) rest
  | run {cs rest : List Char} (hzero : cs.head? ≠ some '0') (h : DigitRun cs rest) : Whole cs rest

/-- **A point and digits after it**, if there are any. -/
inductive Fraction : List Char → List Char → Prop
  | absent {rest : List Char} (h : rest.head? ≠ some '.') : Fraction rest rest
  | present {cs rest : List Char} (h : DigitRun cs rest) : Fraction ('.' :: cs) rest

/-- **An exponent**, if there is one. -/
inductive Exponent : List Char → List Char → Prop
  | absent {rest : List Char} (hsmall : rest.head? ≠ some 'e') (hgreat : rest.head? ≠ some 'E') :
      Exponent rest rest
  | present {e : Char} {cs ds rest : List Char} (he : e = 'e' ∨ e = 'E')
      (hsign : cs = ds ∨ cs = '+' :: ds ∨ cs = '-' :: ds) (h : DigitRun ds rest) :
      Exponent (e :: cs) rest

/-- **A number**, to its end, and what follows it. -/
inductive NumberText : List Char → List Char → Prop
  | mk {cs whole fraction exponent rest : List Char} (hsign : cs = whole ∨ cs = '-' :: whole)
      (hwhole : Whole whole fraction) (hfraction : Fraction fraction exponent)
      (hexponent : Exponent exponent rest) : NumberText cs rest

/-- **The digits before the point** that are scanned. -/
theorem scanWhole_eq_some_iff {cs rest : List Char} :
    (∃ ds, scanWhole cs = some (ds, rest)) ↔ Whole cs rest := by
  constructor
  · rintro ⟨ds, h⟩
    unfold scanWhole at h
    split at h
    · split at h
      · rename_i d after
        split at h
        · cases h
        · rename_i hd
          cases h
          refine .zero ?_
          rintro c ⟨⟩
          exact Bool.not_eq_true _ ▸ hd
      · cases h
        exact .zero nofun
    · rename_i hzero
      split at h
      · cases h
      · rename_i hne
        cases h
        refine .run ?_ (digitRun_iff.2 ⟨hne, rfl⟩)
        intro hhead
        obtain ⟨after, rfl⟩ := List.head?_eq_some_iff.1 hhead
        exact hzero after rfl
  · intro h
    cases h with
    | zero hrest =>
      cases rest with
      | nil => exact ⟨['0'], rfl⟩
      | cons c rest => exact ⟨['0'], if_neg (by simp [hrest c rfl])⟩
    | run hzero hrun =>
      obtain ⟨hne, rfl⟩ := digitRun_iff.1 hrun
      unfold scanWhole
      split
      · exact absurd rfl hzero
      · split
        · rename_i hnil
          exact absurd hnil hne
        · exact ⟨_, rfl⟩

/-- **The fractions that are scanned.** -/
theorem scanFraction_eq_some_iff {cs rest : List Char} :
    (∃ ds, scanFraction cs = some (ds, rest)) ↔ Fraction cs rest := by
  constructor
  · rintro ⟨ds, h⟩
    unfold scanFraction at h
    split at h
    · split at h
      · cases h
      · rename_i hne
        cases h
        exact .present (digitRun_iff.2 ⟨hne, rfl⟩)
    · rename_i hpoint
      cases h
      refine .absent fun hhead => ?_
      obtain ⟨after, rfl⟩ := List.head?_eq_some_iff.1 hhead
      exact hpoint after rfl
  · intro h
    cases h with
    | absent hpoint =>
      unfold scanFraction
      split
      · exact absurd rfl hpoint
      · exact ⟨[], rfl⟩
    | present hrun =>
      obtain ⟨hne, rfl⟩ := digitRun_iff.1 hrun
      simp only [scanFraction]
      exact ⟨_, rfl⟩

/-- What an exponent comes to after its sign. -/
def scanPower (negative : Bool) (ds : List Char) : Option (Option Int × List Char) :=
  match ds.takeWhile Char.isDigit with
  | [] => none
  | es =>
    let n : Int := digitsValue 0 es
    some (some (if negative then -n else n), ds.dropWhile Char.isDigit)

theorem scanPower_eq_some_iff (negative : Bool) {ds rest : List Char} :
    (∃ power, scanPower negative ds = some (power, rest)) ↔ DigitRun ds rest := by
  rw [digitRun_iff]
  unfold scanPower
  cases ds.takeWhile Char.isDigit with
  | nil => exact iff_of_false nofun fun h => h.1 rfl
  | cons d run => simp

/-- Without the mark there is no exponent. -/
theorem scanExponent_of_no_mark {cs : List Char}
    (hno : ∀ e ∈ cs.head?, ¬ (e = 'e' ∨ e = 'E')) : scanExponent cs = some (none, cs) := by
  cases cs with
  | nil => rfl
  | cons e cs => exact if_neg (by simpa using hno e rfl)

section

variable {e : Char} (he : e = 'e' ∨ e = 'E')

include he

/-- After a sign the digits are read with it. -/
theorem scanExponent_signed (ds : List Char) :
    scanExponent (e :: '+' :: ds) = scanPower false ds ∧
      scanExponent (e :: '-' :: ds) = scanPower true ds := by
  have hmark : (e == 'e' || e == 'E') = true := by simpa using he
  exact ⟨if_pos hmark, if_pos hmark⟩

theorem scanExponent_bare {ds : List Char}
    (hsign : ∀ after, ds ≠ '+' :: after ∧ ds ≠ '-' :: after) :
    scanExponent (e :: ds) = scanPower false ds := by
  have hmark : (e == 'e' || e == 'E') = true := by simpa using he
  rw [scanExponent, if_pos hmark]
  · rfl
  · exact fun after => (hsign after).1
  · exact fun after => (hsign after).2

/-- After the mark of an exponent there may be a sign, and there are digits. -/
theorem scanExponent_mark_iff {cs rest : List Char} :
    (∃ power, scanExponent (e :: cs) = some (power, rest)) ↔
      ∃ ds, (cs = ds ∨ cs = '+' :: ds ∨ cs = '-' :: ds) ∧ DigitRun ds rest := by
  constructor
  · intro h
    by_cases hplus : ∃ ds, cs = '+' :: ds
    · obtain ⟨ds, rfl⟩ := hplus
      rw [(scanExponent_signed he ds).1, scanPower_eq_some_iff] at h
      exact ⟨ds, .inr (.inl rfl), h⟩
    by_cases hminus : ∃ ds, cs = '-' :: ds
    · obtain ⟨ds, rfl⟩ := hminus
      rw [(scanExponent_signed he ds).2, scanPower_eq_some_iff] at h
      exact ⟨ds, .inr (.inr rfl), h⟩
    · have hbare : ∀ after, cs ≠ '+' :: after ∧ cs ≠ '-' :: after := fun after =>
        ⟨fun heq => hplus ⟨after, heq⟩, fun heq => hminus ⟨after, heq⟩⟩
      rw [scanExponent_bare he hbare, scanPower_eq_some_iff] at h
      exact ⟨cs, .inl rfl, h⟩
  · rintro ⟨ds, rfl | rfl | rfl, hrun⟩
    · rw [scanExponent_bare he hrun.ne_sign, scanPower_eq_some_iff]
      exact hrun
    · rw [(scanExponent_signed he ds).1, scanPower_eq_some_iff]
      exact hrun
    · rw [(scanExponent_signed he ds).2, scanPower_eq_some_iff]
      exact hrun

end

/-- **The exponents that are scanned.** -/
theorem scanExponent_eq_some_iff {cs rest : List Char} :
    (∃ power, scanExponent cs = some (power, rest)) ↔ Exponent cs rest := by
  by_cases hmark : ∃ e ds, cs = e :: ds ∧ (e = 'e' ∨ e = 'E')
  · obtain ⟨e, ds, rfl, he⟩ := hmark
    rw [scanExponent_mark_iff he]
    constructor
    · rintro ⟨digits, hsign, hrun⟩
      exact .present he hsign hrun
    · intro h
      cases h with
      | absent hsmall hgreat =>
        rcases he with rfl | rfl
        · exact absurd rfl hsmall
        · exact absurd rfl hgreat
      | present he' hsign hrun => exact ⟨_, hsign, hrun⟩
  · have hno : ∀ e ∈ cs.head?, ¬ (e = 'e' ∨ e = 'E') := by
      intro e hhead he
      obtain ⟨ds, rfl⟩ := List.head?_eq_some_iff.1 hhead
      exact hmark ⟨e, ds, rfl, he⟩
    rw [scanExponent_of_no_mark hno]
    constructor
    · rintro ⟨power, h⟩
      cases h
      exact .absent (fun hhead => hno 'e' hhead (.inl rfl)) fun hhead => hno 'E' hhead (.inr rfl)
    · intro h
      cases h with
      | absent hsmall hgreat => exact ⟨none, rfl⟩
      | present he hsign hrun => exact absurd he (hno _ rfl)

/-- What a number comes to after its sign. -/
def scanUnsigned (negative : Bool) (cs : List Char) : Option (Literal × List Char) := do
  let (whole, cs) ← scanWhole cs
  let (fraction, cs) ← scanFraction cs
  let (power, cs) ← scanExponent cs
  return (⟨negative, whole, fraction, power⟩, cs)

/-- A number without a sign has three parts, of which the last two may be absent. -/
theorem scanUnsigned_eq_some_iff (negative : Bool) {cs rest : List Char} :
    (∃ literal, scanUnsigned negative cs = some (literal, rest)) ↔
      ∃ fraction exponent, Whole cs fraction ∧ Fraction fraction exponent ∧
        Exponent exponent rest := by
  simp only [scanUnsigned, Option.bind_eq_bind, Option.bind_eq_some_iff, Option.pure_def,
    Option.some_inj, Prod.exists, Prod.mk.injEq, ← scanWhole_eq_some_iff,
    ← scanFraction_eq_some_iff, ← scanExponent_eq_some_iff]
  constructor
  · rintro ⟨literal, whole, a, hwhole, fraction, b, hfraction, power, c, hpower, hliteral, rfl⟩
    exact ⟨a, b, ⟨whole, hwhole⟩, ⟨fraction, hfraction⟩, ⟨power, hpower⟩⟩
  · rintro ⟨a, b, ⟨whole, hwhole⟩, ⟨fraction, hfraction⟩, ⟨power, hpower⟩⟩
    exact ⟨_, whole, a, hwhole, fraction, b, hfraction, power, rest, hpower, rfl, rfl⟩

theorem scanNumber_bare {cs : List Char} (hsign : ∀ after, cs ≠ '-' :: after) :
    scanNumber cs = scanUnsigned false cs := by
  rw [scanNumber]
  · rfl
  · exact hsign

/-- The digits before the point do not start with a sign. -/
theorem Whole.ne_sign {cs rest : List Char} (h : Whole cs rest) (after : List Char) :
    cs ≠ '-' :: after := by
  cases h with
  | zero h => exact fun heq => absurd (List.cons.inj heq).1 (by decide)
  | run hzero hrun => exact (hrun.ne_sign after).2

/-- **The numbers that are scanned.** -/
theorem scanNumber_eq_some_iff {cs rest : List Char} :
    (∃ literal, scanNumber cs = some (literal, rest)) ↔ NumberText cs rest := by
  constructor
  · intro h
    by_cases hminus : ∃ whole, cs = '-' :: whole
    · obtain ⟨whole, rfl⟩ := hminus
      obtain ⟨fraction, exponent, hwhole, hfraction, hexponent⟩ :=
        (scanUnsigned_eq_some_iff true).1 h
      exact .mk (.inr rfl) hwhole hfraction hexponent
    · rw [scanNumber_bare fun whole heq => hminus ⟨whole, heq⟩, scanUnsigned_eq_some_iff] at h
      obtain ⟨fraction, exponent, hwhole, hfraction, hexponent⟩ := h
      exact .mk (.inl rfl) hwhole hfraction hexponent
  · rintro ⟨hsign, hwhole, hfraction, hexponent⟩
    rcases hsign with rfl | rfl
    · rw [scanNumber_bare hwhole.ne_sign, scanUnsigned_eq_some_iff]
      exact ⟨_, _, hwhole, hfraction, hexponent⟩
    · exact (scanUnsigned_eq_some_iff true).2 ⟨_, _, hwhole, hfraction, hexponent⟩

theorem NumberText.length_lt {cs rest : List Char} (h : NumberText cs rest) :
    rest.length < cs.length := by
  obtain ⟨hsign, hwhole, hfraction, hexponent⟩ := h
  rename_i whole fraction exponent
  have hcs : whole.length ≤ cs.length := by
    rcases hsign with rfl | rfl
    · exact Nat.le_refl _
    · exact Nat.le_succ _
  have hfirst : fraction.length < whole.length := by
    cases hwhole with
    | zero h => exact Nat.lt_succ_self _
    | run hzero h => exact h.length_lt
  have hsecond : exponent.length ≤ fraction.length := by
    cases hfraction with
    | absent h => exact Nat.le_refl _
    | present h => exact Nat.le_succ_of_le (Nat.le_of_lt h.length_lt)
  have hthird : rest.length ≤ exponent.length := by
    cases hexponent with
    | absent hsmall hgreat => exact Nat.le_refl _
    | present he hsign h =>
      have hless := h.length_lt
      rcases hsign with rfl | rfl | rfl <;> simp only [List.length_cons] <;> omega
  omega

/-- A number starts with a sign or with a digit. -/
theorem NumberText.exists_cons {cs rest : List Char} (h : NumberText cs rest) :
    ∃ c after, cs = c :: after ∧ (c = '-' ∨ c.isDigit = true) := by
  obtain ⟨hsign, hwhole, -, -⟩ := h
  rcases hsign with rfl | rfl
  · cases hwhole with
    | zero h => exact ⟨'0', _, rfl, .inr rfl⟩
    | run hzero hrun =>
      obtain ⟨c, after, hcs, hc⟩ := hrun.exists_cons
      exact ⟨c, after, hcs, .inr hc⟩
  · exact ⟨'-', _, rfl, .inl rfl⟩

/-! ## Words -/

theorem afterWord_eq_some_iff {word : String} {cs rest : List Char} :
    afterWord word cs = some rest ↔ cs = word.toList ++ rest := by
  unfold afterWord
  rw [Option.ite_none_right_eq_some, List.isPrefixOf_iff_prefix, Option.some_inj]
  constructor
  · rintro ⟨⟨after, rfl⟩, rfl⟩
    rw [← String.length_toList, List.drop_left]
  · rintro rfl
    rw [← String.length_toList, List.drop_left]
    exact ⟨List.prefix_append _ _, rfl⟩

end RowGuard.Json
