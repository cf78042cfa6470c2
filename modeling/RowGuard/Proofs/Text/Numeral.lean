import RowGuard.Proofs.Text.CodePoint
import RowGuard.Proofs.Text.Run
import RowGuard.Text.Numeral

/-!
# Written numbers are read back

The decimal digits of a number come to that number again, also with zeros before them. So an
identifier is read from the text that it is written as, and from no text that does not spell it.

* `digitsValue_toDigits`: digits of a natural number
* `numeral?_toString`: a whole number with its sign
* `idOfText?_toString`: an identifier
* `Spells`: the texts that spell a whole number
* `numeral?_eq_some_iff`, `idOfText?_eq_some_iff`: no others are read
* `HexDigit`, `DigitRun`: hexadecimal digits, and runs of digits to their end
-/

set_option autoImplicit false

namespace RowGuard

theorem digitsValue_eq (start : Nat) (cs : List Char) :
    digitsValue start cs = Nat.ofDigitChars 10 cs start := Nat.ofDigitChars_eq_foldl.symm

theorem digitsValue_toDigits (n : Nat) : digitsValue 0 (Nat.toDigits 10 n) = n := by
  rw [digitsValue_eq, Nat.ofDigitChars_ten_toDigits]

theorem isDigit_of_mem_toDigits {n : Nat} {c : Char} (h : c ∈ Nat.toDigits 10 n) :
    c.isDigit = true := Nat.isDigit_of_mem_toDigits (by decide) (by decide) h

theorem bareNumeral?_toDigits (n : Nat) : bareNumeral? (Nat.toDigits 10 n) = some n := by
  unfold bareNumeral?
  rw [if_pos ⟨Nat.toDigits_ne_nil, List.all_eq_true.2 fun c hc => isDigit_of_mem_toDigits hc⟩,
    digitsValue_toDigits]

theorem toList_toString_nat (n : Nat) : (toString n).toList = Nat.toDigits 10 n := by
  rw [Nat.toString_eq_ofList_toDigits, String.toList_ofList]

/-- The digits of a number do not start with a sign, so they are read as they are. -/
theorem numeral?_toDigits (n : Nat) : numeral? (Nat.toDigits 10 n) = some (n : Int) := by
  cases hd : Nat.toDigits 10 n with
  | nil => exact absurd hd Nat.toDigits_ne_nil
  | cons c rest =>
    have hc : c.isDigit = true := isDigit_of_mem_toDigits (by rw [hd]; exact List.mem_cons_self)
    have hbare := bareNumeral?_toDigits n
    rw [hd] at hbare
    unfold numeral?
    split
    · rename_i heq; rw [(List.cons.inj heq).1] at hc; exact absurd hc (by decide)
    · rename_i heq; rw [(List.cons.inj heq).1] at hc; exact absurd hc (by decide)
    · rw [hbare]; rfl

/-- **A whole number** is read from the text it is written as. -/
theorem numeral?_toString (z : Int) : numeral? (toString z).toList = some z := by
  cases z with
  | ofNat n =>
    have h : toString (Int.ofNat n) = toString n := rfl
    rw [h, toList_toString_nat, numeral?_toDigits]
    rfl
  | negSucc n =>
    have h : toString (Int.negSucc n) = "-" ++ toString (n + 1) := rfl
    rw [h, String.toList_append, toList_toString_nat]
    show (bareNumeral? (Nat.toDigits 10 (n + 1))).map (fun n => -(n : Int)) = _
    rw [bareNumeral?_toDigits]
    rfl

/-- An identifier is the whole number that it stands for. -/
theorem idOfInt?_toInt (id : Int64) : idOfInt? id.toInt = some id := by
  unfold idOfInt?
  have hlow := Int64.le_toInt id
  have hhigh := Int64.toInt_lt id
  rw [if_pos ⟨by simpa using hlow, by simpa using hhigh⟩, Int64.ofInt_toInt]

/-- **An identifier** is read from the text it is written as. -/
theorem idOfText?_toString (id : Int64) : idOfText? (toString id.toInt).toList = some id := by
  unfold idOfText?
  rw [numeral?_toString, Option.bind_some, idOfInt?_toInt]

/-! ## What is read -/

/-- **A run of digits**, at least one. -/
structure Digits (cs : List Char) : Prop where
  ne_nil : cs ≠ []
  digit : ∀ c ∈ cs, c.isDigit = true

/-- **A text spells a whole number**: an optional sign and a run of digits. -/
inductive Spells : List Char → Int → Prop
  | bare {ds : List Char} (h : Digits ds) : Spells ds (Nat.ofDigitChars 10 ds 0)
  | plus {ds : List Char} (h : Digits ds) : Spells ('+' :: ds) (Nat.ofDigitChars 10 ds 0)
  | minus {ds : List Char} (h : Digits ds) : Spells ('-' :: ds) (-(Nat.ofDigitChars 10 ds 0 : Nat))

/-- Nothing spells no number. -/
theorem Spells.ne_nil {cs : List Char} {z : Int} (h : Spells cs z) : cs ≠ [] := by
  cases h with
  | bare h => exact h.ne_nil
  | plus | minus => nofun

/-- Digits are no signs. -/
theorem Digits.ne_sign {c : Char} {cs : List Char} (h : Digits (c :: cs)) : c ≠ '+' ∧ c ≠ '-' := by
  have hdigit := h.digit c List.mem_cons_self
  constructor
  · rintro rfl
    exact absurd hdigit (by decide)
  · rintro rfl
    exact absurd hdigit (by decide)

/-- A run of digits is read as its value. -/
theorem bareNumeral?_eq_some_iff {cs : List Char} {n : Nat} :
    bareNumeral? cs = some n ↔ Digits cs ∧ Nat.ofDigitChars 10 cs 0 = n := by
  unfold bareNumeral?
  rw [Option.ite_none_right_eq_some, List.all_eq_true, digitsValue_eq, Option.some_inj]
  exact and_congr_left' ⟨fun h => ⟨h.1, h.2⟩, fun h => ⟨h.ne_nil, h.digit⟩⟩

/-- **The texts that are read as a whole number** are those that spell it. -/
theorem numeral?_eq_some_iff {cs : List Char} {z : Int} : numeral? cs = some z ↔ Spells cs z := by
  constructor
  · intro h
    -- whatever the sign makes of it, what comes after the sign is a run of digits
    have hrun : ∀ (ds : List Char) (signed : Int → Int),
        Option.map signed (do let n ← bareNumeral? ds; pure (n : Int)) = some z →
          Digits ds ∧ signed (Nat.ofDigitChars 10 ds 0 : Nat) = z := by
      intro ds signed hds
      obtain ⟨k, hk, rfl⟩ := Option.map_eq_some_iff.1 hds
      obtain ⟨n, hn, hkn⟩ := Option.bind_eq_some_iff.1 hk
      obtain ⟨hdigits, rfl⟩ := bareNumeral?_eq_some_iff.1 hn
      cases hkn
      exact ⟨hdigits, rfl⟩
    unfold numeral? at h
    split at h
    · obtain ⟨hdigits, rfl⟩ := hrun _ _ h
      exact .minus hdigits
    · obtain ⟨hdigits, rfl⟩ := hrun _ _ h
      exact .plus hdigits
    · obtain ⟨hdigits, rfl⟩ := hrun _ _ h
      exact .bare hdigits
  · intro h
    cases h with
    | plus hdigits | minus hdigits =>
      have hbare := bareNumeral?_eq_some_iff.2 ⟨hdigits, rfl⟩
      rw [numeral?, hbare]
      rfl
    | bare hdigits =>
      have hbare := bareNumeral?_eq_some_iff.2 ⟨hdigits, rfl⟩
      unfold numeral?
      split
      · exact absurd rfl hdigits.ne_sign.2
      · exact absurd rfl hdigits.ne_sign.1
      · rw [hbare]
        rfl

/-- An identifier is a number that fits a signed word. -/
theorem idOfInt?_eq_some_iff {z : Int} {id : Int64} : idOfInt? z = some id ↔ z = id.toInt := by
  constructor
  · intro h
    unfold idOfInt? at h
    obtain ⟨⟨hlow, hhigh⟩, hid⟩ := Option.ite_none_right_eq_some.1 h
    rw [← Option.some.inj hid]
    exact (Int64.toInt_ofInt_of_le hlow hhigh).symm
  · rintro rfl
    exact idOfInt?_toInt id

/-- **The texts that are read as an identifier** are those that spell it. -/
theorem idOfText?_eq_some_iff {cs : List Char} {id : Int64} :
    idOfText? cs = some id ↔ Spells cs id.toInt := by
  rw [← numeral?_eq_some_iff, idOfText?, Option.bind_eq_some_iff]
  constructor
  · rintro ⟨z, hz, hid⟩
    rwa [idOfInt?_eq_some_iff.1 hid] at hz
  · intro hz
    exact ⟨id.toInt, hz, idOfInt?_toInt id⟩

/-! ## Digits of either base -/

/-- **A hexadecimal digit** and its value, in either case of the letter. -/
def HexDigit (c : Char) (n : Nat) : Prop := n < 16 ∧ c.toLower = Nat.digitChar n

theorem toNat_digitChar {n : Nat} (h : n < 16) :
    (Nat.digitChar n).toNat = if n < 10 then 48 + n else 87 + n := by
  have hall : ∀ n < 16, (Nat.digitChar n).toNat = if n < 10 then 48 + n else 87 + n := by decide
  exact hall n h

/-- The hexadecimal digits that are known, in either case. -/
theorem hexValue?_eq_some_iff {c : Char} {n : Nat} : hexValue? c = some n ↔ HexDigit c n := by
  have hcode : ∀ a b : Char, a ≤ c ∧ c ≤ b ↔ a.toNat ≤ c.toNat ∧ c.toNat ≤ b.toNat := by
    intro a b
    rw [Char.le_def, Char.le_def, UInt32.le_iff_toNat_le, UInt32.le_iff_toNat_le]
    rfl
  have hdigit : HexDigit c n ↔ n < 16 ∧ c.toLower.toNat = if n < 10 then 48 + n else 87 + n := by
    unfold HexDigit
    refine and_congr_right fun hn => ?_
    rw [← Char.toNat_inj, toNat_digitChar hn]
  rw [hdigit, toNat_toLower]
  unfold hexValue?
  simp only [hcode, Char.reduceToNat]
  grind

/-- Digits go on no further: the text ends, or with something that is no digit. -/
def NoDigitFirst (cs : List Char) : Prop := ∀ c ∈ cs.head?, c.isDigit = false

/-- **A run of digits** at the start of a text, to its end, and what follows it. -/
def DigitRun (cs rest : List Char) : Prop :=
  ∃ ds, Digits ds ∧ cs = ds ++ rest ∧ NoDigitFirst rest

/-- **Digits are taken** as long as there are any. -/
theorem digitRun_iff {cs rest : List Char} :
    DigitRun cs rest ↔ cs.takeWhile Char.isDigit ≠ [] ∧ cs.dropWhile Char.isDigit = rest := by
  constructor
  · rintro ⟨ds, ⟨hne, hdigit⟩, hcs, hrest⟩
    obtain ⟨htake, hdrop⟩ := run_iff.2 ⟨hcs, hdigit, hrest⟩
    exact ⟨htake ▸ hne, hdrop⟩
  · rintro ⟨hne, hdrop⟩
    obtain ⟨hcs, hdigit, hrest⟩ := run_iff.1 ⟨rfl, hdrop⟩
    exact ⟨_, ⟨hne, hdigit⟩, hcs, hrest⟩

theorem DigitRun.exists_cons {cs rest : List Char} (h : DigitRun cs rest) :
    ∃ c after, cs = c :: after ∧ c.isDigit = true := by
  obtain ⟨run, hrun, rfl, -⟩ := h
  obtain ⟨c, after, rfl⟩ := List.exists_cons_of_ne_nil hrun.ne_nil
  exact ⟨c, after ++ rest, rfl, hrun.digit c List.mem_cons_self⟩

/-- A run takes some characters. -/
theorem DigitRun.length_lt {cs rest : List Char} (h : DigitRun cs rest) :
    rest.length < cs.length := by
  obtain ⟨run, hrun, rfl, -⟩ := h
  have hpos := List.length_pos_iff.2 hrun.ne_nil
  rw [List.length_append]
  omega

/-- Digits do not start with a sign. -/
theorem DigitRun.ne_sign {ds rest : List Char} (h : DigitRun ds rest) (after : List Char) :
    ds ≠ '+' :: after ∧ ds ≠ '-' :: after := by
  obtain ⟨c, after', rfl, hc⟩ := h.exists_cons
  constructor
  · rintro ⟨⟩
    exact absurd hc (by decide)
  · rintro ⟨⟩
    exact absurd hc (by decide)

end RowGuard
