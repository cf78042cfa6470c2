import RowGuard.Http.Identity
import RowGuard.Proofs.Text.Blank
import RowGuard.Proofs.Text.CodePoint

/-!
# The text of a header

A header brings the text of the first value under its name, if all bytes of it are readable, and
nothing if there is no value under the name. Around what is meant there may be spaces and tabs.

* `Brings`: what a header brings
* `headerText_eq_ok_iff`: what is read is what the header brings
* `Brings.trimBlanks_eq_iff`: its text, trimmed
-/

set_option autoImplicit false

namespace RowGuard.Http

/-! ## The text of a header -/

/-- **Readable bytes**: tabs, spaces and the characters of ASCII that show. -/
def Readable (value : List UInt8) : Prop :=
  ∀ b ∈ value, b.toNat = 9 ∨ 32 ≤ b.toNat ∧ b.toNat ≤ 126

/-- Bytes as characters of ASCII. -/
def asciiText (value : List UInt8) : List Char := value.map fun b => Char.ofNat b.toNat

/-- **What a header brings**: nothing if there is no header of the name, and the text of the first
one if this is readable. -/
inductive Brings (headers : Headers) (name : String) : Option (List Char) → Prop
  | nothing (h : ∀ header ∈ headers, header.1 ≠ name) : Brings headers name none
  | text {earlier later : Headers} {value : List UInt8}
      (hsplit : headers = earlier ++ (name, value) :: later)
      (hfirst : ∀ header ∈ earlier, header.1 ≠ name) (hreadable : Readable value) :
      Brings headers name (some (asciiText value))

theorem isReadable_iff (b : UInt8) :
    isReadable b = true ↔ b.toNat = 9 ∨ 32 ≤ b.toNat ∧ b.toNat ≤ 126 := by
  have htab : b = 9 ↔ b.toNat = 9 := UInt8.toNat_inj.symm
  simp only [isReadable, Bool.or_eq_true, Bool.and_eq_true, beq_iff_eq, decide_eq_true_eq, htab,
    UInt8.le_iff_toNat_le, UInt8.lt_iff_toNat_lt]
  change _ ∨ 32 ≤ _ ∧ _ < 127 ↔ _
  omega

/-- Bytes have a text if they are readable. -/
theorem readable?_eq_some_iff {value : List UInt8} {text : List Char} :
    readable? value = some text ↔ Readable value ∧ asciiText value = text := by
  unfold readable? Readable
  rw [Option.ite_none_right_eq_some, List.all_eq_true, Option.some_inj]
  exact and_congr_left' (forall₂_congr fun b _ => isReadable_iff b)

theorem firstValue?_eq_none_iff {name : String} {headers : Headers} :
    firstValue? name headers = none ↔ ∀ header ∈ headers, header.1 ≠ name := by
  simp [firstValue?]

/-- **The first value under a name** has no other before it. -/
theorem firstValue?_eq_some_iff {name : String} {headers : Headers} {value : List UInt8} :
    firstValue? name headers = some value ↔ ∃ earlier later,
      headers = earlier ++ (name, value) :: later ∧ ∀ header ∈ earlier, header.1 ≠ name := by
  unfold firstValue?
  rw [Option.map_eq_some_iff]
  constructor
  · rintro ⟨⟨name', value'⟩, hfound, rfl⟩
    obtain ⟨hname, earlier, later, hsplit, hfirst⟩ := List.find?_eq_some_iff_append.1 hfound
    cases beq_iff_eq.1 hname
    exact ⟨earlier, later, hsplit, fun header hheader => by simpa using hfirst header hheader⟩
  · rintro ⟨earlier, later, hsplit, hfirst⟩
    refine ⟨(name, value), List.find?_eq_some_iff_append.2 ⟨beq_self_eq_true name, earlier, later,
      hsplit, fun header hheader => by simpa using hfirst header hheader⟩, rfl⟩

/-- **The text of a header** is what the header brings. -/
theorem headerText_eq_ok_iff {name : String} {headers : Headers} {text : Option (List Char)} :
    headerText name headers = .ok text ↔ Brings headers name text := by
  constructor
  · intro h
    unfold headerText at h
    split at h
    · rename_i hnone
      cases h
      exact .nothing (firstValue?_eq_none_iff.1 hnone)
    · rename_i value hvalue
      obtain ⟨earlier, later, hsplit, hfirst⟩ := firstValue?_eq_some_iff.1 hvalue
      split at h
      · rename_i cs hcs
        obtain ⟨hreadable, rfl⟩ := readable?_eq_some_iff.1 hcs
        cases h
        exact .text hsplit hfirst hreadable
      · cases h
  · intro h
    unfold headerText
    cases h with
    | nothing h => rw [firstValue?_eq_none_iff.2 h]
    | text hsplit hfirst hreadable =>
      rw [firstValue?_eq_some_iff.2 ⟨_, _, hsplit, hfirst⟩]
      dsimp only
      rw [readable?_eq_some_iff.2 ⟨hreadable, rfl⟩]

/-! ## Trimmed headers -/

/-- The blanks of a readable text. -/
def IsPad (c : Char) : Prop := c = ' ' ∨ c = '\t'

/-- Of the blanks only spaces and tabs are readable. -/
theorem isBlank_iff_isPad {value : List UInt8} (h : Readable value) :
    ∀ c ∈ asciiText value, isBlank c = true ↔ IsPad c := by
  intro c hc
  obtain ⟨b, hb, rfl⟩ := List.mem_map.1 hc
  have hrange := h b hb
  have hcode : (Char.ofNat b.toNat).toNat = b.toNat := toNat_ofNat (by omega)
  have hspace : Char.ofNat b.toNat = ' ' ↔ b.toNat = 32 := by
    rw [← Char.toNat_inj, hcode]
    rfl
  have htab : Char.ofNat b.toNat = '\t' ↔ b.toNat = 9 := by
    rw [← Char.toNat_inj, hcode]
    rfl
  rw [IsPad, hspace, htab]
  -- the other blanks are no bytes that are readable
  simp only [isBlank, hcode, Bool.or_eq_true, Bool.and_eq_true, decide_eq_true_eq, beq_iff_eq]
  omega

/-- **A readable text is trimmed** of spaces and tabs. -/
theorem trimBlanks_asciiText_iff {value : List UInt8} (h : Readable value) {core : List Char} :
    trimBlanks (asciiText value) = core ↔ Trims IsPad (asciiText value) core := by
  have hblank := isBlank_iff_isPad h
  rw [trimBlanks_eq_iff]
  exact ⟨fun ht => ht.congr hblank, fun ht => ht.congr fun c hc => (hblank c hc).symm⟩

/-- What a header brings is trimmed of spaces and tabs. -/
theorem Brings.trimBlanks_eq_iff {headers : Headers} {name : String} {text core : List Char}
    (h : Brings headers name (some text)) : trimBlanks text = core ↔ Trims IsPad text core := by
  cases h with
  | text hsplit hfirst hreadable => exact trimBlanks_asciiText_iff hreadable

end RowGuard.Http
