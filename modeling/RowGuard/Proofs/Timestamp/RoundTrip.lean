import Mathlib.Algebra.Ring.Nat
import RowGuard.Proofs.Except
import RowGuard.Proofs.Text.Numeral
import RowGuard.Timestamp.Reader
import RowGuard.Timestamp.Text

/-!
# Dates and times are read back

A date and time that exists is read from the text it is stored or published as, to the nanosecond:
the reader accepts the written forms, and no two dates and times are written alike.

* `Timestamp.Exists`: a date of the calendar with a time of day
* `shortNumber_padded`: a number with zeros before it
* `Timestamp.parse_storedText`, `Timestamp.parse_publicText`: reading what was written
-/

set_option autoImplicit false

namespace RowGuard

/-- **A date and time that exists.** Every clock reading is one. Second 60 is a leap second. -/
structure Timestamp.Exists (t : Timestamp) : Prop where
  date : t.date.isValid = true
  hour : t.hour ≤ 23
  minute : t.minute ≤ 59
  second : t.second ≤ 60
  nano : t.nano < 10 ^ 9

/-! ## Digits -/

theorem isDigit_of_mem_padded {width n : Nat} {c : Char} (h : c ∈ padded width n) :
    c.isDigit = true := by
  rcases List.mem_append.1 h with h | h
  · rw [List.eq_of_mem_replicate h]; rfl
  · exact isDigit_of_mem_toDigits h

theorem digitsValue_padded (width n : Nat) : digitsValue 0 (padded width n) = n := by
  unfold padded
  rw [digitsValue_eq, Nat.ofDigitChars_append, Nat.ofDigitChars_replicate_zero, Nat.mul_zero,
    Nat.ofDigitChars_ten_toDigits]

theorem length_padded {width n : Nat} (hw : 0 < width) (h : n < 10 ^ width) :
    (padded width n).length = width := by
  have hle := (Nat.length_toDigits_le_iff (by decide) hw).2 h
  unfold padded
  rw [List.length_append, List.length_replicate]
  omega

/-- Reading more digits makes a number no smaller. -/
theorem le_digitsValue (start : Nat) (ds : List Char) : start ≤ digitsValue start ds := by
  induction ds generalizing start with
  | nil => exact Nat.le_refl start
  | cons c rest ih =>
    have hrest := ih (10 * start + digitValue c)
    have hstep : digitsValue start (c :: rest) = digitsValue (10 * start + digitValue c) rest := rfl
    omega

/-- **A run of digits** is read to its end, whatever stands there, if it is as long as may be. -/
theorem digitsFrom_append {ds rest : List Char} {most : Nat} : ∀ start : Nat,
    (∀ c ∈ ds, c.isDigit = true) → ds.length ≤ most → (ds.length = most ∨ NoDigitFirst rest) →
    digitsValue start ds < 2 ^ 63 →
    digitsFrom start most (ds ++ rest) = .ok (digitsValue start ds, rest) := by
  induction ds generalizing most with
  | nil =>
    intro start _ _ hend _
    cases most with
    | zero => rfl
    | succ most =>
      have hfirst := hend.resolve_left (by simp)
      cases rest with
      | nil => rfl
      | cons c rest =>
        have hc := hfirst c rfl
        show digitsFrom start (most + 1) (c :: rest) = _
        rw [digitsFrom, if_neg (by rw [hc]; decide)]
        rfl
  | cons d ds ih =>
    intro start hd hle hend hsmall
    cases most with
    | zero => simp at hle
    | succ most =>
      rw [List.length_cons] at hle hend
      have hvalue : digitsValue start (d :: ds) = digitsValue (10 * start + digitValue d) ds := rfl
      have hstep := le_digitsValue (10 * start + digitValue d) ds
      rw [hvalue] at hsmall
      have hends : ds.length = most ∨ NoDigitFirst rest := hend.imp_left (by omega)
      have hrest := ih (10 * start + digitValue d) (fun c hc => hd c (List.mem_cons_of_mem _ hc))
        (by omega) hends hsmall
      rw [List.cons_append, digitsFrom, if_pos (hd d List.mem_cons_self)]
      dsimp only
      rw [if_pos (by omega), hrest, hvalue]

theorem padded_eq_cons (width n : Nat) :
    ∃ c ds, padded width n = c :: ds ∧ c.isDigit = true := by
  have hne : padded width n ≠ [] := fun h => Nat.toDigits_ne_nil (List.append_eq_nil_iff.1 h).2
  obtain ⟨c, ds, h⟩ := List.exists_cons_of_ne_nil hne
  exact ⟨c, ds, h, isDigit_of_mem_padded (by rw [h]; exact List.mem_cons_self)⟩

/-- **A number with zeros before it**, read back. -/
theorem shortNumber_padded {width n most : Nat} {rest : List Char}
    (hle : (padded width n).length ≤ most)
    (hend : (padded width n).length = most ∨ NoDigitFirst rest) (hsmall : n < 2 ^ 63) :
    shortNumber most (padded width n ++ rest) = .ok (n, rest) := by
  have hread := digitsFrom_append 0 (fun c hc => isDigit_of_mem_padded hc) hle hend
    (by rw [digitsValue_padded]; exact hsmall)
  rw [digitsValue_padded] at hread
  obtain ⟨c, ds, hds, hc⟩ := padded_eq_cons width n
  rw [hds, List.cons_append] at hread ⊢
  exact (if_pos hc).trans hread

/-- A digit is no blank. -/
theorem isBlank_of_isDigit {c : Char} (h : c.isDigit = true) : isBlank c = false := by
  have hlow : 48 ≤ c.toNat ∧ c.toNat ≤ 57 := by
    simpa [Char.isDigit, UInt32.le_iff_toNat_le] using h
  unfold isBlank
  simp only [Bool.or_eq_false_iff, Bool.and_eq_false_iff, decide_eq_false_iff_not,
    beq_eq_false_iff_ne]
  omega

theorem dropBlanks_cons {c : Char} {cs : List Char} (h : isBlank c = false) :
    dropBlanks (c :: cs) = c :: cs := by
  unfold dropBlanks
  rw [List.dropWhile_cons_of_neg (by rw [h]; decide)]

theorem dropBlanks_padded (width n : Nat) (rest : List Char) :
    dropBlanks (padded width n ++ rest) = padded width n ++ rest := by
  obtain ⟨c, ds, hds, hc⟩ := padded_eq_cons width n
  rw [hds, List.cons_append, dropBlanks_cons (isBlank_of_isDigit hc)]

/-! ## Parts of a date and time -/

/-- **Two digits** within bounds, read back. -/
theorem boundedNumber_padded {lower upper n : Nat} (rest : List Char) (hlow : lower ≤ n)
    (hhigh : n ≤ upper) (hsmall : upper < 100) :
    boundedNumber lower upper (padded 2 n ++ rest) = .ok (n, rest) := by
  have hlength : (padded 2 n).length = 2 := length_padded (by decide) (by omega)
  unfold boundedNumber
  rw [dropBlanks_padded, shortNumber_padded (Nat.le_of_eq hlength) (.inl hlength) (by omega)]
  exact if_pos ⟨hlow, hhigh⟩

theorem separator_cons {mark : Char} (h : isBlank mark = false) (rest : List Char) :
    separator mark (mark :: rest) = .ok rest := by
  unfold separator
  rw [dropBlanks_cons h]
  exact if_pos rfl

/-- The years of the calendar are within the bounds of the reader. -/
theorem natAbs_year {year : Int} (hlow : firstYear ≤ year) (hhigh : year ≤ lastYear) :
    year.natAbs < 0x80000000 := by
  unfold firstYear at hlow
  unfold lastYear at hhigh
  omega

/-- A year without a sign is read from four digits. -/
theorem yearNumber_bare {c : Char} {cs rest : List Char} {n : Nat} (hc : c.isDigit = true)
    (h : shortNumber 4 (c :: cs) = .ok (n, rest))
    (hb : -0x80000000 ≤ (n : Int) ∧ (n : Int) < 0x80000000) :
    yearNumber (c :: cs) = .ok ((n : Int), rest) := by
  unfold yearNumber
  rw [dropBlanks_cons (isBlank_of_isDigit hc)]
  split
  · rename_i heq; rw [(List.cons.inj heq).1] at hc; exact absurd hc (by decide)
  · rename_i heq; rw [(List.cons.inj heq).1] at hc; exact absurd hc (by decide)
  · exact bind_eq_ok_iff.2 ⟨((n : Int), rest), map_eq_ok_iff.2 ⟨_, h, rfl⟩, if_pos hb⟩

/-- A year with a sign is read from all digits after it. -/
theorem yearNumber_signed {cs rest : List Char} {n : Nat}
    (h : shortNumber cs.length cs = .ok (n, rest))
    (hb : -0x80000000 ≤ -(n : Int) ∧ (n : Int) < 0x80000000) :
    yearNumber ('-' :: cs) = .ok (-(n : Int), rest) ∧
      yearNumber ('+' :: cs) = .ok ((n : Int), rest) := by
  have hminus : -0x80000000 ≤ -(n : Int) ∧ -(n : Int) < 0x80000000 := by omega
  have hplus : -0x80000000 ≤ (n : Int) ∧ (n : Int) < 0x80000000 := by omega
  have hdrop : ∀ c, isBlank c = false → dropBlanks (c :: cs) = c :: cs := fun c => dropBlanks_cons
  constructor
  · rw [yearNumber, hdrop '-' (by decide)]
    exact bind_eq_ok_iff.2 ⟨(-(n : Int), rest), map_eq_ok_iff.2 ⟨_, h, rfl⟩, if_pos hminus⟩
  · rw [yearNumber, hdrop '+' (by decide)]
    exact bind_eq_ok_iff.2 ⟨((n : Int), rest), map_eq_ok_iff.2 ⟨_, h, rfl⟩, if_pos hplus⟩

/-- **A year**, read back with its sign if it has one. -/
theorem yearNumber_yearText {year : Int} (hlow : firstYear ≤ year) (hhigh : year ≤ lastYear)
    {rest : List Char} (hrest : NoDigitFirst rest) :
    yearNumber (Timestamp.yearText year ++ rest) = .ok (year, rest) := by
  have hsmall := natAbs_year hlow hhigh
  unfold Timestamp.yearText
  split
  · rename_i hyear
    have hlength : (padded 4 year.toNat).length = 4 := length_padded (by decide) (by omega)
    have hread : shortNumber 4 (padded 4 year.toNat ++ rest) = .ok (year.toNat, rest) :=
      shortNumber_padded (Nat.le_of_eq hlength) (.inl hlength) (by omega)
    obtain ⟨c, ds, hds, hc⟩ := padded_eq_cons 4 year.toNat
    have hvalue : (year.toNat : Int) = year := by omega
    rw [hds, List.cons_append] at hread ⊢
    rw [yearNumber_bare hc hread (by omega), hvalue]
  · have hlong : (padded 4 year.natAbs).length ≤ (padded 4 year.natAbs ++ rest).length := by
      rw [List.length_append]; omega
    have hread := shortNumber_padded hlong (.inr hrest) (by omega)
    obtain ⟨hminus, hplus⟩ := yearNumber_signed hread (by omega)
    rw [List.cons_append]
    by_cases hneg : year < 0
    · rw [if_pos hneg, hminus, show -(year.natAbs : Int) = year by omega]
    · rw [if_neg hneg, hplus, show (year.natAbs : Int) = year by omega]

/-- Digits after a point, read back to the ninth. -/
theorem fractionNumber_padded {width n : Nat} (hw : 0 < width) (hle : width ≤ 9)
    (hn : n < 10 ^ width) {rest : List Char} (hrest : NoDigitFirst rest) :
    fractionNumber ('.' :: padded width n ++ rest) = .ok (n * 10 ^ (9 - width), rest) := by
  have hlength := length_padded hw hn
  have hsmall : n < 2 ^ 63 :=
    Nat.lt_trans (Nat.lt_of_lt_of_le hn (Nat.pow_le_pow_right (by decide) hle)) (by decide)
  have hread : shortNumber 9 (padded width n ++ rest) = .ok (n, rest) :=
    shortNumber_padded (by omega) (.inr hrest) hsmall
  have hcount : (padded width n ++ rest).length - rest.length = width := by
    rw [List.length_append]; omega
  have hstop : rest.dropWhile Char.isDigit = rest := by
    cases rest with
    | nil => rfl
    | cons c rest => exact List.dropWhile_cons_of_neg (by rw [hrest c rfl]; decide)
  rw [List.cons_append, fractionNumber, bind_eq_ok_iff]
  refine ⟨_, hread, ?_⟩
  dsimp only
  rw [hcount, hstop]
  rfl

/-- **A fraction of a second**, read back to the nanosecond. -/
theorem fractionNumber_fractionText {nano : Nat} (h : nano < 10 ^ 9) {rest : List Char}
    (hrest : NoDigitFirst rest) (hpoint : rest.head? ≠ some '.') :
    fractionNumber (Timestamp.fractionText nano ++ rest) = .ok (nano, rest) := by
  unfold Timestamp.fractionText
  split
  · rename_i hzero
    rw [List.nil_append, hzero]
    cases rest with
    | nil => rfl
    | cons c rest =>
      unfold fractionNumber
      split
      · rename_i heq; rw [heq] at hpoint; exact absurd rfl hpoint
      · rfl
  · split
    · rw [fractionNumber_padded (by decide) (by decide) (by omega) hrest]
      congr 2; omega
    · split
      · rw [fractionNumber_padded (by decide) (by decide) (by omega) hrest]
        congr 2; omega
      · rw [fractionNumber_padded (by decide) (by decide) h hrest, Nat.sub_self, Nat.pow_zero,
          Nat.mul_one]

/-! ## The whole text -/

/-- Nothing is shifted in UTC. -/
theorem Timestamp.shift?_zero {t : Timestamp} (h : t.Exists) : t.shift? 0 = some t := by
  have hhour := h.hour
  have hminute := h.minute
  unfold shift?
  have hwrapped : (((t.hour : Int) * 60 + t.minute - 0) % 1440).toNat = t.hour * 60 + t.minute := by
    omega
  dsimp only
  rw [hwrapped, if_neg (by omega), if_neg (by omega), Option.map_some,
    show (t.hour * 60 + t.minute) / 60 = t.hour by omega,
    show (t.hour * 60 + t.minute) % 60 = t.minute by omega]

/-- **A date**, read back. -/
theorem readDate_text {d : Date} (h : d.isValid = true) (rest : List Char) :
    readDate (Timestamp.yearText d.year ++ '-' :: padded 2 d.month ++ '-' :: padded 2 d.day ++
      rest) = .ok (d, rest) := by
  obtain ⟨hfirst, hlast, hmonth, hmonth', hday, hday'⟩ := of_decide_eq_true h
  have hlong : daysInMonth d.year d.month ≤ 31 := by
    unfold daysInMonth
    split
    · split <;> omega
    all_goals omega
  have hafter : NoDigitFirst ('-' :: padded 2 d.month ++ '-' :: padded 2 d.day ++ rest) := by
    rintro c ⟨⟩; rfl
  have hyear := yearNumber_yearText hfirst hlast hafter
  have hmonthRead := boundedNumber_padded ('-' :: padded 2 d.day ++ rest) hmonth hmonth' (by decide)
  have hdayRead := boundedNumber_padded rest hday (Nat.le_trans hday' hlong) (by decide)
  have hmark := separator_cons (by decide : isBlank '-' = false)
  simp only [List.append_assoc, List.cons_append] at hyear hmonthRead hdayRead ⊢
  refine bind_eq_ok_iff.2 ⟨_, hyear, bind_eq_ok_iff.2 ⟨_, hmark _, ?_⟩⟩
  refine bind_eq_ok_iff.2 ⟨_, hmonthRead, bind_eq_ok_iff.2 ⟨_, hmark _, ?_⟩⟩
  exact bind_eq_ok_iff.2 ⟨_, hdayRead, rfl⟩

/-- **A time of day**, read back. -/
theorem readTime_text {t : Timestamp} (h : t.Exists) {rest : List Char} (hrest : NoDigitFirst rest)
    (hpoint : rest.head? ≠ some '.') :
    readTime t.date (padded 2 t.hour ++ ':' :: padded 2 t.minute ++ ':' :: padded 2 t.second ++
      Timestamp.fractionText t.nano ++ rest) = .ok (t, rest) := by
  have hhour := boundedNumber_padded (':' :: padded 2 t.minute ++ ':' :: padded 2 t.second ++
    Timestamp.fractionText t.nano ++ rest) (Nat.zero_le _) h.hour (by decide)
  have hminute := boundedNumber_padded (':' :: padded 2 t.second ++
    Timestamp.fractionText t.nano ++ rest) (Nat.zero_le _) h.minute (by decide)
  have hsecond := boundedNumber_padded (Timestamp.fractionText t.nano ++ rest) (Nat.zero_le _)
    h.second (by decide)
  have hnano := fractionNumber_fractionText h.nano hrest hpoint
  have hmark := separator_cons (by decide : isBlank ':' = false)
  simp only [List.append_assoc, List.cons_append] at hhour hminute hsecond ⊢
  refine bind_eq_ok_iff.2 ⟨_, hhour, bind_eq_ok_iff.2 ⟨_, hmark _, ?_⟩⟩
  refine bind_eq_ok_iff.2 ⟨_, hminute, bind_eq_ok_iff.2 ⟨_, hmark _, ?_⟩⟩
  exact bind_eq_ok_iff.2 ⟨_, hsecond, bind_eq_ok_iff.2 ⟨_, hnano, rfl⟩⟩

/-- **A date and time** is read from its text, whatever stands for UTC behind it. -/
theorem Timestamp.parse_bareText {t : Timestamp} (h : t.Exists) {zone : List Char}
    (hzone : zoneOffset (dropBlanks zone) = .ok (0, [])) (hdigit : NoDigitFirst zone)
    (hpoint : zone.head? ≠ some '.') :
    Timestamp.parse (String.ofList (t.bareText ++ zone)) = .ok t := by
  have hmark : ∀ cs, dateTimeMark ('T' :: cs) = .ok cs := fun _ => rfl
  have hdate := readDate_text h.date ('T' :: padded 2 t.hour ++ ':' :: padded 2 t.minute ++
    ':' :: padded 2 t.second ++ fractionText t.nano ++ zone)
  have htime := readTime_text h hdigit hpoint
  unfold bareText Timestamp.parse
  rw [String.toList_ofList]
  simp only [List.append_assoc, List.cons_append] at hdate htime ⊢
  refine bind_eq_ok_iff.2 ⟨_, hdate, bind_eq_ok_iff.2 ⟨_, hmark _, ?_⟩⟩
  refine bind_eq_ok_iff.2 ⟨_, htime, bind_eq_ok_iff.2 ⟨_, hzone, ?_⟩⟩
  dsimp only
  rw [h.date, shift?_zero h]
  rfl

/-- **A date and time is read from the text it is stored as**, -/
theorem Timestamp.parse_storedText {t : Timestamp} (h : t.Exists) :
    Timestamp.parse t.storedText = .ok t :=
  parse_bareText h rfl (by rintro c ⟨⟩; rfl) (by decide)

/-- and from the text it is published as. -/
theorem Timestamp.parse_publicText {t : Timestamp} (h : t.Exists) :
    Timestamp.parse t.publicText = .ok t :=
  parse_bareText h rfl (by rintro c ⟨⟩; rfl) (by decide)

end RowGuard
