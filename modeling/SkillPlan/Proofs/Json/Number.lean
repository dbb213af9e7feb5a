import SkillPlan.Json.Decode
import SkillPlan.Proofs.Json.Lexeme

/-!
# Whole numbers are read back

The digits of a whole number are the text of a number, and they mean the number again if it has no
more than 64 bits. So a literal without fraction and exponent is written as it was read if its
number fits 64 bits; any other number is written with a point or an exponent.
-/

namespace SkillPlan.Json

open Number (Decimal)

/-! ## Digits as texts of numbers -/

namespace Raw

/-- No number but zero begins with a zero. -/
theorem head?_digitChars {n : Nat} (h : n ≠ 0) : (Decimal.digitChars n).head? ≠ some '0' := by
  induction n using Nat.strongRecOn with
  | ind n ih =>
    unfold Decimal.digitChars at ih ⊢
    by_cases hsmall : n < 10
    · have hall : ∀ m < 10, m ≠ 0 → Nat.digitChar m ≠ '0' := by decide
      rw [Nat.toDigits_of_lt_base hsmall]
      simpa using hall n hsmall h
    · -- the digits in front of the last one are those of a smaller number
      have hfront := ih (n / 10) (by omega) (by omega)
      rw [Nat.toDigits_of_base_le (by omega) (by omega)]
      cases hdigits : Nat.toDigits 10 (n / 10) with
      | nil => exact absurd hdigits Nat.toDigits_ne_nil
      | cons d ds => simpa [hdigits] using hfront

theorem isDigit_of_mem_digitChars {n : Nat} {c : Char} (h : c ∈ Decimal.digitChars n) :
    c.isDigit = true :=
  Nat.isDigit_of_mem_toDigits (by decide) (by decide) h

theorem whole_digitChars (n : Nat) : Whole (Decimal.digitChars n) where
  ne_nil := Nat.toDigits_ne_nil
  isDigit _ := isDigit_of_mem_digitChars
  noZero d more hzero := by
    -- two digits, of which the first is a zero
    by_cases hn : n = 0
    · subst hn
      cases hzero
    · exact absurd (by rw [hzero]; rfl) (head?_digitChars hn)

theorem numeral_digitChars (n : Nat) :
    Numeral (Num.natural n).toLiteral (Decimal.digitChars n) := by
  have hunsigned : Unsigned false (Num.natural n).toLiteral (Decimal.digitChars n ++ ([] ++ [])) :=
    .mk (whole_digitChars n) .absent .absent
  rw [List.append_nil, List.append_nil] at hunsigned
  exact .positive hunsigned

end Raw

/-! ## What digits mean -/

/-- What a whole number is read as. -/
theorem absorbDigits_of_lt {ds : List Char} {n : Nat} (h : Nat.ofDigitChars 10 ds n < wordBound) :
    absorbDigits n ds = (Nat.ofDigitChars 10 ds n, 0) := by
  induction ds generalizing n with
  | nil => rfl
  | cons d ds ih =>
    have hnext : n * 10 + digitValue d = 10 * n + (d.toNat - '0'.toNat) := by
      rw [digitValue, Nat.mul_comm]
    rw [Nat.ofDigitChars_cons] at h ⊢
    -- the digits that follow only make the number larger
    have hle : 10 * n + (d.toNat - '0'.toNat) ≤
        Nat.ofDigitChars 10 ds (10 * n + (d.toNat - '0'.toNat)) := by
      rw [Nat.ofDigitChars_eq_ofDigitChars_zero]
      have := Nat.le_mul_of_pos_left (10 * n + (d.toNat - '0'.toNat)) (Nat.pow_pos (n := ds.length)
        (show 0 < 10 by decide))
      omega
    rw [absorbDigits, hnext, if_pos (Nat.lt_of_le_of_lt hle h), ih h]

theorem absorbDigits_fst_lt {ds : List Char} {n : Nat} (h : n < wordBound) :
    (absorbDigits n ds).1 < wordBound := by
  induction ds generalizing n with
  | nil => exact h
  | cons d ds ih =>
    rw [absorbDigits]
    split
    · exact ih ‹_›
    · exact h

/-- A number that is read as a whole one has no more than 64 bits. -/
theorem Literal.lt_of_number? {n : Literal} {k : Nat} (h : n.number? = some (.natural k)) :
    k < wordBound := by
  have hlt : (absorbDigits 0 n.whole).1 < wordBound := absorbDigits_fst_lt (by decide)
  rw [number?] at h
  generalize absorbDigits 0 n.whole = r at h hlt
  dsimp only at h
  split at h
  · cases h
    exact hlt
  · split at h
    · cases h
    · split at h <;> cases h

theorem number?_toLiteral {n : Nat} (h : n < wordBound) :
    (Num.natural n).toLiteral.number? = some (.natural n) := by
  have hdigits : Nat.ofDigitChars 10 (Decimal.digitChars n) 0 = n := Nat.ofDigitChars_ten_toDigits
  have habsorb : absorbDigits 0 (Decimal.digitChars n) = (n, 0) := by
    rw [absorbDigits_of_lt (by rwa [hdigits]), hdigits]
  simp [Literal.number?, Num.toLiteral, habsorb, Literal.isWhole]

/-! ## Literals that are written as they were read -/

theorem toDigits_digitValue {d : Char} (hd : d.isDigit = true) :
    digitValue d < 10 ∧ Nat.toDigits 10 (digitValue d) = [d] := by
  simp only [Char.isDigit, Bool.and_eq_true, decide_eq_true_eq] at hd
  have hlow : '0'.toNat ≤ d.toNat := hd.1
  have hhigh : d.toNat ≤ '9'.toNat := hd.2
  have hall : ∀ k < 10, Nat.toDigits 10 k = [Char.ofNat ('0'.toNat + k)] := by decide
  have hlt : digitValue d < 10 := by
    have hnine : '9'.toNat = '0'.toNat + 9 := rfl
    rw [digitValue]
    omega
  refine ⟨hlt, ?_⟩
  rw [hall _ hlt, digitValue, Nat.add_sub_cancel' hlow, Char.ofNat_toNat]

theorem ofDigitChars_cons (d : Char) (ds : List Char) (n : Nat) :
    Nat.ofDigitChars 10 (d :: ds) n = Nat.ofDigitChars 10 ds (10 * n + digitValue d) :=
  Nat.ofDigitChars_cons

/-- Digits behind a number that is not zero are the digits of the number that they go on to. -/
theorem toDigits_append {ds : List Char} (hds : ∀ d ∈ ds, d.isDigit = true) {n : Nat}
    (hn : 0 < n) : Nat.toDigits 10 n ++ ds = Nat.toDigits 10 (Nat.ofDigitChars 10 ds n) := by
  induction ds generalizing n with
  | nil => rw [List.append_nil, Nat.ofDigitChars_nil]
  | cons d ds ih =>
    obtain ⟨hlt, hdigit⟩ := toDigits_digitValue (hds d List.mem_cons_self)
    have hfirst := Nat.toDigits_append_toDigits (b := 10) (by decide) hn hlt
    rw [hdigit] at hfirst
    rw [List.append_cons, hfirst, ih (fun c hc => hds c (List.mem_cons_of_mem _ hc)) (by omega),
      ofDigitChars_cons]

/-- A run of digits that does not begin with a zero is how its number is written. -/
theorem digitChars_ofDigitChars {ds : List Char} (h : Raw.Whole ds) :
    Decimal.digitChars (Nat.ofDigitChars 10 ds 0) = ds := by
  rw [Decimal.digitChars]
  obtain ⟨d, more, rfl⟩ := List.exists_cons_of_ne_nil h.ne_nil
  have hd := h.isDigit d List.mem_cons_self
  obtain ⟨hlt, hdigit⟩ := toDigits_digitValue hd
  rw [ofDigitChars_cons, Nat.mul_zero, Nat.zero_add]
  cases more with
  | nil => rw [Nat.ofDigitChars_nil, hdigit]
  | cons e more =>
    have hpos : 0 < digitValue d := by
      -- a zero would stand alone
      refine Nat.pos_of_ne_zero fun hzero => h.noZero e more ?_
      rw [hzero, Nat.toDigits_zero] at hdigit
      rw [(List.singleton_inj.mp hdigit)]
    rw [← toDigits_append (fun c hc => h.isDigit c (List.mem_cons_of_mem _ hc)) hpos, hdigit]
    rfl

namespace Literal

/-- The size of the number that the digits in front of a point or an exponent stand for. -/
def size (n : Literal) : Nat := Nat.ofDigitChars 10 n.whole 0

/-- Whether the number of a literal without fraction and exponent is one of 64 bits: at most
    `2 ^ 64 - 1`, or with a minus at most `2 ^ 63` in size, and not zero then. -/
def Fits (n : Literal) : Prop :=
  if n.negative then 0 < n.size ∧ n.size ≤ Nat.pow 2 63 else n.size < wordBound

instance (n : Literal) : Decidable n.Fits :=
  inferInstanceAs (Decidable (if n.negative then 0 < n.size ∧ n.size ≤ Nat.pow 2 63
    else n.size < wordBound))

end Literal

theorem absorbDigits_of_le {ds : List Char} {n : Nat} (hn : n < wordBound)
    (h : wordBound ≤ Nat.ofDigitChars 10 ds n) : (absorbDigits n ds).2 ≠ 0 := by
  induction ds generalizing n with
  | nil => exact absurd h (Nat.not_le.mpr hn)
  | cons d ds ih =>
    rw [ofDigitChars_cons, Nat.mul_comm] at h
    rw [absorbDigits]
    split
    · exact ih ‹_› h
    · exact Nat.succ_ne_zero _

/-- A literal without fraction and exponent is written as its digits, behind its sign. -/
theorem Raw.Numeral.eq_of_isWhole {n : Literal} {text : List Char} (h : Raw.Numeral n text)
    (hwhole : n.isWhole = true) :
    Raw.Whole n.whole ∧ text = (if n.negative then ['-'] else []) ++ n.whole := by
  obtain ⟨hfraction, hexponent⟩ := Bool.and_eq_true_iff.mp hwhole
  have hbare : ∀ {negative digits}, Raw.Unsigned negative n digits →
      n.negative = negative ∧ Raw.Whole n.whole ∧ digits = n.whole := by
    rintro negative _ ⟨hdigits, hpoint, hpower⟩
    obtain rfl : _ = [] := List.isEmpty_iff.mp hfraction
    obtain rfl : _ = none := Option.isNone_iff_eq_none.mp hexponent
    cases hpower
    cases hpoint with
    | absent => exact ⟨rfl, hdigits, by simp⟩
    | present hds => exact absurd rfl hds.ne_nil
  cases h with
  | positive h =>
    obtain ⟨hsign, hdigits, rfl⟩ := hbare h
    exact ⟨hdigits, by simp [hsign]⟩
  | negative h =>
    obtain ⟨hsign, hdigits, rfl⟩ := hbare h
    exact ⟨hdigits, by simp [hsign]⟩

/-- A whole number of 64 bits is written with the characters with which it was read. -/
theorem Literal.Fits.number?_eq {n : Literal} (h : n.Fits) {text : List Char}
    (hn : Raw.Numeral n text) (hwhole : n.isWhole = true) :
    ∃ k, n.number? = some k ∧ k.chars = text := by
  obtain ⟨hdigits, rfl⟩ := hn.eq_of_isWhole hwhole
  have hlt : n.size < wordBound := by
    unfold Fits at h
    split at h
    · exact Nat.lt_of_le_of_lt h.2 (by decide)
    · exact h
  have habsorb : absorbDigits 0 n.whole = (n.size, 0) := absorbDigits_of_lt hlt
  have hchars : Decimal.digitChars n.size = n.whole := digitChars_ofDigitChars hdigits
  cases hsign : n.negative with
  | false =>
    refine ⟨.natural n.size, ?_, hchars⟩
    simp [number?, habsorb, hwhole, hsign]
  | true =>
    rw [Fits, hsign, if_pos rfl] at h
    refine ⟨.negative n.size, ?_, congrArg ('-' :: ·) hchars⟩
    simp only [number?, habsorb, hwhole, hsign]
    simp [show 1 ≤ n.size from h.1, h.2]

/-- Any other number is read as a double, if it is read at all. -/
theorem Literal.exists_decimal {n : Literal} (h : ¬ n.Fits) {k : Num} (hk : n.number? = some k) :
    ∃ d, k = .decimal d := by
  -- where no digit is left over, the digits that were read are the whole number
  have habsorb : (absorbDigits 0 n.whole).2 = 0 →
      n.size < wordBound ∧ (absorbDigits 0 n.whole).1 = n.size := by
    intro hzero
    have hlt : n.size < wordBound :=
      Nat.lt_of_not_le fun hle => absorbDigits_of_le (by decide) hle hzero
    exact ⟨hlt, congrArg Prod.fst (absorbDigits_of_lt hlt)⟩
  rw [number?] at hk
  generalize absorbDigits 0 n.whole = r at hk habsorb
  obtain ⟨sig, beyond⟩ := r
  dsimp only at hk habsorb
  rw [Fits] at h
  split at hk
  · rename_i hnatural
    simp only [Bool.and_eq_true, beq_iff_eq, Bool.not_eq_true'] at hnatural
    obtain ⟨⟨-, hzero⟩, hsign⟩ := hnatural
    rw [hsign] at h
    exact absurd (habsorb hzero).1 h
  rename_i hnatural
  split at hk
  · rename_i hnegative
    simp only [Bool.and_eq_true, beq_iff_eq, decide_eq_true_eq] at hnegative
    obtain ⟨⟨⟨hwhole, hzero⟩, hpos⟩, hle⟩ := hnegative
    have hsign : n.negative = true := by simpa [hwhole, hzero] using hnatural
    obtain ⟨-, rfl⟩ := habsorb hzero
    rw [hsign, if_pos rfl] at h
    exact absurd ⟨hpos, hle⟩ h
  · split at hk
    · cases hk
      exact ⟨_, rfl⟩
    · cases hk

/-- A number that is read as a double is written with a point or an exponent. -/
theorem exists_mem_chars (d : Decimal) (l : Decimal.Layout) :
    ∃ c ∈ d.chars l, c = '.' ∨ c = 'e' := by
  suffices hunsigned : ∃ c ∈ d.unsigned l, c = '.' ∨ c = 'e' by
    obtain ⟨c, hc, hsep⟩ := hunsigned
    exact ⟨c, List.mem_append_right _ hc, hsep⟩
  unfold Decimal.unsigned
  split
  · exact ⟨'.', by simp, .inl rfl⟩
  extract_lets ds lead whole fraction sign
  split
  · split
    · exact ⟨'.', by simp, .inl rfl⟩
    · split <;> exact ⟨'.', by simp, .inl rfl⟩
  · exact ⟨'e', by simp, .inr rfl⟩

/-- Only a whole number of 64 bits is written as it was read. -/
theorem Literal.fits_of_number? {n : Literal} {text : List Char} (hn : Raw.Numeral n text)
    (hwhole : n.isWhole = true) {k : Num} (hk : n.number? = some k) (hchars : k.chars = text) :
    n.Fits := by
  refine Classical.not_not.mp fun hfits => ?_
  obtain ⟨d, rfl⟩ := exists_decimal hfits hk
  obtain ⟨hdigits, htext⟩ := hn.eq_of_isWhole hwhole
  obtain ⟨c, hc, hsep⟩ := exists_mem_chars d numberLayout
  change d.chars numberLayout = text at hchars
  rw [hchars, htext, List.mem_append] at hc
  -- neither a point nor an exponent is a sign or a digit
  obtain hc | hc := hc
  · have hminus : c = '-' := by
      split at hc
      · exact List.mem_singleton.mp hc
      · cases hc
    subst hminus
    obtain hsep | hsep := hsep <;> cases hsep
  · have hdigit := hdigits.isDigit c hc
    obtain rfl | rfl := hsep <;> cases hdigit

end SkillPlan.Json
