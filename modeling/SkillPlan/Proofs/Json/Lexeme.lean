import SkillPlan.Json.Raw
import SkillPlan.Proofs.Text

/-!
# Strings and numbers of JSON

The texts of strings and of numbers as relations, apart from the reader. The reader takes such a text
off the front of what it is given, and it reads such a text in front of anything that does not go on
with it.
-/

namespace SkillPlan.Json.Raw

open Text (takeWhile_run dropWhile_run)

/-! ## Strings -/

/-- What may stand between the quotes of a string. -/
inductive Body : List Char → Prop
  | nil : Body []
  | plain {c : Char} {body : List Char} (hquote : c ≠ '"') (hbackslash : c ≠ '\\')
      (hlarge : ¬ c.toNat < 0x20) (h : Body body) : Body (c :: body)
  | short {e : Char} {body : List Char} (he : isShortEscape e = true) (h : Body body) :
      Body ('\\' :: e :: body)
  | numbered {a b c d : Char} {body : List Char}
      (hdigits : (isHex a && isHex b && isHex c && isHex d) = true) (h : Body body) :
      Body ('\\' :: 'u' :: a :: b :: c :: d :: body)

/-- A body is read up to the closing quote, whatever follows. -/
theorem Body.stringBody?_append {body : List Char} (h : Body body) (rest : List Char) :
    stringBody? (body ++ '"' :: rest) = some (body, rest) := by
  induction h with
  | nil => simp [stringBody?]
  | plain hquote hbackslash hlarge h ih => simp [stringBody?, hbackslash, hlarge, ih]
  | @short e body he h ih =>
    have hu : e ≠ 'u' := by
      rintro rfl
      revert he
      decide
    simp [stringBody?, hu, he, ih]
  | numbered hdigits h ih => simp [stringBody?, hdigits, ih]

theorem body_of_stringBody? {cs body rest : List Char} (h : stringBody? cs = some (body, rest)) :
    cs = body ++ '"' :: rest ∧ Body body := by
  fun_induction stringBody? cs generalizing body with
  | case1 => cases h
  | case2 rest' =>
    cases h
    exact ⟨rfl, .nil⟩
  | case3 a b c d rest' hdigits ih =>
    obtain ⟨⟨inner, rest''⟩, hinner, heq⟩ := Option.map_eq_some_iff.mp h
    cases heq
    obtain ⟨rfl, hbody⟩ := ih hinner
    exact ⟨rfl, .numbered hdigits hbody⟩
  | case4 => cases h
  | case5 e rest' _ hshort ih =>
    obtain ⟨⟨inner, rest''⟩, hinner, heq⟩ := Option.map_eq_some_iff.mp h
    cases heq
    obtain ⟨rfl, hbody⟩ := ih hinner
    exact ⟨rfl, .short hshort hbody⟩
  | case6 => cases h
  | case7 => cases h
  | case8 c rest' hquote _ _ hplain ih =>
    obtain ⟨⟨inner, rest''⟩, hinner, heq⟩ := Option.map_eq_some_iff.mp h
    cases heq
    obtain ⟨rfl, hbody⟩ := ih hinner
    simp only [Bool.or_eq_true, decide_eq_true_eq, beq_iff_eq, not_or] at hplain
    exact ⟨rfl, .plain hquote hplain.2 hplain.1 hbody⟩

/-! ## Numbers -/

/-- One or more digits. -/
structure Digits (ds : List Char) : Prop where
  ne_nil : ds ≠ []
  isDigit : ∀ c ∈ ds, c.isDigit = true

/-- The whole part of a number: a zero alone, or digits that do not begin with one. -/
structure Whole (ds : List Char) : Prop extends Digits ds where
  noZero : ∀ d more, ds ≠ '0' :: d :: more

/-- The texts of fractions. -/
inductive Fraction : List Char → List Char → Prop
  | absent : Fraction [] []
  | present {ds : List Char} (hds : Digits ds) : Fraction ds ('.' :: ds)

/-- The signs of exponents. -/
inductive Sign : Bool → List Char → Prop
  | absent : Sign false []
  | plus : Sign false ['+']
  | minus : Sign true ['-']

/-- The texts of exponents. -/
inductive Exponent : Option (Bool × List Char) → List Char → Prop
  | absent : Exponent none []
  | present {e : Char} {negative : Bool} {sign ds : List Char} (he : e = 'e' ∨ e = 'E')
      (hsign : Sign negative sign) (hds : Digits ds) :
      Exponent (some (negative, ds)) (e :: (sign ++ ds))

/-- The texts of numbers behind their sign. -/
inductive Unsigned (negative : Bool) : Literal → List Char → Prop
  | mk {whole fraction point exponent power : _} (hwhole : Whole whole)
      (hfraction : Fraction fraction point) (hexponent : Exponent exponent power) :
      Unsigned negative ⟨negative, whole, fraction, exponent⟩ (whole ++ (point ++ power))

/-- The texts of numbers. -/
inductive Numeral : Literal → List Char → Prop
  | positive {n : Literal} {text : List Char} (h : Unsigned false n text) : Numeral n text
  | negative {n : Literal} {text : List Char} (h : Unsigned true n text) : Numeral n ('-' :: text)

/-- What stands behind a number that is over. -/
def EndsNumber : List Char → Prop
  | [] => True
  | c :: _ => c.isDigit = false ∧ c ≠ '.' ∧ c ≠ 'e' ∧ c ≠ 'E'

theorem EndsNumber.exponent?_eq {rest : List Char} (h : EndsNumber rest) :
    exponent? rest = some (none, rest) := by
  cases rest with
  | nil => rfl
  | cons c rest => simp [exponent?, h.2.2.1, h.2.2.2]

/-- No digit comes next. -/
def NoDigit (cs : List Char) : Prop := ∀ c ∈ cs.head?, c.isDigit = false

theorem EndsNumber.noDigit {rest : List Char} (h : EndsNumber rest) : NoDigit rest := by
  cases rest with
  | nil => intro c hc; cases hc
  | cons c rest =>
    intro d hd
    cases hd
    exact h.1

theorem Digits.takeWhile_append {ds rest : List Char} (h : Digits ds) (hrest : NoDigit rest) :
    (ds ++ rest).takeWhile Char.isDigit = ds := takeWhile_run h.isDigit hrest

theorem Digits.dropWhile_append {ds rest : List Char} (h : Digits ds) (hrest : NoDigit rest) :
    (ds ++ rest).dropWhile Char.isDigit = rest := dropWhile_run h.isDigit hrest

/-- The digits at the front of a text. -/
theorem digits_takeWhile {cs : List Char} (h : cs.takeWhile Char.isDigit ≠ []) :
    Digits (cs.takeWhile Char.isDigit) where
  ne_nil := h
  isDigit := List.all_eq_true.mp List.all_takeWhile

theorem Whole.whole?_append {ds rest : List Char} (h : Whole ds) (hrest : NoDigit rest) :
    whole? (ds ++ rest) = some (ds, rest) := by
  unfold whole?
  rw [h.takeWhile_append hrest, h.dropWhile_append hrest]
  split
  · exact absurd rfl h.ne_nil
  · exact absurd rfl (h.noZero _ _)
  · rfl

theorem whole_of_whole? {cs ds rest : List Char} (h : whole? cs = some (ds, rest)) :
    cs = ds ++ rest ∧ Whole ds := by
  unfold whole? at h
  split at h
  · cases h
  · cases h
  · rename_i hne hzero
    cases h
    refine ⟨List.takeWhile_append_dropWhile.symm, digits_takeWhile hne, hzero⟩

theorem Fraction.fraction?_append {ds text rest : List Char} (h : Fraction ds text)
    (hrest : NoDigit rest) (hpoint : '.' ∉ rest.head?) :
    fraction? (text ++ rest) = some (ds, rest) := by
  cases h with
  | absent =>
    rw [List.nil_append]
    unfold fraction?
    split
    · exact absurd rfl hpoint
    · rfl
  | present hds =>
    rw [List.cons_append, fraction?, hds.takeWhile_append hrest, hds.dropWhile_append hrest]
    split
    · exact absurd rfl hds.ne_nil
    · rfl

theorem fraction_of_fraction? {cs ds rest : List Char} (h : fraction? cs = some (ds, rest)) :
    ∃ text, cs = text ++ rest ∧ Fraction ds text := by
  unfold fraction? at h
  split at h
  · rename_i more
    split at h
    · cases h
    · rename_i hne
      cases h
      refine ⟨'.' :: more.takeWhile Char.isDigit, ?_, .present (digits_takeWhile hne)⟩
      rw [List.cons_append, List.takeWhile_append_dropWhile]
  · cases h
    exact ⟨[], rfl, .absent⟩

/-- Whether there is a minus, and what stands behind the sign. -/
def takeSign : List Char → Bool × List Char
  | '-' :: cs => (true, cs)
  | '+' :: cs => (false, cs)
  | cs => (false, cs)

theorem exponent?_of_letter {e : Char} (he : e = 'e' ∨ e = 'E') (cs : List Char) :
    exponent? (e :: cs) =
      if (takeSign cs).2.takeWhile Char.isDigit = [] then none
      else some (some ((takeSign cs).1, (takeSign cs).2.takeWhile Char.isDigit),
        (takeSign cs).2.dropWhile Char.isDigit) := by
  have hletter : (e == 'e' || e == 'E') = true := by simpa using he
  unfold exponent? takeSign
  simp only [hletter, ↓reduceIte]
  split <;> split <;> simp_all

theorem exponent?_of_other {cs : List Char} (he : ∀ e more, cs = e :: more → ¬ (e = 'e' ∨ e = 'E')) :
    exponent? cs = some (none, cs) := by
  unfold exponent?
  split
  · rename_i e more
    rw [if_neg (by simpa using he e more rfl)]
  · rfl

theorem Sign.takeSign_append {negative : Bool} {sign ds : List Char} (h : Sign negative sign)
    (hds : Digits ds) (rest : List Char) :
    takeSign (sign ++ (ds ++ rest)) = (negative, ds ++ rest) := by
  cases h with
  | absent =>
    -- a digit is no sign
    obtain ⟨d, more, rfl⟩ := List.exists_cons_of_ne_nil hds.ne_nil
    have hd := hds.isDigit d List.mem_cons_self
    unfold takeSign
    split
    · rename_i hminus
      cases (List.cons.inj hminus).1
      cases hd
    · rename_i hplus
      cases (List.cons.inj hplus).1
      cases hd
    · rfl
  | plus => rfl
  | minus => rfl

theorem exists_sign (cs : List Char) :
    ∃ sign, Sign (takeSign cs).1 sign ∧ cs = sign ++ (takeSign cs).2 := by
  unfold takeSign
  split
  · exact ⟨_, .minus, rfl⟩
  · exact ⟨_, .plus, rfl⟩
  · exact ⟨_, .absent, rfl⟩

theorem Exponent.exponent?_append {exponent : Option (Bool × List Char)} {text rest : List Char}
    (h : Exponent exponent text) (hrest : EndsNumber rest) :
    exponent? (text ++ rest) = some (exponent, rest) := by
  cases h with
  | absent => exact hrest.exponent?_eq
  | present he hsign hds =>
    rw [List.cons_append, List.append_assoc, exponent?_of_letter he, hsign.takeSign_append hds,
      hds.takeWhile_append hrest.noDigit, hds.dropWhile_append hrest.noDigit, if_neg hds.ne_nil]

theorem exponent_of_exponent? {cs rest : List Char} {exponent : Option (Bool × List Char)}
    (h : exponent? cs = some (exponent, rest)) :
    ∃ text, cs = text ++ rest ∧ Exponent exponent text := by
  by_cases hletter : ∃ e more, cs = e :: more ∧ (e = 'e' ∨ e = 'E')
  · obtain ⟨e, more, rfl, he⟩ := hletter
    obtain ⟨sign, hsign, hmore⟩ := exists_sign more
    rw [exponent?_of_letter he] at h
    split at h
    · cases h
    · rename_i hne
      cases h
      refine ⟨_, ?_, .present he hsign (digits_takeWhile hne)⟩
      rw [List.cons_append, List.append_assoc, List.takeWhile_append_dropWhile, ← hmore]
  · rw [exponent?_of_other fun e more hcs he => hletter ⟨e, more, hcs, he⟩] at h
    cases h
    exact ⟨[], rfl, .absent⟩

theorem Exponent.head {exponent : Option (Bool × List Char)} {text rest : List Char}
    (h : Exponent exponent text) (hrest : EndsNumber rest) :
    NoDigit (text ++ rest) ∧ '.' ∉ (text ++ rest).head? := by
  cases h with
  | absent =>
    cases rest with
    | nil => simp [NoDigit]
    | cons c rest => simpa [NoDigit, hrest.1] using hrest.2.1
  | present he hsign hds => obtain rfl | rfl := he <;> simp [NoDigit]

theorem Unsigned.unsigned?_append {negative : Bool} {n : Literal} {text rest : List Char}
    (h : Unsigned negative n text) (hrest : EndsNumber rest) :
    unsigned? negative (text ++ rest) = some (n, rest) := by
  cases h with
  | @mk whole fraction point exponent power hwhole hfraction hexponent =>
    obtain ⟨hdigit, hpoint⟩ := hexponent.head hrest
    have hfirst : NoDigit (point ++ (power ++ rest)) := by
      cases hfraction with
      | absent => exact hdigit
      | present hds => simp [NoDigit]
    simp only [List.append_assoc, unsigned?, hwhole.whole?_append hfirst,
      hfraction.fraction?_append hdigit hpoint, hexponent.exponent?_append hrest,
      Option.bind_eq_bind, Option.bind_some]
    rfl

theorem unsigned_of_unsigned? {negative : Bool} {n : Literal} {cs rest : List Char}
    (h : unsigned? negative cs = some (n, rest)) :
    ∃ text, cs = text ++ rest ∧ Unsigned negative n text := by
  obtain ⟨⟨whole, cs₁⟩, hwhole, hmore⟩ := Option.bind_eq_some_iff.mp h
  obtain ⟨⟨fraction, cs₂⟩, hfraction, hmore⟩ := Option.bind_eq_some_iff.mp hmore
  obtain ⟨⟨exponent, cs₃⟩, hexponent, hend⟩ := Option.bind_eq_some_iff.mp hmore
  cases hend
  obtain ⟨rfl, hwhole'⟩ := whole_of_whole? hwhole
  obtain ⟨point, rfl, hfraction'⟩ := fraction_of_fraction? hfraction
  obtain ⟨power, rfl, hexponent'⟩ := exponent_of_exponent? hexponent
  exact ⟨_, by simp only [List.append_assoc], .mk hwhole' hfraction' hexponent'⟩

/-- A number begins with a minus or a digit. -/
theorem Numeral.exists_cons {n : Literal} {text : List Char} (h : Numeral n text) :
    ∃ c cs, text = c :: cs ∧ (c = '-' ∨ c.isDigit = true) := by
  cases h with
  | positive h =>
    cases h with
    | mk hwhole hfraction hexponent =>
      obtain ⟨d, ds, rfl⟩ := List.exists_cons_of_ne_nil hwhole.ne_nil
      exact ⟨d, _, rfl, .inr (hwhole.isDigit d List.mem_cons_self)⟩
  | negative h => exact ⟨'-', _, rfl, .inl rfl⟩

/-- A number is read up to where it ends. -/
theorem Numeral.number?_append {n : Literal} {text rest : List Char} (h : Numeral n text)
    (hrest : EndsNumber rest) : number? (text ++ rest) = some (n, rest) := by
  cases h with
  | positive h =>
    have hread := h.unsigned?_append hrest
    cases h with
    | mk hwhole hfraction hexponent =>
      obtain ⟨d, ds, rfl⟩ := List.exists_cons_of_ne_nil hwhole.ne_nil
      unfold number?
      split
      · rename_i hminus
        have hd := hwhole.isDigit d List.mem_cons_self
        cases (List.cons.inj hminus).1
        cases hd
      · exact hread
  | negative h => exact h.unsigned?_append hrest

theorem numeral_of_number? {n : Literal} {cs rest : List Char} (h : number? cs = some (n, rest)) :
    ∃ text, cs = text ++ rest ∧ Numeral n text := by
  unfold number? at h
  split at h
  · obtain ⟨text, rfl, htext⟩ := unsigned_of_unsigned? h
    exact ⟨_, rfl, .negative htext⟩
  · obtain ⟨text, rfl, htext⟩ := unsigned_of_unsigned? h
    exact ⟨_, rfl, .positive htext⟩

end SkillPlan.Json.Raw
