import SkillPlan.Proofs.Json.Lexeme
import SkillPlan.Proofs.Json.Text

/-!
# The grammar of JSON

The texts of values as a relation, apart from the reader. The reader takes a text of the grammar off
the front of what it is given, and it reads such a text in front of anything that does not go on with
a number: `exists_spelling` and `Spelling.value?_append`.
-/

namespace SkillPlan.Json.Raw

/-! ## White space -/

/-- Nothing but white space. -/
def Blank (gap : List Char) : Prop := ∀ c ∈ gap, isSpace c = true

theorem Blank.nil : Blank [] := fun _ hc => by cases hc

theorem Blank.append {gap more : List Char} (h : Blank gap) (hmore : Blank more) :
    Blank (gap ++ more) :=
  fun c hc => (List.mem_append.mp hc).elim (h c) (hmore c)

theorem Blank.skipSpace_append {gap : List Char} (h : Blank gap) (cs : List Char) :
    skipSpace (gap ++ cs) = skipSpace cs :=
  List.dropWhile_append_of_pos h

theorem Blank.value?_append {gap : List Char} (h : Blank gap) (fuel : Nat) (cs : List Char) :
    value? fuel (gap ++ cs) = value? fuel cs := by
  cases fuel with
  | zero => rfl
  | succ fuel => rw [value?, value?, h.skipSpace_append]

theorem Blank.field?_append {gap : List Char} (h : Blank gap)
    (value : List Char → Option (Raw × List Char)) (cs : List Char) :
    field? value (gap ++ cs) = field? value cs := by
  rw [field?, field?, h.skipSpace_append]

/-- White space and what stands between the parts of a container end a number. -/
theorem Blank.endsNumber_append {gap : List Char} (h : Blank gap) {c : Char}
    (hc : c = ',' ∨ c = ']' ∨ c = '\x7d') (rest : List Char) :
    EndsNumber (gap ++ c :: rest) := by
  cases gap with
  | nil => obtain rfl | rfl | rfl := hc <;> simp [EndsNumber]
  | cons s gap =>
    have hs := h s List.mem_cons_self
    simp only [isSpace, Bool.or_eq_true, beq_iff_eq] at hs
    obtain ((rfl | rfl) | rfl) | rfl := hs <;> simp [EndsNumber]

theorem Blank.endsNumber {gap : List Char} (h : Blank gap) : EndsNumber gap := by
  cases gap with
  | nil => trivial
  | cons s gap =>
    have hs := h s List.mem_cons_self
    simp only [isSpace, Bool.or_eq_true, beq_iff_eq] at hs
    obtain ((rfl | rfl) | rfl) | rfl := hs <;> simp [EndsNumber]

/-- White space in front of what is read. -/
theorem exists_gap (cs : List Char) : ∃ gap, Blank gap ∧ cs = gap ++ skipSpace cs :=
  ⟨cs.takeWhile isSpace, List.all_eq_true.mp List.all_takeWhile,
    List.takeWhile_append_dropWhile.symm⟩

/-! ## Values -/

/-- One or more parts with commas between them, each of which may have white space behind it. -/
inductive Separated {α : Type} (part : α → List Char → Prop) : List α → List Char → Prop
  | last {x : α} {text gap : List Char} (h : part x text) (hgap : Blank gap) :
      Separated part [x] (text ++ gap)
  | cons {x : α} {xs : List α} {text gap more : List Char} (h : part x text) (hgap : Blank gap)
      (hmore : Separated part xs more) : Separated part (x :: xs) (text ++ (gap ++ ',' :: more))

mutual
/-- The texts of values, without white space around them. -/
inductive Spelling : Raw → List Char → Prop
  | null : Spelling .null ['n', 'u', 'l', 'l']
  | true : Spelling (.bool true) ['t', 'r', 'u', 'e']
  | false : Spelling (.bool false) ['f', 'a', 'l', 's', 'e']
  | num {n : Literal} {text : List Char} (h : Numeral n text) : Spelling (.num n) text
  | str {body : List Char} (h : Body body) : Spelling (.str body) ('"' :: (body ++ ['"']))
  | noItems {gap : List Char} (hgap : Blank gap) : Spelling (.arr []) ('[' :: (gap ++ [']']))
  | arr {items : List Raw} {text : List Char} (h : Separated Item items text) :
      Spelling (.arr items) ('[' :: (text ++ [']']))
  | noFields {gap : List Char} (hgap : Blank gap) :
      Spelling (.obj []) ('\x7b' :: (gap ++ ['\x7d']))
  | obj {fields : List (List Char × Raw)} {text : List Char} (h : Separated Field fields text) :
      Spelling (.obj fields) ('\x7b' :: (text ++ ['\x7d']))

/-- A value with white space in front of it. -/
inductive Item : Raw → List Char → Prop
  | mk {v : Raw} {gap text : List Char} (hgap : Blank gap) (h : Spelling v text) :
      Item v (gap ++ text)

/-- A key, a colon and a value. -/
inductive Field : List Char × Raw → List Char → Prop
  | mk {key : List Char} {v : Raw} {gap colon text : List Char} (hgap : Blank gap)
      (hkey : Body key) (hcolon : Blank colon) (h : Item v text) :
      Field (key, v) (gap ++ '"' :: (key ++ '"' :: (colon ++ ':' :: text)))
end

/-- A value with white space on both sides of it. -/
inductive Document : Raw → List Char → Prop
  | mk {v : Raw} {text gap : List Char} (h : Item v text) (hgap : Blank gap) :
      Document v (text ++ gap)

/-- An object stands in braces. -/
theorem Spelling.exists_braces {fields : List (List Char × Raw)} {text : List Char}
    (h : Spelling (.obj fields) text) : ∃ inside, text = '\x7b' :: (inside ++ ['\x7d']) := by
  cases h with
  | noFields hgap => exact ⟨_, rfl⟩
  | obj h => exact ⟨_, rfl⟩

/-! ## What is read is a text of the grammar -/

theorem separated_of_separated? {α : Type} {close : Char}
    {part : List Char → Option (α × List Char)} {text : α → List Char → Prop}
    (hpart : ∀ cs x rest, part cs = some (x, rest) → ∃ used, cs = used ++ rest ∧ text x used)
    {fuel : Nat} {cs rest : List Char} {xs : List α}
    (h : separated? close part fuel cs = some (xs, rest)) :
    ∃ used, cs = used ++ close :: rest ∧ Separated text xs used := by
  induction fuel generalizing cs xs with
  | zero => cases h
  | succ fuel ih =>
    obtain ⟨⟨x, behind⟩, hx, hrest⟩ := Option.bind_eq_some_iff.mp h
    obtain ⟨used, rfl, hused⟩ := hpart _ _ _ hx
    obtain ⟨gap, hgap, hbehind⟩ := exists_gap behind
    dsimp only at hrest
    split at hrest
    · rename_i c more hskip
      rw [hskip] at hbehind
      split at hrest
      · rename_i hclose
        cases hrest
        refine ⟨used ++ gap, ?_, .last hused hgap⟩
        rw [hbehind, hclose, List.append_assoc]
      · split at hrest
        · rename_i hcomma
          obtain ⟨⟨ys, rest'⟩, hys, heq⟩ := Option.map_eq_some_iff.mp hrest
          cases heq
          obtain ⟨used', rfl, hused'⟩ := ih hys
          refine ⟨used ++ (gap ++ ',' :: used'), ?_, .cons hused hgap hused'⟩
          rw [hbehind, hcomma]
          simp only [List.append_assoc, List.cons_append]
        · cases hrest
    · cases hrest

theorem field_of_field? {value : List Char → Option (Raw × List Char)}
    (hvalue : ∀ cs v rest, value cs = some (v, rest) → ∃ used, cs = used ++ rest ∧ Item v used)
    {cs rest : List Char} {f : List Char × Raw} (h : field? value cs = some (f, rest)) :
    ∃ used, cs = used ++ rest ∧ Field f used := by
  obtain ⟨gap, hgap, hcs⟩ := exists_gap cs
  unfold field? at h
  split at h
  · rename_i inside hquote
    obtain ⟨⟨key, behind⟩, hkey, hrest⟩ := Option.bind_eq_some_iff.mp h
    obtain ⟨rfl, hbody⟩ := body_of_stringBody? hkey
    obtain ⟨colon, hcolon, hbehind⟩ := exists_gap behind
    dsimp only at hrest
    split at hrest
    · rename_i after hskip
      obtain ⟨⟨v, rest'⟩, hv, hend⟩ := Option.bind_eq_some_iff.mp hrest
      cases hend
      obtain ⟨used, rfl, hused⟩ := hvalue _ _ _ hv
      refine ⟨_, ?_, .mk hgap hbody hcolon hused⟩
      rw [hcs, hquote, hbehind, hskip]
      simp only [List.append_assoc, List.cons_append]
    · cases hrest
  · cases h

/-- Whatever is read as a value is a text of the value. -/
theorem exists_spelling {fuel : Nat} {cs rest : List Char} {v : Raw}
    (h : value? fuel cs = some (v, rest)) : ∃ used, cs = used ++ rest ∧ Item v used := by
  induction fuel generalizing cs rest v with
  | zero => cases h
  | succ fuel ih =>
    obtain ⟨gap, hgap, hcs⟩ := exists_gap cs
    -- white space aside, there is a text that spells the value
    suffices hspelling : ∃ used, skipSpace cs = used ++ rest ∧ Spelling v used by
      obtain ⟨used, hskip, hused⟩ := hspelling
      exact ⟨gap ++ used, by rw [hcs, hskip, List.append_assoc], .mk hgap hused⟩
    unfold value? at h
    split at h
    · rename_i inside hquote
      obtain ⟨⟨body, rest'⟩, hread, heq⟩ := Option.map_eq_some_iff.mp h
      cases heq
      obtain ⟨rfl, hbody⟩ := body_of_stringBody? hread
      exact ⟨_, by simp [hquote], .str hbody⟩
    · rename_i inside hbracket
      obtain ⟨gap, hgap, hinside⟩ := exists_gap inside
      split at h
      · rename_i rest' hskip
        cases h
        exact ⟨_, by rw [hbracket, hinside, hskip]; simp, .noItems hgap⟩
      · obtain ⟨⟨items, rest'⟩, hread, heq⟩ := Option.map_eq_some_iff.mp h
        cases heq
        obtain ⟨used, rfl, hused⟩ := separated_of_separated? (fun _ _ _ => ih) hread
        exact ⟨_, by simp [hbracket], .arr hused⟩
    · rename_i inside hbracket
      obtain ⟨gap, hgap, hinside⟩ := exists_gap inside
      split at h
      · rename_i rest' hskip
        cases h
        exact ⟨_, by rw [hbracket, hinside, hskip]; simp, .noFields hgap⟩
      · obtain ⟨⟨fields, rest'⟩, hread, heq⟩ := Option.map_eq_some_iff.mp h
        cases heq
        obtain ⟨used, rfl, hused⟩ := separated_of_separated?
          (fun _ _ _ => field_of_field? fun _ _ _ => ih) hread
        exact ⟨_, by simp [hbracket], .obj hused⟩
    · rename_i hword
      cases h
      exact ⟨_, hword, .null⟩
    · rename_i hword
      cases h
      exact ⟨_, hword, .true⟩
    · rename_i hword
      cases h
      exact ⟨_, hword, .false⟩
    · obtain ⟨⟨n, rest'⟩, hn, heq⟩ := Option.map_eq_some_iff.mp h
      cases heq
      obtain ⟨used, hused, hnumeral⟩ := numeral_of_number? hn
      exact ⟨used, hused, .num hnumeral⟩

/-! ## Texts of the grammar are read -/

/-- The reader of parts reads the texts of parts up to some length, in front of whatever does not go
    on with a number. -/
def Reads {α : Type} (part : List Char → Option (α × List Char)) (text : α → List Char → Prop)
    (length : Nat) : Prop :=
  ∀ x used rest, text x used → used.length ≤ length → EndsNumber rest →
    part (used ++ rest) = some (x, rest)

/-- The last part may have white space behind it. -/
theorem separated?_last_append {α : Type} {close : Char}
    {part : List Char → Option (α × List Char)} {cs gap rest : List Char} {x : α}
    (hspace : isSpace close = false) (hgap : Blank gap)
    (h : part cs = some (x, gap ++ close :: rest)) (fuel : Nat) :
    separated? close part (fuel + 1) cs = some ([x], rest) := by
  simp [separated?, h, hgap.skipSpace_append, skipSpace_of_not_space hspace]

/-- The other parts may have white space behind them, too. -/
theorem separated?_comma_append {α : Type} {close : Char}
    {part : List Char → Option (α × List Char)} {cs gap more rest : List Char} {x : α} {xs : List α}
    (hclose : close ≠ ',') (hgap : Blank gap) (h : part cs = some (x, gap ++ ',' :: more))
    {fuel : Nat} (hmore : separated? close part fuel more = some (xs, rest)) :
    separated? close part (fuel + 1) cs = some (x :: xs, rest) := by
  simp [separated?, h, hgap.skipSpace_append, skipSpace_of_not_space (c := ',') rfl, hclose.symm,
    hmore]

theorem Separated.separated?_append {α : Type} {close : Char}
    (hclose : close = ']' ∨ close = '\x7d') {part : List Char → Option (α × List Char)}
    {text : α → List Char → Prop} {length : Nat} (hpart : Reads part text length) {xs : List α}
    {used : List Char} (h : Separated text xs used) (hlength : used.length ≤ length) {fuel : Nat}
    (hfuel : used.length ≤ fuel) (rest : List Char) :
    separated? close part (fuel + 1) (used ++ close :: rest) = some (xs, rest) := by
  have hspace : isSpace close = false := by obtain rfl | rfl := hclose <;> rfl
  have hcomma : close ≠ ',' := by obtain rfl | rfl := hclose <;> decide
  induction h generalizing fuel with
  | @last x used gap hx hgap =>
    rw [List.length_append] at hlength
    have hends := hgap.endsNumber_append (.inr hclose) rest
    rw [List.append_assoc]
    exact separated?_last_append hspace hgap (hpart _ _ _ hx (by omega) hends) fuel
  | @cons x xs used gap more hx hgap hmore ih =>
    simp only [List.length_append, List.length_cons] at hlength hfuel
    obtain ⟨fuel, rfl⟩ := Nat.exists_eq_add_of_le' (show 1 ≤ fuel by omega)
    have hends := hgap.endsNumber_append (.inl rfl) (more ++ close :: rest)
    have hread := ih (by omega) (show more.length ≤ fuel by omega)
    simp only [List.append_assoc, List.cons_append]
    exact separated?_comma_append hcomma hgap (hpart _ _ _ hx (by omega) hends) hread

theorem Reads.field {value : List Char → Option (Raw × List Char)} {length : Nat}
    (h : Reads value Item length) : Reads (field? value) Field length := by
  rintro _ _ rest (@⟨key, v, gap, colon, text, hgap, hkey, hcolon, hv⟩) hlength hrest
  simp only [List.length_append, List.length_cons] at hlength
  have hvalue := h _ _ _ hv (by omega) hrest
  simp only [List.append_assoc, List.cons_append]
  rw [hgap.field?_append, field?, skipSpace_of_not_space rfl]
  simp only [hkey.stringBody?_append, Option.bind_eq_bind, Option.bind_some,
    hcolon.skipSpace_append, skipSpace_of_not_space (c := ':') rfl, hvalue]
  rfl

/-- An array with at least one item. -/
theorem value?_arr {fuel : Nat} {cs rest : List Char} {items : List Raw}
    (h : separated? ']' (value? fuel) (fuel + 1) cs = some (items, rest)) :
    value? (fuel + 1) ('[' :: cs) = some (.arr items, rest) := by
  rw [value?, skipSpace_of_not_space rfl]
  simp only
  split
  · -- a closing bracket is no value
    rename_i hclose
    have hnone : value? fuel cs = none := by
      cases fuel with
      | zero => rfl
      | succ fuel => simp [value?, hclose, number?, unsigned?, whole?]
    rw [separated?, hnone] at h
    cases h
  · rw [h, Option.map_some]

/-- What begins like a number is read as one. -/
theorem value?_of_number {c : Char} (hc : c = '-' ∨ c.isDigit = true) (fuel : Nat)
    (cs : List Char) :
    value? (fuel + 1) (c :: cs) = (number? (c :: cs)).map fun r => (.num r.1, r.2) := by
  have hother : ∀ d, d ≠ '-' → d.isDigit = false → c ≠ d := by
    rintro d hminus hdigit rfl
    simp [hminus, hdigit] at hc
  have hspace : isSpace c = false := by simp [isSpace, hother]
  rw [value?, skipSpace_of_not_space hspace]
  simp [hother]

theorem Spelling.ne_nil {v : Raw} {text : List Char} (h : v.Spelling text) : text ≠ [] := by
  cases h with
  | num h =>
    obtain ⟨c, cs, rfl, -⟩ := h.exists_cons
    exact List.cons_ne_nil c cs
  | _ => exact List.cons_ne_nil _ _

/-- A text of a value is read as the value, whatever follows; what follows a number must not go on
    with it. -/
theorem Spelling.value?_append {v : Raw} {text : List Char} (h : v.Spelling text) {fuel : Nat}
    (hfuel : text.length ≤ fuel) {rest : List Char} (hrest : ∀ n, v = .num n → EndsNumber rest) :
    value? fuel (text ++ rest) = some (v, rest) := by
  induction fuel generalizing v text rest with
  | zero => exact absurd (List.length_eq_zero_iff.mp (Nat.le_zero.mp hfuel)) h.ne_nil
  | succ fuel ih =>
    have hreads : Reads (value? fuel) Item fuel := by
      rintro _ _ rest (@⟨v, gap, text, hgap, hv⟩) hlength hrest
      rw [List.length_append] at hlength
      rw [List.append_assoc, hgap.value?_append]
      exact ih hv (by omega) fun _ _ => hrest
    cases h with
    | null => rfl
    | true => rfl
    | false => rfl
    | num h =>
      obtain ⟨c, cs, rfl, hc⟩ := h.exists_cons
      rw [List.cons_append, value?_of_number hc, ← List.cons_append,
        h.number?_append (hrest _ rfl), Option.map_some]
    | str h =>
      simp only [List.cons_append, List.append_assoc, List.nil_append]
      rw [value?, skipSpace_of_not_space rfl]
      simp only [h.stringBody?_append, Option.map_some]
    | noItems hgap =>
      simp only [List.cons_append, List.append_assoc, List.nil_append]
      rw [value?, skipSpace_of_not_space rfl]
      simp only [hgap.skipSpace_append, skipSpace_of_not_space (c := ']') rfl]
    | noFields hgap =>
      simp only [List.cons_append, List.append_assoc, List.nil_append]
      rw [value?, skipSpace_of_not_space rfl]
      simp only [hgap.skipSpace_append, skipSpace_of_not_space (c := '\x7d') rfl]
    | arr h =>
      simp only [List.length_cons, List.length_append, List.length_nil] at hfuel
      simp only [List.cons_append, List.append_assoc, List.nil_append]
      exact value?_arr (h.separated?_append (.inl rfl) hreads (by omega) (by omega) rest)
    | obj h =>
      simp only [List.length_cons, List.length_append, List.length_nil] at hfuel
      simp only [List.cons_append, List.append_assoc, List.nil_append]
      exact value?_obj (h.separated?_append (.inr rfl) hreads.field (by omega) (by omega) rest)

/-! ## Whole texts -/

/-- The texts that hold one value are those of the grammar. -/
theorem ofChars?_eq_some_iff {cs : List Char} {v : Raw} :
    ofChars? cs = some v ↔ Document v cs := by
  constructor
  · intro h
    unfold ofChars? at h
    split at h
    · rename_i v' rest hfirst
      split at h
      · rename_i hblank
        cases h
        obtain ⟨used, rfl, hused⟩ := exists_spelling hfirst
        obtain ⟨gap, hgap, hrest⟩ := exists_gap rest
        rw [List.isEmpty_iff.mp hblank, List.append_nil] at hrest
        exact .mk hused (hrest ▸ hgap)
      · cases h
    · cases h
  · rintro (@⟨_, behind, @⟨_, gap, text, hgap, hspelling⟩, hbehind⟩)
    rw [List.append_assoc]
    have hlength : text.length ≤ (gap ++ (text ++ behind)).length + 1 := by
      simp only [List.length_append]
      omega
    have hfirst : first? (gap ++ (text ++ behind)) = some (v, behind) := by
      rw [first?, hgap.value?_append]
      exact hspelling.value?_append hlength fun _ _ => hbehind.endsNumber
    have hskip : (skipSpace behind).isEmpty = true := by
      have hall := hbehind.skipSpace_append []
      rw [List.append_nil] at hall
      rw [hall]
      rfl
    rw [ofChars?, hfirst]
    simp only [hskip, ↓reduceIte]

end SkillPlan.Json.Raw
