import SkillPlan.Planner.Answer
import SkillPlan.Proofs.Json.Grammar

/-!
# Commas before closing brackets

The scanner that drops commas knows of JSON only what a string is and which brackets close. That is
enough: it leaves every text of the grammar alone, since what follows a comma there begins a part,
and it takes the commas away again that were put before closing brackets.
-/

namespace SkillPlan

open Json (Raw)
open Json.Raw (Blank Body Spelling Item Field Separated)

namespace Planner.Answer

/-! ## What the scanner looks for behind a comma -/

theorem isBlank_of_isSpace {c : Char} (h : Raw.isSpace c = true) : Text.isBlank c = true := by
  simp only [Raw.isSpace, Bool.or_eq_true, beq_iff_eq] at h
  obtain ((rfl | rfl) | rfl) | rfl := h <;> rfl

theorem closesNext_cons_of_blank {c : Char} (hc : Text.isBlank c = true) (cs : List Char) :
    closesNext (c :: cs) = closesNext cs := by
  rw [closesNext, List.dropWhile_cons_of_pos hc, closesNext]

theorem closesNext_cons {c : Char} (hc : Text.isBlank c = false) (cs : List Char) :
    closesNext (c :: cs) = (c == '\x7d' || c == ']') := by
  rw [closesNext, List.dropWhile_cons_of_neg (by simp [hc])]

theorem closesNext_append {gap : List Char} (hgap : Blank gap) (cs : List Char) :
    closesNext (gap ++ cs) = closesNext cs := by
  rw [closesNext, List.dropWhile_append_of_pos fun c hc => isBlank_of_isSpace (hgap c hc),
    closesNext]

/-- A value does not begin with a closing bracket. -/
theorem closesNext_spelling {v : Raw} {text : List Char} (h : Spelling v text) (cs : List Char) :
    closesNext (text ++ cs) = false := by
  cases h with
  | num h =>
    obtain ⟨c, more, rfl, hc⟩ := h.exists_cons
    obtain rfl | hdigit := hc
    · rfl
    · simp only [Char.isDigit, Bool.and_eq_true, decide_eq_true_eq] at hdigit
      have hlow : 48 ≤ c.toNat := hdigit.1
      have hhigh : c.toNat ≤ 57 := hdigit.2
      have hblank : Text.isBlank c = false := by
        simp only [Text.isBlank, Bool.or_eq_false_iff, Bool.and_eq_false_iff,
          decide_eq_false_iff_not, beq_eq_false_iff_ne]
        omega
      have hbrackets : c ≠ '\x7d' ∧ c ≠ ']' := by
        constructor <;> rintro rfl <;> exact absurd hhigh (by decide)
      rw [List.cons_append, closesNext_cons hblank]
      simp [hbrackets]
  | _ => rfl

theorem closesNext_item {v : Raw} {text : List Char} (h : Item v text) (cs : List Char) :
    closesNext (text ++ cs) = false := by
  cases h with
  | mk hgap h => rw [List.append_assoc, closesNext_append hgap, closesNext_spelling h]

theorem closesNext_field {f : List Char × Raw} {text : List Char} (h : Field f text)
    (cs : List Char) : closesNext (text ++ cs) = false := by
  cases h with
  | mk hgap hkey hcolon h =>
    rw [List.append_assoc, closesNext_append hgap]
    rfl

theorem closesNext_separated {α : Type} {part : α → List Char → Prop}
    (hpart : ∀ x text, part x text → ∀ cs, closesNext (text ++ cs) = false) {xs : List α}
    {text : List Char} (h : Separated part xs text) (cs : List Char) :
    closesNext (text ++ cs) = false := by
  cases h with
  | last h hgap => rw [List.append_assoc, hpart _ _ h]
  | cons h hgap hmore => rw [List.append_assoc, hpart _ _ h]

/-! ## Texts that the scanner leaves alone -/

theorem dropCommas_outside (c : Char) (rest : List Char) :
    dropCommas .outside (c :: rest) =
      if c = ',' ∧ closesNext rest then dropCommas .outside rest
      else c :: dropCommas (if c = '"' then .inside else .outside) rest := by
  rw [dropCommas]

/-- The scanner goes through the text without dropping a comma and is outside strings behind it,
    whatever follows. -/
def Kept (text : List Char) : Prop :=
  ∀ cs, dropCommas .outside (text ++ cs) = text ++ dropCommas .outside cs

namespace Kept

theorem nil : Kept [] := fun _ => rfl

theorem append {text more : List Char} (h : Kept text) (hmore : Kept more) :
    Kept (text ++ more) := by
  intro cs
  rw [List.append_assoc, h, hmore, List.append_assoc]

theorem char {c : Char} (hcomma : c ≠ ',') (hquote : c ≠ '"') : Kept [c] := by
  intro cs
  rw [List.singleton_append, dropCommas_outside, if_neg fun h => hcomma h.1, if_neg hquote]
  rfl

theorem of_plain {text : List Char} (h : ∀ c ∈ text, c ≠ ',' ∧ c ≠ '"') : Kept text := by
  induction text with
  | nil => exact nil
  | cons c text ih =>
    obtain ⟨hcomma, hquote⟩ := h c List.mem_cons_self
    exact (char hcomma hquote).append (ih fun d hd => h d (List.mem_cons_of_mem _ hd))

theorem blank {gap : List Char} (h : Blank gap) : Kept gap := by
  refine of_plain fun c hc => ?_
  have hspace := h c hc
  constructor <;> rintro rfl <;> cases hspace

/-- The digits of an escape neither end the string nor begin another escape. -/
theorem isHex_ne {c : Char} (h : Raw.isHex c = true) : c ≠ '\\' ∧ c ≠ '"' := by
  constructor <;> rintro rfl <;> revert h <;> decide

theorem dropCommas_body {body : List Char} (h : Body body) (cs : List Char) :
    dropCommas .inside (body ++ '"' :: cs) = body ++ '"' :: dropCommas .outside cs := by
  induction h with
  | nil => rfl
  | plain hquote hbackslash hlarge h ih => simp [dropCommas, hquote, hbackslash, ih]
  | short he h ih => simp [dropCommas, ih]
  | numbered hdigits h ih =>
    simp only [Bool.and_eq_true] at hdigits
    obtain ⟨⟨⟨ha, hb⟩, hc⟩, hd⟩ := hdigits
    simp [dropCommas, isHex_ne ha, isHex_ne hb, isHex_ne hc, isHex_ne hd, ih]

/-- Commas in a string stay. -/
theorem string {body : List Char} (h : Body body) : Kept ('"' :: (body ++ ['"'])) := by
  intro cs
  have hinside := dropCommas_body h cs
  rw [List.cons_append, dropCommas_outside, if_neg (by simp), if_pos rfl, List.append_assoc,
    List.singleton_append, hinside, List.cons_append, List.append_assoc, List.singleton_append]

/-- So does a comma that has no closing bracket behind it. -/
theorem comma {more : List Char} (h : Kept more) (hopens : ∀ cs, closesNext (more ++ cs) = false) :
    Kept (',' :: more) := by
  intro cs
  rw [List.cons_append, dropCommas_outside, if_neg (by simp [hopens]), if_neg (by decide), h]
  rfl

theorem separated {α : Type} {part : α → List Char → Prop}
    (hopens : ∀ x text, part x text → ∀ cs, closesNext (text ++ cs) = false) {length : Nat}
    (hpart : ∀ x text, part x text → text.length ≤ length → Kept text) {xs : List α}
    {text : List Char} (h : Separated part xs text) (hlength : text.length ≤ length) :
    Kept text := by
  induction h with
  | last h hgap =>
    rw [List.length_append] at hlength
    exact (hpart _ _ h (by omega)).append (blank hgap)
  | cons h hgap hmore ih =>
    simp only [List.length_append, List.length_cons] at hlength
    have hcomma := (ih (by omega)).comma (closesNext_separated hopens hmore)
    exact (hpart _ _ h (by omega)).append ((blank hgap).append hcomma)

theorem digits {ds : List Char} (h : ∀ c ∈ ds, c.isDigit = true) : Kept ds := by
  refine of_plain fun c hc => ?_
  have hdigit := h c hc
  constructor <;> rintro rfl <;> cases hdigit

theorem numeral {n : Json.Literal} {text : List Char} (h : Raw.Numeral n text) : Kept text := by
  have hunsigned : ∀ {negative text}, Raw.Unsigned negative n text → Kept text := by
    rintro negative _ ⟨hwhole, hfraction, hexponent⟩
    refine (digits hwhole.isDigit).append (.append ?_ ?_)
    · cases hfraction with
      | absent => exact nil
      | present hds => exact (char (c := '.') (by decide) (by decide)).append (digits hds.isDigit)
    · cases hexponent with
      | absent => exact nil
      | @present e _ _ _ he hsign hds =>
        have hletter : Kept [e] := by obtain rfl | rfl := he <;> exact char (by decide) (by decide)
        refine hletter.append (.append ?_ (digits hds.isDigit))
        cases hsign with
        | absent => exact nil
        | plus => exact char (by decide) (by decide)
        | minus => exact char (by decide) (by decide)
  cases h with
  | positive h => exact hunsigned h
  | negative h => exact (char (c := '-') (by decide) (by decide)).append (hunsigned h)

/-- Brackets around a text that the scanner leaves alone. -/
theorem brackets {opening close : Char} (hopening : opening = '[' ∨ opening = '\x7b')
    (hclose : close = ']' ∨ close = '\x7d') {text : List Char} (h : Kept text) :
    Kept (opening :: (text ++ [close])) := by
  have hfirst : Kept [opening] := by
    obtain rfl | rfl := hopening <;> exact char (by decide) (by decide)
  have hlast : Kept [close] := by
    obtain rfl | rfl := hclose <;> exact char (by decide) (by decide)
  exact hfirst.append (h.append hlast)

/-- The scanner leaves the text of every value alone. -/
theorem spelling {v : Raw} {text : List Char} (h : Spelling v text) : Kept text := by
  -- the texts of the parts of a container are shorter than its own
  suffices hall : ∀ length, ∀ {v text}, Spelling v text → text.length ≤ length → Kept text from
    hall _ h (Nat.le_refl _)
  intro length
  induction length with
  | zero =>
    intro v text h hlength
    exact absurd (List.length_eq_zero_iff.mp (Nat.le_zero.mp hlength)) h.ne_nil
  | succ length ih =>
    intro v text h hlength
    have hitem : ∀ v text, Item v text → text.length ≤ length → Kept text := by
      rintro _ _ ⟨hgap, h⟩ hlength
      rw [List.length_append] at hlength
      exact (blank hgap).append (ih h (by omega))
    have hfield : ∀ f text, Field f text → text.length ≤ length → Kept text := by
      rintro _ _ (@⟨key, v, gap, colon, text, hgap, hkey, hcolon, h⟩) hlength
      simp only [List.length_append, List.length_cons] at hlength
      have hvalue := (char (c := ':') (by decide) (by decide)).append (hitem v text h (by omega))
      have hall := (blank hgap).append ((string hkey).append ((blank hcolon).append hvalue))
      simpa using hall
    cases h with
    | null => exact of_plain (by simp)
    | true => exact of_plain (by simp)
    | false => exact of_plain (by simp)
    | num h => exact numeral h
    | str h => exact string h
    | noItems hgap => exact brackets (.inl rfl) (.inl rfl) (blank hgap)
    | noFields hgap => exact brackets (.inr rfl) (.inr rfl) (blank hgap)
    | arr h =>
      simp only [List.length_cons, List.length_append, List.length_nil] at hlength
      exact brackets (.inl rfl) (.inl rfl)
        (separated (fun _ _ => closesNext_item) hitem h (by omega))
    | obj h =>
      simp only [List.length_cons, List.length_append, List.length_nil] at hlength
      exact brackets (.inr rfl) (.inr rfl)
        (separated (fun _ _ => closesNext_field) hfield h (by omega))

theorem document {v : Raw} {text : List Char} (h : Raw.Document v text) : Kept text := by
  obtain @⟨_, gap, ⟨hfront, hspelling⟩, hgap⟩ := h
  exact ((blank hfront).append (spelling hspelling)).append (blank hgap)

theorem dropCommas_eq {text : List Char} (h : Kept text) : dropCommas .outside text = text := by
  have hall := h []
  rwa [List.append_nil, dropCommas, List.append_nil] at hall

theorem withoutFinalCommas_eq {s : String} (h : Kept s.toList) : withoutFinalCommas s = s := by
  rw [withoutFinalCommas, h.dropCommas_eq, String.ofList_toList]

end Kept

/-! ## Commas that were put in -/

/-- The text `u` is `t` with one comma in front of some of the closing brackets that do not stand in
    strings. Between the comma and the bracket there may be white space. -/
inductive WithFinalCommas : List Char → List Char → Prop
  | nil : WithFinalCommas [] []
  | char {c : Char} {t u : List Char} (hquote : c ≠ '"') (h : WithFinalCommas t u) :
      WithFinalCommas (c :: t) (c :: u)
  | string {body t u : List Char} (hbody : Body body) (h : WithFinalCommas t u) :
      WithFinalCommas ('"' :: (body ++ ['"']) ++ t) ('"' :: (body ++ ['"']) ++ u)
  | comma {gap t u : List Char} {close : Char} (hgap : Blank gap)
      (hclose : close = ']' ∨ close = '\x7d') (h : WithFinalCommas t u) :
      WithFinalCommas (gap ++ close :: t) (',' :: (gap ++ close :: u))

theorem length_dropCommas_le (mode : Mode) (cs : List Char) :
    (dropCommas mode cs).length ≤ cs.length := by
  fun_induction dropCommas mode cs with
  | case1 => exact Nat.le_refl _
  | case2 c rest ih => exact Nat.succ_le_succ ih
  | case3 c rest ih => exact Nat.succ_le_succ ih
  | case4 c rest hdropped ih => exact Nat.le_succ_of_le ih
  | case5 c rest hkept ih => exact Nat.succ_le_succ ih

namespace WithFinalCommas

/-- Where a closing bracket comes next in the longer text, it does so in the shorter one. -/
theorem closesNext_of {t u : List Char} (h : WithFinalCommas t u) (hu : closesNext u = true) :
    closesNext t = true := by
  induction h with
  | nil => exact hu
  | @char c t u hquote h ih =>
    cases hc : Text.isBlank c with
    | true =>
      rw [closesNext_cons_of_blank hc] at hu ⊢
      exact ih hu
    | false =>
      rw [closesNext_cons hc] at hu ⊢
      exact hu
  | string hbody h ih => cases hu
  | comma hgap hclose h ih => cases hu

/-- The scanner takes the commas away that were put into a text in which it finds none to drop. -/
theorem dropCommas_eq {t u : List Char} (h : WithFinalCommas t u)
    (ht : dropCommas .outside t = t) : dropCommas .outside u = t := by
  induction h with
  | nil => rfl
  | @char c t u hquote h ih =>
    rw [dropCommas_outside, if_neg hquote] at ht
    split at ht
    · -- a text from which a comma is dropped is longer than what is left
      have hlength := congrArg List.length ht
      have hle := length_dropCommas_le .outside t
      rw [List.length_cons] at hlength
      omega
    · rename_i hkept
      have hkept' : ¬ (c = ',' ∧ closesNext u = true) :=
        fun hu => hkept ⟨hu.1, h.closesNext_of hu.2⟩
      rw [dropCommas_outside, if_neg hquote, if_neg hkept', ih (List.cons.inj ht).2]
  | string hbody h ih =>
    rw [Kept.string hbody] at ht ⊢
    rw [ih (List.append_cancel_left ht)]
  | @comma gap t u close hgap hclose h ih =>
    have hkept : Kept (gap ++ [close]) := by
      refine (Kept.blank hgap).append ?_
      obtain rfl | rfl := hclose <;> exact .char (by decide) (by decide)
    have hcloses : closesNext (gap ++ close :: u) = true := by
      rw [closesNext_append hgap]
      obtain rfl | rfl := hclose <;> rfl
    rw [List.append_cons, hkept] at ht
    rw [dropCommas_outside, if_pos ⟨rfl, hcloses⟩, List.append_cons, hkept,
      ih (List.append_cancel_left ht), ← List.append_cons]

end WithFinalCommas

/-- No comma is dropped from a text that holds a value, and of a text that is one except for single
    commas before closing brackets just these commas are dropped. -/
theorem withoutFinalCommas_of_document {t : String} {v : Raw} (ht : Raw.Document v t.toList) :
    withoutFinalCommas t = t ∧
      ∀ u : String, WithFinalCommas t.toList u.toList → withoutFinalCommas u = t := by
  have hkept := Kept.document ht
  refine ⟨hkept.withoutFinalCommas_eq, fun u hu => ?_⟩
  rw [withoutFinalCommas, hu.dropCommas_eq hkept.dropCommas_eq, String.ofList_toList]

/-- A comma and an escaped quote in a key, white space on either side of the commas that were put
    in, and one bracket behind another. -/
theorem withoutFinalCommas_of_document_quoted :
    let t := "\x7b\"a\\\",\x7d\": [1 ] \x7d"
    let u := "\x7b\"a\\\",\x7d\": [1, ] ,\x7d"
    (∃ v, Raw.Document v t.toList) ∧ WithFinalCommas t.toList u.toList ∧
      withoutFinalCommas t = t ∧ withoutFinalCommas u = t := by
  intro t u
  have hsome : (Raw.ofChars? t.toList).isSome = true := by decide
  obtain ⟨v, hv⟩ := Option.isSome_iff_exists.mp hsome
  have ht : Raw.Document v t.toList := Raw.ofChars?_eq_some_iff.mp hv
  let key := ['a', '\\', '"', ',', '\x7d']
  have hkey : Body key :=
    .plain (by decide) (by decide) (by decide) <| .short rfl <|
      .plain (by decide) (by decide) (by decide) <|
        .plain (by decide) (by decide) (by decide) .nil
  have hspace : Blank [' '] := fun c hc => by rw [List.mem_singleton.mp hc]; rfl
  have htu : WithFinalCommas t.toList u.toList := by
    have htext : t.toList = '\x7b' :: ('"' :: (key ++ ['"']) ++
        [':', ' ', '[', '1', ' ', ']', ' ', '\x7d']) := by decide
    have htext' : u.toList = '\x7b' :: ('"' :: (key ++ ['"']) ++
        [':', ' ', '[', '1', ',', ' ', ']', ' ', ',', '\x7d']) := by decide
    rw [htext, htext']
    refine .char (by decide) (.string hkey ?_)
    refine .char (by decide) <| .char (by decide) <| .char (by decide) <| .char (by decide) ?_
    exact .comma hspace (.inl rfl) (.char (by decide) (.comma .nil (.inr rfl) .nil))
  obtain ⟨hkept, hdropped⟩ := withoutFinalCommas_of_document ht
  exact ⟨⟨v, ht⟩, htu, hkept, hdropped u htu⟩

end Planner.Answer

end SkillPlan
