import SkillPlan.Json.Decode
import SkillPlan.Proofs.Json.Lexeme

/-!
# Reading what was written

The text that stands between the quotes of a written string is read up to its closing quote,
whatever follows, and means the string. Objects are read part by part.
-/

namespace SkillPlan.Json

/-! ## Characters -/

/-- The text of some characters between quotes. -/
def escaped (cs : List Char) : List Char := cs.flatMap escapeChar

theorem escaped_cons (c : Char) (cs : List Char) : escaped (c :: cs) = escapeChar c ++ escaped cs :=
  List.flatMap_cons

theorem quote_append (s : String) (rest : List Char) :
    quote s ++ rest = '"' :: (escaped s.toList ++ '"' :: rest) := by
  change ('"' :: (escaped s.toList ++ ['"'])) ++ rest = _
  rw [List.cons_append, List.append_assoc, List.singleton_append]

/-- The ways in which a character is written: with a short escape, with its number in base 16, or as
    it is. -/
inductive Escape (c : Char) : List Char → Prop
  | short (e : Char) (hshort : Raw.isShortEscape e = true) (hmeans : shortEscape e = c) :
      Escape c ['\\', e]
  | numbered (hsmall : c.toNat < 0x20) :
      Escape c ('\\' :: 'u' :: '0' :: '0' :: twoHex c.toNat)
  | plain (hquote : c ≠ '"') (hbackslash : c ≠ '\\') (hlarge : ¬ c.toNat < 0x20) : Escape c [c]

theorem escapeChar_escape (c : Char) : Escape c (escapeChar c) := by
  unfold escapeChar
  split
  · exact .short '"' rfl rfl
  · exact .short '\\' rfl rfl
  · exact .short 'b' rfl rfl
  · exact .short 'f' rfl rfl
  · exact .short 'n' rfl rfl
  · exact .short 'r' rfl rfl
  · exact .short 't' rfl rfl
  · rename_i hquote hbackslash _ _ _ _ _
    split
    · exact .numbered ‹_›
    · exact .plain hquote hbackslash ‹_›

/-- The two digits of a small number mean the number. -/
theorem hexValue_twoHex : ∀ n < 0x20, ∃ a b, twoHex n = [a, b] ∧ Raw.isHex a = true ∧
    Raw.isHex b = true ∧ hexValue4 '0' '0' a b = n := by
  have h : ∀ n < 0x20, Raw.isHex (Nat.digitChar (n / 16 % 16)) = true ∧
      Raw.isHex (Nat.digitChar (n % 16)) = true ∧
      hexValue4 '0' '0' (Nat.digitChar (n / 16 % 16)) (Nat.digitChar (n % 16)) = n := by decide
  intro n hn
  obtain ⟨ha, hb, hvalue⟩ := h n hn
  exact ⟨_, _, rfl, ha, hb, hvalue⟩

/-- Each way to write a character may stand between quotes. -/
theorem Escape.body {c : Char} {text : List Char} (h : Escape c text) {cs : List Char}
    (hcs : Raw.Body cs) : Raw.Body (text ++ cs) := by
  cases h with
  | short e hshort hmeans => exact .short hshort hcs
  | numbered hsmall =>
    obtain ⟨a, b, htwo, ha, hb, -⟩ := hexValue_twoHex c.toNat hsmall
    have hzero : Raw.isHex '0' = true := rfl
    rw [htwo]
    exact .numbered (by simp [ha, hb, hzero]) hcs
  | plain hquote hbackslash hlarge => exact .plain hquote hbackslash hlarge hcs

/-- The body of a written string may stand between quotes. -/
theorem body_escaped (cs : List Char) : Raw.Body (escaped cs) := by
  induction cs with
  | nil => exact .nil
  | cons c cs ih =>
    rw [escaped_cons]
    exact (escapeChar_escape c).body ih

theorem unescape?_escapeChar (c : Char) (cs : List Char) :
    unescape? (escapeChar c ++ cs) = (unescape? cs).map (c :: ·) := by
  have hescape := escapeChar_escape c
  generalize escapeChar c = text at hescape
  cases hescape with
  | short e hshort hmeans =>
    have hu : e ≠ 'u' := by
      rintro rfl
      revert hshort
      decide
    simp [unescape?, hmeans, hu]
  | numbered hsmall =>
    obtain ⟨a, b, htwo, -, -, hvalue⟩ := hexValue_twoHex c.toNat hsmall
    -- a control character is no half of a pair
    have hnot : c.toNat < 0xD800 := by omega
    rw [htwo]
    rw [List.cons_append, unescape?.eq_def]
    simp [hvalue, hnot, Char.ofNat_toNat]
  | plain hquote hbackslash hlarge =>
    simp [unescape?, hbackslash]

/-- The body of a written string means the string. -/
theorem text?_escaped (s : String) : text? (escaped s.toList) = some s := by
  have h : ∀ cs, unescape? (escaped cs) = some cs := by
    intro cs
    induction cs with
    | nil => simp [escaped, unescape?]
    | cons c cs ih => rw [escaped_cons, unescape?_escapeChar, ih, Option.map_some]
  rw [text?, h, Option.map_some, String.ofList_toList]

/-! ## Parts of objects -/

namespace Raw

theorem skipSpace_of_not_space {c : Char} (hc : isSpace c = false) (cs : List Char) :
    skipSpace (c :: cs) = c :: cs := by
  rw [skipSpace, List.dropWhile_cons_of_neg (by simp [hc])]

theorem skipSpace_space (cs : List Char) : skipSpace (' ' :: cs) = skipSpace cs := rfl

theorem value?_space (fuel : Nat) (cs : List Char) : value? fuel (' ' :: cs) = value? fuel cs := by
  cases fuel with
  | zero => rfl
  | succ fuel => rw [value?, value?, skipSpace_space]

theorem field?_space (value : List Char → Option (Raw × List Char)) (cs : List Char) :
    field? value (' ' :: cs) = field? value cs := by
  rw [field?, field?, skipSpace_space]

/-- A written string is read as such. -/
theorem value?_quote (fuel : Nat) (s : String) (rest : List Char) :
    value? (fuel + 1) (quote s ++ rest) = some (.str (escaped s.toList), rest) := by
  rw [quote_append, value?, skipSpace_of_not_space rfl]
  simp only [(body_escaped s.toList).stringBody?_append, Option.map_some]

/-- A written key, a colon and a value. -/
theorem field?_quote (value : List Char → Option (Raw × List Char)) {cs rest : List Char} {x : Raw}
    (h : value cs = some (x, rest)) (key : String) :
    field? value (quote key ++ ':' :: cs) = some ((escaped key.toList, x), rest) := by
  rw [quote_append, field?, skipSpace_of_not_space rfl]
  simp only [(body_escaped key.toList).stringBody?_append, Option.bind_eq_bind, Option.bind_some,
    skipSpace_of_not_space (c := ':') rfl, h]
  rfl

variable {α : Type} {close : Char} {part : List Char → Option (α × List Char)}
  {cs more rest : List Char} {x : α} {xs : List α}

/-- The last part stands before the closing bracket. -/
theorem separated?_last (hspace : isSpace close = false) (h : part cs = some (x, close :: rest))
    (fuel : Nat) : separated? close part (fuel + 1) cs = some ([x], rest) := by
  rw [separated?, h]
  simp only [Option.bind_eq_bind, Option.bind_some, skipSpace_of_not_space hspace, ↓reduceIte]

/-- Any other part stands before a comma. -/
theorem separated?_comma (hclose : close ≠ ',') (h : part cs = some (x, ',' :: more)) {fuel : Nat}
    (hmore : separated? close part fuel more = some (xs, rest)) :
    separated? close part (fuel + 1) cs = some (x :: xs, rest) := by
  rw [separated?, h]
  simp only [Option.bind_eq_bind, Option.bind_some, skipSpace_of_not_space (c := ',') rfl,
    hclose.symm, ↓reduceIte, hmore, Option.map_some]

/-- An object with at least one field. -/
theorem value?_obj {fuel : Nat} {fields : List (List Char × Raw)}
    (h : separated? '\x7d' (field? (value? fuel)) (fuel + 1) cs = some (fields, rest)) :
    value? (fuel + 1) ('\x7b' :: cs) = some (.obj fields, rest) := by
  rw [value?, skipSpace_of_not_space rfl]
  simp only
  split
  · -- a closing bracket is no field
    rename_i hclose
    rw [separated?, field?, hclose] at h
    cases h
  · rw [h, Option.map_some]

/-- The fields of an object as the compact layout writes them, if the values are read back. -/
theorem separated?_compactFields {value : List Char → Option (Raw × List Char)}
    {fields : List (String × Json)}
    (hvalues : ∀ f ∈ fields, ∀ c rest, c = ',' ∨ c = '\x7d' →
      value (compact f.2 ++ c :: rest) = some (toRaw f.2, c :: rest))
    (hne : fields ≠ []) {fuel : Nat} (hfuel : fields.length ≤ fuel) (rest : List Char) :
    separated? '\x7d' (field? value) fuel (compactFields fields ++ '\x7d' :: rest) =
      some (fieldsToRaw fields, rest) := by
  induction fields generalizing fuel with
  | nil => exact absurd rfl hne
  | cons f more ih =>
    obtain ⟨k, v⟩ := f
    obtain ⟨fuel, rfl⟩ := Nat.exists_eq_add_of_le' (Nat.one_le_of_lt hfuel)
    have hvalue := hvalues (k, v) List.mem_cons_self
    cases more with
    | nil =>
      rw [compactFields, List.append_assoc, List.cons_append,
        separated?_last rfl (field?_quote value (hvalue _ rest (.inr rfl)) k)]
      rfl
    | cons g more =>
      have hmore := ih (fun f hf => hvalues f (List.mem_cons_of_mem _ hf)) (List.cons_ne_nil _ _)
        (Nat.le_of_succ_le_succ hfuel)
      have hfirst := field?_quote value (hvalue ',' (compactFields (g :: more) ++ '\x7d' :: rest)
        (.inl rfl)) k
      rw [compactFields]
      simp only [List.append_assoc, List.cons_append]
      rw [separated?_comma (by decide) hfirst hmore]
      rfl

end Raw

/-! ## Meanings -/

theorem putField_of_not_mem {key : String} {fields : List (String × Json)}
    (h : key ∉ fields.map Prod.fst) (value : Json) :
    putField key value fields = fields ++ [(key, value)] := by
  induction fields with
  | nil => rfl
  | cons f rest ih =>
    obtain ⟨k, v⟩ := f
    rw [List.map_cons, List.mem_cons, not_or] at h
    rw [putField, if_neg (Ne.symm h.1), ih h.2, List.cons_append]

/-- The fields of an object mean what was written, if no two keys are the same. -/
theorem fieldsOfRaw?_fieldsToRaw {levels : Nat} {fields done : List (String × Json)}
    (hvalues : ∀ f ∈ fields, ofRaw? levels (toRaw f.2) = some f.2)
    (hdistinct : ((done ++ fields).map Prod.fst).Nodup) :
    fieldsOfRaw? levels (fieldsToRaw fields) done = some (done ++ fields) := by
  induction fields generalizing done with
  | nil => rw [fieldsToRaw, fieldsOfRaw?, List.append_nil]
  | cons f rest ih =>
    obtain ⟨k, v⟩ := f
    -- the key is new, so the field is put behind those that were read before
    have hfresh : k ∉ done.map Prod.fst := by
      rw [List.map_append, List.nodup_append] at hdistinct
      exact fun hmem => hdistinct.2.2 k hmem k List.mem_cons_self rfl
    have hrest : fieldsOfRaw? levels (fieldsToRaw rest) (done ++ [(k, v)]) =
        some (done ++ [(k, v)] ++ rest) :=
      ih (fun f hf => hvalues f (List.mem_cons_of_mem _ hf))
        (by rwa [List.append_assoc, List.singleton_append])
    rw [fieldsToRaw, fieldsOfRaw?]
    change (text? (escaped k.toList)).bind _ = _
    rw [text?_escaped, Option.bind_some]
    simp only [Option.bind_eq_bind, hvalues (k, v) List.mem_cons_self, Option.bind_some]
    rw [putField_of_not_mem hfresh, hrest, List.append_assoc, List.singleton_append]

theorem ofRaw?_toRaw_str (levels : Nat) (s : String) :
    ofRaw? levels (toRaw (.str s)) = some (.str s) := by
  rw [toRaw, ofRaw?]
  change (text? (escaped s.toList)).map _ = _
  rw [text?_escaped, Option.map_some]

/-- An object means what was written, if its values do and no two of its keys are the same. -/
theorem ofRaw?_toRaw_obj {levels : Nat} {fields : List (String × Json)}
    (hvalues : ∀ f ∈ fields, ofRaw? levels (toRaw f.2) = some f.2)
    (hdistinct : (fields.map Prod.fst).Nodup) :
    ofRaw? (levels + 1) (toRaw (.obj fields)) = some (.obj fields) := by
  rw [toRaw, ofRaw?, if_neg (Nat.succ_ne_zero levels), Nat.add_sub_cancel,
    fieldsOfRaw?_fieldsToRaw hvalues (by rwa [List.nil_append]), List.nil_append, Option.map_some]

end SkillPlan.Json
