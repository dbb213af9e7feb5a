import SkillPlan.Proofs.Json.Grammar
import SkillPlan.Proofs.Json.Number

/-!
# Values are read back in every layout

The compact and the wide layout differ in the white space between the parts of a container. Every
layout writes texts of the grammar, so the reader takes them apart as they were put together. A value
whose objects have distinct keys and whose numbers are whole ones of 64 bits is read back from the
text of either, as long as no more containers are open at once than the reader allows:
`ofText?_toText` and `ofText?_toWideText`.
-/

namespace SkillPlan.Json

/-! ## Layouts -/

/-- What is put between the parts of a container: white space before each part at a level, and after
    the colon of a field. -/
structure Layout where
  gap : Nat → List Char
  colon : List Char
  gap_blank : ∀ level, Raw.Blank (gap level)
  colon_blank : Raw.Blank colon

namespace Layout

/-- No white space. -/
def tight : Layout where
  gap _ := []
  colon := []
  gap_blank _ _ hc := nomatch hc
  colon_blank _ hc := nomatch hc

/-- Every part on a line of its own. -/
def lines : Layout where
  gap := newLine
  colon := [' ']
  gap_blank level c hc := by
    obtain rfl | hc := List.mem_cons.mp hc
    · rfl
    · rw [List.eq_of_mem_replicate hc]
      rfl
  colon_blank c hc := by
    rw [List.mem_singleton.mp hc]
    rfl

@[simp] theorem gap_tight (level : Nat) : tight.gap level = [] := rfl
@[simp] theorem colon_tight : tight.colon = [] := rfl
@[simp] theorem gap_lines (level : Nat) : lines.gap level = newLine level := rfl
@[simp] theorem colon_lines : lines.colon = [' '] := rfl

mutual
/-- The text of a value that stands at a level. -/
def write (l : Layout) (level : Nat) : Json → List Char
  | .null => ['n', 'u', 'l', 'l']
  | .bool true => ['t', 'r', 'u', 'e']
  | .bool false => ['f', 'a', 'l', 's', 'e']
  | .num n => n.chars
  | .str s => quote s
  | .arr [] => ['[', ']']
  | .arr (x :: rest) => '[' :: l.writeItems (level + 1) (x :: rest) ++ l.gap level ++ [']']
  | .obj [] => ['\x7b', '\x7d']
  | .obj (f :: rest) =>
    '\x7b' :: l.writeFields (level + 1) (f :: rest) ++ l.gap level ++ ['\x7d']

/-- Items with commas between them. -/
def writeItems (l : Layout) (level : Nat) : List Json → List Char
  | [] => []
  | [x] => l.gap level ++ l.write level x
  | x :: y :: rest => l.gap level ++ l.write level x ++ ',' :: l.writeItems level (y :: rest)

/-- Fields with commas between them. -/
def writeFields (l : Layout) (level : Nat) : List (String × Json) → List Char
  | [] => []
  | [(k, v)] => l.gap level ++ quote k ++ ':' :: l.colon ++ l.write level v
  | (k, v) :: f :: rest =>
    l.gap level ++ quote k ++ ':' :: l.colon ++ l.write level v ++
      ',' :: l.writeFields level (f :: rest)
end

mutual
theorem write_tight (level : Nat) : ∀ v : Json, tight.write level v = compact v
  | .null => rfl
  | .bool true => rfl
  | .bool false => rfl
  | .num _ => rfl
  | .str _ => rfl
  | .arr [] => rfl
  | .arr (x :: rest) => by simp [write, compact, writeItems_tight (level + 1) (x :: rest)]
  | .obj [] => rfl
  | .obj (f :: rest) => by simp [write, compact, writeFields_tight (level + 1) (f :: rest)]

theorem writeItems_tight (level : Nat) :
    ∀ items : List Json, tight.writeItems level items = compactItems items
  | [] => rfl
  | [x] => write_tight level x
  | x :: y :: rest => by
    simp [writeItems, compactItems, write_tight level x, writeItems_tight level (y :: rest)]

theorem writeFields_tight (level : Nat) :
    ∀ fields : List (String × Json), tight.writeFields level fields = compactFields fields
  | [] => rfl
  | [(k, v)] => by simp [writeFields, compactFields, write_tight level v]
  | (k, v) :: f :: rest => by
    simp [writeFields, compactFields, write_tight level v, writeFields_tight level (f :: rest)]
end

mutual
theorem write_lines (level : Nat) : ∀ v : Json, lines.write level v = wide level v
  | .null => rfl
  | .bool true => rfl
  | .bool false => rfl
  | .num _ => rfl
  | .str _ => rfl
  | .arr [] => rfl
  | .arr (x :: rest) => by simp [write, wide, writeItems_lines (level + 1) (x :: rest)]
  | .obj [] => rfl
  | .obj (f :: rest) => by simp [write, wide, writeFields_lines (level + 1) (f :: rest)]

theorem writeItems_lines (level : Nat) :
    ∀ items : List Json, lines.writeItems level items = wideItems level items
  | [] => rfl
  | [x] => by simp [writeItems, wideItems, write_lines level x]
  | x :: y :: rest => by
    simp [writeItems, wideItems, write_lines level x, writeItems_lines level (y :: rest)]

theorem writeFields_lines (level : Nat) :
    ∀ fields : List (String × Json), lines.writeFields level fields = wideFields level fields
  | [] => rfl
  | [(k, v)] => by simp [writeFields, wideFields, write_lines level v]
  | (k, v) :: f :: rest => by
    simp [writeFields, wideFields, write_lines level v, writeFields_lines level (f :: rest)]
end

end Layout

/-! ## Texts of the grammar -/

/-- Values whose objects have no key twice and whose numbers are whole ones of 64 bits. -/
inductive Plain : Json → Prop
  | null : Plain .null
  | bool (b : Bool) : Plain (.bool b)
  | word {n : Nat} (h : n < wordBound) : Plain (.ofNat n)
  | str (s : String) : Plain (.str s)
  | arr {items : List Json} (hitems : ∀ x ∈ items, Plain x) : Plain (.arr items)
  | obj {fields : List (String × Json)} (hdistinct : (fields.map Prod.fst).Nodup)
      (hfields : ∀ f ∈ fields, Plain f.2) : Plain (.obj fields)

namespace Layout

variable (l : Layout) (level : Nat)

/-- The items of an array are written as the grammar has them, if each of them is. -/
theorem separated_writeItems {items : List Json}
    (hvalues : ∀ x ∈ items, (toRaw x).Spelling (l.write level x)) (hne : items ≠ [])
    {gap : List Char} (hgap : Raw.Blank gap) :
    Raw.Separated Raw.Item (itemsToRaw items) (l.writeItems level items ++ gap) := by
  induction items with
  | nil => exact absurd rfl hne
  | cons x more ih =>
    have hitem : Raw.Item (toRaw x) (l.gap level ++ l.write level x) :=
      .mk (l.gap_blank level) (hvalues x List.mem_cons_self)
    cases more with
    | nil => exact .last hitem hgap
    | cons y more =>
      have hmore := ih (fun z hz => hvalues z (List.mem_cons_of_mem _ hz)) (List.cons_ne_nil _ _)
      have hall := Raw.Separated.cons hitem Raw.Blank.nil hmore
      simpa [writeItems, itemsToRaw] using hall

/-- The fields of an object are written as the grammar has them, if the value of each of them is. -/
theorem separated_writeFields {fields : List (String × Json)}
    (hvalues : ∀ f ∈ fields, (toRaw f.2).Spelling (l.write level f.2)) (hne : fields ≠ [])
    {gap : List Char} (hgap : Raw.Blank gap) :
    Raw.Separated Raw.Field (fieldsToRaw fields) (l.writeFields level fields ++ gap) := by
  induction fields with
  | nil => exact absurd rfl hne
  | cons f more ih =>
    obtain ⟨k, v⟩ := f
    have hfield : Raw.Field (k.toList.flatMap escapeChar, toRaw v)
        (l.gap level ++ quote k ++ ':' :: (l.colon ++ l.write level v)) := by
      have hmk := Raw.Field.mk (l.gap_blank level) (body_escaped k.toList) Raw.Blank.nil
        (.mk l.colon_blank (hvalues (k, v) List.mem_cons_self))
      simpa [quote_append, escaped] using hmk
    cases more with
    | nil => simpa [writeFields, fieldsToRaw] using Raw.Separated.last hfield hgap
    | cons g more =>
      have hmore := ih (fun h hh => hvalues h (List.mem_cons_of_mem _ hh)) (List.cons_ne_nil _ _)
      have hall := Raw.Separated.cons hfield Raw.Blank.nil hmore
      simpa [writeFields, fieldsToRaw] using hall

end Layout

/-- Every layout writes texts of the grammar. -/
theorem Plain.spelling_write {v : Json} (hv : v.Plain) (l : Layout) (level : Nat) :
    (toRaw v).Spelling (l.write level v) := by
  induction hv generalizing level with
  | null => exact .null
  | bool b =>
    cases b with
    | false => exact .false
    | true => exact .true
  | @word n h => exact .num (Raw.numeral_digitChars n)
  | str s => exact .str (body_escaped s.toList)
  | @arr items hitems ih =>
    cases items with
    | nil => exact .noItems Raw.Blank.nil
    | cons x more =>
      have hall := l.separated_writeItems (level + 1) (fun y hy => ih y hy (level + 1))
        (List.cons_ne_nil x more) (l.gap_blank level)
      simpa [Layout.write, toRaw] using Raw.Spelling.arr hall
  | @obj fields hdistinct hfields ih =>
    cases fields with
    | nil => exact .noFields Raw.Blank.nil
    | cons f more =>
      have hall := l.separated_writeFields (level + 1) (fun g hg => ih g hg (level + 1))
        (List.cons_ne_nil f more) (l.gap_blank level)
      simpa [Layout.write, toRaw] using Raw.Spelling.obj hall

/-- A text that holds a value and nothing else. -/
theorem Plain.ofChars?_write {v : Json} (hv : v.Plain) (l : Layout) (level : Nat) :
    Raw.ofChars? (l.write level v) = some (toRaw v) := by
  have hread : Raw.value? _ (l.write level v ++ []) = some (toRaw v, []) :=
    (hv.spelling_write l level).value?_append (Nat.le_succ _) fun _ _ => trivial
  rw [List.append_nil] at hread
  simp [Raw.ofChars?, Raw.first?, hread, Raw.skipSpace]

theorem Plain.ofChars?_toText {v : Json} (hv : v.Plain) :
    Raw.ofChars? (toText v).toList = some (toRaw v) := by
  rw [toText, String.toList_ofList, ← Layout.write_tight 0]
  exact hv.ofChars?_write Layout.tight 0

theorem Plain.ofChars?_toWideText {v : Json} (hv : v.Plain) :
    Raw.ofChars? (toWideText v).toList = some (toRaw v) := by
  rw [toWideText, String.toList_ofList, ← Layout.write_lines 0]
  exact hv.ofChars?_write Layout.lines 0

/-! ## Meanings -/

theorem depth_le_depthItems {items : List Json} {x : Json} (hx : x ∈ items) :
    depth x ≤ depthItems items := by
  induction items with
  | nil => cases hx
  | cons y more ih =>
    rw [depthItems]
    cases List.mem_cons.mp hx with
    | inl hxy => subst hxy; exact Nat.le_max_left _ _
    | inr hmore => exact Nat.le_trans (ih hmore) (Nat.le_max_right _ _)

theorem depth_le_depthFields {fields : List (String × Json)} {f : String × Json}
    (hf : f ∈ fields) : depth f.2 ≤ depthFields fields := by
  induction fields with
  | nil => cases hf
  | cons g more ih =>
    rw [depthFields]
    cases List.mem_cons.mp hf with
    | inl hfg => subst hfg; exact Nat.le_max_left _ _
    | inr hmore => exact Nat.le_trans (ih hmore) (Nat.le_max_right _ _)

theorem itemsOfRaw?_itemsToRaw {levels : Nat} {items : List Json}
    (hvalues : ∀ x ∈ items, ofRaw? levels (toRaw x) = some x) :
    itemsOfRaw? levels (itemsToRaw items) = some items := by
  induction items with
  | nil => rfl
  | cons x more ih =>
    simp [itemsToRaw, itemsOfRaw?, hvalues x List.mem_cons_self,
      ih fun y hy => hvalues y (List.mem_cons_of_mem _ hy)]

/-- A value that was taken apart means itself, if it is not too deep. -/
theorem Plain.ofRaw?_toRaw {v : Json} (hv : v.Plain) {levels : Nat} (hdepth : v.depth ≤ levels) :
    ofRaw? levels (toRaw v) = some v := by
  induction hv generalizing levels with
  | null => rfl
  | bool b => rfl
  | word h => simp [ofNat, toRaw, ofRaw?, number?_toLiteral h]
  | str s => exact ofRaw?_toRaw_str levels s
  | @arr items hitems ih =>
    rw [depth] at hdepth
    obtain ⟨levels, rfl⟩ := Nat.exists_eq_add_of_le' (Nat.one_le_of_lt hdepth)
    have hvalues : ∀ x ∈ items, ofRaw? levels (toRaw x) = some x := fun x hx =>
      ih x hx (Nat.le_trans (depth_le_depthItems hx) (Nat.le_of_succ_le_succ hdepth))
    simp [toRaw, ofRaw?, itemsOfRaw?_itemsToRaw hvalues]
  | @obj fields hdistinct hfields ih =>
    rw [depth] at hdepth
    obtain ⟨levels, rfl⟩ := Nat.exists_eq_add_of_le' (Nat.one_le_of_lt hdepth)
    refine ofRaw?_toRaw_obj (fun f hf => ?_) hdistinct
    exact ih f hf (Nat.le_trans (depth_le_depthFields hf) (Nat.le_of_succ_le_succ hdepth))

/-- The compact text of a value means the value. -/
theorem Plain.ofText?_toText {v : Json} (hv : v.Plain) (hdepth : v.depth ≤ maxDepth) :
    ofText? (toText v) = some v := by
  rw [ofText?, hv.ofChars?_toText, Option.bind_some, hv.ofRaw?_toRaw hdepth]

/-- The wide text of a value means the value. -/
theorem Plain.ofText?_toWideText {v : Json} (hv : v.Plain) (hdepth : v.depth ≤ maxDepth) :
    ofText? (toWideText v) = some v := by
  rw [ofText?, hv.ofChars?_toWideText, Option.bind_some, hv.ofRaw?_toRaw hdepth]

end SkillPlan.Json
