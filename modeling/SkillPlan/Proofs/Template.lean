import Mathlib.Data.List.Nodup
import SkillPlan.Proofs.Text
import SkillPlan.Template

/-!
# The names of a prompt

A prompt lists the names of its placeholders once each: every placeholder has its name in the list,
be it in another case, and no two names in the list are the same. What is filled in for a
placeholder stands in the text as it is.
-/

namespace SkillPlan.Template

open Text (fold takeWhile_run dropWhile_run isWord_of_isBlank)

/-- The names with one more at the end, unless the same name is there already. -/
def keepNew (seen : List String) (name : String) : List String :=
  if seen.any (Text.sameName · name) then seen else seen ++ [name]

theorem distinctNames_eq (names : List String) : distinctNames names = names.foldl keepNew [] := rfl

theorem any_sameName_iff {seen : List String} {name : String} :
    seen.any (Text.sameName · name) = true ↔ fold name ∈ seen.map fold := by
  simp only [List.any_eq_true, Text.sameName_iff, List.mem_map]

theorem mem_keepNew (seen : List String) (name key : String) :
    key ∈ (keepNew seen name).map fold ↔ key ∈ seen.map fold ∨ key = fold name := by
  unfold keepNew
  split
  · rename_i hmem
    rw [any_sameName_iff] at hmem
    constructor
    · exact .inl
    · rintro (hkey | rfl)
      · exact hkey
      · exact hmem
  · simp only [List.map_append, List.map_cons, List.map_nil, List.mem_append, List.mem_singleton]

theorem nodup_keepNew {seen : List String} (h : (seen.map fold).Nodup) (name : String) :
    ((keepNew seen name).map fold).Nodup := by
  unfold keepNew
  split
  · exact h
  · rename_i hmem
    rw [any_sameName_iff] at hmem
    simp only [List.map_append, List.map_cons, List.map_nil, List.nodup_append]
    refine ⟨h, by simp, ?_⟩
    intro key hkey key' hkey' heq
    rw [heq, List.mem_singleton.mp hkey'] at hkey
    exact hmem hkey

/-- Every name is kept, be it in another case. -/
theorem mem_distinctNames (names : List String) (key : String) :
    key ∈ (distinctNames names).map fold ↔ key ∈ names.map fold := by
  have hfold : ∀ seen : List String, key ∈ (names.foldl keepNew seen).map fold ↔
      key ∈ seen.map fold ∨ key ∈ names.map fold := by
    induction names with
    | nil => simp
    | cons name rest ih =>
      intro seen
      rw [List.foldl_cons, ih, mem_keepNew, List.map_cons, List.mem_cons, or_assoc]
  simpa only [distinctNames_eq, List.map_nil, List.not_mem_nil, false_or] using hfold []

/-- No two names that are kept are the same. -/
theorem nodup_distinctNames (names : List String) : ((distinctNames names).map fold).Nodup := by
  have hfold : ∀ seen : List String, (seen.map fold).Nodup →
      ((names.foldl keepNew seen).map fold).Nodup := by
    induction names with
    | nil => exact fun seen hseen => hseen
    | cons name rest ih => exact fun seen hseen => ih _ (nodup_keepNew hseen name)
  exact hfold [] List.nodup_nil

/-- Beside a name, those that are the same as it are not needed to tell which names are new. -/
theorem keepNew_cons (name : String) (seen : List String) (next : String) :
    keepNew (name :: seen.filter (!Text.sameName · name)) next =
      name :: (keepNew seen next).filter (!Text.sameName · name) := by
  by_cases hsame : fold next = fold name
  · have hkept : keepNew (name :: seen.filter (!Text.sameName · name)) next =
        name :: seen.filter (!Text.sameName · name) :=
      if_pos (any_sameName_iff.mpr (hsame ▸ List.mem_cons_self))
    have hleft : [next].filter (!Text.sameName · name) = [] := by simp [Text.sameName, hsame]
    rw [hkept, keepNew]
    split
    · rfl
    · rw [List.filter_append, hleft, List.append_nil]
  · have hmem : fold next ∈ (name :: seen.filter (!Text.sameName · name)).map fold ↔
        fold next ∈ seen.map fold := by
      simp only [List.map_cons, List.mem_cons, hsame, false_or, List.mem_map, List.mem_filter,
        Text.sameName, Bool.not_eq_true', beq_eq_false_iff_ne]
      constructor
      · rintro ⟨m, ⟨hm, -⟩, hfold⟩
        exact ⟨m, hm, hfold⟩
      · rintro ⟨m, hm, hfold⟩
        exact ⟨m, ⟨hm, hfold ▸ hsame⟩, hfold⟩
    have hright : [next].filter (!Text.sameName · name) = [next] := by simp [Text.sameName, hsame]
    simp only [keepNew, any_sameName_iff, hmem]
    split
    · rfl
    · rw [List.filter_append, hright, List.cons_append]

/-- The first name is kept as it is, and the same name is left out further on. -/
theorem distinctNames_cons (name : String) (names : List String) :
    distinctNames (name :: names) =
      name :: (distinctNames names).filter (!Text.sameName · name) := by
  have hfold : ∀ seen : List String,
      names.foldl keepNew (name :: seen.filter (!Text.sameName · name)) =
        name :: (names.foldl keepNew seen).filter (!Text.sameName · name) := by
    induction names with
    | nil => exact fun seen => rfl
    | cons next rest ih =>
      intro seen
      rw [List.foldl_cons, List.foldl_cons, keepNew_cons, ih]
  exact hfold []

/-! ## Texts of pieces -/

theorem fill_append (value : String → String) (ps qs : List Piece) :
    fill value (ps ++ qs) = fill value ps ++ fill value qs := by
  rw [fill, List.flatMap_append, String.ofList_append]
  rfl

theorem fill_hole (value : String → String) (name : String) (ps : List Piece) :
    fill value (.hole name :: ps) = value name ++ fill value ps := by
  rw [fill, List.flatMap_cons, String.ofList_append, String.ofList_toList]
  rfl

theorem fill_literals (value : String → String) (cs : List Char) :
    fill value (cs.map .literal) = String.ofList cs := by
  rw [fill, List.flatMap_map]
  exact congrArg String.ofList (List.flatMap_singleton' cs)

/-- A text of pieces depends on the values of its placeholders only. -/
theorem fill_congr {value value' : String → String} {ps : List Piece}
    (h : ∀ name ∈ holes ps, value name = value' name) : fill value ps = fill value' ps := by
  unfold fill
  congr 1
  refine List.flatMap_congr fun piece hpiece => ?_
  cases piece with
  | literal c => rfl
  | hole name =>
    have hname : name ∈ holes ps := List.mem_filterMap.mpr ⟨_, hpiece, rfl⟩
    exact congrArg String.toList (h name hname)

theorem holes_hole (name : String) (ps : List Piece) :
    holes (.hole name :: ps) = name :: holes ps := rfl

theorem holes_append (ps qs : List Piece) : holes (ps ++ qs) = holes ps ++ holes qs :=
  List.filterMap_append

theorem holes_literals (cs : List Char) : holes (cs.map .literal) = [] := by
  rw [holes, List.filterMap_map]
  exact List.filterMap_eq_nil_iff.mpr fun _ _ => rfl

/-! ## Placeholders of a prompt -/

/-- A placeholder of a prompt as it is written: the name, and the white space before and after it. -/
structure Placeholder where
  name : String
  before : String := ""
  after : String := ""
  name_ne : name ≠ "" := by decide
  name_word : name.toList.all Text.isWord = true := by decide +kernel
  before_blank : before.toList.all Text.isBlank = true := by decide
  after_blank : after.toList.all Text.isBlank = true := by decide

namespace Placeholder

/-- The text of a placeholder. -/
def text (h : Placeholder) : String :=
  "\x7b\x7b" ++ h.before ++ "$" ++ h.name ++ h.after ++ "\x7d\x7d"

/-- The characters behind the opening braces. -/
def body (h : Placeholder) : List Char :=
  h.before.toList ++ '$' :: (h.name.toList ++ (h.after.toList ++ ['\x7d', '\x7d']))

theorem toList_text (h : Placeholder) : h.text.toList = '\x7b' :: '\x7b' :: h.body := by
  simp [text, body]

theorem body_ne_nil (h : Placeholder) : h.body ≠ [] := by simp [body]

theorem isWord_name (h : Placeholder) : ∀ c ∈ h.name.toList, Text.isWord c = true :=
  List.all_eq_true.mp h.name_word

theorem isBlank_before (h : Placeholder) : ∀ c ∈ h.before.toList, Text.isBlank c = true :=
  List.all_eq_true.mp h.before_blank

theorem isBlank_after (h : Placeholder) : ∀ c ∈ h.after.toList, Text.isBlank c = true :=
  List.all_eq_true.mp h.after_blank

/-- A brace is opened at the beginning of a placeholder only. -/
theorem brace_not_mem_body (h : Placeholder) : '\x7b' ∉ h.body := by
  have hblank : ∀ {cs : List Char}, (∀ c ∈ cs, Text.isBlank c = true) → '\x7b' ∉ cs :=
    fun hcs hmem => absurd (hcs _ hmem) (by decide)
  have hname : '\x7b' ∉ h.name.toList := fun hmem => absurd (h.isWord_name _ hmem) (by decide +kernel)
  simp [body, hblank h.isBlank_before, hblank h.isBlank_after, hname]

end Placeholder

/-- A placeholder is read up to its closing braces, whatever follows. -/
theorem promptHole?_placeholder (h : Placeholder) (rest : List Char) :
    promptHole? (h.text.toList ++ rest) = some (h.name.toList, rest) := by
  have hopening : (h.before.toList ++ '$' :: (h.name.toList ++ (h.after.toList ++
      '\x7d' :: '\x7d' :: rest))).dropWhile Text.isBlank =
        '$' :: (h.name.toList ++ (h.after.toList ++ '\x7d' :: '\x7d' :: rest)) :=
    dropWhile_run h.isBlank_before (by simp; decide)
  -- the name ends at white space or at a brace
  have hends : ∀ c ∈ (h.after.toList ++ '\x7d' :: '\x7d' :: rest).head?, Text.isWord c = false := by
    intro c hc
    cases hafter : h.after.toList with
    | nil =>
      rw [hafter] at hc
      cases hc
      decide +kernel
    | cons d ds =>
      rw [hafter] at hc
      cases hc
      exact isWord_of_isBlank (h.isBlank_after c (hafter ▸ List.mem_cons_self))
  have hclosing : (h.after.toList ++ '\x7d' :: '\x7d' :: rest).dropWhile Text.isBlank =
      '\x7d' :: '\x7d' :: rest := dropWhile_run h.isBlank_after (by simp; decide)
  obtain ⟨c, cs, hname⟩ := List.exists_cons_of_ne_nil (String.toList_eq_nil_iff.not.mpr h.name_ne)
  rw [h.toList_text, Placeholder.body]
  simp only [List.cons_append, List.append_assoc, List.nil_append]
  unfold promptHole?
  simp only [hopening, takeWhile_run h.isWord_name hends, dropWhile_run h.isWord_name hends, hclosing]
  rw [hname]
  rfl

/-- Nothing else is read as one. -/
theorem exists_placeholder {cs name rest : List Char} (hhole : promptHole? cs = some (name, rest)) :
    ∃ h : Placeholder, cs = h.text.toList ++ rest ∧ h.name.toList = name := by
  unfold promptHole? at hhole
  split at hhole
  · rename_i inner
    split at hhole
    · rename_i named hdollar
      split at hhole
      · rename_i c letters after hname hclosing
        cases hhole
        have hinner : inner = inner.takeWhile Text.isBlank ++ '$' :: (c :: letters ++
            ((named.dropWhile Text.isWord).takeWhile Text.isBlank ++ '\x7d' :: '\x7d' :: rest)) := by
          rw [← hclosing, List.takeWhile_append_dropWhile, ← hname,
            List.takeWhile_append_dropWhile, ← hdollar, List.takeWhile_append_dropWhile]
        refine ⟨{
          name := String.ofList (c :: letters)
          before := String.ofList (inner.takeWhile Text.isBlank)
          after := String.ofList ((named.dropWhile Text.isWord).takeWhile Text.isBlank)
          name_ne := by simp
          name_word := by
            rw [String.toList_ofList, ← hname]
            exact List.all_takeWhile
          before_blank := by
            rw [String.toList_ofList]
            exact List.all_takeWhile
          after_blank := by
            rw [String.toList_ofList]
            exact List.all_takeWhile }, ?_, String.toList_ofList⟩
        rw [Placeholder.toList_text, Placeholder.body]
        simp only [String.toList_ofList, List.cons_append, List.append_assoc, List.nil_append]
        exact congrArg (fun cs => '\x7b' :: '\x7b' :: cs) hinner
      · cases hhole
    · cases hhole
  · cases hhole

/-! ## Pieces of a prompt -/

theorem promptPieces_of_hole {cs name rest : List Char} (h : promptHole? cs = some (name, rest)) :
    promptPieces cs = .hole (String.ofList name) :: promptPieces rest := by
  rw [promptPieces]
  split
  · rename_i hsome
    rw [h] at hsome
    cases hsome
    rfl
  · rename_i hnone
    rw [h] at hnone
    cases hnone

theorem promptPieces_of_literal {c : Char} {rest : List Char} (h : promptHole? (c :: rest) = none) :
    promptPieces (c :: rest) = .literal c :: promptPieces rest := by
  rw [promptPieces]
  split
  · rename_i hsome
    rw [h] at hsome
    cases hsome
  · rfl

/-- A text without an opening brace stands for itself. -/
theorem promptPieces_append {cs : List Char} (h : '\x7b' ∉ cs) (rest : List Char) :
    promptPieces (cs ++ rest) = cs.map .literal ++ promptPieces rest := by
  induction cs with
  | nil => rfl
  | cons c cs ih =>
    rw [List.mem_cons, not_or] at h
    have hnone : promptHole? (c :: (cs ++ rest)) = none := by
      unfold promptHole?
      split
      · rename_i hc
        exact absurd (List.cons.inj hc).1.symm h.1
      · rfl
    rw [List.cons_append, promptPieces_of_literal hnone, ih h.2]
    rfl

/-- A placeholder without white space in it. -/
theorem promptPieces_placeholder {name : String} (hne : name ≠ "")
    (hname : name.toList.all Text.isWord = true) (rest : List Char) :
    promptPieces (("\x7b\x7b$" ++ name ++ "\x7d\x7d").toList ++ rest) =
      .hole name :: promptPieces rest := by
  have hhole := promptHole?_placeholder
    { name, name_ne := hne, name_word := hname } rest
  rw [promptPieces_of_hole (by simpa [Placeholder.text] using hhole), String.ofList_toList]

theorem holes_promptPieces_append {cs : List Char} (h : '\x7b' ∉ cs) (rest : List Char) :
    holes (promptPieces (cs ++ rest)) = holes (promptPieces rest) := by
  rw [promptPieces_append h, holes_append, holes_literals, List.nil_append]

/-- The value of a placeholder is part of the text. -/
theorem infix_fill {value : String → String} {ps : List Piece} {name : String}
    (h : name ∈ holes ps) : (value name).toList <:+: (fill value ps).toList := by
  obtain ⟨piece, hpiece, hname⟩ := List.mem_filterMap.mp h
  cases piece with
  | literal c => cases hname
  | hole name' =>
    cases hname
    obtain ⟨before, after, rfl⟩ := List.append_of_mem hpiece
    rw [fill, String.toList_ofList, List.flatMap_append, List.flatMap_cons, ← List.append_assoc]
    exact List.infix_append _ _ _

end SkillPlan.Template
