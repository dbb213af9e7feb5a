import SkillPlan.Proofs.Template

/-!
# Prompts are filled in placeholder by placeholder

What stands before a placeholder cannot take a part of it: a brace is opened at the beginning of a
placeholder only, so a text that looks like the beginning of one ends where the next one begins. So
the text around a placeholder is filled in as if it stood alone, and the placeholders that a prompt
holds are those that its names are collected from.
-/

namespace SkillPlan.Template

open Text (fold)

/-! ## Pieces around a placeholder -/

/-- A placeholder does not begin in front of another one and end in it or behind it. -/
theorem promptHole?_append_placeholder {c : Char} {cs : List Char}
    (hnone : promptHole? (c :: cs) = none) (h : Placeholder) (rest : List Char) :
    promptHole? (c :: cs ++ (h.text.toList ++ rest)) = none := by
  rw [Option.eq_none_iff_forall_ne_some]
  rintro ⟨name, rest'⟩ hhole
  obtain ⟨h', htext, -⟩ := exists_placeholder hhole
  obtain ⟨shared, htext', hrest⟩ | ⟨behind, hbehind, -⟩ := List.append_eq_append_iff.mp htext
  · -- what the two share begins with a brace, so it is empty or the first one has a brace inside
    refine h'.brace_not_mem_body ?_
    rw [h'.toList_text] at htext'
    rw [h.toList_text] at hrest
    cases shared with
    | nil =>
      have hwhole := promptHole?_placeholder h' []
      rw [h'.toList_text, htext', List.append_nil, List.append_nil, hnone] at hwhole
      cases hwhole
    | cons d shared =>
      obtain ⟨rfl, hshared⟩ := List.cons.inj hrest
      cases cs with
      | nil =>
        -- the second brace of this one would be the first character behind the braces of the other
        have hbody : h'.body = shared := (List.cons.inj (List.cons.inj htext').2).2
        obtain ⟨e, es, hcons⟩ := List.exists_cons_of_ne_nil h'.body_ne_nil
        rw [← hbody, hcons] at hshared
        rw [hcons, ← (List.cons.inj hshared).1]
        exact List.mem_cons_self
      | cons e es =>
        have hbody : h'.body = es ++ '\x7b' :: shared := (List.cons.inj (List.cons.inj htext').2).2
        rw [hbody]
        exact List.mem_append_right _ List.mem_cons_self
  · -- the whole of it stands in front
    rw [hbehind, promptHole?_placeholder] at hnone
    cases hnone

/-- What stands before a placeholder is cut as if it stood alone. -/
theorem promptPieces_append_placeholder (cs : List Char) (h : Placeholder) (rest : List Char) :
    promptPieces (cs ++ (h.text.toList ++ rest)) =
      promptPieces cs ++ .hole h.name :: promptPieces rest := by
  fun_induction promptPieces cs with
  | case1 cs name rest' hhole ih =>
    obtain ⟨h', rfl, hname⟩ := exists_placeholder hhole
    have hfirst := promptHole?_placeholder h' (rest' ++ (h.text.toList ++ rest))
    rw [List.append_assoc, promptPieces_of_hole hfirst, ih, hname, List.cons_append]
  | case2 hnone =>
    rw [List.nil_append, promptPieces_of_hole (promptHole?_placeholder h rest),
      String.ofList_toList]
    rfl
  | case3 c cs hnone ih =>
    have hliteral := promptPieces_of_literal (promptHole?_append_placeholder hnone h rest)
    exact hliteral.trans (congrArg (.literal c :: ·) ih)

/-- A text without placeholders stands for itself. -/
theorem promptPieces_of_no_placeholder {cs : List Char}
    (hnone : ∀ h : Placeholder, ¬ h.text.toList <:+: cs) :
    promptPieces cs = cs.map .literal := by
  induction cs with
  | nil => simp [promptPieces, promptHole?]
  | cons c cs ih =>
    have hrest := ih fun h hfound => hnone h (hfound.trans (List.suffix_cons c cs).isInfix)
    have hhole : promptHole? (c :: cs) = none := by
      rw [Option.eq_none_iff_forall_ne_some]
      rintro ⟨name, rest⟩ hhole
      obtain ⟨h, htext, -⟩ := exists_placeholder hhole
      exact hnone h (htext ▸ (List.prefix_append _ rest).isInfix)
    rw [promptPieces_of_literal hhole, hrest, List.map_cons]

/-- The names in a prompt are those of the placeholders that stand in it. -/
theorem mem_holes_promptPieces {cs : List Char} {name : String} :
    name ∈ holes (promptPieces cs) ↔ ∃ h : Placeholder, h.text.toList <:+: cs ∧ h.name = name := by
  constructor
  · intro hname
    fun_induction promptPieces cs with
    | case1 cs letters rest hhole ih =>
      obtain ⟨h, rfl, hletters⟩ := exists_placeholder hhole
      obtain rfl | hname := List.mem_cons.mp hname
      · exact ⟨h, (List.prefix_append _ rest).isInfix, by rw [← hletters, String.ofList_toList]⟩
      · obtain ⟨h', hfound, hname⟩ := ih hname
        exact ⟨h', hfound.trans (List.suffix_append _ rest).isInfix, hname⟩
    | case2 hnone => cases hname
    | case3 c cs hnone ih =>
      obtain ⟨h, hfound, hname⟩ := ih hname
      exact ⟨h, hfound.trans (List.suffix_cons c cs).isInfix, hname⟩
  · rintro ⟨h, ⟨before, after, rfl⟩, rfl⟩
    rw [List.append_assoc, promptPieces_append_placeholder, holes_append, holes_hole]
    exact List.mem_append_right _ List.mem_cons_self

theorem promptPieces_around (before after : String) (h : Placeholder) :
    promptPieces (before ++ h.text ++ after).toList =
      promptPieces before.toList ++ .hole h.name :: promptPieces after.toList := by
  rw [String.toList_append, String.toList_append, List.append_assoc,
    promptPieces_append_placeholder]

/-! ## Prompts and their names -/

theorem render_around (before after : String) (h : Placeholder) (vars : Bag) :
    render (before ++ h.text ++ after) vars =
      render before vars ++ (vars.get? h.name).getD "" ++ render after vars := by
  rw [render, promptPieces_around, fill_append, fill_hole, ← String.append_assoc]
  rfl

theorem render_of_no_placeholder {text : String}
    (hnone : ∀ h : Placeholder, ¬ h.text.toList <:+: text.toList) (vars : Bag) :
    render text vars = text := by
  rw [render, promptPieces_of_no_placeholder hnone, fill_literals, String.ofList_toList]

/-- A text without the mark that every placeholder has stands for itself. -/
theorem render_of_no_mark {text : String} (h : '$' ∉ text.toList) (vars : Bag) :
    render text vars = text := by
  refine render_of_no_placeholder (fun p hfound => h (hfound.subset ?_)) vars
  rw [p.toList_text, Placeholder.body]
  simp

/-- Two bags that give the names of a prompt the same values fill it in alike. -/
theorem render_congr {text : String} {vars vars' : Bag}
    (h : ∀ name ∈ promptNames text, (vars.get? name).getD "" = (vars'.get? name).getD "") :
    render text vars = render text vars' := by
  refine fill_congr fun name hname => ?_
  have hmem : fold name ∈ (promptNames text).map fold :=
    (mem_distinctNames _ _).mpr (List.mem_map_of_mem hname)
  obtain ⟨listed, hlisted, hsame⟩ := List.mem_map.mp hmem
  rw [Bag.get?_congr hsame.symm, h listed hlisted, Bag.get?_congr hsame]

theorem mem_promptNames {text key : String} :
    key ∈ (promptNames text).map fold ↔
      ∃ h : Placeholder, h.text.toList <:+: text.toList ∧ fold h.name = key := by
  rw [promptNames, mem_distinctNames]
  simp only [List.mem_map, mem_holes_promptPieces]
  constructor
  · rintro ⟨name, ⟨h, hfound, rfl⟩, hkey⟩
    exact ⟨h, hfound, hkey⟩
  · rintro ⟨h, hfound, hkey⟩
    exact ⟨h.name, ⟨h, hfound, rfl⟩, hkey⟩

theorem promptNames_of_no_placeholder {text : String}
    (hnone : ∀ h : Placeholder, ¬ h.text.toList <:+: text.toList) : promptNames text = [] := by
  rw [promptNames, promptPieces_of_no_placeholder hnone, holes_literals]
  rfl

/-- The name of the first placeholder comes first, and the same name is left out further on. -/
theorem promptNames_around {before : String}
    (hbefore : ∀ h : Placeholder, ¬ h.text.toList <:+: before.toList) (h : Placeholder)
    (after : String) :
    promptNames (before ++ h.text ++ after) =
      h.name :: (promptNames after).filter (!Text.sameName · h.name) := by
  rw [promptNames, promptPieces_around, promptPieces_of_no_placeholder hbefore, holes_append,
    holes_literals, List.nil_append, holes_hole, distinctNames_cons]
  rfl

/-- Prompts are filled in placeholder by placeholder, and a value is never taken for one. The value
    of a placeholder stands in the result as it is, and the texts on both sides are filled in on
    their own; a text without placeholders stays. The names of a prompt are those of its
    placeholders, no two of them the same, in the order and the casing of their first use; and the
    values of these names are all that the result depends on. -/
theorem render_by_placeholder :
    (∀ (before after : String) (h : Placeholder) (vars : Bag),
      render (before ++ h.text ++ after) vars =
        render before vars ++ (vars.get? h.name).getD "" ++ render after vars) ∧
    (∀ text : String, (∀ h : Placeholder, ¬ h.text.toList <:+: text.toList) →
      (∀ vars, render text vars = text) ∧ promptNames text = []) ∧
    (∀ (before after : String) (h : Placeholder),
      (∀ h' : Placeholder, ¬ h'.text.toList <:+: before.toList) →
      promptNames (before ++ h.text ++ after) =
        h.name :: (promptNames after).filter (!Text.sameName · h.name)) ∧
    (∀ text : String, ((promptNames text).map fold).Nodup ∧
      ∀ key, key ∈ (promptNames text).map fold ↔
        ∃ h : Placeholder, h.text.toList <:+: text.toList ∧ fold h.name = key) ∧
    ∀ (text : String) (vars vars' : Bag),
      (∀ name ∈ promptNames text, (vars.get? name).getD "" = (vars'.get? name).getD "") →
      render text vars = render text vars' := by
  refine ⟨render_around, fun text hnone => ?_, fun before after h hbefore => ?_, fun text => ?_,
    fun text vars vars' => render_congr⟩
  · exact ⟨render_of_no_placeholder hnone, promptNames_of_no_placeholder hnone⟩
  · exact promptNames_around hbefore h after
  · exact ⟨nodup_distinctNames _, fun key => mem_promptNames⟩

/-- A placeholder right behind a brace, and one behind the beginning of another. The value of the
    first reads like a placeholder for the second. -/
theorem render_by_placeholder_braces :
    let vars := Bag.ofList [("X", "\x7b\x7b$y\x7d\x7d"), ("y", "1")]
    let text := "\x7b\x7b\x7b$x\x7d\x7d\x7d\x7b\x7b$x\x7b\x7b $Y \x7d\x7d"
    render "\x7b" vars = "\x7b" ∧
      render text vars = "\x7b\x7b\x7b$y\x7d\x7d\x7d\x7b\x7b$x1" ∧
      promptNames text = ["x", "Y"] ∧ render text (vars.set "z" "2") = render text vars := by
  intro vars text
  obtain ⟨haround, hplain, hnames, -, hagree⟩ := render_by_placeholder
  -- a placeholder has six characters at least
  have hnone : ∀ h : Placeholder, ¬ h.text.toList <:+: "\x7b".toList := by
    intro h hfound
    have hlength := hfound.length_le
    simp [Placeholder.text] at hlength
  let after := "\x7d\x7b\x7b$x\x7b\x7b $Y \x7d\x7d"
  have hlisted : promptNames text = ["x", "Y"] :=
    (hnames "\x7b" after { name := "x" } hnone).trans (by decide +kernel)
  refine ⟨(hplain _ hnone).1 vars, ?_, hlisted, hagree _ _ _ fun name hname => ?_⟩
  · exact (haround "\x7b" after { name := "x" } vars).trans (by decide +kernel)
  · rw [hlisted] at hname
    revert name
    decide +kernel

end SkillPlan.Template
