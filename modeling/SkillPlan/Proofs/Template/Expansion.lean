import SkillPlan.Proofs.Template

/-!
# Parameters expand token by token

Every `$` that a word character follows begins a token, and the token takes in all the word
characters there are. So the text around a token is expanded as if it stood alone, and a text without
tokens is left as it is.
-/

namespace SkillPlan.Template

open Text (takeWhile_run dropWhile_run takeWhile_append_stop dropWhile_append_stop)

/-- A `$` is no part of a name. -/
theorem isWord_dollar : Text.isWord '$' = false := by decide +kernel

theorem parameterPieces_of_ne {c : Char} (hc : c ≠ '$') (rest : List Char) :
    parameterPieces (c :: rest) = .literal c :: parameterPieces rest := by
  rw [parameterPieces, if_neg hc]

/-- A `$` that no name follows stands for itself. -/
theorem parameterPieces_of_alone {rest : List Char} (h : rest.takeWhile Text.isWord = []) :
    parameterPieces ('$' :: rest) = .literal '$' :: parameterPieces rest := by
  rw [parameterPieces, if_pos rfl, h]

theorem parameterPieces_of_name {name rest : List Char} (hne : name ≠ [])
    (h : rest.takeWhile Text.isWord = name) :
    parameterPieces ('$' :: rest) =
      .hole (String.ofList name) :: parameterPieces (rest.dropWhile Text.isWord) := by
  rw [parameterPieces, if_pos rfl, h]
  cases name with
  | nil => exact absurd rfl hne
  | cons c cs => rfl

/-- What stands before a `$` is cut as if it stood alone. -/
theorem parameterPieces_append_dollar (cs rest : List Char) :
    parameterPieces (cs ++ '$' :: rest) = parameterPieces cs ++ parameterPieces ('$' :: rest) := by
  fun_induction parameterPieces cs with
  | case1 => rfl
  | case2 cs halone ih =>
    have halone' : (cs ++ '$' :: rest).takeWhile Text.isWord = [] :=
      (takeWhile_append_stop isWord_dollar cs rest).trans halone
    rw [List.cons_append, parameterPieces_of_alone halone', ih, List.cons_append]
  | case3 cs hne ih =>
    have hname := takeWhile_append_stop isWord_dollar cs rest
    rw [List.cons_append, parameterPieces_of_name hne hname,
      dropWhile_append_stop isWord_dollar, ih, List.cons_append]
  | case4 c cs hc ih =>
    rw [List.cons_append, parameterPieces_of_ne hc, ih, List.cons_append]

/-- A token is a placeholder for the whole name. -/
theorem parameterPieces_token {name rest : List Char} (hne : name ≠ [])
    (hname : ∀ c ∈ name, Text.isWord c = true) (hrest : ∀ c ∈ rest.head?, Text.isWord c = false) :
    parameterPieces ('$' :: (name ++ rest)) =
      .hole (String.ofList name) :: parameterPieces rest := by
  rw [parameterPieces_of_name hne (takeWhile_run hname hrest), dropWhile_run hname hrest]

/-- A text without tokens stands for itself. -/
theorem parameterPieces_of_no_token {cs : List Char}
    (h : ∀ c, Text.isWord c = true → ¬ ['$', c] <:+: cs) :
    parameterPieces cs = cs.map .literal := by
  induction cs with
  | nil => simp [parameterPieces]
  | cons c cs ih =>
    have hrest := ih fun d hd hfound => h d hd (hfound.trans (List.suffix_cons c cs).isInfix)
    by_cases hc : c = '$'
    · subst hc
      have halone : cs.takeWhile Text.isWord = [] := by
        cases cs with
        | nil => rfl
        | cons d cs =>
          refine List.takeWhile_cons_of_neg fun hd => h d hd ?_
          exact (List.prefix_append ['$', d] cs).isInfix
      rw [parameterPieces_of_alone halone, hrest, List.map_cons]
    · rw [parameterPieces_of_ne hc, hrest, List.map_cons]

/-- Parameters are expanded by whole tokens and in one pass. Where a token ends, be it at the end of
    the text or before a character that is no word character, its value stands in the result as it
    is, and the texts on both sides are expanded on their own. A text without tokens stays. -/
theorem expand_by_token (vars state : Bag) :
    (∀ before name after : String, name ≠ "" → (∀ c ∈ name.toList, Text.isWord c = true) →
      (∀ c ∈ after.toList.head?, Text.isWord c = false) →
      expand (before ++ "$" ++ name ++ after) vars state =
        expand before vars state ++ ((vars.get? name).or (state.get? name)).getD "" ++
          expand after vars state) ∧
    ∀ text : String, (∀ c, Text.isWord c = true → ¬ ['$', c] <:+: text.toList) →
      expand text vars state = text := by
  constructor
  · intro before name after hne hname hafter
    have htext : (before ++ "$" ++ name ++ after).toList =
        before.toList ++ '$' :: (name.toList ++ after.toList) := by
      simp
    rw [expand, htext, parameterPieces_append_dollar,
      parameterPieces_token (String.toList_eq_nil_iff.not.mpr hne) hname hafter, fill_append,
      fill_hole, String.ofList_toList, ← String.append_assoc]
    rfl
  · intro text h
    rw [expand, parameterPieces_of_no_token h, fill_literals, String.ofList_toList]

/-- Tokens side by side, behind a `$` that stands for itself. The shorter name does not take the
    beginning of the longer one, and the token in its value stays there. -/
theorem expand_by_token_adjacent :
    let vars := Bag.ofList [("name", "$name2")]
    let state := Bag.ofList [("name", "A"), ("Name2", "B")]
    expand "a$" vars state = "a$" ∧ expand "a$$name$name2" vars state = "a$$name2B" := by
  intro vars state
  obtain ⟨htoken, hplain⟩ := expand_by_token vars state
  have hbefore : expand "a$" vars state = "a$" :=
    hplain _ fun c _ => by simp [List.infix_cons_iff]
  have hname : ∀ c ∈ "name".toList, Text.isWord c = true :=
    List.all_eq_true.mp (by decide +kernel)
  have hname2 : ∀ c ∈ "name2".toList, Text.isWord c = true :=
    List.all_eq_true.mp (by decide +kernel)
  have hafter : expand "$name2" vars state = "B" :=
    (htoken "" "name2" "" (by decide) hname2 (by simp)).trans (by decide +kernel)
  refine ⟨hbefore, (htoken "a$" "name" "$name2" (by decide) hname ?_).trans ?_⟩
  · simp [isWord_dollar]
  · rw [hbefore, hafter]
    decide +kernel

end SkillPlan.Template
