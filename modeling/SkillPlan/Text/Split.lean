/-!
# Cutting texts

A text cut at every occurrence of a separator, at the first one, or at an opening.
-/

namespace SkillPlan.Text

/-- The parts between separators; there is always one more part than separators. -/
def splitChars (sep : Char) : List Char → List (List Char)
  | [] => [[]]
  | c :: rest =>
    if c = sep then [] :: splitChars sep rest
    else
      match splitChars sep rest with
      | [] => [[c]]
      | word :: words => (c :: word) :: words

/-- The parts of a text between separators. -/
def split (sep : Char) (s : String) : List String :=
  (splitChars sep s.toList).map String.ofList

/-- What stands before and after the first separator. -/
def splitOnce? (sep : Char) : List Char → Option (List Char × List Char)
  | [] => none
  | c :: rest =>
    if c = sep then some ([], rest) else (splitOnce? sep rest).map fun r => (c :: r.1, r.2)

/-- What follows an opening, if the text begins with it. -/
def after? (opening : List Char) (cs : List Char) : Option (List Char) :=
  match opening, cs with
  | [], cs => some cs
  | _ :: _, [] => none
  | o :: opening, c :: cs => if o = c then after? opening cs else none

/-- What stands before the first occurrence of a mark, if there is one. -/
def before? (mark : List Char) : List Char → Option (List Char)
  | [] => if mark.isEmpty then some [] else none
  | c :: rest =>
    if (after? mark (c :: rest)).isSome then some [] else (before? mark rest).map (c :: ·)

theorem splitChars_ne_nil (sep : Char) (cs : List Char) : splitChars sep cs ≠ [] := by
  cases cs with
  | nil => simp [splitChars]
  | cons c rest =>
    unfold splitChars
    split
    · simp
    · split <;> simp

theorem splitChars_append (sep : Char) (cs rest : List Char) :
    splitChars sep (cs ++ sep :: rest) = splitChars sep cs ++ splitChars sep rest := by
  induction cs with
  | nil => simp [splitChars]
  | cons c cs ih =>
    by_cases hc : c = sep
    · simp [splitChars, hc, ih]
    · cases hsplit : splitChars sep cs with
      | nil => exact absurd hsplit (splitChars_ne_nil sep cs)
      | cons word words => simp [splitChars, hc, ih, hsplit]

/-- A text without the separator is its only part. -/
theorem splitChars_of_not_mem {sep : Char} {cs : List Char} (h : sep ∉ cs) :
    splitChars sep cs = [cs] := by
  induction cs with
  | nil => rfl
  | cons c cs ih =>
    rw [List.mem_cons, not_or] at h
    simp [splitChars, Ne.symm h.1, ih h.2]

@[simp] theorem after?_append (opening cs : List Char) :
    after? opening (opening ++ cs) = some cs := by
  induction opening with
  | nil => cases cs <;> rfl
  | cons o opening ih => simp [after?, ih]

theorem eq_append_of_after? {opening cs rest : List Char} (h : after? opening cs = some rest) :
    cs = opening ++ rest := by
  induction opening generalizing cs with
  | nil => cases cs <;> simpa [after?] using h
  | cons o opening ih =>
    cases cs with
    | nil => simp [after?] at h
    | cons c cs =>
      simp only [after?] at h
      split at h
      · rename_i hc
        rw [ih h, hc, List.cons_append]
      · simp at h

end SkillPlan.Text
