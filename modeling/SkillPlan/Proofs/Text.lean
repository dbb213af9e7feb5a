import SkillPlan.Text.Blank
import SkillPlan.Text.Split
import SkillPlan.Text.Word

/-!
# Runs and marks

What a scanner takes off the front of a text when it goes on as long as the characters are of one
kind, and where a text is cut at the first occurrence of a mark.
-/

namespace SkillPlan.Text

/-! ## Runs of characters -/

section

variable {p : Char → Bool} {run rest : List Char}

/-- A run of characters of a kind is taken as a whole, up to a character of another kind. -/
theorem takeWhile_run (hrun : ∀ c ∈ run, p c = true) (hrest : ∀ c ∈ rest.head?, p c = false) :
    (run ++ rest).takeWhile p = run := by
  rw [List.takeWhile_append_of_pos hrun]
  cases rest with
  | nil => exact List.append_nil run
  | cons c rest => rw [List.takeWhile_cons_of_neg (by simp [hrest c rfl]), List.append_nil]

theorem dropWhile_run (hrun : ∀ c ∈ run, p c = true) (hrest : ∀ c ∈ rest.head?, p c = false) :
    (run ++ rest).dropWhile p = rest := by
  rw [List.dropWhile_append_of_pos hrun]
  cases rest with
  | nil => rfl
  | cons c rest => exact List.dropWhile_cons_of_neg (by simp [hrest c rfl])

/-- What stands behind a character of another kind does not matter. -/
theorem takeWhile_append_stop {stop : Char} (hstop : p stop = false) (cs rest : List Char) :
    (cs ++ stop :: rest).takeWhile p = cs.takeWhile p := by
  induction cs with
  | nil => exact List.takeWhile_cons_of_neg (by simp [hstop])
  | cons c cs ih => rw [List.cons_append, List.takeWhile_cons, List.takeWhile_cons, ih]

theorem dropWhile_append_stop {stop : Char} (hstop : p stop = false) (cs rest : List Char) :
    (cs ++ stop :: rest).dropWhile p = cs.dropWhile p ++ stop :: rest := by
  induction cs with
  | nil => exact List.dropWhile_cons_of_neg (by simp [hstop])
  | cons c cs ih =>
    rw [List.cons_append, List.dropWhile_cons, List.dropWhile_cons, ih]
    split <;> rfl

end

/-- A text that does not end in the separator has its last character in the last part. -/
theorem exists_splitChars_concat {sep c : Char} (hc : c ≠ sep) (cs : List Char) :
    ∃ front part, splitChars sep (cs ++ [c]) = front ++ [part ++ [c]] := by
  induction cs with
  | nil => exact ⟨[], [], by simp [splitChars, hc]⟩
  | cons first cs ih =>
    obtain ⟨front, part, hsplit⟩ := ih
    rw [List.cons_append, splitChars, hsplit]
    split
    · exact ⟨[] :: front, part, rfl⟩
    · cases front with
      | nil => exact ⟨[], first :: part, rfl⟩
      | cons word front => exact ⟨(first :: word) :: front, part, rfl⟩

/-- White space is no part of a name. -/
theorem isWord_of_isBlank {c : Char} (h : isBlank c = true) : isWord c = false := by
  have hblank : ∀ n ∈ [9, 10, 11, 12, 13, 0x20, 0x85, 0xA0, 0x1680, 0x2000, 0x2001, 0x2002, 0x2003,
      0x2004, 0x2005, 0x2006, 0x2007, 0x2008, 0x2009, 0x200A, 0x2028, 0x2029, 0x202F, 0x205F,
      0x3000], inRanges wordRanges n = false := by decide +kernel
  refine hblank c.toNat ?_
  simp only [isBlank, Bool.or_eq_true, Bool.and_eq_true, decide_eq_true_eq, beq_iff_eq] at h
  simp only [List.mem_cons, List.not_mem_nil]
  omega

/-! ## Marks -/

theorem isSome_after?_iff {opening cs : List Char} :
    (after? opening cs).isSome = true ↔ opening <+: cs := by
  constructor
  · intro h
    obtain ⟨rest, hrest⟩ := Option.isSome_iff_exists.mp h
    exact ⟨rest, (eq_append_of_after? hrest).symm⟩
  · rintro ⟨rest, rfl⟩
    rw [after?_append]
    rfl

/-- Nothing is cut off a text that does not hold the mark. -/
theorem before?_eq_none {mark cs : List Char} (h : ¬ mark <:+: cs) : before? mark cs = none := by
  induction cs with
  | nil =>
    have hne : mark ≠ [] := fun hnil => h (hnil ▸ List.nil_infix)
    rw [before?, if_neg (by simpa using hne)]
  | cons c rest ih =>
    have hstarts : ¬ (after? mark (c :: rest)).isSome = true :=
      fun hsome => h (isSome_after?_iff.mp hsome).isInfix
    have hrest : ¬ mark <:+: rest := fun hmark => h (hmark.trans (List.suffix_cons c rest).isInfix)
    rw [before?, if_neg hstarts, ih hrest, Option.map_none]

/-- What is cut off stands at the front of the text. -/
theorem prefix_of_before? {mark cs front : List Char} (h : before? mark cs = some front) :
    front <+: cs := by
  induction cs generalizing front with
  | nil =>
    rw [before?] at h
    split at h <;> cases h
    exact List.nil_prefix
  | cons c rest ih =>
    rw [before?] at h
    split at h
    · cases h
      exact List.nil_prefix
    · obtain ⟨front', hfront, rfl⟩ := Option.map_eq_some_iff.mp h
      exact List.cons_prefix_cons.mpr ⟨rfl, ih hfront⟩

/-- A mark does not reach over a character that it does not hold. -/
theorem prefix_append_stop_iff {mark : List Char} {stop : Char} (hstop : stop ∉ mark)
    (cs rest : List Char) : mark <+: cs ++ stop :: rest ↔ mark <+: cs := by
  refine ⟨fun h => ?_, fun h => h.trans (List.prefix_append _ _)⟩
  obtain h' | ⟨more, rfl⟩ := List.prefix_or_prefix_of_prefix h (List.prefix_append cs _)
  · exact h'
  · cases more with
    | nil => exact ⟨[], by simp⟩
    | cons c more =>
      obtain ⟨rfl, -⟩ := List.cons_prefix_cons.mp ((List.prefix_append_right_inj cs).mp h)
      exact absurd (by simp) hstop

/-- The search for a mark goes on behind such a character as if it began there. -/
theorem before?_append_stop {mark : List Char} {stop : Char} (hmark : mark ≠ [])
    (hstop : stop ∉ mark) (cs rest : List Char) :
    before? mark (cs ++ stop :: rest) =
      (before? mark cs).or ((before? mark rest).map fun front => cs ++ stop :: front) := by
  have hstarts : ∀ cs, (after? mark (cs ++ stop :: rest)).isSome = (after? mark cs).isSome :=
    fun cs => by
      rw [Bool.eq_iff_iff, isSome_after?_iff, isSome_after?_iff, prefix_append_stop_iff hstop]
  induction cs with
  | nil =>
    have hnone : ¬ (after? mark (stop :: rest)).isSome = true := by
      have hnil := hstarts []
      rw [List.nil_append] at hnil
      rwa [hnil, isSome_after?_iff, List.prefix_nil]
    simp [before?, hnone, hmark]
  | cons c cs ih =>
    rw [List.cons_append, before?, before?, ← List.cons_append, hstarts, ih]
    split
    · rfl
    · simp [Option.map_or, Function.comp_def]

end SkillPlan.Text
