/-!
# Folded text

Variable keys, collection names and function names are compared without regard to the case of the
letters A to Z. Two texts are the same name exactly when their folded forms are equal.
-/

namespace SkillPlan.Text

/-- The text with the letters A to Z in lower case and everything else as it is. -/
def fold (s : String) : String := String.ofList (s.toList.map Char.toLower)

/-- Whether two texts differ at most in the case of the letters A to Z. -/
def sameName (a b : String) : Bool := fold a == fold b

@[simp] theorem toList_fold (s : String) : (fold s).toList = s.toList.map Char.toLower := by
  simp [fold]

@[simp] theorem sameName_iff {a b : String} : sameName a b = true ↔ fold a = fold b := by
  simp [sameName]

theorem toLower_toLower (c : Char) : c.toLower.toLower = c.toLower := by
  by_cases h : c.val ≥ 'A'.val ∧ c.val ≤ 'Z'.val
  · have hv : c.toLower.val = c.val + ('a'.val - 'A'.val) := congrArg Char.val (dif_pos h)
    refine dif_neg ?_
    rw [hv]
    obtain ⟨h₁, h₂⟩ := h
    simp only [ge_iff_le, UInt32.le_iff_toNat_le, UInt32.toNat_add] at *
    have hA : 'A'.val.toNat = 65 := rfl
    have hZ : 'Z'.val.toNat = 90 := rfl
    have hd : ('a'.val - 'A'.val).toNat = 32 := rfl
    omega
  · have hv : c.toLower = c := dif_neg h
    rw [hv, hv]

@[simp] theorem fold_fold (s : String) : fold (fold s) = fold s := by
  apply String.ext
  rw [toList_fold, toList_fold, List.map_map]
  exact List.map_congr_left fun c _ => toLower_toLower c

end SkillPlan.Text
