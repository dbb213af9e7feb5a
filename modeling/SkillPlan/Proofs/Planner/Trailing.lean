import SkillPlan.Planner.Answer
import SkillPlan.Proofs.Json.Grammar
import SkillPlan.Proofs.Text

/-!
# Text behind an answer

A model may go on after its answer. Three scanners see what it adds: the search for the mark that
ends answers, the one that drops commas, and the reader. An answer ends with a brace, and each of
the three settles what it makes of the front of a text, up to a brace, without looking behind it:
`untilStop_append`, `dropCommas_brace` and `firstOfText_obj`.
-/

namespace SkillPlan

/-! ## The first object of a text -/

namespace Json

open Raw (skipSpace skipSpace_of_not_space exists_gap exists_spelling)

theorem exists_fields_of_ofRaw? {levels : Nat} {raw : Raw} {root : List (String × Json)}
    (h : ofRaw? levels raw = some (.obj root)) : ∃ fields, raw = .obj fields := by
  cases raw with
  | obj fields => exact ⟨fields, rfl⟩
  | arr items => simp [ofRaw?] at h
  | _ => simp [ofRaw?] at h

theorem firstOfText_eq_obj_iff {s : String} {root : List (String × Json)} :
    firstOfText s = .value (.obj root) ↔ ∃ fields rest,
      Raw.first? (skipSpace s.toList) = some (.obj fields, rest) ∧
        ofRaw? maxDepth (.obj fields) = some (.obj root) := by
  constructor
  · intro h
    unfold firstOfText at h
    extract_lets cs at h
    split at h
    · cases h
    split at h
    · cases h
    rename_i raw rest hfirst
    split at h
    · cases h
    rename_i v hv
    -- whatever the kind of the value, it is the one that is given back
    obtain rfl : v = .obj root := by
      split at h
      · cases h
      · cases h
      · exact First.value.inj h
      · split at h
        · exact First.value.inj h
        · cases h
    obtain ⟨fields, rfl⟩ := exists_fields_of_ofRaw? hv
    exact ⟨fields, rest, hfirst, hv⟩
  · rintro ⟨fields, rest, hfirst, hroot⟩
    have hne : (skipSpace s.toList).isEmpty = false := by
      cases hcs : skipSpace s.toList with
      | nil => rw [hcs] at hfirst; cases hfirst
      | cons c cs => rfl
    simp [firstOfText, hne, hfirst, hroot]

/-- An object at the front of a text is read. -/
theorem first?_of_item {fields : List (List Char × Raw)} {text : List Char}
    (h : Raw.Item (.obj fields) text) (rest : List Char) :
    Raw.first? (skipSpace (text ++ rest)) = some (.obj fields, rest) := by
  obtain @⟨_, gap, text, hgap, htext⟩ := h
  obtain ⟨inside, hinside⟩ := htext.exists_braces
  have hskip : skipSpace (gap ++ text ++ rest) = text ++ rest := by
    rw [List.append_assoc, hgap.skipSpace_append, hinside]
    exact skipSpace_of_not_space rfl _
  have hfuel : text.length ≤ (text ++ rest).length + 1 := by
    rw [List.length_append]
    omega
  rw [hskip, Raw.first?]
  exact htext.value?_append hfuel fun n hn => by cases hn

/-- An object that is read first is read first in every text that begins the same up to the brace
    that closes it. -/
theorem firstOfText_obj {s : String} {root : List (String × Json)}
    (h : firstOfText s = .value (.obj root)) :
    ∃ front, front ++ ['\x7d'] <+: s.toList ∧
      ∀ s' : String, front ++ ['\x7d'] <+: s'.toList → firstOfText s' = .value (.obj root) := by
  obtain ⟨fields, rest, hfirst, hroot⟩ := firstOfText_eq_obj_iff.mp h
  obtain ⟨before, hbefore, hs⟩ := exists_gap s.toList
  obtain ⟨used, hused, hitem⟩ := exists_spelling hfirst
  obtain @⟨_, gap, text, hgap, htext⟩ := hitem
  obtain ⟨inside, hinside⟩ := htext.exists_braces
  refine ⟨before ++ (gap ++ '\x7b' :: inside), ⟨rest, ?_⟩, fun s' hs' => ?_⟩
  · rw [hs, hused, hinside]
    simp only [List.append_assoc, List.cons_append, List.nil_append]
  · obtain ⟨rest', hs'⟩ := hs'
    have hitem : Raw.Item (.obj fields) (before ++ gap ++ text) := .mk (hbefore.append hgap) htext
    refine firstOfText_eq_obj_iff.mpr ⟨fields, rest', ?_, hroot⟩
    rw [← first?_of_item hitem rest', ← hs', hinside]
    simp only [List.append_assoc, List.cons_append, List.nil_append]

end Json

namespace Planner.Answer

/-! ## The mark that ends answers -/

/-- The front of an answer up to a brace is not cut off when the text goes on, unless the mark holds
    a brace: it lies in the text without crossing the brace. -/
theorem untilStop_append {completion stop : String} (hstop : '\x7d' ∉ stop.toList)
    {front : List Char} (h : front ++ ['\x7d'] <+: (untilStop completion stop).toList)
    (more : String) : front ++ ['\x7d'] <+: (untilStop (completion ++ more) stop).toList := by
  by_cases hempty : stop = ""
  · rw [untilStop, if_pos hempty] at h ⊢
    rw [String.toList_append]
    exact h.trans (List.prefix_append _ _)
  have hmark : stop.toList ≠ [] := fun hnil => hempty (String.toList_eq_nil_iff.mp hnil)
  rw [untilStop, if_neg hempty] at h ⊢
  -- no mark stands in the front, whether or not one stands behind it
  obtain ⟨behind, hcompletion, hnone⟩ : ∃ behind, completion.toList = front ++ '\x7d' :: behind ∧
      Text.before? stop.toList front = none := by
    split at h
    · rename_i cs hcs
      rw [String.toList_ofList] at h
      obtain ⟨behind, hbehind⟩ := h.trans (Text.prefix_of_before? hcs)
      rw [List.append_assoc, List.singleton_append] at hbehind
      refine ⟨behind, hbehind.symm, ?_⟩
      rw [← hbehind, Text.before?_append_stop hmark hstop] at hcs
      cases hfront : Text.before? stop.toList front with
      | none => rfl
      | some front' =>
        -- the text would be cut before the brace
        rw [hfront, Option.some_or] at hcs
        obtain rfl := Option.some.inj hcs
        have hlength := (h.trans (Text.prefix_of_before? hfront)).length_le
        rw [List.length_append, List.length_singleton] at hlength
        omega
    · rename_i hcs
      obtain ⟨behind, hbehind⟩ := h
      rw [List.append_assoc, List.singleton_append] at hbehind
      rw [← hbehind, Text.before?_append_stop hmark hstop] at hcs
      exact ⟨behind, hbehind.symm, (Option.or_eq_none_iff.mp hcs).1⟩
  rw [String.toList_append, hcompletion, List.append_assoc, List.cons_append,
    Text.before?_append_stop hmark hstop, hnone, Option.none_or]
  cases Text.before? stop.toList (behind ++ more.toList) with
  | some cut => exact ⟨cut, by simp⟩
  | none => exact ⟨behind ++ more.toList, by simp [hcompletion]⟩

/-! ## Commas before a brace -/

/-- What is behind a brace does not tell whether a comma in front of it is the last. -/
theorem closesNext_congr {front cs cs' : List Char} (h : front ++ ['\x7d'] <+: cs)
    (h' : front ++ ['\x7d'] <+: cs') : closesNext cs' = closesNext cs := by
  obtain ⟨behind, rfl⟩ := h
  obtain ⟨behind', rfl⟩ := h'
  have hbrace : Text.isBlank '\x7d' = false := rfl
  simp only [closesNext, List.append_assoc, List.singleton_append,
    Text.dropWhile_append_stop hbrace]
  cases front.dropWhile Text.isBlank <;> rfl

/-- Where a text is behind a character. -/
def Mode.after (c : Char) : Mode → Mode
  | .escaped => .inside
  | .inside => if c = '\\' then .escaped else if c = '"' then .outside else .inside
  | .outside => if c = '"' then .inside else .outside

theorem dropCommas_cons (mode : Mode) (c : Char) (rest : List Char) :
    dropCommas mode (c :: rest) =
      if mode = .outside ∧ c = ',' ∧ closesNext rest then dropCommas .outside rest
      else c :: dropCommas (mode.after c) rest := by
  cases mode <;> simp [dropCommas, Mode.after]

/-- A brace that is left where commas were dropped stands in the text, and what is behind it there
    does not matter for what is left before it. -/
theorem dropCommas_brace {mode : Mode} {cs out : List Char}
    (h : out ++ ['\x7d'] <+: dropCommas mode cs) :
    ∃ front, front ++ ['\x7d'] <+: cs ∧
      ∀ cs', front ++ ['\x7d'] <+: cs' → out ++ ['\x7d'] <+: dropCommas mode cs' := by
  induction cs generalizing mode out with
  | nil => simp [dropCommas] at h
  | cons c rest ih =>
    rw [dropCommas_cons] at h
    split at h
    · rename_i hdropped
      obtain ⟨front, hfront, hsame⟩ := ih h
      refine ⟨c :: front, List.cons_prefix_cons.mpr ⟨rfl, hfront⟩, fun cs' hcs' => ?_⟩
      obtain ⟨rest', rfl, hrest⟩ := List.cons_prefix_iff.mp hcs'
      rw [dropCommas_cons, closesNext_congr hfront hrest, if_pos hdropped]
      exact hsame rest' hrest
    · rename_i hkept
      cases out with
      | nil =>
        obtain ⟨rfl, -⟩ := List.cons_prefix_cons.mp h
        refine ⟨[], by simp, fun cs' hcs' => ?_⟩
        obtain ⟨rest', rfl, -⟩ := List.cons_prefix_iff.mp hcs'
        rw [dropCommas_cons, if_neg (by simp)]
        simp
      | cons c' out =>
        obtain ⟨rfl, hout⟩ := List.cons_prefix_cons.mp h
        obtain ⟨front, hfront, hsame⟩ := ih hout
        refine ⟨c' :: front, List.cons_prefix_cons.mpr ⟨rfl, hfront⟩, fun cs' hcs' => ?_⟩
        obtain ⟨rest', rfl, hrest⟩ := List.cons_prefix_iff.mp hcs'
        rw [dropCommas_cons, closesNext_congr hfront hrest, if_neg hkept]
        exact List.cons_prefix_cons.mpr ⟨rfl, hsame rest' hrest⟩

/-! ## Answers -/

theorem firstOfText_of_ofText {s : String} {a : Answer} (h : ofText s = .ok a) : ∃ root,
    Json.firstOfText (withoutFinalCommas s) = .value (.obj root) ∧ ofJson (.obj root) = .ok a := by
  rw [ofText] at h
  split at h
  · cases h
  · cases h
  · rename_i v hv
    cases v with
    | obj root => exact ⟨root, hv, h⟩
    | _ => cases h

/-- Whatever a model adds to an answer, its answer is the same. -/
theorem ofCompletion_append {completion stop : String} (hstop : '\x7d' ∉ stop.toList) {a : Answer}
    (h : ofCompletion completion stop = .ok a) (more : String) :
    ofCompletion (completion ++ more) stop = .ok a := by
  obtain ⟨root, hroot, ha⟩ := firstOfText_of_ofText h
  obtain ⟨out, hout, hread⟩ := Json.firstOfText_obj hroot
  rw [withoutFinalCommas, String.toList_ofList] at hout
  obtain ⟨front, hfront, hsame⟩ := dropCommas_brace hout
  rw [String.toList_append] at hfront
  -- the brace is not part of the opening
  have hopening : answerOpening.toList <+: front := by
    obtain hin | hover := List.prefix_or_prefix_of_prefix hfront (List.prefix_append _ _)
    · exact absurd (hin.subset (by simp)) (show '\x7d' ∉ answerOpening.toList by decide)
    · refine (List.prefix_concat_iff.mp hover).resolve_left fun heq => ?_
      exact absurd (show '\x7d' ∈ answerOpening.toList by simp [heq]) (by decide)
  obtain ⟨front, rfl⟩ := hopening
  rw [List.append_assoc, List.prefix_append_right_inj] at hfront
  have hmore : answerOpening.toList ++ front ++ ['\x7d'] <+:
      (answerOpening ++ untilStop (completion ++ more) stop).toList := by
    rw [String.toList_append, List.append_assoc, List.prefix_append_right_inj]
    exact untilStop_append hstop hfront more
  rw [ofCompletion, ofText, hread _ (by
    rw [withoutFinalCommas, String.toList_ofList]
    exact hsame _ hmore)]
  exact ha

/-- A mark that stands across the joint, and the braces, quotes and commas behind it, do no harm. -/
theorem ofCompletion_append_mark :
    let completion := " \"r\", \"function\": \"Files.Read\", \"parameters\": " ++
      "\x7b\"path\": \"a\", \x7d, \x7d \x7d #END-OF"
    let a : Answer := ⟨"r", "Files.Read", ⟨[("path", "a")], by decide⟩⟩
    '\x7d' ∉ "#END-OF-PLAN".toList ∧ ofCompletion completion "#END-OF-PLAN" = .ok a ∧
      ofCompletion (completion ++ "-PLAN \"\x7d, ] \x7b \"plan\": 1 \x7d") "#END-OF-PLAN" =
        .ok a := by
  intro completion a
  have hstop : '\x7d' ∉ "#END-OF-PLAN".toList := by decide
  have hread : ofCompletion completion "#END-OF-PLAN" = .ok a := by
    have hsome : (ofCompletion completion "#END-OF-PLAN").toOption = some a := by decide +kernel
    cases h : ofCompletion completion "#END-OF-PLAN" with
    | error e => rw [h] at hsome; cases hsome
    | ok a' => rw [h] at hsome; exact congrArg _ (Option.some.inj hsome)
  exact ⟨hstop, hread, ofCompletion_append hstop hread _⟩

end Planner.Answer

end SkillPlan
