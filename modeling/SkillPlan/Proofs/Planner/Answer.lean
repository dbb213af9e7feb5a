import Mathlib.Data.List.Nodup
import SkillPlan.Planner.Answer
import SkillPlan.Proofs.Bag
import SkillPlan.Proofs.Json.Text
import SkillPlan.Proofs.Planner.Commas
import SkillPlan.Proofs.Text

/-!
# Answers are read as they were meant

A model that continues the opening with well-formed JSON is understood word for word: dropping
commas leaves the text alone, since the scanner that drops them follows strings exactly as the
reader does, and the reader gets back what was written.
-/

namespace SkillPlan

namespace Planner.Answer

open Json (quote compact compactFields)
open Json.Raw (value? value?_space value?_quote value?_obj field?_space field?_quote separated?_last
  separated?_comma)

/-! ## The text of an answer -/

/-- Texts as the fields of an object. -/
def textFields (pairs : List (String × String)) : List (String × Json) :=
  pairs.map fun e => (e.1, .str e.2)

/-- The text with which a model continues the opening when it makes no mistake. -/
def continuation (rationale function : String) (pairs : List (String × String)) : String :=
  String.ofList (quote rationale ++ ", \"function\": ".toList ++ quote function ++
    ", \"parameters\": ".toList ++ compact (.obj (textFields pairs)) ++ "\x7d\x7d".toList)

/-- The fields that the opening and the continuation give. -/
def fieldsMeant (rationale function : String) (pairs : List (String × String)) :
    List (String × Json) :=
  [("rationale", .str rationale), ("function", .str function),
    ("parameters", .obj (textFields pairs))]

/-- The value that the opening and the continuation stand for. -/
def meant (rationale function : String) (pairs : List (String × String)) : Json :=
  .obj [("plan", .obj (fieldsMeant rationale function pairs))]

/-- The characters of the whole text, taken apart at its strings. -/
theorem toList_answer (rationale function : String) (pairs : List (String × String)) :
    (answerOpening ++ continuation rationale function pairs).toList =
      '\x7b' :: (quote "plan" ++ ':' :: '\x7b' :: ' ' :: (quote "rationale" ++ ':' ::
        (quote rationale ++ ',' :: ' ' :: (quote "function" ++ ':' :: ' ' ::
          (quote function ++ ',' :: ' ' :: (quote "parameters" ++ ':' :: ' ' :: '\x7b' ::
            (compactFields (textFields pairs) ++ ['\x7d', '\x7d', '\x7d']))))))) := by
  have hopening : answerOpening.toList = '\x7b' :: (quote "plan" ++ ':' :: '\x7b' :: ' ' ::
      (quote "rationale" ++ [':'])) := by decide
  have hfunction : ", \"function\": ".toList = ',' :: ' ' :: (quote "function" ++ [':', ' ']) := by
    decide
  have hparameters : ", \"parameters\": ".toList =
      ',' :: ' ' :: (quote "parameters" ++ [':', ' ']) := by decide
  have hend : "\x7d\x7d".toList = ['\x7d', '\x7d'] := by decide
  rw [continuation, String.toList_append, String.toList_ofList, hopening, hfunction, hparameters,
    hend, compact]
  simp only [List.append_assoc, List.cons_append, List.nil_append]

/-! ## Reading the text -/

/-- Texts are read back. -/
theorem value?_textFields (fuel : Nat) (pairs : List (String × String)) :
    ∀ f ∈ textFields pairs, ∀ c rest, c = ',' ∨ c = '\x7d' →
      value? (fuel + 1) (compact f.2 ++ c :: rest) = some (Json.toRaw f.2, c :: rest) := by
  intro f hf c rest _
  obtain ⟨e, -, rfl⟩ := List.mem_map.mp hf
  exact value?_quote fuel e.2 (c :: rest)

/-- The object of the parameters is read back, whatever follows it. -/
theorem value?_parameters {fuel : Nat} {pairs : List (String × String)}
    (hfuel : pairs.length ≤ fuel + 2) (rest : List Char) :
    value? (fuel + 2) ('\x7b' :: (compactFields (textFields pairs) ++ '\x7d' :: rest)) =
      some (Json.toRaw (.obj (textFields pairs)), rest) := by
  cases pairs with
  | nil => rfl
  | cons e more =>
    have hlength : (textFields (e :: more)).length ≤ fuel + 1 + 1 := by
      rwa [textFields, List.length_map]
    rw [value?_obj (Json.Raw.separated?_compactFields
      (value?_textFields fuel (e :: more)) (List.cons_ne_nil _ _) hlength rest), Json.toRaw]

/-- The text of an answer is read as what was meant. -/
theorem value?_answer (rationale function : String) {pairs : List (String × String)} {fuel : Nat}
    (hfuel : pairs.length ≤ fuel + 2) :
    value? (fuel + 4) (answerOpening ++ continuation rationale function pairs).toList =
      some (Json.toRaw (meant rationale function pairs), []) := by
  have hparameters := field?_quote (value? (fuel + 2))
    ((value?_space _ _).trans (value?_parameters hfuel ['\x7d', '\x7d'])) "parameters"
  have hfunction := fun rest => field?_quote (value? (fuel + 2))
    ((value?_space _ _).trans (value?_quote (fuel + 1) function (',' :: rest))) "function"
  have hrationale := fun rest => field?_quote (value? (fuel + 2))
    (value?_quote (fuel + 1) rationale (',' :: rest)) "rationale"
  -- the three fields from the last one on
  have hclose : Json.Raw.isSpace '\x7d' = false := rfl
  have hlast := separated?_last hclose ((field?_space _ _).trans hparameters) fuel
  have hmiddle := separated?_comma (by decide) ((field?_space _ _).trans (hfunction _)) hlast
  have hall := separated?_comma (by decide) ((field?_space _ _).trans (hrationale _)) hmiddle
  have hplan := field?_quote (value? (fuel + 3)) (value?_obj hall) "plan"
  rw [toList_answer]
  exact value?_obj (separated?_last hclose hplan (fuel + 3))

/-- No comma is dropped. -/
theorem withoutFinalCommas_answer (rationale function : String) (pairs : List (String × String)) :
    withoutFinalCommas (answerOpening ++ continuation rationale function pairs) =
      answerOpening ++ continuation rationale function pairs := by
  have hread := value?_answer rationale function (Nat.le_add_right pairs.length 2)
  obtain ⟨text, htext, hitem⟩ := Json.Raw.exists_spelling hread
  refine Kept.withoutFinalCommas_eq ?_
  rw [htext]
  exact .document (.mk hitem .nil)

/-- Every pair of texts takes at least one character. -/
theorem length_le_compactFields (pairs : List (String × String)) :
    pairs.length ≤ (compactFields (textFields pairs)).length := by
  induction pairs with
  | nil => exact Nat.le_refl 0
  | cons e rest ih =>
    cases rest with
    | nil =>
      simp only [textFields, List.map_cons, List.map_nil, compactFields, List.length_append,
        List.length_cons, List.length_nil]
      omega
    | cons e' rest =>
      simp only [textFields, List.map_cons, compactFields, List.length_append,
        List.length_cons] at ih ⊢
      omega

theorem ofRaw?_textFields (levels : Nat) (pairs : List (String × String)) :
    ∀ f ∈ textFields pairs, Json.ofRaw? levels (Json.toRaw f.2) = some f.2 := by
  intro f hf
  obtain ⟨e, -, rfl⟩ := List.mem_map.mp hf
  exact Json.ofRaw?_toRaw_str levels e.2

/-- What is read means what was meant. -/
theorem ofRaw?_meant (rationale function : String) {pairs : List (String × String)}
    (hdistinct : (Pairs.keys pairs).Nodup) :
    Json.ofRaw? Json.maxDepth (Json.toRaw (meant rationale function pairs)) =
      some (meant rationale function pairs) := by
  -- names that differ when folded differ
  have hnames : ((textFields pairs).map Prod.fst).Nodup := by
    rw [textFields, List.map_map]
    refine List.Nodup.of_map Text.fold ?_
    rwa [List.map_map]
  have hparameters := Json.ofRaw?_toRaw_obj (ofRaw?_textFields 124 pairs) hnames
  have hplan : Json.ofRaw? 126 (Json.toRaw (.obj (fieldsMeant rationale function pairs))) =
      some (.obj (fieldsMeant rationale function pairs)) := by
    refine Json.ofRaw?_toRaw_obj ?_
      (show ["rationale", "function", "parameters"].Nodup by decide)
    intro f hf
    simp only [fieldsMeant, List.mem_cons, List.not_mem_nil, or_false] at hf
    obtain rfl | rfl | rfl := hf
    · exact Json.ofRaw?_toRaw_str 125 rationale
    · exact Json.ofRaw?_toRaw_str 125 function
    · exact hparameters
  refine Json.ofRaw?_toRaw_obj ?_ (show ["plan"].Nodup by decide)
  intro f hf
  cases List.mem_singleton.mp hf
  exact hplan

/-- Setting parameters whose names are new adds them at the end. -/
theorem foldl_addParameter (pairs : List (String × String)) (b : Bag)
    (hdistinct : (Pairs.keys (b.entries ++ pairs)).Nodup) :
    (textFields pairs).foldl addParameter b = ⟨b.entries ++ pairs, hdistinct⟩ := by
  rw [textFields, List.foldl_map]
  exact Bag.foldl_set pairs b hdistinct

/-- The value that was meant is the answer. -/
theorem ofJson_meant (rationale function : String) {pairs : List (String × String)}
    (hdistinct : (Pairs.keys pairs).Nodup) :
    ofJson (meant rationale function pairs) = .ok ⟨rationale, function, ⟨pairs, hdistinct⟩⟩ := by
  have hparameters := foldl_addParameter pairs ∅ hdistinct
  have hfields : ofFields (fieldsMeant rationale function pairs) =
      .ok ⟨rationale, function, (textFields pairs).foldl addParameter ∅⟩ := rfl
  rw [hparameters] at hfields
  exact hfields

/-- An answer without a mistake is understood word for word, wherever the stop sequence is not in
    it: the rationale, the function, and the parameters in their order and casing. -/
theorem ofCompletion_continuation (rationale function : String) (pairs : List (String × String))
    (hdistinct : (Pairs.keys pairs).Nodup) (stop : String)
    (hstop : stop = "" ∨ ¬ stop.toList <:+: (continuation rationale function pairs).toList) :
    ofCompletion (continuation rationale function pairs) stop =
      .ok ⟨rationale, function, ⟨pairs, hdistinct⟩⟩ := by
  have huntil : untilStop (continuation rationale function pairs) stop =
      continuation rationale function pairs := by
    rw [untilStop]
    split
    · rfl
    · rename_i hne
      rw [Text.before?_eq_none (hstop.resolve_left hne)]
  -- the reader may go as deep as the text is long, and every pair takes part of the text
  have hlength : pairs.length + 3 ≤
      (answerOpening ++ continuation rationale function pairs).toList.length := by
    have hfields := length_le_compactFields pairs
    rw [toList_answer]
    simp only [List.length_cons, List.length_append, List.length_nil]
    omega
  obtain ⟨fuel, hfuel⟩ := Nat.exists_eq_add_of_le' hlength
  have hfuel' : pairs.length ≤ fuel + pairs.length + 2 := by omega
  have hread := value?_answer rationale function hfuel'
  have hfirst : Json.Raw.first? (answerOpening ++ continuation rationale function pairs).toList =
      some (Json.toRaw (meant rationale function pairs), []) := by
    rw [Json.Raw.first?, hfuel, ← hread]
    rfl
  have hvalue : Json.firstOfText (answerOpening ++ continuation rationale function pairs) =
      .value (meant rationale function pairs) := by
    have hspace : Json.Raw.skipSpace
        (answerOpening ++ continuation rationale function pairs).toList =
          (answerOpening ++ continuation rationale function pairs).toList := by
      rw [toList_answer]
      rfl
    have hne : (answerOpening ++ continuation rationale function pairs).toList.isEmpty = false := by
      rw [toList_answer]
      rfl
    simp only [Json.firstOfText, hspace, hne, hfirst, ofRaw?_meant rationale function hdistinct,
      Bool.false_eq_true, ↓reduceIte]
    rfl
  rw [ofCompletion, huntil, ofText, withoutFinalCommas_answer, hvalue]
  exact ofJson_meant rationale function hdistinct

/-- Commas, brackets and quotes inside the strings do no harm. -/
theorem ofCompletion_continuation_brackets :
    let pairs := [("Path", "a,\x7d\""), ("content", "\\,]")]
    ofCompletion (continuation "r,]" "Files.Write" pairs) "#END-OF-PLAN" =
      .ok ⟨"r,]", "Files.Write", ⟨pairs, by decide⟩⟩ :=
  ofCompletion_continuation "r,]" "Files.Write" _ (by decide) "#END-OF-PLAN"
    (.inr fun h => absurd (h.subset (show '#' ∈ "#END-OF-PLAN".toList by decide))
      (by decide +kernel))

end Planner.Answer

end SkillPlan
