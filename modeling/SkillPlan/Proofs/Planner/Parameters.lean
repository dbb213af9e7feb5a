import SkillPlan.Planner.Answer
import SkillPlan.Proofs.Json.Number
import SkillPlan.Proofs.Json.Slot
import SkillPlan.Proofs.Planner.Trailing

/-!
# Numbers as parameters

A parameter that is not a text is kept as the text with which its value is written, and that need
not be the text from which the value was read. Around whatever number stands there, an answer is
understood in the same way; a literal without fraction and exponent is kept as it stands if and only
if its number fits 64 bits: `Place.integer_kept_iff`.
-/

namespace SkillPlan.Planner.Answer

open Json (Literal Raw maxDepth ofRaw?)
open Json.Raw (Item Numeral)
open Text (fold)

/-! ## Fields -/

theorem findField_eq_find? (name : String) (fields : List (String × Json)) :
    Json.findField name fields = (fields.find? (·.1 = name)).map Prod.snd := by
  induction fields with
  | nil => rfl
  | cons f rest ih =>
    obtain ⟨k, v⟩ := f
    by_cases hk : k = name
    · simp [Json.findField, hk]
    · simp [Json.findField, hk, ih]

section Slot

variable {name : String} (s : Json.Slot name)

/-- The field in a place is the one of its name. -/
theorem field?_slot (v : Json) : field? (s.fields v) name = some v := by
  have hexact : s.before.find? (·.1 = name) = none ∧ s.after.find? (·.1 = name) = none := by
    simp only [List.find?_eq_none, decide_eq_true_eq]
    exact ⟨fun f hf h => s.before_ne f hf (congrArg fold h),
      fun f hf h => s.after_ne f hf (congrArg fold h)⟩
  have hsame : s.before.find? (fun f => Text.sameName f.1 name) = none := by
    simp only [List.find?_eq_none, Text.sameName_iff]
    exact s.before_ne
  have hkey : Text.sameName s.key name = true := Text.sameName_iff.mpr s.same
  rw [field?, findField_eq_find?, Json.Slot.fields, List.find?_append, List.find?_append,
    List.find?_cons, List.find?_cons, hexact.1, hexact.2, hsame, hkey]
  split <;> rfl

/-- A field of another name does not depend on the value in a place. -/
theorem field?_slot_of_ne {other : String} (h : fold other ≠ fold name) (v w : Json) :
    field? (s.fields v) other = field? (s.fields w) other := by
  have hexact : s.key ≠ other := fun hkey => h (hkey ▸ s.same)
  have hsame : Text.sameName s.key other = false := by
    rw [← Bool.not_eq_true, Text.sameName_iff, s.same]
    exact h.symm
  simp only [field?, findField_eq_find?, Json.Slot.fields, List.find?_append, List.find?_cons,
    hexact, hsame, decide_false]

theorem get?_addParameter_of_ne {f : String × Json} (h : fold name ≠ fold f.1) (b : Bag) :
    (addParameter b f).get? name = b.get? name := by
  unfold addParameter
  split
  · rfl
  · rw [Bag.get?_set, if_neg h]
  · rw [Bag.get?_set, if_neg h]

theorem get?_foldl_addParameter_of_ne {fields : List (String × Json)}
    (h : ∀ f ∈ fields, fold f.1 ≠ fold name) (b : Bag) :
    (fields.foldl addParameter b).get? name = b.get? name := by
  induction fields generalizing b with
  | nil => rfl
  | cons f rest ih =>
    rw [List.foldl_cons, ih (fun g hg => h g (List.mem_cons_of_mem _ hg)),
      get?_addParameter_of_ne (h f List.mem_cons_self).symm]

/-- A number is kept as it is written. -/
theorem get?_foldl_addParameter (k : Json.Num) (b : Bag) :
    ((s.fields (.num k)).foldl addParameter b).get? name = some (String.ofList k.chars) := by
  rw [Json.Slot.fields, List.foldl_append, List.foldl_cons,
    get?_foldl_addParameter_of_ne s.after_ne, addParameter, Bag.get?_set, if_pos s.same.symm]
  rfl

end Slot

/-- The other fields of an answer mean the same whatever its parameters are. -/
theorem ofFields_slot (s : Json.Slot "parameters") {v : Json} {a : Answer}
    (h : ofFields (s.fields v) = .ok a) (ps : List (String × Json)) :
    ofFields (s.fields (.obj ps)) = .ok ⟨a.rationale, a.function, ps.foldl addParameter ∅⟩ := by
  have hother : ∀ name, fold name ≠ fold "parameters" →
      textField (s.fields (.obj ps)) name = textField (s.fields v) name := fun name hne => by
    rw [textField, textField, field?_slot_of_ne s hne (.obj ps) v]
  have hparameters : parametersField (s.fields (.obj ps)) = .ok (ps.foldl addParameter ∅) := by
    rw [parametersField, field?_slot]
  rw [ofFields] at h ⊢
  rw [hother "rationale" (by decide), hother "function" (by decide), hparameters]
  cases hr : textField (s.fields v) "rationale" with
  | error e => rw [hr] at h; cases h
  | ok r =>
    cases hf : textField (s.fields v) "function" with
    | error e => rw [hr, hf] at h; cases h
    | ok f =>
      cases hps : parametersField (s.fields v) with
      | error e => rw [hr, hf, hps] at h; cases h
      | ok b =>
        rw [hr, hf, hps] at h
        cases h
        rfl

/-! ## Answers -/

/-- What a text taken apart means as an answer, if it means anything. -/
def read? (raw : Raw) : Option (Except Error Answer) := (ofRaw? maxDepth raw).map ofJson

/-- A text that begins with an object means what the object means. -/
theorem ofText_eq_ok_iff {s : String} {fields : List (List Char × Raw)} {text rest : List Char}
    (htext : Item (.obj fields) text) (hs : (withoutFinalCommas s).toList = text ++ rest)
    {a : Answer} : ofText s = .ok a ↔ read? (.obj fields) = some (.ok a) := by
  have hfirst := Json.first?_of_item htext rest
  rw [← hs] at hfirst
  constructor
  · intro h
    obtain ⟨root, hroot, ha⟩ := firstOfText_of_ofText h
    obtain ⟨fields', rest', hfirst', hmeans⟩ := Json.firstOfText_eq_obj_iff.mp hroot
    cases hfirst.symm.trans hfirst'
    rw [read?, hmeans, Option.map_some, ha]
  · intro h
    obtain ⟨v, hv, ha⟩ := Option.map_eq_some_iff.mp h
    cases v with
    | obj root =>
      rw [ofText, Json.firstOfText_eq_obj_iff.mpr ⟨fields, rest, hfirst, hv⟩]
      exact ha
    | _ => cases ha

/-- The place of a parameter in the text of an answer. -/
structure Place (name : String) where
  plan : Raw.Slot "plan"
  parameters : Raw.Slot "parameters"
  parameter : Raw.Slot name

namespace Place

variable {name : String} (p : Place name)

/-- The answer with a value in the place. -/
def fill (x : Raw) : Raw := p.plan.fill (p.parameters.fill (p.parameter.fill x))

/-- An answer that is understood with some value in the place is understood with every number
    there, and the parameter is the number as it is written. -/
theorem exists_answer {x : Raw} {a : Answer} (h : read? (p.fill x) = some (.ok a)) :
    ∃ answer : Json.Num → Answer,
      (∀ k, (answer k).parameters.get? name = some (String.ofList k.chars)) ∧
        ∀ n : Literal, read? (p.fill (.num n)) = n.number?.map fun k => .ok (answer k) := by
  obtain ⟨root, hroot, ha⟩ := Option.map_eq_some_iff.mp h
  obtain ⟨plan, ⟨v₁, hv₁, rfl⟩, hplan⟩ := p.plan.exists_read hroot
  obtain ⟨parameters, ⟨v₂, hv₂, rfl⟩, hparameters⟩ := p.parameters.exists_read hv₁
  obtain ⟨parameter, -, hparameter⟩ := p.parameter.exists_read hv₂
  have hobject : ∀ v, ofJson (plan.fill (parameters.fill v)) = ofFields (parameters.fields v) :=
    fun v => by
      rw [Json.Slot.fill, Json.Slot.fill, ofJson, field?_slot]
  rw [hobject] at ha
  refine ⟨fun k => ⟨a.rationale, a.function, (parameter.fields (.num k)).foldl addParameter ∅⟩,
    fun k => get?_foldl_addParameter parameter k ∅, fun n => ?_⟩
  cases hn : n.number? with
  | none =>
    have hnone : ∀ levels, ofRaw? levels (.num n) = none := fun levels => by
      rw [ofRaw?, hn, Option.map_none]
    rw [read?, fill, p.plan.ofRaw?_fill_eq_none (p.parameters.ofRaw?_fill_eq_none
      (p.parameter.ofRaw?_fill_eq_none (hnone _)))]
    rfl
  | some k =>
    have hsome : ∀ levels, ofRaw? levels (.num n) = some (.num k) := fun levels => by
      rw [ofRaw?, hn, Option.map_some]
    rw [read?, fill, hplan _ _ (hparameters _ _ (hparameter _ _ (hsome _))), Option.map_some,
      hobject, Json.Slot.fill, ofFields_slot parameters ha]
    rfl

/-- A whole number that a model gives as a parameter is kept as the model wrote it if and only if it
    fits 64 bits. -/
theorem integer_kept_iff (hanswer : ∃ x a, read? (p.fill x) = some (.ok a)) {n : Literal}
    {digits : List Char} (hn : Numeral n digits) (hwhole : n.isWhole = true) {s : String}
    {text rest : List Char} (htext : Item (p.fill (.num n)) text)
    (hs : (withoutFinalCommas s).toList = text ++ rest) :
    (∃ a, ofText s = .ok a ∧ a.parameters.get? name = some (String.ofList digits)) ↔ n.Fits := by
  obtain ⟨x, a, hx⟩ := hanswer
  obtain ⟨answer, hparameter, hread⟩ := p.exists_answer hx
  have hok : ∀ b, ofText s = .ok b ↔ n.number?.map (fun k => Except.ok (answer k)) = some (.ok b) :=
    fun b => (ofText_eq_ok_iff htext hs).trans (by rw [← hread]; rfl)
  constructor
  · rintro ⟨b, hb, hdigits⟩
    obtain ⟨k, hk, hbk⟩ := Option.map_eq_some_iff.mp ((hok b).mp hb)
    obtain rfl := Except.ok.inj hbk
    rw [hparameter, Option.some_inj, String.ofList_inj] at hdigits
    exact Literal.fits_of_number? hn hwhole hk hdigits
  · intro hfits
    obtain ⟨k, hk, hchars⟩ := hfits.number?_eq hn hwhole
    refine ⟨answer k, (hok _).mpr (by rw [hk, Option.map_some]), ?_⟩
    rw [hparameter, hchars]

/-- The smallest number of 64 bits, with a final comma behind the fields and words behind the
    answer. -/
theorem integer_kept_smallest :
    let n : Literal := ⟨true, "9223372036854775808".toList, [], none⟩
    let digits := "-9223372036854775808".toList
    let account : Place "ACCOUNT" := {
      plan := ⟨[], "Plan".toList, [], by decide, by decide, by decide⟩
      parameters := ⟨[("function".toList, .str "Pay".toList)], "parameters".toList, [],
        by decide, by decide, by decide⟩
      parameter := ⟨[], "account".toList, [("to".toList, .str "x".toList)],
        by decide, by decide, by decide⟩ }
    let s := "\x7b\"Plan\":\x7b\"function\":\"Pay\",\"parameters\":" ++
      "\x7b\"account\":-9223372036854775808,\"to\":\"x\", \x7d\x7d\x7d ok"
    (∃ x a, read? (account.fill x) = some (.ok a)) ∧ Numeral n digits ∧ n.isWhole = true ∧
      (∃ text rest, Item (account.fill (.num n)) text ∧
        (withoutFinalCommas s).toList = text ++ rest) ∧
      n.Fits ∧
      ∃ a, ofText s = .ok a ∧ a.parameters.get? "ACCOUNT" = some (String.ofList digits) := by
  intro n digits account s
  have hanswer : ∃ x a, read? (account.fill x) = some (.ok a) :=
    ⟨.null, ⟨"", "Pay", ⟨[("to", "x")], by decide⟩⟩, rfl⟩
  have hn : Numeral n digits := by
    have hread : Json.Raw.number? digits = some (n, []) := by decide
    obtain ⟨text, htext, hnumeral⟩ := Json.Raw.numeral_of_number? hread
    rwa [htext, List.append_nil]
  have hitem : ∃ text rest, Item (account.fill (.num n)) text ∧
      (withoutFinalCommas s).toList = text ++ rest := by
    have hclean : withoutFinalCommas s =
        "\x7b\"Plan\":\x7b\"function\":\"Pay\",\"parameters\":" ++
          "\x7b\"account\":-9223372036854775808,\"to\":\"x\" \x7d\x7d\x7d ok" := by
      decide +kernel
    have hfirst : Json.Raw.first? (withoutFinalCommas s).toList =
        some (account.fill (.num n), " ok".toList) := by
      rw [hclean]
      rfl
    obtain ⟨text, hs, htext⟩ := Json.Raw.exists_spelling hfirst
    exact ⟨text, _, htext, hs⟩
  have hfits : n.Fits := by decide
  obtain ⟨text, rest, htext, hs⟩ := hitem
  exact ⟨hanswer, hn, rfl, ⟨text, rest, htext, hs⟩, hfits,
    (account.integer_kept_iff hanswer hn rfl htext hs).mpr hfits⟩

/-- The first number beyond 64 bits is rounded, and a zero with a minus becomes a fraction. -/
theorem integer_not_kept :
    let answer (account : String) := "\x7b\"plan\":\x7b\"function\":\"Pay\"," ++
      "\"parameters\":\x7b\"account\":" ++ account ++ "\x7d\x7d\x7d"
    let account? (s : String) := (ofText s).toOption.bind (·.parameters.get? "account")
    account? (answer "0") = some "0" ∧
      account? (answer "18446744073709551616") = some "1.8446744073709552e+19" ∧
      account? (answer "-0") = some "-0.0" := by
  decide +kernel

end Place

end SkillPlan.Planner.Answer
