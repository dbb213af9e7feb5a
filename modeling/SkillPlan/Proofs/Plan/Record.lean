import Mathlib.Data.List.Nodup
import SkillPlan.Plan.Record
import SkillPlan.Proofs.Json.Decode
import SkillPlan.Proofs.Plan.Shape

/-!
# Records are read back

The record of a plan keeps everything but the functions: a plan whose cursors are within its steps
is read back from the text of its record, in either layout, as the plan without its functions.
`ofText_both_layouts` says so for the plans that the reader can go down in; the value of a record is
read back whatever its depth is, by `decodeValue?_toJson`.
-/

namespace SkillPlan

variable {W : Type}

namespace Plan

/-! ## What a record can hold -/

mutual
/-- How many levels of nodes a plan has. -/
def levels : Plan W → Nat
  | ⟨_, steps⟩ => stepsLevels steps + 1

/-- The most levels that one of some steps has. -/
def stepsLevels : List (Plan W) → Nat
  | [] => 0
  | step :: rest => max step.levels (stepsLevels rest)
end

/-- Every cursor is within the steps of its node. -/
def CursorsWithin (p : Plan W) : Prop := p.Everywhere fun q => q.node.cursor ≤ q.steps.length

/-- Every cursor is a whole number of 64 bits. -/
def WordCursors (p : Plan W) : Prop := p.Everywhere fun q => q.node.cursor < Json.wordBound

theorem levels_le_stepsLevels {step : Plan W} {steps : List (Plan W)} (h : step ∈ steps) :
    step.levels ≤ stepsLevels steps := by
  induction steps with
  | nil => cases h
  | cons first rest ih =>
    rw [stepsLevels]
    cases List.mem_cons.mp h with
    | inl hfirst => subst hfirst; exact Nat.le_max_left _ _
    | inr hrest => exact Nat.le_trans (ih hrest) (Nat.le_max_right _ _)

theorem stepsToJson_eq_map (steps : List (Plan W)) : stepsToJson steps = steps.map toJson := by
  induction steps with
  | nil => rfl
  | cons step rest ih => rw [stepsToJson, ih, List.map_cons]

theorem stepsWithoutFunctions_eq_map (steps : List (Plan W)) :
    stepsWithoutFunctions steps = steps.map withoutFunctions := by
  induction steps with
  | nil => rfl
  | cons step rest ih => rw [stepsWithoutFunctions, ih, List.map_cons]

mutual
/-- The functions play no part in the record. -/
theorem toJson_withoutFunctions : ∀ p : Plan W, p.withoutFunctions.toJson = p.toJson
  | ⟨node, steps⟩ => by
    rw [withoutFunctions, toJson, toJson, stepsToJson_withoutFunctions steps]
    rfl

theorem stepsToJson_withoutFunctions :
    ∀ steps : List (Plan W), stepsToJson (stepsWithoutFunctions steps) = stepsToJson steps
  | [] => rfl
  | step :: rest => by
    rw [stepsWithoutFunctions, stepsToJson, stepsToJson, toJson_withoutFunctions step,
      stepsToJson_withoutFunctions rest]
end

/-- A plan without functions has none to lose. -/
theorem withoutFunctions_withoutFunctions (p : Plan W) :
    p.withoutFunctions.withoutFunctions = p.withoutFunctions := by
  induction p using Plan.induction with
  | h node steps ih =>
    simp only [withoutFunctions, stepsWithoutFunctions_eq_map, List.map_map]
    congr 1
    exact List.map_congr_left ih

/-! ## Cursors -/

theorem stepsFault?_eq_none {steps : List (Plan W)} (h : ∀ step ∈ steps, step.cursorFault? = none) :
    stepsFault? steps = none := by
  induction steps with
  | nil => rfl
  | cons step rest ih =>
    rw [stepsFault?, h step List.mem_cons_self, Option.none_or]
    exact ih fun step' hstep' => h step' (List.mem_cons_of_mem _ hstep')

/-- No fault is found in a plan whose cursors are within its steps, bound or not. -/
theorem cursorFault?_withoutFunctions {p : Plan W} (h : p.CursorsWithin) :
    p.withoutFunctions.cursorFault? = none := by
  induction p using Plan.induction with
  | h node steps ih =>
    have hnode : node.cursor ≤ steps.length := h _ List.mem_cons_self
    rw [withoutFunctions, cursorFault?, stepsWithoutFunctions_eq_map, List.length_map,
      if_neg (Nat.not_lt.mpr hnode)]
    apply stepsFault?_eq_none
    intro step hstep
    obtain ⟨step, hmem, rfl⟩ := List.mem_map.mp hstep
    exact ih step hmem (Everywhere.step h hmem)

theorem checkCursors_withoutFunctions {p : Plan W} (h : p.CursorsWithin) :
    p.withoutFunctions.checkCursors = .ok p.withoutFunctions := by
  rw [checkCursors, cursorFault?_withoutFunctions h]

/-! ## Records that are refused -/

/-- The error of the plan itself, if its cursor is beyond its steps. -/
def nodeFault? (p : Plan W) : Option Error :=
  if p.steps.length < p.node.cursor then some p.cursorError else none

mutual
/-- The fault that is reported is the first one that is met on the way down through the plan. -/
theorem cursorFault?_eq : ∀ p : Plan W, p.cursorFault? = (p :: p.descendants).findSome? nodeFault?
  | ⟨node, steps⟩ => by
    simp only [cursorFault?, stepsFault?_eq steps, descendants, List.findSome?_cons, nodeFault?]
    split <;> rfl

theorem stepsFault?_eq : ∀ steps : List (Plan W),
    stepsFault? steps = (stepsDescendants steps).findSome? nodeFault?
  | [] => rfl
  | step :: rest => by
    rw [stepsFault?, cursorFault?_eq step, stepsFault?_eq rest, stepsDescendants,
      List.findSome?_append]
end

theorem checkCursors_eq_error {p : Plan W} {e : Error} (h : p.checkCursors = .error e) :
    ∃ q ∈ p :: p.descendants, q.steps.length < q.node.cursor ∧ e = q.cursorError := by
  unfold checkCursors at h
  split at h
  next e' hfault =>
    cases h
    rw [cursorFault?_eq] at hfault
    obtain ⟨q, hq, hfault⟩ := List.exists_of_findSome?_eq_some hfault
    simp only [nodeFault?, Option.ite_none_right_eq_some] at hfault
    exact ⟨q, hq, hfault.1, (Option.some.inj hfault.2).symm⟩
  next => cases h

theorem checkCursors_of_ok {p p' : Plan W} (h : p.checkCursors = .ok p') :
    p' = p ∧ p.CursorsWithin := by
  unfold checkCursors at h
  split at h
  next => cases h
  next hnone =>
    cases h
    refine ⟨rfl, fun q hq => ?_⟩
    rw [cursorFault?_eq, List.findSome?_eq_none_iff] at hnone
    simpa [nodeFault?] using hnone q hq

/-- A record is refused exactly if some node in it has its cursor beyond its steps. -/
theorem checkCursors_error_iff {p : Plan W} :
    (∃ e, p.checkCursors = .error e) ↔ ∃ q ∈ p :: p.descendants, q.steps.length < q.node.cursor := by
  constructor
  · rintro ⟨e, h⟩
    obtain ⟨q, hq, hbeyond, -⟩ := checkCursors_eq_error h
    exact ⟨q, hq, hbeyond⟩
  · rintro ⟨q, hq, hbeyond⟩
    cases h : p.checkCursors with
    | error e => exact ⟨e, rfl⟩
    | ok p' =>
      have hwithin := (checkCursors_of_ok h).2 q hq
      omega

/-! ## Writing -/

/-- The fields of the record of a node. -/
def fieldsOf (n : PlanNode W) (steps : List Json) : List (String × Json) :=
  [("name", .str n.name), ("skill_name", .str n.collection),
    ("description", .str n.description), ("next_step_index", .ofNat n.cursor),
    ("state", .ofBag n.state), ("named_parameters", .ofBag n.parameters),
    ("named_outputs", .ofBag n.outputs), ("steps", .arr steps)] ++
    (n.rationale.map fun text => ("rationale", .str text)).toList

/-- The fields come in the order of their names; the last one may be missing. -/
theorem sublist_fieldNames (n : PlanNode W) (steps : List Json) :
    ((fieldsOf n steps).map Prod.fst).Sublist fieldNames := by
  unfold fieldsOf fieldNames
  cases n.rationale with
  | none => simp
  | some text => simp

theorem nodup_fieldsOf (n : PlanNode W) (steps : List Json) :
    ((fieldsOf n steps).map Prod.fst).Nodup :=
  (sublist_fieldNames n steps).nodup (by decide)

theorem plain_ofBag (b : Bag) : (Json.ofBag b).Plain := by
  apply Json.Plain.obj
  · -- keys that differ when folded differ
    rw [List.map_map]
    refine List.Nodup.of_map Text.fold ?_
    rw [List.map_map]
    exact b.distinct
  · intro f hf
    obtain ⟨e, -, rfl⟩ := List.mem_map.mp hf
    exact .str e.2

/-- The record of a plan is read back as a value. -/
theorem plain_toJson {p : Plan W} (h : p.WordCursors) : p.toJson.Plain := by
  induction p using Plan.induction with
  | h node steps ih =>
    have hsteps : (Json.arr (stepsToJson steps)).Plain := by
      apply Json.Plain.arr
      intro x hx
      rw [stepsToJson_eq_map] at hx
      obtain ⟨step, hmem, rfl⟩ := List.mem_map.mp hx
      exact ih step hmem (Everywhere.step h hmem)
    apply Json.Plain.obj (nodup_fieldsOf node (stepsToJson steps))
    intro f hf
    obtain hf | hf := List.mem_append.mp hf
    · simp only [List.mem_cons, List.not_mem_nil, or_false] at hf
      obtain rfl | rfl | rfl | rfl | rfl | rfl | rfl | rfl := hf
      · exact .str _
      · exact .str _
      · exact .str _
      · exact .word (h _ List.mem_cons_self)
      · exact plain_ofBag _
      · exact plain_ofBag _
      · exact plain_ofBag _
      · exact hsteps
    · obtain ⟨text, -, rfl⟩ := Option.map_eq_some_iff.mp (Option.mem_toList.mp hf)
      exact .str text

/-- A level of nodes takes two containers: the record and the list of its steps. -/
theorem depth_toJson (p : Plan W) : p.toJson.depth = 2 * p.levels := by
  induction p using Plan.induction with
  | h node steps ih =>
    have hbag : ∀ b, (Json.ofBag b).depth = 1 := by
      intro b
      have hzero : ∀ es : List (String × String),
          Json.depthFields (es.map fun e => (e.1, .str e.2)) = 0 := by
        intro es
        induction es with
        | nil => rfl
        | cons e rest ih => simp [Json.depthFields, Json.depth, ih]
      simp [Json.ofBag, Json.depth, hzero]
    have hsteps : Json.depthItems (stepsToJson steps) = 2 * stepsLevels steps := by
      induction steps with
      | nil => rfl
      | cons step rest ihrest =>
        rw [stepsToJson, Json.depthItems, stepsLevels, ih step List.mem_cons_self,
          ihrest fun q hq => ih q (List.mem_cons_of_mem _ hq)]
        omega
    have hfields : Json.depthFields (fieldsOf node (stepsToJson steps)) =
        Json.depthItems (stepsToJson steps) + 1 := by
      unfold fieldsOf
      cases node.rationale <;> simp [Json.depthFields, Json.depth, Json.ofNat, hbag]
    have hdepth : (toJson ⟨node, steps⟩).depth =
        Json.depthFields (fieldsOf node (stepsToJson steps)) + 1 := rfl
    rw [hdepth, hfields, hsteps, levels]
    omega

/-! ## Reading -/

/-- What is written in each field of a record. -/
theorem lookup_fieldsOf (n : PlanNode W) (steps : List Json) :
    (fieldsOf n steps).lookup "name" = some (.str n.name) ∧
      (fieldsOf n steps).lookup "skill_name" = some (.str n.collection) ∧
      (fieldsOf n steps).lookup "description" = some (.str n.description) ∧
      (fieldsOf n steps).lookup "next_step_index" = some (.ofNat n.cursor) ∧
      (fieldsOf n steps).lookup "state" = some (.ofBag n.state) ∧
      (fieldsOf n steps).lookup "named_parameters" = some (.ofBag n.parameters) ∧
      (fieldsOf n steps).lookup "named_outputs" = some (.ofBag n.outputs) ∧
      (fieldsOf n steps).lookup "steps" = some (.arr steps) ∧
      (fieldsOf n steps).lookup "rationale" = n.rationale.map .str := by
  refine ⟨rfl, rfl, rfl, rfl, rfl, rfl, rfl, rfl, ?_⟩
  unfold fieldsOf
  cases n.rationale <;> rfl

/-- A node is read back without its function, if its steps are read back. -/
theorem readNode?_toRaw {n : PlanNode W} (hword : n.cursor < Json.wordBound) {k : Nat}
    {readSteps : Json.Raw → Option (List (Plan W))} {steps : List Json} {out : List (Plan W)}
    (hsteps : readSteps (Json.toRaw (.arr steps)) = some out) :
    readNode? (k + 2) readSteps (Json.toRaw (n.toJson steps)) =
      some ⟨{ n with function := none }, out⟩ := by
  have hfields : Json.Fields.of? (k + 2) fieldNames (Json.toRaw (n.toJson steps)) =
      some (.ofFields (fieldsOf n steps)) :=
    Json.Fields.of?_toRaw_obj
      (fun f hf => (sublist_fieldNames n steps).subset (List.mem_map_of_mem hf))
      (nodup_fieldsOf n steps)
  obtain ⟨hname, hcollection, hdescription, hcursor, hstate, hparameters, houtputs, hlist, hrationale⟩ :=
    lookup_fieldsOf n steps
  have hword : Json.asWord? (Json.toRaw (Json.ofNat n.cursor)) = some n.cursor :=
    Json.asWord?_toRaw hword
  -- a missing rationale is a missing field
  have hoptional : (Json.Fields.ofFields (fieldsOf n steps)).withDefault? "rationale" none
      (Json.asOption? Json.asString?) = some n.rationale := by
    cases hgiven : n.rationale with
    | none =>
      rw [hgiven] at hrationale
      exact Json.Fields.withDefault?_of_missing hrationale _ _
    | some text =>
      rw [hgiven] at hrationale
      rw [Json.Fields.withDefault?_of_lookup hrationale]
      exact Json.asOption?_toRaw_str text
  unfold readNode?
  simp only [hfields, Option.bind_eq_bind, Option.bind_some, Option.pure_def, hoptional,
    Json.Fields.withDefault?_of_lookup hname, Json.Fields.withDefault?_of_lookup hcollection,
    Json.Fields.withDefault?_of_lookup hdescription, Json.Fields.withDefault?_of_lookup hcursor,
    Json.Fields.withDefault?_of_lookup hstate, Json.Fields.withDefault?_of_lookup hparameters,
    Json.Fields.withDefault?_of_lookup houtputs, Json.Fields.withDefault?_of_lookup hlist,
    Json.asString?_toRaw, Json.asBag?_toRaw, Nat.add_one_sub_one, hword, hsteps]

/-- A reader that may open two containers for each level of nodes reads the record of a plan back,
    except for the functions. -/
theorem ofRaw?_toRaw {p : Plan W} (hwords : p.WordCursors) {k : Nat} (hk : 2 * p.levels ≤ k) :
    ofRaw? k (Json.toRaw p.toJson) = some p.withoutFunctions := by
  induction p using Plan.induction generalizing k with
  | h node steps ih =>
    rw [levels] at hk
    obtain ⟨k, rfl⟩ := Nat.exists_eq_add_of_le' (show 2 ≤ k by omega)
    have hread : ∀ step ∈ steps, ofRaw? k (Json.toRaw step.toJson) = some step.withoutFunctions := by
      intro step hstep
      have hle := levels_le_stepsLevels hstep
      exact ih step hstep (Everywhere.step hwords hstep) (by omega)
    have hsteps : Json.asList? (k + 1) (fun _ => ofRaw? k) (Json.toRaw (.arr (stepsToJson steps))) =
        some (stepsWithoutFunctions steps) := by
      rw [stepsToJson_eq_map, stepsWithoutFunctions_eq_map]
      exact Json.asList?_toRaw hread
    rw [ofRaw?, toJson, withoutFunctions]
    exact readNode?_toRaw (hwords _ List.mem_cons_self) hsteps

/-- The record of a plan, kept as a value, is read back, however deep the plan is. -/
theorem decodeValue?_toJson {p : Plan W} (hwords : p.WordCursors) :
    Json.decodeValue? ofRaw? p.toJson = some p.withoutFunctions := by
  apply ofRaw?_toRaw hwords
  rw [depth_toJson]
  exact Nat.le_succ _

/-- The value of the wide text of a record is the record. -/
theorem ofText?_toWideText {p : Plan W} (hlevels : p.levels ≤ 63) (hwords : p.WordCursors) :
    Json.ofText? (Json.toWideText p.toJson) = some p.toJson := by
  apply (plain_toJson hwords).ofText?_toWideText
  rw [depth_toJson, Json.maxDepth]
  omega

/-- A text that holds the record of a plan of at most 63 levels, in whatever layout, is read as the
    plan without its functions. -/
theorem ofText_of_ofChars? {p : Plan W} (hlevels : p.levels ≤ 63) (hcursors : p.CursorsWithin)
    (hwords : p.WordCursors) {text : String}
    (htext : Json.Raw.ofChars? text.toList = some (Json.toRaw p.toJson)) :
    ofText text = .ok p.withoutFunctions := by
  have hdecode : Json.decodeText? ofRaw? text = some p.withoutFunctions := by
    rw [Json.decodeText?, htext, Option.bind_some]
    apply ofRaw?_toRaw hwords
    rw [Json.maxDepth]
    omega
  simp only [ofText, hdecode]
  exact checkCursors_withoutFunctions hcursors

/-- A plan of at most 63 levels is read back from both texts of its record with everything but its
    functions, and what is read has the same record. -/
theorem ofText_both_layouts {p : Plan W} (hlevels : p.levels ≤ 63) (hcursors : p.CursorsWithin)
    (hwords : p.WordCursors) :
    ofText p.toText = .ok p.withoutFunctions ∧ ofText p.toWideText = .ok p.withoutFunctions ∧
      p.withoutFunctions.toJson = p.toJson := by
  have hplain := plain_toJson hwords
  refine ⟨?_, ?_, toJson_withoutFunctions p⟩
  · exact ofText_of_ofChars? hlevels hcursors hwords hplain.ofChars?_toText
  · exact ofText_of_ofChars? hlevels hcursors hwords hplain.ofChars?_toWideText

/-- A plan in a plan, with quotes, line ends and control characters in its keys and values, cursors
    that have moved, and an empty rationale. -/
theorem ofText_both_layouts_escapes :
    let leaf : Plan Unit := ⟨{ PlanNode.ofGoal "\\" with
      outputs := .ofList [("Say\t", ""), ("é", "")] }, []⟩
    let inner : Plan Unit := ⟨{ PlanNode.ofGoal "in\nner" with
      state := .ofList [("zeta", "\x01"), ("Alpha", "\"1\"")], cursor := 1 }, [leaf]⟩
    let p : Plan Unit := ⟨{ PlanNode.ofGoal "outer" with
      parameters := .ofList [("/", "$x,")], rationale := some "" }, [inner, leaf]⟩
    p.levels ≤ 63 ∧ p.CursorsWithin ∧ p.WordCursors ∧
      ofText p.toText = .ok p.withoutFunctions ∧ ofText p.toWideText = .ok p.withoutFunctions ∧
      p.withoutFunctions.toJson = p.toJson := by
  intro leaf inner p
  have hlevels : p.levels ≤ 63 := by decide
  have hcursors : p.CursorsWithin := by
    have hleaf : leaf.CursorsWithin := .ofSteps (Nat.le_refl 0) nofun
    have hinner : inner.CursorsWithin :=
      .ofSteps (Nat.le_refl 1) (List.forall_mem_singleton.mpr hleaf)
    exact .ofSteps (Nat.zero_le 2) (List.forall_mem_cons.mpr
      ⟨hinner, List.forall_mem_singleton.mpr hleaf⟩)
  have hwords : p.WordCursors := by
    have hleaf : leaf.WordCursors := .ofSteps (by decide) nofun
    have hinner : inner.WordCursors := .ofSteps (by decide) (List.forall_mem_singleton.mpr hleaf)
    exact .ofSteps (by decide) (List.forall_mem_cons.mpr
      ⟨hinner, List.forall_mem_singleton.mpr hleaf⟩)
  exact ⟨hlevels, hcursors, hwords, ofText_both_layouts hlevels hcursors hwords⟩

end Plan

end SkillPlan
