import SkillPlan.Proofs.Plan.Reachable

/-!
# Plans that are read, written and read again

A text may leave out what a record writes, so the record of a plan can be deeper than the text from
which the plan was read: the bags of the innermost nodes are written even where they are empty. A
plan that was read has at most 64 levels of nodes, and the texts of its record are read again if it
has at most 63: `loaded_again`.
-/

namespace SkillPlan.Plan

variable {W : Type}

/-! ## Levels -/

theorem levels_eq (p : Plan W) : p.levels = stepsLevels p.steps + 1 := by
  cases p
  rfl

theorem stepsLevels_le {steps : List (Plan W)} {n : Nat} (h : ∀ step ∈ steps, step.levels ≤ n) :
    stepsLevels steps ≤ n := by
  induction steps with
  | nil => exact Nat.zero_le n
  | cons step rest ih =>
    exact Nat.max_le.mpr ⟨h step List.mem_cons_self, ih fun q hq => h q (List.mem_cons_of_mem _ hq)⟩

theorem exists_of_lt_stepsLevels {steps : List (Plan W)} {n : Nat} (h : n < stepsLevels steps) :
    ∃ step ∈ steps, n < step.levels := by
  refine Classical.not_not.mp fun hnone => Nat.not_le.mpr h (stepsLevels_le fun step hstep => ?_)
  exact Nat.le_of_not_lt fun hlt => hnone ⟨step, hstep, hlt⟩

theorem stepsLevels_map {f : Plan W → Plan W} {steps : List (Plan W)}
    (h : ∀ step ∈ steps, (f step).levels = step.levels) :
    stepsLevels (steps.map f) = stepsLevels steps := by
  induction steps with
  | nil => rfl
  | cons step rest ih =>
    rw [List.map_cons, stepsLevels, stepsLevels, h step List.mem_cons_self,
      ih fun q hq => h q (List.mem_cons_of_mem _ hq)]

/-! ## What is read -/

theorem readNode?_eq_some {k : Nat} {readSteps : Json.Raw → Option (List (Plan W))} {x : Json.Raw}
    {p : Plan W} (h : readNode? k readSteps x = some p) :
    p.node.function = none ∧ ∃ f, Json.Fields.of? k fieldNames x = some f ∧
      f.withDefault? "next_step_index" 0 Json.asWord? = some p.node.cursor ∧
      f.withDefault? "state" ∅ (Json.asBag? (k - 1)) = some p.node.state ∧
      f.withDefault? "steps" [] readSteps = some p.steps := by
  unfold readNode? at h
  simp only [Option.bind_eq_bind, Option.bind_eq_some_iff, Option.pure_def, Option.some.injEq] at h
  obtain ⟨f, hf, name, -, collection, -, description, -, cursor, hcursor, state, hstate, parameters,
    -, outputs, -, steps, hsteps, rationale, -, rfl⟩ := h
  exact ⟨rfl, f, hf, hcursor, hstate, hsteps⟩

/-- What is known about a plan that was read: it takes a container, each of its steps was read with
    two containers less to open, and its own cursor is a word. -/
theorem ofRaw?_eq_some {k : Nat} {x : Json.Raw} {p : Plan W} (h : ofRaw? k x = some p) :
    p.node.function = none ∧ p.node.cursor < Json.wordBound ∧ 1 ≤ k ∧
      ∀ step ∈ p.steps, 2 ≤ k ∧ ∃ y, ofRaw? (k - 2) y = some step := by
  obtain ⟨readSteps, hread, hsteps⟩ : ∃ readSteps : Json.Raw → Option (List (Plan W)),
      readNode? k readSteps x = some p ∧ ∀ y out, readSteps y = some out →
        ∀ step ∈ out, 2 ≤ k ∧ ∃ y, ofRaw? (k - 2) y = some step := by
    unfold ofRaw? at h
    split at h
    · refine ⟨_, h, fun y out hout step hstep => ⟨Nat.le_add_left 2 _, ?_⟩⟩
      exact Json.exists_of_mem_asList? hout hstep
    · exact ⟨_, h, fun y out hout => by cases hout⟩
  obtain ⟨hfunction, f, hf, hcursor, -, hgiven⟩ := readNode?_eq_some hread
  refine ⟨hfunction, ?_, ?_, ?_⟩
  · obtain hzero | ⟨y, hy⟩ := Json.Fields.withDefault?_eq_some hcursor
    · rw [hzero]
      decide
    · exact Json.asWord?_lt hy
  · refine Nat.one_le_iff_ne_zero.mpr fun hzero => ?_
    subst hzero
    cases x <;> simp [Json.Fields.of?] at hf
  · obtain hnil | ⟨y, hy⟩ := Json.Fields.withDefault?_eq_some hgiven
    · rw [hnil]
      exact fun step hstep => by cases hstep
    · exact hsteps y _ hy

/-- A plan that was read has no functions, its cursors are words, and every level of its nodes but
    the innermost took two containers. -/
theorem ofRaw?_sound {k : Nat} {x : Json.Raw} {p : Plan W} (h : ofRaw? k x = some p) :
    p.WordCursors ∧ p.withoutFunctions = p ∧ 2 * p.levels ≤ k + 1 := by
  induction p using Plan.induction generalizing k x with
  | h node steps ih =>
    obtain ⟨hfunction, hcursor, hk, hsteps⟩ := ofRaw?_eq_some h
    have hbelow : ∀ step ∈ steps, step.WordCursors ∧ step.withoutFunctions = step ∧
        step.levels ≤ (k - 1) / 2 := fun step hstep => by
      obtain ⟨htwo, y, hy⟩ := hsteps step hstep
      obtain ⟨hwords, hwithout, hlevels⟩ := ih step hstep hy
      exact ⟨hwords, hwithout, by omega⟩
    refine ⟨.ofSteps hcursor fun step hstep => (hbelow step hstep).1, ?_, ?_⟩
    · rw [withoutFunctions, stepsWithoutFunctions_eq_map,
        List.map_congr_left fun step hstep => (hbelow step hstep).2.1, List.map_id', ← hfunction]
    · have hlevels := stepsLevels_le fun step hstep => (hbelow step hstep).2.2
      rw [levels]
      omega

/-! ## Records that are too deep -/

/-- A reader that may not open two containers for each level of nodes does not read the record of a
    plan. -/
theorem ofRaw?_toRaw_eq_none {p : Plan W} {k : Nat} (hk : k < 2 * p.levels) :
    (ofRaw? k (Json.toRaw p.toJson) : Option (Plan W)) = none := by
  induction p using Plan.induction generalizing k with
  | h node steps ih =>
    cases hread : ofRaw? k (Json.toRaw (toJson ⟨node, steps⟩)) with
    | none => rfl
    | some q =>
      have hfields : ∀ k, Json.Fields.of? (k + 1) fieldNames (Json.toRaw (toJson ⟨node, steps⟩)) =
          some (.ofFields (fieldsOf node (stepsToJson steps))) := fun k =>
        Json.Fields.of?_toRaw_obj
          (fun f hf => (sublist_fieldNames node _).subset (List.mem_map_of_mem hf))
          (nodup_fieldsOf node _)
      obtain ⟨-, -, -, -, hstate, -, -, hlist, -⟩ := lookup_fieldsOf node (stepsToJson steps)
      match k with
      | 0 => cases (ofRaw?_eq_some hread).2.2.1
      | 1 =>
        -- there is no container left for the state
        obtain ⟨-, f, hf, -, hbag, -⟩ := readNode?_eq_some hread
        cases (hfields 0).symm.trans hf
        rw [Json.Fields.withDefault?_of_lookup hstate] at hbag
        cases hbag
      | k + 2 =>
        rw [levels] at hk
        obtain ⟨step, hstep, hdeep⟩ := exists_of_lt_stepsLevels
          (show k / 2 < stepsLevels steps by omega)
        have hnone : Json.asList? (k + 1) (fun _ => ofRaw? (W := W) k)
            (Json.toRaw (.arr (steps.map toJson))) = none :=
          Json.asList?_toRaw_eq_none hstep (ih step hstep (by omega))
        rw [ofRaw?] at hread
        obtain ⟨-, f, hf, -, -, hgiven⟩ := readNode?_eq_some hread
        cases (hfields (k + 1)).symm.trans hf
        rw [Json.Fields.withDefault?_of_lookup hlist, stepsToJson_eq_map, hnone] at hgiven
        cases hgiven

/-- A text that holds the record of a plan of more than 63 levels, in whatever layout, is not
    read. -/
theorem ofText_of_deep {p : Plan W} (hlevels : 63 < p.levels) {text : String}
    (htext : Json.Raw.ofChars? text.toList = some (Json.toRaw p.toJson)) :
    ∃ e, (ofText text : Except Error (Plan W)) = .error e ∧ e.kind = .serializationFailed := by
  have hdecode : Json.decodeText? (ofRaw? (W := W)) text = none := by
    rw [Json.decodeText?, htext, Option.bind_some]
    apply ofRaw?_toRaw_eq_none
    rw [Json.maxDepth]
    omega
  rw [ofText, hdecode]
  exact ⟨_, rfl, rfl⟩

/-! ## Plans that are loaded -/

/-- The plans that are loaded from a text: as they are, or bound to a registry. -/
inductive LoadedFrom (s : String) : Plan W → Prop
  | unbound {p : Plan W} (h : ofText s = .ok p) : LoadedFrom s p
  | bound {p : Plan W} (r : Registry W) (h : ofTextBound r s = .ok p) : LoadedFrom s p

theorem levels_bind (r : Registry W) (p : Plan W) : (p.bind r).levels = p.levels := by
  induction p using Plan.induction with
  | h node steps ih => rw [levels_eq, steps_bind, stepsLevels_map ih, levels]

theorem ofText_of_decodeText? {s : String} {p : Plan W}
    (h : Json.decodeText? ofRaw? s = some p) (hfault : p.cursorFault? = none) :
    ofText s = .ok p := by
  simp only [ofText, h, checkCursors, hfault]

theorem ofText_eq_ok {s : String} {p : Plan W} (h : ofText s = .ok p) :
    p.WordCursors ∧ p.CursorsWithin ∧ p.levels ≤ 64 ∧ p.withoutFunctions = p := by
  rw [ofText] at h
  split at h
  · rename_i p' hdecode
    obtain ⟨rfl, hwithin⟩ := checkCursors_of_ok h
    obtain ⟨x, -, hx⟩ := Option.bind_eq_some_iff.mp hdecode
    obtain ⟨hwords, hwithout, hlevels⟩ := ofRaw?_sound hx
    rw [Json.maxDepth] at hlevels
    exact ⟨hwords, hwithin, by omega, hwithout⟩
  · cases h

theorem LoadedFrom.sound {s : String} {p : Plan W} (h : p.LoadedFrom s) :
    p.WordCursors ∧ p.CursorsWithin ∧ p.levels ≤ 64 := by
  cases h with
  | unbound h =>
    obtain ⟨hwords, hwithin, hlevels, -⟩ := ofText_eq_ok h
    exact ⟨hwords, hwithin, hlevels⟩
  | bound r h =>
    rw [ofTextBound] at h
    cases hread : ofText s with
    | error e => rw [hread] at h; cases h
    | ok q =>
      rw [hread] at h
      cases h
      obtain ⟨hwords, hwithin, hlevels, -⟩ := ofText_eq_ok hread
      exact ⟨hwords.bind r, hwithin.bind r, by rwa [levels_bind]⟩

/-- A plan that was loaded from a text, whatever the text was like, has at most 64 levels. With 63
    or fewer it is read again from both texts of its record, as the same record; with 64 neither of
    them is read. -/
theorem loaded_again {s : String} {p : Plan W} (h : p.LoadedFrom s) {text : String}
    (htext : text = p.toText ∨ text = p.toWideText) :
    p.levels ≤ 64 ∧
      (p.levels ≤ 63 → ofText text = .ok p.withoutFunctions ∧
        p.withoutFunctions.toJson = p.toJson) ∧
      (p.levels = 64 → ∃ e, (ofText text : Except Error (Plan W)) = .error e ∧
        e.kind = .serializationFailed) := by
  obtain ⟨hwords, hwithin, hlevels⟩ := h.sound
  refine ⟨hlevels, fun hfew => ?_, fun hmany => ?_⟩
  · obtain ⟨hcompact, hwide, hsame⟩ := ofText_both_layouts hfew hwithin hwords
    obtain rfl | rfl := htext
    · exact ⟨hcompact, hsame⟩
    · exact ⟨hwide, hsame⟩
  · have hplain := plain_toJson hwords
    obtain rfl | rfl := htext
    · exact ofText_of_deep (by omega) hplain.ofChars?_toText
    · exact ofText_of_deep (by omega) hplain.ofChars?_toWideText

/-- A plan of which one step is an array that stops early and the other an object without most of
    its fields, with a field that no record has and with one key twice, in different case. -/
theorem loaded_again_sparse :
    let s := "\x7b\"steps\":[[\"a\"],\x7b\"state\":\x7b\"K\":\"1\",\"k\":\"2\"\x7d,\"x\":0\x7d]\x7d"
    let blank : PlanNode Unit := ⟨"", "", "", ∅, ∅, ∅, 0, none, none⟩
    let p : Plan Unit := ⟨blank, [⟨{ blank with name := "a" }, []⟩,
      ⟨{ blank with state := .ofList [("K", "2")] }, []⟩]⟩
    p.LoadedFrom s ∧ p.levels ≤ 63 ∧ ofText p.toText = .ok p.withoutFunctions ∧
      p.withoutFunctions.toJson = p.toJson := by
  intro s blank p
  have hdecode : Json.decodeText? ofRaw? s = some p := by
    subst s blank p
    rfl
  have hloaded : p.LoadedFrom s := .unbound (ofText_of_decodeText? hdecode rfl)
  have hfew : p.levels ≤ 63 := by decide
  obtain ⟨-, hagain, -⟩ := loaded_again hloaded (.inl rfl)
  exact ⟨hloaded, hfew, hagain hfew⟩

/-- Steps in steps, 64 levels of them, of which the text gives nothing else: they are read, but not
    again. -/
theorem deepest_not_loaded_again :
    let text := (List.replicate 63 "\x7b\"steps\":[".toList).flatten ++ "\x7b\x7d".toList ++
      (List.replicate 63 "]\x7d".toList).flatten
    ∃ p : Plan Unit, ofText (String.ofList text) = .ok p ∧
      (∃ e, (ofText p.toText : Except Error (Plan Unit)) = .error e ∧
        e.kind = .serializationFailed) ∧
      ∃ e, (ofText p.toWideText : Except Error (Plan Unit)) = .error e ∧
        e.kind = .serializationFailed := by
  intro text
  have hread : ((Json.Raw.ofChars? text).bind (ofRaw? (W := Unit) Json.maxDepth)).map
      (fun p => (p.levels, p.cursorFault?.isNone)) = some (64, true) := by
    decide +kernel
  obtain ⟨p, hp, hboth⟩ := Option.map_eq_some_iff.mp hread
  obtain ⟨hlevels, hfault⟩ := Prod.mk.inj hboth
  have hok : ofText (String.ofList text) = .ok p := by
    refine ofText_of_decodeText? ?_ (Option.isNone_iff_eq_none.mp hfault)
    rw [Json.decodeText?, String.toList_ofList, hp]
  have hplain := plain_toJson (ofText_eq_ok hok).1
  have hdeep : 63 < p.levels := by omega
  exact ⟨p, hok, ofText_of_deep hdeep hplain.ofChars?_toText,
    ofText_of_deep hdeep hplain.ofChars?_toWideText⟩

end SkillPlan.Plan
