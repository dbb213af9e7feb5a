import SkillPlan.Cli.Commands
import SkillPlan.Machine
import SkillPlan.Proofs.Plan.Keeping
import SkillPlan.Proofs.Plan.Rebinding
import SkillPlan.Proofs.Plan.Step
import SkillPlan.Proofs.Store.Directory
import SkillPlan.Proofs.Store.Operation

/-!
# Running one step of a plan in a file

A plan that was loaded stands in a file. The command that runs one step of it fails and leaves this
file as it was, or writes the plan back with one more step done: `exec_step_all_or_nothing`. A plan
that calls a function itself passes the guards of the command too, but has no step to run, so nothing
is called and the plan is written back as it was loaded.
-/

namespace SkillPlan

/-- A world that holds what was put into it. -/
class LawfulHolds (A W : Type) [Holds A W] : Prop where
  get_set (a : A) (w : W) : Holds.get (Holds.set a w) = a

instance : LawfulHolds FileTree Machine := ⟨fun _ _ => rfl⟩

/-- A plan that calls a function and has no steps has no step left. -/
theorem Plan.hasNextStep_of_isLeaf {W : Type} {p : Plan W} (h : p.isLeaf = true) :
    p.hasNextStep = false := by
  rw [isLeaf, Bool.and_eq_true, List.isEmpty_iff] at h
  rw [hasNextStep_eq_false_iff, h.1]
  exact Nat.zero_le _

namespace Cli

open Storage (Directory.path)

variable {W : Type} {s : Setup W} {target : String} {w w' : W} {p : Plan W} {q : Place}
  {content : ByteArray} {fromFile : Bool} {e : Error}

/-- A plan is dismissed unless it calls a function itself or has a step left. -/
theorem nothingToRun?_eq_none_iff :
    nothingToRun? p = none ↔ p.isLeaf = true ∨ p.hasNextStep = true := by
  unfold nothingToRun?
  cases p.isLeaf with
  | true => simp
  | false =>
    cases hsteps : p.steps.isEmpty with
    | true =>
      have hnone : p.hasNextStep = false := by
        rw [Plan.hasNextStep_eq_false_iff, List.isEmpty_iff.mp hsteps]
        exact Nat.zero_le _
      simp [hnone]
    | false => cases p.hasNextStep <;> simp

variable [Holds FileTree W]

/-- The files of a world. -/
def files (w : W) : FileTree := Holds.get w

/-- The path of the file that the plan of a target stands in. -/
def Setup.pathOf (s : Setup W) (target : String) (fromFile : Bool) : String :=
  if fromFile then target else Directory.path s.storeDirectory target

/-- A plan that can be restored is loaded from a file with its text. -/
theorem loadTarget_of_readText (hp : p.Restorable s.registry) (hlevels : p.levels ≤ 63)
    (hwords : p.WordCursors) (htext : (files w).readText target = .ok p.toWideText) :
    loadTarget s target w = (.ok (true, p), w) := by
  have hplan : (Plan.ofText p.toWideText : Except Error (Plan W)) = .ok p.withoutFunctions :=
    Plan.ofText_of_ofChars? hlevels hp.cursors hwords (Plan.plain_toJson hwords).ofChars?_toWideText
  have hfile : (Holds.get w : FileTree).isFile target = true := FileTree.isFile_of_readText htext
  unfold loadTarget
  rw [if_pos hfile]
  change (Holds.get w : FileTree).readText target = _ at htext
  simp only [htext, Plan.ofTextBound, hplan, Except.map,
    Plan.bind_withoutFunctions hp.unmixed hp.bound]

section

variable [LawfulHolds FileTree W]

/-! ## The store -/

/-- Opening the store leaves every file as it is. -/
theorem node?_openStore (s : Setup W) (w : W) (q : Place) (content : ByteArray) :
    (files (openStore s w).2).node? q = some (.file content) ↔
      (files w).node? q = some (.file content) := by
  have hfiles : files (openStore s w).2 =
      (Storage.Directory.create s.storeDirectory (files w)).1 := LawfulHolds.get_set _ w
  rw [hfiles]
  exact Storage.Directory.node?_create s.storeDirectory (files w) q content

/-- Where a plan is not saved, every file is left as it is. -/
theorem node?_savePlan_of_error (h : (savePlan s target p w).1 = .error e) :
    (files (savePlan s target p w).2).node? q = some (.file content) ↔
      (files w).node? q = some (.file content) := by
  have hopen := node?_openStore s w q content
  unfold savePlan at h ⊢
  generalize openStore s w = opened at hopen h
  obtain ⟨result, w'⟩ := opened
  cases result with
  | error e => exact hopen
  | ok u =>
    cases hsave : s.store.save (Holds.get w' : FileTree) target p with
    | error e => simpa [hsave] using hopen
    | ok t => simp [hsave] at h

/-- A plan that was saved is the text of its file. -/
theorem readText_savePlan (h : (savePlan s target p w).1 = .ok ()) :
    (files (savePlan s target p w).2).readText (Directory.path s.storeDirectory target) =
      .ok p.toWideText := by
  unfold savePlan at h ⊢
  generalize openStore s w = opened at h
  obtain ⟨result, w'⟩ := opened
  cases result with
  | error e => cases h
  | ok u =>
    cases hsave : s.store.save (Holds.get w' : FileTree) target p with
    | error e => simp [hsave] at h
    | ok t =>
      simp only [hsave, files, LawfulHolds.get_set]
      exact Storage.Directory.readText_of_set hsave

/-! ## Targets -/

/-- A plan that was loaded stands in a file, which stood there before. -/
theorem exists_file_of_loadTarget (h : loadTarget s target w = (.ok (fromFile, p), w')) :
    ∃ place content ends,
      (files w').locate (s.pathOf target fromFile) = .ok (place, some (.file content), ends) ∧
      (files w).node? place = some (.file content) := by
  unfold loadTarget at h
  cases hfile : (Holds.get w : FileTree).isFile target with
  | true =>
    obtain ⟨place, content, ends, hlocate⟩ := FileTree.exists_of_isFile hfile
    rw [if_pos hfile] at h
    cases hread : (Holds.get w : FileTree).readText target with
    | error f => simp [hread] at h
    | ok text =>
      cases hplan : Plan.ofTextBound s.registry text with
      | error e => simp [hread, hplan, Except.map] at h
      | ok q =>
        simp only [hread, hplan, Except.map, Prod.mk.injEq, Except.ok.injEq] at h
        obtain ⟨⟨rfl, -⟩, rfl⟩ := h
        exact ⟨place, content, ends, hlocate, FileTree.node?_of_locate_file hlocate⟩
  | false =>
    rw [hfile, if_neg Bool.false_ne_true] at h
    have hopen := node?_openStore s w
    generalize openStore s w = opened at hopen h
    obtain ⟨result, w₁⟩ := opened
    cases result with
    | error e => simp at h
    | ok u =>
      cases hload : (s.store.load (Holds.get w₁ : FileTree) target : Except Error (Plan W)) with
      | error e => simp [PlanStore.loadBound, hload, Except.map] at h
      | ok q =>
        simp only [PlanStore.loadBound, hload, Except.map, Prod.mk.injEq, Except.ok.injEq] at h
        obtain ⟨⟨rfl, -⟩, rfl⟩ := h
        obtain ⟨value, hvalue⟩ := PlanStore.get?_of_load hload
        obtain ⟨place, content, ends, hlocate⟩ := Storage.Directory.exists_file_of_get? hvalue
        exact ⟨place, content, ends, hlocate,
          (hopen place content).mp (FileTree.node?_of_locate_file hlocate)⟩

/-- Where a plan is not written back, every file is left as it is. -/
theorem node?_writeTarget_of_error (h : (writeTarget s target fromFile p w).1 = .error e) :
    (files (writeTarget s target fromFile p w).2).node? q = some (.file content) ↔
      (files w).node? q = some (.file content) := by
  unfold writeTarget at h ⊢
  cases fromFile with
  | false => exact node?_savePlan_of_error h
  | true =>
    cases hwrite : (Holds.get w : FileTree).writeText target p.toWideText with
    | error f => exact Iff.rfl
    | ok t => simp [hwrite] at h

/-- A plan that was written back is the text of the file. -/
theorem readText_writeTarget (h : (writeTarget s target fromFile p w).1 = .ok ()) :
    (files (writeTarget s target fromFile p w).2).readText (s.pathOf target fromFile) =
      .ok p.toWideText := by
  unfold writeTarget at h ⊢
  cases fromFile with
  | false => exact readText_savePlan h
  | true =>
    cases hwrite : (Holds.get w : FileTree).writeText target p.toWideText with
    | error f => simp [hwrite] at h
    | ok t =>
      simp only [↓reduceIte, files, LawfulHolds.get_set]
      exact FileTree.readText_of_writeText hwrite

end

/-! ## One step -/

variable [Cancellable W]

/-- The command that runs one step loads the plan first. -/
theorem execute_exec_step {input : Option String}
    (hload : loadTarget s target w = (.ok (fromFile, p), w')) (hkept : nothingToRun? p = none) :
    (Command.exec target true input).execute s w =
      execStep s target fromFile (unboundWarning p) p (input.elim ∅ (∅ : Bag).withInput) w' := by
  change execPlan s target true input w = _
  unfold execPlan
  rw [hload]
  simp only [hkept, ↓reduceIte]
  cases input <;> rfl

/-- Where the step fails nothing is written. -/
theorem execStep_of_error {b : Bag} (h : (p.invokeNextStep s.services b w).result = .error e)
    (messages : String) :
    (execStep s target fromFile messages p b w).result = .error e ∧
      (execStep s target fromFile messages p b w).world =
        (p.invokeNextStep s.services b w).world := by
  unfold execStep
  simp [Plan.runNextStep, h]

/-- Where the step succeeds the plan that it leaves is written back. -/
theorem execStep_of_ok {b : Bag} (h : (p.invokeNextStep s.services b w).result = .ok ())
    (messages : String) :
    let next := p.invokeNextStep s.services b w
    let written := writeTarget s target fromFile next.plan next.world
    (execStep s target fromFile messages p b w).result = written.1 ∧
      (execStep s target fromFile messages p b w).world = written.2 := by
  unfold execStep
  simp [Plan.runNextStep, h]

section

variable [LawfulHolds FileTree W] {b : Bag} {messages : String}

/-- A file that no call changed is as it was when the step or the attempt to write failed. -/
theorem node?_execStep_of_error (hfile : (files w).node? q = some (.file content))
    (hcalls : ∀ c ∈ p.nextReturns s.services b w [],
      (files c.world).node? q = some (.file content))
    (h : (execStep s target fromFile messages p b w).result = .error e) :
    (files (execStep s target fromFile messages p b w).world).node? q =
      some (.file content) := by
  have hlasts : Lasts fun w : W => (files w).node? q = some (.file content) := fun _ h => h
  have hstep := Plan.invokeNextStep_keeps hlasts hfile hcalls
  cases hnext : (p.invokeNextStep s.services b w).result with
  | error e' =>
    rw [(execStep_of_error hnext messages).2]
    exact hstep
  | ok u =>
    obtain ⟨hresult, hworld⟩ := execStep_of_ok hnext messages
    rw [hresult] at h
    rw [hworld]
    exact (node?_writeTarget_of_error h).mpr hstep

/-- When the command succeeds the step did, and the plan that it left is the text of the file. -/
theorem readText_execStep (h : (execStep s target fromFile messages p b w).result = .ok ()) :
    (p.invokeNextStep s.services b w).result = .ok () ∧
      (files (execStep s target fromFile messages p b w).world).readText (s.pathOf target fromFile) =
        .ok (p.invokeNextStep s.services b w).plan.toWideText := by
  cases hnext : (p.invokeNextStep s.services b w).result with
  | error e =>
    rw [(execStep_of_error hnext messages).1] at h
    cases h
  | ok u =>
    obtain ⟨hresult, hworld⟩ := execStep_of_ok hnext messages
    rw [hresult] at h
    rw [hworld]
    exact ⟨rfl, readText_writeTarget h⟩

end

/-- A plan that the command for one step loads and does not dismiss stands in a file. When the
    command fails this file is as it was, if no function that was called has changed it. When it
    succeeds a plan was written back: the one that was loaded with its next step run and its cursor
    one further on, or, where the plan calls a function itself, the one that was loaded, and then no
    function was called. -/
theorem exec_step_all_or_nothing [LawfulHolds FileTree W] (input : Option String)
    (hload : loadTarget s target w = (.ok (fromFile, p), w')) (hkept : nothingToRun? p = none) :
    let path := s.pathOf target fromFile
    let given := input.elim ∅ (∅ : Bag).withInput
    let report := (Command.exec target true input).execute s w
    ∃ place content ends,
      (files w').locate path = .ok (place, some (.file content), ends) ∧
      (files w).node? place = some (.file content) ∧
      (∀ e, report.result = .error e →
        (∀ c ∈ p.nextReturns s.services given w' [],
          (files c.world).node? place = some (.file content)) →
        (files report.world).node? place = some (.file content)) ∧
      (report.result = .ok () → ∃ q : Plan W, (files report.world).readText path = .ok q.toWideText ∧
        (p.isLeaf = false → q.node.cursor = p.node.cursor + 1 ∧
          ∃ step, p.steps[p.node.cursor]? = some step ∧
            let ran := step.invoke s.services (p.node.stepVariables given step) w'
            ran.result = .ok () ∧ q.steps = p.steps.set p.node.cursor ran.plan ∧
              p.node.Takes step.node (Text.trim ran.caller.input) q.node) ∧
        (p.isLeaf = true → q = p ∧ p.nextReturns s.services given w' [] = [])) := by
  intro path given report
  obtain ⟨place, content, ends, hlocate, hbefore⟩ := exists_file_of_loadTarget hload
  have hfile : (files w').node? place = some (.file content) := FileTree.node?_of_locate_file hlocate
  have hreport : report = execStep s target fromFile (unboundWarning p) p given w' :=
    execute_exec_step hload hkept
  rw [hreport]
  refine ⟨place, content, ends, hlocate, hbefore,
    fun e herror hcalls => node?_execStep_of_error hfile hcalls herror, fun hok => ?_⟩
  obtain ⟨hnext, htext⟩ := readText_execStep hok
  refine ⟨_, htext, fun hsteps => ?_, fun hleaf => ?_⟩
  · have hleft := (nothingToRun?_eq_none_iff.mp hkept).resolve_left (by simp [hsteps])
    obtain ⟨step, hstep, hran, hplan⟩ := Plan.invokeNextStep_of_ok hleft hnext
    rw [hplan]
    exact ⟨rfl, step, hstep, hran, rfl, p.node.takes_commit step.node _⟩
  · have hnone := Plan.hasNextStep_of_isLeaf hleaf
    rw [Plan.invokeNextStep_eq_self hnone]
    refine ⟨rfl, ?_⟩
    rw [Plan.nextReturns, List.getElem?_eq_none (Plan.hasNextStep_eq_false_iff.mp hnone)]

/-! ## A machine with one file -/

namespace Sample

/-- A function that is always done. -/
def say : SkillFunction Machine := .ofText { collection := "T", name := "Say" } fun _ => " done "

def setup : Setup Machine where
  registry := .ofList [say]
  backend := .error (Error.new .ioFailed "")
  storeDirectory := "plans"

/-- The machine with the text of a plan in its only file. -/
def machine (p : Plan Machine) : Machine where
  files := (∅ : FileTree).put ["p.json"] (.file p.toWideText.toUTF8)

theorem locate_machine (p : Plan Machine) : (files (machine p)).locate "p.json" =
    .ok (["p.json"], some (.file p.toWideText.toUTF8), false) := rfl

theorem writeTarget_machine (p q : Plan Machine) :
    (writeTarget setup "p.json" true q (machine p)).1 = .ok () := rfl

theorem restorable_say : (Plan.ofFunction say).Restorable setup.registry := by
  refine .ofFunction ?_
  change ((∅ : Registry Machine).add say).get? _ _ = _
  rw [Registry.get?_add, if_pos (by decide)]

/-- A plan with a step that says it is done and one that nothing is known of. -/
def plan (cursor : Nat) : Plan Machine :=
  ⟨{ PlanNode.ofGoal "g" with cursor }, [.ofFunction say, .ofGoal "lost"]⟩

theorem loadTarget_plan {cursor : Nat} (hcursor : cursor ≤ 2) :
    loadTarget setup "p.json" (machine (plan cursor)) =
      (.ok (true, plan cursor), machine (plan cursor)) := by
  have hlost : setup.registry.get? planCollection "lost" = none := by
    change ((∅ : Registry Machine).add say).get? _ _ = _
    rw [Registry.get?_add, if_neg (by decide)]
    rfl
  have hrestorable : (plan cursor).Restorable setup.registry := by
    refine .ofSteps (.inl rfl) (fun h => by cases h) hcursor ?_
    exact List.forall_mem_cons.mpr ⟨restorable_say, List.forall_mem_singleton.mpr (.ofGoal hlost)⟩
  have hwords : (plan cursor).WordCursors := by
    refine .ofSteps (Nat.lt_of_le_of_lt hcursor (by decide)) ?_
    exact List.forall_mem_cons.mpr
      ⟨.ofSteps (by decide) nofun, List.forall_mem_singleton.mpr (.ofSteps (by decide) nofun)⟩
  have hlevels : (plan 0).levels ≤ 63 := by decide
  have htext := FileTree.readText_of_locate (locate_machine (plan cursor))
  exact loadTarget_of_readText hrestorable hlevels hwords htext

end Sample

/-- The first step of the sample plan is run and the file is written; the second one fails, and the
    file stays as it is. -/
theorem exec_step_all_or_nothing_lost :
    let s := Sample.setup
    let exec := (Command.exec "p.json" true none).execute s
    let first := Sample.machine (Sample.plan 0)
    let second := Sample.machine (Sample.plan 1)
    loadTarget s "p.json" first = (.ok (true, Sample.plan 0), first) ∧
      nothingToRun? (Sample.plan 0) = none ∧ (exec first).result = .ok () ∧
      (∃ q : Plan Machine, q.node.cursor = 1 ∧
        (files (exec first).world).readText "p.json" = .ok q.toWideText) ∧
      loadTarget s "p.json" second = (.ok (true, Sample.plan 1), second) ∧
      nothingToRun? (Sample.plan 1) = none ∧
      ∃ e, (exec second).result = .error e ∧
        (files (exec second).world).node? ["p.json"] =
          some (.file (Sample.plan 1).toWideText.toUTF8) := by
  intro s exec first second
  have hfirst : loadTarget s "p.json" first = (.ok (true, Sample.plan 0), first) :=
    Sample.loadTarget_plan (by decide)
  have hsecond : loadTarget s "p.json" second = (.ok (true, Sample.plan 1), second) :=
    Sample.loadTarget_plan (by decide)
  have hleft : nothingToRun? (Sample.plan 0) = none := by decide
  have hleft' : nothingToRun? (Sample.plan 1) = none := by decide
  obtain ⟨e, hlost⟩ : ∃ e, ((Sample.plan 1).invokeNextStep s.services ∅ second).result = .error e :=
    ⟨_, rfl⟩
  have hok : (exec first).result = .ok () := by
    have hexec : exec first = _ := execute_exec_step hfirst hleft
    rw [hexec, (execStep_of_ok rfl _).1]
    exact Sample.writeTarget_machine _ _
  have herror : (exec second).result = .error e := by
    have hexec : exec second = _ := execute_exec_step hsecond hleft'
    rw [hexec]
    exact (execStep_of_error hlost _).1
  have hcalls : (Sample.plan 1).nextReturns s.services ∅ second [] = [] := rfl
  have hpath : s.pathOf "p.json" true = "p.json" := rfl
  refine ⟨hfirst, hleft, hok, ?_, hsecond, hleft', e, herror, ?_⟩
  · obtain ⟨_, _, _, -, -, -, hwritten⟩ := exec_step_all_or_nothing none hfirst hleft
    obtain ⟨q, htext, hstep, -⟩ := hwritten hok
    have hleaf : (Sample.plan 0).isLeaf = false := rfl
    rw [hpath] at htext
    exact ⟨q, (hstep hleaf).1, htext⟩
  · obtain ⟨place, content, ends, hlocate, -, hkept, -⟩ :=
      exec_step_all_or_nothing none hsecond hleft'
    rw [hpath, Sample.locate_machine, Except.ok.injEq, Prod.mk.injEq, Prod.mk.injEq,
      Option.some_inj, FileNode.file.injEq] at hlocate
    obtain ⟨rfl, rfl, -⟩ := hlocate
    refine hkept e herror fun c hc => ?_
    rw [Option.elim_none, hcalls] at hc
    cases hc

/-- A plan that calls a function is loaded and not dismissed. The command succeeds and calls nothing,
    and what is loaded afterwards is the same plan, with its cursor where it was. -/
theorem exec_step_of_leaf :
    let s := Sample.setup
    let p := Plan.ofFunction Sample.say
    let w := Sample.machine p
    let report := (Command.exec "p.json" true none).execute s w
    loadTarget s "p.json" w = (.ok (true, p), w) ∧ nothingToRun? p = none ∧ p.node.cursor = 0 ∧
      report.result = .ok () ∧ p.nextReturns s.services ∅ w [] = [] ∧
      loadTarget s "p.json" report.world = (.ok (true, p), report.world) := by
  intro s p w report
  have hwords : p.WordCursors := .ofSteps (by decide) nofun
  have hload : ∀ w', (files w').readText "p.json" = .ok p.toWideText →
      loadTarget s "p.json" w' = (.ok (true, p), w') := fun w' =>
    loadTarget_of_readText Sample.restorable_say (by decide) hwords
  have hfirst := hload w (FileTree.readText_of_locate (Sample.locate_machine p))
  have hleft : nothingToRun? p = none := by decide
  have hnext : (p.invokeNextStep s.services ∅ w).result = .ok () := rfl
  have hreport : report = execStep s "p.json" true (unboundWarning p) p ∅ w :=
    execute_exec_step hfirst hleft
  have hwritten := Sample.writeTarget_machine p p
  refine ⟨hfirst, hleft, rfl, ?_, rfl, hload _ ?_⟩
  · rw [hreport, (execStep_of_ok hnext _).1]
    exact hwritten
  · rw [hreport, (execStep_of_ok hnext _).2]
    exact readText_writeTarget hwritten

end Cli

end SkillPlan
