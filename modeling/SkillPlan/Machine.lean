import SkillPlan.Calendar
import SkillPlan.FileTree
import SkillPlan.Http.Network
import SkillPlan.World

/-!
# Machines

The world that the program itself runs in: files, a network and a clock.
-/

namespace SkillPlan

/-- A machine with files, a network and a clock, on which runs can be cancelled. -/
structure Machine where
  files : FileTree := ∅
  network : Http.Network := .silent
  clock : Moment := default
  cancelled : Bool := false

namespace Machine

instance : Cancellable Machine := ⟨cancelled⟩
instance : Holds FileTree Machine := ⟨files, fun t m => { m with files := t }⟩
instance : Holds Http.Network Machine := ⟨network, fun n m => { m with network := n }⟩
instance : Holds Moment Machine := ⟨clock, fun t m => { m with clock := t }⟩

end Machine

end SkillPlan
