/-!
# Worlds

Functions act on a world that the executor hands through a run. The executor itself asks the world
for one thing only, whether the run has been cancelled, and before it asks, time passes; functions
that touch files, the network or the clock ask for a world that holds these.
-/

namespace SkillPlan

/-- A world in which a run can be cancelled. -/
class Cancellable (W : Type) where
  /-- Whether the run has been cancelled. -/
  isCancelled : W → Bool

/-- A world in which things happen while no function runs, such as that somebody cancels the run. -/
class Elapsing (W : Type) where
  /-- The world a moment later. -/
  elapse : W → W

/-- A world in which nothing happens on its own. -/
instance (priority := low) {W : Type} : Elapsing W := ⟨id⟩

/-- A world that holds an `A`. -/
class Holds (A W : Type) where
  /-- The part of the world. -/
  get : W → A
  /-- The world with another part in its place. -/
  set : A → W → W

end SkillPlan
