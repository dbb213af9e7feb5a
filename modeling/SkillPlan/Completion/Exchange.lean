import SkillPlan.Completion.Failure
import SkillPlan.Http.Network
import SkillPlan.Json.Decode
import SkillPlan.World

/-!
# Exchanges with backends

One request, one answer: the failure that each way of not getting an answer stands for.
-/

namespace SkillPlan.Completion

open Http (Network)

/-- What an answer stands for, when its body is read with the given reader. -/
def ofAnswer {α : Type} (read : Nat → Json.Raw → Option α) (a : Http.Answer) : Except Failure α :=
  if a.isSuccess then
    match a.wholeText?.bind (Json.decodeText? read) with
    | some x => .ok x
    | none => .error (.parse "error decoding response body")
  else .error (Failure.ofStatus a.status a.retryAfter? a.text)

/-- Posts a JSON text and reads the answer. -/
def exchange {α W : Type} [Holds Network W] (address : String) (fields : List Http.Field)
    (body : Json) (read : Nat → Json.Raw → Option α) (w : W) : Except Failure α × W :=
  match Http.Request.post address fields (Json.toText body) with
  | .error detail => (.error (.network detail), w)
  | .ok request =>
    let (outcome, network) := (Holds.get w : Network).fetch request
    let result := match outcome with
      | .ok answer => ofAnswer read answer
      | .error detail => .error (.network detail)
    (result, Holds.set network w)

end SkillPlan.Completion
