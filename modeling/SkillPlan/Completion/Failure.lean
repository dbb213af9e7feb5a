/-!
# Failures of completion backends

What can go wrong between a request for a completion and its text, and how an HTTP status is
classified.
-/

namespace SkillPlan.Completion

/-- Why a backend gave no completion. The last is never reported: a program that `panicked` breaks
    off with this message. It is passed on like a failure, as nothing on the way catches either. -/
inductive Failure where
  | network (detail : String)
  | api (status : Nat) (body : String)
  | parse (detail : String)
  | rateLimited (retryAfter : Option Nat)
  | invalidRequest (detail : String)
  | authenticationFailed
  | other (detail : String)
  | panicked (message : String)
  deriving DecidableEq, Repr

namespace Failure

/-- The text of a failure. -/
def message : Failure → String
  | network detail => "Network error: " ++ detail
  | api status body => "API error (" ++ toString status ++ "): " ++ body
  | parse detail => "Parse error: " ++ detail
  | rateLimited none => "Rate limited"
  | rateLimited (some seconds) => "Rate limited (retry after " ++ toString seconds ++ "s)"
  | invalidRequest detail => "Invalid request: " ++ detail
  | authenticationFailed => "Authentication failed"
  | other detail => detail
  | panicked message => message

/-- The failure that an HTTP answer with a status other than success stands for. -/
def ofStatus (status : Nat) (retryAfter : Option Nat) (body : String) : Failure :=
  if status = 401 ∨ status = 403 then authenticationFailed
  else if status = 429 then rateLimited retryAfter
  else if status = 400 ∨ status = 404 ∨ status = 422 then invalidRequest body
  else api status body

end Failure

end SkillPlan.Completion
