import SkillPlan.Http.Url

/-!
# Addresses in requests

What a request takes from an address: the user, who is named in a field of the request, and the
rest, as far as a request may have it.
-/

namespace SkillPlan.Http.Url

/-! ## Users -/

/-- The address without user and password. -/
def withoutUser (u : Url) : Url :=
  { u with authority := u.authority.map fun a => { a with user := "", password := none } }

/-- The address as a request names it: with a path, and without the fragment. -/
def asRequested (u : Url) : Url :=
  { u with
    path := if u.authority.isSome ∧ u.path = .parts [] then .parts [""] else u.path
    fragment := none }

/-- The user and the password that an address gives, as texts. A user that is no text hides the
    password too. -/
def credentials? (u : Url) : Option (String × Option String) := do
  let a ← u.authority
  let user ← percentDecode? a.user.toList
  let password := a.password.bind fun p => percentDecode? p.toList
  if user = "" ∧ password = none then none else return (user, password)

/-! ## Requests -/

/-- The bytes that an address in a request may have. -/
def maxRequestLength : Nat := 65534

/-- The characters that a scheme in a request may have. -/
def maxSchemeLength : Nat := 64

/-- The colons that the host in a request may have. -/
def maxColons : Nat := 8

/-- Whether a request may have the character before its path. -/
def isAuthorityChar (c : Char) : Bool :=
  c.isAlphanum || ['!', '$', '&', '\'', '(', ')', '*', '+', ',', '-', '.', ':', ';', '=', '@', '[',
    ']', '_', '~'].contains c

/-- What is known of an authority in a request while it is read. -/
structure AuthorityCheck where
  colons : Nat := 0
  percent : Bool := false
  opened : Bool := false
  closed : Bool := false

/-- Reads one character of an authority in a request. What stands before `@` or in brackets is no
    matter after it. -/
def AuthorityCheck.step (s : AuthorityCheck) (c : Char) : Option AuthorityCheck :=
  match c with
  | ':' => if maxColons ≤ s.colons then none else some { s with colons := s.colons + 1 }
  | '[' => if s.percent || s.opened then none else some { s with opened := true }
  | ']' =>
    if !s.opened || s.closed then none
    else some { s with closed := true, colons := 0, percent := false }
  | '@' => some { s with colons := 0, percent := false }
  | '%' => some { s with percent := true }
  | c => if isAuthorityChar c then some s else none

/-- Whether a request may have the authority. -/
def isAuthority (cs : List Char) : Bool :=
  match cs.foldlM AuthorityCheck.step {} with
  | some s =>
    s.opened == s.closed && s.colons ≤ 1 && !s.percent && cs.getLast? ≠ some '@' && !cs.isEmpty
  | none => false

/-- Whether the address can stand in a request. One without an authority has to look like one. -/
def isRequestable (u : Url) : Bool :=
  u.text.utf8ByteSize ≤ maxRequestLength &&
    match u.authority with
    | some a =>
      u.scheme.length ≤ maxSchemeLength && isAuthority (userText a ++ hostText a).toList
    | none =>
      isAuthority u.text.toList && !u.text.toList.any (fun c => c == '/' || c == '?' || c == '#')

end SkillPlan.Http.Url
