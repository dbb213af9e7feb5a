import SkillPlan.Http.Host

/-!
# Addresses

The parts of an address in normal form: the scheme in lower case, the number that goes with the
scheme left out, `.` and `..` followed, and characters that a part cannot hold written as bytes.
-/

namespace SkillPlan.Http

/-! ## Parts -/

/-- Whom and what an address turns to: a user, a host, and the number of a socket. -/
structure Authority where
  user : String := ""
  password : Option String := none
  host : Option Host
  portNumber : Option Nat := none
  deriving DecidableEq, Repr

/-- A path: parts with slashes before them, or a text that has no parts. -/
inductive UrlPath where
  | parts (ps : List String)
  | whole (text : String)
  deriving DecidableEq, Repr

/-- An address in normal form. -/
structure Url where
  scheme : String
  authority : Option Authority
  path : UrlPath
  query : Option String
  fragment : Option String
  deriving DecidableEq, Repr

namespace Url

/-- The number of the socket that a scheme has when none is given. -/
def schemeNumber? (scheme : String) : Option Nat :=
  [("http", 80), ("https", 443), ("ws", 80), ("wss", 443), ("ftp", 21)].lookup scheme

/-- The scheme of files. -/
def fileScheme : String := "file"

/-- Whether addresses of the scheme are read by the rules of the web. -/
def isWeb (scheme : String) : Bool := (schemeNumber? scheme).isSome || scheme == fileScheme

/-- The host. -/
def host? (u : Url) : Option Host := u.authority.bind (·.host)

/-- The number of the socket. -/
def socket? (u : Url) : Option Nat :=
  (u.authority.bind (·.portNumber)).or (schemeNumber? u.scheme)

/-! ## Texts -/

/-- The text of a path. -/
def pathText : UrlPath → String
  | .parts ps => String.join (ps.map ("/" ++ ·))
  | .whole text => text

/-- The user and the password, as they stand before the host. -/
def userText (a : Authority) : String :=
  if a.user = "" ∧ a.password = none then ""
  else a.user ++ (a.password.map (":" ++ ·)).getD "" ++ "@"

/-- The host and the number of the socket. -/
def hostText (a : Authority) : String :=
  (a.host.map Host.text).getD "" ++ (a.portNumber.map fun n => ":" ++ toString n).getD ""

/-- What stands between the scheme and the path. Without an authority, a path that begins with two
    slashes gets a part in front that stays where it is. -/
def authorityText (u : Url) : String :=
  match u.authority, u.path with
  | some a, _ => "//" ++ userText a ++ hostText a
  | none, .parts ("" :: _ :: _) => "/."
  | none, _ => ""

/-- The path and the query. -/
def target (u : Url) : String := pathText u.path ++ (u.query.map ("?" ++ ·)).getD ""

/-- The text of an address. -/
def text (u : Url) : String :=
  u.scheme ++ ":" ++ u.authorityText ++ u.target ++ (u.fragment.map ("#" ++ ·)).getD ""

end Url

end SkillPlan.Http
