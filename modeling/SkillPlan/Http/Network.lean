import SkillPlan.Http.Message

/-!
# Networks

A network as a value: what it answers, given everything that was sent to it, and what was sent so
far. An answer may send a request on to another address.
-/

namespace SkillPlan.Http

/-- A network: its reply to the last of the requests sent to it, and the requests sent so far. -/
structure Network where
  reply : List Request → Reply
  sent : List Request := []

namespace Network

/-- A network where nothing answers. -/
def silent : Network := ⟨fun _ => .dropped, []⟩

/-- A network that gives the replies in order, and the last one again and again. -/
def ofReplies (replies : List Reply) : Network where
  reply sent := (replies[min (sent.length - 1) (replies.length - 1)]?).getD .dropped

/-- Sends a request. -/
def send (n : Network) (r : Request) : Reply × Network :=
  (n.reply (n.sent ++ [r]), { n with sent := n.sent ++ [r] })

end Network

/-! ## Requests sent on -/

/-- The statuses that send a request on. -/
def onwardStatuses : List Nat := [301, 302, 303, 307, 308]

/-- The fields that go with a body. -/
def bodyFields : List String :=
  ["content-type", "content-length", "content-encoding", "transfer-encoding"]

/-- The fields that only one host is to see. -/
def secretFields : List String :=
  ["authorization", "cookie", "cookie2", "proxy-authorization", "www-authenticate"]

/-- How often a request is sent on. -/
def maxOnward : Nat := 10

/-- Where an answer sends a request on to. A place that cannot stand in a request is none. -/
def Request.onward? (r : Request) (a : Answer) : Option Url :=
  if onwardStatuses.contains a.status then do
    let next ← r.url.join? (← field? a.fields "location")
    if next.isRequestable then return next.asRequested else none
  else none

/-- What is asked for when a request is sent on. A text that was posted is posted again only where
    the status says so. -/
def Request.again (r : Request) (status : Nat) : Request :=
  if status = 303 ∨ ((status = 301 ∨ status = 302) ∧ r.method = .post) then
    { r with method := .get, fields := withoutFields bodyFields r.fields, body := none }
  else r

/-- The field that names the address that a request was sent on from, which plain connections do not
    learn of the others. -/
def refererField (previous next : Url) : Option Field :=
  if next.scheme = "http" ∧ previous.scheme = "https" then none
  else some ("referer", previous.withoutUser.asRequested.text)

/-- The fields of a request that is sent on from one address to another. -/
def onwardFields (previous next : Url) (fields : List Field) : List Field :=
  let fields :=
    if next.host? = previous.host? ∧ next.socket? = previous.socket? then fields
    else withoutFields secretFields fields
  match refererField previous next with
  | some f => f :: withoutFields [f.1] fields
  | none => fields

/-- Sends a request with some fields in the place of its own, and sends it on as often as its
    answers say, at most `left` times. `first` is the address that was asked at first. -/
def Network.follow (first : Url) (left : Nat) (r : Request) (fields : List Field) (n : Network) :
    Except String Answer × Network :=
  let (reply, n) := n.send { r with fields := fields }
  match reply with
  | .dropped => (.error (faultAt "error sending request" first), n)
  | .answered a =>
    match r.onward? a with
    | none => (.ok a, n)
    | some next =>
      match left with
      | 0 => (.error (faultAt "error following redirect" r.url.asRequested), n)
      | left + 1 =>
        if isSentWith next.scheme then
          let again := r.again a.status
          Network.follow first left { again with url := next }
            (onwardFields r.url next again.fields) n
        else (.error (faultAt unusable next), n)

/-- Sends a request and gives the last answer, or says why there is none. -/
def Network.fetch (n : Network) (r : Request) : Except String Answer × Network :=
  n.follow r.url maxOnward r r.fields

end SkillPlan.Http
