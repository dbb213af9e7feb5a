import SkillPlan.Http.Url.Reader
import SkillPlan.Http.Url.Requestable
import SkillPlan.Text.Base64
import SkillPlan.Text.Blank
import SkillPlan.Text.Lossy

/-!
# HTTP messages

Requests and what comes back for them.
-/

namespace SkillPlan.Http

/-! ## Fields -/

/-- A header field. -/
abbrev Field := String × String

/-- Whether the character may stand in the name of a header field. -/
def isNameChar (c : Char) : Bool :=
  c.isAlphanum ||
    ['!', '#', '$', '%', '&', '\'', '*', '+', '-', '.', '^', '_', '\x60', '|', '~'].contains c

/-- Whether the character may stand in the value of a header field. -/
def isValueChar (c : Char) : Bool := (0x20 ≤ c.toNat && c.toNat ≠ 0x7F) || c == '\t'

/-- Whether the character may stand in a value that means something in ASCII. -/
def isPlainValueChar (c : Char) : Bool := isValueChar c && c.toNat < 0x7F

/-- Whether a header field can be sent. -/
def isField (f : Field) : Bool :=
  f.1 ≠ "" && f.1.toList.all isNameChar && f.2.toList.all isValueChar

/-- The characters without the space around them. -/
def withoutSpace (cs : List Char) : List Char :=
  let isSpace (c : Char) : Bool := c == ' ' || c == '\t'
  ((cs.dropWhile isSpace).reverse.dropWhile isSpace).reverse

/-- The field as it is sent: the name in lower case, and no space around the value. -/
def sentField (f : Field) : Field :=
  (String.ofList (f.1.toList.map Char.toLower), String.ofList (withoutSpace f.2.toList))

/-- The values of the header fields of a name, which is given in lower case. -/
def values (fields : List Field) (name : String) : List String :=
  ((fields.map sentField).filter (·.1 = name)).map (·.2)

/-- The value of the first header field of a name, which is given in lower case. -/
def field? (fields : List Field) (name : String) : Option String := (values fields name).head?

/-- The fields without those of some names, which are given in lower case. -/
def withoutFields (names : List String) (fields : List Field) : List Field :=
  fields.filter fun f => !names.contains (sentField f).1

/-! ## Requests -/

/-- What a request asks for. -/
inductive Method where
  | get
  | post
  deriving DecidableEq, Repr

/-- The name of a method. -/
def Method.name : Method → String
  | get => "GET"
  | post => "POST"

/-- A request, with a text or without one. -/
structure Request where
  method : Method
  url : Url
  fields : List Field
  body : Option String
  deriving DecidableEq, Repr

/-- What went wrong at an address. -/
def faultAt (what : String) (u : Url) : String := what ++ " for url (" ++ u.text ++ ")"

/-- What is wrong with a request that cannot be made. -/
def unusable : String := "builder error"

/-- The field that names a user. -/
def basicField (user : String) (password : Option String) : Field :=
  ("authorization", "Basic " ++
    String.ofList (Text.base64 (user ++ ":" ++ password.getD "").toUTF8.toList))

/-- Whether requests can be sent with the scheme. -/
def isSentWith (scheme : String) : Bool := scheme == "http" || scheme == "https"

/-- The request to post a text to an address, or why there can be none. The user of the address is
    named in a field of the request. -/
def Request.post (address : String) (fields : List Field) (body : String) :
    Except String Request :=
  match Url.ofText? address with
  | none => .error unusable
  | some url =>
    if url.host?.isNone then .error (faultAt unusable url)
    else
      let (url, own) := match url.credentials? with
        | some (user, password) => (url.withoutUser, [basicField user password])
        | none => (url, [])
      if !fields.all isField then .error unusable
      else if isSentWith url.scheme && url.isRequestable then
        .ok ⟨.post, url, own ++ fields.map sentField, some body⟩
      else .error (faultAt unusable url)

/-! ## Replies -/

/-- An answer. Its body is missing if it broke off. -/
structure Answer where
  status : Nat
  fields : List Field
  body : Option (List UInt8)
  deriving DecidableEq, Repr

/-- What comes back for a request: nothing, or an answer. -/
inductive Reply where
  | dropped
  | answered (a : Answer)
  deriving DecidableEq, Repr

namespace Answer

/-- Whether the request succeeded. -/
def isSuccess (a : Answer) : Bool := 200 ≤ a.status && a.status < 300

/-- The body as a text; what is no text in it is replaced, and one that broke off is empty. -/
def text (a : Answer) : String := Text.ofBytes (a.body.getD [])

/-- The body, if it did not break off and is a text. -/
def wholeText? (a : Answer) : Option String :=
  a.body.bind fun bs => String.fromUTF8? ⟨bs.toArray⟩

end Answer

/-- A whole number of 64 bits, which may have a plus sign. -/
def word? (cs : List Char) : Option Nat :=
  let digits := match cs with
    | '+' :: rest => rest
    | cs => cs
  if digits.isEmpty then none
  else (decimal? digits).bind fun n => if n < Nat.pow 2 64 then some n else none

/-- The number of seconds to wait that an answer names. -/
def Answer.retryAfter? (a : Answer) : Option Nat :=
  (field? a.fields "retry-after").bind fun value =>
    if value.toList.all isPlainValueChar then word? (Text.trim value).toList else none

end SkillPlan.Http
