import SkillPlan.Http.Url

/-!
# Reading addresses

An address is read by itself or against another one, which gives the parts that are missing. What is
read is in normal form.
-/

namespace SkillPlan.Http.Url

/-! ## Schemes -/

/-- Whether a character may stand in a scheme after its first letter. -/
def isSchemeChar (c : Char) : Bool := c.isAlphanum || c == '+' || c == '-' || c == '.'

/-- The scheme in lower case, and what follows its colon. -/
def scheme? (cs : List Char) : Option (String × List Char) :=
  match cs with
  | c :: _ =>
    if c.isAlpha then
      match cs.dropWhile isSchemeChar with
      | ':' :: rest =>
        some (String.ofList ((cs.takeWhile isSchemeChar).map Char.toLower), rest)
      | _ => none
    else none
  | [] => none

/-! ## Authorities -/

/-- Whether the character separates the parts of a path. -/
def isSlash (web : Bool) (c : Char) : Bool := c == '/' || (web && c == '\\')

/-- Whether the character ends an authority. -/
def endsAuthority (web : Bool) (c : Char) : Bool := isSlash web c || c == '?' || c == '#'

/-- What stands before the last `@` of an authority, if there is one, and what follows it. -/
def cutUser (web : Bool) (cs : List Char) : Option (List Char) × List Char :=
  let all := cs.takeWhile (!endsAuthority web ·)
  let rest := (all.reverse.takeWhile (· ≠ '@')).reverse
  if rest.length = all.length then (none, cs)
  else
    let n := all.length - rest.length
    (some (all.take (n - 1)), cs.drop n)

/-- The user and the password, which is none if it is empty. -/
def readUser (cs : List Char) : String × Option String :=
  let encode (cs : List Char) : String := String.ofList (percentEncode userEscapes cs)
  match Text.splitOnce? ':' cs with
  | none => (encode cs, none)
  | some (user, []) => (encode user, none)
  | some (user, password) => (encode user, some (encode password))

/-- The characters of the host, and what follows them. Colons in brackets belong to the host. -/
def cutHost (web inBrackets : Bool) : List Char → List Char × List Char
  | [] => ([], [])
  | c :: rest =>
    if endsAuthority web c || (c == ':' && !inBrackets) then ([], c :: rest)
    else
      let (host, rest) := cutHost web (c == '[' || (inBrackets && c != ']')) rest
      (c :: host, rest)

/-- The number of the socket, if there is one, and what follows it. -/
def readNumber? (scheme : String) (cs : List Char) : Option (Option Nat × List Char) :=
  let digits := cs.takeWhile Char.isDigit
  let rest := cs.drop digits.length
  if rest.head?.any (!endsAuthority true ·) then none
  else if digits.isEmpty then some (none, rest)
  else
    match decimal? digits with
    | some n =>
      if 65535 < n then none
      else some (if schemeNumber? scheme = some n then none else some n, rest)
    | none => none

/-- Reads an authority. One with a user or the number of a socket has a host too. -/
def authority? (scheme : String) (cs : List Char) : Option (Authority × List Char) := do
  let web := isWeb scheme
  let (given, cs) := cutUser web cs
  if given = some [] && cs.head?.any (endsAuthority web ·) then none
  else
    let (user, password) := readUser (given.getD [])
    let (chars, rest) := cutHost web false cs
    if chars.isEmpty then
      if web || user ≠ "" || password.isSome || rest.head? = some ':' then none
      else return (⟨"", none, none, none⟩, rest)
    else
      let host ← if web then Host.ofWeb? chars else Host.ofForeign? chars
      match rest with
      | ':' :: rest =>
        let (number, rest) ← readNumber? scheme rest
        return (⟨user, password, some host, number⟩, rest)
      | rest => return (⟨user, password, some host, none⟩, rest)

/-! ## Paths -/

/-- Whether a part of a path stays where it is. -/
def isHere (part : List Char) : Bool :=
  [".", "%2e"].contains (String.ofList (part.map Char.toLower))

/-- Whether a part of a path leads one part up. -/
def isUp (part : List Char) : Bool :=
  ["..", ".%2e", "%2e.", "%2e%2e"].contains (String.ofList (part.map Char.toLower))

/-- Whether a part of a path is the letter of a drive. -/
def isDrive (part : List Char) : Bool :=
  match part with
  | [c, m] => c.isAlpha && (m == ':' || m == '|')
  | _ => false

/-- The parts without the last one, which stays if it is the letter of a drive. -/
def above (done : List (List Char)) : List (List Char) :=
  if done.getLast?.any isDrive then done else done.dropLast

/-- The parts of a path in normal form, after those already `done`. -/
def normalParts (done : List (List Char)) : List (List Char) → List (List Char)
  | [] => done
  | [part] =>
    if isHere part then done ++ [[]]
    else if isUp part then above done ++ [[]]
    else done ++ [percentEncode pathEscapes part]
  | part :: rest =>
    if isHere part then normalParts done rest
    else if isUp part then normalParts (above done) rest
    else normalParts (done ++ [percentEncode pathEscapes part]) rest

/-- The parts that stand between slashes. -/
def splitPath (web : Bool) (cs : List Char) : List (List Char) :=
  Text.splitChars '/' (cs.map fun c => if isSlash web c then '/' else c)

/-- The path of some parts, after those already `done`. -/
def pathOf (done parts : List (List Char)) : UrlPath :=
  .parts ((normalParts done parts).map String.ofList)

/-- Cuts off the characters of a path. -/
def cutPath (cs : List Char) : List Char × List Char :=
  let isMark (c : Char) : Bool := c == '?' || c == '#'
  (cs.takeWhile (!isMark ·), cs.dropWhile (!isMark ·))

/-- The path behind an authority. It is never empty on the web. -/
def readPath (web : Bool) (cs : List Char) : UrlPath :=
  match cs with
  | [] => if web then pathOf [] [[]] else .parts []
  | c :: rest =>
    if isSlash web c then pathOf [] (splitPath web rest) else pathOf [] (splitPath web cs)

/-- The query and the fragment, given the path and what follows it. -/
def ending (scheme : String) (authority : Option Authority) (path : UrlPath) (cs : List Char) :
    Url :=
  let (cs, fragment) := match Text.splitOnce? '#' cs with
    | some (before, after) => (before, some after)
    | none => (cs, none)
  let escapes := if isWeb scheme then webQueryEscapes else queryEscapes
  { scheme := scheme
    authority := authority
    path := path
    query := match cs with
      | '?' :: query => some (String.ofList (percentEncode escapes query))
      | _ => none
    fragment := fragment.map fun f => String.ofList (percentEncode fragmentEscapes f) }

/-- The address with an authority that begins here. -/
def behindSlashes? (scheme : String) (cs : List Char) : Option Url := do
  let (authority, cs) ← authority? scheme cs
  let (path, rest) := cutPath cs
  return ending scheme (some authority) (readPath (isWeb scheme) path) rest

/-! ## Files -/

/-- The path of a file: the first part may be the letter of a drive, and there are no empty parts
    before the others. The flag says whether a drive was named. -/
def filePath (cs : List Char) : UrlPath × Bool :=
  let parts := splitPath true (cs.drop (if cs.head?.any (isSlash true ·) then 1 else 0))
  let done := normalParts [] parts
  let kept := done.dropWhile List.isEmpty
  match done with
  | [letter, _] :: rest =>
    if isDrive (done.headD []) then
      (.parts (String.ofList [letter, ':'] :: rest.map String.ofList), true)
    else (.parts (done.map String.ofList), false)
  | _ => (.parts ((if kept.isEmpty then [[]] else kept).map String.ofList), false)

/-- The address of a file. A file on this host, or on a drive, has no host. -/
def file? (cs : List Char) : Option Url := do
  let (before, rest) := cutPath cs
  let here (path : UrlPath) : Url := ending fileScheme (some { host := none }) path rest
  match before with
  | a :: b :: behind =>
    if isSlash true a && isSlash true b then
      let chars := behind.takeWhile (!isSlash true ·)
      if chars.isEmpty || isDrive chars then return here (filePath behind).1
      else
        let host ← Host.ofWeb? chars
        let (path, onDrive) := filePath (behind.drop chars.length)
        if onDrive || host = .name "localhost" then return here path
        else return ending fileScheme (some { host := some host }) path rest
    else return here (filePath before).1
  | _ => return here (filePath before).1

/-! ## Whole addresses -/

/-- Whether the character is passed over at the ends of an address. -/
def isOuter (c : Char) : Bool := c.toNat ≤ 0x20

/-- Whether the character is passed over anywhere in an address. -/
def isIgnored (c : Char) : Bool := c == '\t' || c == '\n' || c == '\r'

/-- The characters of an address that count. -/
def counted (s : String) : List Char :=
  let cs := ((s.toList.dropWhile isOuter).reverse.dropWhile isOuter).reverse
  cs.filter (!isIgnored ·)

/-- The address with a scheme that is not one of the web. -/
def foreign? (scheme : String) (cs : List Char) : Option Url :=
  match cs with
  | '/' :: '/' :: rest => behindSlashes? scheme rest
  | cs =>
    let (path, rest) := cutPath cs
    match path with
    | '/' :: path => some (ending scheme none (pathOf [] (splitPath false path)) rest)
    | path => some (ending scheme none (.whole (String.ofList (percentEncode [] path))) rest)

/-- The address with a scheme, given what follows the colon. -/
def withScheme? (scheme : String) (cs : List Char) : Option Url :=
  if scheme = fileScheme then file? cs
  else if isWeb scheme then behindSlashes? scheme (cs.dropWhile (isSlash true))
  else foreign? scheme cs

/-- Reads an address that stands by itself. -/
def ofText? (s : String) : Option Url := do
  let (scheme, cs) ← scheme? (counted s)
  withScheme? scheme cs

/-- The parts of a path. -/
def partsOf : UrlPath → List (List Char)
  | .parts ps => ps.map String.toList
  | .whole _ => []

/-- The address that a text without a scheme stands for on a page of the web: another host, another
    path, or the page itself with another query. -/
def relative? (base : Url) (cs : List Char) : Option Url :=
  let slashes := (cs.takeWhile (isSlash true)).length
  let (path, rest) := cutPath cs
  if 2 ≤ slashes then
    match cs with
    | '/' :: '/' :: cs => behindSlashes? base.scheme cs
    | cs => behindSlashes? base.scheme (cs.drop slashes)
  else if slashes = 1 then
    some (ending base.scheme base.authority (pathOf [] (splitPath true (path.drop 1))) rest)
  else if path.isEmpty then
    let u := ending base.scheme base.authority base.path rest
    some (if rest.head? = some '?' then u else { u with query := base.query })
  else
    some (ending base.scheme base.authority
      (pathOf (partsOf base.path).dropLast (splitPath true path)) rest)

/-- Reads an address that stands on a page of the web. One with the scheme of the page but without
    two slashes is taken as if it had no scheme. -/
def join? (base : Url) (s : String) : Option Url :=
  let cs := counted s
  match scheme? cs with
  | some (scheme, rest) =>
    if scheme = base.scheme && (rest.takeWhile (isSlash true)).length < 2 then relative? base rest
    else withScheme? scheme rest
  | none => relative? base cs

end SkillPlan.Http.Url
