/-!
# JSON text, taken apart

The grammar of JSON text. What is read here is the shape of a text: numbers are kept as they are
written and strings as they stand between the quotes, escapes included. What they mean, and whether
they mean anything, is decided by whoever reads the value; a value that nobody reads is only held to
the grammar.
-/

namespace SkillPlan.Json

/-- A number as it is written. -/
structure Literal where
  negative : Bool
  whole : List Char
  fraction : List Char
  exponent : Option (Bool × List Char)
  deriving DecidableEq, Repr

/-- Whether the number is written without a fraction and without an exponent. -/
def Literal.isWhole (n : Literal) : Bool := n.fraction.isEmpty && n.exponent.isNone

/-- A JSON text, taken apart. -/
inductive Raw where
  | null
  | bool (b : Bool)
  | num (n : Literal)
  | str (body : List Char)
  | arr (items : List Raw)
  | obj (fields : List (List Char × Raw))
  deriving Repr

namespace Raw

/-! ## Tokens -/

/-- White space between tokens. -/
def isSpace (c : Char) : Bool := c == ' ' || c == '\n' || c == '\t' || c == '\r'

/-- The characters after any white space. -/
def skipSpace (cs : List Char) : List Char := cs.dropWhile isSpace

/-- Whether the character is a digit in base 16. -/
def isHex (c : Char) : Bool :=
  ('0' ≤ c && c ≤ '9') || ('a' ≤ c && c ≤ 'f') || ('A' ≤ c && c ≤ 'F')

/-- Whether a backslash and this character make an escape of one character. -/
def isShortEscape (c : Char) : Bool :=
  c == '"' || c == '\\' || c == '/' || c == 'b' || c == 'f' || c == 'n' || c == 'r' || c == 't'

/-- What stands before the closing quote of a string, and what follows the quote. -/
def stringBody? : List Char → Option (List Char × List Char)
  | [] => none
  | '"' :: rest => some ([], rest)
  | '\\' :: 'u' :: a :: b :: c :: d :: rest =>
    if isHex a && isHex b && isHex c && isHex d then
      (stringBody? rest).map fun r => ('\\' :: 'u' :: a :: b :: c :: d :: r.1, r.2)
    else none
  | '\\' :: e :: rest =>
    if isShortEscape e then (stringBody? rest).map fun r => ('\\' :: e :: r.1, r.2) else none
  | c :: rest =>
    if c.toNat < 0x20 || c == '\\' then none
    else (stringBody? rest).map fun r => (c :: r.1, r.2)

/-- The whole part of a number: a zero alone, or digits that do not begin with one. -/
def whole? (cs : List Char) : Option (List Char × List Char) :=
  match cs.takeWhile Char.isDigit with
  | [] => none
  | '0' :: _ :: _ => none
  | ds => some (ds, cs.dropWhile Char.isDigit)

/-- The fraction of a number, if it has one. -/
def fraction? (cs : List Char) : Option (List Char × List Char) :=
  match cs with
  | '.' :: rest =>
    match rest.takeWhile Char.isDigit with
    | [] => none
    | ds => some (ds, rest.dropWhile Char.isDigit)
  | cs => some ([], cs)

/-- The exponent of a number, if it has one: whether it is negative, and its digits. -/
def exponent? (cs : List Char) : Option (Option (Bool × List Char) × List Char) :=
  match cs with
  | c :: rest =>
    if c == 'e' || c == 'E' then
      let (sign, rest) :=
        match rest with
        | '-' :: rest => (true, rest)
        | '+' :: rest => (false, rest)
        | rest => (false, rest)
      match rest.takeWhile Char.isDigit with
      | [] => none
      | ds => some (some (sign, ds), rest.dropWhile Char.isDigit)
    else some (none, c :: rest)
  | [] => some (none, [])

/-- A number without its sign. -/
def unsigned? (negative : Bool) (cs : List Char) : Option (Literal × List Char) := do
  let (whole, cs) ← whole? cs
  let (fraction, cs) ← fraction? cs
  let (exponent, cs) ← exponent? cs
  return (⟨negative, whole, fraction, exponent⟩, cs)

/-- A number. -/
def number? (cs : List Char) : Option (Literal × List Char) :=
  match cs with
  | '-' :: rest => unsigned? true rest
  | cs => unsigned? false cs

/-! ## Values -/

/-- One or more parts with commas between them, up to the closing bracket. `fuel` bounds their
    number. -/
def separated? {α : Type} (close : Char) (part : List Char → Option (α × List Char)) :
    Nat → List Char → Option (List α × List Char)
  | 0, _ => none
  | fuel + 1, cs => do
    let (x, cs) ← part cs
    match skipSpace cs with
    | c :: rest =>
      if c = close then some ([x], rest)
      else if c = ',' then (separated? close part fuel rest).map fun r => (x :: r.1, r.2)
      else none
    | [] => none

/-- A key, a colon and a value. -/
def field? (value : List Char → Option (Raw × List Char)) (cs : List Char) :
    Option ((List Char × Raw) × List Char) :=
  match skipSpace cs with
  | '"' :: cs => do
    let (key, cs) ← stringBody? cs
    match skipSpace cs with
    | ':' :: cs =>
      let (v, cs) ← value cs
      return ((key, v), cs)
    | _ => none
  | _ => none

/-- A value and what follows it. `fuel` bounds how deep the value is and how many parts a container
    has; the number of characters is always enough. -/
def value? : Nat → List Char → Option (Raw × List Char)
  | 0, _ => none
  | fuel + 1, cs =>
    match skipSpace cs with
    | '"' :: cs => (stringBody? cs).map fun r => (.str r.1, r.2)
    | '[' :: cs =>
      match skipSpace cs with
      | ']' :: rest => some (.arr [], rest)
      | _ => (separated? ']' (value? fuel) (fuel + 1) cs).map fun r => (.arr r.1, r.2)
    | '\x7b' :: cs =>
      match skipSpace cs with
      | '\x7d' :: rest => some (.obj [], rest)
      | _ => (separated? '\x7d' (field? (value? fuel)) (fuel + 1) cs).map fun r => (.obj r.1, r.2)
    | 'n' :: 'u' :: 'l' :: 'l' :: rest => some (.null, rest)
    | 't' :: 'r' :: 'u' :: 'e' :: rest => some (.bool true, rest)
    | 'f' :: 'a' :: 'l' :: 's' :: 'e' :: rest => some (.bool false, rest)
    | cs => (number? cs).map fun r => (.num r.1, r.2)

/-- The first value of a text and what follows it. -/
def first? (cs : List Char) : Option (Raw × List Char) := value? (cs.length + 1) cs

/-- The value of a text that holds one value and nothing else. -/
def ofChars? (cs : List Char) : Option Raw :=
  match first? cs with
  | some (v, rest) => if (skipSpace rest).isEmpty then some v else none
  | none => none

end Raw

end SkillPlan.Json
