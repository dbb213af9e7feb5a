import SkillPlan.Http.Message
import SkillPlan.Text.Fold
import SkillPlan.Text.Split

/-!
# HTTP as bytes

How a request is written on a connection that serves one exchange, and how the bytes that come back
are read. The end of a body is known by its length, by the pieces it is sent in, or by the end of
the connection.
-/

namespace SkillPlan.Http

/-! ## Ends of bodies -/

/-- How the end of a body is known. -/
inductive Framing where
  | length (n : Nat)
  | chunked
  | untilEnd
  deriving DecidableEq, Repr

/-- The field that gives the length of a body. -/
def lengthName : String := "content-length"

/-- The field that says how a body is sent. -/
def codingName : String := "transfer-encoding"

/-- The coding of a body that is sent in pieces. -/
def chunkedCoding : String := "chunked"

/-- The parts of a value, if it means something in ASCII. -/
def listed? (value : String) : Option (List String) :=
  if value.toList.all isPlainValueChar then some ((Text.split ',' value).map Text.trim) else none

/-- A length: digits of a number of 64 bits. -/
def length? (text : String) : Option Nat :=
  if text.isEmpty then none
  else (decimal? text.toList).bind fun n => if n < Nat.pow 2 64 then some n else none

/-- The length that fields give, if every one of them is valid and they agree. -/
def bodyLength? (fields : List Field) : Option Nat := do
  let texts ← (values fields lengthName).mapM listed?
  match ← texts.flatten.mapM length? with
  | n :: rest => if rest.all (· = n) then some n else none
  | [] => none

/-- Whether the last coding of a value is that of a body in pieces. -/
def endsChunked (value : String) : Bool :=
  match (listed? value).bind List.getLast? with
  | some coding => Text.fold coding == chunkedCoding
  | none => false

/-! ## Requests -/

/-- How the end of the body of a request is known. Its fields count before what is known of it. -/
def Request.framing (r : Request) : Framing :=
  match r.body with
  | none => .length 0
  | some body =>
    if (values r.fields codingName).isEmpty then
      .length ((bodyLength? r.fields).getD body.utf8ByteSize)
    else .chunked

/-- The last of the fields of a name, changed. -/
def changeLast (name : String) (change : String → String) : List Field → List Field
  | [] => []
  | f :: rest =>
    if f.1 = name && rest.all (·.1 ≠ name) then (f.1, change f.2) :: rest
    else f :: changeLast name change rest

/-- The fields that are sent with a request, besides those that name the host and the length of the
    body. A body in pieces is said to be one. -/
def Request.sentFields (r : Request) : List Field :=
  let fields := withoutFields [lengthName] r.fields
  match r.body with
  | none => withoutFields [codingName] fields
  | some _ =>
    changeLast codingName
      (fun v => if endsChunked v then v else v ++ ", " ++ chunkedCoding) fields

/-- The bytes of the body that are sent: no more than the length that the fields give. -/
def Request.sentBody (r : Request) : List UInt8 :=
  let bytes := (r.body.getD "").toUTF8.toList
  match r.framing with
  | .length n => bytes.take n
  | .chunked | .untilEnd => bytes

/-- The lines before the body of a request. -/
def Request.head (r : Request) : List String :=
  let a := r.url.authority.getD { host := none }
  [r.method.name ++ " " ++ r.url.target ++ " HTTP/1.1", "host: " ++ Url.hostText a,
    "accept: */*", "connection: close"] ++
    (match r.body, r.framing with
      | some _, .length n => [lengthName ++ ": " ++ toString n]
      | _, _ => []) ++
    r.sentFields.map fun f => f.1 ++ ": " ++ f.2

/-- The bytes of a body that is sent in one piece. -/
def onePiece (bs : List UInt8) : List UInt8 :=
  if bs.isEmpty then "0\r\n\r\n".toUTF8.toList
  else (String.ofList (Nat.toDigits 16 bs.length) ++ "\r\n").toUTF8.toList ++ bs ++
    "\r\n0\r\n\r\n".toUTF8.toList

/-- The bytes of a request. -/
def Request.bytes (r : Request) : List UInt8 :=
  (String.join (r.head.map (· ++ "\r\n")) ++ "\r\n").toUTF8.toList ++
    if r.framing = .chunked then onePiece r.sentBody else r.sentBody

/-! ## Lines -/

/-- The byte that ends a line. -/
def lineEnd : UInt8 := 10

/-- The byte that may stand before the end of a line. -/
def lineReturn : UInt8 := 13

/-- The first line, without its end, and what follows it. -/
def line? (bs : List UInt8) : Option (List UInt8 × List UInt8) :=
  let line := bs.takeWhile (· ≠ lineEnd)
  match bs.drop line.length with
  | [] => none
  | _ :: rest => some (if line.getLast? = some lineReturn then line.dropLast else line, rest)

/-- The lines up to an empty one, at most `fuel` of them, and what follows it. -/
def lines? : Nat → List UInt8 → Option (List (List UInt8) × List UInt8)
  | 0, _ => none
  | fuel + 1, bs => do
    let (line, rest) ← line? bs
    if line.isEmpty then return ([], rest)
    else
      let (lines, rest) ← lines? fuel rest
      return (line :: lines, rest)

/-- The bytes as characters of their own. -/
def charsOf (bs : List UInt8) : List Char := bs.map fun b => Char.ofNat b.toNat

/-- The field of a line: a name, a colon right behind it, and a value. -/
def fieldOfLine? (line : List UInt8) : Option Field :=
  let name := (charsOf line).takeWhile (· ≠ ':')
  match line.drop name.length with
  | [] => none
  | _ :: value =>
    if !name.isEmpty && name.all isNameChar && (charsOf value).all isValueChar then
      some (sentField (String.ofList name, Text.ofBytes value))
    else none

/-- The status in the first line of an answer: three digits, which a reason may follow. -/
def status? (line : List UInt8) : Option Nat :=
  match charsOf line with
  | 'H' :: 'T' :: 'T' :: 'P' :: '/' :: '1' :: '.' :: minor :: ' ' :: a :: b :: c :: rest =>
    if (minor = '0' || minor = '1') && rest.all isValueChar &&
        (rest.isEmpty || rest.head? = some ' ') then
      (decimal? [a, b, c]).bind fun n => if 100 ≤ n then some n else none
    else none
  | _ => none

/-- The fields that the head of an answer may have. -/
def maxFields : Nat := 100

/-- The status and the fields of an answer, and what follows its head. -/
def head? (bs : List UInt8) : Option (Nat × List Field × List UInt8) := do
  let bs := bs.dropWhile fun b => b = lineEnd || b = lineReturn
  let (lines, rest) ← lines? bs.length bs
  match lines with
  | first :: lines =>
    let status ← status? first
    let fields ← lines.mapM fieldOfLine?
    if maxFields < fields.length then none else return (status, fields, rest)
  | [] => none

/-! ## Bodies in pieces -/

/-- The size in the first line of a piece: digits in base 16, then space, then anything behind a
    semicolon. -/
def pieceSize? (line : List UInt8) : Option Nat :=
  let cs := charsOf line
  let digits := cs.takeWhile fun c => (hexDigit? c).isSome
  let rest := (cs.drop digits.length).dropWhile fun c => c = ' ' || c = '\t'
  if digits.isEmpty || !(rest.isEmpty || rest.head? = some ';') || rest.contains '\r' then none
  else
    (digits.mapM hexDigit?).bind fun ds =>
      if ofDigits 16 ds < Nat.pow 2 64 then some (ofDigits 16 ds) else none

/-- A line that ends in both bytes. -/
def strictLine? (bs : List UInt8) : Option (List UInt8 × List UInt8) := do
  let (line, rest) ← line? bs
  if (bs.drop line.length).head? = some lineReturn then return (line, rest) else none

/-- The bytes of a body that was sent in pieces, at most `fuel` of them, the last one empty. -/
def joinPieces? : Nat → List UInt8 → Option (List UInt8)
  | 0, _ => none
  | fuel + 1, bs => do
    let (line, rest) ← strictLine? bs
    let size ← pieceSize? line
    if size = 0 then
      let (lines, _) ← lines? (rest.length + 1) rest
      if lines.all fun line => (fieldOfLine? line).isSome then return [] else none
    else
      match rest.drop size with
      | 13 :: 10 :: behind =>
        let others ← joinPieces? fuel behind
        return rest.take size ++ others
      | _ => none

/-! ## Answers -/

/-- The status that hands the connection over. -/
def switching : Nat := 101

/-- Whether the status only tells that an answer will come. -/
def isInterim (status : Nat) : Bool := status < 200 && status ≠ switching

/-- Whether an answer of the status has no body. -/
def hasNoBody (status : Nat) : Bool := status = switching || status = 204 || status = 304

/-- How the end of the body of an answer is known. The lengths that fields give must agree. -/
def answerFraming? (status : Nat) (fields : List Field) : Option Framing :=
  if hasNoBody status then some (.length 0)
  else
    match (values fields codingName).getLast? with
    | some coding => some (if endsChunked coding then .chunked else .untilEnd)
    | none =>
      if (values fields lengthName).isEmpty then some .untilEnd
      else (bodyLength? fields).map .length

/-- The body that some bytes begin with, if it does not break off. -/
def bodyOf (f : Framing) (bs : List UInt8) : Option (List UInt8) :=
  match f with
  | .length n => if n ≤ bs.length then some (bs.take n) else none
  | .chunked => joinPieces? (bs.length + 1) bs
  | .untilEnd => some bs

/-- The answer that some bytes are, behind at most `fuel` that only tell that it will come. -/
def answer? : Nat → List UInt8 → Option Answer
  | 0, _ => none
  | fuel + 1, bs => do
    let (status, fields, rest) ← head? bs
    if isInterim status then answer? fuel rest
    else
      let framing ← answerFraming? status fields
      return ⟨status, fields, bodyOf framing rest⟩

/-- The reply that some bytes stand for. -/
def Reply.ofBytes (bs : List UInt8) : Reply :=
  match answer? (bs.length + 1) bs with
  | some a => .answered a
  | none => .dropped

end SkillPlan.Http
