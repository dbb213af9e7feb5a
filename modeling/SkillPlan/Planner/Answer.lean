import SkillPlan.Error
import SkillPlan.Json.Reader
import SkillPlan.Json.Writer
import SkillPlan.Planner.Prompt
import SkillPlan.Text.Split

/-!
# Answers

What a model chose. Models are careless with JSON, so commas before closing brackets are dropped,
only the first value counts, the case of field names does not matter, and parameters may be of any
type.
-/

namespace SkillPlan.Planner

/-- The choice of a model. -/
structure Answer where
  rationale : String
  /-- A collection and a name with a point between them, a name alone, or nothing. -/
  function : String
  parameters : Bag
  deriving DecidableEq

namespace Answer

/-! ## Commas -/

/-- Whether the next character that is not white space closes a container. -/
def closesNext (cs : List Char) : Bool :=
  match cs.dropWhile Text.isBlank with
  | c :: _ => c == '\x7d' || c == ']'
  | [] => false

/-- Where a text is: outside strings, inside one, or inside one after a backslash. -/
inductive Mode where
  | outside
  | inside
  | escaped
  deriving DecidableEq, Repr

/-- Drops the commas outside strings that stand before a closing bracket. -/
def dropCommas : Mode → List Char → List Char
  | _, [] => []
  | .escaped, c :: rest => c :: dropCommas .inside rest
  | .inside, c :: rest =>
    c :: dropCommas (if c = '\\' then .escaped else if c = '"' then .outside else .inside) rest
  | .outside, c :: rest =>
    if c = ',' ∧ closesNext rest then dropCommas .outside rest
    else c :: dropCommas (if c = '"' then .inside else .outside) rest

/-- The text without the commas that stand before a closing bracket. -/
def withoutFinalCommas (s : String) : String := String.ofList (dropCommas .outside s.toList)

/-! ## Fields -/

/-- The error of an answer that cannot be used. -/
def unusable (message : String) : Error :=
  (Error.new .invalidPlan message).during "planner::parse_response"

/-- The value of a field: the one of exactly this name, else the first of the same name. -/
def field? (fields : List (String × Json)) (name : String) : Option Json :=
  (Json.findField name fields).or
    ((fields.find? fun f => Text.sameName f.1 name).map Prod.snd)

/-- A field that is a text if it is there. -/
def textField (fields : List (String × Json)) (name : String) : Except Error String :=
  match field? fields name with
  | none | some .null => .ok ""
  | some (.str s) => .ok s
  | some other =>
    .error (((unusable "plan field must be a string").note "field" name).note
      "value" (Json.toText other))

/-- Adds a parameter; a value that is not a text is kept as its JSON text. -/
def addParameter (b : Bag) (f : String × Json) : Bag :=
  match f.2 with
  | .null => b
  | .str s => b.set f.1 s
  | other => b.set f.1 (Json.toText other)

/-- The parameters of an answer. -/
def parametersField (fields : List (String × Json)) : Except Error Bag :=
  match field? fields "parameters" with
  | none | some .null => .ok ∅
  | some (.obj ps) => .ok (ps.foldl addParameter ∅)
  | some _ => .error (unusable "'parameters' must be an object")

/-- The answer that an object stands for. -/
def ofFields (fields : List (String × Json)) : Except Error Answer := do
  let rationale ← textField fields "rationale"
  let function ← textField fields "function"
  let parameters ← parametersField fields
  return ⟨rationale, function, parameters⟩

/-- The answer that a value stands for. -/
def ofJson : Json → Except Error Answer
  | .obj root =>
    match field? root "plan" with
    | some (.obj fields) => ofFields fields
    | none | some .null => .error (unusable "the plan deserialized to a null object")
    | some _ => .error (unusable "'plan' must be an object")
  | _ => .error (unusable "the plan response is not a JSON object")

/-! ## Texts -/

/-- The answer that a text begins with. -/
def ofText (s : String) : Except Error Answer :=
  match Json.firstOfText (withoutFinalCommas s) with
  | .nothing => .error (unusable "plan parsing error, empty response")
  | .malformed =>
    .error ((unusable "plan parsing error, invalid JSON").because
      (.text "the text is not valid JSON"))
  | .value v => ofJson v

/-- What stands before the mark that ends answers, or everything if there is no mark. -/
def untilStop (completion stop : String) : String :=
  if stop = "" then completion
  else
    match Text.before? stop.toList completion.toList with
    | some cs => String.ofList cs
    | none => completion

/-- The answer in the text with which a model continued the opening. -/
def ofCompletion (completion stop : String) : Except Error Answer :=
  ofText (answerOpening ++ untilStop completion stop)

/-- The collection, if one is given, and the name of a function; nothing for a blank text. -/
def functionParts? (function : String) : Option (Option String × String) :=
  let text := Text.trim function
  if text = "" then none
  else
    match Text.splitOnce? '.' text.toList with
    | some (collection, name) => some (some (String.ofList collection), String.ofList name)
    | none => some (none, text)

end Answer

end SkillPlan.Planner
