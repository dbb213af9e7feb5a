import SkillPlan.Bag
import SkillPlan.Text.Blank
import SkillPlan.Text.Word

/-!
# Templates

Two placeholder forms. `$name` stands in the named parameters of a step and is looked up in the
variables of the caller, then in the state of the plan. `{{$name}}`, with white space allowed inside
the braces, stands in prompts and is looked up in one bag. A name is a run of word characters and
always counts as a whole. A template is cut into pieces once, so a value that is put in is never
searched for placeholders again.
-/

namespace SkillPlan.Template

/-- A part of a template: a character that stands for itself, or a placeholder. -/
inductive Piece where
  | literal (c : Char)
  | hole (name : String)
  deriving DecidableEq, Repr

/-- The text of the pieces, with each placeholder replaced by the value of its name. -/
def fill (value : String → String) (ps : List Piece) : String :=
  String.ofList <| ps.flatMap fun
    | .literal c => [c]
    | .hole name => (value name).toList

/-- The names of the placeholders, in order and with repetitions. -/
def holes (ps : List Piece) : List String :=
  ps.filterMap fun
    | .literal _ => none
    | .hole name => some name

theorem length_dropWhile_le (p : Char → Bool) (cs : List Char) :
    (cs.dropWhile p).length ≤ cs.length :=
  (List.dropWhile_suffix p).length_le

/-! ## Parameters of steps -/

/-- Cuts a text at each `$` that a word character follows. -/
def parameterPieces : List Char → List Piece
  | [] => []
  | c :: rest =>
    if c = '$' then
      match rest.takeWhile Text.isWord with
      | [] => .literal c :: parameterPieces rest
      | name => .hole (String.ofList name) :: parameterPieces (rest.dropWhile Text.isWord)
    else .literal c :: parameterPieces rest
termination_by cs => cs.length
decreasing_by
  · simp
  · have := length_dropWhile_le Text.isWord rest
    simp only [List.length_cons]
    omega
  · simp

/-- Replaces every `$name` by its value in `vars`, else in `state`, else by nothing. -/
def expand (input : String) (vars state : Bag) : String :=
  fill (fun name => ((vars.get? name).or (state.get? name)).getD "")
    (parameterPieces input.toList)

/-! ## Prompts -/

/-- The name of the placeholder that the characters begin with, and what follows it. -/
def promptHole? (cs : List Char) : Option (List Char × List Char) :=
  match cs with
  | '\x7b' :: '\x7b' :: rest =>
    match rest.dropWhile Text.isBlank with
    | '$' :: rest =>
      match rest.takeWhile Text.isWord, (rest.dropWhile Text.isWord).dropWhile Text.isBlank with
      | c :: name, '\x7d' :: '\x7d' :: rest => some (c :: name, rest)
      | _, _ => none
    | _ => none
  | _ => none

theorem promptHole?_length {cs name rest : List Char} (h : promptHole? cs = some (name, rest)) :
    rest.length < cs.length := by
  unfold promptHole? at h
  split at h
  · rename_i r
    split at h
    · rename_i r' hr'
      split at h
      · rename_i c nm r'' _ hr''
        simp only [Option.some.injEq, Prod.mk.injEq] at h
        obtain ⟨-, rfl⟩ := h
        have h₁ := length_dropWhile_le Text.isBlank r
        have h₂ := length_dropWhile_le Text.isWord r'
        have h₃ := length_dropWhile_le Text.isBlank (r'.dropWhile Text.isWord)
        rw [hr'] at h₁
        rw [hr''] at h₃
        simp only [List.length_cons] at *
        omega
      · simp at h
    · simp at h
  · simp at h

/-- Cuts a text at each `{{$name}}`, the leftmost one first. -/
def promptPieces (cs : List Char) : List Piece :=
  match _h : promptHole? cs with
  | some (name, rest) => .hole (String.ofList name) :: promptPieces rest
  | none =>
    match cs with
    | [] => []
    | c :: rest => .literal c :: promptPieces rest
termination_by cs.length
decreasing_by
  · exact promptHole?_length _h
  · simp

/-- Replaces every `{{$name}}` by its value in `vars`, or by nothing. -/
def render (template : String) (vars : Bag) : String :=
  fill (fun name => (vars.get? name).getD "") (promptPieces template.toList)

/-- The names without later repetitions of the same name. -/
def distinctNames (names : List String) : List String :=
  names.foldl (fun seen name => if seen.any (Text.sameName · name) then seen else seen ++ [name]) []

/-- The names of the placeholders of a prompt, each once, in the order of first use. -/
def promptNames (template : String) : List String :=
  distinctNames (holes (promptPieces template.toList))

end SkillPlan.Template
