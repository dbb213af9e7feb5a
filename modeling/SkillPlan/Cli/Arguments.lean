/-!
# Arguments

The commands of the program and how they are read from its arguments. Options stand before or after
the words of a command; after two dashes, or once the words of a goal have begun, everything is a
word.
-/

namespace SkillPlan.Cli

/-! ## Commands -/

/-- What the program is asked to do. -/
inductive Command where
  | plan (goal : String) (save : Option String)
  | run (goal : String)
  | exec (target : String) (step : Bool) (input : Option String)
  | functions (json : Bool)
  | plans
  deriving DecidableEq, Repr

/-- A command, and the directory of the stored plans. -/
structure Invocation where
  command : Command
  store : String
  deriving DecidableEq, Repr

/-- Why there is no command to carry out. -/
inductive Stop where
  | usage
  | help
  | version
  deriving DecidableEq, Repr

/-! ## Options -/

/-- An option. -/
inductive Opt where
  | store
  | verbose
  | help
  | version
  | save
  | input
  | step
  | json
  deriving DecidableEq, Repr

namespace Opt

/-- The name after two dashes. -/
def long : Opt → String
  | store => "store"
  | verbose => "verbose"
  | help => "help"
  | version => "version"
  | save => "save"
  | input => "input"
  | step => "step"
  | json => "json"

/-- The letter after one dash. -/
def short? : Opt → Option Char
  | verbose => some 'v'
  | help => some 'h'
  | version => some 'V'
  | save => some 's'
  | input => some 'i'
  | _ => none

/-- Whether a value belongs to the option. -/
def takesValue : Opt → Bool
  | store | save | input => true
  | _ => false

end Opt

/-- What was read at one level of the arguments. -/
structure Found where
  options : List (Opt × String) := []
  words : List String := []

namespace Found

/-- The value of an option, empty for one that takes none. -/
def value? (f : Found) (o : Opt) : Option String := f.options.lookup o

/-- Adds an option. Only the one for more output may come again, and a directory has a name. -/
def addOption (f : Found) (o : Opt) (value : String) : Except Stop Found :=
  match o with
  | .help => .error .help
  | .version => .error .version
  | .verbose => .ok f
  | o =>
    if (f.value? o).isSome ∨ (o = .store ∧ value = "") then .error .usage
    else .ok { f with options := f.options ++ [(o, value)] }

/-- Adds a word. -/
def addWord (f : Found) (word : String) : Found := { f with words := f.words ++ [word] }

end Found

/-! ## Levels -/

/-- The words that a level takes. -/
inductive Words where
  | none
  | one
  | goal
  deriving DecidableEq, Repr

/-- A level of the arguments: its options, its words, and the names that lead to further levels. -/
structure Level where
  options : List Opt
  words : Words
  names : List String

namespace Level

/-- The level before the name of the command. -/
def top : Level :=
  ⟨[.store, .verbose, .help, .version], .none,
    ["plan", "run", "exec", "functions", "plans", "help"]⟩

/-- The level after the name of a command. -/
def ofName (name : String) : Level :=
  let common : List Opt := [.store, .verbose, .help]
  if name = "plan" then ⟨.save :: common, .goal, []⟩
  else if name = "run" then ⟨common, .goal, []⟩
  else if name = "exec" then ⟨.step :: .input :: common, .one, []⟩
  else if name = "functions" then ⟨.json :: common, .none, []⟩
  else ⟨common, .none, []⟩

end Level

/-- Reads the letters after one dash: what was found, and the option that still waits for its
    value. -/
def readLetters (l : Level) (f : Found) : List Char → Except Stop (Found × Option Opt)
  | [] => .ok (f, none)
  | c :: rest =>
    match l.options.find? (·.short? = some c) with
    | none => .error .usage
    | some o =>
      if o.takesValue then
        match rest with
        | [] => if (f.value? o).isSome then .error .usage else .ok (f, some o)
        | '=' :: value => do return (← f.addOption o (String.ofList value), none)
        | value => do return (← f.addOption o (String.ofList value), none)
      else do readLetters l (← f.addOption o "") rest

/-- Reads what follows two dashes. -/
def readLong (l : Level) (f : Found) (cs : List Char) : Except Stop (Found × Option Opt) :=
  let name := String.ofList (cs.takeWhile (· ≠ '='))
  match l.options.find? (·.long = name), cs.dropWhile (· ≠ '=') with
  | none, _ => .error .usage
  | some o, '=' :: value =>
    if o.takesValue then do return (← f.addOption o (String.ofList value), none)
    else .error .usage
  | some o, _ =>
    if o.takesValue then
      if (f.value? o).isSome then .error .usage else .ok (f, some o)
    else do return (← f.addOption o "", none)

/-- Reads a word at a level that still takes one. -/
def readWord (l : Level) (f : Found) (word : String) : Except Stop Found :=
  match l.words with
  | .goal => .ok (f.addWord word)
  | .one => if f.words.isEmpty then .ok (f.addWord word) else .error .usage
  | .none => .error .usage

/-- Reads words only. -/
def readWords (l : Level) (f : Found) (args : List String) : Except Stop Found :=
  args.foldlM (readWord l) f

/-- Reads the arguments of a level: what was found, and where a name leads to another level, that
    name and the arguments after it. `waiting` is an option whose value comes next. -/
def readLevel (l : Level) (f : Found) (waiting : Option Opt) :
    List String → Except Stop (Found × Option (String × List String))
  | [] => if waiting.isSome then .error .usage else .ok (f, none)
  | arg :: rest =>
    match waiting, arg.toList with
    | some o, cs =>
      match cs with
      | '-' :: _ :: _ => .error .usage
      | _ => do readLevel l (← f.addOption o arg) none rest
    | none, cs =>
      if arg ∈ l.names then .ok (f, some (arg, rest))
      else
        match cs with
        | ['-', '-'] => do return (← readWords l f rest, none)
        | '-' :: '-' :: name => do
          let (f, waiting) ← readLong l f name
          readLevel l f waiting rest
        | '-' :: c :: letters => do
          let (f, waiting) ← readLetters l f (c :: letters)
          readLevel l f waiting rest
        | _ =>
          if l.words = .goal then do return (← readWords l f (arg :: rest), none)
          else do readLevel l (← readWord l f arg) none rest

/-- Where plans are stored when no directory is given. -/
def defaultStore : String := ".skillcraft/plans"

/-- The command that was found. -/
def commandOf? (name : String) (f : Found) : Option Command :=
  let goal := " ".intercalate f.words
  if name = "plan" then
    if f.words.isEmpty then none else some (.plan goal (f.value? .save))
  else if name = "run" then if f.words.isEmpty then none else some (.run goal)
  else if name = "exec" then
    f.words.head?.map fun target => .exec target (f.value? .step).isSome (f.value? .input)
  else if name = "functions" then some (.functions (f.value? .json).isSome)
  else some .plans

/-- The end of a call for help, with the names of what it is wanted on. No command has commands of
    its own. -/
def helpOn (names : List String) : Stop :=
  match names with
  | [] => .help
  | [name] => if name ∈ Level.top.names then .help else .usage
  | _ => .usage

/-- Reads the arguments of the program. -/
def readArguments (args : List String) : Except Stop Invocation := do
  match ← readLevel .top {} none args with
  | (_, none) => .error .usage
  | (outer, some (name, rest)) =>
    if name = "help" then .error (helpOn rest)
    else
      let (inner, _) ← readLevel (.ofName name) {} none rest
      match commandOf? name inner with
      | none => .error .usage
      | some command =>
        let store := (inner.value? .store).or (outer.value? .store)
        return ⟨command, store.getD defaultStore⟩

end SkillPlan.Cli
