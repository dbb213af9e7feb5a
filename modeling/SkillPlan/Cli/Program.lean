import SkillPlan.Cli.Commands

/-!
# The program

From arguments and an environment to outputs and an exit status.
-/

namespace SkillPlan.Cli

/-- The name and the version of the program. -/
def versionText : String := "skillcraft 0.1.0"

/-- How the program is called. -/
def usageText : String :=
  "\n".intercalate
    ["Usage: skillcraft [--store <DIRECTORY>] [-v]... <COMMAND>",
      "",
      "Commands:",
      "  plan [--save <NAME>] <GOAL>...                 Show a plan for a goal",
      "  run <GOAL>...                                  Plan a goal and run the plan",
      "  exec [--step] [--input <TEXT>] <NAME OR FILE>  Run a plan",
      "  functions [--json]                             List the functions",
      "  plans                                          List the saved plans"]

variable {W : Type}

/-- What a call of the program ends with. -/
structure Ending (W : Type) where
  status : UInt8
  output : String := ""
  messages : String := ""
  world : W

/-- Ends a call with the report of its command. A program that breaks off has a status of its own
    and reports no error. -/
def Ending.ofReport (r : Report W) : Ending W :=
  match r.result with
  | .ok () => ⟨0, r.output, r.messages, r.world⟩
  | .error e =>
    match e.panic? with
    | some message => ⟨101, r.output, r.messages ++ line message, r.world⟩
    | none => ⟨1, r.output, r.messages ++ line ("Error: " ++ e.summary), r.world⟩

/-- Ends a call without a command. -/
def Ending.ofStop (s : Stop) (w : W) : Ending W :=
  match s with
  | .usage => ⟨2, "", line usageText, w⟩
  | .help => ⟨0, line usageText, "", w⟩
  | .version => ⟨0, line versionText, "", w⟩

/-- A call of the program with the given functions, environment and arguments. -/
def call [Cancellable W] [Holds FileTree W] [Holds Http.Network W] (registry : Registry W)
    (environment : String → Option String) (args : List String) (w : W) : Ending W :=
  match readArguments args with
  | .error s => .ofStop s w
  | .ok i =>
    .ofReport <| i.command.execute
      { registry := registry
        backend := (Completion.Config.ofEnvironment environment).map (·.backend)
        storeDirectory := i.store } w

end SkillPlan.Cli
