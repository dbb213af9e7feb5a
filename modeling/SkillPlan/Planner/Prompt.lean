import SkillPlan.Planner.Catalog
import SkillPlan.Template

/-!
# The prompt

The text that asks a model to choose a function for a goal. It ends with the opening of the answer,
which the model continues.
-/

namespace SkillPlan.Planner

/-- The opening of the answer. -/
def answerOpening : String := "\x7b\"plan\":\x7b \"rationale\":"

/-- An example of a goal that a function serves. -/
def goodExample : String :=
  "\n".intercalate
    ["[EXAMPLE]",
      "- List of functions:",
      "// Read a file.",
      "FileIOSkill.ReadAsync",
      "Parameter \"path\": Source file.",
      "// Write a file.",
      "FileIOSkill.WriteAsync",
      "Parameter \"path\": Destination file.",
      "Parameter \"content\": File content.",
      "// Get the current time.",
      "TimeSkill.Time",
      "No parameters.",
      "// Makes a POST request to a uri.",
      "HttpSkill.PostAsync",
      "Parameter \"body\": The body of the request.",
      "- End list of functions.",
      "Goal: create a file called \"something.txt\".",
      "\x7b\"plan\":\x7b",
      "\"rationale\": \"the list contains a function that allows to create files\",",
      "\"function\": \"FileIOSkill.WriteAsync\",",
      "\"parameters\": \x7b",
      "\"path\": \"something.txt\",",
      "\"content\": null",
      "\x7d\x7d\x7d",
      "#END-OF-PLAN",
      ""]

/-- An example of a goal that no function serves. -/
def edgeExample : String :=
  "\n".intercalate
    ["[EXAMPLE]",
      "- List of functions:",
      "// Get the current time.",
      "TimeSkill.Time",
      "No parameters.",
      "// Write a file.",
      "FileIOSkill.WriteAsync",
      "Parameter \"path\": Destination file.",
      "Parameter \"content\": File content.",
      "// Makes a POST request to a uri.",
      "HttpSkill.PostAsync",
      "Parameter \"body\": The body of the request.",
      "// Read a file.",
      "FileIOSkill.ReadAsync",
      "Parameter \"path\": Source file.",
      "- End list of functions.",
      "Goal: tell me a joke.",
      "\x7b\"plan\":\x7b",
      "\"rationale\": \"the list does not contain functions to tell jokes or something funny\",",
      "\"function\": \"\",",
      "\"parameters\": \x7b\x7d",
      "\x7d\x7d\x7d",
      "#END-OF-PLAN",
      ""]

/-- The usual template. -/
def defaultTemplate : String :=
  "\n".intercalate
    ["A planner takes a list of functions, a goal, and chooses which function to use.",
      "For each function the list includes details about the input parameters.",
      "[START OF EXAMPLES]",
      "\x7b\x7b$good_examples\x7d\x7d",
      "\x7b\x7b$edge_case_examples\x7d\x7d",
      "[END OF EXAMPLES]",
      "[REAL SCENARIO STARTS HERE]",
      "- List of functions:",
      "\x7b\x7b$available_functions\x7d\x7d",
      "- End list of functions.",
      "Goal: \x7b\x7b$input\x7d\x7d",
      "\x7b\"plan\":\x7b \"rationale\":"]

/-- The key of the catalog in a template. -/
def catalogKey : String := "available_functions"

/-- The key of the good example in a template. -/
def goodExampleKey : String := "good_examples"

/-- The key of the edge case in a template. -/
def edgeExampleKey : String := "edge_case_examples"

/-- What a template is filled with. -/
def promptVariables (goal catalog : String) : Bag :=
  ((((∅ : Bag).set goodExampleKey goodExample).set edgeExampleKey edgeExample).set
    catalogKey catalog).withInput goal

/-- The prompt for a goal, with the given catalog. -/
def prompt (o : Options) (goal catalog : String) : String :=
  Template.render (o.prompt.getD defaultTemplate) (promptVariables goal catalog)

end SkillPlan.Planner
