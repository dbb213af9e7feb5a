import SkillPlan.Bag
import SkillPlan.Calendar
import SkillPlan.Cli.Arguments
import SkillPlan.Cli.Commands
import SkillPlan.Cli.Program
import SkillPlan.Completion.Config
import SkillPlan.Completion.Exchange
import SkillPlan.Completion.Failure
import SkillPlan.Completion.Request
import SkillPlan.Completion.Wire.Chat
import SkillPlan.Completion.Wire.Messages
import SkillPlan.Error
import SkillPlan.FileTree
import SkillPlan.Filing
import SkillPlan.Function
import SkillPlan.Http.Host
import SkillPlan.Http.Message
import SkillPlan.Http.Name
import SkillPlan.Http.Name.Direction
import SkillPlan.Http.Name.Joining
import SkillPlan.Http.Name.Letters
import SkillPlan.Http.Name.Punycode
import SkillPlan.Http.Network
import SkillPlan.Http.Percent
import SkillPlan.Http.Transfer
import SkillPlan.Http.Url
import SkillPlan.Http.Url.Reader
import SkillPlan.Http.Url.Requestable
import SkillPlan.Json.Decode
import SkillPlan.Json.Raw
import SkillPlan.Json.Reader
import SkillPlan.Json.Value
import SkillPlan.Json.Writer
import SkillPlan.Machine
import SkillPlan.Main
import SkillPlan.Number.Binary
import SkillPlan.Number.Decimal
import SkillPlan.Plan.Basic
import SkillPlan.Plan.Binding
import SkillPlan.Plan.Description
import SkillPlan.Plan.Record
import SkillPlan.Plan.Run
import SkillPlan.Plan.Variables
import SkillPlan.Planner.Answer
import SkillPlan.Planner.Catalog
import SkillPlan.Planner.Choice
import SkillPlan.Planner.Prompt
import SkillPlan.PromptFunction
import SkillPlan.Proofs.Bag
import SkillPlan.Proofs.Bag.History
import SkillPlan.Proofs.Cli.Stepping
import SkillPlan.Proofs.Completion.Advice
import SkillPlan.Proofs.Completion.Replies
import SkillPlan.Proofs.Completion.Sending
import SkillPlan.Proofs.FileTree
import SkillPlan.Proofs.FileTree.Locate
import SkillPlan.Proofs.FileTree.Written
import SkillPlan.Proofs.Function
import SkillPlan.Proofs.Json.Decode
import SkillPlan.Proofs.Json.Grammar
import SkillPlan.Proofs.Json.Layout
import SkillPlan.Proofs.Json.Lexeme
import SkillPlan.Proofs.Json.Number
import SkillPlan.Proofs.Json.Slot
import SkillPlan.Proofs.Json.Text
import SkillPlan.Proofs.Plan.Caller
import SkillPlan.Proofs.Plan.Calls
import SkillPlan.Proofs.Plan.Cancelling
import SkillPlan.Proofs.Plan.Failing
import SkillPlan.Proofs.Plan.Flattening
import SkillPlan.Proofs.Plan.Handing
import SkillPlan.Proofs.Plan.History
import SkillPlan.Proofs.Plan.Keeping
import SkillPlan.Proofs.Plan.Origin
import SkillPlan.Proofs.Plan.Progress
import SkillPlan.Proofs.Plan.Reachable
import SkillPlan.Proofs.Plan.Rebinding
import SkillPlan.Proofs.Plan.Recasing
import SkillPlan.Proofs.Plan.Record
import SkillPlan.Proofs.Plan.Reliable
import SkillPlan.Proofs.Plan.Reloading
import SkillPlan.Proofs.Plan.Retry
import SkillPlan.Proofs.Plan.Shape
import SkillPlan.Proofs.Plan.Step
import SkillPlan.Proofs.Plan.Stepping
import SkillPlan.Proofs.Plan.Succeeding
import SkillPlan.Proofs.Plan.Unbound
import SkillPlan.Proofs.Plan.Variables
import SkillPlan.Proofs.Planner.Answer
import SkillPlan.Proofs.Planner.Asking
import SkillPlan.Proofs.Planner.Catalog
import SkillPlan.Proofs.Planner.Choice
import SkillPlan.Proofs.Planner.Commas
import SkillPlan.Proofs.Planner.Listed
import SkillPlan.Proofs.Planner.Offering
import SkillPlan.Proofs.Planner.Parameters
import SkillPlan.Proofs.Planner.Trailing
import SkillPlan.Proofs.PromptFunction
import SkillPlan.Proofs.Registry
import SkillPlan.Proofs.Registry.History
import SkillPlan.Proofs.Registry.Listing
import SkillPlan.Proofs.Store.Addresses
import SkillPlan.Proofs.Store.Confinement
import SkillPlan.Proofs.Store.Directory
import SkillPlan.Proofs.Store.Listing
import SkillPlan.Proofs.Store.Operation
import SkillPlan.Proofs.Store.Path
import SkillPlan.Proofs.Store.Refinement
import SkillPlan.Proofs.Template
import SkillPlan.Proofs.Template.Expansion
import SkillPlan.Proofs.Template.Rendering
import SkillPlan.Proofs.Text
import SkillPlan.Registry
import SkillPlan.Skills.Core
import SkillPlan.Skills.Files
import SkillPlan.Skills.Text
import SkillPlan.Skills.Time
import SkillPlan.Store
import SkillPlan.Template
import SkillPlan.Text.Base64
import SkillPlan.Text.Blank
import SkillPlan.Text.Case
import SkillPlan.Text.CaseTables
import SkillPlan.Text.Composites
import SkillPlan.Text.Fold
import SkillPlan.Text.Hidden
import SkillPlan.Text.Lossy
import SkillPlan.Text.Marks
import SkillPlan.Text.Normal
import SkillPlan.Text.Quoted
import SkillPlan.Text.Ranges
import SkillPlan.Text.Split
import SkillPlan.Text.Word
import SkillPlan.World
