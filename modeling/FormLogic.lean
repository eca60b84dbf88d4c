import FormLogic.Binary64
import FormLogic.Binary64.Shortest
import FormLogic.Binary64.Text
import FormLogic.CharSet
import FormLogic.CommandLine.Arguments
import FormLogic.CommandLine.Run
import FormLogic.Configuration.Declaration
import FormLogic.Configuration.Document
import FormLogic.Configuration.Format
import FormLogic.Configuration.Policy
import FormLogic.Configuration.Registration
import FormLogic.Dictionary
import FormLogic.Field
import FormLogic.FieldError
import FormLogic.Form
import FormLogic.Gateway
import FormLogic.Json.Basic
import FormLogic.Json.Parser
import FormLogic.Json.Printer
import FormLogic.Json.Record
import FormLogic.Main
import FormLogic.Message
import FormLogic.Path
import FormLogic.Pattern.Basic
import FormLogic.Pattern.Match
import FormLogic.Pattern.Parser
import FormLogic.Pattern.Size
import FormLogic.Proofs.Binary64
import FormLogic.Proofs.Blocking
import FormLogic.Proofs.Cascade
import FormLogic.Proofs.ClosestOwner
import FormLogic.Proofs.Commands
import FormLogic.Proofs.Comparison
import FormLogic.Proofs.Configuration.Elements
import FormLogic.Proofs.Configuration.Records
import FormLogic.Proofs.Configuration.Rewriting
import FormLogic.Proofs.Dictionary
import FormLogic.Proofs.ErrorMap
import FormLogic.Proofs.Extensions
import FormLogic.Proofs.FreshData
import FormLogic.Proofs.Integers
import FormLogic.Proofs.ItemLeaves
import FormLogic.Proofs.Json.Normal
import FormLogic.Proofs.Json.Printing
import FormLogic.Proofs.Json.Reading
import FormLogic.Proofs.Logic
import FormLogic.Proofs.Overrides
import FormLogic.Proofs.OwedResets
import FormLogic.Proofs.Path.Joining
import FormLogic.Proofs.Path.Merging
import FormLogic.Proofs.Path.Overwriting
import FormLogic.Proofs.Path.Parts
import FormLogic.Proofs.Path.Segments
import FormLogic.Proofs.Path.Writing
import FormLogic.Proofs.Policies
import FormLogic.Proofs.Relaxation
import FormLogic.Proofs.Replies
import FormLogic.Proofs.Reset
import FormLogic.Proofs.RulePaths
import FormLogic.Proofs.RulesAbove
import FormLogic.Proofs.Schema.Comparison
import FormLogic.Proofs.Schema.Findings
import FormLogic.Proofs.Schema.FirstFindings
import FormLogic.Proofs.Schema.Insertion
import FormLogic.Proofs.Schema.LastLeaf
import FormLogic.Proofs.Schema.LeafPaths
import FormLogic.Proofs.Schema.Leaves
import FormLogic.Proofs.Schema.Obstruction
import FormLogic.Proofs.Schema.Ranking
import FormLogic.Proofs.Schema.Writing
import FormLogic.Proofs.SeparateFields
import FormLogic.Proofs.SeparateResets
import FormLogic.Proofs.Texts
import FormLogic.Proofs.Tree.Acceptance
import FormLogic.Proofs.Tree.Addresses
import FormLogic.Proofs.Tree.Cycles
import FormLogic.Proofs.Tree.Declared
import FormLogic.Proofs.Tree.DefectAddresses
import FormLogic.Proofs.Tree.Dependency
import FormLogic.Proofs.Tree.Shifting
import FormLogic.Proofs.Tree.Within
import FormLogic.Proofs.Views
import FormLogic.Proofs.Visibility
import FormLogic.Proofs.WrittenValues
import FormLogic.Reset
import FormLogic.Rule.Comparison
import FormLogic.Rule.Evaluator
import FormLogic.Rule.Operator
import FormLogic.Schema.Basic
import FormLogic.Schema.Check
import FormLogic.Template.Basic
import FormLogic.Template.Helper
import FormLogic.Template.Parser
import FormLogic.Template.Render
import FormLogic.Template.Tag
import FormLogic.Text.Blank
import FormLogic.Text.Quoted
import FormLogic.Text.Search
import FormLogic.Tree.Build
import FormLogic.Tree.Check
import FormLogic.Tree.Defect
import FormLogic.Unicode.CaseFolding
import FormLogic.Unicode.Category
import FormLogic.Unicode.Property
import FormLogic.Unicode.Query
import FormLogic.Unicode.Script
import FormLogic.Violation
import FormLogic.Visibility
