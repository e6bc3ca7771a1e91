import Questline.Text.CharClass
import Questline.Text.Word
import Questline.Text.Printable
import Questline.Text.CaseFold
import Questline.Text.Split
import Questline.Text.Quoted
import Questline.Number.Reading
import Questline.Number.Shortest
import Questline.Requirement.Comparison
import Questline.Requirement.Kind
import Questline.Requirement.Basic
import Questline.Requirement.Gate
import Questline.Names
import Questline.Text.Object
import Questline.Condition.Basic
import Questline.Condition.Command
import Questline.Condition.Translator
import Questline.Script.Line
import Questline.Script.Outline
import Questline.Script.Tree
import Questline.Script.Layout
import Questline.Text.Folded
import Questline.Script.Assignment
import Questline.Script.Index
import Questline.Script.Call
import Questline.Script.Journal
import Questline.Script.Inlining
import Questline.Script.Guard
import Questline.Records.Basic
import Questline.Records.Validation
import Questline.Records.Dialogue
import Questline.Findings
import Questline.Quest.Basic
import Questline.Quest.Transitions
import Questline.Quest.Log
import Questline.World.Object
import Questline.World.Registry
import Questline.World.Leveled
import Questline.World.Survey
import Questline.Text.Reader
import Questline.Ron.Value
import Questline.Ron.Printer
import Questline.Ron.Parser
import Questline.Analysis.Settings
import Questline.Analysis.Report
import Questline.Toml.Value
import Questline.Toml.Parser
import Questline.Toml.Settings
import Questline.Ron.Records
import Questline.Ron.Report
import Questline.CommandLine
import Questline.Main
import Questline.Proofs.Number.Equality
import Questline.Proofs.Requirement.Equality
import Questline.Proofs.Requirement.Gate
import Questline.Proofs.Requirement.Truth
import Questline.Proofs.Script.Folding
import Questline.Proofs.Script.Termination
import Questline.Proofs.Script.Resolution
import Questline.Proofs.Script.Program
import Questline.Proofs.Script.Forest
import Questline.Proofs.Script.Level
import Questline.Proofs.Script.Parts
import Questline.Proofs.Script.Layout
import Questline.Proofs.Script.Kept
import Questline.Proofs.Script.Copies
import Questline.Proofs.Script.Arena
import Questline.Proofs.Script.Inlining
import Questline.Proofs.Script.Paths
import Questline.Proofs.Script.Reachable
import Questline.Proofs.Script.Choices
import Questline.Proofs.Script.OpenBranches
import Questline.Proofs.Script.Searching
import Questline.Proofs.Script.DialogueResult
import Questline.Proofs.Number.Decimal
import Questline.Proofs.Condition.Reading
import Questline.Proofs.Condition.Descriptors
import Questline.Proofs.Script.PlacedLines
import Questline.Proofs.Script.LineCalls
import Questline.Proofs.Script.JournalUpdates
import Questline.Proofs.Script.QuotedCalls
import Questline.Proofs.World.Flattening
import Questline.Proofs.Quest.Transitions
import Questline.Proofs.Quest.Log
import Questline.Proofs.Analysis.Sources
import Questline.Proofs.Analysis.JournalGates
import Questline.Proofs.World.Registry
import Questline.Proofs.Condition.Canonical
import Questline.Proofs.Quest.Branches
import Questline.Proofs.Analysis.RecordOrder
import Questline.Proofs.Quest.Givers
import Questline.Proofs.Quest.HitOrder
import Questline.Proofs.Quest.Keys
import Questline.Proofs.World.Involvement
import Questline.Proofs.Analysis.QuestObjects
import Questline.Proofs.Script.Depth
import Questline.Proofs.Text.LetterCase
import Questline.Proofs.Condition.LetterCase
import Questline.Proofs.Script.LetterCase
import Questline.Proofs.Script.CaseInsensitive
import Questline.Proofs.World.Retelling
import Questline.Proofs.Analysis.ScriptReferences
import Questline.Proofs.Condition.KindKeys
import Questline.Proofs.Condition.Acceptance
import Questline.Proofs.Script.Entries
import Questline.Proofs.Script.Notes
import Questline.Proofs.Script.Inherited
import Questline.Proofs.Condition.WholeWords
import Questline.Proofs.Condition.Arguments
import Questline.Proofs.World.ScriptLinks
import Questline.Proofs.World.Ownership
import Questline.Proofs.Script.NamesInSight
import Questline.Proofs.Script.Assignments
import Questline.Proofs.Condition.Parentheses
import Questline.Proofs.Script.Comments
import Questline.Proofs.Requirement.Edits
import Questline.Proofs.World.Totals
import Questline.Proofs.Records.Defects
import Questline.Proofs.Quest.Journal
import Questline.Proofs.Script.Scan
import Questline.Proofs.Script.BlockLines
