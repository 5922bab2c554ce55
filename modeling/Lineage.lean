import Lineage.Blocks
import Lineage.Chain
import Lineage.CommandLine.Arguments
import Lineage.CommandLine.Run
import Lineage.CommandLine.Usage
import Lineage.Configuration
import Lineage.Decimal
import Lineage.Explanation
import Lineage.Failure
import Lineage.FileTree
import Lineage.Inspector
import Lineage.Json
import Lineage.Main
import Lineage.Metadata
import Lineage.Metadata.Criterion
import Lineage.Metadata.Declaration
import Lineage.Metadata.Enforcement
import Lineage.OrderedMap
import Lineage.ParseCache
import Lineage.Path
import Lineage.Presentation.Structured
import Lineage.Presentation.Style
import Lineage.Presentation.Text
import Lineage.Proofs.Ancestors
import Lineage.Proofs.Readings
import Lineage.Regex.CharClass
import Lineage.Regex.Parse
import Lineage.Regex.Pattern
import Lineage.Report
import Lineage.Samples
import Lineage.Session
import Lineage.Sha256
import Lineage.Source
import Lineage.Stamp
import Lineage.Template.Brackets
import Lineage.Template.Effect
import Lineage.Template.Fault
import Lineage.Template.Node
import Lineage.Template.Outline
import Lineage.Template.Reading
import Lineage.Template.Segment
import Lineage.Template.Token
import Lineage.TemplateDirectory
import Lineage.Text.Blank
import Lineage.Text.CaseFolding
import Lineage.Text.Category
import Lineage.Text.CodePointSet
import Lineage.Text.Digit
import Lineage.Text.EditDistance
import Lineage.Text.Letter
import Lineage.Text.Property
import Lineage.Text.Script
import Lineage.Text.Split
import Lineage.Toml.Document
import Lineage.Toml.Scalar
import Lineage.Validation
import Lineage.Variables
import Lineage.Version
import Lineage.Yaml.Node
import Lineage.Yaml.Token
import Lineage.Yaml.Value
import Lineage.Proofs.Reports
import Lineage.Proofs.ExternalVariables
import Lineage.Proofs.Sessions
import Lineage.Proofs.OutlineSteps
import Lineage.Proofs.Pieces
import Lineage.Proofs.TagEffects
import Lineage.Proofs.Concatenation
import Lineage.Proofs.Spans
import Lineage.Proofs.Rendering
import Lineage.Proofs.Enclosing
import Lineage.Proofs.Words
import Lineage.Proofs.Completion
import Lineage.Proofs.Branches
import Lineage.Proofs.Loops
import Lineage.Proofs.BlockNames
import Lineage.Proofs.BlockSites
import Lineage.Proofs.Outcomes
import Lineage.Proofs.Declarations
import Lineage.Proofs.Inheritance
import Lineage.Proofs.Matches
import Lineage.Proofs.Verdicts
import Lineage.Proofs.Extensions
import Lineage.Proofs.Fetches
import Lineage.Proofs.Containment
import Lineage.Proofs.Acceptance
import Lineage.Proofs.InlineConditions
import Lineage.Proofs.Excerpts
import Lineage.Proofs.ConditionForms
import Lineage.Proofs.CacheHistories
import Lineage.Proofs.KeptReports
import Lineage.Proofs.Requests
import Lineage.Proofs.Parents
import Lineage.Proofs.BlockNesting
import Lineage.Proofs.DeadBlocks
import Lineage.Proofs.Identifiers
import Lineage.Proofs.DefaultFilters
import Lineage.Proofs.AttributeNames
import Lineage.Proofs.Descriptions
import Lineage.Proofs.Modifiers
import Lineage.Proofs.PieceReplacement
import Lineage.Proofs.RenamedLists
import Lineage.Proofs.RenamedTags
import Lineage.Proofs.Renaming
import Lineage.Proofs.WordReplacement
import Lineage.Proofs.WordsInBodies
import Lineage.Proofs.LoopBranches
import Lineage.Proofs.UnreadText
import Lineage.Proofs.BoundNames
import Lineage.Proofs.ReadNodes
import Lineage.Proofs.ReadWords
import Lineage.Proofs.BalancedParts
import Lineage.Proofs.ScannedParts
import Lineage.Proofs.FallbackTexts
import Lineage.Proofs.LoopAlternatives
import Lineage.Proofs.StampedLines
import Lineage.Proofs.Contents
import Lineage.Proofs.EditDistances
import Lineage.Proofs.Suggestions
import Lineage.Proofs.StampedChains
import Lineage.Proofs.ListedExtensions
import Lineage.Proofs.ChainTexts
import Lineage.Proofs.Summaries
import Lineage.Proofs.ConfiguredExtensions
import Lineage.Proofs.FailedRequests
import Lineage.Text.Bytes
import Lineage.Bytewise.Checked
import Lineage.Bytewise.Segment
import Lineage.Proofs.BracketWords
import Lineage.Proofs.BytewiseTemplates
import Lineage.Proofs.QuotedStretches
import Lineage.Proofs.MapHistories
