import Criteria.Binary64
import Criteria.Binary64.Numeral
import Criteria.Binary64.Shortest
import Criteria.Calendar
import Criteria.Catalogue
import Criteria.CommandLine
import Criteria.Comparison
import Criteria.Condition
import Criteria.Context
import Criteria.Declaration
import Criteria.EmailPattern
import Criteria.Engine
import Criteria.Error
import Criteria.Evaluation
import Criteria.IpAddress
import Criteria.IpPattern
import Criteria.Json.Decoder
import Criteria.Json.Failure
import Criteria.Json.Reader
import Criteria.Json.Writer
import Criteria.Lint
import Criteria.Main
import Criteria.Matches
import Criteria.Names
import Criteria.Operator
import Criteria.Program
import Criteria.Proofs.Evaluation.FirstGroup
import Criteria.Proofs.Evaluation.FirstMatch
import Criteria.Proofs.Evaluation.Judgement
import Criteria.Proofs.Lint.Soundness
import Criteria.Proofs.Store.History
import Criteria.Proofs.Store.Operation
import Criteria.Proofs.Store.Placement
import Criteria.Query
import Criteria.Regex
import Criteria.Regex.CharSet
import Criteria.Regex.Expression
import Criteria.Regex.Look
import Criteria.Regex.Property
import Criteria.Regex.Reader
import Criteria.Resolution
import Criteria.Ruleset
import Criteria.Settings
import Criteria.Settings.Setting
import Criteria.Store
import Criteria.Table
import Criteria.Text.Blank
import Criteria.Text.Digits
import Criteria.Text.Pieces
import Criteria.Text.Quoted
import Criteria.Threshold
import Criteria.Toml.Node
import Criteria.Toml.Reader
import Criteria.Toml.Scalar
import Criteria.Toml.Text
import Criteria.Unicode.Category
import Criteria.Unicode.Folding
import Criteria.Unicode.Letters
import Criteria.Unicode.Property
import Criteria.Unicode.Runs
import Criteria.Unicode.Script
import Criteria.Unicode.Unprintable
import Criteria.Value
import Criteria.ValueType
import Criteria.Proofs.Comparison.Guard
import Criteria.Proofs.Lint.RequiredKeys
import Criteria.Proofs.IpPattern.Alphabet
import Criteria.Proofs.IpPattern.Widening
import Criteria.Proofs.EmailPattern.Demand
import Criteria.Proofs.Catalogue.Registration
import Criteria.Proofs.Evaluation.Record
import Criteria.Proofs.Comparison.Opposite
import Criteria.Proofs.Json.Order
import Criteria.Proofs.Json.Scalar
import Criteria.Proofs.Json.Enclosed
import Criteria.Proofs.Json.RoundTrip
import Criteria.Proofs.Ruleset.Storage
import Criteria.Proofs.Store.Atomicity
import Criteria.Proofs.Evaluation.Faults
import Criteria.Proofs.Evaluation.Selection
import Criteria.Proofs.Catalogue.Extension
import Criteria.Proofs.Engine.Isolation
import Criteria.Proofs.Program.Findings
import Criteria.Proofs.IpPattern.LeadingBits
import Criteria.Proofs.Binary64.Agreement
import Criteria.Proofs.Comparison.Numeric
import Criteria.Proofs.Text.Numeral
import Criteria.Proofs.IpPattern.Grammar
import Criteria.Proofs.IpPattern.Alignment
import Criteria.Proofs.Comparison.PatternLists
import Criteria.Proofs.Comparison.Choices
import Criteria.Proofs.Comparison.TextRelations
import Criteria.Proofs.Lint.Exactness
import Criteria.Proofs.Resolution.Injection
import Criteria.Proofs.Catalogue.Declarations
import Criteria.Proofs.Evaluation.AbsentArgument
import Criteria.Proofs.Text.Blank
import Criteria.Proofs.Resolution.AuthoredText
import Criteria.Proofs.EmailPattern.Rendering
import Criteria.Proofs.Text.FixedWidth
import Criteria.Proofs.Calendar.Written
import Criteria.Proofs.Calendar.Timestamp
import Criteria.Proofs.Comparison.TextualOrder
import Criteria.Proofs.Catalogue.Grouping
