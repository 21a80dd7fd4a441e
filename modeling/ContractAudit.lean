import ContractAudit.Audit.Basic
import ContractAudit.Audit.Configured
import ContractAudit.Audit.Error
import ContractAudit.Config.Basic
import ContractAudit.Config.Source
import ContractAudit.Config.Value
import ContractAudit.Facts.Calls
import ContractAudit.Facts.Contract
import ContractAudit.Finding.Basic
import ContractAudit.Finding.Risk
import ContractAudit.Json.Basic
import ContractAudit.Json.Decode
import ContractAudit.Json.Numeral
import ContractAudit.Json.Printer
import ContractAudit.Json.Reader
import ContractAudit.Json.Relaxed
import ContractAudit.Json.Repair
import ContractAudit.Numeric.Binary
import ContractAudit.Numeric.Layout
import ContractAudit.Numeric.Reading
import ContractAudit.Numeric.Shortest
import ContractAudit.Pattern.Parser
import ContractAudit.Pattern.Program
import ContractAudit.Pattern.Property
import ContractAudit.Pattern.Search
import ContractAudit.Pattern.Syntax
import ContractAudit.Proofs.Audit.Conservation
import ContractAudit.Proofs.Audit.Degradation
import ContractAudit.Proofs.Audit.Emission
import ContractAudit.Proofs.Audit.Monotonicity
import ContractAudit.Proofs.Audit.Score
import ContractAudit.Proofs.Audit.Stages
import ContractAudit.Proofs.Audit.WellFormed
import ContractAudit.Proofs.Facts.Calls
import ContractAudit.Proofs.Facts.Composition
import ContractAudit.Proofs.Facts.Contract
import ContractAudit.Proofs.Facts.Events
import ContractAudit.Proofs.Facts.Origins
import ContractAudit.Proofs.Facts.Places
import ContractAudit.Proofs.Facts.References
import ContractAudit.Proofs.Facts.Slots
import ContractAudit.Proofs.Facts.Tests
import ContractAudit.Proofs.Finding.Clamp
import ContractAudit.Proofs.Finding.Risk
import ContractAudit.Proofs.Finding.Weight
import ContractAudit.Proofs.Json.Decoding
import ContractAudit.Proofs.Json.Documents
import ContractAudit.Proofs.Json.Grammar
import ContractAudit.Proofs.Json.Numeral
import ContractAudit.Proofs.Json.Repair
import ContractAudit.Proofs.Json.RoundTrip
import ContractAudit.Proofs.Json.Text
import ContractAudit.Proofs.Names
import ContractAudit.Proofs.Numeric.Digits
import ContractAudit.Proofs.Numeric.Exactness
import ContractAudit.Proofs.Numeric.Order
import ContractAudit.Proofs.Numeric.Rounding
import ContractAudit.Proofs.Partial
import ContractAudit.Proofs.Pattern.Search
import ContractAudit.Proofs.Report.Ranking
import ContractAudit.Proofs.Report.RoundTrip
import ContractAudit.Proofs.Report.Summary
import ContractAudit.Proofs.Review.Payload
import ContractAudit.Proofs.Review.Reply
import ContractAudit.Proofs.Rule.Arithmetic
import ContractAudit.Proofs.Rule.Catalogue
import ContractAudit.Proofs.Rule.Configuration
import ContractAudit.Proofs.Rule.Interface
import ContractAudit.Proofs.Rule.Layers
import ContractAudit.Proofs.Rule.Lexical
import ContractAudit.Proofs.Rule.LowLevelCalls
import ContractAudit.Proofs.Rule.Pack
import ContractAudit.Proofs.Rule.Packing
import ContractAudit.Proofs.Rule.Registry
import ContractAudit.Proofs.Rule.Skipping
import ContractAudit.Proofs.Rule.UnusedVariables
import ContractAudit.Proofs.Solidity.Comments
import ContractAudit.Proofs.Solidity.Containment
import ContractAudit.Proofs.Solidity.Fragment
import ContractAudit.Proofs.Solidity.Order
import ContractAudit.Proofs.Solidity.Refusal
import ContractAudit.Proofs.Solidity.Sites
import ContractAudit.Proofs.Solidity.Throughout
import ContractAudit.Proofs.Solidity.Version
import ContractAudit.Proofs.Text.Blank
import ContractAudit.Proofs.Text.Lines
import ContractAudit.Proofs.Tree.Comments
import ContractAudit.Proofs.Tree.Nodes
import ContractAudit.Report.Basic
import ContractAudit.Report.Json
import ContractAudit.Report.Markdown
import ContractAudit.Review.Basic
import ContractAudit.Review.Merge
import ContractAudit.Review.Payload
import ContractAudit.Review.Provider
import ContractAudit.Review.Reply
import ContractAudit.Review.Settings
import ContractAudit.Rule.Basic
import ContractAudit.Rule.Catalogue
import ContractAudit.Rule.Catalogue.Arithmetic
import ContractAudit.Rule.Catalogue.Interface
import ContractAudit.Rule.Catalogue.LowLevelCalls
import ContractAudit.Rule.Catalogue.Privileges
import ContractAudit.Rule.Catalogue.Storage
import ContractAudit.Rule.Catalogue.Wording
import ContractAudit.Rule.Pack
import ContractAudit.Rule.Registry
import ContractAudit.Rule.Scan
import ContractAudit.Solidity.Declaration
import ContractAudit.Solidity.Reading
import ContractAudit.Solidity.Syntax
import ContractAudit.Solidity.Version
import ContractAudit.Solidity.Walk
import ContractAudit.Text.Blank
import ContractAudit.Text.Files
import ContractAudit.Text.Lines
import ContractAudit.Text.Message
import ContractAudit.Time.Duration
import ContractAudit.Time.Timestamp
import ContractAudit.Toml.Datetime
import ContractAudit.Toml.Reader
import ContractAudit.Toml.Scalar
import ContractAudit.Toml.Table
import ContractAudit.Tree.Node
import ContractAudit.Unicode.Case
import ContractAudit.Unicode.Category
import ContractAudit.Unicode.CharSet
import ContractAudit.Unicode.Property
import ContractAudit.Unicode.Script
import ContractAudit.Yaml.Basic
import ContractAudit.Yaml.Cursor
import ContractAudit.Yaml.Reader
import ContractAudit.Yaml.Scalar
