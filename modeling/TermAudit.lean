import TermAudit.Text.Alphanumeric
import TermAudit.Text.Basic
import TermAudit.Text.Blank
import TermAudit.Text.Case
import TermAudit.Text.CharacterName
import TermAudit.Text.Digit
import TermAudit.Text.Folding
import TermAudit.Text.Quoted
import TermAudit.Text.Utf8
import TermAudit.Number.Reading
import TermAudit.Number.Rounding
import TermAudit.Number.Style
import TermAudit.Time.Calendar
import TermAudit.Model.Reader
import TermAudit.Yaml.Outline
import TermAudit.Yaml.Report
import TermAudit.Yaml.Tag
import TermAudit.OrderedMap
import TermAudit.Value
import TermAudit.Terms.Config
import TermAudit.Validation
import TermAudit.Validator
import TermAudit.Json
import TermAudit.Files
import TermAudit.Console.Emoji
import TermAudit.Console.Literal
import TermAudit.Console.Markup
import TermAudit.Console.Style
import TermAudit.Console.Styled
import TermAudit.Console.Table
import TermAudit.Console.Width
import TermAudit.Console.Wrap
import TermAudit.Command.Options
import TermAudit.Main
import TermAudit.Proofs.OrderedMap
import TermAudit.Proofs.Terms.Occurrence
import TermAudit.Proofs.Terms.Table
import TermAudit.Proofs.Index
import TermAudit.Proofs.Validation
import TermAudit.Proofs.Text.Blank
import TermAudit.Proofs.Text.Case
import TermAudit.Proofs.Text.Folding
import TermAudit.Proofs.Terms.Search
import TermAudit.Proofs.Result
import TermAudit.Proofs.Command.Options
import TermAudit.Proofs.Loading
import TermAudit.Proofs.Command.Run
import TermAudit.Proofs.Json.Syntax
import TermAudit.Proofs.Json.Reading
import TermAudit.Proofs.Yaml.Cursor
import TermAudit.Proofs.Yaml.Stream
import TermAudit.Proofs.Yaml.Flow
import TermAudit.Proofs.Json.Quoted
import TermAudit.Proofs.Yaml.Plain
import TermAudit.Proofs.Json.Tokens
import TermAudit.Proofs.Yaml.Grammar
import TermAudit.Proofs.Json.Events
import TermAudit.Proofs.Json.Graph
import TermAudit.Proofs.Model.Described
import TermAudit.Proofs.Model.Reading
import TermAudit.Proofs.Json.Models
import TermAudit.Proofs.Index.Coverage
import TermAudit.Proofs.Model.Outcome
import TermAudit.Proofs.Terms.Outcome
import TermAudit.Proofs.Yaml.Outline
import TermAudit.Proofs.Json.Printed
import TermAudit.Proofs.Terms.Printed
import TermAudit.Proofs.Command.Terms
import TermAudit.Proofs.Yaml.Locality
import TermAudit.Proofs.Model.Declaration
import TermAudit.Proofs.Model.Identity
import TermAudit.Proofs.Model.Order
import TermAudit.Proofs.Model.WellFormed
import TermAudit.Proofs.Terms.Resolution
import TermAudit.Proofs.Terms.Layers
import TermAudit.Proofs.State
import TermAudit.Proofs.Index.Leaves
import TermAudit.Proofs.Index.Listing
import TermAudit.Proofs.Model.Hierarchy
import TermAudit.Proofs.Model.Keys
import TermAudit.Registry.Session
import TermAudit.Proofs.Text.Order
import TermAudit.Proofs.Registry
import TermAudit.Proofs.Yaml.Making
import TermAudit.Proofs.Yaml.Taken
import TermAudit.Proofs.Model.Places
import TermAudit.Proofs.Validation.Findings
import TermAudit.Proofs.Validation.Joined
import TermAudit.Proofs.Validation.Appended
import TermAudit.Proofs.Validation.Distinct
import TermAudit.Proofs.Validation.Located
import TermAudit.Proofs.Terms.Data
import TermAudit.Proofs.Terms.Grouping
import TermAudit.Proofs.Terms.Settled
import TermAudit.Proofs.Validation.Malformed
import TermAudit.Proofs.Registry.Loading
import TermAudit.Proofs.Command.Written
import TermAudit.Proofs.Text.Capital
import TermAudit.Proofs.Validation.Suggestions
import TermAudit.Proofs.Model.KeyOrder
import TermAudit.Proofs.Model.Locations
import TermAudit.Proofs.Console.Width
import TermAudit.Proofs.Console.Emoji
import TermAudit.Proofs.Console.Markup
import TermAudit.Proofs.Console.Styled
import TermAudit.Proofs.Console.Wrap
import TermAudit.Proofs.Console.Cell
import TermAudit.Proofs.Console.Table
import TermAudit.Proofs.Console.Output
import TermAudit.Proofs.Console.Style
import TermAudit.Proofs.Command.Rows
import TermAudit.Proofs.Command.Formats
