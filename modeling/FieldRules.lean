import FieldRules.Address.Email
import FieldRules.Address.Host
import FieldRules.Address.Url
import FieldRules.Check.Basic
import FieldRules.Command.Arguments
import FieldRules.Command.Host
import FieldRules.Command.Log
import FieldRules.Command.Run
import FieldRules.Document.Json
import FieldRules.Document.JsonWriter
import FieldRules.Document.Load
import FieldRules.Document.Yaml
import FieldRules.Fault
import FieldRules.Form.Basic
import FieldRules.Form.Builder
import FieldRules.Form.Generate
import FieldRules.Form.Schema
import FieldRules.Form.Submit
import FieldRules.Journal.Event
import FieldRules.Journal.Redaction
import FieldRules.Main
import FieldRules.Markup.Control
import FieldRules.Markup.Escape
import FieldRules.Markup.FieldView
import FieldRules.Markup.Form
import FieldRules.Markup.Plain
import FieldRules.Markup.Tag
import FieldRules.Named
import FieldRules.Number.Decimal
import FieldRules.Number.Digits
import FieldRules.Number.Double
import FieldRules.Number.Literal
import FieldRules.Options.Basic
import FieldRules.Options.Key
import FieldRules.Options.Library
import FieldRules.Options.Resolve
import FieldRules.Options.Standard
import FieldRules.Pattern.Compiled
import FieldRules.Pattern.Flaw
import FieldRules.Pattern.Reader
import FieldRules.Pattern.Search
import FieldRules.Pattern.Tree
import FieldRules.Proofs.Address.Absolute
import FieldRules.Proofs.Address.Mailbox
import FieldRules.Proofs.Address.Naming
import FieldRules.Proofs.Address.Places
import FieldRules.Proofs.Check.Constraint
import FieldRules.Proofs.Check.Leaves
import FieldRules.Proofs.Check.Numbers
import FieldRules.Proofs.Command.Documented
import FieldRules.Proofs.Command.Exits
import FieldRules.Proofs.Command.Lines
import FieldRules.Proofs.Command.Tasks
import FieldRules.Proofs.Failing
import FieldRules.Proofs.Form.Agreement
import FieldRules.Proofs.Form.Assembly
import FieldRules.Proofs.Form.Catalog
import FieldRules.Proofs.Form.Dropping
import FieldRules.Proofs.Form.Faults
import FieldRules.Proofs.Form.Flags
import FieldRules.Proofs.Form.Layering
import FieldRules.Proofs.Form.Omission
import FieldRules.Proofs.Form.Painting
import FieldRules.Proofs.Form.Refusal
import FieldRules.Proofs.Form.Sending
import FieldRules.Proofs.Form.Session
import FieldRules.Proofs.Form.Usage
import FieldRules.Proofs.Form.Wrapping
import FieldRules.Proofs.Journal.Quiet
import FieldRules.Proofs.Journal.Retention
import FieldRules.Proofs.Journal.Secrecy
import FieldRules.Proofs.Markup.Attributes
import FieldRules.Proofs.Markup.Choices
import FieldRules.Proofs.Markup.Constraints
import FieldRules.Proofs.Markup.Faults
import FieldRules.Proofs.Markup.Groups
import FieldRules.Proofs.Markup.Likeness
import FieldRules.Proofs.Markup.Opening
import FieldRules.Proofs.Markup.Outline
import FieldRules.Proofs.Markup.Placeholders
import FieldRules.Proofs.Markup.Pointing
import FieldRules.Proofs.Markup.Segments
import FieldRules.Proofs.Markup.Shape
import FieldRules.Proofs.Markup.Tags
import FieldRules.Proofs.Markup.Writing
import FieldRules.Proofs.Number.Closest
import FieldRules.Proofs.Number.Digits
import FieldRules.Proofs.Number.Excess
import FieldRules.Proofs.Number.Grammar
import FieldRules.Proofs.Number.Nearest
import FieldRules.Proofs.Number.Numeral
import FieldRules.Proofs.Number.Reading
import FieldRules.Proofs.Number.Rounding
import FieldRules.Proofs.Options.Documented
import FieldRules.Proofs.Options.Keys
import FieldRules.Proofs.Options.Plain
import FieldRules.Proofs.Options.Precedence
import FieldRules.Proofs.Pattern.Ways
import FieldRules.Proofs.Rule.Demands
import FieldRules.Proofs.Rule.Forms
import FieldRules.Proofs.Rule.Given
import FieldRules.Proofs.Rule.Merging
import FieldRules.Proofs.Rule.Normalization
import FieldRules.Proofs.Rule.Respelling
import FieldRules.Proofs.Rule.Sources
import FieldRules.Proofs.Rule.Wording
import FieldRules.Proofs.Validation.Calls
import FieldRules.Proofs.Validation.Faults
import FieldRules.Proofs.Validation.Fields
import FieldRules.Proofs.Validation.Ledger
import FieldRules.Proofs.Validation.Limits
import FieldRules.Proofs.Validation.Messages
import FieldRules.Proofs.Validation.Outcome
import FieldRules.Proofs.Validation.Preparation
import FieldRules.Proofs.Validation.Settling
import FieldRules.Proofs.Validation.Thresholds
import FieldRules.Proofs.Validation.Totality
import FieldRules.Rule.Attribute
import FieldRules.Rule.Bound
import FieldRules.Rule.Merge
import FieldRules.Rule.Normalize
import FieldRules.Rule.OfDict
import FieldRules.Rule.Spelling
import FieldRules.Rule.Token
import FieldRules.Settings
import FieldRules.Text.Blank
import FieldRules.Text.CaseTable
import FieldRules.Text.CharacterTable
import FieldRules.Text.Letter
import FieldRules.Text.NameTable
import FieldRules.Text.PrintTable
import FieldRules.Text.Quoted
import FieldRules.Text.TitleTable
import FieldRules.Text.WordTable
import FieldRules.Validation.Record
import FieldRules.Validation.Violation
import FieldRules.Value.Basic
import FieldRules.Value.Dict
import FieldRules.Value.Equality
import FieldRules.Value.Text
