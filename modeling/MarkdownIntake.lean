import MarkdownIntake.Command.Basic
import MarkdownIntake.Command.Configure
import MarkdownIntake.Command.Documents
import MarkdownIntake.Command.Run
import MarkdownIntake.Command.Session
import MarkdownIntake.Command.Words
import MarkdownIntake.Console.Display
import MarkdownIntake.Console.Markup
import MarkdownIntake.Console.Notice
import MarkdownIntake.Console.Table
import MarkdownIntake.Console.Width
import MarkdownIntake.Console.WidthTable
import MarkdownIntake.Console.Wrap
import MarkdownIntake.Csv
import MarkdownIntake.Document.Assembly
import MarkdownIntake.Document.Locate
import MarkdownIntake.Document.Mark
import MarkdownIntake.Document.Metrics
import MarkdownIntake.Document.Node
import MarkdownIntake.Document.Scaffold
import MarkdownIntake.Document.Title
import MarkdownIntake.Import.Document
import MarkdownIntake.Import.Push
import MarkdownIntake.Json.Printer
import MarkdownIntake.Json.Reader
import MarkdownIntake.Json.Value
import MarkdownIntake.Main
import MarkdownIntake.Markdown.Block
import MarkdownIntake.Markdown.BlockStart
import MarkdownIntake.Markdown.Character
import MarkdownIntake.Markdown.Container
import MarkdownIntake.Markdown.Definition
import MarkdownIntake.Markdown.Destination
import MarkdownIntake.Markdown.Emphasis
import MarkdownIntake.Markdown.Entity
import MarkdownIntake.Markdown.HtmlTag
import MarkdownIntake.Markdown.Inline
import MarkdownIntake.Markdown.Line
import MarkdownIntake.Markdown.LinkAddress
import MarkdownIntake.Markdown.Reading
import MarkdownIntake.Markdown.Reference
import MarkdownIntake.Markdown.Table
import MarkdownIntake.Number.Binary64
import MarkdownIntake.Number.Decimal
import MarkdownIntake.Number.Grouped
import MarkdownIntake.Number.Literal
import MarkdownIntake.Proofs.Attempts
import MarkdownIntake.Proofs.Document.Assembly
import MarkdownIntake.Proofs.Document.Outline
import MarkdownIntake.Proofs.Document.Walk
import MarkdownIntake.Proofs.Review.Findings
import MarkdownIntake.Proofs.Review.Remarks
import MarkdownIntake.Proofs.Review.Verdict
import MarkdownIntake.Proofs.Settings.Kept
import MarkdownIntake.Proofs.Settings.Key
import MarkdownIntake.Proofs.Settings.Replay
import MarkdownIntake.Proofs.Settings.Stored
import MarkdownIntake.Proofs.Storage.Environment
import MarkdownIntake.Proofs.Storage.Files
import MarkdownIntake.Proofs.Text.Lines
import MarkdownIntake.Review.Basic
import MarkdownIntake.Review.Census
import MarkdownIntake.Review.Export
import MarkdownIntake.Review.Finding
import MarkdownIntake.Review.Report
import MarkdownIntake.Review.Rule
import MarkdownIntake.Settings.Basic
import MarkdownIntake.Settings.Check
import MarkdownIntake.Settings.Override
import MarkdownIntake.Settings.Store
import MarkdownIntake.Settings.Update
import MarkdownIntake.Storage.Environment
import MarkdownIntake.Storage.EnvironmentFile
import MarkdownIntake.Storage.Files
import MarkdownIntake.Storage.Path
import MarkdownIntake.Text.Blank
import MarkdownIntake.Text.Case
import MarkdownIntake.Text.CaseTable
import MarkdownIntake.Text.CodeRange
import MarkdownIntake.Text.DecimalDigit
import MarkdownIntake.Text.Lines
import MarkdownIntake.Text.Printable
import MarkdownIntake.Text.Punctuation
import MarkdownIntake.Text.Quoted
import MarkdownIntake.Text.Utf8
import MarkdownIntake.Web.Address
import MarkdownIntake.Web.Charset
import MarkdownIntake.Web.CodePage
import MarkdownIntake.Web.Download
import MarkdownIntake.Web.Percent
import MarkdownIntake.Web.Punycode
import MarkdownIntake.Yaml.Character
import MarkdownIntake.Yaml.Kind
import MarkdownIntake.Yaml.Meaning
import MarkdownIntake.Yaml.Node
import MarkdownIntake.Yaml.Printer
import MarkdownIntake.Yaml.Property
import MarkdownIntake.Yaml.Reader
import MarkdownIntake.Yaml.Scalar
import MarkdownIntake.Yaml.ScalarText
import MarkdownIntake.Yaml.Spot
import MarkdownIntake.Yaml.Token
import MarkdownIntake.Yaml.Tokens
import MarkdownIntake.Yaml.Value
import MarkdownIntake.Proofs.Csv
import MarkdownIntake.Proofs.Import.Masking
import MarkdownIntake.Proofs.Settings.Readable
import MarkdownIntake.Proofs.Command.Alike
import MarkdownIntake.Proofs.Command.Documents
import MarkdownIntake.Proofs.Command.Frame
import MarkdownIntake.Proofs.Command.Generate
import MarkdownIntake.Proofs.Command.Import
import MarkdownIntake.Proofs.Command.Validate
import MarkdownIntake.Proofs.Settings.Operation
import MarkdownIntake.Proofs.Settings.Override
import MarkdownIntake.Proofs.Settings.Token
import MarkdownIntake.Proofs.Command.Discretion
import MarkdownIntake.Proofs.Review.LineEnds
import MarkdownIntake.Proofs.Document.Balance
import MarkdownIntake.Proofs.Markdown.Marks
import MarkdownIntake.Proofs.Markdown.Barrier
import MarkdownIntake.Proofs.Markdown.Definition
import MarkdownIntake.Proofs.Markdown.Passage
import MarkdownIntake.Proofs.Markdown.TopHeading
import MarkdownIntake.Proofs.Document.Title
import MarkdownIntake.Proofs.Markdown.Line
import MarkdownIntake.Proofs.Markdown.Overlooked
import MarkdownIntake.Proofs.Review.Title
import MarkdownIntake.Proofs.Document.Label
import MarkdownIntake.Proofs.Text.Pattern
import MarkdownIntake.Proofs.Document.TitleSearch
import MarkdownIntake.Proofs.Text.Search
import MarkdownIntake.Proofs.Document.Place
import MarkdownIntake.Proofs.Review.Place
import MarkdownIntake.Proofs.Json.Notation
import MarkdownIntake.Proofs.Json.Reader
import MarkdownIntake.Proofs.Import.WrittenDocument
import MarkdownIntake.Proofs.Web.Download
import MarkdownIntake.Proofs.Command.Download
import MarkdownIntake.Proofs.Review.Kind
import MarkdownIntake.Proofs.Settings.Layer
import MarkdownIntake.Proofs.Settings.Effective
import MarkdownIntake.Proofs.Command.Reported
import MarkdownIntake.Proofs.Yaml.Spot
import MarkdownIntake.Proofs.Yaml.Tokens
import MarkdownIntake.Proofs.Yaml.Node
import MarkdownIntake.Proofs.Yaml.Meaning
import MarkdownIntake.Proofs.Settings.Damage
import MarkdownIntake.Proofs.Csv.LineReader
import MarkdownIntake.Proofs.Review.Table
import MarkdownIntake.Proofs.Review.Limits
import MarkdownIntake.Proofs.Review.Census
import MarkdownIntake.Proofs.Number.Literal
import MarkdownIntake.Proofs.Document.Level
import MarkdownIntake.Proofs.Document.Path
import MarkdownIntake.Proofs.Text.Run
import MarkdownIntake.Proofs.Document.Metrics
import MarkdownIntake.Proofs.Json.Ascii
import MarkdownIntake.Proofs.Review.Record
import MarkdownIntake.Proofs.Review.Level
import MarkdownIntake.Proofs.Command.Secrecy
