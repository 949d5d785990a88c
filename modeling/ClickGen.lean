import ClickGen.Artifact
import ClickGen.Code.Literal
import ClickGen.Code.Name
import ClickGen.Config
import ClickGen.Decimal
import ClickGen.Element
import ClickGen.Failure
import ClickGen.Field.Basic
import ClickGen.Field.Decorator
import ClickGen.File.Fault
import ClickGen.File.Path
import ClickGen.File.Tree
import ClickGen.Invocation
import ClickGen.Locator
import ClickGen.Main
import ClickGen.Model
import ClickGen.Policy
import ClickGen.Program
import ClickGen.Proofs.Code.Line
import ClickGen.Proofs.Code.Literal
import ClickGen.Proofs.Code.Numeral
import ClickGen.Proofs.Code.Token
import ClickGen.Report
import ClickGen.Request
import ClickGen.Shipped
import ClickGen.Template.Argument
import ClickGen.Template.Arrange
import ClickGen.Template.Basic
import ClickGen.Template.Block
import ClickGen.Template.Chain
import ClickGen.Template.Condition
import ClickGen.Template.Expr
import ClickGen.Template.Filter
import ClickGen.Template.Node
import ClickGen.Template.Number
import ClickGen.Template.Piece
import ClickGen.Template.Render
import ClickGen.Template.Spelling
import ClickGen.Template.Token
import ClickGen.Template.Value
import ClickGen.Text.Basic
import ClickGen.Text.Blank
import ClickGen.Text.Case
import ClickGen.Text.CaseData
import ClickGen.Text.Cluster
import ClickGen.Text.ClusterData
import ClickGen.Text.Markup
import ClickGen.Text.Numeral
import ClickGen.Text.Printable
import ClickGen.Text.Quoted
import ClickGen.Text.Search
import ClickGen.Text.Snake
import ClickGen.Text.Span
import ClickGen.Text.Utf8
import ClickGen.Time.Calendar
import ClickGen.Time.Format
import ClickGen.Time.Moment
import ClickGen.Time.Reader
import ClickGen.Toml.Document
import ClickGen.Toml.Quoted
import ClickGen.Toml.Scalar
import ClickGen.Toml.Value
import ClickGen.Url.Basic
import ClickGen.Url.Host
import ClickGen.Url.Name
import ClickGen.Url.Path
import ClickGen.Url.Percent
import ClickGen.Url.Punycode
import ClickGen.Variables
import ClickGen.Xml.Event
import ClickGen.Xml.Fault
import ClickGen.Xml.Reference
import ClickGen.Xml.Tag
import ClickGen.Xml.Tree
import ClickGen.Proofs.Field.Reading
import ClickGen.Proofs.Field.Quoting
import ClickGen.Proofs.Xml.Attributes
import ClickGen.Proofs.Xml.Roundtrip
import ClickGen.Proofs.Xml.Keys
import ClickGen.Proofs.Except
import ClickGen.Proofs.File.Follow
import ClickGen.Proofs.File.Write
import ClickGen.Proofs.Request.Placement
import ClickGen.Proofs.Request.OnDisk
import ClickGen.Proofs.Request.HalfWritten
import ClickGen.Proofs.Xml.Nesting
import ClickGen.Proofs.Xml.Truncation
import ClickGen.Proofs.Request.Preview
import ClickGen.Proofs.File.WellFormed
import ClickGen.Proofs.File.Stray
import ClickGen.Proofs.Request.Rerun
import ClickGen.Proofs.Request.SkipExisting
import ClickGen.Proofs.Text.Snake
import ClickGen.Proofs.Code.ListLiteral
import ClickGen.Proofs.Code.ReadBack
import ClickGen.Proofs.Element.Preorder
import ClickGen.Proofs.Template.Slot
import ClickGen.Proofs.Template.Columns
import ClickGen.Proofs.Code.Name
import ClickGen.Proofs.Field.Parameter
import ClickGen.Proofs.Field.Clash
import ClickGen.Proofs.File.Components
import ClickGen.Proofs.Artifact.Below
import ClickGen.Proofs.Xml.Outside
import ClickGen.Proofs.Template.Stretch
import ClickGen.Proofs.Artifact.Import
import ClickGen.Proofs.Template.Options
import ClickGen.Proofs.Code.Identifier
import ClickGen.Proofs.Template.Part
import ClickGen.Proofs.Artifact.Names
import ClickGen.Proofs.Xml.Layout
import ClickGen.Proofs.Text.Trim
import ClickGen.Proofs.Element.Trimmed
import ClickGen.Proofs.Xml.References
import ClickGen.Proofs.Xml.Comment
import ClickGen.Proofs.Request.Fetches
import ClickGen.Proofs.Request.Stages
import ClickGen.Proofs.Field.Line
import ClickGen.Proofs.Field.Update
import ClickGen.Proofs.Code.Number
import ClickGen.Proofs.Field.Number
import ClickGen.Proofs.Field.Range
import ClickGen.Proofs.Text.Underscore
import ClickGen.Proofs.Code.FieldName
import ClickGen.Proofs.Field.Selection
import ClickGen.Proofs.Field.Dependence
import ClickGen.Proofs.Text.Parts
import ClickGen.Proofs.Field.Several
import ClickGen.Proofs.Element.Resolve
import ClickGen.Proofs.Url.Path
import ClickGen.Proofs.Url.RawFile
import ClickGen.Proofs.File.Frame
import ClickGen.Proofs.Toml.Distinct
import ClickGen.Proofs.Config.Overlay
import ClickGen.Proofs.Xml.Mark
import ClickGen.Proofs.Url.Render
import ClickGen.Proofs.Url.Reread
import ClickGen.Proofs.Xml.Loop
import ClickGen.Proofs.Xml.OpenTags
import ClickGen.Proofs.Xml.Progress
import ClickGen.Proofs.Xml.Tags
