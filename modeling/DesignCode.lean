import DesignCode.Code.Call
import DesignCode.Code.Element
import DesignCode.Code.Generation
import DesignCode.Code.Icon
import DesignCode.Code.Landmark
import DesignCode.Code.Options
import DesignCode.Code.Style
import DesignCode.Code.Styled
import DesignCode.Code.Token
import DesignCode.Code.Writer
import DesignCode.Command.Arguments
import DesignCode.Command.Failure
import DesignCode.Command.Help
import DesignCode.Command.Run
import DesignCode.Command.Topic
import DesignCode.Css.Effects
import DesignCode.Css.FlexBox
import DesignCode.Css.Notation
import DesignCode.Css.StyleMap
import DesignCode.Decimal.Binary
import DesignCode.Decimal.Notation
import DesignCode.Decimal.Shortest
import DesignCode.Decimal.Whole
import DesignCode.Json.Basic
import DesignCode.Json.Codec
import DesignCode.Json.Draft
import DesignCode.Json.Fault
import DesignCode.Json.Printer
import DesignCode.Json.Reader
import DesignCode.Json.Record
import DesignCode.Layer.Basic
import DesignCode.Layer.Color
import DesignCode.Layer.Document
import DesignCode.Layer.Effect
import DesignCode.Layer.Facts
import DesignCode.Layer.Kind
import DesignCode.Layer.Paint
import DesignCode.Layer.Placeholder
import DesignCode.Layer.Shading
import DesignCode.Layer.Styles
import DesignCode.Layer.TypeStyle
import DesignCode.Layer.Typography
import DesignCode.Link.Domain
import DesignCode.Link.Fetch
import DesignCode.Link.Host
import DesignCode.Link.Locator
import DesignCode.Link.MappingTable
import DesignCode.Link.Percent
import DesignCode.Link.Punycode
import DesignCode.Link.Query
import DesignCode.Link.ScriptTable
import DesignCode.Link.Url
import DesignCode.Main
import DesignCode.Markup.Escape
import DesignCode.Node.Basic
import DesignCode.Node.Diagnostic
import DesignCode.Node.FlexBox
import DesignCode.Node.OfLayer
import DesignCode.Node.Position
import DesignCode.Node.Visual
import DesignCode.OrderedMap
import DesignCode.Quad
import DesignCode.Script.Literal
import DesignCode.Session.Log
import DesignCode.Session.Recorder
import DesignCode.Session.Sample
import DesignCode.Template.Basic
import DesignCode.Template.Library
import DesignCode.Template.Parser
import DesignCode.Template.Standard
import DesignCode.Text.Blank
import DesignCode.Text.Case
import DesignCode.Text.CaseTable
import DesignCode.Text.Cluster
import DesignCode.Text.ClusterTable
import DesignCode.Text.Lines
import DesignCode.Text.Quoted
import DesignCode.Text.Words
import DesignCode.Tree
import DesignCode.Proofs.Script.Term
import DesignCode.Proofs.Script.StyleObject
import DesignCode.Proofs.Code.Call
import DesignCode.Proofs.Code.Expression
import DesignCode.Proofs.Markup.Content
import DesignCode.Proofs.Code.NodeElement
import DesignCode.Proofs.Code.Element
import DesignCode.Proofs.Code.Writer
import DesignCode.Proofs.Code.Component
import DesignCode.Proofs.Code.Outline
import DesignCode.Proofs.Code.ComponentOutline
import DesignCode.Proofs.Code.Position
import DesignCode.Proofs.Code.Registration
import DesignCode.Proofs.Code.Ruled
import DesignCode.Proofs.Code.Texts
import DesignCode.Proofs.Code.InnerMarkup
import DesignCode.Proofs.Code.Labels
import DesignCode.Proofs.Code.ComponentLabels
import DesignCode.Proofs.Code.StyleEntries
import DesignCode.Proofs.Layer.Styles
import DesignCode.Proofs.Layer.PartOrder
import DesignCode.Proofs.Code.LayerStyle
import DesignCode.Proofs.Node.Shown
import DesignCode.Proofs.Node.Walk
import DesignCode.Proofs.Node.Counts
import DesignCode.Proofs.Code.Hidden
import DesignCode.Proofs.Code.Signature
import DesignCode.Proofs.Code.Token
import DesignCode.Proofs.Code.Looks
import DesignCode.Proofs.Distinct
import DesignCode.Proofs.Code.Numbering
import DesignCode.Proofs.Text.Cut
import DesignCode.Proofs.Code.Stylesheet
import DesignCode.Proofs.Session.Merge
import DesignCode.Proofs.Session.Export
import DesignCode.Proofs.Json.Numeral
import DesignCode.Proofs.Json.Reading
import DesignCode.Proofs.Session.Reading
import DesignCode.Proofs.Session.Repeats
import DesignCode.Proofs.Link.Percent
import DesignCode.Proofs.Text.ByteOrder
import DesignCode.Proofs.Link.ApiPath
import DesignCode.Proofs.Code.Marker
import DesignCode.Proofs.Code.Targets
import DesignCode.Proofs.Decimal.Shortest
import DesignCode.Proofs.Decimal.Rounding
import DesignCode.Proofs.Decimal.Packing
import DesignCode.Proofs.Decimal.Scientific
import DesignCode.Proofs.Json.Number
import DesignCode.Proofs.Session.Reload
import DesignCode.Proofs.Json.Lawful
import DesignCode.Proofs.Json.LawfulRecord
import DesignCode.Proofs.Css.StyleHistory
import DesignCode.Proofs.Layer.Reload
import DesignCode.Proofs.Node.Reload
import DesignCode.Proofs.Node.Coherence
import DesignCode.Proofs.Code.Inheritance
import DesignCode.Proofs.Markup.ChildText
import DesignCode.Proofs.Text.Case
import DesignCode.Proofs.Code.Identifier
import DesignCode.Proofs.Markup.Pieces
import DesignCode.Proofs.Code.Nesting
import DesignCode.Proofs.Code.ElementTree
import DesignCode.Proofs.Code.NameWords
import DesignCode.Proofs.Decimal.Value
import DesignCode.Proofs.Text.Trim
import DesignCode.Proofs.Code.IconMarkup
import DesignCode.Proofs.Link.Sharing
import DesignCode.Proofs.Decimal.Nearest
import DesignCode.Proofs.Decimal.FewestDigits
import DesignCode.Proofs.Decimal.Positional
import DesignCode.Proofs.Css.Thousandth
import DesignCode.Proofs.Code.Opacity
import DesignCode.Proofs.Script.StringLiteral
import DesignCode.Proofs.Css.BareNumber
