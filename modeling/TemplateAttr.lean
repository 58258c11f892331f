import TemplateAttr.Attribute.Basic
import TemplateAttr.Attribute.Log
import TemplateAttr.Attribute.Source
import TemplateAttr.Attribute.SyntaxError
import TemplateAttr.Attribute.Value
import TemplateAttr.Compiler
import TemplateAttr.Config
import TemplateAttr.Element.Basic
import TemplateAttr.Element.Namespace
import TemplateAttr.Element.Selector
import TemplateAttr.Expression.Delimiters
import TemplateAttr.Expression.Grammar
import TemplateAttr.Json.Basic
import TemplateAttr.Json.Form
import TemplateAttr.Json.Lawful
import TemplateAttr.Json.Reader
import TemplateAttr.Json.Record
import TemplateAttr.Json.RoundTrip
import TemplateAttr.Json.Text
import TemplateAttr.Json.Token
import TemplateAttr.Mark
import TemplateAttr.Name.Boundary
import TemplateAttr.Name.Camel
import TemplateAttr.Pattern.Basic
import TemplateAttr.Pattern.Bracket
import TemplateAttr.Pattern.CharSet
import TemplateAttr.Pattern.CodePoint
import TemplateAttr.Pattern.Count
import TemplateAttr.Pattern.Depth
import TemplateAttr.Pattern.Error
import TemplateAttr.Pattern.Escape
import TemplateAttr.Pattern.Literal
import TemplateAttr.Pattern.Meaning
import TemplateAttr.Pattern.Quote
import TemplateAttr.Pattern.Ranges
import TemplateAttr.Pattern.Reader
import TemplateAttr.Pattern.Search
import TemplateAttr.Pattern.Size
import TemplateAttr.Proofs.Attribute.Outcome
import TemplateAttr.Proofs.Attribute.Quotes
import TemplateAttr.Proofs.Attribute.Reading
import TemplateAttr.Proofs.Attribute.Suggestion
import TemplateAttr.Proofs.Compiler.Calls
import TemplateAttr.Proofs.Compiler.Configuration
import TemplateAttr.Proofs.Expression.Limit
import TemplateAttr.Proofs.Expression.Notation
import TemplateAttr.Proofs.Expression.Run
import TemplateAttr.Proofs.Expression.Shape
import TemplateAttr.Proofs.Expression.Usable
import TemplateAttr.Proofs.Json.DataModel
import TemplateAttr.Proofs.Name.Boundary
import TemplateAttr.Proofs.Name.Case
import TemplateAttr.Proofs.Target.Element
import TemplateAttr.Proofs.Target.Family
import TemplateAttr.Proofs.Target.Processed
import TemplateAttr.Proofs.Target.Spelling
import TemplateAttr.Proofs.Target.Traversal
import TemplateAttr.Schema.AttributeTable
import TemplateAttr.Schema.Basic
import TemplateAttr.Schema.Html
import TemplateAttr.Schema.Property
import TemplateAttr.Schema.Tag
import TemplateAttr.Target.Basic
import TemplateAttr.Target.Context
import TemplateAttr.Target.Html
import TemplateAttr.Target.Processed
import TemplateAttr.Text.Blank
import TemplateAttr.Text.Cased
import TemplateAttr.Text.CodeRange
import TemplateAttr.Text.Find
import TemplateAttr.Text.Fold
import TemplateAttr.Text.Hex
import TemplateAttr.Text.Lowercase
import TemplateAttr.Text.Uppercase
import TemplateAttr.Text.Utf8
import TemplateAttr.Text.Word
import TemplateAttr.Proofs.Name.Camel
import TemplateAttr.Proofs.Name.Fixed
import TemplateAttr.Proofs.Attribute.Layers
import TemplateAttr.Proofs.Schema.Table
import TemplateAttr.Proofs.Target.Extension
import TemplateAttr.Proofs.Target.Verbatim
import TemplateAttr.Proofs.Name.Cursor
import TemplateAttr.Proofs.Name.Window
import TemplateAttr.Proofs.Pattern.Quote
