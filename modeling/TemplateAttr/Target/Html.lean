import TemplateAttr.Schema.Html
import TemplateAttr.Target.Processed

/-!
# Target/Html — attributes processed as those of HTML, with expressions in braces

Processing takes a schema and a grammar.  Here they are the schema of HTML and the grammar of
braces, for a caller that has no configuration.
-/

namespace TemplateAttr

namespace Element

/-- **One attribute processed** as that of an element, which need not hold it. -/
def processAttribute (e : Element) (a : Attribute) : Except SyntaxError ProcessedAttribute :=
  Schema.html.processIn (Schema.html.contextOf e) Grammar.braces a

/-- **The attributes of an element processed**, in source order. -/
def process (e : Element) : Except SyntaxError (List ProcessedAttribute) :=
  Schema.html.process Grammar.braces e

end Element

end TemplateAttr
