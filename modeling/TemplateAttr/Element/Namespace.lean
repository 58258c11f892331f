import TemplateAttr.Mark

/-!
# Element/Namespace — what an element's namespace and the shape of its tag tell
-/

namespace TemplateAttr

/-- The namespace of HTML elements. -/
def htmlNamespace : String := "http://www.w3.org/1999/xhtml"

/-- The namespace of SVG elements. -/
def svgNamespace : String := "http://www.w3.org/2000/svg"

/-- The namespace of MathML elements. -/
def mathNamespace : String := "http://www.w3.org/1998/Math/MathML"

/-- **Whether a namespace is foreign** to HTML: that of SVG or of MathML. -/
def isForeignNamespace (uri : Option String) : Bool :=
  uri == some svgNamespace || uri == some mathNamespace

/-- **Whether a tag is dashed**, as the names of custom elements are. -/
def isDashedTag (tagName : String) : Bool := tagName.toList.contains Mark.minus.char

end TemplateAttr
