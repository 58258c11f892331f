import TemplateAttr.Element.Basic
import TemplateAttr.Element.Namespace
import TemplateAttr.Schema.Basic

/-!
# Target/Context — all that a classification needs of an element

The context is taken once.  An `is` attribute that is stripped afterwards changes nothing for the
attributes that are left.
-/

namespace TemplateAttr

/-- **The facts about an element on which the target of its attributes depends.** -/
structure ElementContext where
  tagName : String
  hasIs : Bool
  isCustom : Bool
  isForeign : Bool
  deriving DecidableEq, Repr

namespace Schema

/-- Whether an element is a custom one: its tag is dashed, and not built in. -/
def isCustomTag (s : Schema) (tagName : String) : Bool :=
  isDashedTag tagName && !s.isDashedBuiltin tagName

/-- Whether an element is foreign to HTML, by its namespace or by its tag. -/
def isForeign (s : Schema) (e : Element) : Bool :=
  isForeignNamespace e.namespaceUri || s.isSvgTag e.tagName

/-- **The context of an element.** -/
def contextOf (s : Schema) (e : Element) : ElementContext where
  tagName := e.tagName
  hasIs := e.hasIs
  isCustom := s.isCustomTag e.tagName
  isForeign := s.isForeign e

end Schema

end TemplateAttr
