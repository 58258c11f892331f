import TemplateAttr.Attribute.Basic
import TemplateAttr.Element.Selector

/-!
# Element/Basic — elements, and their attributes by name

Every look-up goes through `Attribute.qualifiedName`.
-/

namespace TemplateAttr

/-- **An element**: its tag, the namespace it was parsed in, and its attributes in source order. -/
structure Element where
  tagName : String
  namespaceUri : Option String := none
  attributes : List Attribute := []
  deriving DecidableEq, Repr

/-- Whether a selector chooses an attribute. -/
def Selector.chooses (s : Selector) (a : Attribute) : Bool := s.selects a.qualifiedName

namespace Element

/-- The element in a namespace. -/
def withNamespace (e : Element) (uri : String) : Element := { e with namespaceUri := some uri }

/-- The element with one more attribute, the last. -/
def withAttribute (e : Element) (a : Attribute) : Element :=
  { e with attributes := e.attributes ++ [a] }

/-- The first attribute that a selector chooses. -/
def attribute? (e : Element) (s : Selector) : Option Attribute := e.attributes.find? s.chooses

/-- The element without the attributes that a selector chooses. -/
def withoutAttributes (e : Element) (s : Selector) : Element :=
  { e with attributes := e.attributes.filter fun a => !s.chooses a }

/-- **Whether the element extends a built-in one** through an `is` attribute. -/
def hasIs (e : Element) : Bool := (e.attribute? (.exact "is")).isSome

/-- An element has an `is` when one of its attributes is called so. -/
theorem hasIs_iff (e : Element) : e.hasIs = true ↔ ∃ a ∈ e.attributes, a.qualifiedName = "is" := by
  simp [hasIs, attribute?, Selector.chooses, @eq_comm _ "is"]

end Element

end TemplateAttr
