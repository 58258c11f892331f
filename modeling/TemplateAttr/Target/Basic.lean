import TemplateAttr.Name.Camel
import TemplateAttr.Target.Context

/-!
# Target/Basic — where an attribute ends up

An attribute is **reserved** by the compiler, set as an **attribute** of the element, or assigned to
a **property** of it.
-/

namespace TemplateAttr

/-- **Where an attribute ends up.** -/
inductive Target where
  /-- It is set as an attribute of that name. -/
  | domAttribute (name : String)
  /-- It is assigned to the property of that name. -/
  | domProperty (name : String)
  /-- The compiler consumes it. -/
  | reserved
  deriving DecidableEq, Repr

/-- The attributes that the compiler consumes. -/
def directiveNames : List String := ["is", "key"]

/-- The families of attributes that the compiler consumes, by the start of their names. -/
def directiveFamilies : List String := ["if:", "for:", "iterator:"]

/-- **Whether the compiler consumes an attribute.** -/
def isReservedName (name : String) : Bool :=
  directiveNames.contains name ||
    directiveFamilies.any fun family => family.toList.isPrefixOf name.toList

/-- Whether an attribute holds the state of an input control, of which the attribute would only be
the initial one. -/
def isInputState (tagName name : String) : Bool :=
  tagName == "input" && (name == "value" || name == "checked")

namespace Schema

/-- **Whether an attribute is set as one** in a context.  The universal ones are, the state of an
input is not; an element that extends a built-in one takes the attributes valid on that; and for the
rest, all elements but custom ones take any. -/
def isAttributeIn (s : Schema) (ctx : ElementContext) (name : String) : Bool :=
  if s.isUniversal name then true
  else if isInputState ctx.tagName name then false
  else if ctx.hasIs then s.isValid ctx.tagName name
  else !ctx.isCustom

/-- **The property of an attribute** in a context.  Foreign and custom elements keep the name, and
so do the owned attributes. -/
def propertyNameIn (s : Schema) (ctx : ElementContext) (name : String) : String :=
  if ctx.isForeign || ctx.isCustom || s.isOwned name then name
  else camelCase ((s.propertyOf? name).getD name)

/-- **Where an attribute ends up** in a context. -/
def targetIn (s : Schema) (ctx : ElementContext) (name : String) : Target :=
  if isReservedName name then .reserved
  else if s.isAttributeIn ctx name then .domAttribute name
  else .domProperty (s.propertyNameIn ctx name)

section TargetIn

variable {s : Schema} {ctx : ElementContext} {name : String}

/-- An attribute is left alone when its name is reserved. -/
theorem targetIn_eq_reserved_iff :
    s.targetIn ctx name = .reserved ↔ isReservedName name = true := by
  cases hreserved : isReservedName name <;> cases hattribute : s.isAttributeIn ctx name <;>
    simp [targetIn, hreserved, hattribute]

/-- **An attribute is set as one** under its own name. -/
theorem targetIn_eq_domAttribute_iff {n : String} : s.targetIn ctx name = .domAttribute n ↔
    isReservedName name = false ∧ s.isAttributeIn ctx name = true ∧ n = name := by
  cases hreserved : isReservedName name <;> cases hattribute : s.isAttributeIn ctx name <;>
    simp [targetIn, hreserved, hattribute, eq_comm]

/-- **An attribute is assigned to a property** when it is neither reserved nor set as one. -/
theorem targetIn_eq_domProperty_iff {p : String} : s.targetIn ctx name = .domProperty p ↔
    isReservedName name = false ∧ s.isAttributeIn ctx name = false ∧
      p = s.propertyNameIn ctx name := by
  cases hreserved : isReservedName name <;> cases hattribute : s.isAttributeIn ctx name <;>
    simp [targetIn, hreserved, hattribute, eq_comm]

end TargetIn

/-- Whether an attribute of an element is set as one. -/
def isAttribute (s : Schema) (e : Element) (name : String) : Bool :=
  s.isAttributeIn (s.contextOf e) name

/-- The property of an attribute of an element. -/
def propertyName (s : Schema) (e : Element) (name : String) : String :=
  s.propertyNameIn (s.contextOf e) name

/-- Where an attribute of an element ends up. -/
def target (s : Schema) (e : Element) (name : String) : Target := s.targetIn (s.contextOf e) name

end Schema

end TemplateAttr
