import TemplateAttr.Attribute.Value
import TemplateAttr.Target.Basic

/-!
# Target/Processed — attributes ready for code generation

An attribute is **processed** into its qualified name, its target, its value made plain, and what
the value stands for.  The context of an element is taken before any of its attributes is looked at,
so each is processed on its own.
-/

namespace TemplateAttr

/-- **An attribute ready for code generation.** -/
structure ProcessedAttribute where
  name : String
  target : Target
  value : String
  kind : ValueKind
  deriving DecidableEq, Repr

namespace ProcessedAttribute

/-- Whether the value is an expression. -/
def isExpression (p : ProcessedAttribute) : Bool := p.kind == .expression

/-- Whether the author escaped a delimiter in the value. -/
def isEscaped (p : ProcessedAttribute) : Bool := p.kind == .escapedLiteral

end ProcessedAttribute

namespace Schema

/-- **An attribute processed in a context.** -/
def processIn (s : Schema) (ctx : ElementContext) (g : Grammar) (a : Attribute) :
    Except SyntaxError ProcessedAttribute := do
  let n ← a.normalize g a.source
  pure ⟨a.qualifiedName, s.targetIn ctx a.qualifiedName, n.value, n.kind g⟩

/-- **The attributes of an element processed**, in source order; the first error ends it. -/
def process (s : Schema) (g : Grammar) (e : Element) :
    Except SyntaxError (List ProcessedAttribute) :=
  e.attributes.mapM (s.processIn (s.contextOf e) g)

end Schema

end TemplateAttr
