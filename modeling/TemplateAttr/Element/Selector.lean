import TemplateAttr.Pattern.Reader
import TemplateAttr.Pattern.Search

/-!
# Element/Selector — choosing attributes by name
-/

namespace TemplateAttr

/-- **A choice of attribute names**: one name, or those that match a pattern somewhere. -/
inductive Selector where
  | exact (name : String)
  | pattern (p : Pattern)

namespace Selector

/-- Whether a name is chosen. -/
def selects : Selector → String → Bool
  | exact expected, name => expected == name
  | pattern p, name => p.isMatch name

/-- The selector of a pattern text. -/
def ofPattern (text : String) : Except PatternError Selector :=
  (Pattern.compile text).map .pattern

@[simp] theorem selects_exact (expected name : String) :
    (exact expected).selects name = (expected == name) := rfl

end Selector

end TemplateAttr
