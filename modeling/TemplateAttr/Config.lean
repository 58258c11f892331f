import TemplateAttr.Expression.Grammar

/-!
# Config — the configuration of the compiler
-/

namespace TemplateAttr

/-- **The configuration of the compiler**: the delimiters of expressions. -/
structure Config where
  expression : Delimiters := {}
  deriving DecidableEq, Repr

/-- Refuses a configuration with unusable delimiters. -/
def Config.validate (c : Config) : Except ConfigError Unit := c.expression.validate

end TemplateAttr
