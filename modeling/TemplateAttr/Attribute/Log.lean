import TemplateAttr.Attribute.Value

/-!
# Attribute/Log — the record that reading a value leaves

Every reading but the plain one leaves one record.  It names the attribute by its local name.
-/

namespace TemplateAttr

/-- How much a record matters. -/
inductive LogLevel where
  | trace
  | debug
  deriving DecidableEq, Repr

/-- **A log record.** -/
structure LogRecord where
  level : LogLevel
  text : String
  deriving DecidableEq, Repr

namespace Attribute

/-- **The record that reading the value leaves**, if any: a trace of how it was read, or a debug
record of why it was refused. -/
def logRecord? (a : Attribute) (g : Grammar) (source : String) : Option LogRecord :=
  match a.normalize g source with
  | .error e => some ⟨.debug, "rejecting attribute " ++ a.name ++ ": " ++ e.message⟩
  | .ok _ =>
    match a.reading g source with
    | .binding => some ⟨.trace, "attribute " ++ a.name ++ " is bound to " ++ a.value⟩
    | .escaped _ => some ⟨.trace, "attribute " ++ a.name ++ " is an escaped literal"⟩
    | .selfClosed _ =>
      some ⟨.trace, "attribute " ++ a.name ++
        " sits next to a self-closing tag end, dropping the trailing /"⟩
    | _ => none

end Attribute

end TemplateAttr
