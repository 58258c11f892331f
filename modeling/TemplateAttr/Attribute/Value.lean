import TemplateAttr.Attribute.Basic
import TemplateAttr.Attribute.Source
import TemplateAttr.Attribute.SyntaxError
import TemplateAttr.Expression.Grammar

/-!
# Attribute/Value — what an attribute value means

Delimiters are legal inside a plain text, so a value alone cannot tell the binding `{x}` from the
three characters.  `Grammar.readValue` decides from the value and the source text together:

* `value={x}` is a **binding**, and so is `value={x}/`, whose slash belongs to the tag;
* `value="\{x}"` is an **escaped literal**, the text after the backslash;
* `value="{x}"` is ambiguous, and so is any other value that holds an expression;
* everything else is a **literal**.
-/

namespace TemplateAttr

/-- **How a value is read.** -/
inductive Reading where
  /-- A literal, as it stands. -/
  | plain
  /-- An expression, as it stands. -/
  | binding
  /-- A literal whose backslash is dropped, with what is left. -/
  | escaped (text : List Char)
  /-- An expression next to the end of a tag, without the slash of the tag. -/
  | selfClosed (expression : List Char)
  /-- A quoted expression, refused. -/
  | ambiguous
  /-- A value that holds an expression but is none, refused. -/
  | unresolved
  deriving DecidableEq, Repr

/-- **A value made plain**: what it is, and whether the author escaped a delimiter in it. -/
structure NormalizedValue where
  value : String
  escaped : Bool
  deriving DecidableEq, Repr

/-- **What a value stands for.** -/
inductive ValueKind where
  | literal
  | expression
  | escapedLiteral
  deriving DecidableEq, Repr

/-- The kind of a value made plain: exactly one holds of any value. -/
def NormalizedValue.kind (g : Grammar) (n : NormalizedValue) : ValueKind :=
  if n.escaped then .escapedLiteral else if g.isFull n.value then .expression else .literal

/-- How a value is read that is no full expression but holds one. -/
def Grammar.readPotential (g : Grammar) (value source : List Char) : Reading :=
  let start := g.delimiters.start.toList
  if (Mark.backslash.char :: start).isPrefixOf value then .escaped (value.drop 1)
  else if start.isPrefixOf value && (g.delimiters.stop.toList ++ [Mark.slash.char]).isSuffixOf value
      && !Source.isQuoted source then .selfClosed value.dropLast
  else .unresolved

/-- **How a value is read**, given the source text of its attribute. -/
def Grammar.readValue (g : Grammar) (value source : List Char) : Reading :=
  if Source.isSettled g.delimiters source then .plain
  else if g.isFullChars value then
    if Source.isQuoted source then .ambiguous else .binding
  else if g.isPotentialChars value then g.readPotential value source
  else .plain

/-- What a reading makes of the value: the plain form, or the error. -/
def Reading.outcome (g : Grammar) (value source : List Char) :
    Reading → Except SyntaxError NormalizedValue
  | plain | binding => .ok ⟨String.ofList value, false⟩
  | escaped text => .ok ⟨String.ofList text, true⟩
  | selfClosed expression => .ok ⟨String.ofList expression, false⟩
  | ambiguous => .error (.ofQuoted g.delimiters source)
  | unresolved => .error (.ofUnresolved source)

namespace Attribute

/-- How the value of an attribute is read under a source text. -/
def reading (a : Attribute) (g : Grammar) (source : String) : Reading :=
  g.readValue a.value.toList source.toList

/-- **The plain form of an attribute's value** under a source text. -/
def normalize (a : Attribute) (g : Grammar) (source : String) :
    Except SyntaxError NormalizedValue :=
  (a.reading g source).outcome g a.value.toList source.toList

end Attribute

end TemplateAttr
