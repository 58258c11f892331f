import TemplateAttr.Expression.Delimiters
import TemplateAttr.Text.Find

/-!
# Attribute/Source — what the source text of an attribute tells

The value of an attribute reaches the compiler unwrapped: quotes are gone and character references
decoded.  Whether `{x}` was meant as an expression can only be told from the source text, which
still shows the quotes and, by what it does *not* hold, the references.
-/

namespace TemplateAttr

namespace Source

/-- The text after the first `=`; none for a bare attribute. -/
def valueText (source : List Char) : Option (List Char) :=
  (splitAtFirst Mark.equals.char source).map (·.2)

/-- Whether the text after the first `=` begins and ends with a double quote.  A lone quote does
both. -/
def isQuoted (source : List Char) : Bool :=
  match valueText source with
  | none => false
  | some text =>
    text.head? == some Mark.doubleQuote.char && text.getLast? == some Mark.doubleQuote.char

/-- **Whether the value is settled**: the text after the first `=` is empty, or lacks one of the
delimiters, so the tokenizer's reading is final. -/
def isSettled (d : Delimiters) (source : List Char) : Bool :=
  match valueText source with
  | none => true
  | some text => text.isEmpty || !(occursIn d.start.toList text && occursIn d.stop.toList text)

end Source

end TemplateAttr
