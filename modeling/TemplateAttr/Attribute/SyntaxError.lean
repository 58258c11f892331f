import TemplateAttr.Expression.Delimiters
import TemplateAttr.Text.Find

/-!
# Attribute/SyntaxError — values that may mean two things

The two errors a template author can meet.  Each keeps the source text of the attribute, and
suggests how to spell it so that it means one thing only.
-/

namespace TemplateAttr

/-- **An attribute value that may mean two things.** -/
inductive SyntaxError where
  /-- A quoted value that is one full expression: a binding without the quotes, a text if it is
  escaped. -/
  | ambiguousQuoted (source unquoted escaped : String)
  /-- A value that opens an expression and closes it, but is no expression as a whole. -/
  | unresolved (source escaped : String)
  deriving DecidableEq, Repr

namespace SyntaxError

/-- The source text of the refused attribute. -/
def source : SyntaxError → String
  | ambiguousQuoted source _ _ => source
  | unresolved source _ => source

/-- The spellings that mean one thing, in the order of the message. -/
def suggestions : SyntaxError → List String
  | ambiguousQuoted _ unquoted escaped => [unquoted, escaped]
  | unresolved _ escaped => [escaped]

/-- The wording of the error. -/
def message : SyntaxError → String
  | ambiguousQuoted source unquoted escaped =>
    "Ambiguous attribute value " ++ source ++ ". " ++
    "If you want to make it a valid identifier you should remove the surrounding quotes " ++
    unquoted ++ ". " ++
    "If you want to make it a string you should escape it " ++ escaped ++ "."
  | unresolved source escaped =>
    "Ambiguous attribute value " ++ source ++ ". " ++
    "If you want to make it a string you should escape it " ++ escaped

/-! ## The suggested spellings -/

/-- The source text without any double quote. -/
def unquote (source : List Char) : List Char :=
  source.filter fun c => c != Mark.doubleQuote.char

/-- The source text with a backslash between its first opening quote and the delimiter after it. -/
def escapeQuoted (d : Delimiters) (source : List Char) : List Char :=
  let quote := Mark.doubleQuote.char
  replaceFirst (quote :: d.start.toList) (quote :: Mark.backslash.char :: d.start.toList) source

/-- The text with a double quote at its end. -/
def closeQuote (text : List Char) : List Char :=
  if text.getLast? = some Mark.doubleQuote.char then text else text ++ [Mark.doubleQuote.char]

/-- The source text with its value quoted, and a backslash in front of the value. -/
def escapeValue (source : List Char) : List Char :=
  let quote := Mark.doubleQuote.char
  closeQuote <| match splitAtFirst Mark.equals.char source with
    | none => source
    | some (name, text) =>
      let unopened := if text.head? = some quote then text.drop 1 else text
      name ++ Mark.equals.char :: quote :: Mark.backslash.char :: unopened

/-- The error of a quoted expression. -/
def ofQuoted (d : Delimiters) (source : List Char) : SyntaxError :=
  ambiguousQuoted (String.ofList source) (String.ofList (unquote source))
    (String.ofList (escapeQuoted d source))

/-- The error of a value that is no expression as a whole. -/
def ofUnresolved (source : List Char) : SyntaxError :=
  unresolved (String.ofList source) (String.ofList (escapeValue source))

end SyntaxError

end TemplateAttr
