import TemplateAttr.Json.Record
import TemplateAttr.Schema.Html

/-!
# Compiler — the attribute stage behind one configuration

A compiler holds the grammar of its configuration.  Elements and attributes come to it as JSON text,
its answers go back as JSON text (`Compiler.reply`), and the schema is that of HTML.
-/

namespace TemplateAttr

/-- **Why a compiler refuses a call**: an argument of it is invalid. -/
inductive CompilerError where
  /-- The configuration is refused. -/
  | config (e : ConfigError)
  /-- The text of an element does not spell one. -/
  | badElement
  /-- The text of an attribute does not spell one. -/
  | badAttribute
  /-- A value may mean two things. -/
  | badValue (e : SyntaxError)
  deriving DecidableEq, Repr

/-- The wording of a refusal. -/
def CompilerError.message : CompilerError → String
  | config e => e.message
  | badElement => "Invalid element"
  | badAttribute => "Invalid attribute"
  | badValue e => e.message

/-- **The attribute stage**, with the grammar of its configuration. -/
structure Compiler where
  grammar : Grammar

namespace Compiler

/-- **The compiler of a configuration text**; without one, of the default configuration. -/
def ofConfig (text : Option String) : Except CompilerError Compiler := do
  let c ← match text with
    | none => pure {}
    | some text => (Config.ofText text).mapError .config
  let g ← (Grammar.ofDelimiters c.expression).mapError .config
  pure ⟨g⟩

/-- The element that a text spells. -/
def readElement (text : String) : Except CompilerError Element :=
  match (JsonForm.readText? text : Option Element) with
  | none => .error .badElement
  | some e => .ok e

/-- The attribute that a text spells. -/
def readAttribute (text : String) : Except CompilerError Attribute :=
  match (JsonForm.readText? text : Option Attribute) with
  | none => .error .badAttribute
  | some a => .ok a

/-- **The plain form of an attribute's value.** -/
def normalizeValue (c : Compiler) (text : String) : Except CompilerError NormalizedValue := do
  let a ← readAttribute text
  (a.normalize c.grammar a.source).mapError .badValue

/-- Whether an attribute of an element is set as one. -/
def isAttribute (_ : Compiler) (element name : String) : Except CompilerError Bool := do
  pure (Schema.html.isAttribute (← readElement element) name)

/-- Whether an attribute is valid on a tag. -/
def isValid (_ : Compiler) (tagName name : String) : Bool := Schema.html.isValid tagName name

/-- The property of an attribute of an element. -/
def propertyName (_ : Compiler) (element name : String) : Except CompilerError String := do
  pure (Schema.html.propertyName (← readElement element) name)

/-- Where an attribute of an element ends up. -/
def target (_ : Compiler) (element name : String) : Except CompilerError Target := do
  pure (Schema.html.target (← readElement element) name)

/-- **The attributes of an element processed**, in source order. -/
def process (c : Compiler) (element : String) :
    Except CompilerError (List ProcessedAttribute) := do
  let e ← readElement element
  (Schema.html.process c.grammar e).mapError .badValue

/-- **An answer as it goes back to the caller**, the value as JSON text. -/
def reply {α : Type} [JsonForm α] (answer : Except CompilerError α) : Except CompilerError String :=
  answer.map JsonForm.writeText

end Compiler

end TemplateAttr
