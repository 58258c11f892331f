import TemplateAttr.Json.Reader

/-!
# Json/Form — types with a JSON form

A type has a JSON form when its values can be turned into JSON and back.  Lists, texts and truth
values do; a record puts the forms of its fields together.
-/

namespace TemplateAttr

/-- **A type with a JSON form.** -/
class JsonForm (α : Type) where
  /-- The value as JSON. -/
  toJson : α → Json
  /-- The value that a JSON value is the form of. -/
  ofJson? : Json → Option α

namespace JsonForm

/-- **The JSON text of a value.** -/
def writeText {α : Type} [JsonForm α] (a : α) : String := (toJson a).write

/-- **The value that a JSON text is the form of.** -/
def readText? {α : Type} [JsonForm α] (text : String) : Option α := Json.read? text >>= ofJson?

/-- A text is a JSON string. -/
instance : JsonForm String where
  toJson := Json.ofText
  ofJson?
    | .string text => text
    | _ => none

/-- A truth value is its JSON constant. -/
instance : JsonForm Bool where
  toJson := Json.bool
  ofJson?
    | .bool b => some b
    | _ => none

/-- A list is the array of the forms of its items. -/
instance {α : Type} [JsonForm α] : JsonForm (List α) where
  toJson l := .array (l.map toJson)
  ofJson?
    | .array items => items.mapM ofJson?
    | _ => none

/-! ## Fields -/

/-- A field that has to be there. -/
def required? {α : Type} [JsonForm α] (field : Option Json) : Option α := field >>= ofJson?

/-- A field that may be missing or null. -/
def optional? {α : Type} [JsonForm α] : Option Json → Option (Option α)
  | none | some .null => some none
  | some j => (ofJson? j).map some

/-- A field that may be missing, but not null. -/
def defaulted? {α : Type} [JsonForm α] (a : α) : Option Json → Option α
  | none => some a
  | some j => ofJson? j

/-- A member of an object. -/
def member {α : Type} [JsonForm α] (name : String) (a : α) : Option String × Json :=
  (some name, toJson a)

/-- A member that is left out if there is nothing to write. -/
def optionalMember {α : Type} [JsonForm α] (name : String) : Option α → List (Option String × Json)
  | none => []
  | some a => [member name a]

end JsonForm

end TemplateAttr
