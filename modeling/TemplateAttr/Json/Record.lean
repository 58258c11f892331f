import TemplateAttr.Config
import TemplateAttr.Json.Form
import TemplateAttr.Target.Processed

/-!
# Json/Record — the JSON forms of the data model

A record is an object with its fields in order; a part of a name or a namespace that is not there is
left out, which keeps it apart from an empty one.  A target is an object of a `kind` and, unless it
is reserved, a `name`.  As an array it is the two of them, and there the kind is always a string:
only in an object may it be spelled like a value of an enumeration (`Json.variant?`).
-/

namespace TemplateAttr

open JsonForm

/-- An attribute: the prefix may be missing. -/
instance : JsonForm Attribute where
  toJson a := .object ([member "name" a.name, member "value" a.value, member "raw" a.source] ++
    optionalMember "prefix" a.nsPrefix)
  ofJson? j := do
    match ← j.fields? ["name", "value", "raw", "prefix"] with
    | [name, value, source, nsPrefix] =>
      some ⟨← required? name, ← required? value, ← required? source, ← optional? nsPrefix⟩
    | _ => none

/-- An element: the namespace may be missing, and without attributes there are none. -/
instance : JsonForm Element where
  toJson e := .object (member "tagName" e.tagName :: optionalMember "namespace" e.namespaceUri ++
    [member "attributes" e.attributes])
  ofJson? j := do
    match ← j.fields? ["tagName", "namespace", "attributes"] with
    | [tagName, uri, attributes] =>
      some ⟨← required? tagName, ← optional? uri, ← defaulted? [] attributes⟩
    | _ => none

/-- A plain value: both fields have to be there. -/
instance : JsonForm NormalizedValue where
  toJson n := .object [member "value" n.value, member "escapedExpression" n.escaped]
  ofJson? j := do
    match ← j.fields? ["value", "escapedExpression"] with
    | [value, escaped] => some ⟨← required? value, ← required? escaped⟩
    | _ => none

/-- The name of a kind of value. -/
def ValueKind.name : ValueKind → String
  | literal => "literal"
  | expression => "expression"
  | escapedLiteral => "escapedLiteral"

/-- The kind of value of a name. -/
def ValueKind.ofName? (name : String) : Option ValueKind :=
  if name = "literal" then some literal
  else if name = "expression" then some expression
  else if name = "escapedLiteral" then some escapedLiteral
  else none

/-- A kind of value: its name, which may be spelled as that of a variant. -/
instance : JsonForm ValueKind where
  toJson k := Json.ofText k.name
  ofJson? j := j.variant? >>= ValueKind.ofName?

namespace Target

/-- The target of a kind by its name, and of the field beside it. -/
def ofKind? (kind : String) (name : Option Json) : Option Target :=
  if kind = "domAttribute" then (required? name).map domAttribute
  else if kind = "domProperty" then (required? name).map domProperty
  else if kind = "reserved" then
    match name with
    | none | some .null => some reserved
    | some _ => none
  else none

end Target

/-- A target: an object tagged with its kind, or read from the array of kind and name. -/
instance : JsonForm Target where
  toJson
    | .domAttribute name => .object [member "kind" "domAttribute", member "name" name]
    | .domProperty name => .object [member "kind" "domProperty", member "name" name]
    | .reserved => .object [member "kind" "reserved"]
  ofJson?
    | .array [kind, name] => do Target.ofKind? (← ofJson? kind) (some name)
    | .object members => do
      match ← (Json.object members).fields? ["kind", "name"] with
      | [some kind, name] => Target.ofKind? (← kind.variant?) name
      | _ => none
    | _ => none

/-- A processed attribute: all fields have to be there. -/
instance : JsonForm ProcessedAttribute where
  toJson p := .object [member "name" p.name, member "target" p.target, member "value" p.value,
    member "kind" p.kind]
  ofJson? j := do
    match ← j.fields? ["name", "target", "value", "kind"] with
    | [name, target, value, kind] =>
      some ⟨← required? name, ← required? target, ← required? value, ← required? kind⟩
    | _ => none

/-- Delimiters: both have to be there. -/
instance : JsonForm Delimiters where
  toJson d := .object [member "start" d.start, member "end" d.stop]
  ofJson? j := do
    match ← j.fields? ["start", "end"] with
    | [start, stop] => some ⟨← required? start, ← required? stop⟩
    | _ => none

/-- A configuration: without delimiters it has the braces. -/
instance : JsonForm Config where
  toJson c := .object [member "expression" c.expression]
  ofJson? j := do
    match ← j.fields? ["expression"] with
    | [expression] => some ⟨← defaulted? {} expression⟩
    | _ => none

/-- **The configuration that a JSON text gives**, if its delimiters are usable. -/
def Config.ofText (text : String) : Except ConfigError Config := do
  match (readText? text : Option Config) with
  | none => .error .malformed
  | some c =>
    c.validate
    pure c

end TemplateAttr
