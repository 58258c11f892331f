import TemplateAttr.Json.Token

/-!
# Json/Reader — JSON values from text, and back

A value is written as its tokens, without any blank.  It is read by a machine with a stack: an array
or object under way is a **frame**, so that no nesting is too deep.
-/

namespace TemplateAttr

namespace Json

/-! ## Writing -/

mutual

/-- **The tokens of a value.** -/
def tokens : Json → List JsonToken
  | null => [.null]
  | bool b => [.bool b]
  | number => [.number]
  | string text => [.string text]
  | array items => .openArray :: itemTokens items ++ [.closeArray]
  | object members => .openObject :: memberTokens members ++ [.closeObject]

/-- The tokens of the items of an array. -/
def itemTokens : List Json → List JsonToken
  | [] => []
  | item :: rest => item.tokens ++ restTokens rest

/-- The tokens of further items, each behind a comma. -/
def restTokens : List Json → List JsonToken
  | [] => []
  | item :: rest => .comma :: item.tokens ++ restTokens rest

/-- The tokens of the members of an object. -/
def memberTokens : List (Option String × Json) → List JsonToken
  | [] => []
  | (name, value) :: rest => .string name :: .colon :: value.tokens ++ restMemberTokens rest

/-- The tokens of further members, each behind a comma. -/
def restMemberTokens : List (Option String × Json) → List JsonToken
  | [] => []
  | (name, value) :: rest =>
    .comma :: .string name :: .colon :: value.tokens ++ restMemberTokens rest

end

/-- The characters of a value. -/
def writeChars (j : Json) : List Char := j.tokens.flatMap JsonToken.spell

/-- **The text of a value.** -/
def write (j : Json) : String := String.ofList j.writeChars

/-! ## Reading -/

/-- An array or object under way, its parts last first. -/
inductive Frame where
  | array (items : List Json)
  /-- An object between members. -/
  | object (members : List (Option String × Json))
  /-- An object at a member whose value is still to come. -/
  | member (members : List (Option String × Json)) (name : Option String)

/-- What may come next. -/
inductive Expect where
  | value
  /-- A value, or the end of an array that has none. -/
  | firstItem
  | name
  /-- A name, or the end of an object that has none. -/
  | firstName
  | colon
  /-- A comma, or the end of the innermost frame. -/
  | more
  /-- Nothing: the value is complete. -/
  | done (j : Json)

/-- **The state of the machine**: the frames, innermost first, and what may come. -/
structure ReadState where
  frames : List Frame
  expect : Expect

namespace ReadState

/-- The state before the first token. -/
def start : ReadState := ⟨[], .value⟩

/-- A complete value put in its place. -/
def put (frames : List Frame) (j : Json) : Option ReadState :=
  match frames with
  | [] => some ⟨[], .done j⟩
  | .array items :: rest => some ⟨.array (j :: items) :: rest, .more⟩
  | .member members name :: rest => some ⟨.object ((name, j) :: members) :: rest, .more⟩
  | .object _ :: _ => none

/-- A token where a value begins. -/
def beginValue (frames : List Frame) : JsonToken → Option ReadState
  | .null => put frames .null
  | .bool b => put frames (.bool b)
  | .number => put frames .number
  | .string text => put frames (.string text)
  | .openArray => some ⟨.array [] :: frames, .firstItem⟩
  | .openObject => some ⟨.object [] :: frames, .firstName⟩
  | _ => none

/-- A token where the name of a member begins. -/
def beginMember : List Frame → JsonToken → Option ReadState
  | .object members :: rest, .string name => some ⟨.member members name :: rest, .colon⟩
  | _, _ => none

/-- The end of the innermost frame. -/
def close : List Frame → JsonToken → Option ReadState
  | .array items :: rest, .closeArray => put rest (.array items.reverse)
  | .object members :: rest, .closeObject => put rest (.object members.reverse)
  | _, _ => none

/-- A comma: the innermost frame goes on. -/
def goOn : List Frame → Option ReadState
  | .array items :: rest => some ⟨.array items :: rest, .value⟩
  | .object members :: rest => some ⟨.object members :: rest, .name⟩
  | _ => none

/-- **One token of a value.** -/
def step (s : ReadState) (t : JsonToken) : Option ReadState :=
  match s.expect with
  | .value => beginValue s.frames t
  | .firstItem => if t = .closeArray then close s.frames t else beginValue s.frames t
  | .name => beginMember s.frames t
  | .firstName => if t = .closeObject then close s.frames t else beginMember s.frames t
  | .colon => if t = .colon then some { s with expect := .value } else none
  | .more => if t = .comma then goOn s.frames else close s.frames t
  | .done _ => none

/-- The value, at the end of its tokens. -/
def finish (s : ReadState) : Option Json :=
  match s.expect with
  | .done j => some j
  | _ => none

end ReadState

/-- The value that tokens spell. -/
def ofTokens? (ts : List JsonToken) : Option Json := do
  (← ts.foldlM ReadState.step ReadState.start).finish

/-- The value that characters spell. -/
def readChars? (text : List Char) : Option Json := JsonToken.ofChars? text >>= ofTokens?

/-- **The value that a text spells.** -/
def read? (text : String) : Option Json := readChars? text.toList

end Json

end TemplateAttr
