/-!
# Json/Basic — JSON values

A value is kept as far as this library asks for it.  The value of a number is never asked for.  A
string is asked for its text, and has none when its escapes spell a lone surrogate; so a string here
is an optional text.  An object keeps its members in order, repeated names and all: what a
repetition means is for the reader of a record to say.
-/

namespace TemplateAttr

/-- **A JSON value.** -/
inductive Json where
  | null
  | bool (b : Bool)
  /-- A number, whichever it is. -/
  | number
  /-- A string with its text, none if it spells no text. -/
  | string (text : Option String)
  | array (items : List Json)
  | object (members : List (Option String × Json))
  deriving Repr

namespace Json

/-- The string of a text. -/
def ofText (text : String) : Json := string (some text)

/-- A value of an enumeration, by its name: the name itself, or an object with the name as its one
member and null in it. -/
def variant? : Json → Option String
  | string text => text
  | object [(name, null)] => name
  | _ => none

/-- The members of an object if every name spells a text. -/
def namedMembers? (members : List (Option String × Json)) : Option (List (String × Json)) :=
  members.mapM fun (name, value) => name.map (·, value)

/-- Whether none of `names` is given to more than one member. -/
def noneRepeated (names : List String) (members : List (String × Json)) : Bool :=
  names.all fun name => members.countP (fun m => m.1 == name) ≤ 1

/-- **The fields of a record**, in the order of their names.  A record is an object, whose further
members are passed over, or an array of the fields in order, from which the last may be missing. -/
def fields? (names : List String) : Json → Option (List (Option Json))
  | object members => do
    let named ← namedMembers? members
    if noneRepeated names named then some (names.map fun name => named.lookup name) else none
  | array items =>
    if items.length ≤ names.length then
      some (items.map some ++ List.replicate (names.length - items.length) none)
    else none
  | _ => none

end Json

end TemplateAttr
