import TemplateAttr.Json.Basic
import TemplateAttr.Json.Text

/-!
# Json/Token — the tokens of JSON text

`tokens?` is a machine that takes the text one character at a time.  A string, a word or a number
under way is its mode; a word or a number ends where a character does not continue it.
-/

namespace TemplateAttr

/-- **A token of JSON text.** -/
inductive JsonToken where
  | openArray
  | closeArray
  | openObject
  | closeObject
  | comma
  | colon
  | null
  | bool (b : Bool)
  | number
  | string (text : Option String)
  deriving DecidableEq, Repr

namespace JsonToken

/-- How a token is written. -/
def spell : JsonToken → List Char
  | openArray => ['[']
  | closeArray => [']']
  | openObject => ['{']
  | closeObject => ['}']
  | comma => [',']
  | colon => [':']
  | null => ['n', 'u', 'l', 'l']
  | bool true => ['t', 'r', 'u', 'e']
  | bool false => ['f', 'a', 'l', 's', 'e']
  | number => ['0']
  | string none => JsonText.loneHalf
  | string (some text) => JsonText.quote text.toList

/-- The token of a mark that stands for itself. -/
def ofMark? : Char → Option JsonToken
  | '[' => some openArray
  | ']' => some closeArray
  | '{' => some openObject
  | '}' => some closeObject
  | ',' => some comma
  | ':' => some colon
  | _ => none

/-- The token of a word. -/
def ofWord? (letters : List Char) : Option JsonToken :=
  if letters = ['n', 'u', 'l', 'l'] then some null
  else if letters = ['t', 'r', 'u', 'e'] then some (bool true)
  else if letters = ['f', 'a', 'l', 's', 'e'] then some (bool false)
  else none

end JsonToken

/-! ## Numbers -/

/-- How far a number has been read. -/
inductive NumberStage where
  | minus
  | zero
  | digits
  | point
  | fraction
  | exponent
  | exponentSign
  | exponentDigits
  deriving DecidableEq, Repr

namespace NumberStage

/-- The stage at the first character of a number. -/
def start? (c : Char) : Option NumberStage :=
  if c = '-' then some minus else if c = '0' then some zero
  else if c.isDigit then some digits else none

/-- The stage after one more character, if that continues the number.  No digit follows a zero in
front. -/
def next? (stage : NumberStage) (c : Char) : Option NumberStage :=
  match stage with
  | minus => if c = '0' then some zero else if c.isDigit then some digits else none
  | zero => if c = '.' then some point else if c = 'e' || c = 'E' then some exponent else none
  | digits =>
    if c.isDigit then some digits else if c = '.' then some point
    else if c = 'e' || c = 'E' then some exponent else none
  | point => if c.isDigit then some fraction else none
  | fraction =>
    if c.isDigit then some fraction else if c = 'e' || c = 'E' then some exponent else none
  | exponent =>
    if c.isDigit then some exponentDigits
    else if c = '+' || c = '-' then some exponentSign else none
  | exponentSign => if c.isDigit then some exponentDigits else none
  | exponentDigits => if c.isDigit then some exponentDigits else none

/-- Whether a number may end here. -/
def isComplete : NumberStage → Bool
  | zero | digits | fraction | exponentDigits => true
  | minus | point | exponent | exponentSign => false

end NumberStage

/-! ## The machine -/

/-- What is under way between two characters. -/
inductive LexMode where
  /-- Nothing. -/
  | ready
  /-- A word, its letters last first. -/
  | word (letters : List Char)
  /-- A number. -/
  | number (stage : NumberStage)
  /-- A string, its code units last first. -/
  | text (units : List Nat)
  /-- An escape in a string. -/
  | escape (units : List Nat)
  /-- The digits of an escape in a string: how many are still to come, and their value so far. -/
  | hex (units : List Nat) (missing value : Nat)

/-- **The state of the machine**: the tokens so far, last first, and the mode. -/
structure LexState where
  tokens : List JsonToken
  mode : LexMode

namespace LexState

/-- The state before the first character. -/
def start : LexState := ⟨[], .ready⟩

/-- One more token. -/
def push (s : LexState) (t : JsonToken) : LexState := ⟨t :: s.tokens, .ready⟩

/-- A word or a number under way ended. -/
def settle (s : LexState) : Option LexState :=
  match s.mode with
  | .word letters => (JsonToken.ofWord? letters.reverse).map s.push
  | .number stage => if stage.isComplete then some (s.push .number) else none
  | _ => some s

/-- Whether a character may stand between tokens. -/
def isSpace (c : Char) : Bool := c = ' ' || c = '\t' || c = '\n' || c = '\r'

/-- A character where a token may begin. -/
def begin (s : LexState) (c : Char) : Option LexState :=
  if isSpace c then some s
  else if c = '"' then some { s with mode := .text [] }
  else if c.isLower then some { s with mode := .word [c] }
  else match JsonToken.ofMark? c with
    | some t => some (s.push t)
    | none => (NumberStage.start? c).map fun stage => { s with mode := .number stage }

/-- A character inside a string: its end, an escape, or any character but a control. -/
def inText (s : LexState) (units : List Nat) (c : Char) : Option LexState :=
  if c = '"' then
    some (s.push (.string ((JsonText.decodeUnits units.reverse).map String.ofList)))
  else if c = '\\' then some { s with mode := .escape units }
  else if c.toNat < 0x20 then none
  else some { s with mode := .text (c.toNat :: units) }

/-- **One character of JSON text.** -/
def step (s : LexState) (c : Char) : Option LexState :=
  match s.mode with
  | .ready => s.begin c
  | .word letters =>
    if c.isLower then some { s with mode := .word (c :: letters) } else do (← s.settle).begin c
  | .number stage =>
    match stage.next? c with
    | some stage => some { s with mode := .number stage }
    | none => do (← s.settle).begin c
  | .text units => s.inText units c
  | .escape units =>
    if c = 'u' then some { s with mode := .hex units 4 0 }
    else (JsonText.shortEscape? c).map fun d => { s with mode := .text (d.toNat :: units) }
  | .hex units missing value => do
    let value := value * 16 + (← hexValue? c)
    if missing ≤ 1 then some { s with mode := .text (value :: units) }
    else some { s with mode := .hex units (missing - 1) value }

/-- The tokens, at the end of the text. -/
def finish (s : LexState) : Option (List JsonToken) := do
  let s ← s.settle
  match s.mode with
  | .ready => some s.tokens.reverse
  | _ => none

end LexState

/-- **The tokens of a text**, if it is made of tokens. -/
def JsonToken.ofChars? (text : List Char) : Option (List JsonToken) := do
  (← text.foldlM LexState.step LexState.start).finish

end TemplateAttr
