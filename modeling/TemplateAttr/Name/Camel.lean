import TemplateAttr.Name.Boundary
import TemplateAttr.Text.Blank

/-!
# Name/Camel — attribute names in camel case

`camelCase` spells an attribute name the way a property is spelled: words are joined, each but the
first begins with a capital (`stroke-width` becomes `strokeWidth`), and what was a boundary of words
already stays one (`tabIndex`).

The name passes through five stages: blanks are trimmed, boundaries marked by `-`, separators in
front dropped, the whole lowered, and then the words joined and letters after digits raised.
-/

namespace TemplateAttr

/-- The characters that separate the words of a name. -/
def isSeparator (c : Char) : Bool := c = '_' || c = '.' || c = '-' || c = ' '

/-- What is left of a run of separators (last first) before a character that begins no word: up to
its last underscore that is not its first character, the run shrinks to that underscore; without
one it stays as it is. -/
def settleRun (run : List Char) : List Char :=
  match run.dropWhile (· != '_') with
  | '_' :: _ :: _ => '_' :: (run.takeWhile (· != '_')).reverse
  | _ => run.reverse

/-- **Words joined**: a run of separators is dropped before an ASCII letter or digit, which is
raised, and at the end.  `run` is the run read so far, last first. -/
def joinWords (run : List Char) : List Char → List Char
  | [] => []
  | c :: rest =>
    if isSeparator c then joinWords (c :: run) rest
    else if run.isEmpty then c :: joinWords [] rest
    else if c.isAlphanum then c.toUpper :: joinWords [] rest
    else settleRun run ++ c :: joinWords [] rest

/-- Every ASCII letter right after an ASCII digit raised. -/
def raiseAfterDigits (afterDigit : Bool) : List Char → List Char
  | [] => []
  | c :: rest => (if afterDigit then c.toUpper else c) :: raiseAfterDigits c.isDigit rest

/-- The name with its boundaries marked, if it has any capital to mark. -/
def markedName (text : List Char) : List Char :=
  if lowerText text = text then text else markBoundaries text

/-- Camel case of a name that holds no blank at its ends and has two characters or more. -/
def camelWords (text : List Char) : List Char :=
  raiseAfterDigits false (joinWords [] (lowerText ((markedName text).dropWhile isSeparator)))

/-- Camel case on the characters of a name; a single character is only lowered. -/
def camelChars (name : List Char) : List Char :=
  match trimBlanks name with
  | [] => []
  | [c] => lowerChar c
  | text => camelWords text

/-- **A name in camel case.** -/
def camelCase (name : String) : String := String.ofList (camelChars name.toList)

end TemplateAttr
