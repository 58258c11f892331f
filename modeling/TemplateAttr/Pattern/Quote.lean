/-!
# Pattern/Quote — a text as the pattern that stands for it

A character with a meaning of its own in patterns is written behind a backslash; all else stands
for itself.
-/

namespace TemplateAttr

namespace Pattern

/-- The characters that are written behind a backslash. -/
def quotedMarks : List Char :=
  ['.', '*', '+', '?', '^', '=', '!', ':', '$', '{', '}', '(', ')', '|', '[', ']', '/', '\\', '-']

/-- How a character is written in a pattern that stands for it. -/
def quoteChar (c : Char) : List Char := if quotedMarks.contains c then ['\\', c] else [c]

/-- How a text is written in a pattern that stands for it, on characters. -/
def quoteChars (text : List Char) : List Char := text.flatMap quoteChar

/-- **The pattern text that stands for a text.** -/
def quote (text : String) : String := String.ofList (quoteChars text.toList)

end Pattern

end TemplateAttr
