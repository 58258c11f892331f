/-!
# Mark — the characters that mean something in attribute text
-/

namespace TemplateAttr

/-- The named characters of attribute text. -/
inductive Mark where
  | doubleQuote
  | singleQuote
  | minus
  | slash
  | colon
  | less
  | equals
  | greater
  | backslash
  | openBrace
  | closeBrace
  deriving DecidableEq, Repr

namespace Mark

/-- The character of a mark. -/
def char : Mark → Char
  | doubleQuote => '"'
  | singleQuote => '\''
  | minus => '-'
  | slash => '/'
  | colon => ':'
  | less => '<'
  | equals => '='
  | greater => '>'
  | backslash => '\\'
  | openBrace => '{'
  | closeBrace => '}'

/-- Every mark: quotes, punctuation, then the braces. -/
def all : List Mark :=
  [doubleQuote, singleQuote, minus, slash, colon, less, equals, greater, backslash, openBrace,
    closeBrace]

/-- The marks that attribute syntax claims for itself, so that no delimiter may hold them. -/
def reserved : List Mark := [doubleQuote, singleQuote, equals, less, greater, backslash]

end Mark

end TemplateAttr
