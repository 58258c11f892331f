/-!
# Pattern/Error — why a pattern text is refused
-/

namespace TemplateAttr

/-- **What is wrong with the text of a pattern.** -/
inductive PatternError where
  /-- A `(` without its `)`. -/
  | unclosedGroup
  /-- A `)` without its `(`. -/
  | unopenedGroup
  /-- A group that begins `(?` with anything but flags or a name: a look-around, for one. -/
  | unknownGroup
  /-- A name of a group that is empty, is not closed, is taken, or holds a character of no name. -/
  | badGroupName
  /-- A `[` without its `]`. -/
  | unclosedClass
  /-- A range of characters that runs backwards, or an end of which is no character. -/
  | badRange
  /-- A repetition with nothing before it. -/
  | nothingToRepeat
  /-- A count in braces that is not closed, not a number, too large, or runs backwards. -/
  | badCount
  /-- A backslash before a letter or digit that names no class and no character. -/
  | unknownEscape
  /-- An escape that the text ends in. -/
  | unfinishedEscape
  /-- A code point without digits, with other characters among them, or of no character. -/
  | badCodePoint
  /-- Constructs nested too deep. -/
  | tooDeep
  /-- A pattern beyond the limit on its size. -/
  | tooLarge
  deriving Repr, DecidableEq

end TemplateAttr
