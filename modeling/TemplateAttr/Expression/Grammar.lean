import TemplateAttr.Expression.Delimiters
import TemplateAttr.Pattern.Quote
import TemplateAttr.Pattern.Reader
import TemplateAttr.Pattern.Search

/-!
# Expression/Grammar — telling expressions by their delimiters

Usable delimiters are compiled to two patterns: a value is a **full** expression when it is one
expression and nothing else, and a **potential** one when an expression opens at its first or second
character and is closed somewhere.  Neither runs over a line terminator.
-/

namespace TemplateAttr

/-- The characters that end a line, and so cannot stand in an expression. -/
def lineTerminators : List Char := ['\n', '\r', '\u2028', '\u2029']

namespace Delimiters

/-- The pattern text for any character within a line. -/
def inLineNotation : List Char := "[^\\n\\r\\x{2028}\\x{2029}]".toList

/-- **The pattern text of full expressions**: the delimiters, and one character or more between. -/
def fullNotation (d : Delimiters) : List Char :=
  '^' :: Pattern.quoteChars d.start.toList ++ inLineNotation ++ '+' ::
    Pattern.quoteChars d.stop.toList ++ ['$']

/-- **The pattern text of potential expressions**: at most one character in front, any after. -/
def potentialNotation (d : Delimiters) : List Char :=
  '^' :: inLineNotation ++ '?' :: Pattern.quoteChars d.start.toList ++ inLineNotation ++ '+' ::
    Pattern.quoteChars d.stop.toList ++ inLineNotation ++ ['*', '$']

end Delimiters

/-- **A grammar of expressions**: usable delimiters with the patterns that their notations spell. -/
structure Grammar where
  delimiters : Delimiters
  full : Pattern
  potential : Pattern
  usable : delimiters.isUsable = true
  full_read : Pattern.readChars delimiters.fullNotation = .ok full
  potential_read : Pattern.readChars delimiters.potentialNotation = .ok potential

namespace Grammar

/-- **The grammar of given delimiters**, if they are usable and their patterns can be compiled
within the limit. -/
def ofDelimiters (d : Delimiters) (limit : Option Nat := some Pattern.sizeLimit) :
    Except ConfigError Grammar :=
  if usable : d.isUsable = true then
    match full_compiled : Pattern.compileChars limit d.fullNotation,
        potential_compiled : Pattern.compileChars limit d.potentialNotation with
    | .ok full, .ok potential =>
      .ok ⟨d, full, potential, usable, (Pattern.compileChars_eq_ok_iff.1 full_compiled).1,
        (Pattern.compileChars_eq_ok_iff.1 potential_compiled).1⟩
    | _, _ => .error .malformed
  else .error (.unusable d)

/-- The set of the characters within a line, as its notation spells it. -/
def inLine : CharSet :=
  .compl (lineTerminators.foldl (fun s c => .union s (.single c)) .none)

/-- **The grammar of braces.** -/
def braces : Grammar where
  delimiters := {}
  full := .sequence [.textStart, .chars (.single '{'), .repeated (.chars inLine) 1 none,
    .chars (.single '}'), .textEnd]
  potential := .sequence [.textStart, .repeated (.chars inLine) 0 (some 1), .chars (.single '{'),
    .repeated (.chars inLine) 1 none, .chars (.single '}'), .repeated (.chars inLine) 0 none,
    .textEnd]
  usable := by decide
  full_read := by rfl
  potential_read := by rfl

/-- Whether a value, by its characters, is one expression and nothing else. -/
def isFullChars (g : Grammar) (value : List Char) : Bool := g.full.matchesChars value

/-- Whether a value, by its characters, opens an expression and closes it. -/
def isPotentialChars (g : Grammar) (value : List Char) : Bool := g.potential.matchesChars value

/-- **Whether a value is one expression and nothing else.** -/
def isFull (g : Grammar) (value : String) : Bool := g.isFullChars value.toList

/-- **Whether a value opens an expression, after at most one character, and closes it.** -/
def isPotential (g : Grammar) (value : String) : Bool := g.isPotentialChars value.toList

end Grammar

end TemplateAttr
