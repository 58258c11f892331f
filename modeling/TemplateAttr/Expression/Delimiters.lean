import TemplateAttr.Mark
import TemplateAttr.Text.Blank

/-!
# Expression/Delimiters — the symbols that enclose an expression

An author may choose the two symbols.  A symbol is **usable** when the tokenizer of a template
leaves it alone: it is not empty, holds no white space and no reserved mark, and begins no character
reference.  The two must differ, or the end of an expression could not be told from its start.
-/

namespace TemplateAttr

/-- **The symbols around an expression**, braces unless configured otherwise. -/
structure Delimiters where
  start : String := String.singleton Mark.openBrace.char
  stop : String := String.singleton Mark.closeBrace.char
  deriving DecidableEq, Repr

/-- **Why a configuration is refused.** -/
inductive ConfigError where
  /-- The markers are not two. -/
  | notAPair
  /-- A symbol is unusable, or both are the same. -/
  | unusable (delimiters : Delimiters)
  /-- The text of the configuration does not spell one, or the delimiters are too long to be made
  patterns of. -/
  | malformed
  deriving DecidableEq, Repr

/-- The wording of a refusal. -/
def ConfigError.message : ConfigError → String
  | notAPair => "Expected 'expression' to be an array, [start, end]."
  | unusable d => "['" ++ d.start ++ "', '" ++ d.stop ++ "'] contains unusable expression symbol."
  | malformed => "Malformed compiler configuration"

/-- Whether a character is a small ASCII letter or the sign that begins a numeric reference. -/
def beginsReferenceName (c : Char) : Bool := c = '#' || c.isLower

/-- Whether a text holds the start of a character reference, such as `&amp;` or `&#123;`. -/
def holdsReference : List Char → Bool
  | [] => false
  | c :: rest => (c = '&' && rest.head?.any beginsReferenceName) || holdsReference rest

/-- Whether a character is one of the reserved marks. -/
def isReserved (c : Char) : Bool := Mark.reserved.any fun m => m.char == c

/-- **Whether a symbol is usable.** -/
def isUsableSymbol (symbol : List Char) : Bool :=
  !symbol.isEmpty && symbol.all (fun c => !isBlank c && !isReserved c) && !holdsReference symbol

namespace Delimiters

/-- **Whether a pair of symbols is usable.** -/
def isUsable (d : Delimiters) : Bool :=
  isUsableSymbol d.start.toList && isUsableSymbol d.stop.toList && d.start != d.stop

/-- Refuses an unusable pair. -/
def validate (d : Delimiters) : Except ConfigError Unit :=
  if d.isUsable then .ok () else .error (.unusable d)

/-- **The delimiters that a list of markers gives**; without a list, the braces. -/
def ofMarkers : Option (List String) → Except ConfigError Delimiters
  | none => .ok {}
  | some [start, stop] => do
    let d : Delimiters := ⟨start, stop⟩
    d.validate
    pure d
  | some _ => .error .notAPair

end Delimiters

end TemplateAttr
