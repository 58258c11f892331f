import TemplateAttr.Text.Lowercase
import TemplateAttr.Text.Uppercase

/-!
# Name/Boundary — where a mixed-case name starts a new word

A name such as `tabIndex` or `XMLHttp` marks its words by capitals alone.  Before the name is
lowered, `markBoundaries` writes a `-` at every boundary: between a small letter and a capital
(`tab-Index`), and before the last of several capitals that a small letter follows (`XML-Http`).

The scan keeps two stacks around a cursor, and remembers the case of the last two characters it
passed.  A boundary of the second kind lies *behind* the cursor; there the cursor stays, and the
character under it is visited a second time.
-/

namespace TemplateAttr

/-- Whether a character is no small letter: upper-casing leaves it as it is. -/
def isCapital (c : Char) : Bool := !changesWhenUppercased c

/-- Whether a character is no capital: lowering leaves it as it is.  A character without case is
both this and `isCapital`. -/
def isSmall (c : Char) : Bool := lowerChar c == [c]

/-- **A scan under way**: what lies behind the cursor (last first), what lies ahead, and the case of
the characters last passed. -/
structure BoundaryScan where
  behind : List Char
  ahead : List Char
  lastSmall : Bool
  lastCapital : Bool
  lastTwoCapital : Bool

namespace BoundaryScan

/-- The scan that has passed nothing yet. -/
def start (text : List Char) : BoundaryScan := ⟨[], text, false, false, false⟩

/-- The text as far as it is marked. -/
def text (s : BoundaryScan) : List Char := s.behind.reverse ++ s.ahead

/-- A `-` before the character passed last. -/
def insertBehind : List Char → List Char
  | [] => ['-']
  | p :: rest => p :: '-' :: rest

/-- **One step of the scan**, at the character under the cursor. -/
def step (s : BoundaryScan) : BoundaryScan :=
  match s.ahead with
  | [] => s
  | c :: rest =>
    if s.lastSmall && c.isAlpha && isCapital c then
      { behind := c :: '-' :: s.behind, ahead := rest
        lastSmall := false, lastCapital := true, lastTwoCapital := s.lastCapital }
    else if s.lastCapital && s.lastTwoCapital && c.isAlpha && isSmall c then
      { behind := insertBehind s.behind, ahead := c :: rest
        lastSmall := true, lastCapital := false, lastTwoCapital := s.lastCapital }
    else
      { behind := c :: s.behind, ahead := rest
        lastSmall := isSmall c && !isCapital c
        lastCapital := isCapital c && !isSmall c
        lastTwoCapital := s.lastCapital }

/-- The scan after a number of steps. -/
def run : Nat → BoundaryScan → BoundaryScan
  | 0, s => s
  | n + 1, s => run n s.step

end BoundaryScan

/-- **The name with a `-` at every boundary.**  Each character is visited at most twice, so twice
its length in steps reaches the end. -/
def markBoundaries (text : List Char) : List Char :=
  ((BoundaryScan.start text).run (2 * text.length)).text

end TemplateAttr
