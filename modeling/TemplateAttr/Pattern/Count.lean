import TemplateAttr.Pattern.Error
import TemplateAttr.Text.Blank

/-!
# Pattern/Count — how often a part is repeated

A count in braces is one number, or two with a comma between, of which the second may be missing.
White space may stand around a number, but not in place of it.
-/

namespace TemplateAttr

namespace Pattern

/-- The largest count that a repetition may have. -/
def maxCount : Nat := 4294967295

/-- **A count being read**: the lower number once a comma has ended it, the number under way, and
whether a blank followed (or, before any digit, preceded) it. -/
structure CountRead where
  least : Option Nat
  number : Option Nat
  blank : Bool

namespace CountRead

/-- **One character of a count**: it goes on, or a closing brace has ended it.  Then it gives how
often a part has to stand, and how often more it may. -/
def step (r : CountRead) (c : Char) :
    Except PatternError (CountRead ⊕ (Nat × Option Nat)) :=
  if c.isDigit then
    let number := r.number.getD 0 * 10 + (c.toNat - '0'.toNat)
    if (r.number.isSome && r.blank) || maxCount < number then .error .badCount
    else .ok (.inl { r with number := some number, blank := false })
  else if isBlank c then .ok (.inl { r with blank := true })
  else match c, r.least, r.number with
    | ',', none, some n => .ok (.inl ⟨some n, none, false⟩)
    | '}', none, some n => .ok (.inr (n, some 0))
    | '}', some n, none => if r.blank then .error .badCount else .ok (.inr (n, none))
    | '}', some n, some m => if n ≤ m then .ok (.inr (n, some (m - n))) else .error .badCount
    | _, _, _ => .error .badCount

end CountRead

end Pattern

end TemplateAttr
