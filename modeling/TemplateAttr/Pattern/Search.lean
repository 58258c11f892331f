import TemplateAttr.Pattern.Basic

/-!
# Pattern/Search — deciding whether a text matches

The search carries *all* positions at once: `ends` sends the positions where a pattern may begin to
those where it may end, so no choice is ever taken back.  Repetition is a closure: rounds add the
positions not met before, and stop when a round adds none.
-/

namespace TemplateAttr

namespace Pattern

/-- The positions of two lists, those of both once. -/
def mergePositions (starts others : List Nat) : List Nat :=
  starts ++ others.filter fun j => !starts.contains j

/-- The positions after `n` rounds. -/
def rounds (round : List Nat → List Nat) : Nat → List Nat → List Nat
  | 0, starts => starts
  | n + 1, starts => if starts.isEmpty then [] else rounds round n (round starts)

/-- **The positions met in at most `n` rounds**: `met` has been met, its part `fresh` last. -/
def closure (round : List Nat → List Nat) : Nat → List Nat → List Nat → List Nat
  | 0, met, _ => met
  | n + 1, met, fresh =>
    let next := (round fresh).filter fun j => !met.contains j
    if next.isEmpty then met else closure round n (next ++ met) next

/-- **Where a pattern may end** that begins at one of `starts`.  A repetition without a limit meets
every position in as many rounds as the text has positions. -/
def ends (text : Array Char) : Pattern → List Nat → List Nat
  | empty, starts => starts
  | chars s, starts =>
    starts.filterMap fun i => if (text[i]?).any s.mem then some (i + 1) else none
  | textStart, starts => starts.filter (· == 0)
  | textEnd, starts => starts.filter (· == text.size)
  | seq p q, starts => ends text q (ends text p starts)
  | alt p q, starts => mergePositions (ends text p starts) (ends text q starts)
  | repeated p least more, starts =>
    let first := rounds (ends text p) least starts
    closure (ends text p) (more.getD (text.size + 1)) first first
  | group p, starts => ends text p starts

/-- Whether the characters of a text match a pattern. -/
def matchesChars (p : Pattern) (text : List Char) : Bool :=
  !(p.ends text.toArray (List.range (text.length + 1))).isEmpty

/-- **Whether a text matches a pattern.** -/
def isMatch (p : Pattern) (text : String) : Bool := p.matchesChars text.toList

end Pattern

end TemplateAttr
