import TemplateAttr.Pattern.CharSet

/-!
# Pattern/Basic — patterns, and the stretches of a text they span

A pattern is read as a relation on the positions of a text: `p.Spans text i j` says that `p` covers
the stretch from `i` to `j`.  A text matches when some stretch of it is covered (`Pattern.Matches`);
the anchors `textStart` and `textEnd` cover the empty stretch at the two ends.
-/

namespace TemplateAttr

/-- **A pattern.** -/
inductive Pattern where
  /-- The empty stretch. -/
  | empty
  /-- One character of a set. -/
  | chars (s : CharSet)
  /-- The start of the text. -/
  | textStart
  /-- The end of the text. -/
  | textEnd
  /-- One pattern, then another. -/
  | seq (p q : Pattern)
  /-- One pattern or another. -/
  | alt (p q : Pattern)
  /-- A pattern over and over: `least` times, and then as many `more` times at most, or any number
  of times if that is not given. -/
  | repeated (p : Pattern) (least : Nat) (more : Option Nat)
  /-- A numbered group: it covers what the pattern in it does, and the stretch is kept. -/
  | group (p : Pattern)
  deriving Repr

namespace Pattern

/-- Patterns one after another. -/
def sequence : List Pattern → Pattern
  | [] => empty
  | p :: rest => seq p (sequence rest)

/-- A pattern or any of further ones. -/
def choice (p : Pattern) : List Pattern → Pattern
  | [] => p
  | q :: rest => alt p (choice q rest)

/-- The choice among patterns, at least one of them. -/
def choices : List Pattern → Pattern
  | [] => empty
  | p :: rest => choice p rest

/-- Whether a pattern covers no characters, whatever the text. -/
def isAnchorOnly : Pattern → Bool
  | empty | textStart | textEnd => true
  | chars _ => false
  | seq p q | alt p q => p.isAnchorOnly && q.isAnchorOnly
  | repeated p _ _ | group p => p.isAnchorOnly

/-- **A pattern over and over.**  Where no character is covered, any number of times is as good as
once, and none at all as good as the empty stretch. -/
def iterate (p : Pattern) (least : Nat) (more : Option Nat) : Pattern :=
  if p.isAnchorOnly then if least = 0 then empty else p else repeated p least more

/-- `n` steps of a relation, one after another. -/
def Steps (r : Nat → Nat → Prop) : Nat → Nat → Nat → Prop
  | 0, i, j => i = j
  | n + 1, i, j => ∃ k, r i k ∧ Steps r n k j

/-- **The meaning of a pattern**: the stretch of the text from `i` to `j` is one it covers. -/
def Spans (text : List Char) : Pattern → Nat → Nat → Prop
  | empty, i, j => i = j
  | chars s, i, j => j = i + 1 ∧ ∃ c, text[i]? = some c ∧ s.mem c = true
  | textStart, i, j => i = j ∧ i = 0
  | textEnd, i, j => i = j ∧ i = text.length
  | seq p q, i, j => ∃ k, Spans text p i k ∧ Spans text q k j
  | alt p q, i, j => Spans text p i j ∨ Spans text q i j
  | repeated p least more, i, j =>
    ∃ n, (∀ m, more = some m → n ≤ m) ∧ Steps (Spans text p) (least + n) i j
  | group p, i, j => Spans text p i j

/-- **A text matches a pattern** when the pattern covers some stretch of it. -/
def Matches (p : Pattern) (text : List Char) : Prop :=
  ∃ i j, i ≤ text.length ∧ p.Spans text i j

end Pattern

end TemplateAttr
