import TemplateAttr.Pattern.CharSet

/-!
# Pattern/Ranges — the code points of a character set

A character set written out as ranges of code points, in order.
-/

namespace TemplateAttr

namespace CharSet

/-- **The code points of a set**, in ranges that stand in order and do not touch. -/
def ranges : CharSet → List (Nat × Nat)
  | none => []
  | single c => [(c.toNat, c.toNat)]
  | range first last => if first ≤ last then [(first.toNat, last.toNat)] else []
  | word => wordRanges
  | digit => digitRanges
  | blank => blankRanges
  | union s t => joinRanges (s.ranges ++ t.ranges)
  | compl s => gapsFrom 0 s.ranges
  | caseless (single c) => joinRanges ((caseVariants c).map fun d => (d.toNat, d.toNat))
  | caseless s =>
    let variants := caseLetters.filter (caseless s).mem
    joinRanges (s.ranges ++ variants.map fun c => (c.toNat, c.toNat))

end CharSet

end TemplateAttr
