/-!
# Text/CodeRange — sets of characters given by their code points

A property of characters is a table of code points.  Two shapes suffice: plain **ranges**
(`first … last`), and **progressions** (`first, first + stride, …, last`) for the alphabets that
alternate capital and small letters.
-/

namespace TemplateAttr

/-- Whether `c` lies in one of the inclusive ranges `(first, last)`. -/
def inCodeRanges (ranges : List (Nat × Nat)) (c : Char) : Bool :=
  ranges.any fun (first, last) => first ≤ c.toNat && c.toNat ≤ last

/-- **A progression of code points**: `first`, `first + stride`, and so on up to `last`. -/
structure CodeProgression where
  first : Nat
  last : Nat
  stride : Nat

namespace CodeProgression

/-- Whether the code point `n` is a term of the progression. -/
def contains (p : CodeProgression) (n : Nat) : Bool :=
  p.first ≤ n && n ≤ p.last && (n - p.first) % p.stride == 0

/-- The terms of the progression. -/
def toList (p : CodeProgression) : List Nat :=
  (List.range ((p.last - p.first) / p.stride + 1)).map fun k => p.first + k * p.stride

end CodeProgression

/-! ## Ranges in order -/

/-- The largest code point. -/
def lastCodePoint : Nat := 0x10FFFF

/-- The same code points in ranges that stand in order and do not touch. -/
def joinRanges (ranges : List (Nat × Nat)) : List (Nat × Nat) :=
  let step : List (Nat × Nat) → Nat × Nat → List (Nat × Nat)
    | (first, last) :: rest, r =>
      if r.1 ≤ last + 1 then (first, max last r.2) :: rest else r :: (first, last) :: rest
    | [], r => [r]
  ((ranges.mergeSort fun r s => r.1 ≤ s.1).foldl step []).reverse

/-- The code points from `next` on that are in none of the ranges, which stand in order. -/
def gapsFrom (next : Nat) : List (Nat × Nat) → List (Nat × Nat)
  | [] => if next ≤ lastCodePoint then [(next, lastCodePoint)] else []
  | (first, last) :: rest =>
    (if next < first then [(next, first - 1)] else []) ++ gapsFrom (last + 1) rest

end TemplateAttr
