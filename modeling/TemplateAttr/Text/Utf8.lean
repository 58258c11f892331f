/-!
# Text/Utf8 — the bytes of ranges of characters

In UTF-8 a character is a leading byte and up to three continuation bytes, each of which carries six
binary digits.  The code points of a range thus fall into a few **byte runs**: sequences of byte
ranges of which every choice is a character of the range (`byteRuns`).
-/

namespace TemplateAttr

/-- A range of bytes, or of digits to the base 64. -/
abbrev ByteRange := Nat × Nat

/-- The runs of digits to the base 64 of the numbers from `first` to `last`, `count` digits below
the leading one.  The numbers with a full last part stand together, those at either end apart. -/
def digitRuns : Nat → Nat → Nat → List (List ByteRange)
  | 0, first, last => [[(first, last)]]
  | count + 1, first, last =>
    let unit := 64 ^ (count + 1)
    let low := first / unit
    let high := last / unit
    if low = high then
      (digitRuns count (first % unit) (last % unit)).map ((low, low) :: ·)
    else
      let cutLow := first % unit != 0
      let cutHigh := last % unit != unit - 1
      let fullLow := if cutLow then low + 1 else low
      let fullHigh := if cutHigh then high - 1 else high
      (if cutLow then (digitRuns count (first % unit) (unit - 1)).map ((low, low) :: ·) else []) ++
      (if fullLow ≤ fullHigh then
        [(fullLow, fullHigh) :: List.replicate (count + 1) (0, 63)] else []) ++
      (if cutHigh then (digitRuns count 0 (last % unit)).map ((high, high) :: ·) else [])

/-- **A length of UTF-8**: the code points with so many continuation bytes, and the mark of their
leading byte. -/
structure Utf8Length where
  first : Nat
  last : Nat
  continuations : Nat
  mark : Nat

/-- The lengths of UTF-8, the surrogates left out. -/
def utf8Lengths : List Utf8Length := [
  ⟨0x0, 0x7F, 0, 0x0⟩, ⟨0x80, 0x7FF, 1, 0xC0⟩, ⟨0x800, 0xD7FF, 2, 0xE0⟩, ⟨0xE000, 0xFFFF, 2, 0xE0⟩,
  ⟨0x10000, 0x10FFFF, 3, 0xF0⟩]

/-- The bytes of a run of digits: the leading digit under its mark, the others under that of a
continuation. -/
def markBytes (mark : Nat) : List ByteRange → List ByteRange
  | [] => []
  | (first, last) :: rest =>
    (mark + first, mark + last) :: rest.map fun (first, last) => (0x80 + first, 0x80 + last)

/-- **The byte runs of the code points from `first` to `last`.** -/
def byteRuns (first last : Nat) : List (List ByteRange) :=
  utf8Lengths.flatMap fun l =>
    let low := max first l.first
    let high := min last l.last
    if low ≤ high then (digitRuns l.continuations low high).map (markBytes l.mark) else []

end TemplateAttr
