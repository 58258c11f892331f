import TemplateAttr.Text.Blank
import TemplateAttr.Text.Fold
import TemplateAttr.Text.Word

/-!
# Pattern/CharSet — what one character of a pattern may be

A **character set** is kept the way a pattern writes it, and `CharSet.mem` decides membership.  A
set that disregards case holds a character as soon as it holds one of its variants, so a complement
is taken *after* case is disregarded.
-/

namespace TemplateAttr

/-- **A set of characters.** -/
inductive CharSet where
  /-- No character. -/
  | none
  /-- One character. -/
  | single (c : Char)
  /-- The characters from `first` to `last`. -/
  | range (first last : Char)
  /-- Word characters. -/
  | word
  /-- Decimal digits. -/
  | digit
  /-- White space. -/
  | blank
  /-- Either set. -/
  | union (s t : CharSet)
  /-- Everything else. -/
  | compl (s : CharSet)
  /-- The set with every variant in case of its characters. -/
  | caseless (s : CharSet)
  deriving Repr

namespace CharSet

/-- Whether a set holds a character. -/
def mem : CharSet → Char → Bool
  | none, _ => false
  | single d, c => c == d
  | range first last, c => first ≤ c && c ≤ last
  | word, c => isWordChar c
  | digit, c => isDecimalDigit c
  | blank, c => isBlank c
  | union s t, c => s.mem c || t.mem c
  | compl s, c => !s.mem c
  | caseless s, c => (caseVariants c).any fun d => s.mem d

/-! ## Intersection and differences -/

/-- The characters of both sets. -/
def inter (s t : CharSet) : CharSet := compl (union (compl s) (compl t))

/-- The characters of the first set that the second does not hold. -/
def diff (s t : CharSet) : CharSet := inter s (compl t)

/-- The characters of one set that the other does not hold. -/
def symmDiff (s t : CharSet) : CharSet := union (diff s t) (diff t s)

@[simp] theorem mem_inter (s t : CharSet) (c : Char) :
    (inter s t).mem c = (s.mem c && t.mem c) := by
  simp [inter, mem]

@[simp] theorem mem_diff (s t : CharSet) (c : Char) :
    (diff s t).mem c = (s.mem c && !t.mem c) := by
  simp [diff, mem]

@[simp] theorem mem_symmDiff (s t : CharSet) (c : Char) :
    (symmDiff s t).mem c = (s.mem c ^^ t.mem c) := by
  rw [symmDiff, mem, mem_diff, mem_diff]
  cases s.mem c <;> cases t.mem c <;> rfl

/-! ## Lists and names -/

/-- The set with exactly the characters of a list. -/
def ofList : List Char → CharSet
  | [] => none
  | c :: rest => union (single c) (ofList rest)

/-- The set of a list holds the characters of the list. -/
@[simp] theorem mem_ofList (c : Char) (l : List Char) : (ofList l).mem c = l.contains c := by
  induction l with
  | nil => rfl
  | cons d rest ih => rw [ofList, mem, mem, ih, List.contains_cons]

/-- **The ASCII classes that have a name.** -/
def ofName? (name : List Char) : Option CharSet :=
  let digits := range '0' '9'
  let lower := range 'a' 'z'
  let upper := range 'A' 'Z'
  let alpha := union upper lower
  match String.ofList name with
  | "alnum" => some (union digits alpha)
  | "alpha" => some alpha
  | "ascii" => some (range '\x00' '\x7F')
  | "blank" => some (ofList ['\t', ' '])
  | "cntrl" => some (union (range '\x00' '\x1F') (single '\x7F'))
  | "digit" => some digits
  | "graph" => some (range '!' '~')
  | "lower" => some lower
  | "print" => some (range ' ' '~')
  | "punct" => some (diff (range '!' '~') (union digits alpha))
  | "space" => some (union (range '\t' '\r') (single ' '))
  | "upper" => some upper
  | "word" => some (union (union digits alpha) (single '_'))
  | "xdigit" => some (union digits (union (range 'A' 'F') (range 'a' 'f')))
  | _ => Option.none

end CharSet

end TemplateAttr
