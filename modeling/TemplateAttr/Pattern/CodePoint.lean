import TemplateAttr.Pattern.Error
import TemplateAttr.Text.Hex

/-!
# Pattern/CodePoint — a character by its code point

An escape may give a character by its code point, in hexadecimal: two digits after `\x`, four after
`\u` and eight after `\U`, or after any of them as many digits in braces as one likes.
-/

namespace TemplateAttr

namespace Pattern

/-- **A code point being read.** -/
inductive CodePointRead where
  /-- Nothing of it yet: so many digits are to come, unless a brace opens. -/
  | opening (digits : Nat)
  /-- So many digits are to come, and the value so far. -/
  | counted (digits value : Nat)
  /-- Digits in braces, and their value so far, if there is any. -/
  | braced (value : Option Nat)

namespace CodePointRead

/-- The character of a code point, if it has one. -/
def complete (code : Nat) : Except PatternError Char :=
  if code.isValidChar then .ok (Char.ofNat code) else .error .badCodePoint

/-- One digit where so many are to come: the code point goes on, or the last of them has ended
it. -/
def stepCounted (digits value : Nat) (c : Char) : Except PatternError (CodePointRead ⊕ Char) :=
  match hexValue? c with
  | none => .error .badCodePoint
  | some d =>
    let value := value * 16 + d
    if digits ≤ 1 then (complete value).map .inr else .ok (.inl (.counted (digits - 1) value))

/-- **One character of a code point**: it goes on, or has ended and gives its character. -/
def step (r : CodePointRead) (c : Char) : Except PatternError (CodePointRead ⊕ Char) :=
  match r with
  | opening digits => if c = '{' then .ok (.inl (.braced none)) else stepCounted digits 0 c
  | counted digits value => stepCounted digits value c
  | braced value =>
    match value, hexValue? c with
    | _, some d => .ok (.inl (.braced (some (value.getD 0 * 16 + d))))
    | some code, none => if c = '}' then (complete code).map .inr else .error .badCodePoint
    | none, none => .error .badCodePoint

end CodePointRead

end Pattern

end TemplateAttr
