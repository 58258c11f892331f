import Mathlib
import TemplateAttr.Name.Boundary

/-!
# Proofs/Name/Case — capitals and small letters of ASCII

A name is scanned by the case of all characters there are (`isCapital`, `isSmall`).  On ASCII that
is the case of its letters: `isCapitalOnly_of_ascii`, `isSmallOnly_of_ascii`.
-/

namespace TemplateAttr

/-! ## ASCII -/

/-- The capitals by their code points. -/
theorem isUpper_iff_toNat {c : Char} : c.isUpper = true ↔ 65 ≤ c.toNat ∧ c.toNat ≤ 90 := by
  simp [Char.isUpper, UInt32.le_iff_toNat_le, ← Char.toNat_val]

/-- …the small letters by theirs. -/
theorem isLower_iff_toNat {c : Char} : c.isLower = true ↔ 97 ≤ c.toNat ∧ c.toNat ≤ 122 := by
  simp [Char.isLower, UInt32.le_iff_toNat_le, ← Char.toNat_val]

/-- …and the digits by theirs. -/
theorem isDigit_iff_toNat {c : Char} : c.isDigit = true ↔ 48 ≤ c.toNat ∧ c.toNat ≤ 57 :=
  Char.isDigit_iff_toNat

/-- A letter is a capital or a small letter. -/
theorem isAlpha_iff {c : Char} : c.isAlpha = true ↔ c.isUpper = true ∨ c.isLower = true := by
  rw [Char.isAlpha, Bool.or_eq_true]

theorem isAlphanum_iff {c : Char} :
    c.isAlphanum = true ↔ c.isUpper = true ∨ c.isLower = true ∨ c.isDigit = true := by
  rw [Char.isAlphanum, Bool.or_eq_true, isAlpha_iff, or_assoc]

theorem isAlphanum_of_isAlpha {c : Char} (h : c.isAlpha = true) : c.isAlphanum = true := by
  rw [Char.isAlphanum, h, Bool.true_or]

/-- Letters and digits are those of ASCII. -/
theorem ascii_of_isAlphanum {c : Char} (h : c.isAlphanum = true) : c.toNat < 0x80 := by
  rw [isAlphanum_iff, isUpper_iff_toNat, isLower_iff_toNat, isDigit_iff_toNat] at h
  omega

theorem ascii_of_isUpper {c : Char} (h : c.isUpper = true) : c.toNat < 0x80 :=
  ascii_of_isAlphanum (isAlphanum_iff.2 (.inl h))

theorem ascii_of_isLower {c : Char} (h : c.isLower = true) : c.toNat < 0x80 :=
  ascii_of_isAlphanum (isAlphanum_iff.2 (.inr (.inl h)))

/-- No letter is a digit. -/
theorem isDigit_of_isAlpha {c : Char} (h : c.isAlpha = true) : c.isDigit = false := by
  rw [isAlpha_iff, isUpper_iff_toNat, isLower_iff_toNat] at h
  rw [Bool.eq_false_iff, Ne, isDigit_iff_toNat]
  omega

/-- Raising makes no digit of a character, and nothing else of a digit. -/
theorem isDigit_toUpper (c : Char) : c.toUpper.isDigit = c.isDigit := by
  cases halpha : c.isAlpha with
  | true =>
    rw [isDigit_of_isAlpha halpha,
      isDigit_of_isAlpha ((Char.isAlpha_toUpper_eq_isAlpha c).trans halpha)]
  | false =>
    rw [Char.isAlpha, Bool.or_eq_false_iff] at halpha
    rw [Char.toUpper_eq_of_not_isLower (Bool.eq_false_iff.1 halpha.2)]

/-- …and neither does lowering. -/
theorem isDigit_toLower (c : Char) : c.toLower.isDigit = c.isDigit := by
  rw [← isDigit_toUpper, Char.toUpper_toLower_eq_toUpper, isDigit_toUpper]

/-- A capital is lowered to another character. -/
theorem toLower_ne_self {c : Char} (h : c.isUpper = true) : c.toLower ≠ c := by
  intro heq
  have hlower := Char.isUpper_toLower_eq_false c
  rw [heq, h] at hlower
  cases hlower

/-! ## Case -/

/-- Whether a character is a small letter and no capital. -/
def isSmallOnly (c : Char) : Bool := isSmall c && !isCapital c

/-- Whether a character is a capital and no small letter. -/
def isCapitalOnly (c : Char) : Bool := isCapital c && !isSmall c

/-- A character has one case at most. -/
theorem isCapitalOnly_of_isSmallOnly {c : Char} (h : isSmallOnly c = true) :
    isCapitalOnly c = false := by
  simp only [isSmallOnly, Bool.and_eq_true] at h
  simp [isCapitalOnly, h.1]

section Ascii

variable {c : Char} (h : c.toNat < 0x80)

include h

/-- An ASCII character counts as a capital unless it is a small letter. -/
theorem isCapital_of_ascii : isCapital c = !c.isLower := by
  rw [isCapital, changesWhenUppercased_of_ascii h]

/-- …and as a small letter unless it is a capital. -/
theorem isSmall_of_ascii : isSmall c = !c.isUpper := by
  rw [isSmall, lowerChar_of_ascii h, Bool.eq_iff_iff]
  cases hupper : c.isUpper with
  | false => simp [Char.toLower_eq_of_not_isUpper (Bool.eq_false_iff.1 hupper)]
  | true => simp [toLower_ne_self hupper]

/-- An ASCII character is a small letter only if it is one of ASCII. -/
theorem isSmallOnly_of_ascii : isSmallOnly c = c.isLower := by
  rw [isSmallOnly, isSmall_of_ascii h, isCapital_of_ascii h, Bool.not_not]
  cases hlower : c.isLower with
  | false => rw [Bool.and_false]
  | true => simp [Char.not_isUpper_of_isLower hlower]

/-- An ASCII character is a capital only if it is one of ASCII. -/
theorem isCapitalOnly_of_ascii : isCapitalOnly c = c.isUpper := by
  rw [isCapitalOnly, isSmall_of_ascii h, isCapital_of_ascii h, Bool.not_not]
  cases hupper : c.isUpper with
  | false => rw [Bool.and_false]
  | true => simp [Char.not_isLower_of_isUpper hupper]

end Ascii

/-- The letters of ASCII that are no small letters are its capitals. -/
theorem isAlpha_and_isCapital (c : Char) : (c.isAlpha && isCapital c) = c.isUpper := by
  cases halpha : c.isAlpha with
  | false => simp_all [Char.isAlpha]
  | true =>
    rcases isAlpha_iff.1 halpha with hupper | hlower
    · simp [isCapital_of_ascii (ascii_of_isUpper hupper), hupper,
        Char.not_isLower_of_isUpper hupper]
    · simp [isCapital_of_ascii (ascii_of_isLower hlower), hlower,
        Char.not_isUpper_of_isLower hlower]

/-- The letters of ASCII that are no capitals are its small letters. -/
theorem isAlpha_and_isSmall (c : Char) : (c.isAlpha && isSmall c) = c.isLower := by
  cases halpha : c.isAlpha with
  | false => simp_all [Char.isAlpha]
  | true =>
    rcases isAlpha_iff.1 halpha with hupper | hlower
    · simp [isSmall_of_ascii (ascii_of_isUpper hupper), Char.not_isLower_of_isUpper hupper, hupper]
    · simp [isSmall_of_ascii (ascii_of_isLower hlower), Char.not_isUpper_of_isLower hlower, hlower]

end TemplateAttr
