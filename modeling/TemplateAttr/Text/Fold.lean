import TemplateAttr.Text.Lowercase

/-!
# Text/Fold — characters that differ only in case

Two characters are **variants** of each other when they fold to one character.  A character folds
to its small form, except for a few letters — the long s, the Kelvin sign's kin, the Greek symbol
forms — that are small already and fold to a plainer letter.

Folding knows the case pairs of Unicode 16.  `lowerText` knows those of Unicode 17 too, but folding
keeps the two letters of such a pair apart (`pairedLate`).
-/

namespace TemplateAttr

/-- The letters that fold elsewhere than to their small form, with what they fold to. -/
def foldExceptions : List (Nat × Nat) := [
  (0xB5, 0x3BC), (0x17F, 0x73), (0x345, 0x3B9), (0x3C2, 0x3C3), (0x3D0, 0x3B2), (0x3D1, 0x3B8),
  (0x3D5, 0x3C6), (0x3D6, 0x3C0), (0x3F0, 0x3BA), (0x3F1, 0x3C1), (0x3F5, 0x3B5), (0x1C80, 0x432),
  (0x1C81, 0x434), (0x1C82, 0x43E), (0x1C83, 0x441), (0x1C84, 0x442), (0x1C85, 0x442),
  (0x1C86, 0x44A), (0x1C87, 0x463), (0x1C88, 0xA64B), (0x1E9B, 0x1E61), (0x1FBE, 0x3B9),
  (0x1FD3, 0x390), (0x1FE3, 0x3B0), (0xFB05, 0xFB06)]

/-- Whether a letter is one of a case pair that is younger than Unicode 16. -/
def pairedLate (c : Char) : Bool :=
  inCodeRanges [(0xA7CE, 0xA7CF), (0xA7D2, 0xA7D5), (0x16EA0, 0x16EB8), (0x16EBB, 0x16ED3)] c

/-- The folded form of a character. -/
def foldChar (c : Char) : Char :=
  if pairedLate c then c
  else match foldExceptions.lookup c.toNat with
    | some n => Char.ofNat n
    | none => smallForm c

/-- Every character that may fold to the folded character `f`, itself first. -/
def foldSources (f : Char) : List Char :=
  if pairedLate f then [f]
  else
    let capitals := (if f.isLower then [f.toUpper] else []) ++
      caseRules.filterMap fun r => (r.raise? f.toNat).map Char.ofNat
    let exceptions := foldExceptions.filterMap fun (n, m) =>
      if m = f.toNat then some (Char.ofNat n) else none
    f :: (capitals ++ exceptions)

/-- **The variants of a character**: those that fold as it does. -/
def caseVariants (c : Char) : List Char := foldSources (foldChar c)

/-- The letters that have variants other than themselves. -/
def caseLetters : List Char :=
  let rules := ⟨⟨0x41, 0x5A, 1⟩, 0x61⟩ :: caseRules
  let inRules := rules.flatMap fun r => r.capitals.toList.flatMap fun n => [n, r.lower n]
  let exceptions := foldExceptions.flatMap fun (n, m) => [n, m]
  ((inRules ++ exceptions).map Char.ofNat).filter fun c => !pairedLate c

end TemplateAttr
