import TemplateAttr.Proofs.Expression.Notation
import TemplateAttr.Proofs.Expression.Run

/-!
# Proofs/Pattern/Quote — a quoted text stands for itself

    ^  a \. b \{ 2 \}  $        the one text    a.b{2}

A quoted text is a piece of a notation whatever it holds (`reads_quoteChars`), so between the two
anchors it is read as the sequence of its characters: no mark in it takes on a meaning, repeats what
stands before it or opens what stands behind it.  That sequence covers the text and nothing else,
and the anchors leave no room beside it (`quote_matches_itself`).
-/

namespace TemplateAttr

namespace Pattern

/-- **The pattern of one whole text**: its characters, from the start to the end. -/
def wholeText (text : List Char) : Pattern :=
  sequence (textStart :: (literalParts text ++ [textEnd]))

/-- **A quoted text between the anchors is read**, and to the pattern of the text. -/
theorem readChars_wholeText (text : List Char) :
    readChars ('^' :: (quoteChars text ++ ['$'])) = .ok (wholeText text) := by
  have hpieces := ReadState.reads_textStart.append
    ((ReadState.reads_quoteChars text).append ReadState.reads_textEnd)
  have hread := hpieces.readChars
  simpa [wholeText, Function.comp_def] using hread

/-- **The pattern of one whole text matches that text alone.** -/
theorem matches_wholeText_iff {text other : List Char} :
    (wholeText text).Matches other ↔ other = text := by
  rw [wholeText, matches_textStart_iff, coversAfter_literal_iff]
  simp only [coversAfter_textEnd_iff]
  constructor
  · rintro ⟨_, rfl, rfl⟩
    exact List.append_nil text
  · rintro rfl
    exact ⟨[], (List.append_nil other).symm, rfl⟩

/-- **A quoted text stands for itself**: between the anchors it spells a pattern, and the texts that
match it are this one. -/
theorem quote_matches_itself (text : String) :
    ∃ p, Pattern.read ("^" ++ quote text ++ "$") = .ok p ∧
      ∀ other : String, p.isMatch other = true ↔ other = text := by
  have hnotation : ("^" ++ quote text ++ "$").toList =
      '^' :: (quoteChars text.toList ++ ['$']) := by
    simp [quote]
  refine ⟨wholeText text.toList, ?_, fun other => ?_⟩
  · rw [Pattern.read, hnotation, readChars_wholeText]
  · rw [isMatch, matchesChars_iff, matches_wholeText_iff, String.toList_inj]

end Pattern

end TemplateAttr
