import TemplateAttr.Proofs.Expression.Run
import TemplateAttr.Schema.Html
import TemplateAttr.Target.Basic

/-!
# Proofs/Target/Family — families of names, by patterns

    ^(if|for|iterator):        ^(data|aria)-

A name belongs to a family by one of a few words and a mark at its start.  Such a family can be told
by a pattern as well (`matches_familyRow_iff`), and the two families that the compiler knows are
those of the patterns above (`isReservedName_eq_pattern`, `Html.isDataOrAria_eq_pattern`).
-/

namespace TemplateAttr

namespace Pattern

/-- **The parts of a family**: at the start of the text, one of the words and then the mark. -/
def familyRow (words : List (List Char)) (mark : Char) : List Pattern :=
  [textStart, group (choices (words.map fun word => sequence (literalParts word))),
    chars (.single mark)]

/-- **A text is of a family** when it begins with one of the words and the mark. -/
theorem matches_familyRow_iff {words : List (List Char)} (hne : words ≠ []) {mark : Char}
    {text : List Char} : (sequence (familyRow words mark)).Matches text ↔
      ∃ word ∈ words, word ++ [mark] <+: text := by
  have hword : ∀ word : List Char,
      CoversAfter (sequence (literalParts word) :: [chars (.single mark)]) [] text ↔
        word ++ [mark] <+: text := by
    intro word
    rw [coversAfter_sequence_iff, coversAfter_literal_iff]
    simp only [coversAfter_chars_iff, CharSet.mem, beq_iff_eq, coversAfter_nil, and_true]
    constructor
    · rintro ⟨_, rfl, c, rest, rfl, rfl⟩
      exact ⟨rest, by simp⟩
    · rintro ⟨rest, rfl⟩
      exact ⟨mark :: rest, by simp, mark, rest, rfl, rfl⟩
  rw [familyRow, matches_textStart_iff, coversAfter_group_iff,
    coversAfter_choices_iff (by simpa using hne)]
  constructor
  · rintro ⟨_, hp, h⟩
    obtain ⟨word, hmem, rfl⟩ := List.mem_map.1 hp
    exact ⟨word, hmem, (hword word).1 h⟩
  · rintro ⟨word, hmem, h⟩
    exact ⟨_, List.mem_map_of_mem hmem, (hword word).2 h⟩

/-- A family as the answer of its pattern. -/
theorem isMatch_familyRow {words : List (List Char)} (hne : words ≠ []) (mark : Char)
    (name : String) : (sequence (familyRow words mark)).isMatch name =
      words.any fun word => (word ++ [mark]).isPrefixOf name.toList := by
  rw [Bool.eq_iff_iff, isMatch, matchesChars_iff, matches_familyRow_iff hne]
  simp

end Pattern

open Pattern

/-- **The names that the compiler consumes**: the directives, and those that match the pattern. -/
theorem isReservedName_eq_pattern : ∃ p, Pattern.read "^(if|for|iterator):" = .ok p ∧
    ∀ name, isReservedName name = (directiveNames.contains name || p.isMatch name) := by
  refine ⟨sequence (familyRow ["if".toList, "for".toList, "iterator".toList] ':'), by rfl,
    fun name => ?_⟩
  rw [isMatch_familyRow (by simp)]
  rfl

/-- **The names of data and of accessibility** are those that match the pattern. -/
theorem Html.isDataOrAria_eq_pattern : ∃ p, Pattern.read "^(data|aria)-" = .ok p ∧
    ∀ name, isDataOrAria name = p.isMatch name := by
  refine ⟨sequence (familyRow ["data".toList, "aria".toList] '-'), by rfl, fun name => ?_⟩
  rw [isMatch_familyRow (by simp)]
  simp [isDataOrAria]

end TemplateAttr
