import TemplateAttr.Proofs.Expression.Limit
import TemplateAttr.Proofs.Expression.Run
import TemplateAttr.Proofs.Expression.Symbol

/-!
# Proofs/Expression/Shape — expressions by their shape

    full        start m stop
    potential   c start m stop t      with at most one character in c

A grammar tells expressions by matching patterns; here the two kinds are said in terms of the text
alone, once as a decomposition (`isFullChars_iff`, `isPotentialChars_iff`) and once by positions
(`isFullExpression_iff`, `isPotentialExpression_iff`).  The two readings meet in
`expression_grammar`: usable delimiters have a grammar, and it finds exactly these.
-/

namespace TemplateAttr

/-- The set of the characters within a line holds just these. -/
theorem mem_inLine_iff {c : Char} : Grammar.inLine.mem c = true ↔ c ∉ lineTerminators := by
  simp [Grammar.inLine, lineTerminators, CharSet.mem, not_or, and_assoc]

namespace Delimiters

open Pattern

/-- **One expression and nothing else**: the delimiters, and text within a line between them. -/
def IsFullExpression (d : Delimiters) (text : List Char) : Prop :=
  ∃ m : List Char, m ≠ [] ∧ InLine m ∧ text = d.start.toList ++ m ++ d.stop.toList

/-- **An expression that opens at the first or second character**, and is closed on the line. -/
def IsPotentialExpression (d : Delimiters) (text : List Char) : Prop :=
  ∃ c m t : List Char, c.length ≤ 1 ∧ m ≠ [] ∧ InLine c ∧ InLine m ∧ InLine t ∧
    text = c ++ d.start.toList ++ m ++ d.stop.toList ++ t

/-! ## The patterns -/

theorem matches_fullPattern_iff {d : Delimiters} {text : List Char} :
    d.fullPattern.Matches text ↔ d.IsFullExpression text := by
  simp only [fullPattern, matches_textStart_iff, coversAfter_literal_iff, coversAfter_run_iff,
    coversAfter_textEnd_iff, mem_inLine_iff]
  constructor
  · rintro ⟨_, rfl, m, _, rfl, hline, hlen, -, _, rfl, rfl⟩
    exact ⟨m, List.ne_nil_of_length_pos hlen, hline, by simp⟩
  · rintro ⟨m, hm, hline, rfl⟩
    exact ⟨m ++ d.stop.toList, by simp, m, d.stop.toList, rfl, hline, List.length_pos_iff.2 hm,
      by simp, [], by simp, rfl⟩

theorem matches_potentialPattern_iff {d : Delimiters} {text : List Char} :
    d.potentialPattern.Matches text ↔ d.IsPotentialExpression text := by
  simp only [potentialPattern, matches_textStart_iff, coversAfter_literal_iff, coversAfter_run_iff,
    coversAfter_textEnd_iff, mem_inLine_iff]
  constructor
  · rintro ⟨c, _, rfl, hcline, -, hc, _, rfl, m, _, rfl, hline, hlen, -, _, rfl, t, _, rfl, htline,
      -, -, rfl⟩
    exact ⟨c, m, t, by simpa using hc, List.ne_nil_of_length_pos hlen, hcline, hline, htline,
      by simp⟩
  · rintro ⟨c, m, t, hc, hm, hcline, hline, htline, rfl⟩
    refine ⟨c, d.start.toList ++ m ++ d.stop.toList ++ t, by simp, hcline, Nat.zero_le _,
      by simpa using hc, m ++ d.stop.toList ++ t, by simp, m, d.stop.toList ++ t, by simp, hline,
      List.length_pos_iff.2 hm, by simp, t, rfl, t, [], by simp, htline, Nat.zero_le _, by simp,
      rfl⟩

/-! ## By positions -/

/-- **A full expression by its two ends**, when the delimiters are usable.  Where there is room for
both ends they do not overlap, so the stop symbol lies in what follows the start symbol. -/
theorem isFullExpression_iff {d : Delimiters} (h : d.isUsable = true) {text : List Char} :
    d.IsFullExpression text ↔ InLine text ∧ d.start.toList <+: text ∧ d.stop.toList <:+ text ∧
      d.start.toList.length + d.stop.toList.length < text.length := by
  obtain ⟨hstart, hstop, -⟩ := isUsable_iff.1 h
  constructor
  · rintro ⟨m, hm, hline, rfl⟩
    have hlen := List.length_pos_iff.2 hm
    refine ⟨?_, ?_, List.suffix_append _ _, ?_⟩
    · simp [hline, inLine_of_isUsableSymbol hstart, inLine_of_isUsableSymbol hstop]
    · rw [List.append_assoc]
      exact List.prefix_append _ _
    · simp only [List.length_append]
      omega
  · rintro ⟨hline, ⟨rest, rfl⟩, hend, hlen⟩
    rw [List.length_append] at hlen
    obtain ⟨m, rfl⟩ := List.suffix_of_suffix_length_le hend (List.suffix_append _ rest) (by omega)
    rw [List.length_append] at hlen
    refine ⟨m, List.ne_nil_of_length_pos (by omega), ?_, by rw [List.append_assoc]⟩
    exact (inLine_append.1 (inLine_append.1 hline).2).1

/-- **A potential expression by the places of its delimiters**, when they are usable. -/
theorem isPotentialExpression_iff {d : Delimiters} (h : d.isUsable = true) {text : List Char} :
    d.IsPotentialExpression text ↔ InLine text ∧ ∃ p q, p ≤ 1 ∧ p + d.start.toList.length + 1 ≤ q ∧
      d.start.toList <+: text.drop p ∧ d.stop.toList <+: text.drop q := by
  obtain ⟨hstart, hstop, -⟩ := isUsable_iff.1 h
  constructor
  · rintro ⟨c, m, t, hc, hm, hcline, hline, htline, rfl⟩
    have hlen := List.length_pos_iff.2 hm
    refine ⟨?_, c.length, c.length + d.start.toList.length + m.length, hc, by omega, ?_, ?_⟩
    · simp [hcline, hline, htline, inLine_of_isUsableSymbol hstart, inLine_of_isUsableSymbol hstop]
    · simp
    · simp [← List.drop_drop]
  · rintro ⟨hline, p, q, hp, hq, ⟨rest, hrest⟩, ⟨t, ht⟩⟩
    obtain ⟨k, rfl⟩ := Nat.exists_eq_add_of_le (Nat.le_of_succ_le hq)
    have hk : 0 < k := by omega
    have hafter : rest.drop k = d.stop.toList ++ t := by
      rw [ht, ← List.drop_drop, ← List.drop_drop, ← hrest, List.drop_left]
    have hmid : rest.take k ≠ [] := by
      have hlen := congrArg List.length hafter
      have := length_pos_of_isUsableSymbol hstop
      rw [List.length_drop, List.length_append] at hlen
      exact List.ne_nil_of_length_pos (by rw [List.length_take]; omega)
    have htext : text = text.take p ++ d.start.toList ++ rest.take k ++ d.stop.toList ++ t := by
      rw [List.append_assoc _ d.stop.toList, ← hafter, List.append_assoc _ (rest.take k),
        List.take_append_drop, List.append_assoc, hrest, List.take_append_drop]
    rw [htext] at hline
    simp only [inLine_append] at hline
    obtain ⟨⟨⟨⟨hcline, -⟩, hmline⟩, -⟩, htline⟩ := hline
    have hshort := Nat.le_trans (List.length_take_le p text) hp
    exact ⟨_, _, t, hshort, hmid, hcline, hmline, htline, htext⟩

end Delimiters

namespace Grammar

/-- **A grammar finds the full expressions.** -/
theorem isFullChars_iff {g : Grammar} {text : List Char} :
    g.isFullChars text = true ↔ g.delimiters.IsFullExpression text := by
  rw [isFullChars, Pattern.matchesChars_iff, full_eq, Delimiters.matches_fullPattern_iff]

/-- **A grammar finds the potential expressions.** -/
theorem isPotentialChars_iff {g : Grammar} {text : List Char} :
    g.isPotentialChars text = true ↔ g.delimiters.IsPotentialExpression text := by
  rw [isPotentialChars, Pattern.matchesChars_iff, potential_eq,
    Delimiters.matches_potentialPattern_iff]

end Grammar

/-- A full expression is a potential one: nothing stands before it, and nothing after. -/
theorem Delimiters.IsFullExpression.isPotentialExpression {d : Delimiters} {text : List Char}
    (h : d.IsFullExpression text) : d.IsPotentialExpression text := by
  obtain ⟨m, hm, hline, rfl⟩ := h
  exact ⟨[], m, [], by simp, hm, inLine_nil, hline, inLine_nil, by simp⟩

/-- A potential expression holds both delimiters. -/
theorem Delimiters.IsPotentialExpression.infixes {d : Delimiters} {text : List Char}
    (h : d.IsPotentialExpression text) : d.start.toList <:+: text ∧ d.stop.toList <:+: text := by
  obtain ⟨c, m, t, -, -, -, -, -, rfl⟩ := h
  exact ⟨⟨c, m ++ d.stop.toList ++ t, by simp⟩, ⟨c ++ d.start.toList ++ m, t, rfl⟩⟩

/-! ## The grammar of usable delimiters -/

/-- **Usable delimiters have a grammar, and it finds expressions by position.**  It is theirs without
a limit on the size of patterns, and under every limit that their patterns are within.  A value is
full when it stays within a line and its two ends are the delimiters, with more than nothing
between; it is potential when it stays within a line, the start symbol stands at its first or
second character, and the stop symbol stands behind that with a gap. -/
theorem expression_grammar {d : Delimiters} (h : d.validate = .ok ()) :
    ∃ g, Grammar.ofDelimiters d none = .ok g ∧ g.delimiters = d ∧
      (∀ limit, d.fitsIn limit = true → Grammar.ofDelimiters d limit = .ok g) ∧
      ∀ v : String,
        (g.isFull v = true ↔ (∀ c ∈ v.toList, c ∉ lineTerminators) ∧
          d.start.toList <+: v.toList ∧ d.stop.toList <:+ v.toList ∧
          d.start.length + d.stop.length < v.length) ∧
        (g.isPotential v = true ↔ (∀ c ∈ v.toList, c ∉ lineTerminators) ∧
          ∃ p q, p ≤ 1 ∧ p + d.start.length + 1 ≤ q ∧
            d.start.toList <+: v.toList.drop p ∧ d.stop.toList <+: v.toList.drop q) ∧
        (g.isFull v = true → g.isPotential v = true) := by
  have husable := Delimiters.validate_eq_ok_iff.1 h
  obtain ⟨g, hg, rfl⟩ := Grammar.exists_ofDelimiters husable d.fitsIn_none
  have hlimit (limit : Option Nat) (hfits : g.delimiters.fitsIn limit = true) :
      Grammar.ofDelimiters g.delimiters limit = .ok g :=
    Grammar.ofDelimiters_eq_ok_iff.2 ⟨rfl, hfits⟩
  refine ⟨g, hg, rfl, hlimit, fun v => ⟨?_, ?_, ?_⟩⟩
  · simp only [← String.length_toList]
    exact Grammar.isFullChars_iff.trans (Delimiters.isFullExpression_iff husable)
  · simp only [← String.length_toList]
    exact Grammar.isPotentialChars_iff.trans (Delimiters.isPotentialExpression_iff husable)
  · intro hfull
    exact Grammar.isPotentialChars_iff.2 (Grammar.isFullChars_iff.1 hfull).isPotentialExpression

/-- Delimiters that mean everything in a pattern are still two texts. -/
theorem expression_grammar_marks :
    Delimiters.validate ⟨"(?", "+|$"⟩ = .ok () ∧ ∃ g, Grammar.ofDelimiters ⟨"(?", "+|$"⟩ = .ok g ∧
      g.isFull "(?x+|$" = true ∧ g.isFull "(?+|$" = false ∧
      g.isPotential "a(?x+|$+|$z" = true ∧ g.isPotential "ab(?x+|$" = false := by
  have husable : Delimiters.validate ⟨"(?", "+|$"⟩ = .ok () :=
    Delimiters.validate_eq_ok_iff.2 (by decide)
  obtain ⟨g, -, -, hlimit, hv⟩ := expression_grammar husable
  have hfits : Delimiters.fitsIn ⟨"(?", "+|$"⟩ (some Pattern.sizeLimit) = true :=
    Delimiters.fitsIn_of_bytes_le (by decide)
  refine ⟨husable, g, hlimit _ hfits, ?_, ?_, ?_, ?_⟩
  · exact (hv _).1.2 ⟨by simp [lineTerminators], by decide, by decide, by decide⟩
  · exact Bool.eq_false_iff.2 fun h => absurd ((hv _).1.1 h).2.2.2 (by decide)
  · exact (hv _).2.1.2
      ⟨by simp [lineTerminators], 1, 4, by decide, by decide, by decide, by decide⟩
  · refine Bool.eq_false_iff.2 fun h => ?_
    obtain ⟨-, p, q, hp, -, hstart, -⟩ := (hv _).2.1.1 h
    rcases Nat.le_one_iff_eq_zero_or_eq_one.1 hp with rfl | rfl
    · exact absurd hstart (by decide)
    · exact absurd hstart (by decide)

end TemplateAttr
