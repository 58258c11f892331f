import TemplateAttr.Proofs.Expression.Run
import TemplateAttr.Proofs.Expression.Symbol

/-!
# Proofs/Expression/Usable — which texts may be symbols

    ^\s*$        \s        &(#|[a-z])

A symbol is judged by going through its characters.  The rule can be said without going through
them: once by what a text may hold (`UsableSymbol`), and once by three patterns, for white space and
for references, that a symbol must not match (`usableSymbol_iff_avoids`).
-/

namespace TemplateAttr

/-! ## By what the text holds -/

/-- **A text that may be a symbol**: it is not empty, it holds no white space and no mark of
attribute syntax, and no character reference begins in it. -/
structure UsableSymbol (symbol : String) : Prop where
  ne_empty : symbol ≠ ""
  no_blank : ∀ c ∈ symbol.toList, isBlank c = false
  no_mark : ∀ c ∈ symbol.toList, c ∉ ['"', '\'', '=', '<', '>', '\\']
  no_reference : ∀ before c after, symbol.toList = before ++ '&' :: c :: after →
    c ≠ '#' ∧ ¬ ('a' ≤ c ∧ c ≤ 'z')

/-- A reference begins with `#` or a small letter behind its `&`. -/
theorem beginsReferenceName_iff {c : Char} :
    beginsReferenceName c = true ↔ c = '#' ∨ 'a' ≤ c ∧ c ≤ 'z' := by
  have hlower : c.isLower = true ↔ 'a' ≤ c ∧ c ≤ 'z' := by
    change (decide ('a' ≤ c) && decide (c ≤ 'z')) = true ↔ _
    rw [Bool.and_eq_true, decide_eq_true_iff, decide_eq_true_iff]
  simp [beginsReferenceName, hlower]

/-- **A text holds the start of a reference** where a small letter or `#` follows `&`. -/
theorem holdsReference_iff {text : List Char} : holdsReference text = true ↔
    ∃ before c after, text = before ++ '&' :: c :: after ∧ (c = '#' ∨ 'a' ≤ c ∧ c ≤ 'z') := by
  induction text with
  | nil => simp [holdsReference]
  | cons d rest ih =>
    rw [holdsReference, Bool.or_eq_true, ih]
    constructor
    · rintro (h | ⟨before, c, after, rfl, hc⟩)
      · obtain ⟨hd, hrest⟩ := Bool.and_eq_true_iff.1 h
        obtain ⟨c, hhead, hc⟩ := (Option.any_eq_true _ _).1 hrest
        obtain ⟨after, rfl⟩ := List.head?_eq_some_iff.1 hhead
        exact ⟨[], c, after, by simpa using hd, beginsReferenceName_iff.1 hc⟩
      · exact ⟨d :: before, c, after, rfl, hc⟩
    · rintro ⟨_ | ⟨b, before⟩, c, after, htext, hc⟩
      · cases htext
        exact .inl (by simpa using beginsReferenceName_iff.2 hc)
      · cases htext
        exact .inr ⟨before, c, after, rfl, hc⟩

/-- A character is reserved when it is that of a reserved mark. -/
theorem isReserved_iff {c : Char} : isReserved c = true ↔ ∃ m ∈ Mark.reserved, m.char = c := by
  simp [isReserved]

/-- …that is, when it is one of these six. -/
theorem isReserved_eq_false_iff {c : Char} :
    isReserved c = false ↔ c ∉ ['"', '\'', '=', '<', '>', '\\'] := by
  simp [isReserved, Mark.reserved, Mark.char, @eq_comm _ c]

/-- **A symbol is usable when its text may be one.** -/
theorem usableSymbol_iff {symbol : String} :
    UsableSymbol symbol ↔ isUsableSymbol symbol.toList = true := by
  have hreference : holdsReference symbol.toList = false ↔ ∀ before c after,
      symbol.toList = before ++ '&' :: c :: after → c ≠ '#' ∧ ¬ ('a' ≤ c ∧ c ≤ 'z') := by
    rw [Bool.eq_false_iff, ne_eq, holdsReference_iff]
    simp only [not_exists, not_and, not_or]
  rw [isUsableSymbol_iff, hreference, ne_eq, String.toList_eq_nil_iff]
  constructor
  · rintro ⟨hempty, hblank, hmark, href⟩
    exact ⟨hempty, fun c hc => ⟨hblank c hc, isReserved_eq_false_iff.2 (hmark c hc)⟩, href⟩
  · rintro ⟨hempty, hchars, href⟩
    exact ⟨hempty, fun c hc => (hchars c hc).1,
      fun c hc => isReserved_eq_false_iff.1 (hchars c hc).2, href⟩

/-! ## By patterns -/

section Patterns

open Pattern

/-- The pattern of texts with white space only. -/
theorem exists_onlyBlank_pattern : ∃ p, Pattern.read "^\\s*$" = .ok p ∧
    ∀ text : List Char, p.Matches text ↔ ∀ c ∈ text, isBlank c = true := by
  refine ⟨sequence [textStart, repeated (chars .blank) 0 none, textEnd], by rfl, fun text => ?_⟩
  simp only [matches_textStart_iff, coversAfter_run_iff, coversAfter_textEnd_iff]
  constructor
  · rintro ⟨m, _, rfl, hm, -, -, rfl⟩
    rwa [List.append_nil]
  · intro h
    exact ⟨text, [], by simp, h, by simp, by simp, rfl⟩

/-- The pattern of texts with white space anywhere. -/
theorem exists_blank_pattern : ∃ p, Pattern.read "\\s" = .ok p ∧
    ∀ text : List Char, p.Matches text ↔ ∃ c ∈ text, isBlank c = true := by
  refine ⟨sequence [chars .blank], by rfl, fun text => ?_⟩
  simp only [matches_iff_coversAfter, coversAfter_chars_iff, coversAfter_nil, and_true]
  constructor
  · rintro ⟨before, _, rfl, c, rest, rfl, hc⟩
    exact ⟨c, by simp, hc⟩
  · rintro ⟨c, hmem, hc⟩
    obtain ⟨before, after, rfl⟩ := List.append_of_mem hmem
    exact ⟨before, _, rfl, c, after, rfl, hc⟩

/-- The pattern of texts in which a reference begins. -/
theorem exists_reference_pattern : ∃ p, Pattern.read "&(#|[a-z])" = .ok p ∧
    ∀ text : List Char, p.Matches text ↔ holdsReference text = true := by
  refine ⟨sequence [chars (.single '&'), group (alt (sequence [chars (.single '#')])
    (sequence [chars (.union .none (.range 'a' 'z'))]))], by rfl, fun text => ?_⟩
  simp only [matches_iff_coversAfter, coversAfter_chars_iff, coversAfter_group_iff,
    coversAfter_alt_iff, coversAfter_sequence_iff, List.cons_append, List.nil_append,
    coversAfter_nil, and_true, holdsReference_iff]
  constructor
  · rintro ⟨before, _, rfl, c, _, rfl, hc, h⟩
    obtain rfl : c = '&' := by simpa [CharSet.mem] using hc
    rcases h with ⟨d, after, rfl, hd⟩ | ⟨d, after, rfl, hd⟩
    · exact ⟨before, d, after, rfl, .inl (by simpa [CharSet.mem] using hd)⟩
    · exact ⟨before, d, after, rfl, .inr (by simpa [CharSet.mem] using hd)⟩
  · rintro ⟨before, c, after, rfl, hc⟩
    refine ⟨before, _, rfl, '&', _, rfl, by decide, ?_⟩
    rcases hc with hc | hc
    · exact .inl ⟨c, after, rfl, by simpa [CharSet.mem] using hc⟩
    · exact .inr ⟨c, after, rfl, by simpa [CharSet.mem] using hc⟩

end Patterns

/-- The pattern texts that no symbol may match: white space and nothing else, white space anywhere,
the start of a character reference. -/
def unusableNotations : List String := ["^\\s*$", "\\s", "&(#|[a-z])"]

/-- **A pattern text that a symbol avoids**: it is read, and the symbol does not match. -/
def Avoids (symbol text : String) : Prop :=
  ∃ p, Pattern.read text = .ok p ∧ p.isMatch symbol = false

/-- A symbol avoids a pattern text when it does not match the pattern. -/
theorem avoids_iff {symbol text : String} {p : Pattern} (hp : Pattern.read text = .ok p) :
    Avoids symbol text ↔ ¬ p.Matches symbol.toList := by
  rw [← Pattern.matchesChars_iff, Bool.not_eq_true]
  constructor
  · rintro ⟨q, hq, h⟩
    obtain rfl : p = q := Except.ok.inj (hp.symm.trans hq)
    exact h
  · exact fun h => ⟨p, hp, h⟩

/-- **A text may be a symbol when it avoids the three patterns and holds no reserved mark.** -/
theorem usableSymbol_iff_avoids {symbol : String} : UsableSymbol symbol ↔
    (∀ text ∈ unusableNotations, Avoids symbol text) ∧
      ∀ m ∈ Mark.reserved, m.char ∉ symbol.toList := by
  obtain ⟨_, honly, honlyBlank⟩ := exists_onlyBlank_pattern
  obtain ⟨_, hany, hanyBlank⟩ := exists_blank_pattern
  obtain ⟨_, href, hreference⟩ := exists_reference_pattern
  simp only [unusableNotations, List.forall_mem_cons, avoids_iff honly, avoids_iff hany,
    avoids_iff href, honlyBlank, hanyBlank, hreference]
  rw [usableSymbol_iff, isUsableSymbol_iff]
  constructor
  · rintro ⟨hne, hchars, hno⟩
    obtain ⟨c, hc⟩ := List.exists_mem_of_ne_nil _ hne
    refine ⟨⟨fun h => ?_, ?_, by simpa using hno, by simp⟩, fun m hm hmem => ?_⟩
    · exact absurd (h c hc) (by simp [(hchars c hc).1])
    · rintro ⟨d, hd, hblank⟩
      exact absurd hblank (by simp [(hchars d hd).1])
    · exact absurd (isReserved_char m hm) (by simp [(hchars _ hmem).2])
  · rintro ⟨⟨hone, hblank, hno, -⟩, hmarks⟩
    refine ⟨fun hnil => hone (by simp [hnil]), fun c hc => ⟨?_, ?_⟩, by simpa using hno⟩
    · exact Bool.eq_false_iff.2 fun h => hblank ⟨c, hc, h⟩
    · refine Bool.eq_false_iff.2 fun h => ?_
      obtain ⟨m, hm, rfl⟩ := isReserved_iff.1 h
      exact hmarks m hm hc

end TemplateAttr
