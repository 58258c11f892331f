import TemplateAttr.Expression.Grammar

/-!
# Proofs/Expression/Symbol — what usable delimiters cannot hold

A usable symbol holds a character, but none that ends a line and none of the reserved marks.  So an
expression stays within one line as soon as the text between its delimiters does, and neither a
quote, nor an equals sign, nor the backslash of an escape can be part of a delimiter.
-/

namespace TemplateAttr

/-- **A usable symbol, clause by clause.** -/
theorem isUsableSymbol_iff {symbol : List Char} :
    isUsableSymbol symbol = true ↔ symbol ≠ [] ∧
      (∀ c ∈ symbol, isBlank c = false ∧ isReserved c = false) ∧ holdsReference symbol = false := by
  simp [isUsableSymbol, and_assoc]

/-- What ends a line is white space. -/
theorem isBlank_of_mem_lineTerminators : ∀ c ∈ lineTerminators, isBlank c = true :=
  List.all_eq_true.1 (by decide)

/-- The character of a reserved mark is reserved. -/
theorem isReserved_char : ∀ m ∈ Mark.reserved, isReserved m.char = true := by decide

/-- Text within one line. -/
def InLine (text : List Char) : Prop := ∀ c ∈ text, c ∉ lineTerminators

@[simp] theorem inLine_nil : InLine [] := by simp [InLine]

@[simp] theorem inLine_append {a b : List Char} : InLine (a ++ b) ↔ InLine a ∧ InLine b := by
  simp [InLine, or_imp, forall_and]

@[simp] theorem inLine_cons {c : Char} {a : List Char} :
    InLine (c :: a) ↔ c ∉ lineTerminators ∧ InLine a := by
  simp [InLine]

/-! ## One symbol -/

section Symbol

variable {symbol : List Char} (h : isUsableSymbol symbol = true)

include h

/-- A usable symbol is not empty. -/
theorem ne_nil_of_isUsableSymbol : symbol ≠ [] := (isUsableSymbol_iff.1 h).1

theorem length_pos_of_isUsableSymbol : 0 < symbol.length :=
  List.length_pos_iff.2 (ne_nil_of_isUsableSymbol h)

/-- **A usable symbol stays within a line.** -/
theorem inLine_of_isUsableSymbol : InLine symbol := by
  intro c hc hline
  have hblank := ((isUsableSymbol_iff.1 h).2.1 c hc).1
  rw [isBlank_of_mem_lineTerminators c hline] at hblank
  cases hblank

/-- **A usable symbol holds no reserved mark.** -/
theorem char_notMem_of_isUsableSymbol {m : Mark} (hm : m ∈ Mark.reserved) : m.char ∉ symbol := by
  intro hc
  have hreserved := ((isUsableSymbol_iff.1 h).2.1 _ hc).2
  rw [isReserved_char m hm] at hreserved
  cases hreserved

end Symbol

/-! ## A pair of symbols -/

namespace Delimiters

/-- **A usable pair, clause by clause.** -/
theorem isUsable_iff {d : Delimiters} :
    d.isUsable = true ↔ isUsableSymbol d.start.toList = true ∧ isUsableSymbol d.stop.toList = true ∧
      d.start ≠ d.stop := by
  simp [isUsable, and_assoc]

/-- A pair is let in when it is usable. -/
theorem validate_eq_ok_iff {d : Delimiters} : d.validate = .ok () ↔ d.isUsable = true := by
  simp [validate]

end Delimiters

end TemplateAttr
