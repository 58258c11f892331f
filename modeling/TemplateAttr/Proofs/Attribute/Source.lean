import TemplateAttr.Attribute.Source
import TemplateAttr.Proofs.Expression.Symbol

/-!
# Proofs/Attribute/Source — what the source text shows

The text of the value begins after the first `=` (`Source.text`).  A value is settled unless that
text shows both delimiters (`isSettled_eq_false_iff`), and quoted when it begins and ends with a
double quote (`isQuoted_iff`).
-/

namespace TemplateAttr

namespace Source

/-- **The text of the value**: what follows the first `=`, and nothing if there is none. -/
def text (source : List Char) : List Char := (source.dropWhile (· != '=')).drop 1

/-- **The text of the value shows both delimiters.** -/
def Shows (d : Delimiters) (source : List Char) : Prop :=
  d.start.toList <:+: text source ∧ d.stop.toList <:+: text source

/-- **The text of the value begins and ends with a double quote.** -/
def Quoted (source : List Char) : Prop :=
  text source ≠ [] ∧ ['"'] <+: text source ∧ ['"'] <:+ text source

theorem text_cons (c : Char) (rest : List Char) :
    text (c :: rest) = if c = '=' then rest else text rest := by
  by_cases h : c = '=' <;> simp [text, h]

/-- **What follows a name and its `=` is the text of the value.** -/
theorem text_append {name : List Char} (h : '=' ∉ name) (value : List Char) :
    text (name ++ '=' :: value) = value := by
  induction name with
  | nil => rw [List.nil_append, text_cons, if_pos rfl]
  | cons c rest ih =>
    rw [List.mem_cons, not_or] at h
    rw [List.cons_append, text_cons, if_neg (Ne.symm h.1), ih h.2]

/-- The text of the value is what the reader of source texts finds, if it finds one. -/
theorem getD_valueText (source : List Char) : (valueText source).getD [] = text source := by
  induction source with
  | nil => rfl
  | cons c rest ih =>
    rw [text_cons, ← ih]
    by_cases h : c = '='
    · simp [valueText, splitAtFirst, Mark.char, h]
    · cases hsplit : splitAtFirst '=' rest <;>
        simp [valueText, splitAtFirst, Mark.char, h, hsplit]

/-! ## The two questions -/

/-- **A value is settled unless the text of it shows both delimiters.** -/
theorem isSettled_eq_false_iff {d : Delimiters} (h : d.isUsable = true) {source : List Char} :
    isSettled d source = false ↔ Shows d source := by
  have hstart := ne_nil_of_isUsableSymbol (Delimiters.isUsable_iff.1 h).1
  rw [Shows, ← getD_valueText, isSettled]
  cases valueText source with
  | none => simp [hstart]
  | some text =>
    cases text with
    | nil => simp [hstart]
    | cons c rest => simp [occursIn_iff]

/-- …and it is settled if the text does not. -/
theorem isSettled_iff {d : Delimiters} (h : d.isUsable = true) {source : List Char} :
    isSettled d source = true ↔ ¬ Shows d source := by
  rw [← isSettled_eq_false_iff h, Bool.not_eq_false]

/-- **A value is quoted when the text of it begins and ends with a double quote.** -/
theorem isQuoted_iff {source : List Char} : isQuoted source = true ↔ Quoted source := by
  rw [Quoted, ← getD_valueText, isQuoted]
  cases valueText source with
  | none => simp
  | some text =>
    simp only [Mark.char, Option.getD_some, Bool.and_eq_true, beq_iff_eq,
      List.singleton_prefix_iff_head?_eq_some, List.singleton_suffix_iff_getLast?_eq_some]
    refine ⟨fun h => ⟨?_, h⟩, And.right⟩
    rintro rfl
    cases h.1

theorem isQuoted_eq_false_iff {source : List Char} : isQuoted source = false ↔ ¬ Quoted source := by
  rw [← isQuoted_iff, Bool.not_eq_true]

/-! ## The two spellings of a value -/

/-- The source text of an attribute with a bare value. -/
def bare (name value : String) : String := name ++ "=" ++ value

/-- The source text of an attribute with a value in double quotes. -/
def inQuotes (name value : String) : String := name ++ "=\"" ++ value ++ "\""

/-- The two spellings by their characters. -/
theorem toList_bare (name value : String) :
    (bare name value).toList = name.toList ++ '=' :: value.toList := by
  simp [bare]

theorem toList_inQuotes (name value : String) :
    (inQuotes name value).toList = name.toList ++ '=' :: '"' :: (value.toList ++ ['"']) := by
  simp [inQuotes]

/-- A bare value is the text of it. -/
theorem text_bare {name : String} (h : '=' ∉ name.toList) (value : String) :
    text (bare name value).toList = value.toList := by
  rw [toList_bare, text_append h]

/-- …and a quoted one stands in its quotes there. -/
theorem text_inQuotes {name : String} (h : '=' ∉ name.toList) (value : String) :
    text (inQuotes name value).toList = '"' :: (value.toList ++ ['"']) := by
  rw [toList_inQuotes, text_append h]

/-- A quoted value shows the delimiters it holds. -/
theorem shows_inQuotes {d : Delimiters} {name value : String} (h : '=' ∉ name.toList)
    (hstart : d.start.toList <:+: value.toList) (hstop : d.stop.toList <:+: value.toList) :
    Shows d (inQuotes name value).toList := by
  have hinfix : value.toList <:+: '"' :: (value.toList ++ ['"']) := ⟨['"'], ['"'], by simp⟩
  rw [Shows, text_inQuotes h]
  exact ⟨hstart.trans hinfix, hstop.trans hinfix⟩

/-- What holds no quote and stands in a quoted text stands between the quotes. -/
theorem infix_of_infix_quoted {part value : List Char} (h : '"' ∉ part)
    (hpart : part <:+: '"' :: (value ++ ['"'])) : part <:+: value := by
  rcases List.infix_cons_iff.1 hpart with hopen | hrest
  · rcases List.prefix_cons_iff.1 hopen with rfl | ⟨t, rfl, -⟩
    · exact List.nil_infix
    · exact absurd List.mem_cons_self h
  · rcases List.infix_concat_iff.1 hrest with hclose | hvalue
    · rcases List.suffix_concat_iff.1 hclose with rfl | ⟨t, rfl, -⟩
      · exact List.nil_infix
      · exact absurd (List.mem_append_right t List.mem_cons_self) h
    · exact hvalue

/-- **A quoted value shows the delimiters that it holds, and no others**: no delimiter runs over a
quote. -/
theorem shows_inQuotes_iff {d : Delimiters} (hd : d.isUsable = true) {name value : String}
    (h : '=' ∉ name.toList) :
    Shows d (inQuotes name value).toList ↔
      d.start.toList <:+: value.toList ∧ d.stop.toList <:+: value.toList := by
  obtain ⟨hstart, hstop, -⟩ := Delimiters.isUsable_iff.1 hd
  have hquote : Mark.doubleQuote ∈ Mark.reserved := by decide
  refine ⟨fun hshows => ?_, fun hvalue => shows_inQuotes h hvalue.1 hvalue.2⟩
  rw [Shows, text_inQuotes h] at hshows
  exact ⟨infix_of_infix_quoted (char_notMem_of_isUsableSymbol hstart hquote) hshows.1,
    infix_of_infix_quoted (char_notMem_of_isUsableSymbol hstop hquote) hshows.2⟩

/-- A bare value shows the delimiters that it holds. -/
theorem shows_bare_iff {d : Delimiters} {name value : String} (h : '=' ∉ name.toList) :
    Shows d (bare name value).toList ↔
      d.start.toList <:+: value.toList ∧ d.stop.toList <:+: value.toList := by
  rw [Shows, text_bare h]

/-- A value in quotes is quoted. -/
theorem quoted_inQuotes {name : String} (h : '=' ∉ name.toList) (value : String) :
    Quoted (inQuotes name value).toList := by
  rw [Quoted, text_inQuotes h]
  exact ⟨List.cons_ne_nil _ _, List.prefix_append ['"'] _, List.suffix_append ('"' :: _) ['"']⟩

/-- A bare value without a quote is not. -/
theorem not_quoted_bare {name value : String} (h : '=' ∉ name.toList)
    (hvalue : '"' ∉ value.toList) : ¬ Quoted (bare name value).toList := by
  rintro ⟨-, hopen, -⟩
  rw [text_bare h] at hopen
  exact hvalue (hopen.subset List.mem_cons_self)

end Source

end TemplateAttr
