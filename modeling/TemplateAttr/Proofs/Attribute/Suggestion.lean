import TemplateAttr.Proofs.Attribute.Outcome

/-!
# Proofs/Attribute/Suggestion — what becomes of a suggested spelling

A quoted expression is refused with two suggestions, and each means one thing: without the quotes it
is a binding, behind a backslash it is the text of the author (`normalize_ambiguous_suggestions`).

The spelling suggested for an unresolved value puts it in double quotes, behind a backslash.  The
backslash stands in front of the value, wherever the delimiter is: where the value opens with it the
spelling is an escape, and means the text the author wrote; where one character stands before it the
spelling is a literal that keeps its backslash (`normalize_suggestion`).
-/

namespace TemplateAttr

/-! ## The suggested texts -/

namespace SyntaxError

theorem closeQuote_concat (text : List Char) : closeQuote (text ++ ['"']) = text ++ ['"'] := by
  rw [closeQuote, List.getLast?_concat]
  rfl

theorem closeQuote_append (front : List Char) {tail : List Char} (hne : tail ≠ [])
    (h : '"' ∉ tail) : closeQuote (front ++ tail) = front ++ tail ++ ['"'] := by
  have hlast := List.getLast?_eq_some_getLast hne
  rw [closeQuote, List.getLast?_append, hlast, Option.some_or, if_neg]
  · rfl
  · intro hquote
    exact h (List.mem_of_getLast? (hlast.trans hquote))

/-- The value is put behind a quote and a backslash, without the quote it may have had. -/
theorem escapeValue_append {name : List Char} (h : '=' ∉ name) (text : List Char) :
    escapeValue (name ++ '=' :: text) = closeQuote (name ++ '=' :: '"' :: '\\' ::
      if text.head? = some '"' then text.drop 1 else text) := by
  have hsplit : splitAtFirst Mark.equals.char (name ++ '=' :: text) = some (name, text) :=
    splitAtFirst_append h text
  rw [escapeValue, hsplit]
  rfl

/-- **A bare value is put in quotes, behind a backslash.** -/
theorem escapeValue_bare {name value : String} (hname : '=' ∉ name.toList)
    (hvalue : '"' ∉ value.toList) :
    escapeValue (Source.bare name value).toList =
      (Source.inQuotes name ("\\" ++ value)).toList := by
  have hhead : ¬ value.toList.head? = some '"' := fun h => hvalue (List.mem_of_head? h)
  have htail : '"' ∉ '\\' :: value.toList := by simpa using hvalue
  have hclose := closeQuote_append (name.toList ++ ['=', '"']) (List.cons_ne_nil _ _) htail
  rw [Source.toList_bare, escapeValue_append hname, if_neg hhead, Source.toList_inQuotes]
  simpa using hclose

/-- **A quoted value stays in its quotes**, behind a backslash. -/
theorem escapeValue_inQuotes {name value : String} (hname : '=' ∉ name.toList) :
    escapeValue (Source.inQuotes name value).toList =
      (Source.inQuotes name ("\\" ++ value)).toList := by
  have hclose := closeQuote_concat (name.toList ++ '=' :: '"' :: '\\' :: value.toList)
  rw [Source.toList_inQuotes, escapeValue_append hname, if_pos List.head?_cons,
    Source.toList_inQuotes]
  simpa using hclose

theorem unquote_append (a b : List Char) : unquote (a ++ b) = unquote a ++ unquote b :=
  List.filter_append a b

/-- Nothing is taken from a text without quotes. -/
theorem unquote_eq_self {text : List Char} (h : '"' ∉ text) : unquote text = text := by
  refine List.filter_eq_self.2 fun c hc => ?_
  rw [bne_iff_ne]
  exact ne_of_mem_of_not_mem hc h

/-- **A quoted value is left bare**, when the quotes around it are the only ones. -/
theorem unquote_inQuotes {name value : String} (hname : '"' ∉ name.toList)
    (hvalue : '"' ∉ value.toList) :
    unquote (Source.inQuotes name value).toList = (Source.bare name value).toList := by
  have hopen : unquote ['=', '"'] = ['='] := by decide
  have hclose : unquote ['"'] = [] := by decide
  have hparts : (Source.inQuotes name value).toList =
      name.toList ++ ['=', '"'] ++ value.toList ++ ['"'] := by simp [Source.toList_inQuotes]
  rw [hparts, unquote_append, unquote_append, unquote_append, hopen, hclose, unquote_eq_self hname,
    unquote_eq_self hvalue, Source.toList_bare]
  simp

/-- **A quoted value that opens with the delimiter is put behind a backslash**: the first quote of
the text is the one before the value. -/
theorem escapeQuoted_inQuotes {d : Delimiters} {name value : String} (hname : '"' ∉ name.toList)
    (hvalue : d.start.toList <+: value.toList) :
    escapeQuoted d (Source.inQuotes name value).toList =
      (Source.inQuotes name ("\\" ++ value)).toList := by
  obtain ⟨rest, hrest⟩ := hvalue
  have hfront : '"' ∉ name.toList ++ ['='] := by simpa using hname
  have hfirst := replaceFirst_append hfront d.start.toList ('"' :: '\\' :: d.start.toList)
    (rest ++ ['"'])
  rw [Source.toList_inQuotes, Source.toList_inQuotes, String.toList_append, ← hrest]
  simpa [escapeQuoted, Mark.char] using hfirst

end SyntaxError

/-! ## A backslash in front of the value -/

/-- What is put in front of a value hides none of its delimiters. -/
theorem Delimiters.IsPotentialExpression.infixes_behind {d : Delimiters} {value : String}
    (h : d.IsPotentialExpression value.toList) (marks : String) :
    d.start.toList <:+: (marks ++ value).toList ∧ d.stop.toList <:+: (marks ++ value).toList := by
  have hinfix : value.toList <:+: (marks ++ value).toList := by
    rw [String.toList_append]
    exact (List.suffix_append _ _).isInfix
  exact ⟨h.infixes.1.trans hinfix, h.infixes.2.trans hinfix⟩

namespace Attribute

variable {g : Grammar} {a : Attribute} {source : String}

/-- **A backslash in front of a value that holds an expression** is an escape if the value opens
with the delimiter, and stays in the value if not. -/
theorem normalize_backslash {value : String} (hvalue : a.value = "\\" ++ value)
    (hshows : Source.Shows g.delimiters source.toList)
    (hpot : g.delimiters.IsPotentialExpression value.toList) :
    (g.delimiters.start.toList <+: value.toList → a.normalize g source = .ok ⟨value, true⟩) ∧
      (¬ g.delimiters.start.toList <+: value.toList →
        a.normalize g source = .ok ⟨a.value, false⟩) := by
  have hlist : a.value.toList = '\\' :: value.toList := by simp [hvalue]
  have hescape := Delimiters.isPotentialExpression_backslash_iff g.usable (w := value.toList)
  constructor
  · intro hstart
    have hfits : (Reading.escaped value.toList).Fits g.delimiters a.value.toList source.toList :=
      ⟨hshows, hlist ▸ hescape.2 ⟨hstart, hpot⟩, hlist, hstart⟩
    rw [normalize_of_fits g a source hfits, Reading.outcome, String.ofList_toList]
  · intro hstart
    have hfits : Reading.plain.Fits g.delimiters a.value.toList source.toList :=
      .inr fun h => hstart (hescape.1 (hlist ▸ h)).1
    rw [normalize_of_fits g a source hfits, Reading.outcome, String.ofList_toList]

/-- **A quoted value behind a backslash is the text after it**, when that opens an expression. -/
theorem normalize_inQuotes_backslash {name value : String} (ha : a.value = "\\" ++ value)
    (hname : '=' ∉ name.toList) (hpot : g.delimiters.IsPotentialExpression value.toList)
    (hstart : g.delimiters.start.toList <+: value.toList) :
    a.normalize g (Source.inQuotes name a.value) = .ok ⟨value, true⟩ := by
  have hholds := hpot.infixes_behind "\\"
  rw [← ha] at hholds
  exact (normalize_backslash ha (Source.shows_inQuotes hname hholds.1 hholds.2) hpot).1 hstart

/-! ## The suggestions for a quoted expression -/

/-- **A quoted expression is refused**, with the bare spelling and the escaped one. -/
theorem normalize_inQuotes_of_full {name : String} (hname : '=' ∉ name.toList)
    (hquote : '"' ∉ name.toList) (hvalue : '"' ∉ a.value.toList)
    (hfull : g.delimiters.IsFullExpression a.value.toList) :
    a.normalize g (Source.inQuotes name a.value) = .error
      (.ambiguousQuoted (Source.inQuotes name a.value) (Source.bare name a.value)
        (Source.inQuotes name ("\\" ++ a.value))) := by
  have hinfixes := hfull.isPotentialExpression.infixes
  have hfits : Reading.ambiguous.Fits g.delimiters a.value.toList
      (Source.inQuotes name a.value).toList :=
    ⟨Source.shows_inQuotes hname hinfixes.1 hinfixes.2, Source.quoted_inQuotes hname a.value, hfull⟩
  rw [normalize_of_fits g a _ hfits, Reading.outcome, SyntaxError.ofQuoted,
    SyntaxError.unquote_inQuotes hquote hvalue,
    SyntaxError.escapeQuoted_inQuotes hquote (hfull.start_prefix g.usable), String.ofList_toList,
    String.ofList_toList, String.ofList_toList]

/-- **A bare expression is a binding.** -/
theorem normalize_bare_of_full {name : String} (hname : '=' ∉ name.toList)
    (hvalue : '"' ∉ a.value.toList) (hfull : g.delimiters.IsFullExpression a.value.toList) :
    a.normalize g (Source.bare name a.value) = .ok ⟨a.value, false⟩ := by
  have hfits : Reading.binding.Fits g.delimiters a.value.toList
      (Source.bare name a.value).toList :=
    ⟨(Source.shows_bare_iff hname).2 hfull.isPotentialExpression.infixes,
      Source.not_quoted_bare hname hvalue, hfull⟩
  rw [normalize_of_fits g a _ hfits, Reading.outcome, String.ofList_toList]

/-- **What becomes of the spellings suggested for a quoted expression**: the error suggests the bare
spelling and the escaped one, the bare one is accepted as the expression, and the escaped one as the
text of the author. -/
theorem normalize_ambiguous_suggestions {name : String} (hname : '=' ∉ name.toList)
    (hquote : '"' ∉ name.toList) (hvalue : '"' ∉ a.value.toList) (hfull : g.isFull a.value = true) :
    let bare := Source.bare name a.value
    let escaped := Source.inQuotes name ("\\" ++ a.value)
    let ambiguity := SyntaxError.ambiguousQuoted (Source.inQuotes name a.value) bare escaped
    let bound : Attribute := { a with source := bare }
    let literal : Attribute := { a with value := "\\" ++ a.value, source := escaped }
    (a.normalize g (Source.inQuotes name a.value) = .error ambiguity ∧
        ambiguity.suggestions = [bare, escaped]) ∧
      (bound.normalize g bound.source = .ok ⟨a.value, false⟩ ∧
        NormalizedValue.kind g ⟨a.value, false⟩ = .expression) ∧
      (literal.normalize g literal.source = .ok ⟨a.value, true⟩ ∧
        NormalizedValue.kind g ⟨a.value, true⟩ = .escapedLiteral) := by
  have hshape := Grammar.isFullChars_iff.1 hfull
  have hstart := hshape.start_prefix g.usable
  intro bare escaped ambiguity bound literal
  refine ⟨⟨normalize_inQuotes_of_full hname hquote hvalue hshape, rfl⟩, ⟨?_, ?_⟩, ?_, ?_⟩
  · exact normalize_bare_of_full (a := bound) hname hvalue hshape
  · exact NormalizedValue.kind_eq_expression_iff.2 ⟨rfl, hshape⟩
  · exact normalize_inQuotes_backslash (a := literal) rfl hname hshape.isPotentialExpression hstart
  · exact NormalizedValue.kind_eq_escapedLiteral_iff.2 rfl

/-- The suggestions for an expression that holds its delimiters once more. -/
theorem normalize_ambiguous_suggestions_nested :
    let quoted : Attribute := ⟨"title", "{{a}{b}}", "title=\"{{a}{b}}\"", none⟩
    let bound : Attribute := ⟨"title", "{{a}{b}}", "title={{a}{b}}", none⟩
    let literal : Attribute := ⟨"title", "\\{{a}{b}}", "title=\"\\{{a}{b}}\"", none⟩
    let ambiguity := SyntaxError.ambiguousQuoted quoted.source bound.source literal.source
    quoted.normalize Grammar.braces quoted.source = .error ambiguity ∧
      ambiguity.suggestions = [bound.source, literal.source] ∧
      bound.normalize Grammar.braces bound.source = .ok ⟨quoted.value, false⟩ ∧
      literal.normalize Grammar.braces literal.source = .ok ⟨quoted.value, true⟩ := by
  obtain ⟨⟨herror, hboth⟩, ⟨hbound, -⟩, hliteral, -⟩ := @normalize_ambiguous_suggestions
    Grammar.braces ⟨"title", "{{a}{b}}", "title=\"{{a}{b}}\"", none⟩ "title" (by decide) (by decide)
    (by decide) (by decide)
  exact ⟨herror, hboth, hbound, hliteral⟩

/-! ## The suggestion for an unresolved value -/

/-- An unresolved value is shown to hold an expression, and the error is that of the source text. -/
theorem of_normalize_eq_unresolved {raw escaped : String}
    (h : a.normalize g source = .error (.unresolved raw escaped)) :
    Source.Shows g.delimiters source.toList ∧ g.delimiters.IsPotentialExpression a.value.toList ∧
      escaped = String.ofList (SyntaxError.escapeValue source.toList) := by
  obtain ⟨r, hr⟩ := g.exists_applies a.value.toList source.toList
  rw [normalize_of_applies g a source hr] at h
  cases r with
  | unresolved =>
    cases h
    exact ⟨hr.of_unresolved.1, hr.of_unresolved.2, rfl⟩
  | plain | binding | escaped | selfClosed | ambiguous => cases h

/-- **What becomes of the spelling suggested for an unresolved value**: the error suggests it alone,
and it is accepted — as the text of the author if the value opens with the delimiter, and with the
backslash left in front if not. -/
theorem normalize_suggestion {name : String} (hname : '=' ∉ name.toList)
    (hvalue : '"' ∉ a.value.toList)
    (hsource : source = Source.bare name a.value ∨ source = Source.inQuotes name a.value)
    {raw escaped : String} (h : a.normalize g source = .error (.unresolved raw escaped)) :
    let suggested := Source.inQuotes name ("\\" ++ a.value)
    let applied : Attribute := { a with value := "\\" ++ a.value, source := suggested }
    (SyntaxError.unresolved raw escaped).suggestions = [suggested] ∧
      (g.delimiters.start.toList <+: a.value.toList →
        applied.normalize g suggested = .ok ⟨a.value, true⟩) ∧
      (¬ g.delimiters.start.toList <+: a.value.toList →
        applied.normalize g suggested = .ok ⟨"\\" ++ a.value, false⟩) := by
  obtain ⟨-, hpot, rfl⟩ := of_normalize_eq_unresolved h
  have hspelled : SyntaxError.escapeValue source.toList =
      (Source.inQuotes name ("\\" ++ a.value)).toList := by
    rcases hsource with rfl | rfl
    · exact SyntaxError.escapeValue_bare hname hvalue
    · exact SyntaxError.escapeValue_inQuotes hname
  have hholds := hpot.infixes_behind "\\"
  have hshows := Source.shows_inQuotes hname hholds.1 hholds.2
  refine ⟨?_, normalize_backslash rfl hshows hpot⟩
  rw [SyntaxError.suggestions, hspelled, String.ofList_toList]

/-- The suggestion for an expression with text behind it. -/
theorem normalize_suggestion_text_behind :
    let a : Attribute := { name := "title", value := "{a}b", source := "title={a}b" }
    let applied : Attribute := { a with value := "\\{a}b", source := "title=\"\\{a}b\"" }
    ∃ raw escaped, a.normalize Grammar.braces a.source = .error (.unresolved raw escaped) ∧
      (SyntaxError.unresolved raw escaped).suggestions = [applied.source] ∧
      applied.normalize Grammar.braces applied.source = .ok ⟨"{a}b", true⟩ := by
  have herror : Attribute.normalize ⟨"title", "{a}b", "title={a}b", none⟩ Grammar.braces
      "title={a}b" = .error (.unresolved "title={a}b" "title=\"\\{a}b\"") := by rfl
  have hsource : "title={a}b" = Source.bare "title" "{a}b" := by decide
  obtain ⟨hone, hescape, -⟩ := normalize_suggestion (by decide) (by decide) (.inl hsource) herror
  exact ⟨_, _, herror, hone, hescape (by decide)⟩

/-- The suggestion for an expression with text in front of it keeps its backslash. -/
theorem normalize_suggestion_text_in_front :
    let a : Attribute := { name := "title", value := "a{b}", source := "title=\"a{b}\"" }
    let applied : Attribute := { a with value := "\\a{b}", source := "title=\"\\a{b}\"" }
    a.normalize Grammar.braces a.source = .error (.unresolved a.source applied.source) ∧
      applied.normalize Grammar.braces applied.source = .ok ⟨"\\a{b}", false⟩ :=
  ⟨rfl, rfl⟩

end Attribute

end TemplateAttr
