import TemplateAttr.Proofs.Attribute.Suggestion

/-!
# Proofs/Attribute/Layers — a value made plain a second time

    \\{x}   ──stays──▸   \\{x}
     \{x}   ──one backslash──▸   {x}, escaped
      {x}/  ──one slash──▸   {x}

Making a value plain takes off one layer at most.  A slash that belonged to the tag is gone for
good: what is left is a full expression, and stays as it is (`normalize_normalized`).  A backslash
escapes the expression right behind it and no other backslash, so of two of them neither is taken
off (`normalize_layers`).
-/

namespace TemplateAttr

namespace Attribute

variable {g : Grammar} {a : Attribute} {source : String}

/-! ## A plain value stays -/

/-- **What is made of a value without an escape is made of it again**, from the same source text.
Without the slash of its tag a value is a full expression, and still not quoted. -/
theorem normalize_normalized {n : NormalizedValue} (h : a.normalize g source = .ok n)
    (hplain : n.escaped = false) :
    Attribute.normalize { a with value := n.value } g source = .ok n := by
  obtain ⟨r, hr⟩ := g.exists_applies a.value.toList source.toList
  have houtcome := h
  rw [normalize_of_applies g a source hr] at houtcome
  cases r with
  | plain | binding =>
    cases houtcome
    rw [String.ofList_toList] at h ⊢
    exact h
  | escaped w =>
    cases houtcome
    cases hplain
  | selfClosed w =>
    cases houtcome
    obtain ⟨hshows, hquoted, -, -, hw⟩ := hr.fits nofun
    have hfits : Reading.binding.Fits g.delimiters (String.ofList w).toList source.toList := by
      rw [String.toList_ofList]
      exact ⟨hshows, hquoted, hw⟩
    rw [normalize_of_fits g { a with value := String.ofList w } source hfits, Reading.outcome,
      String.ofList_toList]
  | ambiguous | unresolved => cases houtcome

/-- The slash of the tag is taken off once, also when the delimiters hold slashes themselves. -/
theorem normalize_normalized_slashes :
    ∃ g, Grammar.ofDelimiters ⟨"[/", "/]"⟩ = .ok g ∧
      Attribute.normalize ⟨"title", "[/x/]/", "title=[/x/]/", none⟩ g "title=[/x/]/" =
        .ok ⟨"[/x/]", false⟩ ∧
      Attribute.normalize ⟨"title", "[/x/]", "title=[/x/]/", none⟩ g "title=[/x/]/" =
        .ok ⟨"[/x/]", false⟩ := by
  have husable : Delimiters.isUsable ⟨"[/", "/]"⟩ = true := by decide
  have hshort : Delimiters.fitsIn ⟨"[/", "/]"⟩ (some Pattern.sizeLimit) = true :=
    Delimiters.fitsIn_of_bytes_le (by decide)
  obtain ⟨g, hg, hd⟩ := Grammar.exists_ofDelimiters husable hshort
  have hshows : Source.Shows ⟨"[/", "/]"⟩ "title=[/x/]/".toList :=
    (Source.isSettled_eq_false_iff husable).1 (by decide)
  have hquoted : ¬ Source.Quoted "title=[/x/]/".toList :=
    Source.isQuoted_eq_false_iff.1 (by decide)
  have hvalue : ¬ Delimiters.IsFullExpression ⟨"[/", "/]"⟩ "[/x/]/".toList := fun hfull =>
    absurd ((Delimiters.isFullExpression_iff husable).1 hfull).2.2.1 (by decide)
  have hfull : Delimiters.IsFullExpression ⟨"[/", "/]"⟩ "[/x/]".toList :=
    (Delimiters.isFullExpression_iff husable).2
      ⟨by simp [InLine, lineTerminators], by decide, by decide, by decide⟩
  have hfits : (Reading.selfClosed "[/x/]".toList).Fits g.delimiters "[/x/]/".toList
      "title=[/x/]/".toList := by
    rw [hd]
    exact ⟨hshows, hquoted, hvalue, by decide, hfull⟩
  have hok : Attribute.normalize ⟨"title", "[/x/]/", "title=[/x/]/", none⟩ g "title=[/x/]/" =
      .ok ⟨"[/x/]", false⟩ := by
    rw [normalize_of_fits g ⟨"title", "[/x/]/", "title=[/x/]/", none⟩ "title=[/x/]/" hfits,
      Reading.outcome, String.ofList_toList]
  have hagain := normalize_normalized hok rfl
  exact ⟨g, hg, hok, hagain⟩

/-! ## One backslash, one layer -/

/-- **A backslash in front of an expression is taken off, and of two neither is**, whether the value
is quoted or not and whatever stands behind the expression: either spelling shows what the value
behind the backslashes holds. -/
theorem normalize_layers {name value : String} (hname : '=' ∉ name.toList)
    (hstart : g.delimiters.start.toList <+: value.toList) (hpot : g.isPotential value = true)
    {spell : String → String} (hspell : spell = Source.bare name ∨ spell = Source.inQuotes name) :
    (a.value = "\\" ++ value → a.normalize g (spell a.value) = .ok ⟨value, true⟩) ∧
      (a.value = "\\\\" ++ value →
        a.normalize g (spell a.value) = .ok ⟨"\\\\" ++ value, false⟩) := by
  have hshape := Grammar.isPotentialChars_iff.1 hpot
  have hshows (marks : String) :
      Source.Shows g.delimiters (spell (marks ++ value)).toList := by
    have hholds := hshape.infixes_behind marks
    rcases hspell with rfl | rfl
    · exact (Source.shows_bare_iff hname).2 hholds
    · exact (Source.shows_inQuotes_iff g.usable hname).2 hholds
  constructor
  · intro ha
    exact (normalize_backslash ha (ha ▸ hshows "\\") hshape).1 hstart
  · intro ha
    have hone : a.value = "\\" ++ ("\\" ++ value) := by
      have hmarks : "\\\\" ++ value = ("\\" ++ "\\") ++ value := congrArg (· ++ value) (by decide)
      exact ha.trans (hmarks.trans String.append_assoc)
    have hinner : g.delimiters.IsPotentialExpression ("\\" ++ value).toList := by
      rw [String.toList_append]
      exact (Delimiters.isPotentialExpression_backslash_iff g.usable).2 ⟨hstart, hshape⟩
    have houter : ¬ g.delimiters.start.toList <+: ("\\" ++ value).toList := by
      rw [String.toList_append]
      exact Delimiters.not_start_prefix_backslash g.usable _
    rw [← ha]
    exact (normalize_backslash hone (ha ▸ hshows "\\\\") hinner).2 houter

/-- The backslashes in front of two expressions and a slash. -/
theorem normalize_layers_twice :
    let one : Attribute := ⟨"title", "\\{a}{b}/", "title=\\{a}{b}/", none⟩
    let two : Attribute := ⟨"title", "\\\\{a}{b}/", "title=\"\\\\{a}{b}/\"", none⟩
    one.normalize Grammar.braces one.source = .ok ⟨"{a}{b}/", true⟩ ∧
      two.normalize Grammar.braces two.source = .ok ⟨two.value, false⟩ := by
  intro one two
  have hpot : Grammar.braces.isPotential "{a}{b}/" = true := by decide
  constructor
  · exact (@normalize_layers Grammar.braces one "title" "{a}{b}/" (by decide) (by decide) hpot _
      (.inl rfl)).1 (by decide)
  · exact (@normalize_layers Grammar.braces two "title" "{a}{b}/" (by decide) (by decide) hpot _
      (.inr rfl)).2 (by decide)

end Attribute

end TemplateAttr
