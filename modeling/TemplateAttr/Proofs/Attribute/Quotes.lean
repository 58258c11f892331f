import TemplateAttr.Proofs.Attribute.Outcome

/-!
# Proofs/Attribute/Quotes — quotes refuse a value, or they change nothing

The bare and the quoted spelling of a value show the same delimiters, so a literal and an escape are
read alike in both.  The two readings that make an expression ask for a value without quotes.  What
is left to a quoted value is the outcome of the bare one, or an error
(`normalize_bare_of_inQuotes`).
-/

namespace TemplateAttr

/-! ## Readings of the two spellings -/

namespace Reading

variable {d : Delimiters} {name value : String}

/-- A literal or an escape in quotes is one without them. -/
theorem fits_bare_of_inQuotes (hd : d.isUsable = true) (hname : '=' ∉ name.toList) {r : Reading}
    (hr : r.Fits d value.toList (Source.inQuotes name value).toList) (hrefused : r ≠ .ambiguous) :
    r.Fits d value.toList (Source.bare name value).toList := by
  have hshows : Source.Shows d (Source.inQuotes name value).toList ↔
      Source.Shows d (Source.bare name value).toList :=
    (Source.shows_inQuotes_iff hd hname).trans (Source.shows_bare_iff hname).symm
  have hquoted := Source.quoted_inQuotes hname value
  cases r with
  | plain => exact hr.imp_left (mt hshows.2)
  | escaped w => exact ⟨hshows.1 hr.1, hr.2⟩
  | binding => exact absurd hquoted hr.2.1
  | selfClosed w => exact absurd hquoted hr.2.1
  | ambiguous => exact absurd rfl hrefused
  | unresolved => exact hr

end Reading

/-! ## Outcomes of the two spellings -/

namespace Attribute

variable {g : Grammar} {name : String}

/-- Of an attribute only the value is read. -/
theorem normalize_congr {a b : Attribute} (h : a.value = b.value) (source : String) :
    a.normalize g source = b.normalize g source := by
  rw [normalize, normalize, reading, reading, h]

/-- **A quoted value that is accepted is accepted without its quotes, as the same**, and it is no
expression: the quotes show a full expression, which is refused.  So the two spellings of a value
agree, or the quoted one is refused. -/
theorem normalize_bare_of_inQuotes {quoted bare : Attribute} (hname : '=' ∉ name.toList)
    (hsame : bare.value = quoted.value) {n : NormalizedValue}
    (h : quoted.normalize g (Source.inQuotes name quoted.value) = .ok n) :
    bare.normalize g (Source.bare name bare.value) = .ok n ∧ n.kind g ≠ .expression := by
  rw [normalize_congr hsame, hsame]
  refine ⟨?_, fun hkind => ?_⟩
  · obtain ⟨r, hr⟩ := g.exists_applies quoted.value.toList
      (Source.inQuotes name quoted.value).toList
    rw [normalize_of_applies g quoted _ hr] at h
    cases r with
    | plain | escaped =>
      have hbare := Reading.fits_bare_of_inQuotes g.usable hname (hr.fits nofun) nofun
      exact (normalize_of_fits g quoted _ hbare).trans h
    | binding | selfClosed => exact absurd (Source.quoted_inQuotes hname _) (hr.fits nofun).2.1
    | ambiguous | unresolved => cases h
  · rcases exists_expression_iff.1 ⟨n, h, hkind⟩ with ⟨-, hquoted, -⟩ | ⟨hshows, hfull⟩
    · exact hquoted (Source.quoted_inQuotes hname _)
    · have hpot := hfull.isPotentialExpression
      exact hshows ((Source.shows_inQuotes_iff g.usable hname).2 hpot.infixes)

/-- An escape means the same in quotes and without them, also in front of a slash. -/
theorem normalize_bare_of_inQuotes_escape :
    let quoted : Attribute := ⟨"title", "\\{x}/", "title=\"\\{x}/\"", none⟩
    let bare : Attribute := ⟨"title", "\\{x}/", "title=\\{x}/", none⟩
    quoted.normalize Grammar.braces quoted.source = .ok ⟨"{x}/", true⟩ ∧
      bare.normalize Grammar.braces bare.source = .ok ⟨"{x}/", true⟩ ∧
      NormalizedValue.kind Grammar.braces ⟨"{x}/", true⟩ ≠ .expression := by
  have hok : Attribute.normalize ⟨"title", "\\{x}/", "title=\"\\{x}/\"", none⟩ Grammar.braces
      (Source.inQuotes "title" "\\{x}/") = .ok ⟨"{x}/", true⟩ := by rfl
  have hbare := @normalize_bare_of_inQuotes Grammar.braces "title" _
    ⟨"title", "\\{x}/", "title=\\{x}/", none⟩ (by decide) rfl _ hok
  exact ⟨hok, hbare⟩

end Attribute

end TemplateAttr
