import Mathlib.Logic.ExistsUnique
import TemplateAttr.Attribute.Value
import TemplateAttr.Proofs.Attribute.Source
import TemplateAttr.Proofs.Expression.Shape

/-!
# Proofs/Attribute/Reading — the six readings of a value part all cases

`readValue` asks its questions one after another.  `Reading.Applies` says when a reading applies
without any order among them, in terms of the two texts alone, and `readValue_eq_iff` holds the one
to the other.

Two cases take an argument.  The backslash of an escape is no delimiter, so a value that begins with
it is no full expression.  And a value that opens an expression and closes it before a slash leaves
a full expression without the slash: were the delimiters to meet, the slash itself would have been
the text between them, and the value a full expression (`exists_selfClosed`).
-/

namespace TemplateAttr

namespace Reading

/-- When a reading applies, for the five that have a condition of their own. -/
def Fits (d : Delimiters) (value source : List Char) : Reading → Prop
  | binding => Source.Shows d source ∧ ¬ Source.Quoted source ∧ d.IsFullExpression value
  | selfClosed w => Source.Shows d source ∧ ¬ Source.Quoted source ∧ ¬ d.IsFullExpression value ∧
      value = w ++ ['/'] ∧ d.IsFullExpression w
  | escaped w => Source.Shows d source ∧ d.IsPotentialExpression value ∧ value = '\\' :: w ∧
      d.start.toList <+: w
  | ambiguous => Source.Shows d source ∧ Source.Quoted source ∧ d.IsFullExpression value
  | plain => ¬ Source.Shows d source ∨ ¬ d.IsPotentialExpression value
  | unresolved => False

/-- **When a reading applies**: on its own condition, and the unresolved one in every other case. -/
def Applies (d : Delimiters) (value source : List Char) (r : Reading) : Prop :=
  r.Fits d value source ∨ r = unresolved ∧ ∀ r' : Reading, ¬ r'.Fits d value source

theorem Applies.fits {d : Delimiters} {value source : List Char} {r : Reading}
    (h : r.Applies d value source) (hr : r ≠ unresolved) : r.Fits d value source :=
  h.resolve_right fun hnone => hr hnone.1

/-- Only what is shown to hold an expression stays unresolved. -/
theorem Applies.of_unresolved {d : Delimiters} {value source : List Char}
    (h : unresolved.Applies d value source) :
    Source.Shows d source ∧ d.IsPotentialExpression value := by
  obtain ⟨-, hnone⟩ := h.resolve_left id
  have hplain := not_or.1 (hnone .plain)
  exact ⟨Classical.not_not.1 hplain.1, Classical.not_not.1 hplain.2⟩

end Reading

/-! ## Shapes next to a mark -/

namespace Delimiters

variable {d : Delimiters} (h : d.isUsable = true)

include h

theorem IsFullExpression.start_prefix {text : List Char} (hfull : d.IsFullExpression text) :
    d.start.toList <+: text :=
  ((isFullExpression_iff h).1 hfull).2.1

/-- No delimiter begins with the backslash of an escape. -/
theorem not_start_prefix_backslash (w : List Char) : ¬ d.start.toList <+: '\\' :: w := by
  have hstart := (isUsable_iff.1 h).1
  have hmark : Mark.backslash.char ∉ d.start.toList :=
    char_notMem_of_isUsableSymbol hstart (by decide)
  intro hprefix
  obtain ⟨c, rest, hc⟩ := List.exists_cons_of_ne_nil (ne_nil_of_isUsableSymbol hstart)
  rw [hc, List.cons_prefix_cons] at hprefix
  rw [hc, hprefix.1] at hmark
  exact hmark List.mem_cons_self

/-- What begins with the delimiter does not begin with an escape of it. -/
theorem not_escape_prefix {text : List Char} (hstart : d.start.toList <+: text) :
    ¬ '\\' :: d.start.toList <+: text := by
  rintro ⟨rest, rfl⟩
  exact not_start_prefix_backslash h _ hstart

/-- **A backslash counts as the one character in front**, so what follows it has to open with the
delimiter. -/
theorem isPotentialExpression_backslash_iff {w : List Char} :
    d.IsPotentialExpression ('\\' :: w) ↔ d.start.toList <+: w ∧ d.IsPotentialExpression w := by
  rw [isPotentialExpression_iff h, isPotentialExpression_iff h, inLine_cons]
  constructor
  · rintro ⟨⟨-, hline⟩, p, q, hp, hq, hstart, hstop⟩
    obtain rfl | rfl := Nat.le_one_iff_eq_zero_or_eq_one.1 hp
    · exact absurd hstart (not_start_prefix_backslash h w)
    · obtain ⟨k, rfl⟩ := Nat.exists_eq_succ_of_ne_zero (by omega : q ≠ 0)
      exact ⟨hstart, hline, 0, k, Nat.zero_le 1, by omega, hstart, hstop⟩
  · rintro ⟨hstart, hline, p, q, -, hq, -, hstop⟩
    exact ⟨⟨by decide, hline⟩, 1, q + 1, Nat.le_refl 1, by omega, hstart, hstop⟩

/-- **A value that opens an expression, and closes it before a slash, leaves a full expression
without the slash** — unless it is one as it stands: where there is room for one character only
besides the delimiters, that one stands between them. -/
theorem exists_selfClosed {value : List Char} (hpot : d.IsPotentialExpression value)
    (hfull : ¬ d.IsFullExpression value) (hstart : d.start.toList <+: value)
    (hend : d.stop.toList ++ ['/'] <:+ value) :
    ∃ w, value = w ++ ['/'] ∧ d.IsFullExpression w := by
  have hline := ((isPotentialExpression_iff h).1 hpot).1
  obtain ⟨front, hfront⟩ := hend
  have hvalue : value = front ++ d.stop.toList ++ ['/'] := by rw [← hfront, List.append_assoc]
  have hlen : d.start.toList.length + d.stop.toList.length <
      (front ++ d.stop.toList).length := by
    refine Nat.lt_of_not_le fun hshort => ?_
    obtain ⟨c, m, t, -, hm, -, hmline, -, hshape⟩ := hpot
    have hcount := congrArg List.length (hvalue.symm.trans hshape)
    have hmid := List.length_pos_iff.2 hm
    simp only [List.length_append, List.length_singleton] at hcount hshort
    obtain rfl : c = [] := List.eq_nil_of_length_eq_zero (by omega)
    obtain rfl : t = [] := List.eq_nil_of_length_eq_zero (by omega)
    exact hfull ⟨m, hm, hmline, by simpa using hshape⟩
  refine ⟨front ++ d.stop.toList, hvalue, (isFullExpression_iff h).2 ⟨?_, ?_, ?_, hlen⟩⟩
  · rw [hvalue, inLine_append] at hline
    exact hline.1
  · rw [hvalue] at hstart
    exact List.prefix_of_prefix_length_le hstart (List.prefix_append _ _) (by omega)
  · exact List.suffix_append _ _

end Delimiters

/-- A full expression before a slash is a potential one. -/
theorem Delimiters.IsFullExpression.append_slash {d : Delimiters} {w : List Char}
    (h : d.IsFullExpression w) : d.IsPotentialExpression (w ++ ['/']) := by
  obtain ⟨m, hm, hline, rfl⟩ := h
  exact ⟨[], m, ['/'], by simp, hm, inLine_nil, hline, by simp [lineTerminators], by simp⟩

/-! ## The readings part all cases -/

namespace Grammar

variable (g : Grammar) {value source : List Char}

/-- A value that is settled is a literal. -/
theorem readValue_of_not_shows (h : ¬ Source.Shows g.delimiters source) :
    g.readValue value source = .plain := by
  rw [readValue, (Source.isSettled_iff g.usable).2 h, if_pos rfl]

/-- A full expression is a binding, unless it is quoted. -/
theorem readValue_of_full (h : Source.Shows g.delimiters source)
    (hfull : g.delimiters.IsFullExpression value) :
    g.readValue value source = if Source.isQuoted source then .ambiguous else .binding := by
  rw [readValue, (Source.isSettled_eq_false_iff g.usable).2 h, isFullChars_iff.2 hfull]
  rfl

/-- A value that is no full expression is read by what it holds. -/
theorem readValue_of_not_full (h : Source.Shows g.delimiters source)
    (hfull : ¬ g.delimiters.IsFullExpression value) :
    g.readValue value source =
      if g.isPotentialChars value then g.readPotential value source else .plain := by
  rw [readValue, (Source.isSettled_eq_false_iff g.usable).2 h,
    Bool.eq_false_iff.2 (mt isFullChars_iff.1 hfull)]
  rfl

/-- A reading that fits is the one taken. -/
theorem readValue_of_fits {r : Reading} (hr : r.Fits g.delimiters value source) :
    g.readValue value source = r := by
  cases r with
  | plain =>
    by_cases hshows : Source.Shows g.delimiters source
    · have hpot := hr.resolve_left (not_not_intro hshows)
      have hfull := mt Delimiters.IsFullExpression.isPotentialExpression hpot
      rw [readValue_of_not_full g hshows hfull, if_neg (mt isPotentialChars_iff.1 hpot)]
    · exact readValue_of_not_shows g hshows
  | binding =>
    obtain ⟨hshows, hquoted, hfull⟩ := hr
    rw [readValue_of_full g hshows hfull, if_neg (mt Source.isQuoted_iff.1 hquoted)]
  | escaped w =>
    obtain ⟨hshows, hpot, rfl, hstart⟩ := hr
    have hfull : ¬ g.delimiters.IsFullExpression ('\\' :: w) := fun hfull =>
      Delimiters.not_start_prefix_backslash g.usable w (hfull.start_prefix g.usable)
    rw [readValue_of_not_full g hshows hfull, if_pos (isPotentialChars_iff.2 hpot), readPotential]
    exact if_pos (List.isPrefixOf_iff_prefix.2 ((List.prefix_cons_inj _).2 hstart))
  | selfClosed w =>
    obtain ⟨hshows, hquoted, hfull, rfl, hw⟩ := hr
    have hopen := (hw.start_prefix g.usable).trans (List.prefix_append w ['/'])
    have hclose : g.delimiters.stop.toList ++ ['/'] <:+ w ++ ['/'] := by
      obtain ⟨m, -, -, rfl⟩ := hw
      exact ⟨g.delimiters.start.toList ++ m, by simp⟩
    rw [readValue_of_not_full g hshows hfull, if_pos (isPotentialChars_iff.2 hw.append_slash),
      readPotential, if_neg, if_pos]
    · rw [List.dropLast_concat]
    · simp only [Bool.and_eq_true, Bool.not_eq_true', List.isPrefixOf_iff_prefix,
        List.isSuffixOf_iff_suffix, Source.isQuoted_eq_false_iff]
      exact ⟨⟨hopen, hclose⟩, hquoted⟩
    · rw [List.isPrefixOf_iff_prefix]
      exact Delimiters.not_escape_prefix g.usable hopen
  | ambiguous =>
    obtain ⟨hshows, hquoted, hfull⟩ := hr
    rw [readValue_of_full g hshows hfull, if_pos (Source.isQuoted_iff.2 hquoted)]
  | unresolved => cases hr

/-- Some reading fits, or the value is unresolved. -/
theorem exists_fits_or_unresolved (g : Grammar) (value source : List Char) :
    (∃ r : Reading, r.Fits g.delimiters value source) ∨ g.readValue value source = .unresolved := by
  by_cases hshows : Source.Shows g.delimiters source
  case neg => exact .inl ⟨.plain, .inl hshows⟩
  by_cases hfull : g.delimiters.IsFullExpression value
  case pos =>
    by_cases hquoted : Source.Quoted source
    · exact .inl ⟨.ambiguous, hshows, hquoted, hfull⟩
    · exact .inl ⟨.binding, hshows, hquoted, hfull⟩
  by_cases hpot : g.delimiters.IsPotentialExpression value
  case neg => exact .inl ⟨.plain, .inr hpot⟩
  rw [readValue_of_not_full g hshows hfull, if_pos (isPotentialChars_iff.2 hpot), readPotential]
  split
  · next hescape =>
    obtain ⟨rest, rfl⟩ := List.isPrefixOf_iff_prefix.1 hescape
    exact .inl ⟨.escaped _, hshows, hpot, rfl, List.prefix_append _ rest⟩
  split
  · next hself =>
    simp only [Bool.and_eq_true, Bool.not_eq_true', List.isPrefixOf_iff_prefix,
      List.isSuffixOf_iff_suffix, Source.isQuoted_eq_false_iff] at hself
    obtain ⟨⟨hstart, hend⟩, hquoted⟩ := hself
    obtain ⟨w, rfl, hw⟩ := Delimiters.exists_selfClosed g.usable hpot hfull hstart hend
    exact .inl ⟨.selfClosed w, hshows, hquoted, hfull, rfl, hw⟩
  · exact .inr rfl

/-- **A value is read so when that reading applies.** -/
theorem readValue_eq_iff {r : Reading} :
    g.readValue value source = r ↔ r.Applies g.delimiters value source := by
  constructor
  · rintro rfl
    rcases exists_fits_or_unresolved g value source with ⟨r, hr⟩ | hnone
    · rw [readValue_of_fits g hr]
      exact .inl hr
    · refine .inr ⟨hnone, fun r hr => ?_⟩
      obtain rfl : r = .unresolved := (readValue_of_fits g hr).symm.trans hnone
      exact hr
  · rintro (hr | ⟨rfl, hnone⟩)
    · exact readValue_of_fits g hr
    · exact (exists_fits_or_unresolved g value source).resolve_left fun ⟨r, hr⟩ => hnone r hr

/-- Some reading applies. -/
theorem exists_applies (value source : List Char) :
    ∃ r : Reading, r.Applies g.delimiters value source :=
  ⟨_, g.readValue_eq_iff.1 rfl⟩

end Grammar

end TemplateAttr
