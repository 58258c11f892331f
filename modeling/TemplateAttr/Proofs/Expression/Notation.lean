import TemplateAttr.Expression.Grammar
import TemplateAttr.Pattern.Literal

/-!
# Proofs/Expression/Notation — the notations of usable delimiters are read piece by piece

    ^  start  [^…]+  stop  $          ^  [^…]?  start  [^…]+  stop  [^…]*  $

The two notations are rows of **pieces**: an anchor, a quoted text, a run of characters within a
line.  Each piece is read wherever a part may begin, and leaves the machine where a part may begin
(`Reads`), so a row of pieces is read as the row of their parts (`Reads.append`) whatever the
delimiters hold.  Hence both notations are read, and to known patterns (`readChars_fullNotation`,
`readChars_potentialNotation`), and usable delimiters have a grammar when these patterns are within
the limit (`ofDelimiters_eq_ok_iff`).
-/

namespace TemplateAttr

namespace Pattern

namespace ReadState

/-- The state in the middle of a row of parts, outside any group and under no flags. -/
def inRow (parts : List (Nested Pattern)) (mode : ReadMode) : ReadState where
  group := ⟨{}, false, [], (parts.map fun p => ⟨some p.value, p.depth⟩).reverse⟩
  outer := []
  names := []
  mode := mode

theorem start_eq_inRow : start = inRow [] .ready := rfl

/-- One more part at the end of the row. -/
theorem push_inRow (row : List (Nested Pattern)) (mode : ReadMode) (p : Pattern) (depth : Nat) :
    { inRow row mode with group := (inRow row mode).group.push p depth, mode := .ready } =
      inRow (row ++ [⟨p, depth⟩]) .ready := by
  simp [inRow, GroupRead.push]

/-- The last part of the row repeated. -/
theorem repeatLast_inRow (row : List (Nested Pattern)) (mode : ReadMode) (p : Nested Pattern)
    (least : Nat) (more : Option Nat) :
    (inRow (row ++ [p]) mode).repeatLast least more =
      .ok (inRow (row ++ [⟨p.value.iterate least more, p.depth + 1⟩]) .repeated) := by
  simp [inRow, repeatLast, GroupRead.repeatLast, Except.map]

/-- The row with a text pushed, one part for each of its characters. -/
theorem pushLiteral_inRow (row : List (Nested Pattern)) (mode : ReadMode) (text : List Char) :
    (inRow row mode).pushLiteral text =
      inRow (row ++ (literalParts text).map (⟨·, 0⟩)) (if text.isEmpty then mode else .ready) := by
  simp [inRow, pushLiteral, Function.comp_def]

/-! ## Pieces -/

/-- **A piece of a notation**: wherever a part may begin it is read as its parts, and then a part
may begin again.  Its parts are not nested deep. -/
structure Reads (text : List Char) (parts : List (Nested Pattern)) : Prop where
  foldlM : ∀ row mode, (inRow row mode).MayBegin →
    ∃ mode', (inRow (row ++ parts) mode').MayBegin ∧
      text.foldlM step (inRow row mode) = .ok (inRow (row ++ parts) mode')
  depth_lt : ∀ p ∈ parts, p.depth < maxDepth

/-- **Pieces one after another are read as their parts one after another.** -/
theorem Reads.append {text text' : List Char} {parts parts' : List (Nested Pattern)}
    (h : Reads text parts) (h' : Reads text' parts') : Reads (text ++ text') (parts ++ parts') where
  foldlM row mode hmode := by
    obtain ⟨mode₁, hmode₁, hread⟩ := h.foldlM row mode hmode
    obtain ⟨mode₂, hmode₂, hread'⟩ := h'.foldlM (row ++ parts) mode₁ hmode₁
    refine ⟨mode₂, by rwa [← List.append_assoc], ?_⟩
    rw [List.foldlM_append, hread, ← List.append_assoc]
    exact hread'
  depth_lt p hp := (List.mem_append.1 hp).elim (h.depth_lt p) (h'.depth_lt p)

/-- A mark that adds one part is a piece. -/
theorem reads_mark {c : Char} {p : Pattern} (hc : c ≠ '?')
    (hbegin : ∀ s : ReadState, s.begin c = .ok (s.push p)) : Reads [c] [⟨p, 0⟩] where
  foldlM row mode hmode := by
    refine ⟨.ready, .inl rfl, ?_⟩
    rw [List.foldlM_cons, step_of_mayBegin hmode hc, hbegin]
    exact congrArg Except.ok (push_inRow row mode p 0)
  depth_lt := by simp [maxDepth]

theorem reads_textStart : Reads ['^'] [⟨textStart, 0⟩] :=
  reads_mark (by decide) fun _ => rfl

theorem reads_textEnd : Reads ['$'] [⟨textEnd, 0⟩] :=
  reads_mark (by decide) fun _ => rfl

/-- **A quoted text is a piece**, whatever it holds. -/
theorem reads_quoteChars (text : List Char) :
    Reads (quoteChars text) ((literalParts text).map (⟨·, 0⟩)) where
  foldlM row mode hmode := by
    refine ⟨if text.isEmpty then mode else .ready, ?_, ?_⟩
    · cases text with
      | nil => simpa [MayBegin, inRow] using hmode
      | cons c rest => exact .inl rfl
    · rw [foldlM_quoteChars hmode rfl, pushLiteral_inRow]
  depth_lt := by simp [literalParts, maxDepth]

/-- The class of the characters within a line, read as their set. -/
theorem foldlM_inLineNotation (row : List (Nested Pattern)) {mode : ReadMode}
    (hmode : (inRow row mode).MayBegin) :
    Delimiters.inLineNotation.foldlM step (inRow row mode) =
      .ok (inRow (row ++ [⟨chars Grammar.inLine, 2⟩]) .ready) := by
  rw [← push_inRow row mode]
  rcases hmode with h | h <;> obtain rfl : mode = _ := h <;> rfl

/-- **A run of characters within a line is a piece**, `op` being the mark of its repetition. -/
theorem reads_run {op : Char} {least : Nat} {more : Option Nat}
    (hop : ∀ s : ReadState, s.begin op = s.repeatLast least more) :
    Reads (Delimiters.inLineNotation ++ [op])
      [⟨repeated (chars Grammar.inLine) least more, 3⟩] where
  foldlM row mode hmode := by
    refine ⟨.repeated, .inr rfl, ?_⟩
    rw [List.foldlM_append, foldlM_inLineNotation row hmode]
    change (inRow (row ++ [⟨chars Grammar.inLine, 2⟩]) .ready).begin op >>= _ = _
    rw [hop, repeatLast_inRow]
    rfl
  depth_lt := by simp [maxDepth]

/-! ## Whole notations -/

/-- What a row of parts amounts to at the end of the text. -/
theorem content_inRow (parts : List (Nested Pattern)) (mode : ReadMode) :
    (inRow parts mode).group.content =
      ⟨sequence (parts.map (·.value)), rowDepth (parts.map (·.depth)).reverse⟩ := by
  simp [inRow, GroupRead.content, GroupRead.branch, choices, choice, rowDepth, Function.comp_def,
    List.filterMap_map]

/-- **A piece that is a whole text is read as the sequence of its parts.** -/
theorem Reads.readChars {text : List Char} {parts : List (Nested Pattern)} (h : Reads text parts) :
    readChars text = .ok (sequence (parts.map (·.value))) := by
  obtain ⟨mode, hmode, hread⟩ := h.foldlM [] .ready (.inl rfl)
  have hdepth : ¬ maxDepth < rowDepth (parts.map (·.depth)).reverse := by
    refine Nat.not_lt.2 (rowDepth_le (n := maxDepth - 1) fun d hd => ?_)
    obtain ⟨p, hp, rfl⟩ := List.mem_map.1 (List.mem_reverse.1 hd)
    exact Nat.le_pred_of_lt (h.depth_lt p hp)
  have houter : (inRow parts mode).outer = [] := rfl
  rw [Pattern.readChars, start_eq_inRow, hread]
  change (inRow parts mode).finish = _
  rcases hmode with hm | hm <;>
    simp [finish, show (inRow parts mode).mode = _ from hm, houter, content_inRow, hdepth]

end ReadState

end Pattern

namespace Delimiters

open Pattern Pattern.ReadState

/-- The pattern of full expressions. -/
def fullPattern (d : Delimiters) : Pattern :=
  sequence (.textStart :: (literalParts d.start.toList ++
    .repeated (.chars Grammar.inLine) 1 none :: (literalParts d.stop.toList ++ [.textEnd])))

/-- The pattern of potential expressions. -/
def potentialPattern (d : Delimiters) : Pattern :=
  sequence (.textStart :: .repeated (.chars Grammar.inLine) 0 (some 1) ::
    (literalParts d.start.toList ++ .repeated (.chars Grammar.inLine) 1 none ::
      (literalParts d.stop.toList ++ [.repeated (.chars Grammar.inLine) 0 none, .textEnd])))

theorem reads_plus : Reads (inLineNotation ++ ['+'])
    [⟨.repeated (.chars Grammar.inLine) 1 none, 3⟩] := reads_run fun _ => rfl

theorem reads_star : Reads (inLineNotation ++ ['*'])
    [⟨.repeated (.chars Grammar.inLine) 0 none, 3⟩] := reads_run fun _ => rfl

theorem reads_option : Reads (inLineNotation ++ ['?'])
    [⟨.repeated (.chars Grammar.inLine) 0 (some 1), 3⟩] := reads_run fun _ => rfl

/-- **The notation of full expressions is read**, whatever the delimiters. -/
theorem readChars_fullNotation (d : Delimiters) : readChars d.fullNotation = .ok d.fullPattern := by
  have hpieces := reads_textStart.append ((reads_quoteChars d.start.toList).append
    (reads_plus.append ((reads_quoteChars d.stop.toList).append reads_textEnd)))
  have htext : d.fullNotation = ['^'] ++ (quoteChars d.start.toList ++
      (inLineNotation ++ ['+'] ++ (quoteChars d.stop.toList ++ ['$']))) := by
    simp [fullNotation]
  rw [htext, hpieces.readChars]
  simp [fullPattern, Function.comp_def]

/-- **The notation of potential expressions is read**, whatever the delimiters. -/
theorem readChars_potentialNotation (d : Delimiters) :
    readChars d.potentialNotation = .ok d.potentialPattern := by
  have hpieces := reads_textStart.append (reads_option.append
    ((reads_quoteChars d.start.toList).append (reads_plus.append
      ((reads_quoteChars d.stop.toList).append (reads_star.append reads_textEnd)))))
  have htext : d.potentialNotation = ['^'] ++ (inLineNotation ++ ['?'] ++
      (quoteChars d.start.toList ++ (inLineNotation ++ ['+'] ++
        (quoteChars d.stop.toList ++ (inLineNotation ++ ['*'] ++ ['$']))))) := by
    simp [potentialNotation]
  rw [htext, hpieces.readChars]
  simp [potentialPattern, Function.comp_def]

/-- **Whether the patterns of the delimiters are within a limit**, if there is one. -/
def fitsIn (d : Delimiters) (limit : Option Nat) : Bool :=
  d.fullPattern.fitsIn limit && d.potentialPattern.fitsIn limit

/-- Without a limit they always are. -/
theorem fitsIn_none (d : Delimiters) : d.fitsIn none = true := rfl

end Delimiters

namespace Grammar

/-- The pattern of a grammar for full expressions is that of its delimiters. -/
theorem full_eq (g : Grammar) : g.full = g.delimiters.fullPattern :=
  Except.ok.inj (g.full_read.symm.trans g.delimiters.readChars_fullNotation)

/-- …and so is the one for potential expressions. -/
theorem potential_eq (g : Grammar) : g.potential = g.delimiters.potentialPattern :=
  Except.ok.inj (g.potential_read.symm.trans g.delimiters.readChars_potentialNotation)

/-- A grammar is known by its delimiters. -/
theorem eq_of_delimiters_eq {g g' : Grammar} (h : g.delimiters = g'.delimiters) : g = g' := by
  have hfull : g.full = g'.full := by rw [full_eq, full_eq, h]
  have hpotential : g.potential = g'.potential := by rw [potential_eq, potential_eq, h]
  obtain ⟨d, full, potential, _, _, _⟩ := g
  subst h hfull hpotential
  rfl

variable {d : Delimiters} {limit : Option Nat}

/-- Delimiters that are not usable have no grammar. -/
theorem ofDelimiters_of_not_usable (h : ¬ d.isUsable = true) :
    ofDelimiters d limit = .error (.unusable d) := by
  rw [ofDelimiters, dif_neg h]

/-- **Usable delimiters have a grammar** if their patterns are within the limit. -/
theorem exists_ofDelimiters (h : d.isUsable = true) (hfits : d.fitsIn limit = true) :
    ∃ g, ofDelimiters d limit = .ok g ∧ g.delimiters = d := by
  obtain ⟨hfull, hpotential⟩ := Bool.and_eq_true_iff.1 hfits
  unfold ofDelimiters
  rw [dif_pos h]
  split
  · exact ⟨_, rfl, rfl⟩
  · next hnone =>
    exact absurd (Pattern.compileChars_eq_ok_iff.2 ⟨d.readChars_potentialNotation, hpotential⟩)
      (hnone _ _ (Pattern.compileChars_eq_ok_iff.2 ⟨d.readChars_fullNotation, hfull⟩))

/-- …and are refused as malformed if they are not. -/
theorem ofDelimiters_of_not_fitsIn (h : d.isUsable = true) (hfits : ¬ d.fitsIn limit = true) :
    ofDelimiters d limit = .error .malformed := by
  unfold ofDelimiters
  rw [dif_pos h]
  split
  · next hfull hpotential =>
    obtain ⟨hfull, hfullFits⟩ := Pattern.compileChars_eq_ok_iff.1 hfull
    obtain ⟨hpotential, hpotentialFits⟩ := Pattern.compileChars_eq_ok_iff.1 hpotential
    obtain rfl := Except.ok.inj (hfull.symm.trans d.readChars_fullNotation)
    obtain rfl := Except.ok.inj (hpotential.symm.trans d.readChars_potentialNotation)
    exact absurd (Bool.and_eq_true_iff.2 ⟨hfullFits, hpotentialFits⟩) hfits
  · rfl

/-- **Delimiters give a grammar when it is one with these delimiters**, and they are within the
limit. -/
theorem ofDelimiters_eq_ok_iff {g : Grammar} :
    ofDelimiters d limit = .ok g ↔ g.delimiters = d ∧ d.fitsIn limit = true := by
  constructor
  · intro h
    have husable : d.isUsable = true := Decidable.byContradiction fun hnot => by
      rw [ofDelimiters_of_not_usable hnot] at h
      cases h
    have hfits : d.fitsIn limit = true := Decidable.byContradiction fun hnot => by
      rw [ofDelimiters_of_not_fitsIn husable hnot] at h
      cases h
    obtain ⟨g', hg', hd⟩ := exists_ofDelimiters husable hfits
    obtain rfl : g' = g := Except.ok.inj (hg'.symm.trans h)
    exact ⟨hd, hfits⟩
  · rintro ⟨rfl, hfits⟩
    obtain ⟨g', hg', hd⟩ := exists_ofDelimiters g.usable hfits
    rw [hg', eq_of_delimiters_eq hd]

end Grammar

end TemplateAttr
