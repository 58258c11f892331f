/-!
# Text/Find — a part of a text, and the text around it
-/

namespace TemplateAttr

/-- Whether a part stands anywhere in a text. -/
def occursIn (part : List Char) : List Char → Bool
  | [] => part.isEmpty
  | c :: rest => part.isPrefixOf (c :: rest) || occursIn part rest

/-- The text before the first `mark` and the text after it, if there is one. -/
def splitAtFirst (mark : Char) : List Char → Option (List Char × List Char)
  | [] => none
  | c :: rest =>
    if c = mark then some ([], rest)
    else (splitAtFirst mark rest).map fun (before, after) => (c :: before, after)

/-- The text with the first occurrence of a part replaced. -/
def replaceFirst (part new : List Char) : List Char → List Char
  | [] => if part.isEmpty then new else []
  | c :: rest =>
    if part.isPrefixOf (c :: rest) then new ++ (c :: rest).drop part.length
    else c :: replaceFirst part new rest

/-- A part is found in a text when it stands somewhere in it. -/
theorem occursIn_iff {part text : List Char} : occursIn part text = true ↔ part <:+: text := by
  induction text with
  | nil => simp [occursIn]
  | cons c rest ih =>
    rw [occursIn, Bool.or_eq_true, ih, List.isPrefixOf_iff_prefix, List.infix_cons_iff]

/-- A text is cut at a character that does not stand before. -/
theorem splitAtFirst_append {mark : Char} {before : List Char} (h : mark ∉ before)
    (after : List Char) : splitAtFirst mark (before ++ mark :: after) = some (before, after) := by
  induction before with
  | nil => simp [splitAtFirst]
  | cons c rest ih =>
    rw [List.mem_cons, not_or] at h
    simp [splitAtFirst, Ne.symm h.1, ih h.2]

/-- **A text is split at the first `mark`**: none stands before it. -/
theorem splitAtFirst_eq_some_iff {mark : Char} {text before after : List Char} :
    splitAtFirst mark text = some (before, after) ↔
      text = before ++ mark :: after ∧ mark ∉ before := by
  constructor
  · intro h
    induction text generalizing before with
    | nil => cases h
    | cons c rest ih =>
      by_cases hc : c = mark
      · rw [splitAtFirst, if_pos hc] at h
        cases h
        simp [hc]
      · rw [splitAtFirst, if_neg hc] at h
        obtain ⟨⟨front, _⟩, hfront, heq⟩ := Option.map_eq_some_iff.1 h
        cases heq
        obtain ⟨rfl, hnone⟩ := ih hfront
        simp [Ne.symm hc, hnone]
  · rintro ⟨rfl, h⟩
    exact splitAtFirst_append h after

/-- What is replaced is the part that opens with the first `mark`. -/
theorem replaceFirst_append {mark : Char} {before : List Char} (h : mark ∉ before)
    (part new after : List Char) :
    replaceFirst (mark :: part) new (before ++ mark :: part ++ after) = before ++ new ++ after := by
  induction before with
  | nil => simp [replaceFirst]
  | cons c rest ih =>
    rw [List.mem_cons, not_or] at h
    have hhead : (mark :: part).isPrefixOf (c :: (rest ++ mark :: part ++ after)) = false := by
      simp [List.isPrefixOf, h.1]
    rw [List.cons_append, List.cons_append, replaceFirst, hhead, if_neg Bool.false_ne_true, ih h.2]
    rfl

end TemplateAttr
