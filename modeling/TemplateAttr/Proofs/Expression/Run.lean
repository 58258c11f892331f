import TemplateAttr.Pattern.Literal

/-!
# Proofs/Expression/Run — what a row of parts covers, read off the text

Patterns are given their meaning by positions.  For a row of parts it is easier said by cutting the
text in two: `CoversAfter row before after` — in the text `before ++ after`, the row covers a
stretch right after `before`.  A part that stands for a text, a character or a run of characters
then moves what it covers from the second text to the first (`coversAfter_literal_iff`,
`coversAfter_chars_iff`, `coversAfter_run_iff`), and the positions are gone.
-/

namespace TemplateAttr

namespace Pattern

/-- **A row of parts covers a stretch right after `before`**, in the text `before ++ after`. -/
def CoversAfter (row : List Pattern) (before after : List Char) : Prop :=
  ∃ j, (sequence row).Spans (before ++ after) before.length j

/-- A row that begins at the start of the text matches where it covers a stretch from there. -/
theorem matches_textStart_iff {row : List Pattern} {text : List Char} :
    (sequence (textStart :: row)).Matches text ↔ CoversAfter row [] text := by
  constructor
  · rintro ⟨i, j, -, k, ⟨rfl, rfl⟩, h⟩
    exact ⟨j, h⟩
  · rintro ⟨j, h⟩
    exact ⟨0, j, Nat.zero_le _, 0, ⟨rfl, rfl⟩, h⟩

/-- A row matches where it covers a stretch somewhere. -/
theorem matches_iff_coversAfter {row : List Pattern} {text : List Char} :
    (sequence row).Matches text ↔
      ∃ before after, text = before ++ after ∧ CoversAfter row before after := by
  constructor
  · rintro ⟨i, j, hi, h⟩
    refine ⟨text.take i, text.drop i, (List.take_append_drop i text).symm, j, ?_⟩
    rwa [List.take_append_drop, List.length_take_of_le hi]
  · rintro ⟨before, after, rfl, j, h⟩
    exact ⟨before.length, j, by simp, h⟩

theorem coversAfter_nil {before after : List Char} : CoversAfter [] before after := ⟨_, rfl⟩

theorem coversAfter_textEnd_iff {before after : List Char} :
    CoversAfter [textEnd] before after ↔ after = [] := by
  constructor
  · rintro ⟨j, k, ⟨-, hend⟩, -⟩
    rw [List.length_append] at hend
    exact List.eq_nil_of_length_eq_zero (by omega)
  · rintro rfl
    exact ⟨_, _, ⟨rfl, by rw [List.append_nil]⟩, rfl⟩

/-- **A literal moves its text over.** -/
theorem coversAfter_literal_iff {part : List Char} {row : List Pattern} {before after : List Char} :
    CoversAfter (literalParts part ++ row) before after ↔
      ∃ rest, after = part ++ rest ∧ CoversAfter row (before ++ part) rest := by
  simp only [CoversAfter, spans_literal_iff, List.drop_left, List.append_assoc, List.length_append]
  constructor
  · rintro ⟨j, ⟨rest, rfl⟩, h⟩
    exact ⟨rest, rfl, j, h⟩
  · rintro ⟨rest, rfl, j, h⟩
    exact ⟨j, List.prefix_append part rest, h⟩

/-- Covering one character of a set. -/
theorem spans_chars_iff {s : CharSet} {before after : List Char} {j : Nat} :
    (chars s).Spans (before ++ after) before.length j ↔
      ∃ c rest, after = c :: rest ∧ s.mem c = true ∧ j = before.length + 1 := by
  simp only [Spans, List.getElem?_append_right (Nat.le_refl _), Nat.sub_self,
    ← List.head?_eq_getElem?]
  constructor
  · rintro ⟨rfl, c, hc, hmem⟩
    obtain ⟨rest, rfl⟩ := List.head?_eq_some_iff.1 hc
    exact ⟨c, rest, rfl, hmem, rfl⟩
  · rintro ⟨c, rest, rfl, hmem, rfl⟩
    exact ⟨rfl, c, rfl, hmem⟩

/-- **One character of a set moves over.** -/
theorem coversAfter_chars_iff {s : CharSet} {row : List Pattern} {before after : List Char} :
    CoversAfter (chars s :: row) before after ↔
      ∃ c rest, after = c :: rest ∧ s.mem c = true ∧ CoversAfter row (before ++ [c]) rest := by
  simp only [CoversAfter, sequence, Spans.eq_def _ (seq _ _), spans_chars_iff]
  constructor
  · rintro ⟨j, _, ⟨c, rest, rfl, hc, rfl⟩, hrow⟩
    exact ⟨c, rest, rfl, hc, j, by simpa using hrow⟩
  · rintro ⟨c, rest, rfl, hc, j, hrow⟩
    exact ⟨j, _, ⟨c, rest, rfl, hc, rfl⟩, by simpa using hrow⟩

/-- **A row within a row** is as good as its parts. -/
theorem coversAfter_sequence_iff {inner row : List Pattern} {before after : List Char} :
    CoversAfter (sequence inner :: row) before after ↔ CoversAfter (inner ++ row) before after := by
  have hspans : ∀ (text : List Char) (i j : Nat), (sequence (inner ++ row)).Spans text i j ↔
      ∃ k, (sequence inner).Spans text i k ∧ (sequence row).Spans text k j := by
    intro text i j
    induction inner generalizing i with
    | nil => simp [sequence, Spans]
    | cons p inner ih =>
      simp only [List.cons_append, sequence, Spans, ih]
      constructor
      · rintro ⟨k, hp, m, hinner, hrow⟩
        exact ⟨m, ⟨k, hp, hinner⟩, hrow⟩
      · rintro ⟨m, ⟨k, hp, hinner⟩, hrow⟩
        exact ⟨k, hp, m, hinner, hrow⟩
  simp only [CoversAfter, hspans]
  rfl

/-- A group covers what the pattern in it does. -/
theorem coversAfter_group_iff {p : Pattern} {row : List Pattern} {before after : List Char} :
    CoversAfter (group p :: row) before after ↔ CoversAfter (p :: row) before after := Iff.rfl

/-- One pattern or another covers what either of them does. -/
theorem coversAfter_alt_iff {p q : Pattern} {row : List Pattern} {before after : List Char} :
    CoversAfter (alt p q :: row) before after ↔
      CoversAfter (p :: row) before after ∨ CoversAfter (q :: row) before after := by
  simp only [CoversAfter, sequence, Spans, or_and_right, exists_or]

/-- **A choice covers what one of its patterns does.** -/
theorem coversAfter_choices_iff {ps row : List Pattern} (hne : ps ≠ []) {before after : List Char} :
    CoversAfter (choices ps :: row) before after ↔
      ∃ p ∈ ps, CoversAfter (p :: row) before after := by
  obtain ⟨p, ps, rfl⟩ := List.exists_cons_of_ne_nil hne
  induction ps generalizing p with
  | nil => simp [choices, choice]
  | cons q ps ih =>
    change CoversAfter (alt p (choices (q :: ps)) :: row) before after ↔ _
    rw [coversAfter_alt_iff, ih q (List.cons_ne_nil q ps)]
    simp

/-- So many characters of a set, one after another, are a stretch of that length.  The first one
moves over to what stands before, and the others start behind it. -/
theorem steps_chars_iff {s : CharSet} {n j : Nat} {before after : List Char} :
    Steps (Spans (before ++ after) (chars s)) n before.length j ↔
      ∃ m rest, after = m ++ rest ∧ m.length = n ∧ (∀ c ∈ m, s.mem c = true) ∧
        j = before.length + n := by
  induction n generalizing before after with
  | zero =>
    constructor
    · rintro rfl
      exact ⟨[], after, rfl, rfl, by simp, rfl⟩
    · rintro ⟨m, rest, -, -, -, rfl⟩
      rfl
  | succ n ih =>
    have hmove : ∀ c rest, Steps (Spans (before ++ c :: rest) (chars s)) n (before.length + 1) j ↔
        ∃ m rest', rest = m ++ rest' ∧ m.length = n ∧ (∀ d ∈ m, s.mem d = true) ∧
          j = before.length + 1 + n := by
      intro c rest
      simpa using @ih (before ++ [c]) rest
    constructor
    · rintro ⟨k, hstep, hrest⟩
      obtain ⟨c, rest, rfl, hc, rfl⟩ := spans_chars_iff.1 hstep
      obtain ⟨m, rest', rfl, rfl, hm, rfl⟩ := (hmove c rest).1 hrest
      refine ⟨c :: m, rest', rfl, rfl, ?_, by omega⟩
      exact fun d hd => (List.mem_cons.1 hd).elim (fun h => h ▸ hc) (hm d)
    · rintro ⟨m, rest, rfl, hlen, hm, rfl⟩
      obtain ⟨c, m, rfl⟩ := List.exists_cons_of_length_eq_add_one hlen
      refine ⟨before.length + 1, ?_, (hmove c (m ++ rest)).2 ⟨m, rest, rfl, ?_, ?_, by omega⟩⟩
      · exact spans_chars_iff.2 ⟨c, m ++ rest, rfl, hm c List.mem_cons_self, rfl⟩
      · exact Nat.succ.inj hlen
      · exact fun d hd => hm d (List.mem_cons_of_mem c hd)

/-- **A run of characters of a set moves over any stretch of them**, as long as asked. -/
theorem coversAfter_run_iff {s : CharSet} {least : Nat} {more : Option Nat} {row : List Pattern}
    {before after : List Char} :
    CoversAfter (repeated (chars s) least more :: row) before after ↔
      ∃ m rest, after = m ++ rest ∧ (∀ c ∈ m, s.mem c = true) ∧ least ≤ m.length ∧
        (∀ k, more = some k → m.length ≤ least + k) ∧ CoversAfter row (before ++ m) rest := by
  simp only [CoversAfter, List.append_assoc, List.length_append]
  constructor
  · rintro ⟨j, k, ⟨n, hmore, hsteps⟩, hrow⟩
    obtain ⟨m, rest, rfl, hlen, hm, rfl⟩ := steps_chars_iff.1 hsteps
    refine ⟨m, rest, rfl, hm, by omega, fun k hk => ?_, j, hlen ▸ hrow⟩
    have := hmore k hk
    omega
  · rintro ⟨m, rest, rfl, hm, hleast, hmore, j, hrow⟩
    refine ⟨j, before.length + m.length, ⟨m.length - least, fun k hk => ?_, ?_⟩, hrow⟩
    · have := hmore k hk
      omega
    · exact steps_chars_iff.2 ⟨m, rest, rfl, by omega, hm, by omega⟩

end Pattern

end TemplateAttr
