import TemplateAttr.Pattern.Meaning
import TemplateAttr.Pattern.Quote
import TemplateAttr.Pattern.Reader

/-!
# Pattern/Literal — a quoted text is read as itself

Wherever a part may begin, the machine reads a quoted text as one part for each of its characters
(`foldlM_quoteChars`): no backslash is lost, and no mark of the text takes on a meaning.  Such parts
in sequence cover exactly the places where the text stands (`spans_literal_iff`).
-/

namespace TemplateAttr

namespace Pattern

/-- The parts that stand for a text, one for each character. -/
def literalParts (text : List Char) : List Pattern := text.map fun c => .chars (.single c)

namespace ReadState

/-- The state with the parts of a text read, its last character last. -/
def pushLiteral (s : ReadState) (text : List Char) : ReadState :=
  { s with
    group :=
      { s.group with
        parts := ((literalParts text).map fun p => ⟨some p, 0⟩).reverse ++ s.group.parts }
    mode := if text.isEmpty then s.mode else .ready }

/-- Whether a part may begin: nothing is under way, or a repetition that is complete. -/
def MayBegin (s : ReadState) : Prop := s.mode = .ready ∨ s.mode = .repeated

/-- Where a part may begin, a character begins one, but `?` may belong to the repetition before. -/
theorem step_of_mayBegin {s : ReadState} (h : s.MayBegin) {c : Char} (hc : c ≠ '?') :
    s.step c = s.begin c := by
  rcases h with h | h <;> simp [step, h, hc]

/-- A quoted mark stands for itself. -/
theorem ofChar?_of_mark {c : Char} (h : c ∈ quotedMarks) :
    Escape.ofChar? c = some (.literal c) := by
  simp only [quotedMarks, List.mem_cons, List.not_mem_nil, or_false] at h
  rcases h with rfl | rfl | rfl | rfl | rfl | rfl | rfl | rfl | rfl | rfl | rfl | rfl | rfl | rfl |
    rfl | rfl | rfl | rfl | rfl <;> rfl

/-- A character that is no mark stands for itself. -/
theorem begin_of_not_mark (s : ReadState) {c : Char} (h : c ∉ quotedMarks) :
    s.begin c = .ok (s.pushSet (.single c)) := by
  unfold begin
  split <;> first | rfl | exact absurd h (by decide)

theorem pushSet_single (s : ReadState) (h : s.group.flags.caseless = false) (c : Char) :
    s.pushSet (.single c) = s.pushLiteral [c] := by
  simp [pushSet, push, GroupRead.push, MatchFlags.fold, h, pushLiteral, literalParts]

/-- A quoted character is read as one part. -/
theorem foldlM_quoteChar {s : ReadState} (hs : s.MayBegin)
    (h : s.group.flags.caseless = false) (c : Char) :
    (quoteChar c).foldlM step s = .ok (s.pushLiteral [c]) := by
  by_cases hc : c ∈ quotedMarks
  · have hb : s.step '\\' = .ok { s with mode := .escape } := step_of_mayBegin hs (by decide)
    simp only [quoteChar, List.contains_iff_mem, hc, if_true, List.foldlM_cons, hb,
      List.foldlM_nil]
    simp only [bind, Except.bind, step, ofChar?_of_mark hc]
    exact congrArg Except.ok (pushSet_single { s with mode := .escape } h c)
  · have hq : c ≠ '?' := by rintro rfl; exact hc (by decide)
    simp only [quoteChar, List.contains_iff_mem, hc, if_false, List.foldlM_cons,
      step_of_mayBegin hs hq, begin_of_not_mark s hc, List.foldlM_nil]
    rw [pushSet_single _ h]
    rfl

/-- **A quoted text is read as one part for each of its characters.** -/
theorem foldlM_quoteChars {s : ReadState} (hs : s.MayBegin)
    (h : s.group.flags.caseless = false) (text : List Char) :
    (quoteChars text).foldlM step s = .ok (s.pushLiteral text) := by
  induction text generalizing s with
  | nil => rfl
  | cons c rest ih =>
    have hready : (s.pushLiteral [c]).MayBegin := .inl rfl
    rw [quoteChars, List.flatMap_cons, List.foldlM_append, foldlM_quoteChar hs h]
    change (quoteChars rest).foldlM step (s.pushLiteral [c]) = _
    rw [ih hready h]
    simp [pushLiteral, literalParts]

end ReadState

/-- **The parts of a text cover the places where it stands.** -/
theorem spans_literal_iff {text part : List Char} {rest : List Pattern} {i j : Nat} :
    (sequence (literalParts part ++ rest)).Spans text i j ↔
      part <+: text.drop i ∧ (sequence rest).Spans text (i + part.length) j := by
  induction part generalizing i with
  | nil => simp [literalParts]
  | cons c part ih =>
    have hstep : (sequence (literalParts (c :: part) ++ rest)).Spans text i j ↔
        text[i]? = some c ∧ (sequence (literalParts part ++ rest)).Spans text (i + 1) j := by
      simp only [literalParts, List.map_cons, List.cons_append, sequence, Spans, CharSet.mem,
        beq_iff_eq, exists_eq_right]
      constructor
      · rintro ⟨_, ⟨rfl, hc⟩, h⟩
        exact ⟨hc, h⟩
      · rintro ⟨hc, h⟩
        exact ⟨_, ⟨rfl, hc⟩, h⟩
    rw [hstep, ih, ← and_assoc, Nat.add_right_comm, List.length_cons, Nat.add_assoc]
    refine and_congr_left fun _ => ?_
    by_cases hi : i < text.length
    · rw [List.drop_eq_getElem_cons hi, List.cons_prefix_cons, List.getElem?_eq_getElem hi]
      simp [eq_comm]
    · have hlen := Nat.le_of_not_lt hi
      simp [List.drop_eq_nil_of_le hlen, hlen]

end Pattern

end TemplateAttr
