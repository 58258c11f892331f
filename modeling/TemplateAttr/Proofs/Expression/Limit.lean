import TemplateAttr.Proofs.Expression.Notation

/-!
# Proofs/Expression/Limit — how long delimiters may be

A symbol adds one state for each of its bytes to the patterns of the delimiters, in either direction
(`sizeIn_literal_append`); all else in them is the same for all delimiters.  So the two sizes are
known from the bytes of the symbols (`size_fullPattern`, `size_potentialPattern`), and delimiters
are within a limit when they are not too long (`fitsIn_iff`).
-/

namespace TemplateAttr

namespace Pattern

/-! ## Rows of parts -/

/-- A row is to be run when its end is. -/
theorem isVoid_sequence_append (parts : List Pattern) {rest : List Pattern}
    (h : (sequence rest).isVoid = false) : (sequence (parts ++ rest)).isVoid = false := by
  induction parts with
  | nil => exact h
  | cons p parts ih => rw [List.cons_append, sequence, isVoid, ih, Bool.and_false]

/-- A row that ends with the end of the text is anchored there. -/
theorem isAnchoredAtEnd_sequence_append (parts : List Pattern) {rest : List Pattern}
    (h : (sequence rest).isAnchoredAtEnd = true) :
    (sequence (parts ++ rest)).isAnchoredAtEnd = true := by
  induction parts with
  | nil => exact h
  | cons p parts ih => simp [sequence, isAnchoredAtEnd, ih]

theorem sizeIn_sequence_singleton (p : Pattern) :
    (sequence [p]).sizeIn false = p.sizeIn false := by
  simp [sequence, sizeIn, isVoid]

/-- **The size of a row is that of its first part and that of the others.** -/
theorem sizeIn_sequence_cons {p : Pattern} {rest : List Pattern} (hp : p.isVoid = false)
    (hrest : (sequence rest).isVoid = false) :
    (sequence (p :: rest)).sizeIn false = p.sizeIn false + (sequence rest).sizeIn false := by
  ext <;> simp [sequence, sizeIn, hp, hrest, choiceBytes]

/-- A character has one state for each of its bytes. -/
theorem sizeIn_single (c : Char) :
    (chars (.single c)).sizeIn false = .both (stateBytes c.utf8Size) := by
  ext <;> simp [sizeIn, CharSet.ranges, Size.ofRanges, choiceBytes]

/-- **A text in front has one state for each of its bytes.** -/
theorem sizeIn_literal_append {text : List Char} {rest : List Pattern}
    (h : (sequence rest).isVoid = false) :
    (sequence (literalParts text ++ rest)).sizeIn false =
      .both (stateBytes (String.ofList text).utf8ByteSize) + (sequence rest).sizeIn false := by
  induction text with
  | nil => ext <;> simp [literalParts, stateBytes]
  | cons c text ih =>
    change (sequence (.chars (.single c) :: (literalParts text ++ rest))).sizeIn false = _
    rw [sizeIn_sequence_cons rfl (isVoid_sequence_append _ h), ih, sizeIn_single,
      String.ofList_cons, String.utf8ByteSize_append, String.utf8ByteSize_singleton]
    ext <;> simp [stateBytes, Nat.mul_add, Nat.add_assoc]

end Pattern

namespace Delimiters

open Pattern

/-- **How long delimiters are**, in bytes. -/
def bytes (d : Delimiters) : Nat := d.start.utf8ByteSize + d.stop.utf8ByteSize

/-! ## The size of the two patterns -/

/-- The characters within a line, by their code points. -/
theorem ranges_inLine :
    Grammar.inLine.ranges = [(0, 9), (11, 12), (14, 0x2027), (0x202A, lastCodePoint)] := by
  simp +decide [Grammar.inLine, lineTerminators, CharSet.ranges, joinRanges, gapsFrom,
    List.mergeSort_of_pairwise]

/-- They take many states, being of one byte up to four. -/
theorem sizeIn_inLine : (chars Grammar.inLine).sizeIn false = ⟨544, 1340⟩ := by
  rw [sizeIn, ranges_inLine]
  rfl

/-- A run of characters within a line. -/
theorem sizeIn_run (least : Nat) (more : Option Nat) :
    (repeated (.chars Grammar.inLine) least more).sizeIn false =
      loopSize least more false + .times (copies least more) ⟨544, 1340⟩ := by
  rw [sizeIn, sizeIn_inLine]
  rfl

/-- **A run between the symbols has one state more for each byte of these.** -/
theorem sizeIn_enclosed (d : Delimiters) {rest : List Pattern}
    (h : (sequence rest).isVoid = false) :
    (sequence (literalParts d.start.toList ++ .repeated (.chars Grammar.inLine) 1 none ::
        (literalParts d.stop.toList ++ rest))).sizeIn false =
      .both (stateBytes d.bytes) + ⟨584, 1380⟩ + (sequence rest).sizeIn false := by
  have hstop : (sequence (literalParts d.stop.toList ++ rest)).isVoid = false :=
    isVoid_sequence_append _ h
  rw [sizeIn_literal_append (by rfl), sizeIn_sequence_cons rfl hstop, sizeIn_run,
    sizeIn_literal_append h, String.ofList_toList, String.ofList_toList]
  ext <;> simp [bytes, loopSize, copies, stateBytes, choiceBytes] <;> omega

/-- **The size of the pattern of full expressions.** -/
theorem size_fullPattern (d : Delimiters) :
    d.fullPattern.size = ⟨776, 1508⟩ + .both (stateBytes d.bytes) := by
  have hstart : d.fullPattern.isAnchoredAtStart = true := rfl
  have hend : d.fullPattern.isAnchoredAtEnd = true :=
    isAnchoredAtEnd_sequence_append [_] <| isAnchoredAtEnd_sequence_append _ <|
      isAnchoredAtEnd_sequence_append [_] <| isAnchoredAtEnd_sequence_append _ rfl
  rw [size, hstart, hend, fullPattern, sizeIn_sequence_cons rfl (isVoid_sequence_append _ rfl),
    sizeIn_enclosed d rfl, sizeIn_sequence_singleton]
  ext <;> simp [sizeIn, leadBytes, stateBytes, choiceBytes] <;> omega

/-- …and that of potential ones. -/
theorem size_potentialPattern (d : Delimiters) :
    d.potentialPattern.size = ⟨1976, 4300⟩ + .both (stateBytes d.bytes) := by
  have hstart : d.potentialPattern.isAnchoredAtStart = true := rfl
  have hend : d.potentialPattern.isAnchoredAtEnd = true :=
    isAnchoredAtEnd_sequence_append [_, _] <| isAnchoredAtEnd_sequence_append _ <|
      isAnchoredAtEnd_sequence_append [_] <| isAnchoredAtEnd_sequence_append _ rfl
  rw [size, hstart, hend, potentialPattern, sizeIn_sequence_cons rfl rfl,
    sizeIn_sequence_cons rfl (isVoid_sequence_append _ rfl), sizeIn_run, sizeIn_enclosed d rfl,
    sizeIn_sequence_cons rfl rfl, sizeIn_run, sizeIn_sequence_singleton]
  ext <;> simp [sizeIn, loopSize, copies, leadBytes, stateBytes, choiceBytes] <;> omega

/-- **Delimiters are within a limit when they are not too long for it.** -/
theorem fitsIn_iff {d : Delimiters} {limit : Nat} :
    d.fitsIn (some limit) = true ↔ 4300 + stateBytes d.bytes ≤ limit := by
  simp only [fitsIn, Pattern.fitsIn, Option.all_some, Size.within, size_fullPattern,
    size_potentialPattern, Size.add_forward, Size.add_backward, Size.both_forward,
    Size.both_backward, Bool.and_eq_true, decide_eq_true_eq]
  omega

/-- Delimiters of up to 327,000 bytes are within the usual limit. -/
theorem fitsIn_of_bytes_le {d : Delimiters} (h : d.bytes ≤ 327000) :
    d.fitsIn (some sizeLimit) = true := by
  rw [fitsIn_iff, sizeLimit, stateBytes]
  omega

/-- …and none of more than 327,680 bytes are, since the states of their symbols alone take more. -/
theorem not_fitsIn_of_lt_bytes {d : Delimiters} (h : 327680 < d.bytes) :
    ¬ d.fitsIn (some sizeLimit) = true := by
  rw [fitsIn_iff, sizeLimit, stateBytes]
  omega

end Delimiters

end TemplateAttr
