import TemplateAttr.Proofs.Name.Case

/-!
# Proofs/Name/Boundary — boundaries of words by their neighbours

    t a b I n d e x        X M L H t t p
          ^                      ^

The scan finds a boundary by what it remembers of the characters it has passed.  Here a boundary is
told from three characters alone: the one before it, the one after it, and the next
(`isBoundary`).  `markBoundaries_eq` holds the two to each other.

The second kind of boundary lies behind the cursor, so what a scan will have written once it ends is
more than what it has written: `BoundaryScan.finalText` is kept by each step, and the steps run out.
-/

namespace TemplateAttr

/-! ## Boundaries by their neighbours -/

/-- **Whether a word begins at a character**, given the one before it and the one after it: at an
ASCII capital behind a small letter, and at the last of several capitals before an ASCII small
letter. -/
def isBoundary (before : Option Char) (c : Char) (after : Option Char) : Bool :=
  before.any isSmallOnly && c.isUpper ||
    before.any isCapitalOnly && isCapitalOnly c && after.any Char.isLower

/-- A mark, where there is to be one. -/
def markIf (marked : Bool) : List Char := if marked then ['-'] else []

/-- **The text with a `-` at every boundary**, given the character before it. -/
def markFrom (before : Option Char) : List Char → List Char
  | [] => []
  | c :: rest => markIf (isBoundary before c rest.head?) ++ c :: markFrom (some c) rest

/-- No word begins at a small letter of ASCII. -/
theorem isBoundary_of_isLower {c : Char} (h : c.isLower = true) (before after : Option Char) :
    isBoundary before c after = false := by
  have hupper : c.isUpper = false := Bool.eq_false_iff.2 (Char.not_isUpper_of_isLower h)
  simp [isBoundary, isCapitalOnly_of_ascii (ascii_of_isLower h), hupper]

/-! ## The scan -/

namespace BoundaryScan

/-- **What a scan remembers fits what it has passed.** -/
inductive Coherent (s : BoundaryScan) : Prop
  /-- It remembers the case of the character passed last. -/
  | passed (hsmall : s.lastSmall = s.behind.head?.any isSmallOnly)
      (hcapital : s.lastCapital = s.behind.head?.any isCapitalOnly)
  /-- It has put a mark behind itself, and takes the small letter ahead as passed. -/
  | marked (hsmall : s.lastSmall = true) (hcapital : s.lastCapital = false)
      (hahead : s.ahead.head?.any Char.isLower = true)

/-- Whether the character passed last still gets a mark: the next one shows it to begin a word. -/
def pending (s : BoundaryScan) : Bool :=
  s.lastCapital && s.lastTwoCapital && s.ahead.head?.any Char.isLower

/-- **The text as it will be once the scan ends.** -/
def finalText (s : BoundaryScan) : List Char :=
  s.behind.tail.reverse ++ markIf s.pending ++ s.behind.head?.toList ++
    markFrom s.behind.head? s.ahead

/-- A bound on the steps that are left. -/
def stepsLeft (s : BoundaryScan) : Nat := 2 * s.ahead.length + s.lastCapital.toNat

theorem exists_behind_of_any {s : BoundaryScan} {f : Char → Bool}
    (h : s.behind.head?.any f = true) : ∃ p before, s.behind = p :: before ∧ f p = true := by
  cases hbehind : s.behind with
  | nil => simp [hbehind] at h
  | cons p before => exact ⟨p, before, rfl, by simpa [hbehind] using h⟩

theorem reverse_behind (s : BoundaryScan) :
    s.behind.reverse = s.behind.tail.reverse ++ s.behind.head?.toList := by
  cases s.behind <;> simp

/-- **What a step can do** at the character under the cursor. -/
inductive Move (s : BoundaryScan) (c : Char) (rest : List Char) : BoundaryScan → Prop
  /-- A mark is put before the character, which is passed. -/
  | mark (hsmall : s.lastSmall = true) (hc : c.isUpper = true) :
    Move s c rest ⟨c :: '-' :: s.behind, rest, false, true, s.lastCapital⟩
  /-- A mark is put before the character passed last, and the cursor stays. -/
  | markBehind (hcapital : s.lastCapital = true) (htwo : s.lastTwoCapital = true)
      (hc : c.isLower = true) :
    Move s c rest ⟨insertBehind s.behind, c :: rest, true, false, s.lastCapital⟩
  /-- The character is passed. -/
  | pass (hsmall : (s.lastSmall && c.isUpper) = false)
      (hcapital : (s.lastCapital && s.lastTwoCapital && c.isLower) = false) :
    Move s c rest ⟨c :: s.behind, rest, isSmallOnly c, isCapitalOnly c, s.lastCapital⟩

variable {s : BoundaryScan} {c : Char} {rest : List Char}

theorem step_of_ahead_eq_nil (h : s.ahead = []) : s.step = s := by
  rw [step, h]

/-- **A step makes one of the moves.** -/
theorem move_step (h : s.ahead = c :: rest) : s.Move c rest s.step := by
  rw [step, h]
  simp only [Bool.and_assoc, isAlpha_and_isCapital, isAlpha_and_isSmall]
  by_cases hmark : (s.lastSmall && c.isUpper) = true
  · rw [if_pos hmark]
    rw [Bool.and_eq_true] at hmark
    exact .mark hmark.1 hmark.2
  rw [if_neg hmark]
  by_cases hbehind : (s.lastCapital && (s.lastTwoCapital && c.isLower)) = true
  · rw [if_pos hbehind]
    simp only [Bool.and_eq_true] at hbehind
    exact .markBehind hbehind.1 hbehind.2.1 hbehind.2.2
  · rw [if_neg hbehind]
    rw [← Bool.and_assoc] at hbehind
    exact .pass (Bool.eq_false_iff.2 hmark) (Bool.eq_false_iff.2 hbehind)

namespace Move

variable {s' : BoundaryScan}

/-- After a move the scan remembers what fits. -/
theorem coherent (h : s.Move c rest s') : s'.Coherent := by
  cases h with
  | mark hsmall hc =>
    have hascii := ascii_of_isUpper hc
    refine .passed ?_ ?_
    · simp [isSmallOnly_of_ascii hascii, Char.not_isLower_of_isUpper hc]
    · simp [isCapitalOnly_of_ascii hascii, hc]
  | markBehind hcapital htwo hc => exact .marked rfl rfl hc
  | pass hsmall hcapital => exact .passed rfl rfl

/-- A move takes one of the steps that are left. -/
theorem stepsLeft_lt (h : s.Move c rest s') (hahead : s.ahead = c :: rest) :
    s'.stepsLeft < s.stepsLeft := by
  cases h with
  | mark | pass =>
    have hlast := Bool.toNat_le (isCapitalOnly c)
    simp [stepsLeft, hahead]
    omega
  | markBehind hcapital => simp [stepsLeft, hahead, hcapital]

/-- **A move leaves the text as it will be**: what it writes was still to be written.  A small
letter gets no mark itself; a capital that is passed gets its mark when the next character is
seen. -/
theorem finalText_eq (h : s.Move c rest s') (hahead : s.ahead = c :: rest) (hs : s.Coherent) :
    s'.finalText = s.finalText := by
  cases h with
  | mark hsmall hc =>
    cases hs with
    | passed hlastSmall hlastCapital =>
      obtain ⟨p, before, hbehind, hp⟩ := exists_behind_of_any (hlastSmall.symm.trans hsmall)
      have hlast : s.lastCapital = false := by
        rw [hlastCapital, hbehind]
        exact isCapitalOnly_of_isSmallOnly hp
      have hboundary : isBoundary (some p) c rest.head? = true := by simp [isBoundary, hp, hc]
      simp [finalText, pending, markFrom, markIf, hahead, hbehind, hlast, hboundary]
    | marked _ _ hlower =>
      rw [hahead] at hlower
      exact absurd hlower (Char.not_isLower_of_isUpper hc)
  | markBehind hcapital htwo hc =>
    cases hs with
    | passed _ hlastCapital =>
      obtain ⟨p, before, hbehind, -⟩ := exists_behind_of_any (hlastCapital.symm.trans hcapital)
      simp [finalText, pending, insertBehind, markIf, hahead, hbehind, hcapital, htwo, hc]
    | marked _ hlastCapital =>
      rw [hcapital] at hlastCapital
      cases hlastCapital
  | pass hsmall hcapital =>
    have hpending : s.pending = false := by simpa [pending, hahead] using hcapital
    have hboundary : isBoundary s.behind.head? c rest.head? =
        (isCapitalOnly c && s.lastCapital && rest.head?.any Char.isLower) := by
      cases hs with
      | passed hlastSmall hlastCapital =>
        rw [isBoundary, ← hlastSmall, ← hlastCapital, hsmall, Bool.false_or,
          Bool.and_comm s.lastCapital]
      | marked _ hlastCapital hlower =>
        rw [hahead] at hlower
        rw [isBoundary_of_isLower hlower, hlastCapital, Bool.and_false, Bool.false_and]
    rw [finalText, finalText, hpending, hahead, markFrom, hboundary]
    simp [pending, reverse_behind, markIf]

end Move

/-! ### Steps and runs -/

/-- After a step the scan remembers what fits. -/
theorem Coherent.step (hs : s.Coherent) : s.step.Coherent := by
  cases hahead : s.ahead with
  | nil => rwa [step_of_ahead_eq_nil hahead]
  | cons c rest => exact (move_step hahead).coherent

/-- A step leaves the text as it will be. -/
theorem finalText_step (hs : s.Coherent) : s.step.finalText = s.finalText := by
  cases hahead : s.ahead with
  | nil => rw [step_of_ahead_eq_nil hahead]
  | cons c rest => exact (move_step hahead).finalText_eq hahead hs

/-- **A run leaves the text as it will be.** -/
theorem finalText_run (n : Nat) (hs : s.Coherent) : (s.run n).finalText = s.finalText := by
  induction n generalizing s with
  | zero => rfl
  | succ n ih => rw [run, ih hs.step, finalText_step hs]

/-- A scan that has nothing ahead stays as it is. -/
theorem run_of_ahead_eq_nil (n : Nat) (h : s.ahead = []) : s.run n = s := by
  induction n with
  | zero => rfl
  | succ n ih => rw [run, step_of_ahead_eq_nil h, ih]

/-- **A run of as many steps as are left ends the scan.** -/
theorem ahead_run {n : Nat} (h : s.stepsLeft ≤ n) : (s.run n).ahead = [] := by
  induction n generalizing s with
  | zero =>
    have hlength : s.ahead.length = 0 := by rw [stepsLeft] at h; omega
    exact List.eq_nil_of_length_eq_zero hlength
  | succ n ih =>
    cases hahead : s.ahead with
    | nil => rw [run_of_ahead_eq_nil _ hahead, hahead]
    | cons c rest =>
      have hlt := (move_step hahead).stepsLeft_lt hahead
      exact ih (by omega)

/-- A scan that has ended has written the text. -/
theorem text_eq_finalText (h : s.ahead = []) : s.text = s.finalText := by
  simp [text, finalText, pending, markIf, markFrom, h, reverse_behind]

end BoundaryScan

/-- **A mark is put where a word begins, and nowhere else.** -/
theorem markBoundaries_eq (text : List Char) : markBoundaries text = markFrom none text := by
  have hstart : (BoundaryScan.start text).Coherent := .passed rfl rfl
  have hend : ((BoundaryScan.start text).run (2 * text.length)).ahead = [] :=
    BoundaryScan.ahead_run (Nat.le_refl _)
  rw [markBoundaries, BoundaryScan.text_eq_finalText hend, BoundaryScan.finalText_run _ hstart]
  rfl

end TemplateAttr
