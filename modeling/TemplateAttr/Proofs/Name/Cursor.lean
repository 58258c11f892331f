import TemplateAttr.Proofs.Name.Boundary

/-!
# Proofs/Name/Cursor — the scan stays within its text, and ends

    behind  ahead              text      cursor
     c b a   d e     ──▸     a b c d e     3

A scan keeps two stacks around its cursor, so it has no places to go wrong in.  Here the same scan
runs on one text that it writes into (`CursorScan`): a step reads a place, steps back from a place
and puts a mark at a place, and fails where the place is not there.  No step fails
(`step?_afterSteps`), since a scan that remembers capitals has passed them (`Grounded`), and the
steps run out, since each takes one of those that are left (`Move.stepsLeft_lt`).

The measure of the second fact is not the distance from the cursor to the end, which a mark behind
the cursor leaves as it is; it counts two steps for each character ahead, and one more while a
capital was passed last.
-/

namespace TemplateAttr

/-! ## A scan on one text -/

/-- **A scan on one text**: the text as far as it is marked, the place of the cursor in it, and the
case of the characters last passed. -/
structure CursorScan where
  text : List Char
  cursor : Nat
  lastSmall : Bool
  lastCapital : Bool
  lastTwoCapital : Bool

namespace CursorScan

/-- The scan that has passed nothing yet. -/
def start (text : List Char) : CursorScan := ⟨text, 0, false, false, false⟩

/-- Whether a mark is put before the character under the cursor. -/
def marksBefore (v : CursorScan) (c : Char) : Bool := v.lastSmall && c.isAlpha && isCapital c

/-- Whether a mark is put before the character passed last, if none is before the one under the
cursor. -/
def marksBehind (v : CursorScan) (c : Char) : Bool :=
  v.lastCapital && v.lastTwoCapital && c.isAlpha && isSmall c

/-- The text with a mark at a place, if it has the place. -/
def insertMark? (text : List Char) (place : Nat) : Option (List Char) :=
  if place ≤ text.length then some (text.insertIdx place '-') else none

/-- **One step of the scan**, which fails if a place that it needs is not there. -/
def step? (v : CursorScan) : Option CursorScan := do
  let c ← v.text[v.cursor]?
  if v.marksBefore c then
    let text ← insertMark? v.text v.cursor
    return ⟨text, v.cursor + 2, false, true, v.lastCapital⟩
  else if v.marksBehind c then
    let place ← v.cursor.ppred
    let text ← insertMark? v.text place
    return ⟨text, v.cursor + 1, true, false, v.lastCapital⟩
  else
    return ⟨v.text, v.cursor + 1, isSmall c && !isCapital c, isCapital c && !isSmall c,
      v.lastCapital⟩

/-- **Whether a step puts its mark behind the cursor.** -/
def stepsBack (v : CursorScan) : Bool :=
  v.text[v.cursor]?.any fun c => !v.marksBefore c && v.marksBehind c

/-- A mark before the cursor needs a small letter passed and an ASCII capital under it. -/
theorem marksBefore_eq (v : CursorScan) (c : Char) :
    v.marksBefore c = (v.lastSmall && c.isUpper) := by
  rw [marksBefore, Bool.and_assoc, isAlpha_and_isCapital]

/-- …and one behind it two capitals passed and an ASCII small letter under it. -/
theorem marksBehind_eq (v : CursorScan) (c : Char) :
    v.marksBehind c = (v.lastCapital && v.lastTwoCapital && c.isLower) := by
  rw [marksBehind, Bool.and_assoc _ c.isAlpha, isAlpha_and_isSmall]

/-- A mark is put between what is before its place and what is after. -/
theorem insertMark?_append (before after : List Char) :
    insertMark? (before ++ after) before.length = some (before ++ '-' :: after) := by
  have hinsert : (before ++ after).insertIdx before.length '-' = before ++ '-' :: after := by
    induction before with
    | nil => rfl
    | cons c before ih => simp [List.insertIdx_succ_cons, ih]
  rw [insertMark?, if_pos (by simp), hinsert]

end CursorScan

namespace BoundaryScan

/-- The scan on one text. -/
def onText (s : BoundaryScan) : CursorScan :=
  ⟨s.text, s.behind.length, s.lastSmall, s.lastCapital, s.lastTwoCapital⟩

theorem length_text (s : BoundaryScan) : s.text.length = s.behind.length + s.ahead.length := by
  simp [text]

theorem length_insertBehind (behind : List Char) :
    (insertBehind behind).length = behind.length + 1 := by
  cases behind <;> simp [insertBehind]

/-- The character under the cursor is the first one ahead. -/
theorem getElem?_text_behind (s : BoundaryScan) : s.text[s.behind.length]? = s.ahead.head? := by
  rw [text, ← List.length_reverse, List.getElem?_append_right (Nat.le_refl _), Nat.sub_self,
    List.head?_eq_getElem?]

/-! ## What is remembered has been passed -/

/-- **A scan that stands on what it remembers**: two capitals remembered are two characters
passed. -/
structure Grounded (s : BoundaryScan) : Prop where
  coherent : s.Coherent
  two_le : s.lastTwoCapital = true → 2 ≤ s.behind.length

/-- The case remembered is that of one character. -/
theorem Coherent.lastCapital_eq_false {s : BoundaryScan} (hs : s.Coherent)
    (h : s.lastSmall = true) : s.lastCapital = false := by
  cases hs with
  | passed hsmall hcapital =>
    obtain ⟨p, before, hbehind, hp⟩ := exists_behind_of_any (hsmall.symm.trans h)
    rw [hcapital, hbehind]
    exact isCapitalOnly_of_isSmallOnly hp
  | marked _ hcapital => exact hcapital

/-- A capital that is remembered has been passed. -/
theorem Coherent.behind_length_pos {s : BoundaryScan} (hs : s.Coherent)
    (h : s.lastCapital = true) : 0 < s.behind.length := by
  cases hs with
  | passed _ hcapital =>
    obtain ⟨p, before, hbehind, -⟩ := exists_behind_of_any (hcapital.symm.trans h)
    simp [hbehind]
  | marked _ hcapital => rw [h] at hcapital; cases hcapital

variable {s s' : BoundaryScan} {c : Char} {rest : List Char}

namespace Move

/-- After a move a scan stands on what it remembers: what it remembered as the last capital is one
before the last once a character is passed. -/
theorem grounded (h : s.Move c rest s') (hs : s.Grounded) : s'.Grounded where
  coherent := h.coherent
  two_le htwo := by
    cases h with
    | mark => simp
    | markBehind hcapital htwoCapital =>
      have := hs.two_le htwoCapital
      simp only [length_insertBehind]
      omega
    | pass =>
      have := hs.coherent.behind_length_pos htwo
      simp only [List.length_cons]
      omega

/-- **A move is a step on one text**: every place that it needs is there. -/
theorem step?_onText (h : s.Move c rest s') (hahead : s.ahead = c :: rest) (hs : s.Grounded) :
    s.onText.step? = some s'.onText := by
  have hread : s.onText.text[s.onText.cursor]? = some c := by
    rw [onText, getElem?_text_behind, hahead, List.head?_cons]
  rw [CursorScan.step?, hread, Option.bind_eq_bind, Option.bind_some,
    CursorScan.marksBefore_eq, CursorScan.marksBehind_eq]
  cases h with
  | mark hsmall hc =>
    have hmark := CursorScan.insertMark?_append s.behind.reverse (c :: rest)
    rw [List.length_reverse] at hmark
    simp [onText, text, hsmall, hc, hahead, hmark]
  | markBehind hcapital htwo hc =>
    obtain ⟨p, before, hbehind⟩ :=
      List.exists_cons_of_length_pos (hs.coherent.behind_length_pos hcapital)
    have hmark := CursorScan.insertMark?_append before.reverse (p :: c :: rest)
    rw [List.length_reverse] at hmark
    have hupper : c.isUpper = false := Bool.eq_false_iff.2 (Char.not_isUpper_of_isLower hc)
    simp [onText, text, insertBehind, hcapital, htwo, hc, hupper, hbehind, hahead, hmark]
  | pass hsmall hcapital =>
    simp [onText, text, hsmall, hcapital, hahead, isSmallOnly, isCapitalOnly]

end Move

/-- A step leaves a scan standing on what it remembers. -/
theorem Grounded.step (hs : s.Grounded) : s.step.Grounded := by
  cases hahead : s.ahead with
  | nil => rwa [step_of_ahead_eq_nil hahead]
  | cons c rest => exact (move_step hahead).grounded hs

/-- **A run leaves a scan standing on what it remembers.** -/
theorem Grounded.run (hs : s.Grounded) (n : Nat) : (s.run n).Grounded := by
  induction n generalizing s with
  | zero => exact hs
  | succ n ih => exact ih hs.step

/-- A scan that has passed nothing remembers nothing. -/
theorem grounded_start (text : List Char) : (start text).Grounded :=
  ⟨.passed rfl rfl, nofun⟩

/-! ## Runs -/

/-- A run may be parted anywhere. -/
theorem run_add (m n : Nat) : s.run (m + n) = (s.run m).run n := by
  induction m generalizing s with
  | zero => rw [Nat.zero_add]; rfl
  | succ m ih => rw [Nat.succ_add, run, run, ih]

theorem run_succ (n : Nat) : s.run (n + 1) = (s.run n).step := run_add n 1

/-- **A step that puts its mark behind the cursor** has two characters there, and leaves as many
ahead as there were: of the moves there are, it can be only the one that marks behind. -/
theorem Grounded.of_stepsBack (hs : s.Grounded) (h : s.onText.stepsBack = true) :
    2 ≤ s.behind.length ∧ s.step.ahead = s.ahead ∧ s.step.behind.length = s.behind.length + 1 := by
  rw [CursorScan.stepsBack, onText, getElem?_text_behind] at h
  cases hahead : s.ahead with
  | nil => simp [hahead] at h
  | cons c rest =>
    simp only [hahead, List.head?_cons, Option.any_some, CursorScan.marksBefore_eq,
      CursorScan.marksBehind_eq, Bool.and_eq_true, Bool.not_eq_true'] at h
    obtain ⟨hbefore, ⟨hcapital, htwo⟩, hc⟩ := h
    have hmove := move_step hahead
    generalize s.step = s' at hmove
    cases hmove with
    | mark hsmall hupper => simp [hsmall, hupper] at hbefore
    | markBehind => exact ⟨hs.two_le htwo, rfl, length_insertBehind _⟩
    | pass _ hpass => simp [hcapital, htwo, hc] at hpass

/-- **The scan ends**, after at most twice as many steps as the text has characters: it comes to a
first state with nothing ahead, which holds the marked text, since further steps change nothing. -/
theorem exists_end (text : List Char) : ∃ m ≤ 2 * text.length,
    (∀ n < m, ((start text).run n).ahead ≠ []) ∧ ((start text).run m).ahead = [] ∧
      ((start text).run m).text = markBoundaries text := by
  have hend : ((start text).run (2 * text.length)).ahead = [] := ahead_run (Nat.le_refl _)
  have hex : ∃ m, ((start text).run m).ahead = [] := ⟨_, hend⟩
  have hle := Nat.find_min' hex hend
  refine ⟨Nat.find hex, hle, fun n hn => Nat.find_min hex hn, Nat.find_spec hex, ?_⟩
  obtain ⟨k, hk⟩ := Nat.exists_eq_add_of_le hle
  rw [markBoundaries, hk, run_add, run_of_ahead_eq_nil _ (Nat.find_spec hex)]

end BoundaryScan

/-! ## The scan of a text on one text -/

namespace CursorScan

/-- **The scan of a text after a number of steps**, on one text. -/
def afterSteps (text : List Char) (n : Nat) : CursorScan := ((BoundaryScan.start text).run n).onText

theorem afterSteps_zero (text : List Char) : afterSteps text 0 = start text := rfl

/-- The text goes on behind the cursor with what is ahead. -/
theorem length_text_afterSteps (text : List Char) (n : Nat) :
    (afterSteps text n).text.length =
      (afterSteps text n).cursor + ((BoundaryScan.start text).run n).ahead.length :=
  BoundaryScan.length_text _

variable {text : List Char} {n : Nat}

/-- **No step fails** while there are characters ahead. -/
theorem step?_afterSteps (h : ((BoundaryScan.start text).run n).ahead ≠ []) :
    (afterSteps text n).step? = some (afterSteps text (n + 1)) := by
  obtain ⟨c, rest, hahead⟩ := List.exists_cons_of_ne_nil h
  rw [afterSteps, afterSteps, BoundaryScan.run_succ]
  exact (BoundaryScan.move_step hahead).step?_onText hahead
    ((BoundaryScan.grounded_start text).run n)

/-- **Where a step puts its mark behind the cursor**, two characters have been passed, and as many
are ahead of it afterwards as before. -/
theorem afterSteps_of_stepsBack (h : (afterSteps text n).stepsBack = true) :
    2 ≤ (afterSteps text n).cursor ∧
      (afterSteps text (n + 1)).cursor = (afterSteps text n).cursor + 1 ∧
      (afterSteps text (n + 1)).text.length = (afterSteps text n).text.length + 1 := by
  obtain ⟨htwo, hahead, hbehind⟩ := ((BoundaryScan.grounded_start text).run n).of_stepsBack h
  rw [← BoundaryScan.run_succ] at hahead hbehind
  have hcursor : (afterSteps text (n + 1)).cursor = (afterSteps text n).cursor + 1 := hbehind
  refine ⟨htwo, hcursor, ?_⟩
  rw [length_text_afterSteps, length_text_afterSteps, hahead, hcursor, Nat.add_right_comm]

/-- **The scan stays within its text, and ends.**  On one text, it takes at most twice as many steps
as the text has characters.  At each of them the cursor is at a place of the text as it then is, and
the step does not fail; where it puts a mark behind the cursor, two characters have been passed, and
cursor and text move on alike, so that it comes no closer to the end.  The case remembered is never
both.  In the end the cursor is behind the text, which is the marked one. -/
theorem stays_within_text (text : List Char) :
    afterSteps text 0 = start text ∧
      (∀ n, ¬ ((afterSteps text n).lastSmall = true ∧ (afterSteps text n).lastCapital = true)) ∧
      ∃ m ≤ 2 * text.length,
        (∀ n < m, (afterSteps text n).cursor < (afterSteps text n).text.length ∧
          (afterSteps text n).step? = some (afterSteps text (n + 1)) ∧
          ((afterSteps text n).stepsBack = true → 2 ≤ (afterSteps text n).cursor ∧
            (afterSteps text (n + 1)).cursor = (afterSteps text n).cursor + 1 ∧
            (afterSteps text (n + 1)).text.length = (afterSteps text n).text.length + 1)) ∧
        (afterSteps text m).cursor = (afterSteps text m).text.length ∧
        (afterSteps text m).text = markBoundaries text := by
  refine ⟨afterSteps_zero text, ?_, ?_⟩
  · rintro n ⟨hsmall, hcapital⟩
    have hgrounded := (BoundaryScan.grounded_start text).run n
    have hnot := hgrounded.coherent.lastCapital_eq_false hsmall
    exact Bool.false_ne_true (hnot.symm.trans hcapital)
  · obtain ⟨m, hm, hahead, hend, htext⟩ := BoundaryScan.exists_end text
    refine ⟨m, hm, fun n hn => ⟨?_, step?_afterSteps (hahead n hn), afterSteps_of_stepsBack⟩, ?_,
      htext⟩
    · rw [length_text_afterSteps]
      exact Nat.lt_add_of_pos_right (List.length_pos_iff.2 (hahead n hn))
    · rw [length_text_afterSteps, hend, List.length_nil, Nat.add_zero]

end CursorScan

end TemplateAttr
