import TemplateAttr.Name.Camel
import TemplateAttr.Proofs.Name.Boundary

/-!
# Proofs/Name/Camel — camel case, letter by letter

    " XML_2dHttp"   ──drop the separators──▸   X M L 2 d H t t p
                                               x m l 2 D H t t p

A plain name holds ASCII letters, digits and separators.  What its letters become is decided by
their neighbours in the name as it was written, so the five stages of `camelChars` come to one
reading of the name (`spellFrom`), and what stands at each place is known (`camelCase_spelled`).
-/

namespace TemplateAttr

/-! ## Plain names -/

/-- **A plain name**: ASCII letters, digits and separators. -/
def IsPlain (text : List Char) : Prop := ∀ c ∈ text, c.isAlphanum = true ∨ isSeparator c = true

/-- Whether a text is plain is seen from its characters, one by one. -/
instance (text : List Char) : Decidable (IsPlain text) :=
  decidable_of_iff (text.all fun c => c.isAlphanum || isSeparator c) (by simp [IsPlain])

theorem isPlain_cons {c : Char} {text : List Char} :
    IsPlain (c :: text) ↔ (c.isAlphanum = true ∨ isSeparator c = true) ∧ IsPlain text := by
  simp [IsPlain]

theorem isSeparator_iff {c : Char} :
    isSeparator c = true ↔ c = '_' ∨ c = '.' ∨ c = '-' ∨ c = ' ' := by
  simp [isSeparator, or_assoc]

/-- A separator is neither a letter nor a digit. -/
theorem isAlphanum_of_isSeparator {c : Char} (h : isSeparator c = true) : c.isAlphanum = false := by
  rcases isSeparator_iff.1 h with rfl | rfl | rfl | rfl <;> decide

theorem isSeparator_of_isAlphanum {c : Char} (h : c.isAlphanum = true) : isSeparator c = false :=
  Bool.eq_false_iff.2 fun hc => by simp [isAlphanum_of_isSeparator hc] at h

/-- A separator is a letter of neither case. -/
theorem case_of_isSeparator {c : Char} (h : isSeparator c = true) :
    c.isUpper = false ∧ c.isLower = false := by
  rcases isSeparator_iff.1 h with rfl | rfl | rfl | rfl <;> decide

theorem ascii_of_isSeparator {c : Char} (h : isSeparator c = true) : c.toNat < 0x80 := by
  rcases isSeparator_iff.1 h with rfl | rfl | rfl | rfl <;> decide

theorem IsPlain.ascii {text : List Char} (h : IsPlain text) : ∀ c ∈ text, c.toNat < 0x80 :=
  fun c hc => (h c hc).elim ascii_of_isAlphanum ascii_of_isSeparator

/-! ## Where a word begins -/

/-- **Whether a word of a name begins at a character**: behind a separator, at a capital behind a
small letter, and at a capital between a capital and a small letter. -/
def startsWord (before : Option Char) (c : Char) (after : Option Char) : Bool :=
  before.any isSeparator ||
    c.isUpper && (before.any Char.isLower || before.any Char.isUpper && after.any Char.isLower)

/-- In a plain name a word begins behind a separator and at each boundary. -/
theorem startsWord_eq {before : Option Char} {c : Char} (hbefore : ∀ p ∈ before, p.toNat < 0x80)
    (hc : c.toNat < 0x80) (after : Option Char) :
    startsWord before c after = (before.any isSeparator || isBoundary before c after) := by
  cases before with
  | none => simp [startsWord, isBoundary]
  | some p =>
    have hp := hbefore p rfl
    simp only [startsWord, isBoundary, Option.any_some, isSmallOnly_of_ascii hp,
      isCapitalOnly_of_ascii hp, isCapitalOnly_of_ascii hc]
    cases c.isUpper <;> simp

/-! ## A name read letter by letter -/

/-- **What a letter or digit of a name becomes**, given what stands before it, last first, and what
comes next: a capital where a word begins that is not the first one. -/
def spellAt (before : List Char) (c : Char) (after : Option Char) : Char :=
  if before.any Char.isAlphanum && startsWord before.head? c after then c.toUpper else c.toLower

/-- **The letters and digits of a name spelled**, behind `before`, last first. -/
def spellFrom (before : List Char) : List Char → List Char
  | [] => []
  | c :: rest =>
    if c.isAlphanum then spellAt before c rest.head? :: spellFrom (c :: before) rest
    else spellFrom (c :: before) rest

/-! ## The stages of camel case -/

/-- A mark that is put before a letter works as a separator. -/
theorem joinWords_markIf {c : Char} (hc : c.isAlphanum = true) (run rest : List Char)
    (marked : Bool) : joinWords run (markIf marked ++ c.toLower :: rest) =
      (if run.isEmpty && !marked then c.toLower else c.toUpper) :: joinWords [] rest := by
  have hlower : c.toLower.isAlphanum = true := by
    simpa [Char.isAlphanum, isDigit_toLower] using hc
  have hseparator := isSeparator_of_isAlphanum hlower
  have hmark : isSeparator '-' = true := by decide
  cases marked with
  | true => simp [markIf, joinWords, hseparator, hmark, hlower]
  | false => cases run <;> simp [markIf, joinWords, hseparator, hlower]

/-- No boundary is at a separator… -/
theorem isBoundary_of_isSeparator {c : Char} (h : isSeparator c = true)
    (before after : Option Char) : isBoundary before c after = false := by
  simp [isBoundary, isCapitalOnly_of_ascii (ascii_of_isSeparator h), case_of_isSeparator h]

/-- …or behind one. -/
theorem isBoundary_behind_isSeparator {before : Option Char}
    (h : ∀ p ∈ before, isSeparator p = true) (c : Char) (after : Option Char) :
    isBoundary before c after = false := by
  cases before with
  | none => rfl
  | some p =>
    have hp := h p rfl
    simp [isBoundary, isSmallOnly_of_ascii (ascii_of_isSeparator hp),
      isCapitalOnly_of_ascii (ascii_of_isSeparator hp), case_of_isSeparator hp]

theorem toLower_of_isSeparator {c : Char} (h : isSeparator c = true) : c.toLower = c := by
  rcases isSeparator_iff.1 h with rfl | rfl | rfl | rfl <;> decide

/-- **The words of a marked name, joined**, once it has begun: `run` is empty unless a separator was
read last. -/
theorem joinWords_markFrom {before text run : List Char} (hplain : IsPlain text)
    (hbefore : IsPlain before) (hbegun : before.any Char.isAlphanum = true)
    (hrun : run.isEmpty = !before.head?.any isSeparator) :
    joinWords run ((markFrom before.head? text).map Char.toLower) = spellFrom before text := by
  induction text generalizing before run with
  | nil => rfl
  | cons c rest ih =>
    obtain ⟨hc, hrest⟩ := isPlain_cons.1 hplain
    have hbefore' : IsPlain (c :: before) := isPlain_cons.2 ⟨hc, hbefore⟩
    have hbegun' : (c :: before).any Char.isAlphanum = true := by simp [hbegun]
    rcases hc with hletter | hseparator
    · have hstarts : startsWord before.head? c rest.head? =
          (before.head?.any isSeparator || isBoundary before.head? c rest.head?) :=
        startsWord_eq (fun p hp => hbefore.ascii p (List.mem_of_mem_head? hp))
          (ascii_of_isAlphanum hletter) _
      have hrun' : ([] : List Char).isEmpty = !(c :: before).head?.any isSeparator := by
        simp [isSeparator_of_isAlphanum hletter]
      have hjoined := ih hrest hbefore' hbegun' hrun'
      have hmark : (markIf (isBoundary before.head? c rest.head?)).map Char.toLower =
          markIf (isBoundary before.head? c rest.head?) := by
        cases isBoundary before.head? c rest.head? <;> rfl
      rw [markFrom, List.map_append, hmark, List.map_cons, joinWords_markIf hletter, spellFrom,
        if_pos hletter, spellAt, hbegun, hstarts, hrun, ← hjoined]
      cases before.head?.any isSeparator <;> cases isBoundary before.head? c rest.head? <;> rfl
    · have hrun' : (c :: run).isEmpty = !(c :: before).head?.any isSeparator := by
        simp [hseparator]
      have hjoined := ih hrest hbefore' hbegun' hrun'
      simpa [markFrom, isBoundary_of_isSeparator hseparator, markIf, joinWords, spellFrom,
        toLower_of_isSeparator hseparator, hseparator, isAlphanum_of_isSeparator hseparator]
        using hjoined

/-- **The words of a marked name, joined**, from its first letter or digit on. -/
theorem joinWords_dropWhile_markFrom {before text : List Char} (hplain : IsPlain text)
    (hbefore : ∀ c ∈ before, isSeparator c = true) :
    joinWords [] (((markFrom before.head? text).dropWhile isSeparator).map Char.toLower) =
      spellFrom before text := by
  induction text generalizing before with
  | nil => rfl
  | cons c rest ih =>
    obtain ⟨hc, hrest⟩ := isPlain_cons.1 hplain
    have hboundary : isBoundary before.head? c rest.head? = false :=
      isBoundary_behind_isSeparator (fun p hp => hbefore p (List.mem_of_mem_head? hp)) _ _
    rcases hc with hletter | hseparator
    · have hnone : before.any Char.isAlphanum = false := by
        simpa using fun p hp => isAlphanum_of_isSeparator (hbefore p hp)
      have hletter' := isSeparator_of_isAlphanum hletter
      have hbefore' : IsPlain (c :: before) :=
        isPlain_cons.2 ⟨.inl hletter, fun p hp => .inr (hbefore p hp)⟩
      have hjoined := @joinWords_markFrom (c :: before) rest [] hrest hbefore' (by simp [hletter])
        (by simp [hletter'])
      have hfirst := joinWords_markIf hletter []
        ((markFrom (c :: before).head? rest).map Char.toLower) false
      rw [hjoined] at hfirst
      simpa [markFrom, hboundary, markIf, spellFrom, spellAt, hletter, hletter', hnone] using hfirst
    · have hjoined := @ih (c :: before) hrest (by simpa [hseparator] using hbefore)
      simpa [markFrom, hboundary, markIf, spellFrom, hseparator,
        isAlphanum_of_isSeparator hseparator] using hjoined

/-- A mark or a character of the name. -/
theorem mem_markFrom {c : Char} {before : Option Char} {text : List Char}
    (h : c ∈ markFrom before text) : c = '-' ∨ c ∈ text := by
  induction text generalizing before with
  | nil => exact .inr h
  | cons d rest ih =>
    rw [markFrom, List.mem_append, List.mem_cons] at h
    rcases h with hmark | rfl | hrest
    · cases hboundary : isBoundary before d rest.head? <;> simp_all [markIf]
    · exact .inr List.mem_cons_self
    · exact (ih hrest).imp_right (List.mem_cons_of_mem d)

/-- A name without capitals has no boundaries. -/
theorem markFrom_of_not_isUpper {before : Option Char} {text : List Char}
    (hascii : ∀ c ∈ text, c.toNat < 0x80) (h : ∀ c ∈ text, c.isUpper = false) :
    markFrom before text = text := by
  induction text generalizing before with
  | nil => rfl
  | cons c rest ih =>
    have hc := h c List.mem_cons_self
    have hboundary : isBoundary before c rest.head? = false := by
      simp [isBoundary, isCapitalOnly_of_ascii (hascii c List.mem_cons_self), hc]
    rw [markFrom, hboundary, ih (fun d hd => hascii d (List.mem_cons_of_mem c hd))
      fun d hd => h d (List.mem_cons_of_mem c hd)]
    rfl

/-- The marks of a plain name are put at its boundaries, whether it has capitals or not. -/
theorem markedName_eq {text : List Char} (hascii : ∀ c ∈ text, c.toNat < 0x80) :
    markedName text = markFrom none text := by
  rw [markedName, lowerText_of_ascii hascii]
  split
  · next hlower =>
    have hsame : ∀ c ∈ text, c.toLower = id c :=
      List.map_inj_left.1 (hlower.trans (List.map_id text).symm)
    refine (markFrom_of_not_isUpper hascii fun c hc => ?_).symm
    rw [← id_eq c, ← hsame c hc, Char.isUpper_toLower_eq_false]
  · exact markBoundaries_eq text

/-- **The stages of camel case come to one reading of the name**, after which letters behind digits
are raised. -/
theorem camelWords_eq {text : List Char} (h : IsPlain text) :
    camelWords text = raiseAfterDigits false (spellFrom [] text) := by
  have hascii : ∀ c ∈ (markFrom none text).dropWhile isSeparator, c.toNat < 0x80 := by
    intro c hc
    rcases mem_markFrom ((List.dropWhile_sublist _).subset hc) with rfl | hmem
    · decide
    · exact h.ascii c hmem
  have hjoined := @joinWords_dropWhile_markFrom [] text h nofun
  rw [camelWords, markedName_eq h.ascii, lowerText_of_ascii hascii]
  exact congrArg (raiseAfterDigits false) hjoined

/-! ## Blanks at the ends -/

/-- The text between the blanks at its ends. -/
theorem exists_trimBlanks (text : List Char) : ∃ front back,
    text = front ++ trimBlanks text ++ back ∧ (∀ c ∈ front, isBlank c = true) ∧
      ∀ c ∈ back, isBlank c = true := by
  refine ⟨text.takeWhile isBlank, ((text.dropWhile isBlank).reverse.takeWhile isBlank).reverse,
    ?_, fun c hc => List.mem_takeWhile_imp hc, fun c hc => ?_⟩
  · rw [trimBlanks, List.append_assoc, ← List.reverse_append, List.takeWhile_append_dropWhile,
      List.reverse_reverse, List.takeWhile_append_dropWhile]
  · exact List.mem_takeWhile_imp (List.mem_reverse.1 hc)

theorem isAlphanum_of_isBlank {c : Char} (h : isBlank c = true) : c.isAlphanum = false := by
  refine Bool.eq_false_iff.2 fun hc => ?_
  rw [isAlphanum_iff, isUpper_iff_toNat, isLower_iff_toNat, isDigit_iff_toNat] at hc
  simp [isBlank, inCodeRanges, blankRanges] at h
  omega

/-- What stands in front of the first letter or digit does not count. -/
theorem spellFrom_append_before {before skipped : List Char}
    (h : ∀ c ∈ skipped, c.isAlphanum = false) (text : List Char) :
    spellFrom (before ++ skipped) text = spellFrom before text := by
  induction text generalizing before with
  | nil => rfl
  | cons c rest ih =>
    have hspell : spellAt (before ++ skipped) c rest.head? = spellAt before c rest.head? := by
      have hskipped : skipped.any Char.isAlphanum = false := by simpa using h
      cases before <;> simp [spellAt, hskipped]
    rw [spellFrom, spellFrom, hspell, ← List.cons_append, ih]

/-- What is neither letter nor digit is passed over. -/
theorem spellFrom_pass {passed : List Char} (h : ∀ c ∈ passed, c.isAlphanum = false)
    (before text : List Char) :
    spellFrom before (passed ++ text) = spellFrom (passed.reverse ++ before) text := by
  induction passed generalizing before with
  | nil => rfl
  | cons c rest ih =>
    rw [List.forall_mem_cons] at h
    rw [List.cons_append, spellFrom, h.1, if_neg Bool.false_ne_true, ih h.2, List.reverse_cons,
      List.append_assoc, List.singleton_append]

/-- What stands behind the last letter or digit adds nothing. -/
theorem spellFrom_append {skipped : List Char} (h : ∀ c ∈ skipped, c.isAlphanum = false)
    (before text : List Char) : spellFrom before (text ++ skipped) = spellFrom before text := by
  induction text generalizing before with
  | nil =>
    have hpass := spellFrom_pass h before []
    rwa [List.append_nil] at hpass
  | cons c rest ih =>
    have hspell : spellAt before c (rest ++ skipped).head? = spellAt before c rest.head? := by
      have hskipped : skipped.head?.any Char.isLower = false := by
        cases skipped with
        | nil => rfl
        | cons s _ =>
          have hs := Bool.eq_false_iff.1 (h s List.mem_cons_self)
          exact Bool.eq_false_iff.2 fun hlower => hs (isAlphanum_iff.2 (.inr (.inl hlower)))
      cases rest <;> simp [spellAt, startsWord, hskipped]
    rw [List.cons_append, spellFrom, spellFrom, hspell, ih]

/-! ## What stands at each place -/

/-- Every letter or digit is spelled, in order. -/
theorem map_toLower_spellFrom (before text : List Char) :
    (spellFrom before text).map Char.toLower = (text.filter Char.isAlphanum).map Char.toLower := by
  induction text generalizing before with
  | nil => rfl
  | cons c rest ih =>
    have hspell (after : Option Char) : (spellAt before c after).toLower = c.toLower := by
      rw [spellAt]
      split <;> simp
    cases hc : c.isAlphanum <;> simp [spellFrom, hc, ih, hspell]

/-- **A letter or digit is spelled at the place that those before it leave**, by its neighbours. -/
theorem getElem?_spellFrom {c : Char} (hc : c.isAlphanum = true)
    (skipped before after : List Char) :
    (spellFrom skipped (before ++ c :: after))[before.countP Char.isAlphanum]? =
      some (spellAt (before.reverse ++ skipped) c after.head?) := by
  induction before generalizing skipped with
  | nil => simp [spellFrom, hc]
  | cons d rest ih =>
    have hrest := ih (d :: skipped)
    cases hd : d.isAlphanum <;> simpa [spellFrom, hd] using hrest

/-- Raising letters leaves the digits at their places. -/
theorem map_isDigit_raiseAfterDigits (afterDigit : Bool) (text : List Char) :
    (raiseAfterDigits afterDigit text).map Char.isDigit = text.map Char.isDigit := by
  induction text generalizing afterDigit with
  | nil => rfl
  | cons c rest ih => cases afterDigit <;> simp [raiseAfterDigits, ih, isDigit_toUpper]

/-- …and the letters the same but for their case. -/
theorem map_toLower_raiseAfterDigits (afterDigit : Bool) (text : List Char) :
    (raiseAfterDigits afterDigit text).map Char.toLower = text.map Char.toLower := by
  induction text generalizing afterDigit with
  | nil => rfl
  | cons c rest ih => cases afterDigit <;> simp [raiseAfterDigits, ih]

/-- **A character is raised when the one before it is a digit.** -/
theorem getElem?_raiseAfterDigits (afterDigit : Bool) (text : List Char) (place : Nat) :
    (raiseAfterDigits afterDigit text)[place]? = text[place]?.map fun c =>
      if ((text.take place).getLast?.map Char.isDigit).getD afterDigit then c.toUpper else c := by
  induction text generalizing afterDigit place with
  | nil => rfl
  | cons c rest ih =>
    cases place with
    | zero => cases afterDigit <;> rfl
    | succ place => simp [raiseAfterDigits, ih, List.getLast?_cons]

/-! ## Camel case -/

/-- The blanks around a name do not count. -/
theorem spellFrom_trimBlanks (name : List Char) :
    spellFrom [] (trimBlanks name) = spellFrom [] name := by
  obtain ⟨front, back, hname, hfront, hback⟩ := exists_trimBlanks name
  have hskipped : ∀ c ∈ front.reverse, c.isAlphanum = false :=
    fun c hc => isAlphanum_of_isBlank (hfront c (List.mem_reverse.1 hc))
  conv_rhs => rw [hname]
  rw [spellFrom_append fun c hc => isAlphanum_of_isBlank (hback c hc),
    spellFrom_pass fun c hc => isAlphanum_of_isBlank (hfront c hc), List.append_nil]
  exact (@spellFrom_append_before [] _ hskipped _).symm

/-- **A plain name in camel case**: its letters and digits spelled, and the letters behind digits
raised. -/
theorem camelChars_eq {name : List Char} (hplain : IsPlain name)
    (hlong : 2 ≤ (trimBlanks name).length) :
    camelChars name = raiseAfterDigits false (spellFrom [] name) := by
  obtain ⟨front, back, hname, -⟩ := exists_trimBlanks name
  have hinner : IsPlain (trimBlanks name) := fun c hc => hplain c (by rw [hname]; simp [hc])
  obtain ⟨c, d, rest, htrim⟩ : ∃ c d rest, trimBlanks name = c :: d :: rest := by
    match htrim : trimBlanks name with
    | [] | [_] => simp [htrim] at hlong
    | c :: d :: rest => exact ⟨c, d, rest, rfl⟩
  rw [← spellFrom_trimBlanks, ← camelWords_eq hinner, camelChars, htrim]

/-- **What the letters and digits of a plain name become.**  They are all there, in order, and
nothing else is.  A letter is a capital exactly when the character before it is a digit, or when a
word begins at it that is not the first one; all other letters are small.  The digits are at the
same places whether the letters behind them are raised or not. -/
theorem camelCase_spelled {name : String} (hplain : IsPlain name.toList)
    (hlong : 2 ≤ (trimBlanks name.toList).length) :
    let spelled := (camelCase name).toList
    spelled.map Char.toLower =
        ((trimBlanks name.toList).filter Char.isAlphanum).map Char.toLower ∧
      ∀ before c after place, name.toList = before ++ c :: after → c.isAlphanum = true →
        place = before.countP Char.isAlphanum →
        spelled[place]? = some
          (if (spelled.take place).getLast?.any Char.isDigit = true ∨
              0 < place ∧ startsWord before.getLast? c after.head? = true
            then c.toUpper else c.toLower) := by
  intro spelled
  have hspelled : spelled = raiseAfterDigits false (spellFrom [] name.toList) := by
    simp only [spelled, camelCase, String.toList_ofList, camelChars_eq hplain hlong]
  refine ⟨?_, fun before c after place hname hc hplace => ?_⟩
  · rw [hspelled, map_toLower_raiseAfterDigits, ← spellFrom_trimBlanks, map_toLower_spellFrom]
  · have hdigits : spelled.map Char.isDigit = (spellFrom [] name.toList).map Char.isDigit := by
      rw [hspelled, map_isDigit_raiseAfterDigits]
    have hdigit : (((spellFrom [] name.toList).take place).getLast?.map Char.isDigit).getD false =
        (spelled.take place).getLast?.any Char.isDigit := by
      rw [← List.getLast?_map, List.map_take, ← hdigits, ← List.map_take, List.getLast?_map]
      cases (spelled.take place).getLast? <;> rfl
    have hfirst : before.reverse.any Char.isAlphanum = decide (0 < place) := by
      rw [Bool.eq_iff_iff, decide_eq_true_iff, hplace, List.countP_pos_iff, List.any_reverse,
        List.any_eq_true]
    have hspell := getElem?_spellFrom hc [] before after
    rw [← hname, ← hplace, List.append_nil, spellAt, hfirst, List.head?_reverse] at hspell
    conv_lhs => rw [hspelled, getElem?_raiseAfterDigits, hspell, hdigit, Option.map_some]
    cases (spelled.take place).getLast?.any Char.isDigit with
    | true => simp [apply_ite Char.toUpper]
    | false => simp

/-- Acronyms, digits and separators next to each other: a word begins at the last capital before a
small letter, a letter behind a digit is raised, and what stands in front of the first letter does
not count. -/
theorem camelCase_spelled_acronym :
    let name := " -XMLHttp_2d "
    let spelled := (camelCase name).toList
    IsPlain name.toList ∧ 2 ≤ (trimBlanks name.toList).length ∧
      spelled.map Char.toLower = "xmlhttp2d".toList ∧
      spelled[0]? = some 'x' ∧ spelled[2]? = some 'l' ∧ spelled[3]? = some 'H' ∧
      spelled[8]? = some 'D' := by
  intro name spelled
  have hplain : IsPlain name.toList := by decide
  have hlong : 2 ≤ (trimBlanks name.toList).length := by decide
  obtain ⟨hletters, hplaces⟩ := camelCase_spelled hplain hlong
  refine ⟨hplain, hlong, hletters.trans (by decide), ?_, ?_, ?_, ?_⟩
  · exact (hplaces " -".toList 'X' "MLHttp_2d ".toList 0 (by decide) rfl rfl).trans (by decide)
  · exact (hplaces " -XM".toList 'L' "Http_2d ".toList 2 (by decide) rfl rfl).trans (by decide)
  · exact (hplaces " -XML".toList 'H' "ttp_2d ".toList 3 (by decide) rfl rfl).trans (by decide)
  · exact (hplaces " -XMLHttp_2".toList 'd' " ".toList 8 (by decide) rfl rfl).trans (by decide)

end TemplateAttr
