import TemplateAttr.Proofs.Name.Camel
import TemplateAttr.Target.Html

/-!
# Proofs/Name/Fixed — the names that camel case leaves as they are

    readOnly   aBCd      stay
    ReadOnly   xYZ       become readOnly, xYz

Camel case is no closure: what it makes of `x-y-z` it does not leave alone.  A name of letters stays
as it is exactly when it begins small and no two capitals stand in a row but before a small letter
(`camelCase_eq_self_iff`), which says how long its runs of capitals are
(`capitalPairsEnd_iff_runs`).  So words that are joined the way properties are written stay, and
with them the names of the property table.
-/

namespace TemplateAttr

/-! ## Letters only -/

theorem isPlain_of_isAlpha {text : List Char} (h : ∀ c ∈ text, c.isAlpha = true) : IsPlain text :=
  fun c hc => .inl (isAlphanum_of_isAlpha (h c hc))

theorem trimBlanks_of_isAlpha {text : List Char} (h : ∀ c ∈ text, c.isAlpha = true) :
    trimBlanks text = text := by
  have hkeep : ∀ {l : List Char}, (∀ c ∈ l, c.isAlpha = true) → l.dropWhile isBlank = l := by
    intro l hl
    cases l with
    | nil => rfl
    | cons c rest =>
      refine List.dropWhile_cons_of_neg fun hblank => ?_
      have hc := isAlphanum_of_isBlank hblank
      rw [isAlphanum_of_isAlpha (hl c List.mem_cons_self)] at hc
      cases hc
  rw [trimBlanks, hkeep h, hkeep fun c hc => h c (List.mem_reverse.1 hc), List.reverse_reverse]

/-- Where there are no digits, no letter is raised. -/
theorem raiseAfterDigits_eq_self {text : List Char} (h : ∀ c ∈ text, c.isDigit = false) :
    raiseAfterDigits false text = text := by
  induction text with
  | nil => rfl
  | cons c rest ih =>
    rw [List.forall_mem_cons] at h
    rw [raiseAfterDigits, h.1, ih h.2]
    rfl

/-- Letters are spelled without digits. -/
theorem isDigit_of_mem_spellFrom {text : List Char} (h : ∀ c ∈ text, c.isAlpha = true)
    (before : List Char) : ∀ c ∈ spellFrom before text, c.isDigit = false := by
  intro c hc
  have hlower : c.toLower ∈ (spellFrom before text).map Char.toLower := List.mem_map_of_mem hc
  rw [map_toLower_spellFrom, List.mem_map] at hlower
  obtain ⟨d, hd, heq⟩ := hlower
  rw [← isDigit_toLower, ← heq, isDigit_toLower]
  exact isDigit_of_isAlpha (h d (List.mem_filter.1 hd).1)

/-- **A name of letters is spelled, and nothing else is done to it.** -/
theorem camelChars_of_isAlpha {name : List Char} (h : ∀ c ∈ name, c.isAlpha = true) :
    camelChars name = spellFrom [] name := by
  have htrim := trimBlanks_of_isAlpha h
  match name with
  | [] => rfl
  | [c] =>
    have hc := isAlphanum_of_isAlpha (h c List.mem_cons_self)
    rw [camelChars, htrim, spellFrom, if_pos hc]
    exact lowerChar_of_ascii (ascii_of_isAlphanum hc)
  | c :: d :: rest =>
    have hlong : 2 ≤ (trimBlanks (c :: d :: rest)).length := by simp [htrim]
    rw [camelChars_eq (isPlain_of_isAlpha h) hlong,
      raiseAfterDigits_eq_self (isDigit_of_mem_spellFrom h [])]

/-! ## Pairs of capitals -/

/-- **Two capitals in a row stand before a small letter only.** -/
def CapitalPairsEnd (text : List Char) : Prop :=
  ∀ before p c after, text = before ++ p :: c :: after → p.isUpper = true → c.isUpper = true →
    after.head?.any Char.isLower = true

theorem capitalPairsEnd_nil : CapitalPairsEnd [] := by
  intro before p c after h
  simp at h

theorem capitalPairsEnd_singleton (c : Char) : CapitalPairsEnd [c] := by
  intro before p c' after h
  have hlength := congrArg List.length h
  simp at hlength
  omega

/-- Pairs of capitals end when the first one does, and the others do. -/
theorem capitalPairsEnd_cons_cons {p c : Char} {rest : List Char} :
    CapitalPairsEnd (p :: c :: rest) ↔
      (p.isUpper = true → c.isUpper = true → rest.head?.any Char.isLower = true) ∧
        CapitalPairsEnd (c :: rest) := by
  constructor
  · intro h
    refine ⟨h [] p c rest rfl, fun before p' c' after heq => ?_⟩
    exact h (p :: before) p' c' after (by rw [heq, List.cons_append])
  · intro ⟨hfirst, hrest⟩ before p' c' after heq
    cases before with
    | nil =>
      cases heq
      exact hfirst
    | cons d before => exact hrest before p' c' after (List.cons.inj heq).2

/-- Whether the pairs of capitals end is seen from the characters, three at a time. -/
instance CapitalPairsEnd.decidable : ∀ text : List Char, Decidable (CapitalPairsEnd text)
  | [] => .isTrue capitalPairsEnd_nil
  | [c] => .isTrue (capitalPairsEnd_singleton c)
  | _ :: c :: rest =>
    have := CapitalPairsEnd.decidable (c :: rest)
    decidable_of_iff _ capitalPairsEnd_cons_cons.symm

/-- Small letters in front do not count. -/
theorem capitalPairsEnd_append_of_isLower {small text : List Char}
    (h : ∀ c ∈ small, c.isLower = true) :
    CapitalPairsEnd (small ++ text) ↔ CapitalPairsEnd text := by
  induction small with
  | nil => rfl
  | cons c rest ih =>
    rw [List.forall_mem_cons] at h
    rw [← ih h.2, List.cons_append]
    cases rest ++ text with
    | nil => simp [capitalPairsEnd_nil, capitalPairsEnd_singleton]
    | cons d rest' =>
      rw [capitalPairsEnd_cons_cons, and_iff_right]
      exact fun hc => absurd h.1 (Char.not_isLower_of_isUpper hc)

/-! ### By runs -/

/-- **A run of capitals**, maximal between what stands before it and after it. -/
structure CapitalRun (before run after : List Char) : Prop where
  ne_nil : run ≠ []
  capitals : ∀ c ∈ run, c.isUpper = true
  opens : before.getLast?.any Char.isUpper = false
  closes : after.head?.any Char.isUpper = false

/-- Capitals in a row stand in a run. -/
theorem exists_capitalRun {middle : List Char} (hne : middle ≠ [])
    (h : ∀ c ∈ middle, c.isUpper = true) (before after : List Char) :
    ∃ before' front back after', before = before' ++ front ∧ after = back ++ after' ∧
      CapitalRun before' (front ++ middle ++ back) after' := by
  refine ⟨before.rdropWhile Char.isUpper, before.rtakeWhile Char.isUpper,
    after.takeWhile Char.isUpper, after.dropWhile Char.isUpper,
    (List.rdropWhile_append_rtakeWhile ..).symm, List.takeWhile_append_dropWhile.symm,
    ?_, ?_, ?_, ?_⟩
  · simp [hne]
  · intro c hc
    simp only [List.mem_append] at hc
    rcases hc with (hfront | hmiddle) | hback
    · exact List.mem_rtakeWhile_imp hfront
    · exact h c hmiddle
    · exact List.mem_takeWhile_imp hback
  · by_cases hnil : before.rdropWhile Char.isUpper = []
    · rw [hnil]
      rfl
    · rw [List.getLast?_eq_some_getLast hnil]
      simpa using List.rdropWhile_last_not _ _ hnil
  · have hhead := List.head?_dropWhile_not Char.isUpper after
    revert hhead
    cases (after.dropWhile Char.isUpper).head? <;> simp

/-- **Two capitals in a row stand before a small letter only** exactly when each run of capitals is
one long, or two long and before a small letter. -/
theorem capitalPairsEnd_iff_runs {text : List Char} :
    CapitalPairsEnd text ↔ ∀ before run after, text = before ++ run ++ after →
      CapitalRun before run after →
      run.length = 1 ∨ run.length = 2 ∧ after.head?.any Char.isLower = true := by
  constructor
  · intro hpairs before run after htext hrun
    match run with
    | [] => exact absurd rfl hrun.ne_nil
    | [_] => exact .inl rfl
    | p :: c :: rest =>
      obtain ⟨hp, hc, hrest⟩ :
          p.isUpper = true ∧ c.isUpper = true ∧ ∀ d ∈ rest, d.isUpper = true := by
        simpa using hrun.capitals
      have hafter := hpairs before p c (rest ++ after) (by simpa using htext) hp hc
      cases rest with
      | nil => exact .inr ⟨rfl, hafter⟩
      | cons d rest =>
        have hthird : ¬ d.isLower = true := Char.not_isLower_of_isUpper (hrest d List.mem_cons_self)
        exact absurd hafter hthird
  · intro hruns before p c after htext hp hc
    obtain ⟨before', front, back, after', rfl, rfl, hrun⟩ :=
      @exists_capitalRun [p, c] (by simp) (by simp [hp, hc]) before after
    have hlong := hruns before' _ after' (by simpa using htext) hrun
    simp only [List.length_append, List.length_cons, List.length_nil] at hlong
    rcases hlong with hone | ⟨htwo, hafter⟩
    · omega
    · have hback : back = [] := List.eq_nil_of_length_eq_zero (by omega)
      rwa [hback]

/-! ## Names that stay -/

/-- A character behind a letter stays as it is, unless it is the second capital in a row and before
no small letter. -/
theorem spellAt_eq_self_iff {p : Char} (hp : p.isAlpha = true) (c : Char)
    (before : List Char) (after : Option Char) :
    spellAt (p :: before) c after = c ↔
      (p.isUpper = true → c.isUpper = true → after.any Char.isLower = true) := by
  have hp' := isAlphanum_of_isAlpha hp
  have hstarts : startsWord (some p) c after =
      (c.isUpper && (p.isLower || p.isUpper && after.any Char.isLower)) := by
    simp [startsWord, isSeparator_of_isAlphanum hp']
  rw [spellAt, List.any_cons, hp', Bool.true_or, Bool.true_and, List.head?_cons, hstarts]
  cases hupper : c.isUpper with
  | false => simp [Char.toLower_eq_of_not_isUpper (Bool.eq_false_iff.1 hupper)]
  | true =>
    have hraised : c.toUpper = c :=
      Char.toUpper_eq_of_not_isLower (Char.not_isLower_of_isUpper hupper)
    rcases isAlpha_iff.1 hp with hcapital | hsmall
    · simp [hcapital, Char.not_isLower_of_isUpper hcapital, hraised, toLower_ne_self hupper]
    · simp [hsmall, Char.not_isUpper_of_isLower hsmall, hraised]

/-- Behind a letter the letters stay as they are when pairs of capitals end. -/
theorem spellFrom_eq_self_iff {p : Char} {before text : List Char} (hp : p.isAlpha = true)
    (h : ∀ c ∈ text, c.isAlpha = true) :
    spellFrom (p :: before) text = text ↔ CapitalPairsEnd (p :: text) := by
  induction text generalizing p before with
  | nil => simp [spellFrom, capitalPairsEnd_singleton]
  | cons c rest ih =>
    rw [List.forall_mem_cons] at h
    have hc := isAlphanum_of_isAlpha h.1
    rw [spellFrom, if_pos hc, List.cons.injEq, spellAt_eq_self_iff hp c, ih h.1 h.2,
      capitalPairsEnd_cons_cons]

/-- **A name of letters stays as it is** exactly when it begins small, since its first letter is
always lowered, and its pairs of capitals end. -/
theorem camelChars_eq_self_iff {name : List Char} (hne : name ≠ [])
    (h : ∀ c ∈ name, c.isAlpha = true) :
    camelChars name = name ↔ name.head?.any Char.isLower = true ∧ CapitalPairsEnd name := by
  match name with
  | c :: rest =>
    rw [camelChars_of_isAlpha h]
    rw [List.forall_mem_cons] at h
    have hc := isAlphanum_of_isAlpha h.1
    have hfirst : spellAt [] c rest.head? = c ↔ c.isLower = true := by
      rw [spellAt, List.any_nil, Bool.false_and, if_neg Bool.false_ne_true]
      rcases isAlpha_iff.1 h.1 with hupper | hlower
      · simp [toLower_ne_self hupper, Char.not_isLower_of_isUpper hupper]
      · simp [Char.toLower_eq_of_not_isUpper (Char.not_isUpper_of_isLower hlower), hlower]
    rw [spellFrom, if_pos hc, List.cons.injEq, hfirst, spellFrom_eq_self_iff h.1 h.2]
    rfl

/-! ## Words joined -/

/-- **A capitalised word**: a capital and small letters. -/
def IsCapitalised (word : List Char) : Prop :=
  ∃ c d rest, word = c :: d :: rest ∧ c.isUpper = true ∧ ∀ x ∈ d :: rest, x.isLower = true

/-- A capitalised word is made of letters. -/
theorem IsCapitalised.isAlpha {word : List Char} (h : IsCapitalised word) :
    ∀ c ∈ word, c.isAlpha = true := by
  obtain ⟨c, d, rest, rfl, hupper, hlower⟩ := h
  intro x hx
  rcases List.mem_cons.1 hx with rfl | hx
  · exact isAlpha_iff.2 (.inl hupper)
  · exact isAlpha_iff.2 (.inr (hlower x hx))

/-- No two capitals of capitalised words stand in a row. -/
theorem capitalPairsEnd_flatten {words : List (List Char)} (h : ∀ w ∈ words, IsCapitalised w) :
    CapitalPairsEnd words.flatten := by
  induction words with
  | nil => exact capitalPairsEnd_nil
  | cons w words ih =>
    rw [List.forall_mem_cons] at h
    obtain ⟨c, d, rest, rfl, -, hlower⟩ := h.1
    rw [List.flatten_cons, List.cons_append, List.cons_append, capitalPairsEnd_cons_cons,
      ← List.cons_append, capitalPairsEnd_append_of_isLower hlower]
    refine ⟨fun _ hd => ?_, ih h.2⟩
    exact absurd (hlower d List.mem_cons_self) (Char.not_isLower_of_isUpper hd)

/-- **A word before capitalised words stays as it is.** -/
theorem camelChars_words {first : List Char} {words : List (List Char)} (hne : first ≠ [])
    (hfirst : ∀ c ∈ first, c.isLower = true) (hwords : ∀ w ∈ words, IsCapitalised w) :
    camelChars (first ++ words.flatten) = first ++ words.flatten := by
  have hletters : ∀ c ∈ first ++ words.flatten, c.isAlpha = true := by
    intro c hc
    rcases List.mem_append.1 hc with hsmall | hmem
    · exact isAlpha_iff.2 (.inr (hfirst c hsmall))
    · obtain ⟨w, hw, hcw⟩ := List.mem_flatten.1 hmem
      exact (hwords w hw).isAlpha c hcw
  refine (camelChars_eq_self_iff (by simp [hne]) hletters).2 ⟨?_, ?_⟩
  · cases first with
    | nil => exact absurd rfl hne
    | cons c rest => exact hfirst c List.mem_cons_self
  · exact (capitalPairsEnd_append_of_isLower hfirst).2 (capitalPairsEnd_flatten hwords)

/-! ## The property table -/

/-- The attributes of the property table are no owned ones, and their properties are names that
stay. -/
theorem Html.properties_stay : ∀ entry ∈ Html.properties,
    Schema.html.isOwned entry.1 = false ∧ (∀ c ∈ entry.2.toList, c.isAlpha = true) ∧
      entry.2.toList.head?.any Char.isLower = true ∧ CapitalPairsEnd entry.2.toList := by
  have hchecked : (Html.properties.all fun entry => !Schema.html.isOwned entry.1 &&
      entry.2.toList.all Char.isAlpha && entry.2.toList.head?.any Char.isLower &&
      decide (CapitalPairsEnd entry.2.toList)) = true := by
    decide +kernel
  intro entry hentry
  simpa [and_assoc] using List.all_eq_true.1 hchecked entry hentry

/-- **What the property table gives is no owned attribute's, and camel case leaves it as it is.** -/
theorem Html.camelCase_of_propertyOf? {name property : String}
    (h : Schema.html.propertyOf? name = some property) :
    Schema.html.isOwned name = false ∧ camelCase property = property := by
  obtain ⟨before, after, htable, -⟩ := List.lookup_eq_some_iff.1 h
  have hentry : (name, property) ∈ Html.properties := by
    rw [htable]
    exact List.mem_append_right before List.mem_cons_self
  obtain ⟨howned, hletters, hsmall, hpairs⟩ := Html.properties_stay _ hentry
  have hne : property.toList ≠ [] := by
    intro hnil
    rw [hnil] at hsmall
    cases hsmall
  have hstays := (camelChars_eq_self_iff hne hletters).2 ⟨hsmall, hpairs⟩
  rw [camelCase, hstays, String.ofList_toList]
  exact ⟨howned, rfl⟩

/-! ## Camel case -/

/-- **The names of letters that camel case leaves as they are** begin small, and their runs of
capitals are one long, or two long and before a small letter.  Among them are the words joined the
way properties are, and so what the property table gives is not spelled anew; but camel case makes
names that it does not leave alone. -/
theorem camelCase_fixed_points :
    (∀ name : String, name ≠ "" → (∀ c ∈ name.toList, c.isAlpha = true) →
      (camelCase name = name ↔ name.toList.head?.any Char.isLower = true ∧
        ∀ before run after, name.toList = before ++ run ++ after →
          CapitalRun before run after →
          run.length = 1 ∨ run.length = 2 ∧ after.head?.any Char.isLower = true)) ∧
      (∀ (first : List Char) (words : List (List Char)), first ≠ [] →
        (∀ c ∈ first, c.isLower = true) → (∀ w ∈ words, IsCapitalised w) →
        camelCase (String.ofList (first ++ words.flatten)) =
          String.ofList (first ++ words.flatten)) ∧
      (∀ name property : String, Schema.html.propertyOf? name = some property →
        camelCase property = property ∧ ∀ ctx : ElementContext, ctx.isForeign = false →
          ctx.isCustom = false → Schema.html.propertyNameIn ctx name = property) ∧
      camelCase "x-y-z" = "xYZ" ∧ camelCase "xYZ" ≠ "xYZ" := by
  refine ⟨fun name hne hletters => ?_, fun first words hne hfirst hwords => ?_,
    fun name property h => ?_, by decide, by decide⟩
  · have hne' : name.toList ≠ [] := by simpa using hne
    rw [← capitalPairsEnd_iff_runs, ← camelChars_eq_self_iff hne' hletters, camelCase,
      ← String.toList_inj, String.toList_ofList]
  · rw [camelCase, String.toList_ofList, camelChars_words hne hfirst hwords]
  · obtain ⟨howned, hstays⟩ := Html.camelCase_of_propertyOf? h
    refine ⟨hstays, fun ctx hforeign hcustom => ?_⟩
    rw [Schema.propertyNameIn, hforeign, hcustom, howned, h]
    exact hstays

/-- Two capitals stay before a small letter, and three do not. -/
theorem camelCase_fixed_points_acronym :
    camelCase "domXPoint" = "domXPoint" ∧ camelCase "domXYPoint" ≠ "domXYPoint" ∧
      Schema.html.propertyOf? "readonly" = some "readOnly" ∧ camelCase "readOnly" = "readOnly" := by
  obtain ⟨hiff, -, htable, -⟩ := camelCase_fixed_points
  have htwo := hiff "domXPoint" (by decide) (List.all_eq_true.1 (by decide))
  have hthree := hiff "domXYPoint" (by decide) (List.all_eq_true.1 (by decide))
  have hreadonly : Schema.html.propertyOf? "readonly" = some "readOnly" := by decide +kernel
  refine ⟨htwo.2 ⟨by decide, capitalPairsEnd_iff_runs.1 (by decide)⟩, fun hstays => ?_, hreadonly,
    (htable _ _ hreadonly).1⟩
  have hrun := (hthree.1 hstays).2 "dom".toList "XYP".toList "oint".toList (by decide)
    ⟨by decide, List.all_eq_true.1 (by decide), by decide, by decide⟩
  exact absurd hrun (by decide)

end TemplateAttr
