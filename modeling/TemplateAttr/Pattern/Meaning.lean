import TemplateAttr.Pattern.Search

/-!
# Pattern/Meaning — the search finds the stretches that a pattern covers

`mem_ends` holds the search to the meaning of patterns: from given starts, the positions found are
those where a covered stretch ends.  Hence a text is found to match when it does
(`matchesChars_iff`).

The one case with substance is repetition.  A closure that may run `n` rounds meets what `n` steps
reach (`mem_closure_iff`), and one that may run as many rounds as there are positions is closed
(`closure_closed`): a round that is not the last meets a position not met before.
-/

namespace TemplateAttr

namespace Pattern

/-! ## Steps of a relation -/

/-- What each step keeps, many steps keep. -/
theorem Steps.invariant {r : Nat → Nat → Prop} {P : Nat → Prop}
    (hr : ∀ i j, r i j → P i → P j) {n i j : Nat} (h : Steps r n i j) (hi : P i) : P j := by
  induction n generalizing i with
  | zero => exact (h : i = j) ▸ hi
  | succ n ih =>
    obtain ⟨k, hik, hkj⟩ := h
    exact ih hkj (hr i k hik hi)

/-- Steps one after another may be parted anywhere. -/
theorem steps_add {r : Nat → Nat → Prop} {m n i j : Nat} :
    Steps r (m + n) i j ↔ ∃ k, Steps r m i k ∧ Steps r n k j := by
  induction m generalizing i with
  | zero => simp [Steps]
  | succ m ih =>
    rw [Nat.succ_add]
    simp only [Steps, ih]
    exact ⟨fun ⟨k, hik, l, hkl, hlj⟩ => ⟨l, ⟨k, hik, hkl⟩, hlj⟩,
      fun ⟨l, ⟨k, hik, hkl⟩, hlj⟩ => ⟨k, hik, l, hkl, hlj⟩⟩

/-! ## Positions stay within the text -/

/-- **A covered stretch ends within the text** if it begins there. -/
theorem Spans.le_length {text : List Char} (p : Pattern) {i j : Nat} (h : p.Spans text i j)
    (hi : i ≤ text.length) : j ≤ text.length := by
  induction p generalizing i j with
  | empty => exact (h : i = j) ▸ hi
  | chars s =>
    obtain ⟨rfl, c, hc, -⟩ := h
    exact (List.getElem?_eq_some_iff.1 hc).1
  | textStart => exact h.1 ▸ hi
  | textEnd => exact h.1 ▸ hi
  | seq p q ihp ihq =>
    obtain ⟨k, hik, hkj⟩ := h
    exact ihq hkj (ihp hik hi)
  | alt p q ihp ihq => exact h.elim (fun h => ihp h hi) fun h => ihq h hi
  | repeated p least more ih =>
    obtain ⟨n, -, hn⟩ := h
    exact hn.invariant (P := (· ≤ text.length)) (fun _ _ hij hi => ih hij hi) hi
  | group p ih => exact ih h hi

/-! ## Rounds and closures

`round` is taken to compute one step of `r` on positions up to `bound`, which `r` does not leave. -/

/-- **What a round computes**: on positions within the bound, the positions one step further. -/
def Computes (round : List Nat → List Nat) (r : Nat → Nat → Prop) (bound : Nat) : Prop :=
  ∀ starts, (∀ i ∈ starts, i ≤ bound) → ∀ j, j ∈ round starts ↔ ∃ i ∈ starts, r i j

section Closure

variable {round : List Nat → List Nat} {r : Nat → Nat → Prop} {bound : Nat}
  (hround : Computes round r bound) (hr : ∀ i j, r i j → i ≤ bound → j ≤ bound)

include hround hr

/-- A round stays within the bound. -/
theorem round_le {starts : List Nat} (h : ∀ i ∈ starts, i ≤ bound) :
    ∀ j ∈ round starts, j ≤ bound := fun j hj =>
  let ⟨i, hi, hij⟩ := (hround starts h j).1 hj
  hr i j hij (h i hi)

/-- Two rounds, one after the other, compute two steps. -/
theorem Computes.comp {round' : List Nat → List Nat} {r' : Nat → Nat → Prop}
    (hround' : Computes round' r' bound) :
    Computes (fun starts => round' (round starts)) (fun i j => ∃ k, r i k ∧ r' k j) bound := by
  intro starts h j
  rw [hround' _ (round_le hround hr h)]
  constructor
  · rintro ⟨k, hk, hkj⟩
    obtain ⟨i, hi, hik⟩ := (hround _ h k).1 hk
    exact ⟨i, hi, k, hik, hkj⟩
  · rintro ⟨i, hi, k, hik, hkj⟩
    exact ⟨k, (hround _ h k).2 ⟨i, hi, hik⟩, hkj⟩

/-- So many rounds compute so many steps. -/
theorem computes_rounds (n : Nat) : Computes (rounds round n) (Steps r n) bound := by
  induction n with
  | zero => intro starts _ j; simp [rounds, Steps]
  | succ n ih =>
    intro starts h j
    cases starts with
    | nil => simp [rounds]
    | cons a rest =>
      rw [rounds, if_neg (by simp)]
      exact hround.comp hr ih (a :: rest) h j

omit hround hr in
/-- What is met stays met. -/
theorem subset_closure (n : Nat) (met fresh : List Nat) : met ⊆ closure round n met fresh := by
  induction n generalizing met fresh with
  | zero => exact fun _ h => h
  | succ n ih =>
    rw [closure]
    split
    · exact fun _ h => h
    · exact fun j h => ih _ _ (List.mem_append_right _ h)

/-- The positions that a further round adds. -/
def newPositions (round : List Nat → List Nat) (met fresh : List Nat) : List Nat :=
  (round fresh).filter fun j => !met.contains j

omit hround hr in
/-- A further round adds what it computes and what is not met yet. -/
theorem mem_newPositions {met fresh : List Nat} {j : Nat} :
    j ∈ newPositions round met fresh ↔ j ∈ round fresh ∧ j ∉ met := by
  simp [newPositions]

omit hround hr in
/-- A closure ends with the first round that adds nothing. -/
theorem closure_succ (n : Nat) (met fresh : List Nat) :
    closure round (n + 1) met fresh =
      if (newPositions round met fresh).isEmpty then met
      else closure round n (newPositions round met fresh ++ met) (newPositions round met fresh) :=
  rfl

/-- **The state of a closure**: what is met stays within the bound, and every position that is not
fresh has all its successors met. -/
structure Advanced (r : Nat → Nat → Prop) (bound : Nat) (met fresh : List Nat) : Prop where
  le : ∀ i ∈ met, i ≤ bound
  fresh_subset : fresh ⊆ met
  closed : ∀ i ∈ met, i ∉ fresh → ∀ j, r i j → j ∈ met

omit hr in
/-- One more round meets all successors of what is met. -/
theorem Advanced.step_mem {met fresh : List Nat} (h : Advanced r bound met fresh) {i j : Nat}
    (hi : i ∈ met) (hij : r i j) : j ∈ newPositions round met fresh ++ met := by
  by_cases hj : j ∈ met
  · exact List.mem_append_right _ hj
  · have hfresh : i ∈ fresh := Decidable.byContradiction fun hn => hj (h.closed i hi hn j hij)
    refine List.mem_append_left _ (mem_newPositions.2 ⟨?_, hj⟩)
    exact (hround fresh (fun k hk => h.le k (h.fresh_subset hk)) j).2 ⟨i, hfresh, hij⟩

/-- **The state of a closure is kept by a round.** -/
theorem Advanced.next {met fresh : List Nat} (h : Advanced r bound met fresh) :
    Advanced r bound (newPositions round met fresh ++ met) (newPositions round met fresh) where
  le i hi := (List.mem_append.1 hi).elim
    (fun hi => round_le hround hr (fun k hk => h.le k (h.fresh_subset hk)) i
      (mem_newPositions.1 hi).1) (h.le i)
  fresh_subset := List.subset_append_left _ _
  closed _ hi hn _ hij :=
    h.step_mem hround ((List.mem_append.1 hi).resolve_left hn) hij

/-- A closure meets what is reached in no more steps than it has rounds. -/
theorem mem_closure_of_steps {n m : Nat} (hmn : m ≤ n) {met fresh : List Nat}
    (h : Advanced r bound met fresh) {i j : Nat} (hi : i ∈ met) (hij : Steps r m i j) :
    j ∈ closure round n met fresh := by
  induction n generalizing m met fresh i with
  | zero =>
    obtain rfl := Nat.le_zero.1 hmn
    exact (hij : i = j) ▸ hi
  | succ n ih =>
    cases m with
    | zero => exact subset_closure _ _ _ ((hij : i = j) ▸ hi)
    | succ m =>
      obtain ⟨k, hik, hkj⟩ := hij
      have hk := h.step_mem hround hi hik
      rw [closure_succ]
      split
      · next hnil =>
        rw [List.isEmpty_iff] at hnil
        have hclosed : ∀ a b, r a b → a ∈ met → b ∈ met := fun a b hab ha => by
          simpa [hnil] using h.step_mem hround ha hab
        exact hkj.invariant (P := (· ∈ met)) hclosed (hclosed i k hik hi)
      · exact ih (Nat.le_of_succ_le_succ hmn) (h.next hround hr) hk hkj

/-- …and nothing else: what it adds is reached from what is fresh. -/
theorem steps_of_mem_closure {n : Nat} {met fresh : List Nat} (h : Advanced r bound met fresh)
    {j : Nat} (hj : j ∈ closure round n met fresh) :
    j ∈ met ∨ ∃ i ∈ fresh, ∃ m ≤ n, Steps r m i j := by
  induction n generalizing met fresh with
  | zero => exact .inl hj
  | succ n ih =>
    rw [closure_succ] at hj
    split at hj
    · exact .inl hj
    · have step : ∀ k ∈ newPositions round met fresh, ∃ i ∈ fresh, r i k := fun k hk =>
        (hround fresh (fun a ha => h.le a (h.fresh_subset ha)) k).1 (mem_newPositions.1 hk).1
      rcases ih (h.next hround hr) hj with hj | ⟨k, hk, m, hm, hkj⟩
      · refine (List.mem_append.1 hj).elim (fun hj => .inr ?_) .inl
        obtain ⟨i, hi, hij⟩ := step j hj
        exact ⟨i, hi, 1, Nat.le_add_left 1 n, j, hij, rfl⟩
      · obtain ⟨i, hi, hik⟩ := step k hk
        exact .inr ⟨i, hi, m + 1, Nat.succ_le_succ hm, k, hik, hkj⟩

omit hround hr in
/-- At the start all positions are fresh. -/
theorem advanced_refl {first : List Nat} (h : ∀ i ∈ first, i ≤ bound) :
    Advanced r bound first first :=
  ⟨h, fun _ hi => hi, fun _ hi hn => absurd hi hn⟩

/-- **A closure of at most `n` rounds** meets what at most `n` steps reach. -/
theorem mem_closure_iff (n : Nat) {first : List Nat} (h : ∀ i ∈ first, i ≤ bound) (j : Nat) :
    j ∈ closure round n first first ↔ ∃ i ∈ first, ∃ m ≤ n, Steps r m i j := by
  constructor
  · intro hj
    exact (steps_of_mem_closure hround hr (advanced_refl h) hj).elim
      (fun hj => ⟨j, hj, 0, Nat.zero_le n, rfl⟩) id
  · rintro ⟨i, hi, m, hm, hij⟩
    exact mem_closure_of_steps hround hr hm (advanced_refl h) hi hij

/-- The positions within the bound that are still to be met. -/
def unmet (bound : Nat) (met : List Nat) : List Nat :=
  (List.range (bound + 1)).filter fun i => !met.contains i

omit hround hr in
theorem mem_unmet {met : List Nat} {i : Nat} : i ∈ unmet bound met ↔ i ≤ bound ∧ i ∉ met := by
  simp only [unmet, List.mem_filter, List.mem_range, Nat.lt_succ_iff, List.contains_eq_mem,
    Bool.not_eq_true', decide_eq_false_iff_not]

/-- A round that adds a position leaves fewer of them to be met. -/
theorem Advanced.length_unmet_lt {met fresh : List Nat} (h : Advanced r bound met fresh)
    (hne : newPositions round met fresh ≠ []) :
    (unmet bound (newPositions round met fresh ++ met)).length < (unmet bound met).length := by
  obtain ⟨k, rest, hk⟩ := List.exists_cons_of_ne_nil hne
  have hknew : k ∈ newPositions round met fresh := hk ▸ List.mem_cons_self
  have hkunmet : k ∈ unmet bound met :=
    mem_unmet.2 ⟨(h.next hround hr).le k (List.mem_append_left _ hknew),
      (mem_newPositions.1 hknew).2⟩
  have hsub : unmet bound (newPositions round met fresh ++ met) =
      (unmet bound met).filter fun i => !(newPositions round met fresh).contains i := by
    simp [unmet, List.filter_filter, Bool.and_comm]
  rw [hsub]
  refine Nat.lt_of_le_of_ne (List.length_filter_le _ _) fun heq => ?_
  have := List.length_filter_eq_length_iff.1 heq k hkunmet
  simp [hknew] at this

/-- **A closure of as many rounds as there are positions is closed**: no step leads out of it. -/
theorem closure_closed {n : Nat} {met fresh : List Nat} (h : Advanced r bound met fresh)
    (hn : (unmet bound met).length ≤ n) {i j : Nat} (hi : i ∈ closure round n met fresh)
    (hij : r i j) : j ∈ closure round n met fresh := by
  induction n generalizing met fresh with
  | zero =>
    have hnil : unmet bound met = [] := List.eq_nil_of_length_eq_zero (Nat.le_zero.1 hn)
    refine Decidable.byContradiction fun hj => ?_
    have : j ∈ unmet bound met := mem_unmet.2 ⟨hr i j hij (h.le i hi), hj⟩
    simp [hnil] at this
  | succ n ih =>
    rw [closure_succ] at hi ⊢
    split at hi
    · next hnil =>
      rw [if_pos hnil]
      rw [List.isEmpty_iff] at hnil
      simpa [hnil] using h.step_mem hround hi hij
    · next hne =>
      rw [if_neg hne]
      have hfewer := h.length_unmet_lt hround hr (mt List.isEmpty_iff.2 hne)
      exact ih (h.next hround hr) (Nat.le_of_lt_succ (Nat.lt_of_lt_of_le hfewer hn)) hi

/-- A closure of as many rounds as there are positions meets what any number of steps reaches. -/
theorem mem_closure_bound_iff {first : List Nat} (h : ∀ i ∈ first, i ≤ bound) (j : Nat) :
    j ∈ closure round (bound + 1) first first ↔ ∃ i ∈ first, ∃ m, Steps r m i j := by
  constructor
  · intro hj
    obtain ⟨i, hi, m, -, hij⟩ := (mem_closure_iff hround hr _ h j).1 hj
    exact ⟨i, hi, m, hij⟩
  · rintro ⟨i, hi, m, hij⟩
    have hlen : (unmet bound first).length ≤ bound + 1 := by
      simpa [unmet] using
        List.length_filter_le (fun i => !first.contains i) (List.range (bound + 1))
    exact hij.invariant (P := (· ∈ closure round (bound + 1) first first))
      (fun a b hab ha => closure_closed hround hr (advanced_refl h) hlen ha hab)
      (subset_closure _ _ _ hi)

/-- **Rounds and then a closure compute a repetition**, of as many rounds as there are positions
where the repetition has no limit. -/
theorem computes_repeated (least : Nat) (more : Option Nat) :
    Computes (fun starts => closure round (more.getD (bound + 1)) (rounds round least starts)
        (rounds round least starts))
      (fun i j => ∃ n, (∀ m, more = some m → n ≤ m) ∧ Steps r (least + n) i j) bound := by
  intro starts h j
  have hrounds := computes_rounds hround hr least
  have hfirst : ∀ k ∈ rounds round least starts, k ≤ bound :=
    round_le hrounds (fun _ _ hij hi => hij.invariant (P := (· ≤ bound)) hr hi) h
  have hsplit : ∀ Q : Nat → Prop,
      (∃ k ∈ rounds round least starts, ∃ n, Q n ∧ Steps r n k j) ↔
        ∃ i ∈ starts, ∃ n, Q n ∧ Steps r (least + n) i j := by
    intro Q
    constructor
    · rintro ⟨k, hk, n, hn, hkj⟩
      obtain ⟨i, hi, hik⟩ := (hrounds _ h k).1 hk
      exact ⟨i, hi, n, hn, steps_add.2 ⟨k, hik, hkj⟩⟩
    · rintro ⟨i, hi, n, hn, hij⟩
      obtain ⟨k, hik, hkj⟩ := steps_add.1 hij
      exact ⟨k, (hrounds _ h k).2 ⟨i, hi, hik⟩, n, hn, hkj⟩
  cases more with
  | none =>
    have := (mem_closure_bound_iff hround hr hfirst j).trans (by simpa using hsplit fun _ => True)
    simpa using this
  | some more =>
    have := (mem_closure_iff hround hr more hfirst j).trans (hsplit (· ≤ more))
    simpa using this

end Closure

/-! ## The search -/

/-- Merged positions are those of both lists. -/
theorem mem_mergePositions {starts others : List Nat} {j : Nat} :
    j ∈ mergePositions starts others ↔ j ∈ starts ∨ j ∈ others := by
  by_cases h : j ∈ starts <;> simp [mergePositions, h]

/-- **The search is held to the meaning of patterns.** -/
theorem mem_ends (text : List Char) (p : Pattern) :
    Computes (p.ends text.toArray) (p.Spans text) text.length := by
  induction p with
  | empty => intro starts _ j; simp only [ends, Spans, exists_eq_right]
  | chars s =>
    intro starts _ j
    simp only [ends, List.mem_filterMap, Spans]
    refine exists_congr fun i => and_congr_right fun _ => ?_
    cases h : text[i]? with
    | none => simp [h]
    | some c => by_cases hc : s.mem c <;> simp [h, hc, @eq_comm _ (i + 1)]
  | textStart | textEnd =>
    intro starts _ j
    simp only [ends, Spans, List.mem_filter, beq_iff_eq, List.size_toArray]
    exact ⟨fun ⟨hj, h⟩ => ⟨j, hj, rfl, h⟩, fun ⟨i, hi, hij, h⟩ => hij ▸ ⟨hi, h⟩⟩
  | seq p q ihp ihq => exact ihp.comp (fun _ _ hij hi => Spans.le_length p hij hi) ihq
  | alt p q ihp ihq =>
    intro starts h j
    simp only [ends, Spans, mem_mergePositions]
    rw [ihp _ h, ihq _ h]
    simp only [← exists_or, ← and_or_left]
  | repeated p least more ih =>
    exact computes_repeated ih (fun _ _ hij hi => Spans.le_length p hij hi) least more
  | group p ih => exact ih

/-- **A text is found to match when it does.** -/
theorem matchesChars_iff (p : Pattern) (text : List Char) :
    p.matchesChars text = true ↔ p.Matches text := by
  have hle : ∀ i ∈ List.range (text.length + 1), i ≤ text.length :=
    fun i hi => Nat.lt_succ_iff.1 (List.mem_range.1 hi)
  rw [matchesChars, Bool.not_eq_true', List.isEmpty_eq_false_iff_exists_mem]
  constructor
  · rintro ⟨j, hj⟩
    obtain ⟨i, hi, hij⟩ := (mem_ends text p _ hle j).1 hj
    exact ⟨i, j, hle i hi, hij⟩
  · rintro ⟨i, j, hi, hij⟩
    exact ⟨j, (mem_ends text p _ hle j).2 ⟨i, List.mem_range.2 (Nat.lt_succ_iff.2 hi), hij⟩⟩

end Pattern

end TemplateAttr
