import TemplateAttr.Proofs.Name.Boundary

/-!
# Proofs/Name/Window — boundaries of words by their places

    place          0 1 2 3 4 5 6
    text           X M L H t t p
    word begins          ^            ──▸   X M L - H t t p

`markBoundaries_eq` finds the boundaries while it walks down the text.  Here a boundary is a place
of the text, told from the window of three characters around it (`BeginsWord`), and the marked text
is the text with one mark before the character at each such place (`markBoundaries_windows`).
-/

namespace TemplateAttr

/-- **Whether a word begins at place `k` of a text**: there is a character before it, and either
that is a small letter and the one at `k` an ASCII capital, or both are capitals and an ASCII small
letter follows. -/
def BeginsWord (text : List Char) (k : Nat) : Prop :=
  0 < k ∧
    (text[k - 1]?.any isSmallOnly = true ∧ text[k]?.any Char.isUpper = true ∨
      text[k - 1]?.any isCapitalOnly = true ∧ text[k]?.any isCapitalOnly = true ∧
        text[k + 1]?.any Char.isLower = true)

/-- Whether a word begins at a place is seen from its window. -/
instance (text : List Char) (k : Nat) : Decidable (BeginsWord text k) :=
  inferInstanceAs (Decidable (_ ∧ _))

/-- No word begins at the front. -/
theorem not_beginsWord_zero (text : List Char) : ¬ BeginsWord text 0 := fun h =>
  Nat.lt_irrefl 0 h.1

/-- **A place is a boundary by its window as it is by its neighbours.** -/
theorem beginsWord_length_iff (before : List Char) (c : Char) (rest : List Char) :
    BeginsWord (before ++ c :: rest) before.length ↔
      isBoundary before.getLast? c rest.head? = true := by
  obtain rfl | ⟨front, p, rfl⟩ := before.eq_nil_or_concat'
  · simp [BeginsWord, isBoundary]
  · have hnext : (front ++ p :: c :: rest)[front.length + 1 + 1]? = rest.head? := by
      rw [Nat.add_assoc, List.getElem?_append_right (Nat.le_add_right _ _), Nat.add_sub_cancel_left]
      exact List.head?_eq_getElem?.symm
    simp [BeginsWord, isBoundary, hnext, and_assoc]

/-- **What the scan writes, place by place**, behind the characters it has passed.  With one more of
them passed, the places of the rest are one further on. -/
theorem markFrom_eq_mapIdx (before after : List Char) :
    markFrom before.getLast? after =
      (after.mapIdx fun k c =>
        if BeginsWord (before ++ after) (before.length + k) then ['-', c] else [c]).flatten := by
  induction after generalizing before with
  | nil => rfl
  | cons c rest ih =>
    have hrest := ih (before ++ [c])
    simp only [List.getLast?_concat, List.append_assoc, List.singleton_append, List.length_append,
      List.length_singleton] at hrest
    rw [markFrom, hrest, List.mapIdx_cons, List.flatten_cons]
    simp only [Nat.add_zero, beginsWord_length_iff, Nat.add_assoc, Nat.add_comm 1]
    cases isBoundary before.getLast? c rest.head? <;> rfl

/-- A capital or a small letter is no mark. -/
theorem ne_mark_of_cased {o : Option Char}
    (h : o.any isSmallOnly = true ∨ o.any isCapitalOnly = true ∨ o.any Char.isUpper = true) :
    o ≠ some '-' := by
  rintro rfl
  revert h
  decide

/-- **The marked text is the text with one mark at each place where a word begins**, and nothing
else is changed.  No mark is put at the front, and none beside a `-` that stands in the text. -/
theorem markBoundaries_windows (text : List Char) :
    markBoundaries text =
        (text.mapIdx fun k c => if BeginsWord text k then ['-', c] else [c]).flatten ∧
      (markBoundaries text).head? = text.head? ∧
      ∀ k, BeginsWord text k → text[k - 1]? ≠ some '-' ∧ text[k]? ≠ some '-' := by
  have hplaces : markBoundaries text =
      (text.mapIdx fun k c => if BeginsWord text k then ['-', c] else [c]).flatten := by
    rw [markBoundaries_eq]
    simpa using markFrom_eq_mapIdx [] text
  refine ⟨hplaces, ?_, ?_⟩
  · cases text with
    | nil => rfl
    | cons c rest => simp [hplaces, List.mapIdx_cons, not_beginsWord_zero]
  · rintro k ⟨-, ⟨hsmall, hcapital⟩ | ⟨hbefore, hcapital, -⟩⟩
    · exact ⟨ne_mark_of_cased (.inl hsmall), ne_mark_of_cased (.inr (.inr hcapital))⟩
    · exact ⟨ne_mark_of_cased (.inr (.inl hbefore)), ne_mark_of_cased (.inr (.inl hcapital))⟩

/-- A title-case letter, which is neither a capital nor a small letter, is next to no boundary. -/
example : (List.range 9).filter (fun k => BeginsWord "XMLHttpǅX".toList k) = [3] := by decide

end TemplateAttr
