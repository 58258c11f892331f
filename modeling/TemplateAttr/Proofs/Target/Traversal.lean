import Mathlib.Data.List.FinRange
import Mathlib.Data.List.Forall2

/-!
# Proofs/Target/Traversal — a list gone through until the first error

Going through a list succeeds when each entry does, on its own (`mapM_eq_ok_iff`), and fails with
the first entry that fails (`mapM_eq_error_iff`).  So what becomes of an entry does not depend on
its place: the entries may be moved about, and the results move with them (`forall₂_rearrange`).
-/

namespace TemplateAttr

/-! ## Success and failure -/

section Traversal

variable {α β ε : Type} {f : α → Except ε β}

/-- A list is gone through when its first item is, and the others are. -/
theorem mapM_cons_eq_ok_iff {x : α} {xs : List α} {ys : List β} :
    (x :: xs).mapM f = .ok ys ↔
      ∃ y rest, f x = .ok y ∧ xs.mapM f = .ok rest ∧ ys = y :: rest := by
  rw [List.mapM_cons]
  cases f x with
  | error e => simp [bind, Except.bind]
  | ok y => cases xs.mapM f <;> simp [bind, Except.bind, pure, Except.pure, eq_comm]

/-- …and given up at its first item, or at a later one. -/
theorem mapM_cons_eq_error_iff {x : α} {xs : List α} {e : ε} :
    (x :: xs).mapM f = .error e ↔
      f x = .error e ∨ (∃ y, f x = .ok y) ∧ xs.mapM f = .error e := by
  rw [List.mapM_cons]
  cases f x with
  | error e' => simp [bind, Except.bind]
  | ok y => cases xs.mapM f <;> simp [bind, Except.bind, pure, Except.pure]

/-- **A list is gone through when each entry is**, and the results stand in the places of the
entries. -/
theorem mapM_eq_ok_iff {xs : List α} {ys : List β} :
    xs.mapM f = .ok ys ↔ List.Forall₂ (fun x y => f x = .ok y) xs ys := by
  induction xs generalizing ys with
  | nil => simp [pure, Except.pure, eq_comm]
  | cons x rest ih => simp only [mapM_cons_eq_ok_iff, List.forall₂_cons_left_iff, ih]

/-- A list is gone through when no entry fails. -/
theorem exists_mapM_eq_ok_iff {xs : List α} :
    (∃ ys, xs.mapM f = .ok ys) ↔ ∀ x ∈ xs, ∃ y, f x = .ok y := by
  induction xs with
  | nil => simp [pure, Except.pure]
  | cons x rest ih =>
    rw [List.forall_mem_cons, ← ih]
    constructor
    · rintro ⟨ys, h⟩
      obtain ⟨y, rest', hy, hrest, -⟩ := mapM_cons_eq_ok_iff.1 h
      exact ⟨⟨y, hy⟩, rest', hrest⟩
    · rintro ⟨⟨y, hy⟩, rest', hrest⟩
      exact ⟨y :: rest', mapM_cons_eq_ok_iff.2 ⟨y, rest', hy, hrest, rfl⟩⟩

/-- **The first entry that fails ends it**: the entries before it succeed. -/
theorem mapM_eq_error_iff {xs : List α} {e : ε} :
    xs.mapM f = .error e ↔ ∃ before x after, xs = before ++ x :: after ∧
      (∀ b ∈ before, ∃ y, f b = .ok y) ∧ f x = .error e := by
  induction xs with
  | nil => simp [pure, Except.pure]
  | cons x rest ih =>
    rw [mapM_cons_eq_error_iff, ih]
    constructor
    · rintro (hx | ⟨hx, before, x', after, rfl, hbefore, hx'⟩)
      · exact ⟨[], x, rest, rfl, by simp, hx⟩
      · exact ⟨x :: before, x', after, rfl, List.forall_mem_cons.2 ⟨hx, hbefore⟩, hx'⟩
    · rintro ⟨before, x', after, hsplit, hbefore, hx'⟩
      cases before with
      | nil =>
        cases hsplit
        exact .inl hx'
      | cons b before =>
        cases hsplit
        obtain ⟨hb, hrest⟩ := List.forall_mem_cons.1 hbefore
        exact .inr ⟨hb, before, x', after, rfl, hrest, hx'⟩

end Traversal

/-! ## Moving the entries -/

/-- **A list with its entries moved**: what stood at place `σ i` comes to place `i`. -/
def rearrange {α : Type} {n : ℕ} (σ : Equiv.Perm (Fin n)) (l : List α) : List α :=
  (List.finRange n).filterMap fun i => l[(σ i : ℕ)]?

section Rearrange

variable {α β : Type} {n : ℕ} (σ : Equiv.Perm (Fin n))

/-- Nothing is lost: each place of the list names its entry. -/
theorem rearrange_eq_ofFn {l : List α} (h : l.length = n) :
    rearrange σ l = List.ofFn fun i => l.get ((σ i).cast h.symm) := by
  subst h
  rw [List.ofFn_eq_map, ← List.filterMap_eq_map, rearrange]
  refine List.filterMap_congr fun i _ => ?_
  exact List.getElem?_eq_getElem (σ i).isLt

/-- **The entries stay the same.** -/
theorem rearrange_perm {l : List α} (h : l.length = n) : (rearrange σ l).Perm l := by
  subst h
  have hperm := σ.ofFn_comp_perm l.get
  rw [List.ofFn_get] at hperm
  rw [rearrange_eq_ofFn σ rfl]
  exact hperm

theorem forall₂_getElem? {R : α → β → Prop} {xs : List α} {ys : List β} (h : List.Forall₂ R xs ys)
    (k : ℕ) : Option.Rel R xs[k]? ys[k]? := by
  induction h generalizing k with
  | nil => exact .none
  | cons hxy _ ih =>
    cases k with
    | zero => exact .some hxy
    | succ k => simpa using ih k

/-- **Entries that belong together are moved together.** -/
theorem forall₂_rearrange {R : α → β → Prop} {xs : List α} {ys : List β}
    (h : List.Forall₂ R xs ys) : List.Forall₂ R (rearrange σ xs) (rearrange σ ys) := by
  refine List.rel_filterMap (R := Eq) (fun i j hij => ?_) (List.forall₂_refl (List.finRange n))
  rw [hij]
  exact forall₂_getElem? h (σ j)

end Rearrange

end TemplateAttr
