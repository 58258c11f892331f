/-!
# Pattern/Depth — how deep the notation of a pattern is nested

A pattern text may nest its groups, repetitions and classes, but not without end.  So what is read
from a text is kept with its **depth**, the number of constructs around its innermost part.  Parts
in a row, and branches beside one another, count as a construct when there are two of them or more.
-/

namespace TemplateAttr

namespace Pattern

/-- **A value read from a pattern text**, and how deep its notation is nested. -/
structure Nested (α : Type) where
  value : α
  depth : Nat

/-- How deep a pattern may be nested. -/
def maxDepth : Nat := 250

/-- The depth of what stands in a row. -/
def rowDepth : List Nat → Nat
  | [] => 0
  | [d] => d
  | d :: rest => rest.foldl max d + 1

theorem foldl_max_le {n : Nat} (l : List Nat) {d : Nat} (hd : d ≤ n) (h : ∀ e ∈ l, e ≤ n) :
    l.foldl max d ≤ n := by
  induction l generalizing d with
  | nil => exact hd
  | cons e rest ih =>
    exact ih (Nat.max_le.2 ⟨hd, h e List.mem_cons_self⟩) fun a ha => h a (List.mem_cons_of_mem _ ha)

/-- **What stands in a row is at most one deeper** than its parts. -/
theorem rowDepth_le {n : Nat} {l : List Nat} (h : ∀ d ∈ l, d ≤ n) : rowDepth l ≤ n + 1 := by
  match l, h with
  | [], _ => exact Nat.zero_le _
  | [d], h => exact Nat.le_succ_of_le (h d List.mem_cons_self)
  | d :: e :: rest, h =>
    exact Nat.succ_le_succ (foldl_max_le (e :: rest) (h d List.mem_cons_self) fun a ha =>
      h a (List.mem_cons_of_mem _ ha))

end Pattern

end TemplateAttr
