/-
# HookAudit.Sum — the sum of a measure over a list.
-/
namespace HookAudit

/-- The sum of what a measure says about the members of a list. -/
def sumOf {α : Type} (measure : α → Nat) : List α → Nat
  | [] => 0
  | x :: rest => measure x + sumOf measure rest

/-- The sum over two lists one behind the other. -/
theorem sumOf_append {α : Type} (measure : α → Nat) (xs ys : List α) :
    sumOf measure (xs ++ ys) = sumOf measure xs + sumOf measure ys := by
  induction xs with
  | nil => simp [sumOf]
  | cons x xs ih => simp [sumOf, ih, Nat.add_assoc]

/-- A sum is zero when every member of the list measures zero, and only then. -/
theorem sumOf_eq_zero_iff {α : Type} {measure : α → Nat} {xs : List α} :
    sumOf measure xs = 0 ↔ ∀ x ∈ xs, measure x = 0 := by
  induction xs with
  | nil => simp [sumOf]
  | cons x xs ih => simp [sumOf, ih]

/-- The sum over a list whose members are read off another list. -/
theorem sumOf_map {α β : Type} (measure : β → Nat) (f : α → β) (xs : List α) :
    sumOf measure (xs.map f) = sumOf (fun x => measure (f x)) xs := by
  induction xs with
  | nil => rfl
  | cons x xs ih => rw [List.map_cons, sumOf, sumOf, ih]

/-- Leaving out members makes no sum larger. -/
theorem sumOf_le_of_sublist {α : Type} (measure : α → Nat) {xs ys : List α}
    (h : xs.Sublist ys) : sumOf measure xs ≤ sumOf measure ys := by
  induction h with
  | slnil => exact Nat.le_refl _
  | cons y _ ih => exact Nat.le_trans ih (Nat.le_add_left _ _)
  | cons_cons x _ ih => exact Nat.add_le_add_left ih _

end HookAudit
