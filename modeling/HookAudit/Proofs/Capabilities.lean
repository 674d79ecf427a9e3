/-
# HookAudit.Proofs.Capabilities — capabilities as a join.

Sets of capabilities are joined flag by flag, so joining is associative, commutative and
idempotent, and the join of a list does not depend on its order.  `Capabilities.Within` is the order
that belongs to it: every flag of the one is a flag of the other.
-/
import HookAudit.Taxonomy
import Mathlib.Data.List.Basic

namespace HookAudit.Capabilities

variable {a b c : Capabilities}

@[simp]
theorem none_union (a : Capabilities) : none.union a = a := by
  simp [union, none]

@[simp]
theorem union_none (a : Capabilities) : a.union none = a := by
  simp [union, none]

theorem union_assoc (a b c : Capabilities) : (a.union b).union c = a.union (b.union c) := by
  simp [union, Bool.or_assoc]

theorem union_comm (a b : Capabilities) : a.union b = b.union a := by
  simp [union, Bool.or_comm]

@[simp]
theorem union_self (a : Capabilities) : a.union a = a := by
  simp [union]

/-! ## The join of a list -/

theorem foldl_union (all : List Capabilities) (a : Capabilities) :
    all.foldl union a = a.union (unions all) := by
  induction all generalizing a with
  | nil => exact (union_none a).symm
  | cons b all ih =>
    have hcons : unions (b :: all) = b.union (unions all) := by
      rw [unions, List.foldl_cons, none_union, ih]
    rw [List.foldl_cons, ih, hcons, union_assoc]

@[simp]
theorem unions_nil : unions [] = none := rfl

@[simp]
theorem unions_cons (a : Capabilities) (all : List Capabilities) :
    unions (a :: all) = a.union (unions all) := by
  rw [unions, List.foldl_cons, none_union, foldl_union]

theorem unions_append (all more : List Capabilities) :
    unions (all ++ more) = (unions all).union (unions more) := by
  induction all with
  | nil => simp
  | cons a all ih => simp [ih, union_assoc]

theorem unions_eq_of_perm {all more : List Capabilities} (h : all.Perm more) :
    unions all = unions more := by
  induction h with
  | nil => rfl
  | cons a _ ih => simp [ih]
  | swap a b all => simp [← union_assoc, union_comm a b]
  | trans _ _ ih ih' => exact ih.trans ih'

/-- **`flag_unions`** — a flag that joins by "or" is set in the join of a list when a member has
it. -/
theorem flag_unions {flag : Capabilities → Bool} (hnone : flag none = false)
    (hunion : ∀ a b, flag (a.union b) = (flag a || flag b)) (all : List Capabilities) :
    flag (unions all) = all.any flag := by
  induction all with
  | nil => exact hnone
  | cons a all ih => rw [unions_cons, hunion, ih, List.any_cons]

/-! ## Inclusion -/

/-- **`a.Within b`** — every flag of `a` is a flag of `b`. -/
structure Within (a b : Capabilities) : Prop where
  fileSystem : a.fileSystem = true → b.fileSystem = true
  network : a.network = true → b.network = true
  processExecution : a.processExecution = true → b.processExecution = true
  dangerousImports : a.dangerousImports = true → b.dangerousImports = true
  credentialAccess : a.credentialAccess = true → b.credentialAccess = true

theorem Within.refl (a : Capabilities) : a.Within a := ⟨id, id, id, id, id⟩

theorem Within.trans (hab : a.Within b) (hbc : b.Within c) : a.Within c where
  fileSystem h := hbc.fileSystem (hab.fileSystem h)
  network h := hbc.network (hab.network h)
  processExecution h := hbc.processExecution (hab.processExecution h)
  dangerousImports h := hbc.dangerousImports (hab.dangerousImports h)
  credentialAccess h := hbc.credentialAccess (hab.credentialAccess h)

theorem within_union_left (a b : Capabilities) : a.Within (a.union b) := by
  constructor <;> intro h <;> simp [union, h]

theorem within_union_right (a b : Capabilities) : b.Within (a.union b) := by
  rw [union_comm]
  exact within_union_left b a

theorem union_within (ha : a.Within c) (hb : b.Within c) : (a.union b).Within c := by
  constructor <;> intro h <;> rcases Bool.or_eq_true_iff.mp h with h | h
  exacts [ha.fileSystem h, hb.fileSystem h, ha.network h, hb.network h, ha.processExecution h,
    hb.processExecution h, ha.dangerousImports h, hb.dangerousImports h, ha.credentialAccess h,
    hb.credentialAccess h]

/-- Joining what is there already changes nothing. -/
theorem union_eq_right (h : a.Within b) : a.union b = b := by
  cases b
  simp only [union, mk.injEq, Bool.or_eq_right_iff_imp]
  exact ⟨h.fileSystem, h.network, h.processExecution, h.dangerousImports, h.credentialAccess⟩

/-- Each member of a list is within the join of the list. -/
theorem within_unions {all : List Capabilities} (h : a ∈ all) : a.Within (unions all) := by
  obtain ⟨before, after, rfl⟩ := List.append_of_mem h
  rw [unions_append, unions_cons]
  exact (within_union_left a _).trans (within_union_right _ _)

/-- The join of a list is within whatever all its members are within. -/
theorem unions_within {all : List Capabilities} (h : ∀ a ∈ all, a.Within b) :
    (unions all).Within b := by
  induction all with
  | nil => exact ⟨nofun, nofun, nofun, nofun, nofun⟩
  | cons a all ih =>
    obtain ⟨ha, hall⟩ := List.forall_mem_cons.mp h
    rw [unions_cons]
    exact union_within ha (ih hall)

end HookAudit.Capabilities
