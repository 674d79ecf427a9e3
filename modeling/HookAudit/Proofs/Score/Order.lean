/-
# HookAudit.Proofs.Score.Order — the two orders of captures are lexicographic.

Captures are sorted twice: by `Capture.positionLe` for the report and by `Score.countingLe` for
counting.  Both are comparisons written out field by field.  Here each is read as the order of a
tuple: `Capture.place` is (start, end, name) and `Score.rank` puts the weight in front of it, the
heavier capture first.  Tuples are compared by their first difference, and names are compared as the
lists of their code points, so totality, transitivity and antisymmetry come from the library.

Two captures share a tuple exactly when they share name and range (`place_eq_iff`, `rank_eq_iff`).
On captures with distinct keys both orders are therefore strict, and a sorted list is determined by
its members (`mergeSort_eq_of_perm`).
-/
import HookAudit.Score
import Mathlib.Data.List.Lex
import Mathlib.Data.Prod.Lex
import Mathlib.Data.Int.Order.Basic

namespace HookAudit

/-! ## Texts by code points -/

/-- The numbers of the code points of a text. -/
def Text.codes (t : Text) : List Nat := t.map (·.val)

theorem Text.codes_injective : Function.Injective Text.codes := by
  apply List.map_injective_iff.mpr
  rintro ⟨m, hm⟩ ⟨n, hn⟩ rfl
  rfl

/-- The order of texts is the lexicographic order of their code points. -/
theorem Text.le_iff_codes (a b : Text) : Text.le a b = true ↔ a.codes ≤ b.codes := by
  induction a generalizing b with
  | nil =>
    have hnil : ¬ Text.codes b < Text.codes [] := List.not_lt_nil _
    simpa [Text.le] using hnil
  | cons c a ih =>
    cases b with
    | nil =>
      have hcons : Text.codes [] < Text.codes (c :: a) := List.nil_lt_cons _ _
      simpa [Text.le] using hcons
    | cons d b =>
      have hcons : Text.codes (d :: b) < Text.codes (c :: a) ↔
          d.val < c.val ∨ d.val = c.val ∧ Text.codes b < Text.codes a := List.cons_lt_cons_iff
      have hrest : Text.le a b = true ↔ ¬ Text.codes b < Text.codes a := by rw [ih b, not_lt]
      rw [← not_lt, hcons]
      simp only [Text.le, Bool.or_eq_true, Bool.and_eq_true, decide_eq_true_eq, beq_iff_eq, hrest]
      rcases lt_trichotomy c.val d.val with hcd | hcd | hcd
      · simp [hcd, hcd.not_gt, hcd.ne']
      · simp [hcd]
      · simp [hcd, hcd.not_gt, hcd.ne']

/-! ## Captures by position and by rank -/

/-- Where a capture stands in the report: start, end, name. -/
def Capture.place (c : Capture) : Int ×ₗ Int ×ₗ List Nat :=
  toLex (c.start, toLex (c.stop, c.name.codes))

/-- Where a capture stands in the counting order: descending weight, then its place. -/
def Score.rank (c : Capture) : Int ×ₗ Int ×ₗ Int ×ₗ List Nat :=
  toLex (-(severity c.name : Int), c.place)

theorem Capture.place_eq_iff {a b : Capture} : a.place = b.place ↔ a.key = b.key := by
  simp only [Capture.place, Capture.key, toLex_inj, Prod.mk.injEq, Text.codes_injective.eq_iff]
  tauto

theorem Score.rank_eq_iff {a b : Capture} : Score.rank a = Score.rank b ↔ a.key = b.key := by
  simp only [Score.rank, toLex_inj, Prod.mk.injEq, Capture.place_eq_iff]
  constructor
  · exact fun h => h.2
  · intro h
    exact ⟨by rw [(Prod.mk.inj h).1], h⟩

theorem Capture.positionLe_iff (a b : Capture) : a.positionLe b = true ↔ a.place ≤ b.place := by
  simp only [Capture.place, Prod.Lex.toLex_le_toLex, ← Text.le_iff_codes, Capture.positionLe,
    bne_iff_ne, ne_eq, ite_not]
  split <;> rename_i hstart
  · split <;> rename_i hstop
    · simp [hstart, hstop]
    · simp [hstart, hstop]
  · simp [hstart]

theorem Score.countingLe_iff (a b : Capture) :
    Score.countingLe a b = true ↔ Score.rank a ≤ Score.rank b := by
  simp only [Score.rank, Prod.Lex.toLex_le_toLex, ← Capture.positionLe_iff, Score.countingLe,
    bne_iff_ne, ne_eq, ite_not]
  split <;> rename_i hweight
  · simp [hweight]
  · have hne : (severity a.name : Int) ≠ severity b.name := by exact_mod_cast hweight
    simp [hne]

/-! ## Sorting by a tuple -/

section Sorting

variable {α β : Type} [LinearOrder β] {le : α → α → Bool} {f : α → β}

/-- Sorting by a comparison of tuples sorts by the tuples. -/
theorem pairwise_mergeSort_of_iff (hle : ∀ a b, le a b = true ↔ f a ≤ f b) (xs : List α) :
    (xs.mergeSort le).Pairwise fun a b => f a ≤ f b := by
  refine (List.pairwise_mergeSort ?_ ?_ xs).imp fun {a b} => (hle a b).mp
  · intro a b c hab hbc
    exact (hle a c).mpr (((hle a b).mp hab).trans ((hle b c).mp hbc))
  · intro a b
    simp only [Bool.or_eq_true, hle]
    exact le_total (f a) (f b)

/-- Sorting keeps what holds of any two members in either order. -/
theorem pairwise_mergeSort_of_symm {R : α → α → Prop} (hsymm : ∀ {a b}, R a b → R b a)
    {xs : List α} (h : xs.Pairwise R) : (xs.mergeSort le).Pairwise R :=
  ((List.mergeSort_perm xs le).pairwise_iff hsymm).mpr h

/-- Members with distinct tuples are sorted strictly. -/
theorem pairwise_lt_mergeSort (hle : ∀ a b, le a b = true ↔ f a ≤ f b) {xs : List α}
    (hdistinct : xs.Pairwise fun a b => f a ≠ f b) :
    (xs.mergeSort le).Pairwise fun a b => f a < f b := by
  have hne : (xs.mergeSort le).Pairwise fun a b => f a ≠ f b :=
    pairwise_mergeSort_of_symm Ne.symm hdistinct
  refine ((pairwise_mergeSort_of_iff hle xs).and hne).imp ?_
  rintro a b ⟨hab, hab'⟩
  exact lt_of_le_of_ne hab hab'

/-- A list whose members have distinct tuples is sorted to the same list, in whichever order it
comes. -/
theorem mergeSort_eq_of_perm (hle : ∀ a b, le a b = true ↔ f a ≤ f b) {xs ys : List α}
    (hinj : ∀ a ∈ xs, ∀ b ∈ xs, f a = f b → a = b) (hperm : xs.Perm ys) :
    xs.mergeSort le = ys.mergeSort le := by
  refine List.Perm.eq_of_pairwise ?_ (pairwise_mergeSort_of_iff hle xs)
    (pairwise_mergeSort_of_iff hle ys) ?_
  · intro a b ha hb hab hba
    have ha' : a ∈ xs := List.mem_mergeSort.mp ha
    have hb' : b ∈ xs := hperm.mem_iff.mpr (List.mem_mergeSort.mp hb)
    exact hinj a ha' b hb' (le_antisymm hab hba)
  · exact (List.mergeSort_perm xs le).trans (hperm.trans (List.mergeSort_perm ys le).symm)

end Sorting

end HookAudit
