/-
# HookAudit.Proofs.Score.Greedy — what it means to count.

Scoring counts a stretch of source once, at its most severe reading.  The pass that does so visits
the unique captures by rank and keeps those that overlap none kept before.  Its result has a meaning
of its own: `CountsExactly captures S` says that a capture is in `S` exactly when no member of `S`
of smaller rank overlaps it.  `countsExactly_iff` shows that the counted captures are the one set
with that property, and the familiar facts follow from it: counted ranges do not overlap, and
whatever is left out overlaps something counted that weighs at least as much.

Ranges need not be proper for any of this.  An empty range overlaps only itself, and overlapping is
symmetric also for a range that ends before it starts.
-/
import HookAudit.Proofs.Score.Order
import HookAudit.Proofs.Score.Unique
import HookAudit.Sum
import Mathlib.Algebra.GroupWithZero.Nat
import Mathlib.Data.List.Pairwise

namespace HookAudit

/-! ## Overlapping -/

theorem Capture.overlaps_comm (a b : Capture) :
    a.overlaps b.start b.stop = b.overlaps a.start a.stop := by
  rw [Bool.eq_iff_iff]
  simp only [Capture.overlaps, Bool.or_eq_true, beq_iff_eq]
  split <;> split <;> simp only [Bool.and_eq_true, beq_iff_eq, decide_eq_true_eq] <;> omega

/-- A proper range, be it empty, overlaps itself. -/
theorem Capture.overlaps_self {c : Capture} (h : c.start ≤ c.stop) :
    c.overlaps c.start c.stop = true := by
  simp only [Capture.overlaps, Bool.or_eq_true, beq_iff_eq, or_self]
  split
  · simp
  · simp only [Bool.and_eq_true, decide_eq_true_eq]
    omega

/-- Two ranges with a byte in common overlap. -/
theorem Capture.overlaps_of_shared_byte {a b : Capture} {i : Int} (ha : a.start ≤ i ∧ i < a.stop)
    (hb : b.start ≤ i ∧ i < b.stop) : a.overlaps b.start b.stop = true := by
  simp only [Capture.overlaps, Bool.or_eq_true, beq_iff_eq]
  rw [if_neg (by omega)]
  simp only [Bool.and_eq_true, decide_eq_true_eq]
  omega

namespace Score

variable {captures : List Capture} {c : Capture} {S : Set Capture}

/-! ## Counting as a rule -/

/-- Whether the ranges of two captures overlap. -/
def meets (a b : Capture) : Bool := a.overlaps b.start b.stop

/-- A capture precedes another in counting order. -/
def Precedes (a b : Capture) : Prop := rank a < rank b

/-- **`CountsExactly captures S`** — `S` holds those first captures of a name and range that no
member of `S` preceding them overlaps. -/
def CountsExactly (captures : List Capture) (S : Set Capture) : Prop :=
  Greedy meets Precedes {c | FirstOfKey captures c} S

theorem Precedes.asymm (a b : Capture) (h : Precedes a b) : ¬ Precedes b a := lt_asymm h

/-- Preceding captures are at least as heavy. -/
theorem Precedes.severity_le {a b : Capture} (h : Precedes a b) :
    severity b.name ≤ severity a.name := by
  simp only [Precedes, rank, Prod.Lex.toLex_lt_toLex] at h
  omega

/-- The unique captures in counting order. -/
def ranked (captures : List Capture) : List Capture := (unique captures).mergeSort countingLe

theorem mem_ranked : c ∈ ranked captures ↔ FirstOfKey captures c := by
  rw [ranked, List.mem_mergeSort, mem_unique_iff]

/-- Unique captures have distinct keys, so the counting order is strict on them. -/
theorem pairwise_precedes_ranked (captures : List Capture) :
    (ranked captures).Pairwise Precedes := by
  refine pairwise_lt_mergeSort countingLe_iff ((pairwise_key_unique captures).imp ?_)
  intro a b hkey hrank
  exact hkey (rank_eq_iff.mp hrank)

/-- The counted captures before they are put in source order. -/
theorem select_eq_firstCome (captures : List Capture) :
    select captures = firstCome meets captures := rfl

theorem mem_counted : c ∈ counted captures ↔ c ∈ firstCome meets (ranked captures) := by
  rw [counted, List.mem_mergeSort, select_eq_firstCome, ranked]

/-- **`countsExactly_iff`** — the counted captures are the one set that counts exactly. -/
theorem countsExactly_iff : CountsExactly captures S ↔ S = {c | c ∈ counted captures} := by
  have hpool : {c | FirstOfKey captures c} = {c | c ∈ ranked captures} := by
    ext c
    exact mem_ranked.symm
  have hkept : {c | c ∈ counted captures} = {c | c ∈ firstCome meets (ranked captures)} := by
    ext c
    exact mem_counted
  rw [CountsExactly, hpool, hkept]
  exact greedy_iff Precedes.asymm (pairwise_precedes_ranked captures)

theorem countsExactly_counted (captures : List Capture) :
    CountsExactly captures {c | c ∈ counted captures} := countsExactly_iff.mpr rfl

/-! ## What follows from the rule -/

theorem firstOfKey_of_mem_counted (h : c ∈ counted captures) : FirstOfKey captures c :=
  (countsExactly_counted captures).subset h

/-- **`exists_heavier_of_not_counted`** — a capture that adds nothing overlaps a counted one that
weighs at least as much. -/
theorem exists_heavier_of_not_counted (hfirst : FirstOfKey captures c)
    (hout : c ∉ counted captures) :
    ∃ k ∈ counted captures, meets c k = true ∧ severity c.name ≤ severity k.name := by
  have hrule := (countsExactly_counted captures).rule c hfirst
  -- being left out, `c` breaks the condition of the rule at some member
  have hblocked : ¬ ∀ k ∈ counted captures, Precedes k c → meets c k = false := fun hfree =>
    hout (hrule.mpr hfree)
  push Not at hblocked
  obtain ⟨k, hk, hprecedes, hmeets⟩ := hblocked
  exact ⟨k, hk, by simpa using hmeets, hprecedes.severity_le⟩

/-- The counted captures are listed by strictly increasing place. -/
theorem pairwise_place_counted (captures : List Capture) :
    (counted captures).Pairwise fun a b => a.place < b.place := by
  refine pairwise_lt_mergeSort Capture.positionLe_iff ?_
  have hkept : (firstCome meets (ranked captures)).Sublist (ranked captures) := firstCome_sublist _
  refine ((pairwise_precedes_ranked captures).sublist hkept).imp ?_
  intro a b hlt hplace
  exact hlt.ne (rank_eq_iff.mpr (Capture.place_eq_iff.mp hplace))

theorem nodup_counted (captures : List Capture) : (counted captures).Nodup :=
  (pairwise_place_counted captures).imp fun hlt heq => hlt.ne (congrArg Capture.place heq)

theorem meets_comm (a b : Capture) : meets a b = meets b a := Capture.overlaps_comm a b

instance : Std.Symm fun a b => meets a b = false where
  symm a b h := (meets_comm b a).trans h

/-- The counted captures do not overlap one another. -/
theorem pairwise_apart_counted (captures : List Capture) :
    (counted captures).Pairwise fun a b => meets a b = false := by
  refine pairwise_mergeSort_of_symm (fun {a b} h => (meets_comm b a).trans h) ?_
  rw [select_eq_firstCome]
  refine (pairwise_firstCome (ranked captures)).imp ?_
  intro a b hfree
  exact (meets_comm a b).trans hfree

/-- No byte lies in two counted ranges. -/
theorem no_byte_counted_twice {a b : Capture} (ha : a ∈ counted captures)
    (hb : b ∈ counted captures) (hne : a ≠ b) (i : Int) :
    ¬ ((a.start ≤ i ∧ i < a.stop) ∧ b.start ≤ i ∧ i < b.stop) := by
  rintro ⟨hia, hib⟩
  have hapart : meets a b = false := (pairwise_apart_counted captures).forall ha hb hne
  have hmeets : meets a b = true := Capture.overlaps_of_shared_byte hia hib
  exact Bool.false_ne_true (hapart.symm.trans hmeets)

/-! ## The report -/

/-- The findings are those of the unique captures. -/
theorem mem_findings {f : Text} :
    f ∈ findings captures ↔ ∃ c, FirstOfKey captures c ∧ c.finding = f := by
  simp only [findings, mem_distinct, List.mem_map, List.mem_mergeSort, mem_unique_iff]

/-- The total is the sum of the counted weights. -/
theorem total_eq_sum (captures : List Capture) :
    total captures = (captures.map fun c => severity c.name).sum := by
  unfold total
  induction captures with
  | nil => rfl
  | cons c captures ih => rw [sumOf, ih, List.map_cons, List.sum_cons]

/-- **`report_counts_exactly`** — for any captures and any cap, what the report counts is the one
set that counts exactly, listed by strictly increasing place.  So the counted ranges do not overlap
and share no byte, a first capture that is left out overlaps a counted one at least as heavy, and
the score is the capped sum of the counted weights. -/
theorem report_counts_exactly (captures : List Capture) (limit : Int) :
    let kept := (report captures limit).counted
    (∀ S : Set Capture, CountsExactly captures S ↔ S = {c | c ∈ kept}) ∧
      kept.Pairwise (fun a b => a.place < b.place) ∧
      kept.Pairwise (fun a b => a.overlaps b.start b.stop = false) ∧
      (∀ c, FirstOfKey captures c → c ∉ kept →
        ∃ k ∈ kept, c.overlaps k.start k.stop = true ∧ severity c.name ≤ severity k.name) ∧
      (∀ a ∈ kept, ∀ b ∈ kept, a ≠ b → ∀ i : Int,
        ¬ ((a.start ≤ i ∧ i < a.stop) ∧ b.start ≤ i ∧ i < b.stop)) ∧
      (report captures limit).riskScore =
        min (((kept.map fun c => severity c.name).sum : Nat) : Int) limit := by
  intro kept
  refine ⟨?unique, ?sorted, ?apart, ?left_out, ?bytes, ?score⟩
  case unique => exact fun S => countsExactly_iff
  case sorted => exact pairwise_place_counted captures
  case apart => exact pairwise_apart_counted captures
  case left_out => exact fun c hfirst hout => exists_heavier_of_not_counted hfirst hout
  case bytes => exact fun a ha b hb hne i => no_byte_counted_twice ha hb hne i
  case score => exact congrArg (fun n : Nat => min (n : Int) limit) (total_eq_sum _)

end Score

end HookAudit
