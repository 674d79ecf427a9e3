/-
# HookAudit.Proofs.Scanner.Merging — merging as a join.

The scanner merges what two analysts say of a hook.  Scores are joined by their maximum and flags by
union, both of them joins as they stand.  Findings are lists, and their join is to append and to
drop what was seen before, which is associative and idempotent though not commutative:

* `FirstSeen` says what dropping does: the same findings, by their first occurrence.  There is one
  such list, and `distinct` makes it (`firstSeen_iff`).
* `distinct_append` says what it does to two lists: the findings of the first, then those of the
  second that are new.  The laws of merging are instances of it.

A result may also carry its flags as the bits of a number, where union is the bitwise or;
`Capabilities.ofBits_or` shows that the detour through bits changes nothing.
-/
import HookAudit.Proofs.Scanner.Coherence
import HookAudit.Proofs.Scanner.Padding
import Mathlib.Data.Nat.Bitwise

namespace HookAudit

/-! ## First occurrences -/

section Distinct

variable {α : Type} [BEq α] {xs ys zs : List α}

/-- **`FirstSeen xs ys`** — the members of `xs` in the order in which they first occur there. -/
structure FirstSeen (xs ys : List α) : Prop where
  mem : ∀ x, x ∈ ys ↔ x ∈ xs
  ordered : ys.Pairwise fun x y => xs.idxOf x < xs.idxOf y

theorem FirstSeen.nodup (h : FirstSeen xs ys) : ys.Nodup :=
  h.ordered.imp fun hlt heq => hlt.ne (congrArg xs.idxOf heq)

/-- There is one list of first occurrences. -/
theorem FirstSeen.unique (hys : FirstSeen xs ys) (hzs : FirstSeen xs zs) : ys = zs := by
  have hperm : ys.Perm zs := by
    refine (List.perm_ext_iff_of_nodup hys.nodup hzs.nodup).mpr fun x => ?_
    rw [hys.mem, hzs.mem]
  refine hperm.eq_of_pairwise ?_ hys.ordered hzs.ordered
  exact fun x y _ _ hxy hyx => absurd hyx hxy.asymm

variable [LawfulBEq α]

theorem contains_distinct (xs : List α) (x : α) : (distinct xs).contains x = xs.contains x := by
  rw [Bool.eq_iff_iff, List.contains_iff_mem, List.contains_iff_mem, mem_distinct]

/-- One more member at the end is dropped when it occurred before. -/
theorem distinct_concat (xs : List α) (x : α) :
    distinct (xs ++ [x]) = if xs.contains x then distinct xs else distinct xs ++ [x] := by
  rw [← contains_distinct, distinct, List.foldl_append]
  rfl

theorem firstSeen_distinct (xs : List α) : FirstSeen xs (distinct xs) where
  mem _ := mem_distinct
  ordered := by
    induction xs using List.reverseRecOn with
    | nil => exact .nil
    | append_singleton xs x ih =>
      have hstays : (distinct xs).Pairwise fun y z =>
          (xs ++ [x]).idxOf y < (xs ++ [x]).idxOf z := by
        refine ih.imp_of_mem fun {y z} hy hz hlt => ?_
        rwa [List.idxOf_append_of_mem (mem_distinct.mp hy),
          List.idxOf_append_of_mem (mem_distinct.mp hz)]
      rw [distinct_concat]
      split
      · exact hstays
      · rename_i hnew
        have hx : x ∉ xs := by simpa using hnew
        refine List.pairwise_append.mpr ⟨hstays, List.pairwise_singleton _ _, fun y hy z hz => ?_⟩
        -- a new member stands behind all others
        rw [List.mem_singleton.mp hz, List.idxOf_append_of_mem (mem_distinct.mp hy),
          List.idxOf_append_of_notMem hx]
        exact (List.idxOf_lt_length_of_mem (mem_distinct.mp hy)).trans_le (Nat.le_add_right _ _)

/-- **`firstSeen_iff`** — the one list of first occurrences is what dropping repetitions leaves. -/
theorem firstSeen_iff : FirstSeen xs ys ↔ ys = distinct xs := by
  constructor
  · exact fun h => h.unique (firstSeen_distinct xs)
  · rintro rfl
    exact firstSeen_distinct xs

/-- Without repetitions nothing is dropped. -/
theorem distinct_of_nodup (h : xs.Nodup) : distinct xs = xs := by
  induction xs using List.reverseRecOn with
  | nil => rfl
  | append_singleton xs x ih =>
    obtain ⟨hxs, -, hapart⟩ := List.nodup_append.mp h
    have hnew : xs.contains x = false := by
      by_contra hold
      have hx : x ∈ xs := by simpa using hold
      exact hapart x hx x (List.mem_singleton_self x) rfl
    rw [distinct_concat, hnew, ih hxs]
    rfl

@[simp]
theorem distinct_distinct (xs : List α) : distinct (distinct xs) = distinct xs :=
  distinct_of_nodup (nodup_distinct xs)

/-- **`distinct_append`** — the first occurrences of two lists are those of the first, then those of
the second that the first does not have. -/
theorem distinct_append (xs ys : List α) :
    distinct (xs ++ ys) = distinct xs ++ (distinct ys).filter (!xs.contains ·) := by
  induction ys using List.reverseRecOn with
  | nil => simp [distinct]
  | append_singleton ys y ih =>
    -- the last member is new only if neither the rest of its own list nor the first list has it
    rw [← List.append_assoc, distinct_concat, distinct_concat, ih]
    by_cases hys : y ∈ ys
    · simp [hys]
    · by_cases hxs : y ∈ xs
      · simp [hys, hxs]
      · simp [hys, hxs]

/-- Repetitions can be dropped before or after members are picked. -/
theorem distinct_filter (keep : α → Bool) (xs : List α) :
    distinct (xs.filter keep) = (distinct xs).filter keep := by
  induction xs using List.reverseRecOn with
  | nil => rfl
  | append_singleton xs x ih =>
    rw [List.filter_append, distinct_concat]
    by_cases hkeep : keep x = true
    · rw [List.filter_cons_of_pos hkeep, List.filter_nil, distinct_concat, ih]
      by_cases hxs : x ∈ xs
      · simp [hxs, hkeep]
      · simp [hxs, hkeep]
    · rw [List.filter_cons_of_neg hkeep, List.filter_nil, List.append_nil, ih]
      by_cases hxs : x ∈ xs
      · simp [hxs]
      · simp [hxs, hkeep]

theorem distinct_distinct_append (xs ys : List α) :
    distinct (distinct xs ++ ys) = distinct (xs ++ ys) := by
  simp only [distinct_append, distinct_distinct, contains_distinct]

theorem distinct_append_distinct (xs ys : List α) :
    distinct (xs ++ distinct ys) = distinct (xs ++ ys) := by
  rw [distinct_append, distinct_append, distinct_distinct]

/-- What was seen before adds nothing. -/
theorem distinct_append_of_subset (h : ys ⊆ xs) : distinct (xs ++ ys) = distinct xs := by
  rw [distinct_append, List.filter_eq_nil_iff.mpr, List.append_nil]
  intro y hy
  simpa using h (mem_distinct.mp hy)

end Distinct

/-! ## Flags as bits -/

namespace Capabilities

/-- The flags as the bits of a number, the first flag as the lowest bit. -/
def bits (c : Capabilities) : Nat :=
  c.fileSystem.toNat ||| c.network.toNat <<< 1 ||| c.processExecution.toNat <<< 2 |||
    c.dangerousImports.toNat <<< 3 ||| c.credentialAccess.toNat <<< 4

/-- The flags whose bits a number has. -/
def ofBits (n : Nat) : Capabilities where
  fileSystem := n.testBit 0
  network := n.testBit 1
  processExecution := n.testBit 2
  dangerousImports := n.testBit 3
  credentialAccess := n.testBit 4

theorem ofBits_bits (c : Capabilities) : ofBits c.bits = c := by
  obtain ⟨fileSystem, network, processExecution, dangerousImports, credentialAccess⟩ := c
  cases fileSystem <;> cases network <;> cases processExecution <;> cases dangerousImports <;>
    cases credentialAccess <;> rfl

theorem ofBits_or (m n : Nat) : ofBits (m ||| n) = (ofBits m).union (ofBits n) := by
  simp only [ofBits, union, Nat.testBit_or]

end Capabilities

/-! ## Merging -/

theorem RiskLevel.rank_ofScore_max (m n : Nat) :
    (ofScore (max m n : Nat)).rank = max (ofScore m).rank (ofScore n).rank := by
  rcases le_total m n with h | h
  · rw [max_eq_right h, max_eq_right (rank_ofScore_le (Int.ofNat_le.mpr h))]
  · rw [max_eq_left h, max_eq_left (rank_ofScore_le (Int.ofNat_le.mpr h))]

namespace Assessment

variable {a b : Assessment}

theorem ext (capabilities : a.capabilities = b.capabilities) (findings : a.findings = b.findings)
    (riskScore : a.riskScore = b.riskScore) : a = b := by
  cases a
  cases b
  simp_all

/-- An assessment that tells every finding once. -/
def deduplicated (a : Assessment) : Assessment := { a with findings := distinct a.findings }

/-- Built as results are built, from the bits of its flags and with the check on its score, a merged
assessment passes. -/
theorem ofScore?_merge_bits (a b : Assessment) :
    ofScore? (.ofBits (a.capabilities.bits ||| b.capabilities.bits))
        (distinct (a.findings ++ b.findings)) (min (max (a.riskScore : Int) b.riskScore) 100) =
      .ok (a.merge b) := by
  rw [Capabilities.ofBits_or, Capabilities.ofBits_bits, Capabilities.ofBits_bits]
  exact ofScore?_merge a b

theorem merge_assoc (a b c : Assessment) : (a.merge b).merge c = a.merge (b.merge c) := by
  refine ext (Capabilities.union_assoc _ _ _) ?_ (Nat.max_assoc _ _ _)
  show distinct (distinct (a.findings ++ b.findings) ++ c.findings) =
    distinct (a.findings ++ distinct (b.findings ++ c.findings))
  rw [distinct_distinct_append, distinct_append_distinct, List.append_assoc]

theorem merge_self (a : Assessment) : a.merge a = a.deduplicated :=
  ext (Capabilities.union_self _) (distinct_append_of_subset (List.Subset.refl _)) (Nat.max_self _)

theorem deduplicated_merge (a b : Assessment) : a.deduplicated.merge b = a.merge b :=
  ext rfl (distinct_distinct_append _ _) rfl

/-- What is in an assessment already changes nothing when it is merged in again behind. -/
theorem merge_merge_left (a b : Assessment) : (a.merge b).merge a = a.merge b := by
  refine ext ?flags ?findings ?score
  case flags =>
    show (a.capabilities.union b.capabilities).union a.capabilities =
      a.capabilities.union b.capabilities
    rw [Capabilities.union_comm, ← Capabilities.union_assoc, Capabilities.union_self]
  case findings =>
    show distinct (distinct (a.findings ++ b.findings) ++ a.findings) =
      distinct (a.findings ++ b.findings)
    rw [distinct_distinct_append]
    exact distinct_append_of_subset (List.subset_append_left _ _)
  case score =>
    show max (max a.riskScore b.riskScore) a.riskScore = max a.riskScore b.riskScore
    omega

/-- Nor does it when it is merged in again in front. -/
theorem merge_left_merge (a b : Assessment) : a.merge (a.merge b) = a.merge b := by
  rw [← merge_assoc, merge_self, deduplicated_merge]

theorem merge_empty (a : Assessment) : a.merge empty = a.deduplicated := by
  refine ext (Capabilities.union_none _) ?_ (Nat.max_zero _)
  show distinct (a.findings ++ []) = distinct a.findings
  rw [List.append_nil]

theorem empty_merge (a : Assessment) : empty.merge a = a.deduplicated :=
  ext (Capabilities.none_union _) rfl (Nat.zero_max _)

/-- The findings of both, each group by its first occurrences. -/
theorem findings_merge (a b : Assessment) :
    (a.merge b).findings =
      distinct a.findings ++ distinct (b.findings.filter (!a.findings.contains ·)) := by
  rw [distinct_filter]
  exact distinct_append _ _

theorem findings_merge_perm (a b : Assessment) :
    (a.merge b).findings.Perm (b.merge a).findings := by
  refine (List.perm_ext_iff_of_nodup (nodup_distinct _) (nodup_distinct _)).mpr fun f => ?_
  simp only [mem_distinct, List.mem_append]
  exact or_comm

/-- **`merge_is_join`** — merging assessments is a join in everything but the order of findings.  It
is never refused; it is associative, and merging an assessment in again, in front or behind, changes
nothing; the empty assessment only has repeated findings dropped.  A merged assessment has the
findings of the first by first occurrence, then those of the second that are new, without
repetition; the flags of either; the higher score, and so the higher tier.  The other way round, at
most the order of the findings is another. -/
theorem merge_is_join :
    (∀ a b : Assessment,
      ofScore? (.ofBits (a.capabilities.bits ||| b.capabilities.bits))
          (distinct (a.findings ++ b.findings)) (min (max (a.riskScore : Int) b.riskScore) 100) =
        .ok (a.merge b)) ∧
      (∀ a b c : Assessment, (a.merge b).merge c = a.merge (b.merge c)) ∧
      (∀ a b : Assessment, (a.merge b).merge a = a.merge b ∧ a.merge (a.merge b) = a.merge b) ∧
      (∀ a : Assessment, a.merge empty = a.deduplicated ∧ empty.merge a = a.deduplicated) ∧
      (∀ a b : Assessment, (a.merge b).findings.Nodup ∧
        ∃ first new, (a.merge b).findings = first ++ new ∧ FirstSeen a.findings first ∧
          FirstSeen (b.findings.filter (!a.findings.contains ·)) new) ∧
      (∀ a b : Assessment,
        (a.merge b).capabilities = a.capabilities.union b.capabilities ∧
          (a.merge b).riskScore = max a.riskScore b.riskScore ∧
          (a.merge b).level.rank = max a.level.rank b.level.rank) ∧
      ∀ a b : Assessment,
        (a.merge b).capabilities = (b.merge a).capabilities ∧
          (a.merge b).riskScore = (b.merge a).riskScore ∧
          (a.merge b).findings.Perm (b.merge a).findings := by
  refine ⟨ofScore?_merge_bits, merge_assoc, fun a b => ?again, fun a => ?empty,
    fun a b => ?findings, fun a b => ?join, fun a b => ?swapped⟩
  case again => exact ⟨merge_merge_left a b, merge_left_merge a b⟩
  case empty => exact ⟨merge_empty a, empty_merge a⟩
  case findings =>
    exact ⟨nodup_distinct _, _, _, findings_merge a b, firstSeen_distinct _, firstSeen_distinct _⟩
  case join => exact ⟨rfl, rfl, RiskLevel.rank_ofScore_max a.riskScore b.riskScore⟩
  case swapped =>
    exact ⟨Capabilities.union_comm _ _, Nat.max_comm _ _, findings_merge_perm a b⟩

end Assessment

end HookAudit
