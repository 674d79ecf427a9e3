/-
# HookAudit.Proofs.Score.Relevance — only what counts can matter.

A capture that is visited and turned away leaves no trace in the pass: the captures after it are
asked about what was kept, never about what was turned away.  So captures that do not count can be
dropped from the list, repeated in it or moved about in it, and what counts stays what it was.

Followed along the visiting order this is an induction.  Here it is a property of the rule that says
what counts: the rule asks each member of the pool about the selected members alone, so a selection
that obeys it over a pool obeys it over every part of the pool that still holds the selection
(`Greedy.restrict`), and over that part too there is one selection that does.
-/
import HookAudit.Proofs.Score.Invariance
import Mathlib.Data.List.Perm.Subperm

namespace HookAudit

/-- A greedy selection is greedy in every part of its pool that still holds it. -/
theorem Greedy.restrict {α : Type} {clash : α → α → Bool} {before : α → α → Prop} {P Q S : Set α}
    (hS : Greedy clash before P S) (hSQ : S ⊆ Q) (hQP : Q ⊆ P) : Greedy clash before Q S where
  subset := hSQ
  rule x hx := hS.rule x (hQP hx)

namespace Score

variable {L M : List Capture}

/-- What counts comes from the list. -/
theorem counted_subset (L : List Capture) : counted L ⊆ L :=
  fun _ h => (firstOfKey_of_mem_counted h).mem

/-- Sorted by place, the counted captures of two lists are the same list as soon as they have the
same members. -/
theorem counted_eq_of_same_members (h : ∀ c, c ∈ counted M ↔ c ∈ counted L) :
    counted M = counted L := by
  have hperm : (counted M).Perm (counted L) :=
    (List.perm_ext_iff_of_nodup (nodup_counted M) (nodup_counted L)).mpr h
  refine hperm.eq_of_pairwise ?_ (pairwise_place_counted M) (pairwise_place_counted L)
  exact fun a b _ _ hab hba => absurd hba (lt_asymm hab)

/-! ## Captures that agree with one another -/

/-- Where key decides everything, the pool of the counting rule is the list itself. -/
theorem Agreeing.pool (hagree : Agreeing L) : {c | FirstOfKey L c} = {c | c ∈ L} := by
  ext c
  exact mem_unique_iff.symm.trans (mem_unique_of_agreeing hagree)

/-- A list between what another list counts and that list counts the same captures. -/
theorem counted_eq_of_agreeing (hagree : Agreeing L) (hML : M ⊆ L) (hcounted : counted L ⊆ M) :
    counted M = counted L := by
  have hagreeM : Agreeing M := fun c hc d hd => hagree c (hML hc) d (hML hd)
  have hL : CountsExactly L {c | c ∈ counted L} := countsExactly_counted L
  -- what `L` counts obeys the rule over `M` too, and only what `M` counts does that
  have hM : CountsExactly M {c | c ∈ counted L} := by
    rw [CountsExactly, hagree.pool] at hL
    rw [CountsExactly, hagreeM.pool]
    exact hL.restrict hcounted hML
  refine counted_eq_of_same_members fun c => ?_
  exact (Set.ext_iff.mp (countsExactly_iff.mp hM) c).symm

/-! ## Captures that share keys only -/

/-- Stripped to their keys, what counts is the same. -/
theorem counted_map_bare_eq (hML : M ⊆ L) (hcounted : counted L ⊆ M) :
    (counted M).map Capture.bare = (counted L).map Capture.bare := by
  rw [← counted_map_bare, ← counted_map_bare]
  refine counted_eq_of_agreeing (agreeing_map_bare L) (List.map_subset _ hML) ?_
  rw [counted_map_bare]
  exact List.map_subset _ hcounted

/-- Scoring what was counted once more counts all of it, as it was. -/
theorem counted_counted (L : List Capture) : counted (counted L) = counted L := by
  have hbare : (counted (counted L)).map Capture.bare = (counted L).map Capture.bare :=
    counted_map_bare_eq (counted_subset L) (List.Subset.refl _)
  -- nothing else comes in, and none of it is lost, for there is as much of it as before
  have hsubperm : (counted (counted L)).Subperm (counted L) :=
    List.subperm_of_subset (nodup_counted _) (counted_subset _)
  have hlength : (counted L).length ≤ (counted (counted L)).length := by
    simpa using (congrArg List.length hbare).ge
  have hperm := hsubperm.perm_of_length_le hlength
  exact counted_eq_of_same_members fun c => hperm.mem_iff

/-- **`report_counted_eq_of_covering`** — a list made of captures of another list, in any order and
with any repetitions, that leaves out none of those which the other list counts: whatever the cap,
its report counts the same names and ranges and has the same score.  In particular a report on the
counted captures alone counts them all, and has the score that they had. -/
theorem report_counted_eq_of_covering (hML : ∀ c ∈ M, c ∈ L) (hcounted : ∀ c ∈ counted L, c ∈ M)
    (limit : Int) :
    (report M limit).counted.map Capture.key = (report L limit).counted.map Capture.key ∧
      (report M limit).riskScore = (report L limit).riskScore ∧
      (report (report L limit).counted limit).counted = (report L limit).counted ∧
      (report (report L limit).counted limit).riskScore = (report L limit).riskScore := by
  have hbare := counted_map_bare_eq hML hcounted
  refine ⟨?keys, ?score, ?again, ?again_score⟩
  case keys =>
    show (counted M).map Capture.key = (counted L).map Capture.key
    rw [← map_key_map_bare (counted M), hbare, map_key_map_bare]
  case score =>
    have htotal : total (counted M) = total (counted L) := by
      rw [← total_map_bare (counted M), hbare, total_map_bare]
    exact congrArg (fun n : Nat => min (n : Int) limit) htotal
  case again => exact counted_counted L
  case again_score =>
    exact congrArg (fun kept => min (total kept : Int) limit) (counted_counted L)

/-- A shell call, a deletion behind it, and a download that overlaps both and is turned away. -/
def bridgedPair : List Capture :=
  [⟨"danger.exec", 0, 10, 1, 1, "sh -c curl"⟩, ⟨"danger.fsdelete", 12, 20, 1, 13, "rm -rf /"⟩,
    ⟨"warn.net", 5, 15, 1, 6, "curl | rm"⟩]

/-- The call and the deletion of `bridgedPair`, backwards and with the call twice. -/
def pairBackwards : List Capture :=
  [⟨"danger.fsdelete", 12, 20, 1, 13, "rm -rf /"⟩, ⟨"danger.exec", 0, 10, 1, 1, "sh -c curl"⟩,
    ⟨"danger.exec", 0, 10, 1, 1, "sh -c curl"⟩]

/-- Without the download in between, the pair scores what it scored. -/
theorem report_pairBackwards :
    (∀ c ∈ pairBackwards, c ∈ bridgedPair) ∧ (∀ c ∈ counted bridgedPair, c ∈ pairBackwards) ∧
      (report pairBackwards).riskScore = 55 := by
  have hsub : ∀ c ∈ pairBackwards, c ∈ bridgedPair := by decide
  have hranked : (unique bridgedPair).mergeSort countingLe = bridgedPair :=
    List.mergeSort_of_pairwise (by decide)
  have hcounted : counted bridgedPair =
      [⟨"danger.exec", 0, 10, 1, 1, "sh -c curl"⟩,
        ⟨"danger.fsdelete", 12, 20, 1, 13, "rm -rf /"⟩] := by
    rw [counted, hranked]
    exact List.mergeSort_of_pairwise (by decide)
  have hkept : ∀ c ∈ counted bridgedPair, c ∈ pairBackwards := by
    rw [hcounted]
    decide
  refine ⟨hsub, hkept, ?_⟩
  rw [(report_counted_eq_of_covering hsub hkept 100).2.1]
  simp only [report, hcounted]
  decide

end Score

end HookAudit
