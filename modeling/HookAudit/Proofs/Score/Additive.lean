/-
# HookAudit.Proofs.Score.Additive — groups of captures that do not touch.

When no capture of one list overlaps a capture of another, the two can be scored apart.  Their
captures may interleave in counting order in any way; since the rule of counting only asks about
overlapping captures, the greedy selection from both lists together is the union of the two
selections (`mem_counted_append`).  Scores then add up to the cap, and capabilities and findings are
joined.

Proper ranges matter at one place.  A range that ends before it starts does not overlap itself, so
the same capture could stand in both lists and would be counted once; `key_ne_of_apart` rules this
out.
-/
import HookAudit.Proofs.Score.Invariance

namespace HookAudit.Score

variable {A B : List Capture} {c : Capture}

/-! ## Two groups -/

section Apart

variable (hproper : ∀ a ∈ A, a.start ≤ a.stop) (hapart : ∀ a ∈ A, ∀ b ∈ B, meets a b = false)
include hproper hapart

theorem key_ne_of_apart {a b : Capture} (ha : a ∈ A) (hb : b ∈ B) : a.key ≠ b.key := by
  intro hkey
  simp only [Capture.key, Prod.mk.injEq] at hkey
  have hself : a.overlaps a.start a.stop = true := Capture.overlaps_self (hproper a ha)
  have hfree : a.overlaps b.start b.stop = false := hapart a ha b hb
  rw [← hkey.2.1, ← hkey.2.2, hself] at hfree
  exact Bool.noConfusion hfree

/-- No key of one group is a key of the other, so nothing new is a repetition. -/
theorem firstOfKey_append_of_apart :
    FirstOfKey (A ++ B) c ↔ FirstOfKey A c ∨ FirstOfKey B c := by
  rw [firstOfKey_append]
  constructor
  · exact Or.imp id And.left
  · refine Or.imp id fun hB => ⟨hB, ?_⟩
    exact fun a ha => key_ne_of_apart hproper hapart ha hB.mem

/-- **`mem_counted_append`** — what counts in two groups together is what counts in each. -/
theorem mem_counted_append : c ∈ counted (A ++ B) ↔ c ∈ counted A ∨ c ∈ counted B := by
  have hpool : {c | FirstOfKey (A ++ B) c} = {c | FirstOfKey A c} ∪ {c | FirstOfKey B c} := by
    ext c
    exact firstOfKey_append_of_apart hproper hapart
  have hAB : ∀ a ∈ {c | FirstOfKey A c}, ∀ b ∈ {c | FirstOfKey B c}, a ≠ b ∧ meets a b = false := by
    intro a ha b hb
    have hkey : a.key ≠ b.key := key_ne_of_apart hproper hapart ha.mem hb.mem
    exact ⟨fun heq => hkey (congrArg Capture.key heq), hapart a ha.mem b hb.mem⟩
  have hBA : ∀ b ∈ {c | FirstOfKey B c}, ∀ a ∈ {c | FirstOfKey A c}, b ≠ a ∧ meets b a = false := by
    intro b hb a ha
    obtain ⟨hne, hfree⟩ := hAB a ha b hb
    exact ⟨hne.symm, (meets_comm b a).trans hfree⟩
  have hunion : CountsExactly (A ++ B) ({c | c ∈ counted A} ∪ {c | c ∈ counted B}) := by
    rw [CountsExactly, hpool]
    exact (countsExactly_counted A).union (countsExactly_counted B) hAB hBA
  -- only one set counts exactly, so the union is what counts
  have hcounted := countsExactly_iff.mp hunion
  exact (Set.ext_iff.mp hcounted c).symm

theorem unique_append_perm : (unique (A ++ B)).Perm (unique A ++ unique B) := by
  have hnodup : (unique A ++ unique B).Nodup := by
    refine List.nodup_append.mpr ⟨nodup_unique A, nodup_unique B, ?_⟩
    intro a ha b hb heq
    have hkey := key_ne_of_apart hproper hapart (mem_of_mem_unique ha) (mem_of_mem_unique hb)
    exact hkey (congrArg Capture.key heq)
  apply (List.perm_ext_iff_of_nodup (nodup_unique _) hnodup).mpr
  intro c
  rw [List.mem_append, mem_unique_iff, mem_unique_iff, mem_unique_iff]
  exact firstOfKey_append_of_apart hproper hapart

/-- The weights of two groups add. -/
theorem total_counted_append :
    total (counted (A ++ B)) = total (counted A) + total (counted B) := by
  have hnodup : (counted A ++ counted B).Nodup := by
    refine List.nodup_append.mpr ⟨nodup_counted A, nodup_counted B, ?_⟩
    intro a ha b hb heq
    have hkey := key_ne_of_apart hproper hapart (firstOfKey_of_mem_counted ha).mem
      (firstOfKey_of_mem_counted hb).mem
    exact hkey (congrArg Capture.key heq)
  have hperm : (counted (A ++ B)).Perm (counted A ++ counted B) := by
    apply (List.perm_ext_iff_of_nodup (nodup_counted _) hnodup).mpr
    intro c
    rw [List.mem_append]
    exact mem_counted_append hproper hapart
  rw [total_eq_sum, (hperm.map _).sum_nat, List.map_append, List.sum_append_nat, ← total_eq_sum,
    ← total_eq_sum]

theorem capabilities_append :
    capabilities (A ++ B) = (capabilities A).union (capabilities B) := by
  rw [capabilities, Capabilities.unions_eq_of_perm ((unique_append_perm hproper hapart).map _),
    List.map_append, Capabilities.unions_append]
  rfl

theorem mem_findings_append {f : Text} :
    f ∈ findings (A ++ B) ↔ f ∈ findings A ∨ f ∈ findings B := by
  simp only [mem_findings, firstOfKey_append_of_apart hproper hapart, or_and_right, exists_or]

/-- The scores of two groups add up to the cap. -/
theorem riskScore_append :
    (report (A ++ B)).riskScore = min ((report A).riskScore + (report B).riskScore) 100 := by
  have htotal := total_counted_append hproper hapart
  simp only [report]
  omega

end Apart

/-! ## The report on both groups -/

theorem counted_singleton (c : Capture) : counted [c] = [c] := by
  simp [counted, unique, select]

/-- One more capture that overlaps none adds its weight. -/
theorem riskScore_append_singleton (hproper : ∀ a ∈ A, a.start ≤ a.stop)
    (hapart : ∀ a ∈ A, ∀ b ∈ [c], meets a b = false) :
    (report (A ++ [c])).riskScore = min ((report A).riskScore + severity c.name) 100 := by
  have hweight : total (counted [c]) = severity c.name := by
    simp [counted_singleton, total_eq_sum]
  have htotal := total_counted_append hproper hapart
  simp only [report]
  omega

/-- **`report_append_of_apart`** — the report on two groups that do not overlap: what counts, the
capabilities and the findings are those of either group, and the scores add up to the cap.  In
particular one more capture that overlaps none displaces nothing that counts and adds exactly its
weight, up to the cap. -/
theorem report_append_of_apart (hproper : ∀ c ∈ A ++ B, c.start ≤ c.stop)
    (hapart : ∀ a ∈ A, ∀ b ∈ B, a.overlaps b.start b.stop = false) :
    (∀ c, c ∈ (report (A ++ B)).counted ↔ c ∈ (report A).counted ∨ c ∈ (report B).counted) ∧
      (report (A ++ B)).riskScore = min ((report A).riskScore + (report B).riskScore) 100 ∧
      (report (A ++ B)).capabilities = (report A).capabilities.union (report B).capabilities ∧
      (∀ f, f ∈ (report (A ++ B)).findings ↔ f ∈ (report A).findings ∨ f ∈ (report B).findings) ∧
      ∀ c, (∀ a ∈ A, a.overlaps c.start c.stop = false) →
        (∀ k ∈ (report A).counted, k ∈ (report (A ++ [c])).counted) ∧
          (report (A ++ [c])).riskScore = min ((report A).riskScore + severity c.name) 100 := by
  have hproperA : ∀ a ∈ A, a.start ≤ a.stop := fun a ha => hproper a (List.mem_append_left B ha)
  refine ⟨?counted, ?score, ?capabilities, ?findings, ?one_more⟩
  case counted => exact fun c => mem_counted_append hproperA hapart
  case score => exact riskScore_append hproperA hapart
  case capabilities => exact capabilities_append hproperA hapart
  case findings => exact fun f => mem_findings_append hproperA hapart
  case one_more =>
    intro c hc
    have hone : ∀ a ∈ A, ∀ b ∈ [c], meets a b = false := by
      intro a ha b hb
      rw [List.mem_singleton.mp hb]
      exact hc a ha
    refine ⟨?_, riskScore_append_singleton hproperA hone⟩
    exact fun k hk => (mem_counted_append hproperA hone).mpr (Or.inl hk)

/-- A shell call with a download inside: two captures, one of which counts. -/
def nestedCall : List Capture :=
  [⟨"danger.exec", 0, 10, 1, 1, "sh -c curl"⟩, ⟨"warn.net", 5, 8, 1, 6, "curl"⟩]

/-- A deletion that starts where the call ends; its weight lies between those of the call. -/
def laterDelete : List Capture := [⟨"danger.fsdelete", 10, 20, 1, 11, "rm -rf"⟩]

/-- The call and the deletion touch, interleave in counting order, and score 30 and 25. -/
theorem report_append_of_touching_groups :
    (∀ c ∈ nestedCall ++ laterDelete, c.start ≤ c.stop) ∧
      (∀ a ∈ nestedCall, ∀ b ∈ laterDelete, a.overlaps b.start b.stop = false) ∧
      (report (nestedCall ++ laterDelete)).riskScore = 55 := by
  have hproper : ∀ c ∈ nestedCall ++ laterDelete, c.start ≤ c.stop := by decide
  have hapart : ∀ a ∈ nestedCall, ∀ b ∈ laterDelete, a.overlaps b.start b.stop = false := by
    decide
  have hranked : (unique nestedCall).mergeSort countingLe = nestedCall :=
    List.mergeSort_of_pairwise (by decide)
  have hcall : counted nestedCall = [⟨"danger.exec", 0, 10, 1, 1, "sh -c curl"⟩] := by
    rw [counted, hranked]
    exact List.mergeSort_singleton _
  have hdelete : counted laterDelete = laterDelete := counted_singleton _
  refine ⟨hproper, hapart, ?_⟩
  rw [(report_append_of_apart hproper hapart).2.1]
  simp only [report, hcall, hdelete]
  decide

end HookAudit.Score
