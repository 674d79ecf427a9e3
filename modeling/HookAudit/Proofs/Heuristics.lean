/-
# HookAudit.Proofs.Heuristics — what the heuristic scan reports.

The scan reports the families that occur in a text, in the order of the catalogue (`map_fst_hits`),
each with a finding of its own: a finding starts with the name of its family, and no two families
share a name (`nodup_findings`).  Every family weighs something, so the score is zero exactly when
no family occurs.

The expressions of the catalogue ignore case to the last set (`families_ignoresCase`), so nothing in
a report depends on the case of any letter of the text (`scan_recase`).
-/
import HookAudit.Heuristics
import HookAudit.Proofs.Regex.Case
import Mathlib.Data.List.Nodup

namespace HookAudit

namespace Heuristics

variable {content : Text} {family : HeuristicFamily} {n : Nat}

/-! ## The families that occur -/

/-- A family is reported when it occurs, with the number of its occurrences. -/
theorem mem_hits_iff :
    (family, n) ∈ hits content ↔
      family ∈ families ∧ family.pattern.count content = n ∧ 0 < n := by
  simp only [hits, List.mem_filterMap, Option.ite_none_left_eq_some, beq_iff_eq,
    Option.some.injEq, Prod.mk.injEq]
  constructor
  · rintro ⟨_, hfamily, hne, rfl, rfl⟩
    exact ⟨hfamily, rfl, Nat.pos_of_ne_zero hne⟩
  · rintro ⟨hfamily, rfl, hpos⟩
    exact ⟨family, hfamily, Nat.ne_of_gt hpos, rfl, rfl⟩

/-- **`map_fst_hits`** — the reported families are those that occur, in the order of the
catalogue. -/
theorem map_fst_hits (content : Text) :
    (hits content).map (·.1) = families.filter fun family => 0 < family.pattern.count content := by
  unfold hits
  generalize families = all
  induction all with
  | nil => rfl
  | cons family all ih =>
    rw [List.filterMap_cons, List.filter_cons, ← ih]
    cases hcount : family.pattern.count content <;> rfl

theorem nodup_names : (families.map (·.name)).Nodup := by decide

theorem weight_pos (h : family ∈ families) : 0 < family.weight := by
  have hall : ∀ family ∈ families, 0 < family.weight := by decide
  exact hall family h

/-! ## Findings -/

/-- The beginning of a finding that is the name of its family. -/
def familyName (finding : Text) : Text := finding.takeWhile (!·.is ':')

theorem familyName_finding (h : family ∈ families) (n : Nat) :
    familyName (finding family n) = family.name := by
  have hplain : ∀ family ∈ families, ∀ c ∈ family.name, (!c.is ':') = true := by decide
  have hcolon : finding family n =
      family.name ++ CodePoint.ofChar ':' :: CodePoint.ofChar ' ' ::
        (Text.ofNat n ++ (" occurrence(s)" : Text)) := by
    simp [finding, Text.ofString]
  rw [hcolon, familyName, List.takeWhile_append_of_pos (hplain family h),
    List.takeWhile_cons_of_neg (by decide), List.append_nil]

/-- **`nodup_findings`** — no two families have the same finding. -/
theorem nodup_findings (content : Text) : (scan content).findings.Nodup := by
  have hnames : (scan content).findings.map familyName = ((hits content).map (·.1)).map (·.name) := by
    show ((hits content).map fun hit => finding hit.1 hit.2).map familyName = _
    rw [List.map_map, List.map_map]
    refine List.map_congr_left fun hit hhit => ?_
    exact familyName_finding (mem_hits_iff.mp hhit).1 hit.2
  refine List.Nodup.of_map familyName ?_
  rw [hnames, map_fst_hits]
  exact nodup_names.sublist (List.filter_sublist.map _)

theorem findings_eq_nil_iff : (scan content).findings = [] ↔ hits content = [] :=
  List.map_eq_nil_iff

/-! ## The score -/

theorem total_eq_zero_iff : sumOf (·.1.weight) (hits content) = 0 ↔ hits content = [] := by
  rw [sumOf_eq_zero_iff, List.eq_nil_iff_forall_not_mem]
  refine forall_congr' fun hit => imp_congr_right fun hhit => ?_
  exact iff_of_false (Nat.ne_of_gt (weight_pos (mem_hits_iff.mp hhit).1)) id

/-! ## Letter case -/

theorem families_ignoresCase : ∀ family ∈ families, family.pattern.ignoresCase = true := by
  simp [families]

/-- Alike texts have the same families, each as often. -/
theorem hits_eq_of_alike {t u : Text} (h : t.Alike u) : hits t = hits u := by
  refine List.filterMap_congr fun family hfamily => ?_
  rw [Regex.count_eq_of_alike (families_ignoresCase family hfamily) h]

/-- **`scan_recase`** — whichever letters of a text are put in the other case, the same families
occur in it, in the same order and each as often, and the assessment is the same: flags, findings
and score. -/
theorem scan_recase (content : Text) (chosen : Nat → Bool) :
    hits (content.recase chosen) = hits content ∧
      scan (content.recase chosen) = scan content := by
  have hhits : hits (content.recase chosen) = hits content :=
    (hits_eq_of_alike (content.alike_recase chosen)).symm
  refine ⟨hhits, ?_⟩
  unfold scan
  rw [hhits]

end Heuristics

end HookAudit
