/-
# HookAudit.Proofs.Score.Invariance — the report sees a set of captures.

Every pass of scoring is sensitive to order: repetitions are dropped at their second occurrence, and
sorting is stable.  The report is not.  When key decides the rest of a capture, the unique captures
of two lists with the same members are permutations of each other, distinct captures never tie in
either sorting order, and so everything computed from them agrees (`report_eq_of_same_captures`).

Without that hypothesis lines, columns and snippets may come from different captures, and only they
may: stripping captures to their keys (`Capture.bare`) commutes with every pass, and stripped
captures always agree.  So score, capabilities and the counted keys depend on the set of keys alone
(`report_keys_eq_of_same_keys`).
-/
import HookAudit.Proofs.Capabilities
import HookAudit.Proofs.Score.Greedy

namespace HookAudit

namespace Score

variable {A B : List Capture}

/-! ## The same captures -/

theorem Agreeing.of_same (hagree : Agreeing A) (hsame : ∀ c, c ∈ A ↔ c ∈ B) : Agreeing B :=
  fun c hc d hd => hagree c ((hsame c).mpr hc) d ((hsame d).mpr hd)

theorem unique_perm_of_same (hagree : Agreeing A) (hsame : ∀ c, c ∈ A ↔ c ∈ B) :
    (unique A).Perm (unique B) := by
  apply (List.perm_ext_iff_of_nodup (nodup_unique A) (nodup_unique B)).mpr
  intro c
  rw [mem_unique_of_agreeing hagree, mem_unique_of_agreeing (hagree.of_same hsame)]
  exact hsame c

theorem counted_eq_of_perm (hperm : (unique A).Perm (unique B)) : counted A = counted B := by
  have hranked : ranked A = ranked B := by
    refine mergeSort_eq_of_perm countingLe_iff ?_ hperm
    exact fun c hc d hd h => eq_of_key_eq hc hd (rank_eq_iff.mp h)
  exact congrArg (fun xs => (select xs).mergeSort Capture.positionLe) hranked

theorem findings_eq_of_perm (hperm : (unique A).Perm (unique B)) : findings A = findings B := by
  have hplaced :
      (unique A).mergeSort Capture.positionLe = (unique B).mergeSort Capture.positionLe := by
    refine mergeSort_eq_of_perm Capture.positionLe_iff ?_ hperm
    exact fun c hc d hd h => eq_of_key_eq hc hd (Capture.place_eq_iff.mp h)
  rw [findings, findings, hplaced]

theorem capabilities_eq_of_perm (hperm : (unique A).Perm (unique B)) :
    capabilities A = capabilities B :=
  Capabilities.unions_eq_of_perm (hperm.map _)

/-- **`report_eq_of_same_captures`** — lists with the same captures have the same report. -/
theorem report_eq_of_same_captures (hagree : Agreeing A) (hsame : ∀ c, c ∈ A ↔ c ∈ B)
    (limit : Int) : report A limit = report B limit := by
  have hperm := unique_perm_of_same hagree hsame
  rw [report, report, counted_eq_of_perm hperm, findings_eq_of_perm hperm,
    capabilities_eq_of_perm hperm]

theorem ofCaptures_eq_of_same_captures (hagree : Agreeing A) (hsame : ∀ c, c ∈ A ↔ c ∈ B) :
    Assessment.ofCaptures A = Assessment.ofCaptures B := by
  have hperm := unique_perm_of_same hagree hsame
  rw [Assessment.ofCaptures, Assessment.ofCaptures, counted_eq_of_perm hperm,
    findings_eq_of_perm hperm, capabilities_eq_of_perm hperm]

end Score

/-! ## Captures stripped to their keys -/

/-- The capture with a given name and range and nothing else. -/
def Capture.ofKey (key : Text × Int × Int) : Capture := ⟨key.1, key.2.1, key.2.2, 0, 0, []⟩

/-- A capture without line, column and snippet. -/
def Capture.bare (c : Capture) : Capture := .ofKey c.key

namespace Score

variable {A B : List Capture}

theorem unique_map_bare (captures : List Capture) :
    unique (captures.map Capture.bare) = (unique captures).map Capture.bare :=
  firstCome_map (fun _ _ => rfl) captures

/-- Sorting by a comparison of keys commutes with stripping. -/
theorem mergeSort_map_bare {le : Capture → Capture → Bool}
    (hle : ∀ a b, le a b = le a.bare b.bare) (captures : List Capture) :
    (captures.map Capture.bare).mergeSort le = (captures.mergeSort le).map Capture.bare :=
  (List.map_mergeSort fun a _ b _ => hle a b).symm

theorem counted_map_bare (captures : List Capture) :
    counted (captures.map Capture.bare) = (counted captures).map Capture.bare := by
  have hranked : ranked (captures.map Capture.bare) = (ranked captures).map Capture.bare := by
    rw [ranked, ranked, unique_map_bare]
    exact mergeSort_map_bare (fun _ _ => rfl) (unique captures)
  have hselect : select (ranked (captures.map Capture.bare)) =
      (select (ranked captures)).map Capture.bare := by
    rw [hranked]
    exact firstCome_map (fun _ _ => rfl) (ranked captures)
  show (select (ranked (captures.map Capture.bare))).mergeSort Capture.positionLe = _
  rw [hselect]
  exact mergeSort_map_bare (fun _ _ => rfl) (select (ranked captures))

theorem total_map_bare (captures : List Capture) :
    total (captures.map Capture.bare) = total captures := by
  rw [total_eq_sum, total_eq_sum, List.map_map]
  rfl

theorem capabilities_map_bare (captures : List Capture) :
    capabilities (captures.map Capture.bare) = capabilities captures := by
  rw [capabilities, capabilities, unique_map_bare, List.map_map]
  rfl

theorem map_key_map_bare (captures : List Capture) :
    (captures.map Capture.bare).map Capture.key = captures.map Capture.key := by
  rw [List.map_map]
  rfl

theorem agreeing_map_bare (captures : List Capture) : Agreeing (captures.map Capture.bare) := by
  intro c hc d hd hkey
  obtain ⟨c, _, rfl⟩ := List.mem_map.mp hc
  obtain ⟨d, _, rfl⟩ := List.mem_map.mp hd
  exact congrArg Capture.ofKey hkey

/-- **`report_keys_eq_of_same_keys`** — lists with the same keys have the same score, the same
capabilities and the same counted keys. -/
theorem report_keys_eq_of_same_keys
    (hsame : ∀ k, k ∈ A.map Capture.key ↔ k ∈ B.map Capture.key) (limit : Int) :
    (report A limit).riskScore = (report B limit).riskScore ∧
      (report A limit).capabilities = (report B limit).capabilities ∧
      (report A limit).counted.map Capture.key = (report B limit).counted.map Capture.key := by
  have hbare : ∀ c, c ∈ A.map Capture.bare ↔ c ∈ B.map Capture.bare := by
    intro c
    show c ∈ A.map (Capture.ofKey ∘ Capture.key) ↔ c ∈ B.map (Capture.ofKey ∘ Capture.key)
    rw [← List.map_map, ← List.map_map, List.mem_map, List.mem_map]
    simp only [hsame]
  -- stripped captures always agree, so the first theorem applies to them
  have hperm := unique_perm_of_same (agreeing_map_bare A) hbare
  have hcounted := counted_eq_of_perm hperm
  refine ⟨?score, ?capabilities, ?counted⟩
  case score =>
    have htotal : total (counted A) = total (counted B) := by
      rw [← total_map_bare (counted A), ← total_map_bare (counted B), ← counted_map_bare,
        ← counted_map_bare, hcounted]
    exact congrArg (fun n : Nat => min (n : Int) limit) htotal
  case capabilities =>
    show capabilities A = capabilities B
    rw [← capabilities_map_bare A, ← capabilities_map_bare B, capabilities_eq_of_perm hperm]
  case counted =>
    show (counted A).map Capture.key = (counted B).map Capture.key
    rw [← map_key_map_bare (counted A), ← map_key_map_bare (counted B), ← counted_map_bare,
      ← counted_map_bare, hcounted]

end Score

end HookAudit
