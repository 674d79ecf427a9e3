/-
# HookAudit.Proofs.Scanner.Coherence — assessments that do not contradict themselves.

An assessment says three things: a score, findings and capabilities.  In a coherent one they agree:
there are findings exactly when there is a score, capabilities come with findings, and no finding is
told twice.  Both sources of assessments are coherent, the captures of an analysis and the families
of the heuristics, each because everything it reports weighs something; and merging keeps it.  So
every assessment that the program gives is coherent (`produced_is_coherent`), the checks on building
it never fail, and what looks clean is clean.
-/
import HookAudit.Engine.Installed
import HookAudit.Engine.Scan
import HookAudit.Proofs.Entries
import HookAudit.Proofs.Heuristics
import HookAudit.Proofs.Scanner.Hook
import HookAudit.Proofs.Score.Reporting
import HookAudit.Scanner.Settings

namespace HookAudit

variable {a b : Assessment} {captures : List Capture} {content : Text}

/-! ## Coherence -/

/-- **`a.Coherent`** — what an assessment says fits together. -/
structure Assessment.Coherent (a : Assessment) : Prop where
  inRange : 0 ≤ a.riskScore ∧ a.riskScore ≤ 100
  distinct : a.findings.Nodup
  scored : a.riskScore = 0 ↔ a.findings = []
  flagged : a.capabilities ≠ .none → a.findings ≠ []

namespace Assessment.Coherent

/-- A clean assessment is one without a score. -/
theorem isClean_iff (h : a.Coherent) : a.isClean = true ↔ a.riskScore = 0 := by
  simp only [isClean, Bool.and_eq_true, beq_iff_eq, List.isEmpty_iff]
  exact ⟨And.left, fun hscore => ⟨hscore, h.scored.mp hscore⟩⟩

/-- A clean assessment has no flag. -/
theorem capabilities_of_isClean (h : a.Coherent) (hclean : a.isClean = true) :
    a.capabilities = .none := by
  by_contra hflags
  exact h.flagged hflags (h.scored.mp (h.isClean_iff.mp hclean))

/-- A capped sum is coherent when the sum, the findings and the flags are about the same things. -/
theorem capped {capabilities : Capabilities} {findings : List Text} {total : Nat}
    (hdistinct : findings.Nodup) (hscored : total = 0 ↔ findings = [])
    (hflagged : findings = [] → capabilities = .none) :
    (Assessment.capped capabilities findings total).Coherent where
  inRange := ⟨Nat.zero_le _, Nat.min_le_right ..⟩
  distinct := hdistinct
  scored := by
    show min total 100 = 0 ↔ findings = []
    rw [← hscored]
    omega
  flagged := mt hflagged

theorem distinct_eq_nil_iff {xs : List Text} : HookAudit.distinct xs = [] ↔ xs = [] := by
  simp only [List.eq_nil_iff_forall_not_mem, mem_distinct]

/-- **`merge`** — merging keeps coherence. -/
theorem merge (ha : a.Coherent) (hb : b.Coherent) : (a.merge b).Coherent where
  inRange := ⟨Nat.zero_le _, (a.merge b).riskScore_le⟩
  distinct := nodup_distinct _
  scored := by
    show max a.riskScore b.riskScore = 0 ↔ HookAudit.distinct (a.findings ++ b.findings) = []
    rw [distinct_eq_nil_iff, List.append_eq_nil_iff, ← ha.scored, ← hb.scored]
    omega
  flagged := by
    intro hflags hnone
    obtain ⟨hfirst, hsecond⟩ := List.append_eq_nil_iff.mp (distinct_eq_nil_iff.mp hnone)
    refine hflags ?_
    show a.capabilities.union b.capabilities = .none
    rw [not_not.mp fun h => ha.flagged h hfirst, not_not.mp fun h => hb.flagged h hsecond]
    exact Capabilities.union_self _

end Assessment.Coherent

/-! ## The two sources -/

namespace Score

theorem severity_pos (name : Text) : 0 < severity name := by
  unfold severity
  cases RiskCategory.classify name <;> decide

theorem firstOfKey_head (c : Capture) (rest : List Capture) : FirstOfKey (c :: rest) c :=
  ⟨[], rest, rfl, by simp⟩

/-- Captures weigh something together. -/
theorem total_counted_eq_zero_iff : total (counted captures) = 0 ↔ captures = [] := by
  cases captures with
  | nil => simp [counted, unique, select, total, sumOf]
  | cons c rest =>
    have hweight := severity_le_total_counted (firstOfKey_head c rest)
    have hpos := severity_pos c.name
    exact iff_of_false (by omega) (List.cons_ne_nil _ _)

theorem findings_eq_nil_iff : findings captures = [] ↔ captures = [] := by
  cases captures with
  | nil => simp [findings, unique, HookAudit.distinct]
  | cons c rest =>
    have hmem : c.finding ∈ findings (c :: rest) := mem_findings.mpr ⟨c, firstOfKey_head c rest, rfl⟩
    exact iff_of_false (List.ne_nil_of_mem hmem) (List.cons_ne_nil _ _)

/-- The captures of an analysis make a coherent assessment. -/
theorem coherent_ofCaptures (captures : List Capture) :
    (Assessment.ofCaptures captures).Coherent := by
  refine .capped (nodup_distinct _) ?_ fun hnone => ?_
  · rw [findings_eq_nil_iff, total_counted_eq_zero_iff]
  · rw [findings_eq_nil_iff.mp hnone]
    rfl

end Score

/-- The families of the heuristics make a coherent assessment. -/
theorem Heuristics.coherent_scan (content : Text) : (scan content).Coherent := by
  refine .capped (nodup_findings content) ?_ fun hnone => ?_
  · rw [total_eq_zero_iff]
    exact findings_eq_nil_iff.symm
  · rw [findings_eq_nil_iff.mp hnone]
    rfl

/-! ## Checks on building -/

/-- A capped sum passes the check on scores. -/
theorem Assessment.ofScore?_capped (capabilities : Capabilities) (findings : List Text)
    (total : Nat) :
    ofScore? capabilities findings (min (total : Int) 100) =
      .ok (.capped capabilities findings total) := by
  have hscore : min (total : Int) 100 = (min total maxRiskScore : Nat) := by
    unfold maxRiskScore
    omega
  rw [hscore]
  exact dif_pos (Nat.min_le_right ..)

/-- The assessment of a report passes it. -/
theorem Score.report_assessment? (captures : List Capture) :
    (report captures).assessment? = .ok (.ofCaptures captures) :=
  Assessment.ofScore?_capped _ _ _

/-- So does the assessment of the heuristics. -/
theorem Heuristics.ofScore?_scan (content : Text) :
    Assessment.ofScore? (.unions ((hits content).map (·.1.capabilities)))
        ((hits content).map fun hit => finding hit.1 hit.2)
        (min (sumOf (·.1.weight) (hits content) : Int) 100) =
      .ok (scan content) :=
  Assessment.ofScore?_capped _ _ _

/-- And so does a merged one. -/
theorem Assessment.ofScore?_merge (a b : Assessment) :
    ofScore? (a.capabilities.union b.capabilities) (HookAudit.distinct (a.findings ++ b.findings))
        (min (max (a.riskScore : Int) b.riskScore) 100) = .ok (a.merge b) := by
  have hscore : min (max (a.riskScore : Int) b.riskScore) 100 =
      (max a.riskScore b.riskScore : Nat) := by
    have ha := a.riskScore_le
    have hb := b.riskScore_le
    unfold maxRiskScore at ha hb
    omega
  rw [hscore]
  exact dif_pos (a.merge b).riskScore_le

/-! ## Everything that is produced -/

namespace Scanner

open Engine Action

/-- What the engine assesses are captures. -/
theorem scan_promises :
    Analyst.Promises Engine.scan fun a => ∃ captures, a = .ofCaptures captures := by
  intro content requested filename
  have hnoOpinion : ∀ reason detail, (Pure.pure (Outcome.noOpinion reason detail) :
      Action Outcome).Promises fun outcome =>
        ∀ a, outcome = .assessed a → ∃ captures, a = .ofCaptures captures := by
    intro reason detail
    exact .pure (by rintro a ⟨⟩)
  unfold Engine.scan
  split
  · exact .fail _
  · exact hnoOpinion _ _
  · refine .behind fun ready => ?_
    split
    · exact hnoOpinion _ _
    · refine .behind fun grammar? => ?_
      split
      · exact hnoOpinion _ _
      · refine .behind fun queries => ?_
        split
        · exact hnoOpinion _ _
        · refine .behind fun toolkit => .behind fun root => .behind fun s => .behind fun captures => ?_
          refine .pure ?_
          rintro a ⟨⟩
          exact ⟨captures, rfl⟩

/-- **`Produced a`** — the program gives the assessment, in some world and whatever was done before:
for a hook that the engine or the heuristics are asked about, or for one that a scan is about. -/
inductive Produced : Assessment → Prop where
  | engine {content filename requested w s a}
      (answer : (Engine.scan content requested filename w s).1 = .ok (.assessed a)) : Produced a
  | heuristics (content : Text) : Produced (Heuristics.scan content)
  | hook {config content filename requested w s a}
      (answer : (scanHook config Engine.scan content filename requested w s).1 = .ok a) : Produced a
  | file {config paths eventType requested w s hooks hook}
      (answer : (scanFiles config Engine.scan paths eventType requested w s).1 = .ok hooks)
      (listed : hook ∈ hooks) : Produced hook.assessment
  | inline {config settings w s entries key a}
      (answer : (scanSettings config Engine.scan settings w s).1 = .ok entries)
      (listed : (key, a) ∈ entries) : Produced a

/-- What a scan concludes from captures and heuristics is coherent. -/
theorem Concluded.coherent (h : Concluded (∃ captures, · = .ofCaptures captures) content a) :
    a.Coherent := by
  cases h with
  | heuristic => exact Heuristics.coherent_scan content
  | merged analysis =>
    obtain ⟨captures, rfl⟩ := analysis
    exact (Score.coherent_ofCaptures captures).merge (Heuristics.coherent_scan content)

theorem scanHook_coherent (config : ScannerConfig) (content : Text) (filename : Option Text)
    (requested : Option LanguageName) :
    (scanHook config Engine.scan content filename requested).Promises Assessment.Coherent :=
  fun w s a h => (scanHook_promises scan_promises config content filename requested w s a h).coherent

theorem scanFiles_coherent (config : ScannerConfig) (paths : List Path) (eventType : Option Text)
    (requested : Option LanguageName) :
    (scanFiles config Engine.scan paths eventType requested).Promises fun hooks =>
      ∀ hook ∈ hooks, hook.assessment.Coherent := by
  refine .every (fun path => .behind fun files => ?_) paths
  split
  · exact .fail _
  · exact (assess_promises scan_promises config _ _ requested).bind fun _ h => .pure h.coherent

theorem scanSettings_coherent (config : ScannerConfig) (settings : Json) :
    (scanSettings config Engine.scan settings).Promises fun entries =>
      ∀ entry ∈ entries, entry.2.Coherent := by
  unfold scanSettings
  split
  · refine Promises.bind (P := fun found => ∀ entry ∈ found, entry.2.Coherent) ?_ fun found h => ?_
    · refine .each (fun hook => ?_) _
      exact (scanHook_coherent config hook.content none _).bind fun a h => .pure h
    · exact .pure fun entry hentry => h entry (mem_of_mem_entriesOf hentry)
  · exact .fail _

theorem Produced.coherent (h : Produced a) : a.Coherent := by
  cases h with
  | engine answer =>
    obtain ⟨captures, rfl⟩ := scan_promises _ _ _ _ _ _ answer a rfl
    exact Score.coherent_ofCaptures captures
  | heuristics content => exact Heuristics.coherent_scan content
  | hook answer => exact scanHook_coherent _ _ _ _ _ _ _ answer
  | file answer listed => exact scanFiles_coherent _ _ _ _ _ _ _ answer _ listed
  | inline answer listed => exact scanSettings_coherent _ _ _ _ _ answer _ listed

/-- **`produced_is_coherent`** — every assessment that the program gives is coherent: its score is a
risk score, no finding is told twice, there is a score exactly when there are findings, and flags
come with findings.  Hence it is clean exactly when its score is zero, and a clean one has no flag.
The check on scores lets all assessments through: those of captures, those of the heuristics and
merged ones. -/
theorem produced_is_coherent :
    (∀ a, Produced a → a.Coherent ∧ (a.isClean = true ↔ a.riskScore = 0) ∧
      (a.isClean = true → a.capabilities = .none)) ∧
    (∀ captures, (Score.report captures).assessment? = .ok (.ofCaptures captures)) ∧
    (∀ content, Assessment.ofScore?
        (.unions ((Heuristics.hits content).map (·.1.capabilities)))
        ((Heuristics.hits content).map fun hit => Heuristics.finding hit.1 hit.2)
        (min (sumOf (·.1.weight) (Heuristics.hits content) : Int) 100) =
      .ok (Heuristics.scan content)) ∧
    ∀ a b : Assessment, Assessment.ofScore? (a.capabilities.union b.capabilities)
        (distinct (a.findings ++ b.findings))
        (min (max (a.riskScore : Int) b.riskScore) 100) = .ok (a.merge b) := by
  refine ⟨fun a h => ?_, Score.report_assessment?, Heuristics.ofScore?_scan,
    Assessment.ofScore?_merge⟩
  have hcoherent := h.coherent
  exact ⟨hcoherent, hcoherent.isClean_iff, hcoherent.capabilities_of_isClean⟩

/-- A hook without a language is left to the heuristics, whose word on it is coherent; and an empty
hook, which is clean, has no flag. -/
theorem token_hook_is_coherent :
    (scanHook {} Engine.scan "token" none none (installed {} []) { config := {} }).1 =
        .ok (Heuristics.scan "token") ∧
      (Heuristics.scan "token").Coherent ∧ (Heuristics.scan "").capabilities = .none := by
  have hanswer : (scanHook {} Engine.scan "token" none none (installed {} []) { config := {} }).1 =
      .ok (Heuristics.scan "token") := rfl
  have hclean : (Heuristics.scan "").isClean = true := by decide +kernel
  obtain ⟨hproduced, -⟩ := produced_is_coherent
  obtain ⟨hcoherent, -⟩ := hproduced _ (.hook hanswer)
  obtain ⟨-, -, hbare⟩ := hproduced _ (.heuristics "")
  exact ⟨hanswer, hcoherent, hbare hclean⟩

end Scanner

end HookAudit
