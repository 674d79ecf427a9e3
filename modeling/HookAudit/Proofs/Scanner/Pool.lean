/-
# HookAudit.Proofs.Scanner.Pool — jobs that share an engine.

The hooks of one scan are jobs for a pool of workers that share an engine.  Which job comes first is
up to the pool, and the first job of a language finds another engine than those behind it: it loads
what the others find loaded.  Here a job is one step on the shared engine, and the pool takes the
jobs in any order (`Schedule`); it may also call off jobs that stand behind a failed one in the
input, as nobody will ask for their results.

Results are asked for in the order of the input, up to the first error (`collect`).  In a world that
stays the same, what is collected does not depend on the order (`Schedule.collect_eq`), so the jobs
of a scan have no influence on each other (`jobs_do_not_influence_each_other`).
-/
import HookAudit.Proofs.Scanner.Settings
import HookAudit.Proofs.Score.Order

namespace HookAudit

open Engine Action

/-! ## Pools -/

namespace Engine.Action

variable {w : World} {config : EngineConfig} {s : State} {α β : Type} {job : α → Action β}
  {own : α → Except Fault β} {jobs : List α} {order : List (α × Nat)}

/-- Takes numbered jobs one by one; whatever comes of one, the next is taken. -/
def runJobs (job : α → Action β) (order : List (α × Nat)) : Action (List (Nat × Except Fault β)) :=
  each (fun numbered => return (numbered.2, ← attempt (job numbered.1))) order

/-- The results of numbered jobs in the order of their numbers, up to the first error. -/
def collect (results : List (Nat × Except Fault β)) : Except Fault (List β) :=
  (results.mergeSort fun a b => a.1 ≤ b.1).mapM (·.2)

/-- What comes of jobs that a pool takes in some order. -/
def pooled (job : α → Action β) (order : List (α × Nat)) : Action (List β) := do
  match collect (← runJobs job order) with
  | .ok answers => return answers
  | .error e => fail e

/-- **`Schedule own jobs order`** — a pool may take the jobs in this order, where `own` says what
comes of each: every job is taken once, under its number in the input, or it is called off behind
one that has failed. -/
structure Schedule (own : α → Except Fault β) (jobs : List α) (order : List (α × Nat)) : Prop where
  distinct : (order.map (·.2)).Nodup
  numbered : ∀ x ∈ order, jobs[x.2]? = some x.1
  complete : ∀ x ∈ jobs.zipIdx, x ∈ order ∨ ∃ y ∈ order, y.2 < x.2 ∧ ∃ e, own y.1 = .error e

/-- All jobs in any order are a schedule. -/
theorem Schedule.of_perm (h : order.Perm jobs.zipIdx) : Schedule own jobs order where
  distinct := by
    rw [(h.map (·.2)).nodup_iff, List.zipIdx_map_snd]
    exact List.nodup_range'
  numbered x hx := List.mem_zipIdx_iff_getElem?.mp (h.mem_iff.mp hx)
  complete x hx := .inl (h.mem_iff.mpr hx)

/-- **`InOrder own jobs answer`** — the answer lists what comes of each job, in the order of the
input; or it is the error of the first job that fails. -/
inductive InOrder (own : α → Except Fault β) (jobs : List α) : Except Fault (List β) → Prop where
  | all {answers : List β} (each : List.Forall₂ (fun job answer => own job = .ok answer) jobs answers) :
      InOrder own jobs (.ok answers)
  | failed {e : Fault} {earlier later : List α} {first : α} (split : jobs = earlier ++ first :: later)
      (fails : own first = .error e) (succeed : ∀ job ∈ earlier, ∃ answer, own job = .ok answer) :
      InOrder own jobs (.error e)

/-- There is one answer in order, and going through the jobs finds it. -/
theorem inOrder_iff {answer : Except Fault (List β)} :
    InOrder own jobs answer ↔ answer = jobs.mapM own := by
  constructor
  · rintro (heach | ⟨hsplit, hfails, hsucceed⟩)
    · exact (mapM_eq_ok_iff.mpr heach).symm
    · exact (mapM_eq_error_iff.mpr ⟨_, _, _, hsplit, hfails, hsucceed⟩).symm
  · rintro rfl
    cases hanswer : jobs.mapM own with
    | ok answers => exact .all (mapM_eq_ok_iff.mp hanswer)
    | error e =>
      obtain ⟨_, _, _, hsplit, hfails, hsucceed⟩ := mapM_eq_error_iff.mp hanswer
      exact .failed hsplit hfails hsucceed

namespace Schedule

/-- The jobs that were taken, by their numbers. -/
abbrev sorted (order : List (α × Nat)) : List (α × Nat) :=
  order.mergeSort fun a b => a.2 ≤ b.2

theorem mem_sorted {x : α × Nat} : x ∈ sorted order ↔ x ∈ order := List.mem_mergeSort

theorem mem_zipIdx (h : Schedule own jobs order) {x : α × Nat} (hx : x ∈ order) :
    x ∈ jobs.zipIdx :=
  List.mem_zipIdx_iff_getElem?.mpr (h.numbered x hx)

theorem pairwise_sorted (h : Schedule own jobs order) :
    (sorted order).Pairwise fun a b => a.2 < b.2 := by
  refine pairwise_lt_mergeSort (fun a b => decide_eq_true_iff) ?_
  exact List.pairwise_map.mp h.distinct

/-- Where no job has failed, all of them were taken. -/
theorem sorted_eq_zipIdx (h : Schedule own jobs order)
    (hsucceed : ∀ x ∈ order, ∃ answer, own x.1 = .ok answer) : sorted order = jobs.zipIdx := by
  have hall : ∀ x, x ∈ sorted order ↔ x ∈ jobs.zipIdx := by
    intro x
    rw [mem_sorted]
    refine ⟨h.mem_zipIdx, fun hx => ?_⟩
    rcases h.complete x hx with htaken | ⟨y, hy, -, e, hfails⟩
    · exact htaken
    · obtain ⟨answer, hanswer⟩ := hsucceed y hy
      rw [hfails] at hanswer
      cases hanswer
  have hapart : ∀ {xs : List (α × Nat)}, xs.Pairwise (fun a b => a.2 < b.2) → xs.Nodup := by
    intro xs hxs
    refine hxs.imp ?_
    rintro a b hlt rfl
    exact Nat.lt_irrefl _ hlt
  have hzip := Scanner.pairwise_zipIdx jobs
  have hperm : (sorted order).Perm jobs.zipIdx :=
    (List.perm_ext_iff_of_nodup (hapart h.pairwise_sorted) (hapart hzip)).mpr hall
  refine hperm.eq_of_pairwise ?_ h.pairwise_sorted hzip
  intro a b _ _ hab hba
  exact absurd hab (Nat.lt_asymm hba)

/-- What is collected from jobs are the answers of those that were taken, by their numbers. -/
theorem collect_taken (own : α → Except Fault β) (order : List (α × Nat)) :
    collect (order.map fun x => (x.2, own x.1)) = (sorted order).mapM fun x => own x.1 := by
  let result : α × Nat → Nat × Except Fault β := fun x => (x.2, own x.1)
  have hsort : (order.map result).mergeSort (fun a b => a.1 ≤ b.1) = (sorted order).map result :=
    (List.map_mergeSort (f := result) (r := fun a b => a.2 ≤ b.2) fun _ _ _ _ => rfl).symm
  unfold collect
  rw [hsort, List.mapM_map]
  rfl

/-- A job in front of the first one that fails, among those that were taken, was taken too. -/
theorem taken_of_lt (h : Schedule own jobs order) {earlier later : List (α × Nat)}
    {first x : α × Nat} (hsplit : sorted order = earlier ++ first :: later)
    (hsucceed : ∀ y ∈ earlier, ∃ answer, own y.1 = .ok answer) (hx : x ∈ jobs.zipIdx)
    (hlt : x.2 < first.2) : x ∈ earlier := by
  have hpairwise := h.pairwise_sorted
  rw [hsplit, List.pairwise_append] at hpairwise
  obtain ⟨-, hlater, -⟩ := hpairwise
  have hfront : ∀ y ∈ order, y.2 < first.2 → y ∈ earlier := by
    intro y hy hylt
    rw [← mem_sorted, hsplit] at hy
    rcases List.mem_append.mp hy with hy | hy
    · exact hy
    · rcases List.mem_cons.mp hy with rfl | hy
      · exact absurd hylt (Nat.lt_irrefl _)
      · exact absurd hylt (Nat.lt_asymm (List.rel_of_pairwise_cons hlater hy))
  rcases h.complete x hx with htaken | ⟨y, hy, hyx, e, hfails⟩
  · exact hfront x htaken hlt
  · obtain ⟨answer, hanswer⟩ := hsucceed y (hfront y hy (hyx.trans hlt))
    rw [hfails] at hanswer
    cases hanswer

/-- **`collect_eq`** — what is collected from a schedule is in order, however the jobs were
taken. -/
theorem collect_eq (h : Schedule own jobs order) :
    collect (order.map fun x => (x.2, own x.1)) = jobs.mapM own := by
  rw [collect_taken]
  cases hcollected : (sorted order).mapM fun x => own x.1 with
  | ok answers =>
    have hsucceed : ∀ x ∈ order, ∃ answer, own x.1 = .ok answer := by
      intro x hx
      obtain ⟨answer, -, hanswer⟩ := exists_of_mapM_eq_ok hcollected (mem_sorted.mpr hx)
      exact ⟨answer, hanswer⟩
    rw [← hcollected, h.sorted_eq_zipIdx hsucceed]
    conv_rhs => rw [← List.zipIdx_map_fst 0 jobs, List.mapM_map]
    rfl
  | error e =>
    obtain ⟨earlier, first, later, hsplit, hfails, hsucceed⟩ := mapM_eq_error_iff.mp hcollected
    have hfirst : jobs[first.2]? = some first.1 :=
      h.numbered first (mem_sorted.mp (hsplit ▸ List.mem_append_cons_self))
    obtain ⟨hbound, hat⟩ := List.getElem?_eq_some_iff.mp hfirst
    symm
    refine mapM_eq_error_iff.mpr
      ⟨jobs.take first.2, first.1, jobs.drop (first.2 + 1), ?_, hfails, fun job hjob => ?_⟩
    · rw [← hat, ← List.drop_eq_getElem_cons hbound, List.take_append_drop]
    · obtain ⟨index, hindex, rfl⟩ := List.mem_take_iff_getElem.mp hjob
      obtain ⟨hlt, hlength⟩ := Nat.lt_min.mp hindex
      have hx : (jobs[index], index) ∈ jobs.zipIdx :=
        List.mem_zipIdx_iff_getElem?.mpr (List.getElem?_eq_getElem hlength)
      exact hsucceed _ (h.taken_of_lt hsplit hsucceed hx hlt)

end Schedule

/-! ## Jobs on an engine -/

theorem Determined.runJobs (hjob : ∀ a, (job a).Determined w config) (order : List (α × Nat)) :
    (runJobs job order).Determined w config := by
  refine Determined.each (fun numbered => ?_) order
  exact (hjob numbered.1).attempt.returning _

/-- Jobs come to what they come to on their own. -/
theorem alone_runJobs (hjob : ∀ a, (job a).Determined w config) (order : List (α × Nat)) :
    (Action.runJobs job order).alone w config =
      .ok (order.map fun x => (x.2, (job x.1).alone w config)) := by
  refine (alone_each (fun numbered => (hjob numbered.1).attempt.returning _) order).trans ?_
  refine mapM_eq_ok fun numbered _ => ?_
  rw [alone_returning (hjob numbered.1).attempt, alone_attempt]
  rfl

/-- What a pool does once all jobs are done. -/
theorem Determined.collected (results : List (Nat × Except Fault β)) :
    (match collect results with
      | .ok answers => Pure.pure answers
      | .error e => Action.fail e : Action (List β)).Determined w config := by
  cases collect results <;> exact ⟨_, fun s hs => ⟨rfl, hs⟩⟩

theorem Determined.pooled (hjob : ∀ a, (job a).Determined w config) (order : List (α × Nat)) :
    (pooled job order).Determined w config :=
  (Determined.runJobs hjob order).bind .collected

/-- **`alone_pooled`** — a pool answers as going through the jobs does, each on its own. -/
theorem alone_pooled (hjob : ∀ a, (job a).Determined w config)
    (h : Schedule (fun a => (job a).alone w config) jobs order) :
    (Action.pooled job order).alone w config = jobs.mapM fun a => (job a).alone w config := by
  refine (alone_bind (.runJobs hjob order) .collected).trans ?_
  rw [alone_runJobs hjob, ← h.collect_eq]
  simp only [Bind.bind, Except.bind]
  cases collect (order.map fun x => (x.2, (job x.1).alone w config)) <;> rfl

end Engine.Action

namespace Scanner

open Engine.Action

variable {w : World} {config : EngineConfig}

/-! ## The jobs of a scan -/

/-- Reads and assesses the hook files that a pool takes. -/
def poolFiles (scanner : ScannerConfig) (eventType : Option Text) (lang : Option LanguageName)
    (order : List (Path × Nat)) : Action (List HookFile) :=
  pooled (scanFile scanner Engine.scan eventType lang) order

/-- Assesses a hook inside a settings document. -/
def scanInline (scanner : ScannerConfig) (hook : InlineHook) : Action (Text × Assessment) := do
  let assessment ← scanText scanner hook.content hook.lang
  return (hook.key, assessment)

/-- Assesses the hooks inside a settings document that a pool takes. -/
def poolSettings (scanner : ScannerConfig) (settings : Json) (order : List (InlineHook × Nat)) :
    Action (List (Text × Assessment)) := do
  match settings with
  | .obj _ => return entriesOf (← pooled (scanInline scanner) order)
  | other => fail (.settingsKind other.kindName)

/-- What comes of a hook file that a fresh engine is asked about. -/
abbrev ownFile (w : World) (config : EngineConfig) (scanner : ScannerConfig)
    (eventType : Option Text) (lang : Option LanguageName) (path : Path) : Except Fault HookFile :=
  (scanFile scanner Engine.scan eventType lang path).alone w config

/-- What comes of a hook inside a settings document that a fresh engine is asked about. -/
abbrev ownInline (w : World) (config : EngineConfig) (scanner : ScannerConfig) (hook : InlineHook) :
    Except Fault (Text × Assessment) :=
  (scanInline scanner hook).alone w config

theorem scanInline_determined (scanner : ScannerConfig) (hook : InlineHook) :
    (scanInline scanner hook).Determined w config :=
  (scanHook_determined _ _ _).returning _

theorem poolSettings_determined (scanner : ScannerConfig) (settings : Json)
    (order : List (InlineHook × Nat)) :
    (poolSettings scanner settings order).Determined w config := by
  unfold poolSettings
  split
  · exact (Determined.pooled (scanInline_determined scanner) order).returning _
  · exact .fail _

/-- **`jobs_do_not_influence_each_other`** — in a world that stays the same, and whatever the engine
was asked before, a pool may take the jobs of a scan in any order and call off those behind a
failed one: the answer for a list of paths has, in the order of the input, what a fresh engine
makes of each path, or it is the error of the first path that fails.  Likewise the hooks of a
settings document are entered in document order, or the first that fails decides.  In both cases
this is the answer of going through the jobs one by one. -/
theorem jobs_do_not_influence_each_other (scanner : ScannerConfig) (w : World)
    (config : EngineConfig) (history : List Operation) :
    let s := ({ config } : State).after (history.map (Call.mk w))
    (∀ eventType lang paths order,
      Schedule (ownFile w config scanner eventType lang) paths order →
        InOrder (ownFile w config scanner eventType lang) paths
            (poolFiles scanner eventType lang order w s).1 ∧
          (poolFiles scanner eventType lang order w s).1 =
            (scanFiles scanner Engine.scan paths eventType lang w s).1) ∧
      ∀ settings order,
        Schedule (ownInline w config scanner) (inlineHooks settings) order →
          (∀ members, settings = .obj members →
            ∃ found, InOrder (ownInline w config scanner) (inlineHooks settings) found ∧
              (poolSettings scanner settings order w s).1 = found.map entriesOf) ∧
          (poolSettings scanner settings order w s).1 =
            (scanSettings scanner Engine.scan settings w s).1 := by
  intro s
  have hs : Current w config s := (Current.fresh w config).after history
  refine ⟨fun eventType lang paths order horder => ?_, fun settings order horder => ?_⟩
  · have hjob : ∀ path, (scanFile scanner Engine.scan eventType lang path).Determined w config :=
      scanFile_determined scanner eventType lang
    have hpool : (poolFiles scanner eventType lang order w s).1 =
        paths.mapM (ownFile w config scanner eventType lang) :=
      ((Determined.pooled hjob order).answer_eq_alone hs).trans (alone_pooled hjob horder)
    have hscan : (scanFiles scanner Engine.scan paths eventType lang w s).1 =
        paths.mapM (ownFile w config scanner eventType lang) :=
      ((Determined.every hjob paths).answer_eq_alone hs).trans (alone_every hjob paths)
    exact ⟨inOrder_iff.mpr hpool, hpool.trans hscan.symm⟩
  · have hjob : ∀ hook, (scanInline scanner hook).Determined w config :=
      scanInline_determined scanner
    have hscan : (scanSettings scanner Engine.scan settings).Determined w config :=
      scanSettings_determined settings
    rw [(poolSettings_determined scanner settings order).answer_eq_alone hs,
      hscan.answer_eq_alone hs]
    -- a document that is no object is refused before there are any jobs
    cases settings with
    | obj members =>
      have hpooled : (poolSettings scanner (.obj members) order).alone w config =
          ((inlineHooks (.obj members)).mapM (ownInline w config scanner)).map entriesOf := by
        refine (alone_returning (Determined.pooled hjob order) entriesOf).trans ?_
        rw [alone_pooled hjob horder]
      have hscanned : (scanSettings scanner Engine.scan (.obj members)).alone w config =
          ((inlineHooks (.obj members)).mapM (ownInline w config scanner)).map entriesOf := by
        refine (alone_returning (Determined.each hjob _) entriesOf).trans ?_
        rw [alone_each hjob]
      rw [hpooled, hscanned]
      exact ⟨fun _ _ => ⟨_, inOrder_iff.mpr rfl, rfl⟩, rfl⟩
    | null | bool | int | real | str | arr => exact ⟨nofun, rfl⟩

/-- Four hook files by their paths; the first and the last are there. -/
def fourPaths : List Path := ["a.sh", "b.sh", "c.sh", "d.py"].map Path.ofText

/-- A world with everything installed and two hook files. -/
def twoFilesWorld : World :=
  installed { tree := .directory [("a.sh", .file []), ("d.py", .file [])] } []

/-- An order in which the last missing file comes first and the file behind it is called off. -/
def lastFailureFirst : List (Path × Nat) :=
  [(.ofText "c.sh", 2), (.ofText "b.sh", 1), (.ofText "a.sh", 0)]

/-- The error is that of the first missing file although another came first, and the hooks of a
document are entered in its order although the pool took the last of them first. -/
theorem first_failure_in_order_decides :
    (poolFiles {} none none lastFailureFirst twoFilesWorld { config := {} }).1.map
        (List.map (·.name)) = .error (.unreadableHook "b.sh" "No such file or directory") ∧
      InOrder (ownFile twoFilesWorld {} {} none none) fourPaths
        (poolFiles {} none none lastFailureFirst twoFilesWorld { config := {} }).1 ∧
      (poolSettings {} (.obj plainMembers) (inlineHooks (.obj plainMembers)).zipIdx.reverse
          twoFilesWorld { config := {} }).1 =
        (scanSettings {} Engine.scan (.obj plainMembers) twoFilesWorld { config := {} }).1 := by
  have hfails : ownFile twoFilesWorld {} {} none none (.ofText "b.sh") =
      .error (.unreadableHook "b.sh" "No such file or directory") := rfl
  have hcalledOff : Schedule (ownFile twoFilesWorld {} {} none none) fourPaths
      lastFailureFirst := by
    refine { distinct := by decide, numbered := by decide, complete := fun x hx => ?_ }
    by_cases htaken : x ∈ lastFailureFirst
    · exact .inl htaken
    · have hbehind : ∀ x ∈ fourPaths.zipIdx, x ∉ lastFailureFirst → 1 < x.2 := by decide
      exact .inr ⟨(.ofText "b.sh", 1), by decide, hbehind x hx htaken, _, hfails⟩
  obtain ⟨hfiles, hsettings⟩ := jobs_do_not_influence_each_other {} twoFilesWorld {} []
  obtain ⟨hinOrder, hscan⟩ := hfiles none none fourPaths lastFailureFirst hcalledOff
  refine ⟨?_, hinOrder, (hsettings (.obj plainMembers) _ (.of_perm (List.reverse_perm _))).2⟩
  refine (congrArg _ hscan).trans ?_
  decide +kernel

end Scanner

end HookAudit
