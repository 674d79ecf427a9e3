/-
# HookAudit.Proofs.Engine.Building — the call that compiles the queries of a language.

The queries of a language are compiled by the first call that finds its grammar there.  All of that
call is known: it answers what the query files contribute, remembers that, and says of each file
what there is to say and nothing else (`Building.run`).  For loading is silent where it succeeds,
and each file is judged on its own (`each_compileFile_runs`).
-/
import HookAudit.Proofs.Engine.Agreement
import HookAudit.Proofs.Engine.QueryFiles

namespace HookAudit.Engine

open Action

/-! ## Whole runs -/

namespace Action

variable {α β : Type} {w : World} {s s₁ s₂ : State} {t₁ t₂ : Trace}

/-- **`act.Runs w s a s' t`** — the run of `act` in `w` from `s` answers `a`, leaves `s'`, and has
the trace `t`. -/
def Runs (act : Action α) (w : World) (s : State) (a : α) (s' : State) (t : Trace) : Prop :=
  act w s = (.ok a, s', t)

theorem Runs.pure (a : α) : (Pure.pure a : Action α).Runs w s a s {} := rfl

theorem Runs.bind {act : Action α} {next : α → Action β} {a : α} {b : β}
    (hact : act.Runs w s a s₁ t₁) (hnext : (next a).Runs w s₁ b s₂ t₂) :
    (act >>= next).Runs w s b s₂ (t₁ ++ t₂) := by
  unfold Runs at hact hnext
  show Action.bind act next w s = _
  unfold Action.bind
  rw [hact]
  dsimp only
  rw [hnext]

/-- Behind a first part without a trace. -/
theorem Runs.bind_silent {act : Action α} {next : α → Action β} {a : α} {b : β}
    (hact : act.Runs w s a s₁ {}) (hnext : (next a).Runs w s₁ b s₂ t₂) :
    (act >>= next).Runs w s b s₂ t₂ :=
  hact.bind hnext

/-- Before a last part without a trace. -/
theorem Runs.silent_bind {act : Action α} {next : α → Action β} {a : α} {b : β}
    (hact : act.Runs w s a s₁ t₁) (hnext : (next a).Runs w s₁ b s₂ {}) :
    (act >>= next).Runs w s b s₂ t₁ := by
  rw [← Trace.append_nothing t₁]
  exact hact.bind hnext

theorem Runs.answers {act : Action α} {a : α} (h : act.Runs w s a s₁ t₁) :
    act.Answers w s a s₁ :=
  ⟨t₁, h⟩

/-! ## Runs that only load -/

/-- **`act.OnlyLoads`** — whatever a run shows, it shows of loading. -/
def OnlyLoads (act : Action α) : Prop := ∀ w s, (act w s).2.2.loading = (act w s).2.2

theorem OnlyLoads.pure (a : α) : (Pure.pure a : Action α).OnlyLoads := fun _ _ => rfl

theorem OnlyLoads.fail (e : Fault) : (fail e : Action α).OnlyLoads := fun _ _ => rfl

theorem OnlyLoads.state : state.OnlyLoads := fun _ _ => rfl

theorem OnlyLoads.updateLoader (change : Loader → Loader) : (updateLoader change).OnlyLoads :=
  fun _ _ => rfl

theorem OnlyLoads.importModule (name : Text) : (importModule name).OnlyLoads := fun _ _ => rfl

theorem OnlyLoads.log (level : LogLevel) (message : Text) :
    (log level loaderSource message).OnlyLoads := fun _ _ => rfl

theorem OnlyLoads.bind {act : Action α} {next : α → Action β} (hact : act.OnlyLoads)
    (hnext : ∀ a, (next a).OnlyLoads) : (act >>= next).OnlyLoads := by
  intro w s
  have hfirst := hact w s
  show (Action.bind act next w s).2.2.loading = (Action.bind act next w s).2.2
  unfold Action.bind
  split
  · rename_i e t trace hrun
    rwa [hrun] at hfirst
  · rename_i a t trace hrun
    rw [hrun] at hfirst
    show (trace ++ (next a w t).2.2).loading = _
    rw [Trace.loading_append, hfirst, hnext a w t]

/-- An operation whose answer is set aside for a known one. -/
theorem OnlyLoads.returning {act : Action α} (hact : act.OnlyLoads) (b : β) :
    (act >>= fun _ => Pure.pure b).OnlyLoads :=
  hact.bind fun _ => .pure b

end Action

theorem warnOnce_onlyLoads (subject : Subject) (message : Text) :
    (warnOnce subject message).OnlyLoads := by
  refine OnlyLoads.state.bind fun s => ?_
  split
  · exact .pure ()
  · exact (OnlyLoads.updateLoader _).bind fun _ => .log _ _

theorem importToolkit_onlyLoads : importToolkit.OnlyLoads := by
  refine (OnlyLoads.importModule _).bind fun imported => ?_
  split
  · split
    · exact (warnOnce_onlyLoads _ _).returning none
    · exact .fail _
  · dsimp only
    split
    · exact .pure _
    · exact (warnOnce_onlyLoads _ _).returning none

theorem loadToolkit_onlyLoads : loadToolkit.OnlyLoads := by
  refine importToolkit_onlyLoads.bind fun toolkit? => ?_
  cases toolkit? with
  | none => exact (OnlyLoads.updateLoader _).returning false
  | some toolkit => exact (OnlyLoads.updateLoader _).returning true

theorem ensureRuntime_onlyLoads : ensureRuntime.OnlyLoads := by
  refine OnlyLoads.state.bind fun s => ?_
  split
  · exact .pure true
  · split
    · exact loadToolkit_onlyLoads
    · exact .pure false
  · exact loadToolkit_onlyLoads

theorem importGrammar_onlyLoads (lang : Language) : (importGrammar lang).OnlyLoads := by
  refine OnlyLoads.state.bind fun s => ?_
  have hwarn : ∀ message, (do
      warnOnce (.grammar lang) message
      return none : Action (Option GrammarRef)).OnlyLoads :=
    fun _ => (warnOnce_onlyLoads _ _).returning none
  dsimp only
  split
  -- no module is configured
  · exact hwarn _
  · refine (OnlyLoads.importModule _).bind fun imported => ?_
    split
    -- the module does not load
    · split
      · exact hwarn _
      · exact .fail _
    · split
      -- the factory answers, with a grammar that opens or one that does not
      · split
        · exact .pure _
        · split
          · exact hwarn _
          · exact .fail _
      -- there is no factory
      · exact hwarn _

theorem loadGrammar_onlyLoads (lang : Language) : (loadGrammar lang).OnlyLoads := by
  refine OnlyLoads.state.bind fun s => ?_
  split
  · exact .pure _
  · split
    · exact .pure none
    · refine ensureRuntime_onlyLoads.bind fun ready => ?_
      split
      · exact .pure none
      · refine (importGrammar_onlyLoads lang).bind fun grammar? => ?_
        cases grammar? with
        | none => exact (OnlyLoads.updateLoader _).returning none
        | some grammar => exact (OnlyLoads.updateLoader _).returning (some grammar)

/-! ## One way to load -/

variable {w : World} {s s' s₁ s₂ : State} {toolkit : Module} {lang : Language}
  {grammar : GrammarRef} {t t₁ t₂ : Trace} {file : QueryFile} {v : Verdict}

/-- Where the toolkit is found, what it leaves is a matter of state and world. -/
theorem ToolkitStep.found_unique (h₁ : ToolkitStep w s (.ok true) s₁ t₁)
    (h₂ : ToolkitStep w s (.ok true) s₂ t₂) : s₂ = s₁ := by
  cases h₁ with
  | there hready => exact (h₂.eq_of_ready hready).2.1
  | found hopen houtcome =>
    cases h₂ with
    | there hready => exact absurd hready (hopen.not_ready _)
    | found _ houtcome' =>
      rw [houtcome] at houtcome'
      cases houtcome'
      rfl

/-- **`GrammarStep.found_unique`** — where a grammar is handed out, loading it can end in no other
way. -/
theorem GrammarStep.found_unique {r : Except Fault (Option GrammarRef)}
    (h₁ : GrammarStep w s lang (.ok (some grammar)) s₁ t₁) (h₂ : GrammarStep w s lang r s₂ t₂) :
    r = .ok (some grammar) ∧ s₂ = s₁ := by
  cases h₁ with
  | there hloaded =>
    obtain ⟨rfl, rfl, -⟩ := h₂.eq_of_loaded hloaded
    exact ⟨rfl, rfl⟩
  | found hopen hstep hready houtcome =>
    cases h₂ with
    | there hloaded =>
      rw [hopen.1] at hloaded
      cases hloaded
    | givenUp _ hmissing hfinal =>
      rw [hopen.2 hmissing] at hfinal
      cases hfinal
    | noToolkit _ hstep' => cases hstep.unique hstep'
    | toolkitFailed _ hstep' => cases hstep.unique hstep'
    -- both have the toolkit, and the attempt at the grammar is the same
    | found _ hstep' hready' houtcome' =>
      obtain rfl := hstep.found_unique hstep'
      rw [hready] at hready'
      cases hready'
      rw [houtcome] at houtcome'
      cases houtcome'
      exact ⟨rfl, rfl⟩
    | absent message _ hstep' hready' houtcome' =>
      obtain rfl := hstep.found_unique hstep'
      rw [hready] at hready'
      cases hready'
      rw [houtcome] at houtcome'
      cases houtcome'
    | failed _ hstep' hready' houtcome' =>
      obtain rfl := hstep.found_unique hstep'
      rw [hready] at hready'
      cases hready'
      rw [houtcome] at houtcome'
      cases houtcome'

/-- Where a grammar is handed out, nothing is said. -/
theorem GrammarStep.found_logs (h : GrammarStep w s lang (.ok (some grammar)) s' t) :
    t.logs = [] := by
  have htoolkit : ∀ {s₁ t₁}, ToolkitStep w s (.ok true) s₁ t₁ → t₁.logs = [] := by
    rintro s₁ t₁ (_ | _)
    · rfl
    · rfl
  cases h with
  | there => rfl
  | found _ hstep =>
    show _ ++ [] = []
    rw [List.append_nil, htoolkit hstep]

/-- **`GrammarStep.run`** — where a grammar is handed out, the whole run is known. -/
theorem GrammarStep.run (h : GrammarStep w s lang (.ok (some grammar)) s' t) :
    ∃ imports, (loadGrammar lang).Runs w s (some grammar) s' ⟨imports, []⟩ := by
  have hends : GrammarStep w s lang (loadGrammar lang w s).1 (loadGrammar lang w s).2.1
    (loadGrammar lang w s).2.2.loading := loadGrammar_ends
  rw [loadGrammar_onlyLoads lang w s] at hends
  obtain ⟨hanswer, hstate⟩ := h.found_unique hends
  rw [hanswer] at hends
  refine ⟨(loadGrammar lang w s).2.2.imports, ?_⟩
  unfold Runs
  rw [← hanswer, ← hstate, ← hends.found_logs]

/-! ## Judging files -/

/-- The warnings of the part of the program that is about queries. -/
def warned (messages : List Text) : Trace :=
  ⟨[], messages.map fun message => ⟨.warning, queriesSource, message⟩⟩

theorem warned_append (first others : List Text) :
    warned first ++ warned others = warned (first ++ others) := by
  unfold warned
  rw [List.map_append]
  rfl

/-- A query that compiles. -/
theorem attempt_compileQuery_runs {name : Text} {text : QueryText} {compiled : Compiled}
    (h : toolkit.compile grammar text = .ok compiled) :
    (attempt (compileQuery toolkit grammar name text)).Runs w s (.ok ⟨name, compiled⟩) s {} := by
  unfold Runs attempt
  rw [compileQuery_run, h]

/-- A query that is malformed. -/
theorem attempt_compileQuery_refused {name : Text} {text : QueryText} {failure : Failure}
    (h : toolkit.compile grammar text = .error failure) (hkind : failure.kind = .badQuery) :
    (attempt (compileQuery toolkit grammar name text)).Runs w s
      (.error (.malformedQuery name failure.message)) s {} := by
  unfold Runs attempt
  rw [compileQuery_run, h]
  dsimp only
  rw [if_pos hkind]

/-- **`Judged.runs`** — a file that is judged yields its query, if it is of use, and what there is
to say of it. -/
theorem Judged.runs (h : Judged toolkit grammar file v) :
    (compileFile toolkit grammar file).Runs w s v.query? s
      (warned (v.complaint? file).toList) := by
  unfold compileFile
  cases h with
  | unreadable hcontent =>
    rw [hcontent]
    rfl
  | blank hcontent hblank =>
    rw [hcontent]
    dsimp only
    rw [hblank]
    rfl
  | malformed hcontent hfilled hrefused hkind =>
    rw [hcontent]
    dsimp only
    rw [hfilled]
    exact (attempt_compileQuery_refused hrefused hkind).bind_silent rfl
  | riskless hcontent hfilled haccepted hnone =>
    rw [hcontent]
    dsimp only
    rw [hfilled]
    refine (attempt_compileQuery_runs haccepted).bind_silent ?_
    dsimp only
    rw [hnone]
    rfl
  | usable hcontent hfilled haccepted hsome =>
    rw [hcontent]
    dsimp only
    rw [hfilled]
    refine (attempt_compileQuery_runs haccepted).bind_silent ?_
    dsimp only
    rw [List.isEmpty_eq_false_iff.mpr hsome]
    rfl

/-- What is said of a file that came to a verdict. -/
theorem Judged.complaint (h : Judged toolkit grammar file v) :
    complaint? toolkit grammar file = v.complaint? file := by
  unfold complaint?
  rw [attemptFile_eq_ok_iff.mpr h]

/-- **`each_compileFile_runs`** — files that can all be judged yield what each contributes, with
what is said of each. -/
theorem each_compileFile_runs {files : List QueryFile}
    (h : ∀ file ∈ files, ∃ v, Judged toolkit grammar file v) :
    (each (compileFile toolkit grammar) files).Runs w s
      (files.map (contribution toolkit grammar)) s
      (warned (files.filterMap (complaint? toolkit grammar))) := by
  induction files with
  | nil => exact .pure []
  | cons file files ih =>
    obtain ⟨⟨v, hjudged⟩, hrest⟩ := List.forall_mem_cons.mp h
    have hsaid : (file :: files).filterMap (complaint? toolkit grammar) =
        (v.complaint? file).toList ++ files.filterMap (complaint? toolkit grammar) := by
      rw [List.filterMap_cons, hjudged.complaint]
      cases v.complaint? file <;> rfl
    rw [hsaid, ← warned_append, List.map_cons, hjudged.contribution]
    exact hjudged.runs.bind ((ih hrest).silent_bind (.pure _))

/-! ## Building -/

/-- What is said of the query files of a language, and of the language if none is of use. -/
def complaints (files : Files) (source : QuerySource) (lang : Language) (toolkit : Module)
    (grammar : GrammarRef) : List Text :=
  (queryFiles files source lang).filterMap (complaint? toolkit grammar) ++
    if (contributions files source lang toolkit grammar).isEmpty then
      ["No security queries compiled for " ++ lang.name]
    else []

/-- **`Building w s lang toolkit grammar s₁`** — from `s`, the queries of a language are still to be
compiled and can be: its grammar is handed out, which leaves `s₁`, and all its files can be
judged. -/
structure Building (w : World) (s : State) (lang : Language) (toolkit : Module)
    (grammar : GrammarRef) (s₁ : State) : Prop where
  isOpen : s.queries.lookup lang = none
  loads : ∃ t, GrammarStep w s lang (.ok (some grammar)) s₁ t
  ready : s₁.loader.runtime = .ready toolkit
  judged : ∀ file ∈ queryFiles w.files s.config.queries lang, ∃ v, Judged toolkit grammar file v

theorem requireToolkit_runs (hready : s.loader.runtime = .ready toolkit) :
    requireToolkit.Runs w s toolkit s {} := by
  have hstate : state.Runs w s s s {} := rfl
  refine hstate.bind_silent ?_
  rw [State.toolkit?_of_ready hready]
  exact .pure _

/-- **`Building.runs`** — the call that compiles the queries of a language answers and remembers
what its files contribute, and says what there is to say of them and nothing else. -/
theorem Building.runs (h : Building w s lang toolkit grammar s₁) :
    let queries := contributions w.files s.config.queries lang toolkit grammar
    ∃ imports, (getQueries lang).Runs w s queries (s₁.withQueries lang queries)
      (⟨imports, []⟩ ++ warned (complaints w.files s.config.queries lang toolkit grammar)) := by
  intro queries
  obtain ⟨t, hstep⟩ := h.loads
  obtain ⟨imports, hload⟩ := hstep.run
  have hstate : state.Runs w s s s {} := rfl
  have hfiles : files.Runs w s₁ w.files s₁ {} := rfl
  have heach := each_compileFile_runs (w := w) (s := s₁) h.judged
  have hfound : ((queryFiles w.files s.config.queries lang).map
      (contribution toolkit grammar)).filterMap id = queries := by
    rw [List.filterMap_map]
    rfl
  refine ⟨imports, ?_⟩
  unfold getQueries
  refine hstate.bind_silent ?_
  rw [h.isOpen]
  refine hload.bind ?_
  refine (requireToolkit_runs h.ready).bind_silent ?_
  refine hfiles.bind_silent ?_
  unfold complaints
  rw [← warned_append]
  refine heach.bind ?_
  dsimp only
  rw [hfound]
  show Runs (if queries.isEmpty then _ else _) w s₁ queries _
    (warned (if queries.isEmpty then _ else _))
  cases queries.isEmpty with
  | true => rfl
  | false => rfl

end HookAudit.Engine
