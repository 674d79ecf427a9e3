/-
# HookAudit.Proofs.Engine.Steps — what each loading operation can do.

One relation for each operation lists everything that a run of it can do: the condition on state and
world, the answer or error, the state that is left, and what is shown of loading.  Proofs about the
engine take these lists apart and never open the operations themselves.  Every entry is a walk
(`ToolkitStep.walk` and so on), so what the moves of an engine keep, every operation keeps.
-/
import HookAudit.Proofs.Engine.Moves

namespace HookAudit.Engine

open Action

variable {w : World} {s s' s₁ s₂ : State} {toolkit : Module} {lang : Language}
  {grammar : GrammarRef} {failure : Failure} {t t₁ t₂ : Trace}

/-! ## The toolkit -/

/-- **`ToolkitStep w s r s' t`** — how looking for the toolkit ends. -/
inductive ToolkitStep (w : World) (s : State) : Except Fault Bool → State → Trace → Prop where
  | there {toolkit : Module} (ready : s.loader.runtime = .ready toolkit) :
      ToolkitStep w s (.ok true) s {}
  | givenUp (unavailable : s.loader.runtime = .unavailable)
      (final : s.config.retryUnavailable = false) : ToolkitStep w s (.ok false) s {}
  | found {toolkit : Module} (isOpen : s.ToolkitOpen)
      (outcome : attemptToolkit w = .ok (some toolkit)) :
      ToolkitStep w s (.ok true) (s.withToolkit toolkit) ⟨[toolkitModule], []⟩
  | absent (message : Text) (isOpen : s.ToolkitOpen) (outcome : attemptToolkit w = .ok none) :
      ToolkitStep w s (.ok false) s.withoutToolkit
        ⟨[toolkitModule], s.warning .runtime message⟩
  | failed {failure : Failure} (isOpen : s.ToolkitOpen)
      (outcome : attemptToolkit w = .error failure) :
      ToolkitStep w s (.error (.outside failure)) s ⟨[toolkitModule], []⟩

/-- A warning changes the loader only. -/
theorem State.warn_with_loader (subject : Subject) (loader : Loader) :
    { s.warn subject with loader } = { s with loader } := by
  unfold State.warn
  split <;> rfl

theorem loadToolkit_ends (hopen : s.ToolkitOpen) : loadToolkit.Ends w s (ToolkitStep w s) := by
  unfold loadToolkit
  have hattempt := importToolkit_ends (w := w) (s := s)
  generalize houtcome : attemptToolkit w = outcome at hattempt
  refine hattempt.bind ?_ ?_
  · rintro _ _ _ ⟨⟩
    exact .failed hopen houtcome
  · rintro toolkit? _ _ hattempted
    cases hattempted with
    | found toolkit => exact Ends.updateLoader_bind (Ends.pure (.found hopen houtcome))
    | absent message =>
      refine Ends.updateLoader_bind (Ends.pure ?_)
      rw [State.warn_with_loader, Trace.append_nothing]
      exact .absent message hopen houtcome

/-- **`ensureRuntime_ends`** — everything that looking for the toolkit can do. -/
theorem ensureRuntime_ends : ensureRuntime.Ends w s (ToolkitStep w s) := by
  unfold ensureRuntime
  refine Ends.state_bind ?_
  cases hruntime : s.loader.runtime with
  | ready toolkit => exact Ends.pure (.there hruntime)
  | uninitialized => exact loadToolkit_ends (by simp [State.ToolkitOpen, hruntime])
  | unavailable =>
    dsimp only
    by_cases hretry : s.config.retryUnavailable = true
    · rw [if_pos hretry]
      exact loadToolkit_ends (by simpa [State.ToolkitOpen, hruntime] using hretry)
    · rw [if_neg hretry]
      exact Ends.pure (.givenUp hruntime (by simpa using hretry))

theorem ToolkitStep.walk {r : Except Fault Bool} (h : ToolkitStep w s r s' t) : Walk w s s' t := by
  cases h with
  | there => exact .stay
  | givenUp => exact .stay
  | found hopen houtcome => exact (Move.toolkitFound hopen houtcome).walk
  | absent message hopen houtcome => exact (Move.toolkitAbsent message hopen houtcome).walk
  | failed hopen houtcome => exact (Move.toolkitFailed hopen houtcome).walk

/-- Looking for the toolkit changes no setting, no grammar and no queries. -/
theorem ToolkitStep.frame {r : Except Fault Bool} (h : ToolkitStep w s r s' t) :
    s'.config = s.config ∧ s'.loader.loaded = s.loader.loaded ∧
      s'.loader.missing = s.loader.missing ∧ s'.queries = s.queries ∧ s'.matcher = s.matcher := by
  cases h <;> simp [State.withToolkit, State.withoutToolkit]

/-- When the toolkit is said to be there, it is. -/
theorem ToolkitStep.ready (h : ToolkitStep w s (.ok true) s' t) :
    ∃ toolkit, s'.loader.runtime = .ready toolkit := by
  cases h with
  | there hready => exact ⟨_, hready⟩
  | found => exact ⟨_, rfl⟩

/-- When the toolkit is said not to be there, it is given up. -/
theorem ToolkitStep.unavailable (h : ToolkitStep w s (.ok false) s' t) :
    s'.loader.runtime = .unavailable := by
  cases h with
  | givenUp hunavailable => exact hunavailable
  | absent => rfl

/-- Once the toolkit is there, looking for it does nothing. -/
theorem ToolkitStep.eq_of_ready {r : Except Fault Bool} (hready : s.loader.runtime = .ready toolkit)
    (h : ToolkitStep w s r s' t) : r = .ok true ∧ s' = s ∧ t = {} := by
  have hclosed : ¬ s.ToolkitOpen := by simp [State.ToolkitOpen, hready]
  cases h with
  | there => exact ⟨rfl, rfl, rfl⟩
  | givenUp hunavailable =>
    rw [hready] at hunavailable
    cases hunavailable
  | found hopen => exact absurd hopen hclosed
  | absent message hopen => exact absurd hopen hclosed
  | failed hopen => exact absurd hopen hclosed

/-- Once the toolkit was given up for good, looking for it does nothing. -/
theorem ToolkitStep.eq_of_unavailable {r : Except Fault Bool}
    (hunavailable : s.loader.runtime = .unavailable) (hfinal : s.config.retryUnavailable = false)
    (h : ToolkitStep w s r s' t) : r = .ok false ∧ s' = s ∧ t = {} := by
  have hclosed : ¬ s.ToolkitOpen := by simp [State.ToolkitOpen, hunavailable, hfinal]
  cases h with
  | there hready =>
    rw [hunavailable] at hready
    cases hready
  | givenUp => exact ⟨rfl, rfl, rfl⟩
  | found hopen => exact absurd hopen hclosed
  | absent message hopen => exact absurd hopen hclosed
  | failed hopen => exact absurd hopen hclosed

/-- While the toolkit is open, the answer is what an attempt at it comes to. -/
theorem ToolkitStep.answer_of_open {r : Except Fault Bool} (hopen : s.ToolkitOpen)
    (h : ToolkitStep w s r s' t) :
    r = ((attemptToolkit w).map Option.isSome).mapError .outside := by
  cases h with
  | there hready => simp [State.ToolkitOpen, hready] at hopen
  | givenUp hunavailable hfinal => simp [State.ToolkitOpen, hunavailable, hfinal] at hopen
  | found _ houtcome => rw [houtcome]; rfl
  | absent message _ houtcome => rw [houtcome]; rfl
  | failed _ houtcome => rw [houtcome]; rfl

/-- Whether the toolkit is there is a matter of state and world. -/
theorem ToolkitStep.unique {r₁ r₂ : Except Fault Bool} (h₁ : ToolkitStep w s r₁ s₁ t₁)
    (h₂ : ToolkitStep w s r₂ s₂ t₂) : r₁ = r₂ := by
  by_cases hopen : s.ToolkitOpen
  · rw [h₁.answer_of_open hopen, h₂.answer_of_open hopen]
  · cases hruntime : s.loader.runtime with
    | uninitialized => simp [State.ToolkitOpen, hruntime] at hopen
    | ready toolkit => rw [(h₁.eq_of_ready hruntime).1, (h₂.eq_of_ready hruntime).1]
    | unavailable =>
      have hfinal : s.config.retryUnavailable = false := by
        simpa [State.ToolkitOpen, hruntime] using hopen
      rw [(h₁.eq_of_unavailable hruntime hfinal).1, (h₂.eq_of_unavailable hruntime hfinal).1]

/-! ## Grammars -/

/-- **`GrammarStep w s lang r s' t`** — how loading a grammar ends. -/
inductive GrammarStep (w : World) (s : State) (lang : Language) :
    Except Fault (Option GrammarRef) → State → Trace → Prop where
  | there {grammar : GrammarRef} (loaded : s.loader.loaded.lookup lang = some grammar) :
      GrammarStep w s lang (.ok (some grammar)) s {}
  | givenUp (unloaded : s.loader.loaded.lookup lang = none) (missing : lang ∈ s.loader.missing)
      (final : s.config.retryUnavailable = false) : GrammarStep w s lang (.ok none) s {}
  | noToolkit {s' : State} {t : Trace} (isOpen : s.GrammarOpen lang)
      (step : ToolkitStep w s (.ok false) s' t) : GrammarStep w s lang (.ok none) s' t
  | toolkitFailed {e : Fault} {s' : State} {t : Trace} (isOpen : s.GrammarOpen lang)
      (step : ToolkitStep w s (.error e) s' t) : GrammarStep w s lang (.error e) s' t
  | found {toolkit : Module} {grammar : GrammarRef} {s₁ : State} {t : Trace}
      (isOpen : s.GrammarOpen lang) (step : ToolkitStep w s (.ok true) s₁ t)
      (ready : s₁.loader.runtime = .ready toolkit)
      (outcome : attemptGrammar w s.config toolkit lang = .ok (some grammar)) :
      GrammarStep w s lang (.ok (some grammar)) (s₁.withGrammar lang grammar)
        (t ++ ⟨grammarImports s.config lang, []⟩)
  | absent {toolkit : Module} {s₁ : State} {t : Trace} (message : Text)
      (isOpen : s.GrammarOpen lang) (step : ToolkitStep w s (.ok true) s₁ t)
      (ready : s₁.loader.runtime = .ready toolkit)
      (outcome : attemptGrammar w s.config toolkit lang = .ok none) :
      GrammarStep w s lang (.ok none) (s₁.withoutGrammar lang)
        (t ++ ⟨grammarImports s.config lang, s₁.warning (.grammar lang) message⟩)
  | failed {toolkit : Module} {failure : Failure} {s₁ : State} {t : Trace}
      (isOpen : s.GrammarOpen lang) (step : ToolkitStep w s (.ok true) s₁ t)
      (ready : s₁.loader.runtime = .ready toolkit)
      (outcome : attemptGrammar w s.config toolkit lang = .error failure) :
      GrammarStep w s lang (.error (.outside failure)) s₁
        (t ++ ⟨grammarImports s.config lang, []⟩)

theorem State.toolkit?_of_ready (hready : s.loader.runtime = .ready toolkit) :
    s.loader.toolkit? = some toolkit := by
  unfold Loader.toolkit?
  rw [hready]

/-- **`loadGrammar_ends`** — everything that loading a grammar can do. -/
theorem loadGrammar_ends : (loadGrammar lang).Ends w s (GrammarStep w s lang) := by
  unfold loadGrammar
  refine Ends.state_bind ?_
  cases hloaded : s.loader.loaded.lookup lang with
  | some grammar => exact Ends.pure (.there hloaded)
  | none =>
    dsimp only
    split
    · rename_i hgiven
      simp only [Bool.and_eq_true, List.contains_iff_mem, Bool.not_eq_true'] at hgiven
      exact Ends.pure (.givenUp hloaded hgiven.1 hgiven.2)
    · rename_i hgiven
      have hopen : s.GrammarOpen lang := by
        refine ⟨hloaded, fun hmissing => ?_⟩
        simpa [hmissing] using hgiven
      refine ensureRuntime_ends.bind (fun e s' t hstep => .toolkitFailed hopen hstep) ?_
      intro isThere s₁ t hstep
      cases isThere with
      | false =>
        exact Ends.pure_behind (.noToolkit hopen hstep)
      | true =>
        obtain ⟨toolkit, hready⟩ := hstep.ready
        have hconfig : s₁.config = s.config := hstep.frame.1
        have hattempt :=
          importGrammar_ends (w := w) lang (State.toolkit?_of_ready hready)
        rw [hconfig] at hattempt
        generalize houtcome : attemptGrammar w s.config toolkit lang = outcome at hattempt
        refine hattempt.bind ?_ ?_
        · rintro _ _ _ ⟨⟩
          exact .failed hopen hstep hready houtcome
        · intro grammar? _ _ hattempted
          cases hattempted with
          | found grammar =>
            refine Ends.updateLoader_bind (Ends.pure ?_)
            rw [Trace.append_nothing]
            exact .found hopen hstep hready houtcome
          | absent message =>
            refine Ends.updateLoader_bind (Ends.pure ?_)
            rw [State.warn_with_loader, State.warn_missing, Trace.append_nothing]
            exact .absent message hopen hstep hready houtcome

/-- Looking for the toolkit settles no grammar. -/
theorem ToolkitStep.grammarOpen {r : Except Fault Bool} (h : ToolkitStep w s r s' t)
    (hopen : s.GrammarOpen lang) : s'.GrammarOpen lang := by
  obtain ⟨hconfig, hloaded, hmissing, -⟩ := h.frame
  exact ⟨hloaded ▸ hopen.1, hconfig ▸ hmissing ▸ hopen.2⟩

theorem GrammarStep.walk {r : Except Fault (Option GrammarRef)} (h : GrammarStep w s lang r s' t) :
    Walk w s s' t := by
  cases h with
  | there => exact .stay
  | givenUp => exact .stay
  | noToolkit hopen hstep => exact hstep.walk
  | toolkitFailed hopen hstep => exact hstep.walk
  -- behind the toolkit, the settings are those of before
  | found hopen hstep hready houtcome =>
    rw [← hstep.frame.1] at houtcome ⊢
    exact hstep.walk.trans (Move.grammarFound hready (hstep.grammarOpen hopen) houtcome).walk
  | absent message hopen hstep hready houtcome =>
    rw [← hstep.frame.1] at houtcome ⊢
    exact hstep.walk.trans
      (Move.grammarAbsent message hready (hstep.grammarOpen hopen) houtcome).walk
  | failed hopen hstep hready houtcome =>
    rw [← hstep.frame.1] at houtcome ⊢
    exact hstep.walk.trans (Move.grammarFailed hready (hstep.grammarOpen hopen) houtcome).walk

/-- Loading a grammar changes no setting, no queries and no matcher. -/
theorem GrammarStep.frame {r : Except Fault (Option GrammarRef)} (h : GrammarStep w s lang r s' t) :
    s'.config = s.config ∧ s'.queries = s.queries ∧ s'.matcher = s.matcher := by
  cases h with
  | there => exact ⟨rfl, rfl, rfl⟩
  | givenUp => exact ⟨rfl, rfl, rfl⟩
  | noToolkit hopen hstep => exact ⟨hstep.frame.1, hstep.frame.2.2.2⟩
  | toolkitFailed hopen hstep => exact ⟨hstep.frame.1, hstep.frame.2.2.2⟩
  | found hopen hstep => exact ⟨hstep.frame.1, hstep.frame.2.2.2⟩
  | absent message hopen hstep => exact ⟨hstep.frame.1, hstep.frame.2.2.2⟩
  | failed hopen hstep => exact ⟨hstep.frame.1, hstep.frame.2.2.2⟩

/-- A grammar that is handed out is loaded. -/
theorem GrammarStep.loaded (h : GrammarStep w s lang (.ok (some grammar)) s' t) :
    s'.loader.loaded.lookup lang = some grammar := by
  cases h with
  | there hloaded => exact hloaded
  | found => exact List.lookup_cons_self

/-- A grammar that is handed out was opened by a toolkit that is there. -/
theorem GrammarStep.ready (hs : Sound s) (h : GrammarStep w s lang (.ok (some grammar)) s' t) :
    ∃ toolkit, s'.loader.runtime = .ready toolkit :=
  (hs.walk h.walk).ready_of_loaded h.loaded

/-- Once its grammar is loaded, loading it does nothing. -/
theorem GrammarStep.eq_of_loaded {r : Except Fault (Option GrammarRef)}
    (hloaded : s.loader.loaded.lookup lang = some grammar) (h : GrammarStep w s lang r s' t) :
    r = .ok (some grammar) ∧ s' = s ∧ t = {} := by
  have hclosed : ¬ s.GrammarOpen lang := by
    rintro ⟨hunloaded, _⟩
    rw [hloaded] at hunloaded
    cases hunloaded
  cases h with
  | there hloaded' =>
    rw [hloaded] at hloaded'
    cases hloaded'
    exact ⟨rfl, rfl, rfl⟩
  | givenUp hunloaded =>
    rw [hloaded] at hunloaded
    cases hunloaded
  | noToolkit hopen => exact absurd hopen hclosed
  | toolkitFailed hopen => exact absurd hopen hclosed
  | found hopen => exact absurd hopen hclosed
  | absent message hopen => exact absurd hopen hclosed
  | failed hopen => exact absurd hopen hclosed

/-- Without a toolkit there is no grammar. -/
theorem GrammarStep.of_noToolkit (hs : Sound s) (h : ToolkitStep w s (.ok false) s' t) :
    GrammarStep w s lang (.ok none) s' t := by
  have hnone : ∀ toolkit, s.loader.runtime ≠ .ready toolkit := by
    intro toolkit hready
    cases (h.eq_of_ready hready).1
  exact .noToolkit (hs.grammarOpen hnone lang) h

/-- **`GrammarStep.behind`** — to look for the toolkit first changes nothing: loading a grammar
does it anyway. -/
theorem GrammarStep.behind {r : Except Fault (Option GrammarRef)} (hs : Sound s)
    (htoolkit : ToolkitStep w s (.ok true) s₁ t₁) (h : GrammarStep w s₁ lang r s₂ t₂) :
    GrammarStep w s lang r s₂ (t₁ ++ t₂) := by
  obtain ⟨toolkit, hready⟩ := htoolkit.ready
  have hfirst := htoolkit
  cases htoolkit with
  | there => exact h
  | @found found hopen houtcome =>
    have hgrammar := hs.grammarOpen hopen.not_ready lang
    have hnothing := hs.nothing_settled hopen.not_ready lang
    cases h with
    | there hloaded =>
      have hunloaded : (s.withToolkit found).loader.loaded.lookup lang = none := hnothing.1
      rw [hunloaded] at hloaded
      cases hloaded
    | givenUp _ hmissing _ => exact absurd hmissing hnothing.2
    | noToolkit _ hstep => cases (hstep.eq_of_ready hready).1
    | toolkitFailed _ hstep => cases (hstep.eq_of_ready hready).1
    | found _ hstep hready' houtcome' =>
      obtain ⟨_, rfl, rfl⟩ := hstep.eq_of_ready hready
      exact .found hgrammar hfirst hready' houtcome'
    | absent message _ hstep hready' houtcome' =>
      obtain ⟨_, rfl, rfl⟩ := hstep.eq_of_ready hready
      exact .absent message hgrammar hfirst hready' houtcome'
    | failed _ hstep hready' houtcome' =>
      obtain ⟨_, rfl, rfl⟩ := hstep.eq_of_ready hready
      exact .failed hgrammar hfirst hready' houtcome'

/-! ## Queries -/

/-- **`PackStep w s lang r s'`** — how getting the queries of a language ends once its grammar is
loaded. -/
inductive PackStep (w : World) (s : State) (lang : Language) :
    Except Fault (List NamedQuery) → State → Prop where
  | there {queries : List NamedQuery} (compiled : s.queries.lookup lang = some queries) :
      PackStep w s lang (.ok queries) s
  | compiled {toolkit : Module} {grammar : GrammarRef} {judged : List (QueryFile × Verdict)}
      (isOpen : s.queries.lookup lang = none) (ready : s.loader.runtime = .ready toolkit)
      (loaded : s.loader.loaded.lookup lang = some grammar)
      (outcome : attemptPack w s.config toolkit grammar lang = .ok judged) :
      PackStep w s lang (.ok (usableQueries judged)) (s.withQueries lang (usableQueries judged))
  | failed {toolkit : Module} {grammar : GrammarRef} {failure : Failure}
      (isOpen : s.queries.lookup lang = none) (ready : s.loader.runtime = .ready toolkit)
      (loaded : s.loader.loaded.lookup lang = some grammar)
      (outcome : attemptPack w s.config toolkit grammar lang = .error failure) :
      PackStep w s lang (.error (.outside failure)) s

theorem PackStep.walk {r : Except Fault (List NamedQuery)} (h : PackStep w s lang r s') :
    Walk w s s' {} := by
  cases h with
  | there => exact .stay
  | compiled hopen hready hloaded houtcome =>
    exact (Move.queriesCompiled hready hloaded hopen houtcome).walk
  | failed => exact .stay

/-- Getting queries changes no setting and nothing that is loaded. -/
theorem PackStep.frame {r : Except Fault (List NamedQuery)} (h : PackStep w s lang r s') :
    s'.config = s.config ∧ s'.loader = s.loader ∧ s'.matcher = s.matcher := by
  cases h <;> exact ⟨rfl, rfl, rfl⟩

/-- The queries that are handed out are remembered. -/
theorem PackStep.remembered {queries : List NamedQuery} (h : PackStep w s lang (.ok queries) s') :
    s'.queries.lookup lang = some queries := by
  cases h with
  | there hcompiled => exact hcompiled
  | compiled => exact List.lookup_cons_self

/-- Once the queries of a language are compiled, getting them does nothing. -/
theorem PackStep.eq_of_compiled {r : Except Fault (List NamedQuery)} {queries : List NamedQuery}
    (hcompiled : s.queries.lookup lang = some queries) (h : PackStep w s lang r s') :
    r = .ok queries ∧ s' = s := by
  cases h with
  | there hcompiled' =>
    rw [hcompiled] at hcompiled'
    cases hcompiled'
    exact ⟨rfl, rfl⟩
  | compiled hopen =>
    rw [hcompiled] at hopen
    cases hopen
  | failed hopen =>
    rw [hcompiled] at hopen
    cases hopen

/-- **`QueriesStep w s lang r s' t`** — how getting the queries of a language ends. -/
inductive QueriesStep (w : World) (s : State) (lang : Language) :
    Except Fault (List NamedQuery) → State → Trace → Prop where
  | there {queries : List NamedQuery} (compiled : s.queries.lookup lang = some queries) :
      QueriesStep w s lang (.ok queries) s {}
  | noGrammar {s' : State} {t : Trace} (isOpen : s.queries.lookup lang = none)
      (step : GrammarStep w s lang (.ok none) s' t) : QueriesStep w s lang (.ok []) s' t
  | grammarFailed {e : Fault} {s' : State} {t : Trace} (isOpen : s.queries.lookup lang = none)
      (step : GrammarStep w s lang (.error e) s' t) : QueriesStep w s lang (.error e) s' t
  | packed {grammar : GrammarRef} {r : Except Fault (List NamedQuery)} {s₁ s' : State} {t : Trace}
      (isOpen : s.queries.lookup lang = none)
      (step : GrammarStep w s lang (.ok (some grammar)) s₁ t) (pack : PackStep w s₁ lang r s') :
      QueriesStep w s lang r s' t

/-- With its grammar loaded, only the queries of a language are left to get. -/
theorem QueriesStep.pack {r : Except Fault (List NamedQuery)}
    (hloaded : s.loader.loaded.lookup lang = some grammar) (h : QueriesStep w s lang r s' t) :
    PackStep w s lang r s' ∧ t = {} := by
  cases h with
  | there hcompiled => exact ⟨.there hcompiled, rfl⟩
  | noGrammar _ hstep => cases (hstep.eq_of_loaded hloaded).1
  | grammarFailed _ hstep => cases (hstep.eq_of_loaded hloaded).1
  | packed _ hstep hpack =>
    obtain ⟨_, rfl, rfl⟩ := hstep.eq_of_loaded hloaded
    exact ⟨hpack, rfl⟩

theorem QueriesStep.walk {r : Except Fault (List NamedQuery)} (h : QueriesStep w s lang r s' t) :
    Walk w s s' t := by
  cases h with
  | there => exact .stay
  | noGrammar _ hstep => exact hstep.walk
  | grammarFailed _ hstep => exact hstep.walk
  | packed _ hstep hpack =>
    exact hstep.walk.trans_silent hpack.walk

theorem requireToolkit_gives (hready : s.loader.runtime = .ready toolkit) :
    requireToolkit.Gives w s (.ok toolkit) := by
  unfold requireToolkit
  refine Ends.state_bind ?_
  rw [State.toolkit?_of_ready hready]
  exact Gives.pure _

/-- What getting queries comes to once toolkit and grammar are there and nothing is remembered. -/
theorem compilePack_ends (hready : s.loader.runtime = .ready toolkit)
    (hloaded : s.loader.loaded.lookup lang = some grammar)
    (hopen : s.queries.lookup lang = none) :
    (do
      let toolkit ← requireToolkit
      let found ← each (compileFile toolkit grammar)
        (queryFiles (← files) s.config.queries lang)
      let queries := found.filterMap id
      if queries.isEmpty then
        log .warning queriesSource ("No security queries compiled for " ++ lang.name)
      update fun s => { s with queries := (lang, queries) :: s.queries }
      return queries : Action (List NamedQuery)).Ends w s fun r s' t =>
        PackStep w s lang r s' ∧ t = {} := by
  refine (requireToolkit_gives hready).bind_ends (by rintro _ ⟨⟩) ?_
  rintro _ ⟨⟩
  refine Ends.files_bind ?_
  have hcompile := compileFiles_gives (w := w) (s := s) s.config toolkit grammar lang
  cases hpack : attemptPack w s.config toolkit grammar lang with
  | error failure =>
    rw [hpack] at hcompile
    refine hcompile.bind_ends ?_ (by rintro _ ⟨⟩)
    rintro _ ⟨⟩
    exact ⟨.failed hopen hready hloaded hpack, rfl⟩
  | ok judged =>
    rw [hpack] at hcompile
    refine hcompile.bind_ends (by rintro _ ⟨⟩) ?_
    rintro _ ⟨⟩
    have husable : (judged.map (·.2.query?)).filterMap id = usableQueries judged := by
      simp [usableQueries, List.filterMap_map]
    have hremember : (update (fun s => { s with
        queries := (lang, usableQueries judged) :: s.queries }) >>=
          fun _ => Pure.pure (usableQueries judged)).Ends w s fun r s' t =>
            PackStep w s lang r s' ∧ t = {} :=
      Ends.update_bind (Ends.pure ⟨.compiled hopen hready hloaded hpack, rfl⟩)
    rw [husable]
    dsimp only
    -- an empty set is said to be one, and remembered all the same
    split
    · exact Ends.otherLog_bind queriesSource_ne hremember
    · exact hremember

/-- **`getQueries_ends`** — everything that getting queries from a sound engine can do. -/
theorem getQueries_ends (hs : Sound s) : (getQueries lang).Ends w s (QueriesStep w s lang) := by
  unfold getQueries
  refine Ends.state_bind ?_
  cases hqueries : s.queries.lookup lang with
  | some queries => exact Ends.pure (.there hqueries)
  | none =>
    dsimp only
    refine loadGrammar_ends.bind (fun e s' t hstep => .grammarFailed hqueries hstep) ?_
    intro grammar? s₁ t hstep
    cases grammar? with
    | none => exact Ends.pure_behind (.noGrammar hqueries hstep)
    | some grammar =>
      obtain ⟨toolkit, hready⟩ := hstep.ready hs
      have hopen : s₁.queries.lookup lang = none := by rw [hstep.frame.2.1, hqueries]
      have hpack := compilePack_ends (w := w) hready hstep.loaded hopen
      rw [hstep.frame.1] at hpack
      refine hpack.mono ?_
      rintro r s' _ ⟨hpacked, rfl⟩
      rw [Trace.append_nothing]
      exact .packed hqueries hstep hpacked

end HookAudit.Engine
