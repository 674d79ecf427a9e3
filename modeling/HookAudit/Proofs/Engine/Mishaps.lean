/-
# HookAudit.Proofs.Engine.Mishaps — where loading may fail, and what is left then.

Loading goes by stages: the toolkit, the grammar of a language, its queries.  At each the world may
fail in a way that is no absence (`Mishap`).  Such a failure leaves its own stage as it was: nothing
is loaded, given up, warned about or remembered, although the stages before it may have been reached
in the same run (`Untouched`).

The runs that load a language all do it in the same way and differ only in what they look at and in
when they go through the query files.  `LanguageStep` says so once for all of them, and what becomes
of a mishap is shown for it: the run ends in the mishap that it meets (`LanguageStep.of_mishap`), it
ends in no other failure (`LanguageStep.mishap`), and a stage left open is tried again.
-/
import HookAudit.Proofs.Engine.Requests

namespace HookAudit.Engine

open Action

variable {w : World} {s s' s₁ : State} {toolkit : Module} {lang : Language}
  {grammar : GrammarRef} {failure : Failure} {t : Trace}

/-! ## Stages and mishaps -/

/-- The stages of loading, each behind the one before it. -/
inductive Stage where
  | toolkit | grammar | queries

/-- **`FindsToolkit w s toolkit`** — the toolkit is there, or it is found when it is looked for. -/
inductive FindsToolkit (w : World) (s : State) (toolkit : Module) : Prop where
  | there (ready : s.loader.runtime = .ready toolkit)
  | imported (isOpen : s.ToolkitOpen) (outcome : w.importModule toolkitModule = .ok toolkit)
      (complete : toolkit.Complete)

/-- **`FindsGrammar w s toolkit lang grammar`** — the grammar is there, or it is found by this
toolkit when it is looked for. -/
inductive FindsGrammar (w : World) (s : State) (toolkit : Module) (lang : Language)
    (grammar : GrammarRef) : Prop where
  | there (loaded : s.loader.loaded.lookup lang = some grammar)
  | opened (isOpen : s.GrammarOpen lang)
      (outcome : attemptGrammar w s.config toolkit lang = .ok (some grammar))

/-- **`Mishap w s lang stage failure`** — when an engine in the state `s` loads a language as far as
`stage`, the world fails there, and by more than an absence. -/
inductive Mishap (w : World) (s : State) (lang : Language) : Stage → Failure → Prop where
  | toolkit {failure : Failure} (isOpen : s.ToolkitOpen)
      (raised : w.importModule toolkitModule = .error failure)
      (unexpected : failure.kind ≠ .missing) : Mishap w s lang .toolkit failure
  | grammar {toolkit : Module} {failure : Failure} (finds : FindsToolkit w s toolkit)
      (isOpen : s.GrammarOpen lang) (fails : GrammarFails w s.config toolkit lang failure) :
      Mishap w s lang .grammar failure
  | queries {toolkit : Module} {grammar : GrammarRef} {failure : Failure}
      (finds : FindsToolkit w s toolkit) (opens : FindsGrammar w s toolkit lang grammar)
      (fails : PackFails w s.config toolkit grammar lang failure) :
      Mishap w s lang .queries failure

/-- **`ReachesToolkit s toolkit s'`** — `s'` is `s` with this toolkit, which was there or has been
found. -/
inductive ReachesToolkit (s : State) (toolkit : Module) : State → Prop where
  | there (ready : s.loader.runtime = .ready toolkit) : ReachesToolkit s toolkit s
  | found (isOpen : s.ToolkitOpen) : ReachesToolkit s toolkit (s.withToolkit toolkit)

/-- **`ReachesGrammar s toolkit lang grammar s'`** — `s'` is `s` with this toolkit and this grammar,
each of which was there or has been found. -/
inductive ReachesGrammar (s : State) (toolkit : Module) (lang : Language) (grammar : GrammarRef) :
    State → Prop where
  | there {s' : State} (reaches : ReachesToolkit s toolkit s')
      (loaded : s.loader.loaded.lookup lang = some grammar) :
      ReachesGrammar s toolkit lang grammar s'
  | found {s' : State} (reaches : ReachesToolkit s toolkit s') (isOpen : s.GrammarOpen lang) :
      ReachesGrammar s toolkit lang grammar (s'.withGrammar lang grammar)

/-- **`Untouched s lang stage s'`** — from `s` to `s'` nothing has changed but that the stages
before this one were reached. -/
def Untouched (s : State) (lang : Language) : Stage → State → Prop
  | .toolkit, s' => s' = s
  | .grammar, s' => ∃ toolkit, ReachesToolkit s toolkit s'
  | .queries, s' => ∃ toolkit grammar, ReachesGrammar s toolkit lang grammar s'

theorem ReachesToolkit.ready (h : ReachesToolkit s toolkit s') :
    s'.loader.runtime = .ready toolkit := by
  cases h with
  | there hready => exact hready
  | found => rfl

/-- To reach the toolkit changes no setting, no grammar and no queries. -/
theorem ReachesToolkit.frame (h : ReachesToolkit s toolkit s') :
    s'.config = s.config ∧ s'.loader.loaded = s.loader.loaded ∧
      s'.loader.missing = s.loader.missing ∧ s'.queries = s.queries := by
  cases h <;> exact ⟨rfl, rfl, rfl, rfl⟩

theorem ReachesGrammar.ready (h : ReachesGrammar s toolkit lang grammar s') :
    s'.loader.runtime = .ready toolkit := by
  cases h with
  | there hreaches => exact hreaches.ready
  | found hreaches => exact hreaches.ready

theorem ReachesGrammar.loaded (h : ReachesGrammar s toolkit lang grammar s') :
    s'.loader.loaded.lookup lang = some grammar := by
  cases h with
  | there hreaches hloaded => rw [hreaches.frame.2.1, hloaded]
  | found => exact List.lookup_cons_self

/-! ## Single steps -/

/-- A toolkit that can be found is found. -/
theorem FindsToolkit.step {r : Except Fault Bool} (hfinds : FindsToolkit w s toolkit)
    (h : ToolkitStep w s r s' t) :
    r = .ok true ∧ ReachesToolkit s toolkit s' := by
  cases hfinds with
  | there hready =>
    obtain ⟨hr, rfl, _⟩ := h.eq_of_ready hready
    exact ⟨hr, .there hready⟩
  | imported hopen himported hcomplete =>
    have hattempt := attemptToolkit_eq_some_iff.mpr ⟨himported, hcomplete⟩
    have hr := h.answer_of_open hopen
    rw [hattempt] at hr
    subst hr
    -- of the two steps that answer so, one takes a toolkit that was there already
    cases h with
    | there hready => exact absurd hready (hopen.not_ready _)
    | found _ houtcome =>
      rw [hattempt] at houtcome
      cases houtcome
      exact ⟨rfl, .found hopen⟩

/-- **`GrammarSettles s lang outcome r s'`** — what an attempt at a grammar comes to, as an answer
and as a state. -/
inductive GrammarSettles (s : State) (lang : Language) :
    Except Failure (Option GrammarRef) → Except Fault (Option GrammarRef) → State → Prop where
  | found (grammar : GrammarRef) :
      GrammarSettles s lang (.ok (some grammar)) (.ok (some grammar)) (s.withGrammar lang grammar)
  | absent : GrammarSettles s lang (.ok none) (.ok none) (s.withoutGrammar lang)
  | failed (failure : Failure) :
      GrammarSettles s lang (.error failure) (.error (.outside failure)) s

/-- A grammar that is open is attempted once the toolkit is found, and the attempt decides. -/
theorem GrammarStep.of_open {r : Except Fault (Option GrammarRef)}
    (hfinds : FindsToolkit w s toolkit) (hopen : s.GrammarOpen lang)
    (h : GrammarStep w s lang r s' t) :
    ∃ s₁, ReachesToolkit s toolkit s₁ ∧
      GrammarSettles s₁ lang (attemptGrammar w s.config toolkit lang) r s' := by
  cases h with
  | there hloaded =>
    rw [hopen.1] at hloaded
    cases hloaded
  | givenUp _ hmissing hfinal =>
    rw [hopen.2 hmissing] at hfinal
    cases hfinal
  | noToolkit _ hstep => cases (hfinds.step hstep).1
  | toolkitFailed _ hstep => cases (hfinds.step hstep).1
  | found _ hstep hready houtcome =>
    obtain ⟨_, hreaches⟩ := hfinds.step hstep
    obtain rfl := RuntimeState.ready.inj (hready.symm.trans hreaches.ready)
    exact ⟨_, hreaches, houtcome ▸ .found _⟩
  | absent message _ hstep hready houtcome =>
    obtain ⟨_, hreaches⟩ := hfinds.step hstep
    obtain rfl := RuntimeState.ready.inj (hready.symm.trans hreaches.ready)
    exact ⟨_, hreaches, houtcome ▸ .absent⟩
  | failed _ hstep hready houtcome =>
    obtain ⟨_, hreaches⟩ := hfinds.step hstep
    obtain rfl := RuntimeState.ready.inj (hready.symm.trans hreaches.ready)
    exact ⟨_, hreaches, houtcome ▸ .failed _⟩

/-- A grammar that can be found is found. -/
theorem FindsGrammar.step {r : Except Fault (Option GrammarRef)} (hs : Sound s)
    (hfinds : FindsToolkit w s toolkit) (hopens : FindsGrammar w s toolkit lang grammar)
    (h : GrammarStep w s lang r s' t) :
    r = .ok (some grammar) ∧ ReachesGrammar s toolkit lang grammar s' := by
  cases hopens with
  | there hloaded =>
    obtain ⟨hr, rfl, _⟩ := h.eq_of_loaded hloaded
    cases hfinds with
    | there hready => exact ⟨hr, .there (.there hready) hloaded⟩
    | imported hopen =>
      -- a loaded grammar was opened by a toolkit that is there, so it need not be looked for
      obtain ⟨ready, hready⟩ := hs.ready_of_loaded hloaded
      exact absurd hready (hopen.not_ready ready)
  | opened hopen houtcome =>
    obtain ⟨s₁, hreaches, hsettles⟩ := h.of_open hfinds hopen
    rw [houtcome] at hsettles
    cases hsettles
    exact ⟨rfl, .found hreaches hopen⟩

/-! ## Questions about one language -/

/-- The error that a run ends in, if it does. -/
def fault? {α : Type} : Except Fault α → Option Fault
  | .error e => some e
  | .ok _ => none

theorem fault?_map {α β : Type} (f : α → β) (r : Except Fault α) : fault? (r.map f) = fault? r := by
  cases r <;> rfl

/-- **`LanguageStep w s lang compiles fault s' t`** — how a run ends that loads the grammar of a
language and then, if `compiles` says so, goes through its query files. -/
inductive LanguageStep (w : World) (s : State) (lang : Language) (compiles : Prop) :
    Option Fault → State → Trace → Prop where
  | noGrammar {s' : State} {t : Trace} (step : GrammarStep w s lang (.ok none) s' t) :
      LanguageStep w s lang compiles none s' t
  | grammarFailed {e : Fault} {s' : State} {t : Trace}
      (step : GrammarStep w s lang (.error e) s' t) : LanguageStep w s lang compiles (some e) s' t
  | uncompiled {grammar : GrammarRef} {s₁ s' : State} {t : Trace} (skips : ¬ compiles)
      (step : GrammarStep w s lang (.ok (some grammar)) s₁ t) :
      LanguageStep w s lang compiles none s' t
  | compiled {toolkit : Module} {grammar : GrammarRef} {judged : List (QueryFile × Verdict)}
      {s₁ s' : State} {t : Trace} (step : GrammarStep w s lang (.ok (some grammar)) s₁ t)
      (ready : s₁.loader.runtime = .ready toolkit)
      (outcome : attemptPack w s.config toolkit grammar lang = .ok judged) :
      LanguageStep w s lang compiles none s' t
  | packFailed {toolkit : Module} {grammar : GrammarRef} {failure : Failure} {s' : State}
      {t : Trace} (goes : compiles) (step : GrammarStep w s lang (.ok (some grammar)) s' t)
      (ready : s'.loader.runtime = .ready toolkit)
      (outcome : attemptPack w s.config toolkit grammar lang = .error failure) :
      LanguageStep w s lang compiles (some (.outside failure)) s' t

variable {compiles : Prop} {e? : Option Fault}

/-- A run that comes to the query files behind a grammar goes through them unless the queries are
remembered. -/
theorem PackStep.languageStep {r : Except Fault (List NamedQuery)} {s₂ : State}
    (hstep : GrammarStep w s lang (.ok (some grammar)) s₁ t) (hpack : PackStep w s₁ lang r s')
    (hend : ∀ e, r = .error e → s₂ = s') :
    LanguageStep w s lang (s.queries.lookup lang = none) (fault? r) s₂ t := by
  obtain ⟨hconfig, hqueries, -⟩ := hstep.frame
  cases hpack with
  | there hcompiled => exact .uncompiled (by simp [← hqueries, hcompiled]) hstep
  | compiled hopen hready hloaded houtcome =>
    rw [hstep.loaded] at hloaded
    cases hloaded
    exact .compiled hstep hready (hconfig ▸ houtcome)
  | failed hopen hready hloaded houtcome =>
    obtain rfl := hend _ rfl
    rw [hstep.loaded] at hloaded
    cases hloaded
    exact .packFailed (by rw [← hqueries, hopen]) hstep hready (hconfig ▸ houtcome)

theorem GrammarStep.languageStep {r : Except Fault (Option GrammarRef)}
    (h : GrammarStep w s lang r s' t) : LanguageStep w s lang False (fault? r) s' t := by
  match r, h with
  | .error e, h => exact .grammarFailed h
  | .ok none, h => exact .noGrammar h
  | .ok (some grammar), h => exact .uncompiled id h

theorem QueriesStep.languageStep {r : Except Fault (List NamedQuery)}
    (hopen : s.queries.lookup lang = none) (h : QueriesStep w s lang r s' t) :
    LanguageStep w s lang (s.queries.lookup lang = none) (fault? r) s' t := by
  cases h with
  | there hcompiled =>
    rw [hopen] at hcompiled
    cases hcompiled
  | noGrammar _ hstep => exact .noGrammar hstep
  | grammarFailed _ hstep => exact .grammarFailed hstep
  | packed _ hstep hpack => exact hpack.languageStep hstep fun _ _ => rfl

theorem ValidateStep.languageStep {r : Except Fault PackReport}
    (h : ValidateStep w s lang r s' t) : LanguageStep w s lang True (fault? r) s' t := by
  cases h with
  | noGrammar hstep => exact .noGrammar hstep
  | grammarFailed hstep => exact .grammarFailed hstep
  | judged hstep hready houtcome => exact .compiled hstep hready houtcome
  | packFailed hstep hready houtcome => exact .packFailed trivial hstep hready houtcome

theorem RequestStep.languageStep {content : Text} {r : Except Fault Outcome} (hs : Sound s)
    (h : RequestStep w s content lang r s' t) :
    LanguageStep w s lang (s.queries.lookup lang = none) (fault? r) s' t := by
  cases h with
  | noToolkit hstep => exact .noGrammar (.of_noToolkit hs hstep)
  | noGrammar _ hstep => exact .noGrammar hstep
  | grammarFailed hstep => exact .grammarFailed hstep
  | noQueries hstep hpack =>
    exact PackStep.languageStep (r := .ok _) hstep hpack fun _ h => nomatch h
  | packFailed hstep hpack => exact hpack.languageStep hstep fun _ _ => rfl
  | assessed hstep hpack _ _ =>
    exact PackStep.languageStep (r := .ok _) hstep hpack fun _ h => nomatch h

/-! ### What becomes of mishaps -/

/-- Where the toolkit fails, looking for it does, and changes nothing. -/
theorem ToolkitStep.of_fails {r : Except Fault Bool} (hopen : s.ToolkitOpen)
    (hattempt : attemptToolkit w = .error failure) (h : ToolkitStep w s r s' t) :
    r = .error (.outside failure) ∧ s' = s := by
  have hr := h.answer_of_open hopen
  rw [hattempt] at hr
  subst hr
  cases h with
  | failed => exact ⟨rfl, rfl⟩

/-- Where the toolkit fails, loading a grammar does. -/
theorem GrammarStep.of_toolkitFails {r : Except Fault (Option GrammarRef)} (hs : Sound s)
    (hopen : s.ToolkitOpen) (hattempt : attemptToolkit w = .error failure)
    (h : GrammarStep w s lang r s' t) : r = .error (.outside failure) ∧ s' = s := by
  have hnothing := hs.nothing_settled hopen.not_ready lang
  cases h with
  | there hloaded =>
    rw [hnothing.1] at hloaded
    cases hloaded
  | givenUp _ hmissing => exact absurd hmissing hnothing.2
  | noToolkit _ hstep => cases (hstep.of_fails hopen hattempt).1
  | toolkitFailed _ hstep =>
    obtain ⟨⟨⟩, hsame⟩ := hstep.of_fails hopen hattempt
    exact ⟨rfl, hsame⟩
  | found _ hstep => cases (hstep.of_fails hopen hattempt).1
  | absent message _ hstep => cases (hstep.of_fails hopen hattempt).1
  | failed _ hstep => cases (hstep.of_fails hopen hattempt).1

/-- A run that loads a language goes no further than loading its grammar does. -/
theorem LanguageStep.of_grammarFails {e : Fault} {P : State → Prop}
    (hgrammar : ∀ {r s' t}, GrammarStep w s lang r s' t → r = .error e ∧ P s')
    (h : LanguageStep w s lang compiles e? s' t) : e? = some e ∧ P s' := by
  cases h with
  | noGrammar hstep => cases (hgrammar hstep).1
  | grammarFailed hstep =>
    obtain ⟨⟨⟩, hP⟩ := hgrammar hstep
    exact ⟨rfl, hP⟩
  | uncompiled _ hstep => cases (hgrammar hstep).1
  | compiled hstep => cases (hgrammar hstep).1
  | packFailed _ hstep => cases (hgrammar hstep).1

/-- A run that loads a language ends in the mishap that it meets. -/
theorem LanguageStep.of_mishap {stage : Stage} (hs : Sound s)
    (hmishap : Mishap w s lang stage failure) (hgoes : stage = .queries → compiles)
    (h : LanguageStep w s lang compiles e? s' t) :
    e? = some (.outside failure) ∧ Untouched s lang stage s' := by
  cases hmishap with
  -- the first two stages lie on the way to the grammar, which no run gets past
  | toolkit hopen hraised hunexpected =>
    have hattempt := attemptToolkit_eq_error_iff.mpr ⟨hraised, hunexpected⟩
    exact h.of_grammarFails fun hstep => hstep.of_toolkitFails hs hopen hattempt
  | grammar hfinds hopen hfails =>
    refine h.of_grammarFails (P := Untouched s lang .grammar) fun hstep => ?_
    obtain ⟨s₁, hreaches, hsettles⟩ := hstep.of_open hfinds hopen
    rw [attemptGrammar_eq_error_iff.mpr hfails] at hsettles
    cases hsettles
    exact ⟨rfl, _, hreaches⟩
  -- the last lies behind a grammar that is handed out, so of all runs one is left
  | queries hfinds hopens hfails =>
    have hattempt := attemptPack_eq_error_iff.mpr hfails
    cases h with
    | noGrammar hstep => cases (hopens.step hs hfinds hstep).1
    | grammarFailed hstep => cases (hopens.step hs hfinds hstep).1
    | uncompiled hskips => exact absurd (hgoes rfl) hskips
    | compiled hstep hready houtcome =>
      obtain ⟨⟨⟩, hreaches⟩ := hopens.step hs hfinds hstep
      obtain rfl := RuntimeState.ready.inj (hready.symm.trans hreaches.ready)
      rw [hattempt] at houtcome
      cases houtcome
    | packFailed _ hstep hready houtcome =>
      obtain ⟨⟨⟩, hreaches⟩ := hopens.step hs hfinds hstep
      obtain rfl := RuntimeState.ready.inj (hready.symm.trans hreaches.ready)
      rw [hattempt] at houtcome
      cases houtcome
      exact ⟨rfl, _, _, hreaches⟩

/-- A toolkit that is there behind a step could be found before it. -/
theorem ToolkitStep.finds (h : ToolkitStep w s (.ok true) s' t)
    (hready : s'.loader.runtime = .ready toolkit) : FindsToolkit w s toolkit := by
  cases h with
  | there => exact .there hready
  | found hopen houtcome =>
    cases hready
    obtain ⟨himported, hcomplete⟩ := attemptToolkit_eq_some_iff.mp houtcome
    exact .imported hopen himported hcomplete

/-- So could a grammar that is handed out. -/
theorem GrammarStep.finds (h : GrammarStep w s lang (.ok (some grammar)) s' t)
    (hready : s'.loader.runtime = .ready toolkit) :
    FindsToolkit w s toolkit ∧ FindsGrammar w s toolkit lang grammar := by
  cases h with
  | there hloaded => exact ⟨.there hready, .there hloaded⟩
  | found hopen hstep hready' houtcome =>
    obtain rfl : toolkit = _ := RuntimeState.ready.inj (hready.symm.trans hready')
    exact ⟨hstep.finds hready', .opened hopen houtcome⟩

/-- A failure of the toolkit that goes through is a mishap. -/
theorem ToolkitStep.mishap (h : ToolkitStep w s (.error (.outside failure)) s' t) :
    Mishap w s lang .toolkit failure := by
  cases h with
  | failed hopen houtcome =>
    obtain ⟨hraised, hunexpected⟩ := attemptToolkit_eq_error_iff.mp houtcome
    exact .toolkit hopen hraised hunexpected

/-- Every failure that goes through is a mishap. -/
theorem LanguageStep.mishap (h : LanguageStep w s lang compiles (some (.outside failure)) s' t) :
    ∃ stage, (stage = .queries → compiles) ∧ Mishap w s lang stage failure := by
  cases h with
  | grammarFailed hstep =>
    cases hstep with
    | toolkitFailed hopen hstep => exact ⟨.toolkit, nofun, hstep.mishap⟩
    | failed hopen hstep hready houtcome =>
      exact ⟨.grammar, nofun,
        .grammar (hstep.finds hready) hopen (attemptGrammar_eq_error_iff.mp houtcome)⟩
  | packFailed hgoes hstep hready houtcome =>
    obtain ⟨hfinds, hopens⟩ := hstep.finds hready
    exact ⟨.queries, fun _ => hgoes, .queries hfinds hopens (attemptPack_eq_error_iff.mp houtcome)⟩

/-! ### Trying again -/

/-- While the toolkit is open, looking for it imports it. -/
theorem ToolkitStep.imports_of_open {r : Except Fault Bool} (hopen : s.ToolkitOpen)
    (h : ToolkitStep w s r s' t) : toolkitModule ∈ t.imports := by
  cases h with
  | there hready => exact absurd hready (hopen.not_ready _)
  | givenUp hunavailable hfinal => simp [State.ToolkitOpen, hunavailable, hfinal] at hopen
  | found => exact List.mem_singleton_self _
  | absent => exact List.mem_singleton_self _
  | failed => exact List.mem_singleton_self _

/-- While the toolkit is open, so does loading a grammar. -/
theorem GrammarStep.imports_of_toolkitOpen {r : Except Fault (Option GrammarRef)} (hs : Sound s)
    (hopen : s.ToolkitOpen) (h : GrammarStep w s lang r s' t) : toolkitModule ∈ t.imports := by
  have hnothing := hs.nothing_settled hopen.not_ready lang
  cases h with
  | there hloaded =>
    rw [hnothing.1] at hloaded
    cases hloaded
  | givenUp _ hmissing => exact absurd hmissing hnothing.2
  | noToolkit _ hstep => exact hstep.imports_of_open hopen
  | toolkitFailed _ hstep => exact hstep.imports_of_open hopen
  | found _ hstep => exact List.mem_append_left _ (hstep.imports_of_open hopen)
  | absent message _ hstep => exact List.mem_append_left _ (hstep.imports_of_open hopen)
  | failed _ hstep => exact List.mem_append_left _ (hstep.imports_of_open hopen)

/-- With the toolkit there and its grammar open, loading a grammar imports its module. -/
theorem GrammarStep.imports_of_open {r : Except Fault (Option GrammarRef)}
    (hready : s.loader.runtime = .ready toolkit) (hopen : s.GrammarOpen lang)
    (h : GrammarStep w s lang r s' t) : t.imports = grammarImports s.config lang := by
  cases h with
  | there hloaded =>
    rw [hopen.1] at hloaded
    cases hloaded
  | givenUp _ hmissing hfinal =>
    rw [hopen.2 hmissing] at hfinal
    cases hfinal
  | noToolkit _ hstep => cases (hstep.eq_of_ready hready).1
  | toolkitFailed _ hstep => cases (hstep.eq_of_ready hready).1
  | found _ hstep =>
    obtain ⟨_, _, rfl⟩ := hstep.eq_of_ready hready
    rfl
  | absent message _ hstep =>
    obtain ⟨_, _, rfl⟩ := hstep.eq_of_ready hready
    rfl
  | failed _ hstep =>
    obtain ⟨_, _, rfl⟩ := hstep.eq_of_ready hready
    rfl

/-- A run that loads a language imports what loading its grammar does. -/
theorem LanguageStep.grammarStep (h : LanguageStep w s lang compiles e? s' t) :
    ∃ r s₁, GrammarStep w s lang r s₁ t := by
  cases h with
  | noGrammar hstep => exact ⟨_, _, hstep⟩
  | grammarFailed hstep => exact ⟨_, _, hstep⟩
  | uncompiled _ hstep => exact ⟨_, _, hstep⟩
  | compiled hstep => exact ⟨_, _, hstep⟩
  | packFailed _ hstep => exact ⟨_, _, hstep⟩

/-- With toolkit and grammar there, what comes of the query files decides. -/
theorem LanguageStep.fails_iff (hs : Sound s) (hready : s.loader.runtime = .ready toolkit)
    (hloaded : s.loader.loaded.lookup lang = some grammar) (hgoes : compiles)
    (h : LanguageStep w s lang compiles e? s' t) :
    e? = some (.outside failure) ↔ PackFails w s.config toolkit grammar lang failure := by
  constructor
  · rintro rfl
    cases h with
    | grammarFailed hstep => cases (hstep.eq_of_loaded hloaded).1
    | packFailed _ hstep hready' houtcome =>
      obtain ⟨⟨⟩, rfl, _⟩ := hstep.eq_of_loaded hloaded
      rw [hready] at hready'
      cases hready'
      exact attemptPack_eq_error_iff.mp houtcome
  · intro hfails
    exact (h.of_mishap hs (.queries (.there hready) (.there hloaded) hfails) fun _ => hgoes).1

end HookAudit.Engine
