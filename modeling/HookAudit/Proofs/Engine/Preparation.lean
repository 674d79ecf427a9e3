/-
# HookAudit.Proofs.Engine.Preparation — what an analysis rests on.

Before the engine matches anything it makes sure of the toolkit, loads the grammar of the language
and gets the queries.  `Prepares w s lang grammar queries s'` says that this succeeds and what comes
of it.  The main statement, `scanRequest_eq_assessed_iff`, is that a request is answered by an
assessment exactly when the preparation succeeds, and that the assessment is then a function of the
grammar, the queries and the content alone.

Right to left this needs an invariant: once the toolkit is there, loading a grammar and compiling
queries do not lose it (`Extends`), so a matcher can always be built behind a preparation.
-/
import HookAudit.Engine.Rehearsal
import HookAudit.Engine.Scan
import HookAudit.Proofs.Engine.Answers

namespace HookAudit.Engine

open Action

/-! ## What loading never undoes -/

/-- **`Extends s s'`** — from `s` to `s'` the settings stay, and a toolkit that is there stays. -/
structure Extends (s s' : State) : Prop where
  config : s'.config = s.config
  toolkit : ∀ toolkit, s.loader.runtime = .ready toolkit → s'.loader.runtime = .ready toolkit

/-- From `s` to `s'` the settings stay. -/
def SameConfig (s s' : State) : Prop := s'.config = s.config

instance : Std.Refl SameConfig where
  refl _ := rfl

instance : IsTrans State SameConfig where
  trans _ _ _ hab hbc := Eq.trans hbc hab

instance : Std.Refl Extends where
  refl _ := ⟨rfl, fun _ h => h⟩

instance : IsTrans State Extends where
  trans _ _ _ hab hbc := ⟨hbc.config.trans hab.config, fun t h => hbc.toolkit t (hab.toolkit t h)⟩

/-- What leaves settings and toolkit alone. -/
theorem Extends.of_same {s s' : State} (hconfig : s'.config = s.config)
    (hruntime : s'.loader.runtime = s.loader.runtime) : Extends s s' where
  config := hconfig
  toolkit _ hready := hruntime.trans hready

theorem warnOnce_keeps (subject : Subject) (message : Text) :
    (warnOnce subject message).Keeps Extends := by
  refine Keeps.bind Keeps.state fun s => ?_
  split
  · exact Keeps.pure ()
  · exact Keeps.bind (Keeps.update fun _ => .of_same rfl rfl) fun _ => Keeps.log _ _ _

theorem importToolkit_keeps : importToolkit.Keeps Extends := by
  refine Keeps.bind (Keeps.importModule _) fun imported => ?_
  split
  · split
    · exact (warnOnce_keeps _ _).returning none
    · exact Keeps.fail _
  · dsimp only
    split
    · exact Keeps.pure _
    · exact (warnOnce_keeps _ _).returning none

/-- A toolkit that is there is not looked for again. -/
theorem ensureRuntime_answers_of_ready {w : World} {s : State} {toolkit : Module}
    (hready : s.loader.runtime = .ready toolkit) : ensureRuntime.Answers w s true s := by
  simp [ensureRuntime, hready]

theorem loadToolkit_keeps_config : loadToolkit.Keeps SameConfig := by
  have hremember : ∀ change, (updateLoader change).Keeps SameConfig :=
    fun _ => Keeps.update fun _ => rfl
  refine Keeps.bind (importToolkit_keeps.mono fun _ _ h => h.config) fun toolkit? => ?_
  cases toolkit? with
  | none => exact (hremember _).returning false
  | some toolkit => exact (hremember _).returning true

theorem ensureRuntime_keeps_config : ensureRuntime.Keeps SameConfig := by
  refine Keeps.bind Keeps.state fun s => ?_
  split
  · exact Keeps.pure true
  · split
    · exact loadToolkit_keeps_config
    · exact Keeps.pure false
  · exact loadToolkit_keeps_config

/-- Only a toolkit that is not there is ever replaced, so the step from a ready state is trivial. -/
theorem ensureRuntime_keeps : ensureRuntime.Keeps Extends := by
  refine fun w s => ⟨ensureRuntime_keeps_config w s, fun toolkit hready => ?_⟩
  -- from a ready state the run is known outright, so no case analysis is needed
  obtain ⟨trace, hrun⟩ := ensureRuntime_answers_of_ready (w := w) hready
  rw [hrun]
  exact hready

theorem importGrammar_keeps (lang : Language) : (importGrammar lang).Keeps Extends := by
  refine Keeps.bind Keeps.state fun s => ?_
  have hwarn : ∀ message, (do
      warnOnce (.grammar lang) message
      return none : Action (Option GrammarRef)).Keeps Extends :=
    fun _ => (warnOnce_keeps _ _).returning none
  dsimp only
  split
  -- no module is configured
  · exact hwarn _
  · refine Keeps.bind (Keeps.importModule _) fun imported => ?_
    split
    -- the module does not load
    · split
      · exact hwarn _
      · exact Keeps.fail _
    · split
      -- the factory answers, with a grammar that opens or one that does not
      · split
        · exact Keeps.pure _
        · split
          · exact hwarn _
          · exact Keeps.fail _
      -- there is no factory
      · exact hwarn _

theorem loadGrammar_keeps (lang : Language) : (loadGrammar lang).Keeps Extends := by
  refine Keeps.bind Keeps.state fun s => ?_
  split
  · exact Keeps.pure _
  · split
    · exact Keeps.pure none
    · refine Keeps.bind ensureRuntime_keeps fun ready => ?_
      split
      · exact Keeps.pure none
      · refine Keeps.bind (importGrammar_keeps lang) fun grammar? => ?_
        split
        · exact (Keeps.update fun _ => .of_same rfl rfl).returning none
        · exact (Keeps.update fun _ => .of_same rfl rfl).returning _

theorem compileQuery_keeps (toolkit : Module) (grammar : GrammarRef) (name : Text)
    (text : QueryText) : (compileQuery toolkit grammar name text).Keeps Extends := by
  unfold compileQuery
  split
  · exact Keeps.pure _
  · split
    · exact Keeps.fail _
    · exact Keeps.fail _

theorem compileFile_keeps (toolkit : Module) (grammar : GrammarRef) (file : QueryFile) :
    (compileFile toolkit grammar file).Keeps Extends := by
  have hwarn : ∀ message, (do
      log .warning queriesSource message
      return none : Action (Option NamedQuery)).Keeps Extends :=
    fun _ => (Keeps.log _ _ _).returning none
  unfold compileFile
  split
  · exact hwarn _
  · rename_i text _
    dsimp only
    split
    · exact Keeps.pure none
    · refine Keeps.bind (compileQuery_keeps toolkit grammar file.name text).attempt fun found => ?_
      split
      · exact hwarn _
      · exact Keeps.fail _
      · split
        · exact hwarn _
        · exact Keeps.pure _

/-- Asking for the toolkit keeps everything. -/
theorem requireToolkit_keeps {R : State → State → Prop} [Std.Refl R] [IsTrans State R] :
    requireToolkit.Keeps R := by
  refine Keeps.bind Keeps.state fun s => ?_
  split
  · exact Keeps.pure _
  · exact Keeps.fail _

theorem getQueries_keeps (lang : Language) : (getQueries lang).Keeps Extends := by
  refine Keeps.bind Keeps.state fun s => ?_
  split
  · exact Keeps.pure _
  · refine Keeps.bind (loadGrammar_keeps lang) fun grammar? => ?_
    split
    · exact Keeps.pure []
    · refine Keeps.bind requireToolkit_keeps fun toolkit => ?_
      refine Keeps.bind Keeps.files fun files => ?_
      refine Keeps.bind (Keeps.each (compileFile_keeps toolkit _) _) fun found => ?_
      have hremember : ∀ queries : List NamedQuery, (do
          update fun s => { s with queries := (lang, queries) :: s.queries }
          return queries : Action (List NamedQuery)).Keeps Extends :=
        fun _ => (Keeps.update fun _ => .of_same rfl rfl).returning _
      dsimp only
      split
      · exact Keeps.bind (Keeps.log _ _ _) fun _ => hremember _
      · exact hremember _

/-! ## Preparing an analysis -/

variable {w : World} {s s' : State} {lang : Language} {grammar : GrammarRef}
  {queries : List NamedQuery}

/-- **`Prepares w s lang grammar queries s'`** — in the world `w` and from the state `s`, the
toolkit is there, the language has a grammar and at least one query, and the state is then `s'`. -/
def Prepares (w : World) (s : State) (lang : Language) (grammar : GrammarRef)
    (queries : List NamedQuery) (s' : State) : Prop :=
  ∃ s₁ s₂, ensureRuntime.Answers w s true s₁ ∧ (loadGrammar lang).Answers w s₁ (some grammar) s₂ ∧
    (getQueries lang).Answers w s₂ queries s' ∧ queries ≠ []

theorem ready_of_loadToolkit (h : loadToolkit.Answers w s true s') :
    ∃ toolkit, s'.loader.runtime = .ready toolkit := by
  obtain ⟨toolkit?, t, _, hrest⟩ := answers_bind.mp h
  cases toolkit? with
  | none => simp [answers_bind] at hrest
  | some toolkit =>
    simp only [answers_bind, answers_updateLoader, answers_pure] at hrest
    obtain ⟨_, _, rfl, _, rfl⟩ := hrest
    exact ⟨toolkit, rfl⟩

/-- When the toolkit is said to be there, it is. -/
theorem ready_of_ensureRuntime (h : ensureRuntime.Answers w s true s') :
    ∃ toolkit, s'.loader.runtime = .ready toolkit := by
  unfold ensureRuntime at h
  rw [answers_state_bind] at h
  split at h
  · rename_i toolkit hready
    obtain ⟨_, rfl⟩ := answers_pure.mp h
    exact ⟨toolkit, hready⟩
  · split at h
    · exact ready_of_loadToolkit h
    · exact absurd (answers_pure.mp h).1 (by decide)
  · exact ready_of_loadToolkit h

/-- Behind a preparation the toolkit is there, and the settings are what they were. -/
theorem Prepares.ready (h : Prepares w s lang grammar queries s') :
    (∃ toolkit, s'.loader.runtime = .ready toolkit) ∧ s'.config = s.config := by
  obtain ⟨s₁, s₂, hruntime, hgrammar, hqueries, _⟩ := h
  obtain ⟨toolkit, hready⟩ := ready_of_ensureRuntime hruntime
  have hfirst : s₁.config = s.config := ensureRuntime_keeps_config.of_answers hruntime
  -- the toolkit is there from the first step on, and the other two do not lose it
  have hrest : Extends s₁ s' :=
    IsTrans.trans _ _ _ ((loadGrammar_keeps lang).of_answers hgrammar)
      ((getQueries_keeps lang).of_answers hqueries)
  exact ⟨⟨toolkit, hrest.toolkit toolkit hready⟩, hrest.config.trans hfirst⟩

/-- A matcher can be had once the toolkit is there; having it changes no setting. -/
theorem getMatcher_answers {toolkit : Module} (hready : s.loader.runtime = .ready toolkit) :
    ∃ matcher t, getMatcher.Answers w s matcher t ∧ t.config = s.config := by
  unfold getMatcher
  cases hmatcher : s.matcher with
  | some matcher => exact ⟨matcher, s, by simp [hmatcher], rfl⟩
  | none =>
    refine ⟨toolkit, { s with matcher := some toolkit }, ?_, rfl⟩
    rw [answers_state_bind]
    simp [hmatcher, Loader.toolkit?, hready, answers_bind]

/-- An engine that has loaded a grammar and compiled queries prepares by looking them up. -/
theorem prepares_of_loaded {toolkit : Module} (hready : s.loader.runtime = .ready toolkit)
    (hgrammar : s.loader.loaded.lookup lang = some grammar)
    (hqueries : s.queries.lookup lang = some queries) (hsome : queries ≠ []) :
    Prepares w s lang grammar queries s := by
  refine ⟨s, s, ensureRuntime_answers_of_ready hready, ?grammar, ?queries, hsome⟩
  case grammar =>
    unfold loadGrammar
    simp [hgrammar]
  case queries =>
    unfold getQueries
    simp [hqueries]

/-- An engine that has loaded everything it needs for shell hooks. -/
def shellEngine (queries : List NamedQuery) : State where
  config := {}
  loader := { runtime := .ready (standIn []), loaded := [(.bash, .language .bash)] }
  queries := [(.bash, queries)]

theorem shellEngine_config (queries : List NamedQuery) : (shellEngine queries).config = {} := rfl

theorem prepares_shellEngine (hsome : queries ≠ []) :
    Prepares w (shellEngine queries) .bash (.language .bash) queries (shellEngine queries) :=
  prepares_of_loaded rfl rfl rfl hsome

/-! ## The analysis itself -/

/-- What queries find in the tree of source text, query by query. -/
def foundIn (w : World) (grammar : GrammarRef) (queries : List NamedQuery)
    (source : Text.Octets) : List Found :=
  queries.flatMap fun query => w.search query.compiled (w.parse grammar source) source

/-- What is found, as captures with snippets of at most `limit` code points. -/
def capturesIn (w : World) (grammar : GrammarRef) (queries : List NamedQuery)
    (source : Text.Octets) (limit : Int) : List Capture :=
  (foundIn w grammar queries source).filterMap fun found => Detection.ofMatch? found source limit

theorem answers_matchAll {source : Text.Octets} {limit : Int} {captures : List Capture} :
    (matchAll (w.parse grammar source) source limit queries).Answers w s captures s' ↔
      captures = capturesIn w grammar queries source limit ∧ s' = s := by
  unfold matchAll
  have hsearch : ∀ found t,
      (each (fun q : NamedQuery => search q.compiled (w.parse grammar source) source)
        queries).Answers w s found t ↔
        found = (queries.map fun q => w.search q.compiled (w.parse grammar source) source) ∧
          t = s :=
    fun _ _ => answers_each (fun _ _ _ => answers_search) queries
  rw [((hsearch _ _).mpr ⟨rfl, rfl⟩).bind_iff, answers_pure]
  simp only [capturesIn, foundIn, List.flatMap_def]

/-- Behind a preparation nothing stands between a request and its assessment. -/
theorem Prepares.answers_scanRequest (h : Prepares w s lang grammar queries s') (content : Text) :
    ∃ t, (scanRequest content (some lang)).Answers w s (.assessed <| .ofCaptures <|
      capturesIn w grammar queries (Text.encode content) s.config.snippetLength) t := by
  obtain ⟨⟨toolkit, hready⟩, hconfig⟩ := h.ready
  obtain ⟨s₁, s₂, hruntime, hgrammar, hqueries, hsome⟩ := h
  obtain ⟨matcher, t, hmatcher, hkept⟩ := getMatcher_answers (w := w) hready
  refine ⟨t, ?_⟩
  unfold scanRequest
  dsimp only
  rw [hruntime.bind_iff]
  show (loadGrammar lang >>= _).Answers w s₁ _ t
  rw [hgrammar.bind_iff]
  show (getQueries lang >>= _).Answers w s₂ _ t
  rw [hqueries.bind_iff]
  have hnonempty : queries.isEmpty = false := by simpa using hsome
  simp only [hnonempty]
  show (getMatcher >>= _).Answers w s' _ t
  rw [hmatcher.bind_iff]
  have hparse : (parse (some matcher) (some grammar) (Text.encode content)).Answers w t
      (w.parse grammar (Text.encode content)) t := answers_parseWith.mpr ⟨rfl, rfl⟩
  rw [hparse.bind_iff, answers_state_bind, hkept, hconfig,
    (answers_matchAll.mpr ⟨rfl, rfl⟩).bind_iff]
  exact answers_pure.mpr ⟨rfl, rfl⟩

theorem Prepares.scanRequest_eq (h : Prepares w s lang grammar queries s') (content : Text) :
    (scanRequest content (some lang) w s).1 = .ok (.assessed <| .ofCaptures <|
      capturesIn w grammar queries (Text.encode content) s.config.snippetLength) :=
  answer_eq_ok_iff.mpr (h.answers_scanRequest content)

/-- **`scanRequest_eq_assessed_iff`** — a request is answered by an assessment exactly when the
preparation succeeds; the assessment is that of the captures of its queries. -/
theorem scanRequest_eq_assessed_iff {content : Text} {assessment : Assessment} :
    (scanRequest content (some lang) w s).1 = .ok (.assessed assessment) ↔
      ∃ grammar queries s', Prepares w s lang grammar queries s' ∧
        assessment = .ofCaptures
          (capturesIn w grammar queries (Text.encode content) s.config.snippetLength) := by
  constructor
  · intro hscan
    obtain ⟨t, h⟩ := answer_eq_ok_iff.mp hscan
    unfold scanRequest at h
    dsimp only at h
    obtain ⟨ready, s₁, hruntime, h⟩ := answers_bind.mp h
    cases ready with
    | false => simp at h
    | true =>
      obtain ⟨grammar?, s₂, hgrammar, h⟩ := answers_bind.mp h
      cases grammar? with
      | none => simp at h
      | some grammar =>
        obtain ⟨queries, s₃, hqueries, h⟩ := answers_bind.mp h
        have hsome : queries ≠ [] := by
          rintro rfl
          simp at h
        -- the rest of this run need not be followed: runs are functions, and the run behind a
        -- preparation is known
        have hprepares : Prepares w s lang grammar queries s₃ :=
          ⟨s₁, s₂, hruntime, hgrammar, hqueries, hsome⟩
        have hsame := (hprepares.scanRequest_eq content).symm.trans hscan
        exact ⟨grammar, queries, s₃, hprepares,
          (Outcome.assessed.inj (Except.ok.inj hsame)).symm⟩
  · rintro ⟨grammar, queries, s', hprepares, rfl⟩
    exact hprepares.scanRequest_eq content

end HookAudit.Engine
