/-
# HookAudit.Proofs.Engine.Requests — what validating and scanning can do.

Validation and scanning load before they look at anything, so their runs are runs of the loading
operations with a last part that is decided by what was loaded.  As for these, one relation lists
everything that a run from a sound state can do.  No entry ends in an error of the engine's own: the
grammar that the last part needs was handed out by a toolkit that is still there.
-/
import HookAudit.Proofs.Engine.Preparation
import HookAudit.Proofs.Engine.Steps

namespace HookAudit.Engine

open Action

variable {w : World} {s s' s₁ s₂ : State} {toolkit : Module} {lang : Language}
  {grammar : GrammarRef} {failure : Failure} {t t₁ t₂ : Trace}

/-! ## Validation -/

/-- What validation says about query files with these verdicts. -/
def fileReports (judged : List (QueryFile × Verdict)) : List FileReport :=
  judged.map fun p => FileReport.ofVerdict p.1.name p.2

/-- **`ValidateStep w s lang r s' t`** — how validating the queries of a language ends. -/
inductive ValidateStep (w : World) (s : State) (lang : Language) :
    Except Fault PackReport → State → Trace → Prop where
  | noGrammar {s' : State} {t : Trace} (step : GrammarStep w s lang (.ok none) s' t) :
      ValidateStep w s lang (.ok { lang, grammarAvailable := false, files := [] }) s' t
  | grammarFailed {e : Fault} {s' : State} {t : Trace}
      (step : GrammarStep w s lang (.error e) s' t) : ValidateStep w s lang (.error e) s' t
  | judged {toolkit : Module} {grammar : GrammarRef} {judged : List (QueryFile × Verdict)}
      {s' : State} {t : Trace} (step : GrammarStep w s lang (.ok (some grammar)) s' t)
      (ready : s'.loader.runtime = .ready toolkit)
      (outcome : attemptPack w s.config toolkit grammar lang = .ok judged) :
      ValidateStep w s lang
        (.ok { lang, grammarAvailable := true, files := fileReports judged }) s' t
  | packFailed {toolkit : Module} {grammar : GrammarRef} {failure : Failure} {s' : State}
      {t : Trace} (step : GrammarStep w s lang (.ok (some grammar)) s' t)
      (ready : s'.loader.runtime = .ready toolkit)
      (outcome : attemptPack w s.config toolkit grammar lang = .error failure) :
      ValidateStep w s lang (.error (.outside failure)) s' t

/-- **`validate_ends`** — everything that validating with a sound engine can do. -/
theorem validate_ends (hs : Sound s) : (validate lang).Ends w s (ValidateStep w s lang) := by
  unfold validate
  refine loadGrammar_ends.bind (fun e s' t hstep => .grammarFailed hstep) ?_
  intro grammar? s₁ t hstep
  cases grammar? with
  | none =>
    exact Ends.pure_behind (.noGrammar hstep)
  | some grammar =>
    obtain ⟨toolkit, hready⟩ := hstep.ready hs
    dsimp only
    refine (requireToolkit_gives hready).bind_ends (by rintro _ ⟨⟩) ?_
    rintro _ ⟨⟩
    refine Ends.state_bind (Ends.files_bind ?_)
    have hjudge := reportFiles_gives (w := w) (s := s₁) s₁.config toolkit grammar lang
    rw [hstep.frame.1] at hjudge ⊢
    cases hpack : attemptPack w s.config toolkit grammar lang with
    | error failure =>
      rw [hpack] at hjudge
      refine hjudge.bind_ends ?_ (by rintro _ ⟨⟩)
      rintro _ ⟨⟩
      rw [Trace.append_nothing]
      exact .packFailed hstep hready hpack
    | ok judged =>
      rw [hpack] at hjudge
      refine hjudge.bind_ends (by rintro _ ⟨⟩) ?_
      rintro _ ⟨⟩
      exact Ends.pure_behind (.judged hstep hready hpack)

theorem ValidateStep.walk {r : Except Fault PackReport} (h : ValidateStep w s lang r s' t) :
    Walk w s s' t := by
  cases h with
  | noGrammar hstep => exact hstep.walk
  | grammarFailed hstep => exact hstep.walk
  | judged hstep => exact hstep.walk
  | packFailed hstep => exact hstep.walk

/-! ## Matching -/

/-- **`MatcherStep s s'`** — how having a matcher changes an engine. -/
inductive MatcherStep (s : State) : State → Prop where
  | there {matcher : Module} (built : s.matcher = some matcher) : MatcherStep s s
  | built {toolkit : Module} (ready : s.loader.runtime = .ready toolkit)
      (isOpen : s.matcher = none) : MatcherStep s (s.withMatcher toolkit)

theorem getMatcher_ends (hready : s.loader.runtime = .ready toolkit) :
    getMatcher.Ends w s fun r s' t => (∃ matcher, r = .ok matcher) ∧ MatcherStep s s' ∧ t = {} := by
  unfold getMatcher
  refine Ends.state_bind ?_
  cases hmatcher : s.matcher with
  | some matcher => exact Ends.pure ⟨⟨_, rfl⟩, .there hmatcher, rfl⟩
  | none =>
    dsimp only
    rw [State.toolkit?_of_ready hready]
    exact Ends.update_bind (Ends.pure ⟨⟨_, rfl⟩, .built hready hmatcher, rfl⟩)

theorem MatcherStep.walk (h : MatcherStep s s') : Walk w s s' {} := by
  cases h with
  | there => exact .stay
  | built hready hopen => exact (Move.matcherBuilt hready hopen).walk

theorem MatcherStep.frame (h : MatcherStep s s') :
    s'.config = s.config ∧ s'.loader = s.loader ∧ s'.queries = s.queries := by
  cases h <;> exact ⟨rfl, rfl, rfl⟩

theorem matchAll_gives {source : Text.Octets} {limit : Int} {queries : List NamedQuery} :
    (matchAll (w.parse grammar source) source limit queries).Gives w s
      (.ok (capturesIn w grammar queries source limit)) := by
  unfold matchAll
  have hsearch : (each (fun q : NamedQuery => search q.compiled (w.parse grammar source) source)
      queries).Gives w s
        (.ok (queries.map fun q => w.search q.compiled (w.parse grammar source) source)) := by
    have hone : ∀ q : NamedQuery, (search q.compiled (w.parse grammar source) source).Gives w s
        (((Pure.pure (w.search q.compiled (w.parse grammar source) source) :
          Except Failure _).map id).mapError .outside) := fun _ => ⟨rfl, rfl, rfl⟩
    have heach := Gives.each hone queries
    rw [List.mapM_pure] at heach
    have hsame : List.map id (queries.map fun q =>
        w.search q.compiled (w.parse grammar source) source) = queries.map _ := List.map_id _
    rw [← hsame]
    exact heach
  refine hsearch.bind_ends (by rintro _ ⟨⟩) ?_
  rintro _ ⟨⟩
  exact Gives.pure _

/-! ## Requests -/

/-- What a request is told about a hook that could be analysed. -/
def assessmentOf (w : World) (config : EngineConfig) (grammar : GrammarRef)
    (queries : List NamedQuery) (content : Text) : Outcome :=
  .assessed (.ofCaptures
    (capturesIn w grammar queries (Text.encode content) config.snippetLength))

/-- What a request is told when the toolkit is not there. -/
def noToolkitOutcome : Outcome := .noOpinion .runtimeUnavailable "tree-sitter is not installed"

/-- What a request is told when its language has no grammar. -/
def noGrammarOutcome (lang : Language) : Outcome :=
  .noOpinion .grammarUnavailable ("no " ++ lang.name ++ " grammar available")

/-- What a request is told when its language has no queries. -/
def noQueriesOutcome (lang : Language) : Outcome :=
  .noOpinion .noQueries ("no " ++ lang.name ++ " queries compiled")

/-- With toolkit, grammar and queries at hand, an analysis always comes to its assessment. -/
theorem analysis_ends (hready : s.loader.runtime = .ready toolkit) (grammar : GrammarRef)
    (queries : List NamedQuery) (content : Text) :
    (do
      let matcher ← getMatcher
      let root ← parse (some matcher) (some grammar) (Text.encode content)
      let captures ← matchAll root (Text.encode content) (← state).config.snippetLength queries
      return .assessed (Assessment.ofCaptures captures) : Action Outcome).Ends w s fun r s' t =>
        r = .ok (assessmentOf w s.config grammar queries content) ∧ MatcherStep s s' ∧ t = {} := by
  refine (getMatcher_ends hready).bind (fun _ _ _ h => nomatch h.1) ?_
  rintro matcher s₁ _ ⟨_, hmatcher, rfl⟩
  have hparse : (parse (some matcher) (some grammar) (Text.encode content)).Gives w s₁
      (.ok (w.parse grammar (Text.encode content))) := ⟨rfl, rfl, rfl⟩
  refine hparse.bind_ends (by rintro _ ⟨⟩) ?_
  rintro _ ⟨⟩
  refine Ends.state_bind (matchAll_gives.bind_ends (by rintro _ ⟨⟩) ?_)
  rintro _ ⟨⟩
  refine Ends.pure ⟨?_, hmatcher, rfl⟩
  rw [hmatcher.frame.1]
  rfl

/-- **`RequestStep w s content lang r s' t`** — how answering a request ends. -/
inductive RequestStep (w : World) (s : State) (content : Text) (lang : Language) :
    Except Fault Outcome → State → Trace → Prop where
  | noToolkit {s' : State} {t : Trace} (step : ToolkitStep w s (.ok false) s' t) :
      RequestStep w s content lang (.ok noToolkitOutcome) s' t
  | noGrammar {s₁ s' : State} {t₁ t : Trace} (toolkit : ToolkitStep w s (.ok true) s₁ t₁)
      (step : GrammarStep w s lang (.ok none) s' t) :
      RequestStep w s content lang (.ok (noGrammarOutcome lang)) s' t
  | grammarFailed {e : Fault} {s' : State} {t : Trace}
      (step : GrammarStep w s lang (.error e) s' t) : RequestStep w s content lang (.error e) s' t
  | noQueries {grammar : GrammarRef} {s₁ s' : State} {t : Trace}
      (step : GrammarStep w s lang (.ok (some grammar)) s₁ t)
      (pack : PackStep w s₁ lang (.ok []) s') :
      RequestStep w s content lang (.ok (noQueriesOutcome lang)) s' t
  | packFailed {grammar : GrammarRef} {e : Fault} {s₁ s' : State} {t : Trace}
      (step : GrammarStep w s lang (.ok (some grammar)) s₁ t)
      (pack : PackStep w s₁ lang (.error e) s') : RequestStep w s content lang (.error e) s' t
  | assessed {grammar : GrammarRef} {queries : List NamedQuery} {s₁ s₂ s' : State} {t : Trace}
      (step : GrammarStep w s lang (.ok (some grammar)) s₁ t)
      (pack : PackStep w s₁ lang (.ok queries) s₂) (some : queries ≠ [])
      (matcher : MatcherStep s₂ s') :
      RequestStep w s content lang (.ok (assessmentOf w s.config grammar queries content)) s' t

/-- **`scanRequest_ends`** — everything that answering a request by a sound engine can do. -/
theorem scanRequest_ends (hs : Sound s) (content : Text) :
    (scanRequest content (some lang)).Ends w s (RequestStep w s content lang) := by
  unfold scanRequest
  dsimp only
  refine ensureRuntime_ends.bind ?toolkitFailed ?behindToolkit
  case toolkitFailed =>
    intro e s' t hstep
    have hopen : s.ToolkitOpen := by
      cases hstep
      assumption
    exact .grammarFailed (.toolkitFailed (hs.grammarOpen hopen.not_ready lang) hstep)
  case behindToolkit =>
    intro isThere s₁ t₁ htoolkit
    cases isThere with
    | false =>
      exact Ends.pure_behind (.noToolkit htoolkit)
    | true =>
      refine loadGrammar_ends.bind
        (fun e s₂ t₂ hstep => .grammarFailed (.behind hs htoolkit hstep)) ?_
      intro grammar? s₂ t₂ hstep
      have hgrammar := hstep.behind hs htoolkit
      cases grammar? with
      | none =>
        refine Ends.pure ?_
        rw [Trace.append_nothing]
        exact .noGrammar htoolkit hgrammar
      | some grammar =>
        obtain ⟨toolkit, hready⟩ := hgrammar.ready hs
        dsimp only
        refine (getQueries_ends (hs.walk hgrammar.walk)).bind ?_ ?_
        · intro e s₃ t₃ hqueries
          obtain ⟨hpack, rfl⟩ := hqueries.pack hgrammar.loaded
          rw [Trace.append_nothing]
          exact .packFailed hgrammar hpack
        · intro queries s₃ t₃ hqueries
          obtain ⟨hpack, rfl⟩ := hqueries.pack hgrammar.loaded
          cases queries with
          | nil =>
            refine Ends.pure ?_
            rw [Trace.append_nothing, Trace.append_nothing]
            exact .noQueries hgrammar hpack
          | cons query queries =>
            have hready₃ : s₃.loader.runtime = .ready toolkit := by rw [hpack.frame.2.1, hready]
            refine (analysis_ends hready₃ grammar (query :: queries) content).mono ?_
            rintro _ s' _ ⟨rfl, hmatcher, rfl⟩
            rw [hpack.frame.1, hgrammar.frame.1, Trace.append_nothing, Trace.append_nothing]
            exact .assessed hgrammar hpack (List.cons_ne_nil _ _) hmatcher

theorem RequestStep.walk {content : Text} {r : Except Fault Outcome}
    (h : RequestStep w s content lang r s' t) : Walk w s s' t := by
  cases h with
  | noToolkit hstep => exact hstep.walk
  | noGrammar _ hstep => exact hstep.walk
  | grammarFailed hstep => exact hstep.walk
  | noQueries hstep hpack =>
    exact hstep.walk.trans_silent hpack.walk
  | packFailed hstep hpack =>
    exact hstep.walk.trans_silent hpack.walk
  | assessed hstep hpack _ hmatcher =>
    exact (hstep.walk.trans_silent hpack.walk).trans_silent hmatcher.walk

end HookAudit.Engine
