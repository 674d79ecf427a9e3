/-
# HookAudit.Proofs.Engine.Stability — what is settled stays settled until the next reset.

Modules may come and go and files may change between two calls.  What an engine has settled is not
looked at again: a grammar or the queries of a language once there are there for good, and without
retries the same holds of whatever was given up (`Lasting`, kept by every move).  So the answers
about a language that has been settled are those of the first time, in whatever world they are asked
for (`outcomes_are_stable`); an empty set of queries is settled like any other.
-/
import HookAudit.Engine.Rehearsal
import HookAudit.Proofs.Engine.Operations

namespace HookAudit

/-- Why there is no opinion, if there is none. -/
def Outcome.reason? : Outcome → Option NoOpinion
  | .assessed _ => none
  | .noOpinion reason _ => some reason

namespace Engine

variable {w : World} {s s' s₁ s₂ : State} {lang : Language} {grammar : GrammarRef} {t : Trace}

/-! ## What lasts -/

/-- **`Lasting s s'`** — from `s` to `s'` all that is there stays, and without retries all that was
given up. -/
structure Lasting (s s' : State) : Prop extends Extends s s' where
  loaded : ∀ lang grammar, s.loader.loaded.lookup lang = some grammar →
    s'.loader.loaded.lookup lang = some grammar
  queries : ∀ lang queries, s.queries.lookup lang = some queries →
    s'.queries.lookup lang = some queries
  unavailable : s.config.retryUnavailable = false → s.loader.runtime = .unavailable →
    s'.loader.runtime = .unavailable
  missing : s.config.retryUnavailable = false → ∀ lang ∈ s.loader.missing, lang ∈ s'.loader.missing

theorem Lasting.refl (s : State) : Lasting s s where
  config := rfl
  toolkit _ h := h
  loaded _ _ h := h
  queries _ _ h := h
  unavailable _ h := h
  missing _ _ h := h

theorem Lasting.trans (h₁ : Lasting s s₁) (h₂ : Lasting s₁ s₂) : Lasting s s₂ where
  toExtends := IsTrans.trans _ _ _ h₁.toExtends h₂.toExtends
  loaded lang grammar h := h₂.loaded lang grammar (h₁.loaded lang grammar h)
  queries lang queries h := h₂.queries lang queries (h₁.queries lang queries h)
  unavailable hfinal h := h₂.unavailable (h₁.config ▸ hfinal) (h₁.unavailable hfinal h)
  missing hfinal lang h := h₂.missing (h₁.config ▸ hfinal) lang (h₁.missing hfinal lang h)

/-- **`Move.lasting`** — no move undoes what is settled, for it is taken only where something is
open. -/
theorem Move.lasting (h : Move w s s' t) : Lasting s s' := by
  cases h with
  | toolkitFound hopen =>
    refine { Lasting.refl s with toolkit := ?_, unavailable := ?_ }
    · intro toolkit hready
      simp [State.ToolkitOpen, hready] at hopen
    · intro hfinal hunavailable
      simp [State.ToolkitOpen, hunavailable, hfinal] at hopen
  | toolkitAbsent message hopen =>
    refine { config := ?_, toolkit := ?_, loaded := ?_, queries := ?_, unavailable := ?_,
             missing := ?_ }
    · simp [State.withoutToolkit]
    · intro toolkit hready
      simp [State.ToolkitOpen, hready] at hopen
    · simp [State.withoutToolkit]
    · simp [State.withoutToolkit]
    · exact fun _ _ => rfl
    · simp [State.withoutToolkit]
  | toolkitFailed => exact .refl s
  | grammarFound hready hopen =>
    refine { Lasting.refl s with loaded := ?_, missing := ?_ }
    -- the new entry hides no other, and without retries none that was given up is attempted
    · intro other grammar hloaded
      exact lookup_cons_of_lookup hopen.1 hloaded
    · intro hfinal other hmissing
      refine mem_missing_withGrammar.mpr ⟨hmissing, ?_⟩
      rintro rfl
      rw [hopen.2 hmissing] at hfinal
      cases hfinal
  | grammarAbsent message hready hopen =>
    refine { config := ?_, toolkit := ?_, loaded := ?_, queries := ?_, unavailable := ?_,
             missing := ?_ }
    · simp [State.withoutGrammar]
    · simp [State.withoutGrammar]
    · simp [State.withoutGrammar]
    · simp [State.withoutGrammar]
    · simp [State.withoutGrammar]
    · exact fun _ other hmissing => mem_missing_withoutGrammar.mpr (.inr hmissing)
  | grammarFailed => exact .refl s
  | queriesCompiled hready hloaded hopen =>
    refine { Lasting.refl s with queries := ?_ }
    intro other queries hcompiled
    exact lookup_cons_of_lookup hopen hcompiled
  | matcherBuilt => exact { Lasting.refl s with }

/-- **`Lasting.after`** — what is settled stays settled through every history without a reset. -/
theorem Lasting.after {history : List Call} (hs : Sound s)
    (hkeeps : ∀ call ∈ history, ¬ call.operation.Forgets) : Lasting s (s.after history) :=
  State.after_keeps hs hkeeps (fun hmove h => h.trans hmove.lasting) (.refl s)

/-! ## Grammars -/

/-- **`s.GrammarGivenUp lang`** — the grammar of a language was given up, be it that there was no
toolkit to open it. -/
def State.GrammarGivenUp (s : State) (lang : Language) : Prop :=
  lang ∈ s.loader.missing ∨ s.loader.runtime = .unavailable

theorem State.GrammarGivenUp.lasting (h : s.GrammarGivenUp lang)
    (hfinal : s.config.retryUnavailable = false) (hlasting : Lasting s s') :
    s'.GrammarGivenUp lang :=
  h.imp (hlasting.missing hfinal lang) (hlasting.unavailable hfinal)

/-- A grammar that was asked for in vain is given up. -/
theorem GrammarStep.givesUp (h : GrammarStep w s lang (.ok none) s' t) :
    s'.GrammarGivenUp lang := by
  cases h with
  | givenUp hunloaded hmissing => exact .inl hmissing
  | noToolkit hopen hstep => exact .inr hstep.unavailable
  | absent => exact .inl (mem_missing_withoutGrammar.mpr (.inl rfl))

/-- **`GrammarStep.eq_of_givenUp`** — a grammar that was given up is not looked for again. -/
theorem GrammarStep.eq_of_givenUp {r : Except Fault (Option GrammarRef)}
    (h : GrammarStep w s lang r s' t) (hs : Sound s) (hfinal : s.config.retryUnavailable = false)
    (hgivenUp : s.GrammarGivenUp lang) : r = .ok none ∧ s' = s ∧ t = {} := by
  have hunloaded : s.loader.loaded.lookup lang = none := by
    refine Option.not_isSome_iff_eq_none.mp fun hloaded => ?_
    obtain hmissing | hunavailable := hgivenUp
    · exact hs.apart lang hloaded hmissing
    · obtain ⟨toolkit, hready⟩ := hs.ready lang (.inl hloaded)
      rw [hunavailable] at hready
      cases hready
  -- where the grammar is still open, it was the toolkit that was given up
  have hunavailable : s.GrammarOpen lang → s.loader.runtime = .unavailable := by
    intro hopen
    refine hgivenUp.resolve_left fun hmissing => ?_
    rw [hopen.2 hmissing] at hfinal
    cases hfinal
  cases h with
  | there hloaded =>
    rw [hunloaded] at hloaded
    cases hloaded
  | givenUp => exact ⟨rfl, rfl, rfl⟩
  | noToolkit hopen hstep => exact ⟨rfl, (hstep.eq_of_unavailable (hunavailable hopen) hfinal).2⟩
  | toolkitFailed hopen hstep => cases (hstep.eq_of_unavailable (hunavailable hopen) hfinal).1
  | found hopen hstep => cases (hstep.eq_of_unavailable (hunavailable hopen) hfinal).1
  | absent message hopen hstep => cases (hstep.eq_of_unavailable (hunavailable hopen) hfinal).1
  | failed hopen hstep => cases (hstep.eq_of_unavailable (hunavailable hopen) hfinal).1

/-- A grammar that is loaded is handed out without an import. -/
theorem loadGrammar_of_loaded (w : World) (hloaded : s.loader.loaded.lookup lang = some grammar) :
    (loadGrammar lang w s).1 = .ok (some grammar) ∧ (loadGrammar lang w s).2.2.imports = [] := by
  have hstep : GrammarStep w s lang _ _ _ := loadGrammar_ends
  obtain ⟨hanswer, _, htrace⟩ := hstep.eq_of_loaded hloaded
  exact ⟨hanswer, congrArg Trace.imports htrace⟩

/-- A grammar that was given up for good is refused without an import. -/
theorem loadGrammar_of_givenUp (w : World) (hs : Sound s)
    (hfinal : s.config.retryUnavailable = false) (hgivenUp : s.GrammarGivenUp lang) :
    (loadGrammar lang w s).1 = .ok none ∧ (loadGrammar lang w s).2.2.imports = [] := by
  have hstep : GrammarStep w s lang _ _ _ := loadGrammar_ends
  obtain ⟨hanswer, _, htrace⟩ := hstep.eq_of_givenUp hs hfinal hgivenUp
  exact ⟨hanswer, congrArg Trace.imports htrace⟩

/-! ## Requests -/

/-- **`Settled s lang reason`** — what an engine is to say about hooks in a language is settled: why
it has no opinion, or that it has one. -/
inductive Settled (s : State) (lang : Language) : Option NoOpinion → Prop where
  | noToolkit (unavailable : s.loader.runtime = .unavailable) :
      Settled s lang (some .runtimeUnavailable)
  | noGrammar {toolkit : Module} (ready : s.loader.runtime = .ready toolkit)
      (missing : lang ∈ s.loader.missing) : Settled s lang (some .grammarUnavailable)
  | noQueries {grammar : GrammarRef} (loaded : s.loader.loaded.lookup lang = some grammar)
      (compiled : s.queries.lookup lang = some []) : Settled s lang (some .noQueries)
  | analysable {grammar : GrammarRef} {queries : List NamedQuery}
      (loaded : s.loader.loaded.lookup lang = some grammar)
      (compiled : s.queries.lookup lang = some queries) (some : queries ≠ []) :
      Settled s lang none

theorem Settled.lasting {reason : Option NoOpinion} (h : Settled s lang reason)
    (hfinal : s.config.retryUnavailable = false) (hlasting : Lasting s s') :
    Settled s' lang reason := by
  cases h with
  | noToolkit hunavailable => exact .noToolkit (hlasting.unavailable hfinal hunavailable)
  | noGrammar hready hmissing =>
    exact .noGrammar (hlasting.toolkit _ hready) (hlasting.missing hfinal _ hmissing)
  | noQueries hloaded hcompiled =>
    exact .noQueries (hlasting.loaded _ _ hloaded) (hlasting.queries _ _ hcompiled)
  | analysable hloaded hcompiled hsome =>
    exact .analysable (hlasting.loaded _ _ hloaded) (hlasting.queries _ _ hcompiled) hsome

/-- **`RequestStep.settles`** — a request that is answered settles its language. -/
theorem RequestStep.settles {content : Text} {outcome : Outcome} (hs : Sound s)
    (h : RequestStep w s content lang (.ok outcome) s' t) : Settled s' lang outcome.reason? := by
  cases h with
  | noToolkit hstep => exact .noToolkit hstep.unavailable
  | noGrammar htoolkit hstep =>
    cases hstep with
    | givenUp _ hmissing =>
      obtain ⟨toolkit, hready⟩ := hs.ready lang (.inr hmissing)
      exact .noGrammar hready hmissing
    | noToolkit _ hstep => cases htoolkit.unique hstep
    | absent message _ _ hready =>
      exact .noGrammar (by simpa [State.withoutGrammar] using hready)
        (mem_missing_withoutGrammar.mpr (.inl rfl))
  | noQueries hstep hpack =>
    exact .noQueries (by rw [hpack.frame.2.1]; exact hstep.loaded) hpack.remembered
  | assessed hstep hpack hsome hmatcher =>
    obtain ⟨_, hloader, hqueries⟩ := hmatcher.frame
    exact .analysable (by rw [hloader, hpack.frame.2.1]; exact hstep.loaded)
      (by rw [hqueries]; exact hpack.remembered) hsome

/-- Where the grammar was given up for good, a request says whether that is for the toolkit. -/
theorem RequestStep.eq_of_givenUp {content : Text} {r : Except Fault Outcome} (hs : Sound s)
    (hfinal : s.config.retryUnavailable = false) (hgivenUp : s.GrammarGivenUp lang)
    (h : RequestStep w s content lang r s' t) :
    ∃ isThere s₁ t₁, ToolkitStep w s (.ok isThere) s₁ t₁ ∧
      r = .ok (if isThere then noGrammarOutcome lang else noToolkitOutcome) := by
  cases h with
  | noToolkit hstep => exact ⟨false, _, _, hstep, rfl⟩
  | noGrammar htoolkit => exact ⟨true, _, _, htoolkit, rfl⟩
  | grammarFailed hstep => cases (hstep.eq_of_givenUp hs hfinal hgivenUp).1
  | noQueries hstep => cases (hstep.eq_of_givenUp hs hfinal hgivenUp).1
  | packFailed hstep => cases (hstep.eq_of_givenUp hs hfinal hgivenUp).1
  | assessed hstep => cases (hstep.eq_of_givenUp hs hfinal hgivenUp).1

/-- Where grammar and queries are there, a request is told what they find, unless there is no
query at all. -/
theorem RequestStep.eq_of_compiled {content : Text} {r : Except Fault Outcome}
    {queries : List NamedQuery} (hs : Sound s)
    (hloaded : s.loader.loaded.lookup lang = some grammar)
    (hcompiled : s.queries.lookup lang = some queries)
    (h : RequestStep w s content lang r s' t) :
    r = .ok (noQueriesOutcome lang) ∧ queries = [] ∨
      r = .ok (assessmentOf w s.config grammar queries content) ∧ queries ≠ [] := by
  cases h with
  | noToolkit hstep =>
    obtain ⟨toolkit, hready⟩ := hs.ready_of_loaded hloaded
    cases (hstep.eq_of_ready hready).1
  | noGrammar _ hstep => cases (hstep.eq_of_loaded hloaded).1
  | grammarFailed hstep => cases (hstep.eq_of_loaded hloaded).1
  | noQueries hstep hpack =>
    obtain ⟨_, rfl, _⟩ := hstep.eq_of_loaded hloaded
    obtain ⟨⟨⟩, _⟩ := hpack.eq_of_compiled hcompiled
    exact .inl ⟨rfl, rfl⟩
  | packFailed hstep hpack =>
    obtain ⟨_, rfl, _⟩ := hstep.eq_of_loaded hloaded
    cases (hpack.eq_of_compiled hcompiled).1
  | assessed hstep hpack hsome =>
    obtain ⟨⟨⟩, rfl, _⟩ := hstep.eq_of_loaded hloaded
    obtain ⟨⟨⟩, _⟩ := hpack.eq_of_compiled hcompiled
    exact .inr ⟨rfl, hsome⟩

/-- **`Settled.answers`** — what is settled is said again, whatever the hook and the world. -/
theorem Settled.answers {reason : Option NoOpinion} {content : Text} {r : Except Fault Outcome}
    (h : Settled s lang reason) (hs : Sound s) (hfinal : s.config.retryUnavailable = false)
    (hstep : RequestStep w s content lang r s' t) :
    ∃ outcome, r = .ok outcome ∧ outcome.reason? = reason := by
  cases h with
  | noToolkit hunavailable =>
    obtain ⟨isThere, s₁, t₁, htoolkit, rfl⟩ := hstep.eq_of_givenUp hs hfinal (.inr hunavailable)
    obtain ⟨⟨⟩, _⟩ := htoolkit.eq_of_unavailable hunavailable hfinal
    exact ⟨_, rfl, rfl⟩
  | noGrammar hready hmissing =>
    obtain ⟨isThere, s₁, t₁, htoolkit, rfl⟩ := hstep.eq_of_givenUp hs hfinal (.inl hmissing)
    obtain ⟨⟨⟩, _⟩ := htoolkit.eq_of_ready hready
    exact ⟨_, rfl, rfl⟩
  | noQueries hloaded hcompiled =>
    obtain ⟨rfl, _⟩ | ⟨_, hsome⟩ := hstep.eq_of_compiled hs hloaded hcompiled
    · exact ⟨_, rfl, rfl⟩
    · exact absurd rfl hsome
  | analysable hloaded hcompiled hsome =>
    obtain ⟨_, hnone⟩ | ⟨rfl, _⟩ := hstep.eq_of_compiled hs hloaded hcompiled
    · exact absurd hnone hsome
    · exact ⟨_, rfl, rfl⟩

/-! ## Every later answer -/

/-- **`outcomes_are_stable`** — take an engine with any past, ask it about a language, and let any
calls follow but resets, each in a world of its own.  A grammar that was handed out is handed out
again without an import.  Without retries a grammar that was refused is refused again without an
import, and a request that was answered is answered again, for any hook, with the same reason or
again with an assessment; having no queries is remembered as such. -/
theorem outcomes_are_stable (config : EngineConfig) (before later : List Call) (w w' : World)
    (lang : Language) (hlater : ∀ call ∈ later, ¬ call.operation.Forgets) :
    let s := ({ config } : State).after before
    (∀ grammar, (loadGrammar lang w s).1 = .ok (some grammar) →
      let s' := (loadGrammar lang w s).2.1.after later
      (loadGrammar lang w' s').1 = .ok (some grammar) ∧
        (loadGrammar lang w' s').2.2.imports = []) ∧
    (config.retryUnavailable = false → (loadGrammar lang w s).1 = .ok none →
      let s' := (loadGrammar lang w s).2.1.after later
      (loadGrammar lang w' s').1 = .ok none ∧ (loadGrammar lang w' s').2.2.imports = []) ∧
    (config.retryUnavailable = false → ∀ content outcome,
      (scanRequest content (some lang) w s).1 = .ok outcome →
      let s' := (scanRequest content (some lang) w s).2.1.after later
      (∀ content', ∃ outcome', (scanRequest content' (some lang) w' s').1 = .ok outcome' ∧
        outcome'.reason? = outcome.reason?) ∧
      (outcome.reason? = some .noQueries → s'.queries.lookup lang = some [])) := by
  intro s
  have hs : Sound s := (Sound.fresh config).after before
  have hconfig : s.config = config := (Sound.fresh config).after_config before
  have hstep : GrammarStep w s lang (loadGrammar lang w s).1 (loadGrammar lang w s).2.1 _ :=
    loadGrammar_ends
  refine ⟨?handedOut, ?refused, ?answered⟩
  case handedOut =>
    intro grammar hanswer s'
    rw [hanswer] at hstep
    have hlasting : Lasting _ s' := .after (hs.walk hstep.walk) hlater
    exact loadGrammar_of_loaded w' (hlasting.loaded _ _ hstep.loaded)
  case refused =>
    intro hfinal hanswer s'
    rw [hanswer] at hstep
    -- the settings behind the first question are the settings the engine was made with
    rw [← hconfig, ← hstep.walk.config] at hfinal
    have hbehind := hs.walk hstep.walk
    have hlasting : Lasting _ s' := .after hbehind hlater
    exact loadGrammar_of_givenUp w' (hbehind.after later) (by rwa [hlasting.config])
      (hstep.givesUp.lasting hfinal hlasting)
  case answered =>
    intro hfinal content outcome hanswer s'
    have hrequest : RequestStep w s content lang _ _ _ := scanRequest_ends hs content
    rw [hanswer] at hrequest
    rw [← hconfig, ← hrequest.walk.config] at hfinal
    have hbehind := hs.walk hrequest.walk
    have hlasting : Lasting _ s' := .after hbehind hlater
    have hsettled := (hrequest.settles hs).lasting hfinal hlasting
    refine ⟨fun content' => ?_, fun hnoQueries => ?_⟩
    · have hs' : Sound s' := hbehind.after later
      exact hsettled.answers hs' (by rwa [hlasting.config]) (scanRequest_ends hs' content')
    · rw [hnoQueries] at hsettled
      cases hsettled with
      | noQueries hloaded hcompiled => exact hcompiled

/-- A world with the toolkit and a grammar for shell hooks. -/
def shellWorld : World :=
  rehearsal [(toolkitModule, .ok (standIn [])),
    ("tree_sitter_bash", .ok (moduleWith "language" (.factory (.ok (.labelled "ptr")))))] {} []

/-- A world without modules. -/
def bareWorld : World := rehearsal [] {} []

/-- Settings by which the queries come from a directory. -/
def elsewhere : EngineConfig := { queries := .directory ⟨[], []⟩ }

/-- What an engine knows of shell hooks outlives the world it was learnt in, also that there is no
query for them; and so does what it has given up. -/
theorem shell_outlives_its_modules :
    (loadGrammar .bash bareWorld ((loadGrammar .bash shellWorld { config := elsewhere }).2.1.after
      [⟨bareWorld, .ask (.loadGrammar .python)⟩])).1 = .ok (some (.labelled "ptr")) ∧
    (loadGrammar .bash shellWorld ((loadGrammar .bash bareWorld { config := elsewhere }).2.1.after
      [⟨bareWorld, .ask (.loadGrammar .python)⟩])).1 = .ok none ∧
    ((scanRequest [] (some .bash) shellWorld { config := elsewhere }).2.1.after
      [⟨bareWorld, .ask (.loadGrammar .python)⟩]).queries.lookup .bash = some [] := by
  have hlater : ∀ call ∈ ([⟨bareWorld, .ask (.loadGrammar .python)⟩] : List Call),
      ¬ call.operation.Forgets := by
    intro call hcall
    rw [List.mem_singleton.mp hcall]
    exact id
  refine ⟨?handedOut, ?refused, ?answered⟩
  case handedOut =>
    exact ((outcomes_are_stable elsewhere [] _ shellWorld bareWorld .bash hlater).1 _ rfl).1
  case refused =>
    exact ((outcomes_are_stable elsewhere [] _ bareWorld shellWorld .bash hlater).2.1 rfl rfl).1
  case answered =>
    exact ((outcomes_are_stable elsewhere [] _ shellWorld bareWorld .bash hlater).2.2 rfl []
      (noQueriesOutcome .bash) rfl).2 rfl

end Engine

end HookAudit
