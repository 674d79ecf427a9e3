/-
# HookAudit.Proofs.Engine.Holdings — what is held about one language.

All languages live in the same tables: of grammars, of what was given up, of what was warned about,
of compiled queries.  What an engine holds about one of them is its row in these tables
(`State.holding`); what is shared is the toolkit (`State.toolkitHolding`) and the matcher built for
it.

`Spares lang s s'` says that no row but that of one language has changed.  It is shown for the steps
of loading and for what is done behind them, and then for every course that the plan of a question
about the language may take (`Question.plan_about`): however the question ends, and whatever the
importer says at each attempt, the rows of the others stay.
-/
import HookAudit.Proofs.Engine.Atomicity
import HookAudit.Proofs.Engine.Loads
import HookAudit.Proofs.Engine.Preparation

namespace HookAudit.Engine

open Action

variable {w : World} {s s' s₁ s₂ : State} {toolkit : Module} {lang other : Language}
  {grammar : GrammarRef} {t : Trace} {α β : Type}

/-! ## What is held -/

/-- What an engine holds about a language. -/
@[ext]
structure Holding where
  /-- The grammar, once it is loaded. -/
  grammar : Option GrammarRef
  /-- Whether the grammar is given up. -/
  missing : Bool
  /-- The queries, once they are compiled. -/
  queries : Option (List NamedQuery)
  /-- Whether the grammar has been warned about. -/
  warned : Bool

/-- What an engine holds about the toolkit. -/
structure ToolkitHolding where
  /-- Whether it is there. -/
  runtime : RuntimeState
  /-- Whether it has been warned about. -/
  warned : Bool

namespace State

/-- What is held about a language. -/
def holding (s : State) (lang : Language) : Holding where
  grammar := s.loader.loaded.lookup lang
  missing := s.loader.missing.contains lang
  queries := s.queries.lookup lang
  warned := s.loader.warned.contains (.grammar lang)

/-- What is held about the toolkit. -/
def toolkitHolding (s : State) : ToolkitHolding where
  runtime := s.loader.runtime
  warned := s.loader.warned.contains .runtime

/-- A warning adds its subject to what has been warned about. -/
theorem mem_warned_warn {subject x : Subject} :
    x ∈ (s.warn subject).loader.warned ↔ x = subject ∨ x ∈ s.loader.warned := by
  unfold warn
  split
  · rename_i hwarned
    have hmem : subject ∈ s.loader.warned := by simpa using hwarned
    constructor
    · exact .inr
    · rintro (rfl | h)
      · exact hmem
      · exact h
  · exact List.mem_cons

@[simp]
theorem holding_withToolkit : (s.withToolkit toolkit).holding lang = s.holding lang := rfl

@[simp]
theorem holding_withoutToolkit : s.withoutToolkit.holding lang = s.holding lang := by
  simp [holding, withoutToolkit, mem_warned_warn]

@[simp]
theorem toolkitHolding_withToolkit :
    (s.withToolkit toolkit).toolkitHolding = { s.toolkitHolding with runtime := .ready toolkit } :=
  rfl

@[simp]
theorem toolkitHolding_withoutToolkit : s.withoutToolkit.toolkitHolding = ⟨.unavailable, true⟩ := by
  simp [toolkitHolding, withoutToolkit, mem_warned_warn]

@[simp]
theorem holding_withGrammar : (s.withGrammar lang grammar).holding lang =
    { s.holding lang with grammar := some grammar, missing := false } := by
  simp [holding, withGrammar]

@[simp]
theorem holding_withoutGrammar : (s.withoutGrammar lang).holding lang =
    { s.holding lang with missing := true, warned := true } := by
  have hmissing : lang ∈ (s.withoutGrammar lang).loader.missing :=
    mem_missing_withoutGrammar.mpr (.inl rfl)
  ext1
  · simp [holding, withoutGrammar]
  · simpa [holding] using hmissing
  · rfl
  · simp [holding, withoutGrammar, mem_warned_warn]

@[simp]
theorem toolkitHolding_withGrammar :
    (s.withGrammar lang grammar).toolkitHolding = s.toolkitHolding := rfl

@[simp]
theorem toolkitHolding_withoutGrammar :
    (s.withoutGrammar lang).toolkitHolding = s.toolkitHolding := by
  simp [toolkitHolding, withoutGrammar, mem_warned_warn]

theorem holding_withGrammar_of_ne (h : other ≠ lang) :
    (s.withGrammar lang grammar).holding other = s.holding other := by
  ext1
  · exact lookup_cons_of_ne h
  · rw [Bool.eq_iff_iff]
    simp [holding, mem_missing_withGrammar, h]
  · rfl
  · rfl

theorem holding_withoutGrammar_of_ne (h : other ≠ lang) :
    (s.withoutGrammar lang).holding other = s.holding other := by
  ext1
  · simp [holding, withoutGrammar]
  · rw [Bool.eq_iff_iff]
    simp [holding, mem_missing_withoutGrammar, h]
  · rfl
  · simp [holding, withoutGrammar, mem_warned_warn, h]

theorem holding_withQueries_of_ne {queries : List NamedQuery} (h : other ≠ lang) :
    (s.withQueries lang queries).holding other = s.holding other := by
  simp [holding, withQueries, lookup_cons_of_ne h]

end State

/-- A toolkit that can be had is there. -/
theorem State.ready_of_toolkit? (h : s.loader.toolkit? = some toolkit) :
    s.loader.runtime = .ready toolkit := by
  unfold Loader.toolkit? at h
  split at h
  · rename_i found hfound
    rw [hfound, Option.some.inj h]
  · cases h

/-! ## Sparing the others -/

/-- **`Spares lang s s'`** — from `s` to `s'` nothing has changed about any other language than
`lang`.  Settings, a toolkit that is there and a matcher that was built have stayed, and a new
matcher is one for the toolkit. -/
structure Spares (lang : Language) (s s' : State) : Prop extends Extends s s' where
  others : ∀ other, other ≠ lang → s'.holding other = s.holding other
  matcher : s'.matcher = s.matcher ∨ s.matcher = none ∧ s'.matcher = s'.loader.toolkit?

instance : Std.Refl (Spares lang) where
  refl s := { refl (r := Extends) s with others := fun _ _ => rfl, matcher := .inl rfl }

theorem Spares.trans (h₁ : Spares lang s s₁) (h₂ : Spares lang s₁ s₂) : Spares lang s s₂ where
  toExtends := IsTrans.trans _ _ _ h₁.toExtends h₂.toExtends
  others other hne := (h₂.others other hne).trans (h₁.others other hne)
  matcher := by
    rcases h₂.matcher with hsame | ⟨hnone, hbuilt⟩
    · rcases h₁.matcher with hsame₁ | ⟨hnone, hbuilt⟩
      · exact .inl (hsame.trans hsame₁)
      · -- the toolkit that a matcher was built for stays
        cases htoolkit : s₁.loader.toolkit? with
        | none => exact .inl (by rw [hsame, hbuilt, htoolkit, hnone])
        | some toolkit =>
          have hready := h₂.toolkit toolkit (State.ready_of_toolkit? htoolkit)
          exact .inr ⟨hnone, by rw [hsame, hbuilt, htoolkit, State.toolkit?_of_ready hready]⟩
    · rcases h₁.matcher with hsame₁ | ⟨hnone₁, -⟩
      · exact .inr ⟨hsame₁.symm.trans hnone, hbuilt⟩
      · exact .inr ⟨hnone₁, hbuilt⟩

instance : IsTrans State (Spares lang) where
  trans _ _ _ := Spares.trans

theorem ToolkitStep.spares {r : Except Fault Bool} (h : ToolkitStep w s r s' t) :
    Spares lang s s' := by
  have hready : s.ToolkitOpen → ∀ toolkit, s.loader.runtime = .ready toolkit →
      s'.loader.runtime = .ready toolkit :=
    fun hopen toolkit hready => absurd hready (hopen.not_ready toolkit)
  cases h with
  | there | givenUp | failed => exact refl _
  | found hopen => exact ⟨⟨rfl, hready hopen⟩, fun _ _ => rfl, .inl rfl⟩
  | absent message hopen =>
    exact ⟨⟨rfl, hready hopen⟩, fun _ _ => State.holding_withoutToolkit, .inl rfl⟩

theorem spares_withGrammar : Spares lang s (s.withGrammar lang grammar) where
  toExtends := .of_same rfl rfl
  others _ hne := State.holding_withGrammar_of_ne hne
  matcher := .inl rfl

theorem spares_withoutGrammar : Spares lang s (s.withoutGrammar lang) where
  toExtends := .of_same rfl (State.warn_runtime _)
  others _ hne := State.holding_withoutGrammar_of_ne hne
  matcher := .inl rfl

/-- Looking for a grammar changes nothing about other languages. -/
theorem openGrammar_spares (hready : s.loader.runtime = .ready toolkit) :
    (openGrammar lang).Ends w s fun _ s' _ => Spares lang s s' := by
  have hattempt := importGrammar_ends (w := w) lang (State.toolkit?_of_ready hready)
  generalize attemptGrammar w s.config toolkit lang = outcome at hattempt
  refine hattempt.bind ?_ ?_
  · rintro _ _ _ ⟨⟩
    exact refl _
  · intro grammar? s' t hattempted
    cases hattempted with
    | found grammar => exact Ends.updateLoader_bind (Ends.pure spares_withGrammar)
    | absent message =>
      refine Ends.updateLoader_bind (Ends.pure ?_)
      rw [State.warn_with_loader, State.warn_missing]
      exact spares_withoutGrammar

/-! ### What is done behind loading -/

/-- What leaves no mark keeps everything. -/
theorem Action.Keeps.of_gives {R : State → State → Prop} [Std.Refl R] {act : Action α}
    {r : World → State → Except Fault α} (h : ∀ w s, act.Gives w s (r w s)) : act.Keeps R := by
  intro w s
  rw [(h w s).2.1]
  exact refl s

theorem getMatcher_spares : getMatcher.Keeps (Spares lang) := by
  intro w s
  show getMatcher.Ends w s fun _ s' _ => Spares lang s s'
  refine Ends.state_bind ?_
  cases hmatcher : s.matcher with
  | some toolkit => exact Ends.pure (refl s)
  | none =>
    dsimp only
    cases htoolkit : s.loader.toolkit? with
    | none => exact Ends.fail (refl s)
    | some toolkit =>
      refine Ends.update_bind (Ends.pure ?_)
      exact ⟨.of_same rfl rfl, fun _ _ => rfl, .inr ⟨hmatcher, htoolkit.symm⟩⟩

/-! ### Plans -/

namespace Plan

variable {plan : Plan α} {next : α → Plan β}

/-- **`plan.About lang`** — no course of the plan changes anything about another language. -/
def About (lang : Language) (plan : Plan α) : Prop :=
  ∀ s, plan.Always s fun c => Spares lang s c.state

theorem About.quiet {act : Action α} {hquiet : act.Quiet} (h : act.Keeps (Spares lang)) :
    (Plan.quiet act hquiet).About lang := by
  rintro s _ ⟨worlds, n, rfl⟩
  exact h (worlds n) s

theorem About.pure (a : α) : (Pure.pure a : Plan α).About lang := .quiet (Keeps.pure a)

theorem About.bind (hfirst : plan.About lang) (hnext : ∀ a, (next a).About lang) :
    (plan >>= next).About lang := by
  intro s
  refine (hfirst s).bind (fun _ _ _ _ h => h) fun a s₁ t as h => ?_
  exact (hnext a s₁).mono fun c hc => h.trans hc

theorem ensureRuntime_about : ensureRuntime.About lang :=
  fun _ => ensureRuntime_always.mono fun _ ⟨⟨_, hstep⟩, _⟩ => hstep.spares

theorem loadGrammar_about : (loadGrammar lang).About lang := by
  intro s
  refine Always.getState_bind ?_
  cases s.loader.loaded.lookup lang with
  | some grammar => exact About.pure _ s
  | none =>
    dsimp only
    split
    · exact About.pure _ s
    · refine ensureRuntime_always.bind ?_ ?_
      · rintro e s₁ t as ⟨⟨w, hstep⟩, -⟩
        exact hstep.spares
      · rintro isThere s₁ t as ⟨⟨w, hstep⟩, -⟩
        cases isThere with
        | false => exact (About.pure _ s₁).mono fun _ h => hstep.spares.trans h
        | true =>
          -- a grammar is only opened behind a toolkit, so its attempt can be read off
          obtain ⟨toolkit, hready⟩ := hstep.ready
          rintro _ ⟨worlds, n, rfl⟩
          have hopens : (openGrammar lang).Ends (worlds n) s₁ fun _ s' _ => Spares lang s₁ s' :=
            openGrammar_spares hready
          exact hstep.spares.trans hopens

theorem getQueries_about : (getQueries lang).About lang := by
  refine About.bind (.quiet Keeps.state) fun s => ?_
  cases s.queries.lookup lang with
  | some queries => exact .pure queries
  | none =>
    refine loadGrammar_about.bind fun grammar? => ?_
    cases grammar? with
    | none => exact .pure []
    | some grammar =>
      have hremember : ∀ queries : List NamedQuery, (do
          update fun s => { s with queries := (lang, queries) :: s.queries }
          return queries : Action (List NamedQuery)).Keeps (Spares lang) := by
        refine fun queries => (Keeps.update fun s => ?_).returning queries
        exact ⟨.of_same rfl rfl, fun _ hne => State.holding_withQueries_of_ne hne, .inl rfl⟩
      refine .quiet (requireToolkit_keeps.bind fun toolkit =>
        Keeps.files.bind fun files => ?_)
      refine (Keeps.each (fun file => .of_gives fun _ _ => compileFile_gives file) _).bind
        fun found => ?_
      dsimp only
      split
      · exact (Keeps.log _ _ _).bind fun _ => hremember _
      · exact hremember _

theorem validate_about : (validate lang).About lang := by
  refine loadGrammar_about.bind fun grammar? => ?_
  cases grammar? with
  | none => exact .pure _
  | some grammar =>
    refine .quiet (requireToolkit_keeps.bind fun toolkit => Keeps.state.bind fun s =>
      Keeps.files.bind fun files => ?_)
    exact (Keeps.each (fun file => .of_gives fun _ _ => reportFile_gives file) _).bind
      fun reports => Keeps.pure _

theorem scanRequest_about (content : Text) : (scanRequest content lang).About lang := by
  refine ensureRuntime_about.bind fun isThere => ?_
  cases isThere with
  | false => exact .pure _
  | true =>
    refine loadGrammar_about.bind fun grammar? => ?_
    cases grammar? with
    | none => exact .pure _
    | some grammar =>
      refine getQueries_about.bind fun queries => ?_
      dsimp only
      split
      · exact .pure _
      · refine .quiet (getMatcher_spares.bind fun toolkit => ?_)
        have hparse : (parse (some toolkit) (some grammar) (Text.encode content)).Keeps
            (Spares lang) := fun _ s => refl s
        have hmatch : ∀ root limit, (matchAll root (Text.encode content) limit queries).Keeps
            (Spares lang) := fun root limit =>
          (Keeps.each (fun _ _ s => refl s) queries).bind fun _ => Keeps.pure _
        exact hparse.bind fun root => Keeps.state.bind fun s => (hmatch root _).bind
          fun captures => Keeps.pure _

end Plan

/-- **`Question.plan_about`** — a question about one language changes nothing about another. -/
theorem Question.plan_about {question : Question} (h : question.For lang) :
    question.plan.About lang := by
  cases question with
  | loadGrammar l =>
    obtain rfl := h
    exact Plan.loadGrammar_about.bind fun _ => .pure _
  | getQueries l =>
    obtain rfl := h
    exact Plan.getQueries_about.bind fun _ => .pure _
  | validate l =>
    obtain rfl := h
    exact Plan.validate_about.bind fun _ => .pure _
  | scan content requested filename =>
    have hscan : Plan.scan content requested filename = Plan.scanRequest content lang := by
      unfold Plan.scan
      rw [show languageOf content requested filename = .ok (some lang) from h]
    refine Plan.About.bind ?_ fun _ => .pure _
    rw [hscan]
    exact Plan.scanRequest_about content
  | scanRequest content l =>
    obtain rfl := h
    exact (Plan.scanRequest_about content).bind fun _ => .pure _
  | _ => exact h.elim

/-- In one world, the plan is the operation. -/
theorem Plan.About.run {plan : Plan α} (h : plan.About lang) : plan.run.Keeps (Spares lang) := by
  intro w s
  have hplay := h s _ ⟨fun _ => w, 0, rfl⟩
  obtain ⟨as, hsame⟩ := plan.play_const w 0 s
  rwa [hsame] at hplay

end HookAudit.Engine
