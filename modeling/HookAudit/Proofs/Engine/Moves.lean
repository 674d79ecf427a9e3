/-
# HookAudit.Proofs.Engine.Moves — the steps an engine can take.

Whatever is asked of an engine, its state changes by a few kinds of step only: the toolkit or a
grammar is attempted and found, found absent, or fails; the queries of a language are compiled; a
matcher is built.  `Move w s s' t` lists them, each with the condition on the state under which it
is taken, and `Walk w s s' t` is any number of them, with what they show of loading.  An invariant
of the engine is shown for one move, and holds along every walk by `Walk.keeps`.

The invariant behind all of this is `Sound`: a toolkit is only ever held complete, also by a
matcher, and nothing is loaded or given up before the toolkit is there.
-/
import HookAudit.Proofs.Engine.Attempts

namespace HookAudit.Engine

variable {w : World} {s s' s₁ s₂ : State} {toolkit : Module} {lang : Language}
  {grammar : GrammarRef} {t t₁ t₂ : Trace}

/-! ## What is open, and what changes -/

/-- **`s.ToolkitOpen`** — whether the toolkit is there is to be found out: it has not been looked
for, or it was not there and is to be looked for again. -/
def State.ToolkitOpen (s : State) : Prop :=
  match s.loader.runtime with
  | .uninitialized => True
  | .unavailable => s.config.retryUnavailable = true
  | .ready _ => False

/-- **`s.GrammarOpen lang`** — whether a language has a grammar is to be found out. -/
def State.GrammarOpen (s : State) (lang : Language) : Prop :=
  s.loader.loaded.lookup lang = none ∧
    (lang ∈ s.loader.missing → s.config.retryUnavailable = true)

/-- The state with the toolkit there. -/
def State.withToolkit (s : State) (toolkit : Module) : State :=
  { s with loader := { s.loader with runtime := .ready toolkit } }

/-- The state with the toolkit given up, which has been warned about. -/
def State.withoutToolkit (s : State) : State :=
  { s with loader := { (s.warn .runtime).loader with runtime := .unavailable } }

/-- The state with the grammar of a language loaded. -/
def State.withGrammar (s : State) (lang : Language) (grammar : GrammarRef) : State :=
  { s with loader := { s.loader with
      missing := s.loader.missing.filter (· != lang)
      loaded := (lang, grammar) :: s.loader.loaded } }

/-- The state with the grammar of a language given up, which has been warned about. -/
def State.withoutGrammar (s : State) (lang : Language) : State :=
  { s with loader := { (s.warn (.grammar lang)).loader with
      missing := if s.loader.missing.contains lang then s.loader.missing
        else lang :: s.loader.missing } }

/-- The state with the queries of a language compiled. -/
def State.withQueries (s : State) (lang : Language) (queries : List NamedQuery) : State :=
  { s with queries := (lang, queries) :: s.queries }

/-- The state with a matcher built. -/
def State.withMatcher (s : State) (toolkit : Module) : State := { s with matcher := some toolkit }

/-! ### What a warning changes -/

@[simp]
theorem State.warn_runtime (subject : Subject) :
    (s.warn subject).loader.runtime = s.loader.runtime := by
  unfold State.warn
  split <;> rfl

@[simp]
theorem State.warn_loaded (subject : Subject) :
    (s.warn subject).loader.loaded = s.loader.loaded := by
  unfold State.warn
  split <;> rfl

@[simp]
theorem State.warn_missing (subject : Subject) :
    (s.warn subject).loader.missing = s.loader.missing := by
  unfold State.warn
  split <;> rfl

/-! ### What looking up finds -/

theorem lookup_cons_of_ne {α : Type} {other : Language} {a : α} {entries : List (Language × α)}
    (h : lang ≠ other) : ((other, a) :: entries).lookup lang = entries.lookup lang := by
  rw [List.lookup_cons, beq_false_of_ne h]

/-- An entry for another language, or the first for this one, hides no entry. -/
theorem lookup_cons_of_lookup {α : Type} {other : Language} {a b : α}
    {entries : List (Language × α)} (hother : entries.lookup other = none)
    (h : entries.lookup lang = some a) : ((other, b) :: entries).lookup lang = some a := by
  have hne : lang ≠ other := by
    rintro rfl
    rw [hother] at h
    cases h
  rwa [lookup_cons_of_ne hne]

theorem mem_missing_withoutGrammar {other : Language} :
    other ∈ (s.withoutGrammar lang).loader.missing ↔ other = lang ∨ other ∈ s.loader.missing := by
  unfold State.withoutGrammar
  dsimp only
  split
  · rename_i h
    have hmem : lang ∈ s.loader.missing := by simpa using h
    constructor
    · exact Or.inr
    · rintro (rfl | h)
      · exact hmem
      · exact h
  · exact List.mem_cons

theorem mem_missing_withGrammar {other : Language} :
    other ∈ (s.withGrammar lang grammar).loader.missing ↔
      other ∈ s.loader.missing ∧ other ≠ lang := by
  simp [State.withGrammar]

/-! ## Moves -/

/-- **`Move w s s' t`** — in the world `w`, an engine may step from `s` to `s'`, and the step shows
`t` of loading. -/
inductive Move (w : World) (s : State) : State → Trace → Prop where
  | toolkitFound {toolkit : Module} (isOpen : s.ToolkitOpen)
      (outcome : attemptToolkit w = .ok (some toolkit)) :
      Move w s (s.withToolkit toolkit) ⟨[toolkitModule], []⟩
  | toolkitAbsent (message : Text) (isOpen : s.ToolkitOpen)
      (outcome : attemptToolkit w = .ok none) :
      Move w s s.withoutToolkit ⟨[toolkitModule], s.warning .runtime message⟩
  | toolkitFailed {failure : Failure} (isOpen : s.ToolkitOpen)
      (outcome : attemptToolkit w = .error failure) : Move w s s ⟨[toolkitModule], []⟩
  | grammarFound {toolkit : Module} {lang : Language} {grammar : GrammarRef}
      (ready : s.loader.runtime = .ready toolkit) (isOpen : s.GrammarOpen lang)
      (outcome : attemptGrammar w s.config toolkit lang = .ok (some grammar)) :
      Move w s (s.withGrammar lang grammar) ⟨grammarImports s.config lang, []⟩
  | grammarAbsent {toolkit : Module} {lang : Language} (message : Text)
      (ready : s.loader.runtime = .ready toolkit) (isOpen : s.GrammarOpen lang)
      (outcome : attemptGrammar w s.config toolkit lang = .ok none) :
      Move w s (s.withoutGrammar lang)
        ⟨grammarImports s.config lang, s.warning (.grammar lang) message⟩
  | grammarFailed {toolkit : Module} {lang : Language} {failure : Failure}
      (ready : s.loader.runtime = .ready toolkit) (isOpen : s.GrammarOpen lang)
      (outcome : attemptGrammar w s.config toolkit lang = .error failure) :
      Move w s s ⟨grammarImports s.config lang, []⟩
  | queriesCompiled {toolkit : Module} {lang : Language} {grammar : GrammarRef}
      {judged : List (QueryFile × Verdict)} (ready : s.loader.runtime = .ready toolkit)
      (loaded : s.loader.loaded.lookup lang = some grammar) (isOpen : s.queries.lookup lang = none)
      (outcome : attemptPack w s.config toolkit grammar lang = .ok judged) :
      Move w s (s.withQueries lang (usableQueries judged)) {}
  | matcherBuilt {toolkit : Module} (ready : s.loader.runtime = .ready toolkit)
      (isOpen : s.matcher = none) : Move w s (s.withMatcher toolkit) {}

/-- No move changes a setting. -/
theorem Move.config (h : Move w s s' t) : s'.config = s.config := by
  cases h <;> rfl

/-- **`Walk w s s' t`** — in the world `w`, moves lead from `s` to `s'`, and together show `t` of
loading. -/
inductive Walk (w : World) : State → State → Trace → Prop where
  | stay {s : State} : Walk w s s {}
  | move {s s₁ s₂ : State} {t₁ t₂ : Trace} (first : Move w s s₁ t₁) (rest : Walk w s₁ s₂ t₂) :
      Walk w s s₂ (t₁ ++ t₂)

theorem Move.walk (h : Move w s s' t) : Walk w s s' t := by
  rw [← Trace.append_nothing t]
  exact .move h .stay

theorem Walk.trans (h₁ : Walk w s s₁ t₁) (h₂ : Walk w s₁ s₂ t₂) : Walk w s s₂ (t₁ ++ t₂) := by
  induction h₁ with
  | stay => exact h₂
  | move first _ ih =>
    rw [Trace.append_assoc]
    exact .move first (ih h₂)

/-- A walk behind another, of which loading shows nothing. -/
theorem Walk.trans_silent (h₁ : Walk w s s₁ t) (h₂ : Walk w s₁ s₂ {}) : Walk w s s₂ t := by
  rw [← Trace.append_nothing t]
  exact h₁.trans h₂

/-- What a move keeps, a walk keeps. -/
theorem Walk.keeps {I : State → Prop} (hmove : ∀ {s s' t}, Move w s s' t → I s → I s')
    (h : Walk w s s' t) (hs : I s) : I s' := by
  induction h with
  | stay => exact hs
  | move first _ ih => exact ih (hmove first hs)

theorem Walk.config (h : Walk w s s' t) : s'.config = s.config :=
  h.keeps (I := fun s' => s'.config = s.config) (fun hmove hs => hmove.config.trans hs) rfl

/-! ## Soundness -/

/-- **`Sound s`** — toolkit and matcher are complete, no language is both loaded and given up, and
any that is one of them is so by a toolkit that is there. -/
structure Sound (s : State) : Prop where
  complete : ∀ toolkit, s.loader.runtime = .ready toolkit → toolkit.Complete
  apart : ∀ lang, (s.loader.loaded.lookup lang).isSome → lang ∉ s.loader.missing
  ready : ∀ lang, (s.loader.loaded.lookup lang).isSome ∨ lang ∈ s.loader.missing →
    ∃ toolkit, s.loader.runtime = .ready toolkit
  matcher : ∀ toolkit, s.matcher = some toolkit → toolkit.Complete

/-- A grammar that is loaded was opened by a toolkit that is there. -/
theorem Sound.ready_of_loaded (hs : Sound s)
    (hloaded : s.loader.loaded.lookup lang = some grammar) :
    ∃ toolkit, s.loader.runtime = .ready toolkit :=
  hs.ready lang (.inl (Option.isSome_of_eq_some hloaded))

/-- A fresh engine is sound. -/
theorem Sound.fresh (config : EngineConfig) : Sound { config } where
  complete := by rintro _ ⟨⟩
  apart := by rintro _ ⟨⟩
  ready := by rintro _ (⟨⟨⟩⟩ | ⟨⟨⟩⟩)
  matcher := by rintro _ ⟨⟩

/-- A toolkit that is open is not there. -/
theorem State.ToolkitOpen.not_ready (h : s.ToolkitOpen) (toolkit : Module) :
    s.loader.runtime ≠ .ready toolkit := by
  intro hready
  simp [State.ToolkitOpen, hready] at h

/-- While the toolkit is not there, nothing is loaded or given up. -/
theorem Sound.nothing_settled (hs : Sound s)
    (hnone : ∀ toolkit, s.loader.runtime ≠ .ready toolkit) (lang : Language) :
    s.loader.loaded.lookup lang = none ∧ lang ∉ s.loader.missing := by
  have hnot : ¬ ((s.loader.loaded.lookup lang).isSome ∨ lang ∈ s.loader.missing) := by
    intro hsettled
    obtain ⟨toolkit, hready⟩ := hs.ready lang hsettled
    exact hnone toolkit hready
  exact ⟨Option.not_isSome_iff_eq_none.mp fun h => hnot (.inl h), fun h => hnot (.inr h)⟩

theorem Sound.grammarOpen (hs : Sound s) (hnone : ∀ toolkit, s.loader.runtime ≠ .ready toolkit)
    (lang : Language) : s.GrammarOpen lang :=
  ⟨(hs.nothing_settled hnone lang).1, fun h => absurd h (hs.nothing_settled hnone lang).2⟩

/-- **`Sound.move`** — every move keeps an engine sound. -/
theorem Sound.move (h : Move w s s' t) (hs : Sound s) : Sound s' := by
  cases h with
  | toolkitFound hopen houtcome =>
    refine { hs with complete := ?_, ready := ?_ }
    · rintro _ ⟨⟩
      exact (attemptToolkit_eq_some_iff.mp houtcome).2
    · exact fun _ _ => ⟨_, rfl⟩
  | toolkitAbsent message hopen houtcome =>
    refine { hs with complete := ?_, apart := ?_, ready := ?_ }
    · rintro _ ⟨⟩
    · simpa [State.withoutToolkit] using hs.apart
    · intro lang hsettled
      simp [State.withoutToolkit, hs.nothing_settled hopen.not_ready lang] at hsettled
  | toolkitFailed => exact hs
  | @grammarFound toolkit lang grammar hready hopen houtcome =>
    refine { hs with apart := ?_, ready := fun _ _ => ⟨toolkit, hready⟩ }
    intro other hloaded hmissing
    rw [mem_missing_withGrammar] at hmissing
    have hother : (s.withGrammar lang grammar).loader.loaded.lookup other =
        s.loader.loaded.lookup other := lookup_cons_of_ne hmissing.2
    exact hs.apart other (hother ▸ hloaded) hmissing.1
  | @grammarAbsent toolkit lang message hready hopen houtcome =>
    refine { complete := ?_, apart := ?_, ready := ?_, matcher := hs.matcher }
    · simpa [State.withoutGrammar] using hs.complete
    · intro other hloaded hmissing
      simp only [State.withoutGrammar, State.warn_loaded] at hloaded
      rcases mem_missing_withoutGrammar.mp hmissing with rfl | hmissing
      · rw [hopen.1] at hloaded
        cases hloaded
      · exact hs.apart other hloaded hmissing
    · exact fun _ _ => ⟨toolkit, by simpa [State.withoutGrammar] using hready⟩
  | grammarFailed => exact hs
  | queriesCompiled => exact { hs with }
  | matcherBuilt hready =>
    refine { hs with matcher := ?_ }
    rintro _ ⟨⟩
    exact hs.complete _ hready

theorem Sound.walk (h : Walk w s s' t) (hs : Sound s) : Sound s' :=
  h.keeps Sound.move hs

end HookAudit.Engine
