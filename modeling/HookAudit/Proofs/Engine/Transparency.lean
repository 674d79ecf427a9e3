/-
# HookAudit.Proofs.Engine.Transparency — what is remembered makes no difference.

In a world that stays the same, an engine that remembers nothing would ask the world anew each time;
`grammarOf`, `queriesOf`, `reportOf` and `outcomeOf` are what it would be told.  An engine that
remembers holds nothing else (`Faithful`): toolkit, grammars, queries and matcher are those an
attempt would come to, and whatever it has given up an attempt would not find.  Every move keeps
this, and so does a reset of any part.  Hence its answers are determined by the world and the
settings alone, whatever it was asked before (`caching_is_transparent`).
-/
import HookAudit.Proofs.Engine.Operations

namespace HookAudit.Engine

open Action

variable {w : World} {config : EngineConfig} {s s' s₁ : State} {toolkit : Module} {lang : Language}
  {grammar : GrammarRef} {t : Trace}

/-! ## Without memory -/

/-- The grammar of a language, if the world has it. -/
def grammarOf (w : World) (config : EngineConfig) (lang : Language) :
    Except Failure (Option GrammarRef) := do
  match ← attemptToolkit w with
  | none => return none
  | some toolkit => attemptGrammar w config toolkit lang

/-- The query files of a language with their verdicts, if the world has its grammar. -/
def packOf (w : World) (config : EngineConfig) (lang : Language) :
    Except Failure (Option (List (QueryFile × Verdict))) := do
  match ← grammarOf w config lang with
  | none => return none
  | some grammar =>
    match ← attemptToolkit w with
    | none => return none
    | some toolkit => return some (← attemptPack w config toolkit grammar lang)

/-- The queries of a language; without its grammar there are none. -/
def queriesOf (w : World) (config : EngineConfig) (lang : Language) :
    Except Failure (List NamedQuery) := do
  match ← packOf w config lang with
  | none => return []
  | some judged => return usableQueries judged

/-- What validating the query files of a language finds. -/
def reportOf (w : World) (config : EngineConfig) (lang : Language) : Except Failure PackReport := do
  match ← packOf w config lang with
  | none => return { lang, grammarAvailable := false, files := [] }
  | some judged => return { lang, grammarAvailable := true, files := fileReports judged }

/-- What is to be said about a hook in a language. -/
def outcomeOf (w : World) (config : EngineConfig) (content : Text) (lang : Language) :
    Except Failure Outcome := do
  match ← grammarOf w config lang with
  | none =>
    match ← attemptToolkit w with
    | none => return noToolkitOutcome
    | some _ => return noGrammarOutcome lang
  | some grammar =>
    match ← queriesOf w config lang with
    | [] => return noQueriesOutcome lang
    | queries => return assessmentOf w config grammar queries content

/-! ## What is remembered -/

/-- **`Faithful w s`** — what the engine remembers is what attempts in the world `w` come to. -/
structure Faithful (w : World) (s : State) : Prop where
  toolkit : ∀ toolkit, s.loader.runtime = .ready toolkit → attemptToolkit w = .ok (some toolkit)
  unavailable : s.loader.runtime = .unavailable → attemptToolkit w = .ok none
  loaded : ∀ lang grammar, s.loader.loaded.lookup lang = some grammar →
    grammarOf w s.config lang = .ok (some grammar)
  missing : ∀ lang ∈ s.loader.missing, grammarOf w s.config lang = .ok none
  queries : ∀ lang queries, s.queries.lookup lang = some queries →
    queriesOf w s.config lang = .ok queries
  matcher : ∀ matcher, s.matcher = some matcher → attemptToolkit w = .ok (some matcher)

/-- A fresh engine remembers nothing. -/
theorem Faithful.fresh (w : World) (config : EngineConfig) : Faithful w { config } where
  toolkit := by rintro _ ⟨⟩
  unavailable := by rintro ⟨⟩
  loaded := by rintro _ _ ⟨⟩
  missing := by rintro _ ⟨⟩
  queries := by rintro _ _ ⟨⟩
  matcher := by rintro _ ⟨⟩

theorem grammarOf_of_toolkit (htoolkit : attemptToolkit w = .ok (some toolkit)) :
    grammarOf w config lang = attemptGrammar w config toolkit lang := by
  unfold grammarOf
  rw [htoolkit]
  rfl

theorem grammarOf_of_noToolkit (htoolkit : attemptToolkit w = .ok none) :
    grammarOf w config lang = .ok none := by
  unfold grammarOf
  rw [htoolkit]
  rfl

theorem packOf_of_grammar (htoolkit : attemptToolkit w = .ok (some toolkit))
    (hgrammar : grammarOf w config lang = .ok (some grammar)) :
    packOf w config lang = (attemptPack w config toolkit grammar lang).map some := by
  unfold packOf
  rw [htoolkit, hgrammar]
  rfl

/-- **`Faithful.move`** — in the same world every move adds what an attempt has come to. -/
theorem Faithful.move (h : Move w s s' t) (hf : Faithful w s) : Faithful w s' := by
  cases h with
  | toolkitFound hopen houtcome =>
    refine { hf with toolkit := ?_, unavailable := ?_ }
    · rintro _ ⟨⟩
      exact houtcome
    · rintro ⟨⟩
  | toolkitAbsent message hopen houtcome =>
    refine { hf with toolkit := ?_, unavailable := fun _ => houtcome, loaded := ?_, missing := ?_ }
    · rintro _ ⟨⟩
    · simpa [State.withoutToolkit] using hf.loaded
    · simpa [State.withoutToolkit] using hf.missing
  | toolkitFailed => exact hf
  | @grammarFound toolkit lang grammar hready hopen houtcome =>
    refine { hf with loaded := ?_, missing := ?_ }
    -- the toolkit of the attempt is the one an attempt comes to, so the new entry is right
    · intro other grammar' hloaded
      by_cases hother : other = lang
      · subst hother
        obtain rfl : grammar = grammar' := by
          simpa [State.withGrammar] using hloaded
        exact (grammarOf_of_toolkit (hf.toolkit _ hready)).trans houtcome
      · exact hf.loaded other grammar' ((lookup_cons_of_ne hother).symm.trans hloaded)
    · intro other hmissing
      exact hf.missing other (mem_missing_withGrammar.mp hmissing).1
  | @grammarAbsent toolkit lang message hready hopen houtcome =>
    refine { hf with toolkit := ?_, unavailable := ?_, loaded := ?_, missing := ?_ }
    · simpa [State.withoutGrammar] using hf.toolkit
    · simpa [State.withoutGrammar] using hf.unavailable
    · simpa [State.withoutGrammar] using hf.loaded
    · intro other hmissing
      rcases mem_missing_withoutGrammar.mp hmissing with rfl | hmissing
      · exact (grammarOf_of_toolkit (hf.toolkit _ hready)).trans houtcome
      · exact hf.missing other hmissing
  | grammarFailed => exact hf
  | @queriesCompiled toolkit lang grammar judged hready hloaded hopen houtcome =>
    refine { hf with queries := ?_ }
    intro other queries hqueries
    by_cases hother : other = lang
    · subst hother
      obtain rfl : usableQueries judged = queries := by
        simpa [State.withQueries] using hqueries
      show queriesOf w s.config other = _
      unfold queriesOf
      rw [packOf_of_grammar (hf.toolkit _ hready) (hf.loaded _ _ hloaded), houtcome]
      rfl
    · exact hf.queries other queries ((lookup_cons_of_ne hother).symm.trans hqueries)
  | matcherBuilt hready =>
    refine { hf with matcher := ?_ }
    rintro _ ⟨⟩
    exact hf.toolkit _ hready

theorem Faithful.walk (h : Walk w s s' t) (hf : Faithful w s) : Faithful w s' :=
  h.keeps Faithful.move hf

/-- A loader that has forgotten everything remembers nothing false. -/
theorem Faithful.resetLoader (hf : Faithful w s) : Faithful w { s with loader := {} } where
  toolkit := by rintro _ ⟨⟩
  unavailable := by rintro ⟨⟩
  loaded := by rintro _ _ ⟨⟩
  missing := by rintro _ ⟨⟩
  queries := hf.queries
  matcher := hf.matcher

/-! ## What the steps answer -/

/-- What was answered is what the world said. -/
theorem eq_ok_of_answer {α : Type} {x : Except Failure α} {a : α}
    (h : .ok a = x.mapError Fault.outside) : x = .ok a := by
  cases x with
  | error failure => cases h
  | ok b =>
    cases h
    rfl

/-- An error is a failure of the world. -/
theorem eq_error_of_answer {α : Type} {x : Except Failure α} {e : Fault}
    (h : .error e = x.mapError Fault.outside) :
    ∃ failure, e = .outside failure ∧ x = .error failure := by
  cases x with
  | error failure =>
    cases h
    exact ⟨failure, rfl, rfl⟩
  | ok b => cases h

/-- A toolkit that is there behind a step is what an attempt comes to. -/
theorem Faithful.toolkit_behind {r : Except Fault Bool} (hf : Faithful w s)
    (h : ToolkitStep w s r s' t) (hready : s'.loader.runtime = .ready toolkit) :
    attemptToolkit w = .ok (some toolkit) :=
  (hf.walk h.walk).toolkit toolkit hready

/-- So is the lack of one. -/
theorem Faithful.no_toolkit_behind (hf : Faithful w s) (h : ToolkitStep w s (.ok false) s' t) :
    attemptToolkit w = .ok none :=
  (hf.walk h.walk).unavailable h.unavailable

theorem ToolkitStep.answer {r : Except Fault Bool} (hf : Faithful w s)
    (h : ToolkitStep w s r s' t) :
    r = ((attemptToolkit w).map Option.isSome).mapError .outside := by
  cases h with
  | there hready => rw [hf.toolkit _ hready]; rfl
  | givenUp hunavailable => rw [hf.unavailable hunavailable]; rfl
  | found _ houtcome => rw [houtcome]; rfl
  | absent message _ houtcome => rw [houtcome]; rfl
  | failed _ houtcome => rw [houtcome]; rfl

theorem GrammarStep.answer {r : Except Fault (Option GrammarRef)} (hf : Faithful w s)
    (h : GrammarStep w s lang r s' t) :
    r = (grammarOf w s.config lang).mapError .outside := by
  cases h with
  | there hloaded => rw [hf.loaded _ _ hloaded]; rfl
  | givenUp _ hmissing => rw [hf.missing _ hmissing]; rfl
  | noToolkit _ hstep => rw [grammarOf_of_noToolkit (hf.no_toolkit_behind hstep)]; rfl
  | toolkitFailed _ hstep =>
    cases hstep with
    | failed _ houtcome =>
      unfold grammarOf
      rw [houtcome]
      rfl
  | found _ hstep hready houtcome =>
    rw [grammarOf_of_toolkit (hf.toolkit_behind hstep hready), houtcome]
    rfl
  | absent message _ hstep hready houtcome =>
    rw [grammarOf_of_toolkit (hf.toolkit_behind hstep hready), houtcome]
    rfl
  | failed _ hstep hready houtcome =>
    rw [grammarOf_of_toolkit (hf.toolkit_behind hstep hready), houtcome]
    rfl

theorem PackStep.answer {r : Except Fault (List NamedQuery)} (hf : Faithful w s)
    (h : PackStep w s lang r s') : r = (queriesOf w s.config lang).mapError .outside := by
  cases h with
  | there hcompiled => rw [hf.queries _ _ hcompiled]; rfl
  | compiled _ hready hloaded houtcome =>
    unfold queriesOf
    rw [packOf_of_grammar (hf.toolkit _ hready) (hf.loaded _ _ hloaded), houtcome]
    rfl
  | failed _ hready hloaded houtcome =>
    unfold queriesOf
    rw [packOf_of_grammar (hf.toolkit _ hready) (hf.loaded _ _ hloaded), houtcome]
    rfl

theorem QueriesStep.answer {r : Except Fault (List NamedQuery)} (hf : Faithful w s)
    (h : QueriesStep w s lang r s' t) : r = (queriesOf w s.config lang).mapError .outside := by
  cases h with
  | there hcompiled => rw [hf.queries _ _ hcompiled]; rfl
  | noGrammar _ hstep =>
    unfold queriesOf packOf
    rw [eq_ok_of_answer (hstep.answer hf)]
    rfl
  | grammarFailed _ hstep =>
    obtain ⟨failure, rfl, hfails⟩ := eq_error_of_answer (hstep.answer hf)
    unfold queriesOf packOf
    rw [hfails]
    rfl
  | packed _ hstep hpack =>
    rw [← hstep.frame.1]
    exact hpack.answer (hf.walk hstep.walk)

theorem ValidateStep.answer {r : Except Fault PackReport} (hf : Faithful w s)
    (h : ValidateStep w s lang r s' t) : r = (reportOf w s.config lang).mapError .outside := by
  cases h with
  | noGrammar hstep =>
    unfold reportOf packOf
    rw [eq_ok_of_answer (hstep.answer hf)]
    rfl
  | grammarFailed hstep =>
    obtain ⟨failure, rfl, hfails⟩ := eq_error_of_answer (hstep.answer hf)
    unfold reportOf packOf
    rw [hfails]
    rfl
  | judged hstep hready houtcome =>
    have htoolkit := (hf.walk hstep.walk).toolkit _ hready
    unfold reportOf
    rw [packOf_of_grammar htoolkit (eq_ok_of_answer (hstep.answer hf)), houtcome]
    rfl
  | packFailed hstep hready houtcome =>
    have htoolkit := (hf.walk hstep.walk).toolkit _ hready
    unfold reportOf
    rw [packOf_of_grammar htoolkit (eq_ok_of_answer (hstep.answer hf)), houtcome]
    rfl

theorem RequestStep.answer {content : Text} {r : Except Fault Outcome} (hf : Faithful w s)
    (h : RequestStep w s content lang r s' t) :
    r = (outcomeOf w s.config content lang).mapError .outside := by
  cases h with
  | noToolkit hstep =>
    have htoolkit := hf.no_toolkit_behind hstep
    unfold outcomeOf
    rw [grammarOf_of_noToolkit htoolkit, htoolkit]
    rfl
  | noGrammar htoolkit hstep =>
    obtain ⟨toolkit, hready⟩ := htoolkit.ready
    unfold outcomeOf
    rw [eq_ok_of_answer (hstep.answer hf), hf.toolkit_behind htoolkit hready]
    rfl
  | grammarFailed hstep =>
    obtain ⟨failure, rfl, hfails⟩ := eq_error_of_answer (hstep.answer hf)
    unfold outcomeOf
    rw [hfails]
    rfl
  | noQueries hstep hpack =>
    have hqueries := eq_ok_of_answer (hpack.answer (hf.walk hstep.walk))
    rw [hstep.frame.1] at hqueries
    unfold outcomeOf
    rw [eq_ok_of_answer (hstep.answer hf), hqueries]
    rfl
  | packFailed hstep hpack =>
    obtain ⟨failure, rfl, hqueries⟩ := eq_error_of_answer (hpack.answer (hf.walk hstep.walk))
    rw [hstep.frame.1] at hqueries
    unfold outcomeOf
    rw [eq_ok_of_answer (hstep.answer hf), hqueries]
    rfl
  | @assessed grammar queries _ _ _ _ hstep hpack hsome _ =>
    have hqueries := eq_ok_of_answer (hpack.answer (hf.walk hstep.walk))
    rw [hstep.frame.1] at hqueries
    unfold outcomeOf
    rw [eq_ok_of_answer (hstep.answer hf), hqueries]
    cases queries with
    | nil => exact absurd rfl hsome
    | cons query queries => rfl

/-! ## Determined answers -/

/-- **`Current w config s`** — a state that an engine with these settings may be in, in a world that
has always been `w`. -/
structure Current (w : World) (config : EngineConfig) (s : State) : Prop where
  config : s.config = config
  sound : Sound s
  faithful : Faithful w s

theorem Current.fresh (w : World) (config : EngineConfig) : Current w config { config } :=
  ⟨rfl, .fresh config, .fresh w config⟩

theorem Current.walk (hs : Current w config s) (h : Walk w s s' t) : Current w config s' :=
  ⟨h.config.trans hs.config, hs.sound.walk h, hs.faithful.walk h⟩

namespace Action

variable {α β : Type}

/-- **`act.Determined w config`** — whatever is remembered, the answer of `act` in the world `w` is
the same, and what is remembered then is again what the world would say. -/
def Determined (act : Action α) (w : World) (config : EngineConfig) : Prop :=
  ∃ answer, ∀ s, Current w config s →
    act.Ends w s fun r s' _ => r = answer ∧ Current w config s'

theorem Determined.of_ends {act : Action α}
    {P : State → Except Fault α → State → Trace → Prop} (answer : Except Fault α)
    (hends : ∀ s, Current w config s → act.Ends w s (P s))
    (hwalk : ∀ {s r s' t}, P s r s' t → Walk w s s' t)
    (hanswer : ∀ {s r s' t}, Current w config s → P s r s' t → r = answer) :
    act.Determined w config :=
  ⟨answer, fun s hs => (hends s hs).mono fun _ _ _ h => ⟨hanswer hs h, hs.walk (hwalk h)⟩⟩

theorem Determined.bind {act : Action α} {next : α → Action β} (hact : act.Determined w config)
    (hnext : ∀ a, (next a).Determined w config) : (act >>= next).Determined w config := by
  obtain ⟨answer, hact⟩ := hact
  -- the first part has one answer, so the second is always the same operation
  cases answer with
  | error e =>
    refine ⟨.error e, fun s hs => (hact s hs).bind ?_ ?_⟩
    · rintro _ s' t ⟨⟨⟩, hs'⟩
      exact ⟨rfl, hs'⟩
    · rintro _ _ _ ⟨⟨⟩, _⟩
  | ok a =>
    obtain ⟨answer, hnext⟩ := hnext a
    refine ⟨answer, fun s hs => (hact s hs).bind ?_ ?_⟩
    · rintro _ _ _ ⟨⟨⟩, _⟩
    · rintro _ s' t ⟨⟨⟩, hs'⟩
      exact hnext s' hs'

theorem Determined.composable : Composable fun _ act => act.Determined w config where
  pure a := ⟨.ok a, fun _ hs => Ends.pure ⟨rfl, hs⟩⟩
  bind := Determined.bind
  refused e := ⟨.error (.language e), fun _ hs => Ends.fail ⟨rfl, hs⟩⟩
  said _ a := ⟨.ok a, fun _ hs => Ends.otherLog_bind (by decide) (Ends.pure ⟨rfl, hs⟩)⟩
  ensureRuntime :=
    .of_ends _ (fun _ _ => ensureRuntime_ends) ToolkitStep.walk fun hs h => h.answer hs.faithful
  loadGrammar _ :=
    .of_ends _ (fun _ _ => loadGrammar_ends) GrammarStep.walk fun hs h =>
      hs.config ▸ h.answer hs.faithful
  queryFiles lang := by
    refine ⟨.ok (.files (queryFiles w.files config.queries lang)), fun s hs => ?_⟩
    refine Ends.state_bind (Ends.files_bind (Ends.pure ⟨?_, hs⟩))
    rw [hs.config]
  getQueries _ :=
    .of_ends _ (fun _ hs => getQueries_ends hs.sound) QueriesStep.walk fun hs h =>
      hs.config ▸ h.answer hs.faithful
  validate _ :=
    .of_ends _ (fun _ hs => validate_ends hs.sound) ValidateStep.walk fun hs h =>
      hs.config ▸ h.answer hs.faithful
  scanRequest content _ :=
    .of_ends _ (fun _ hs => scanRequest_ends hs.sound content) RequestStep.walk fun hs h =>
      hs.config ▸ h.answer hs.faithful

end Action

/-- **`Question.determined`** — in a world that stays the same, every question has one answer. -/
theorem Question.determined (question : Question) : question.ask.Determined w config :=
  Determined.composable.ask question

/-! ## Histories in one world -/

/-- Every operation keeps what is remembered true, also one that ends in an error. -/
theorem Current.run (hs : Current w config s) (operation : Operation) :
    Current w config (operation.run w s).2.1 := by
  cases operation with
  | ask question =>
    obtain ⟨t, hwalk⟩ := question.walk (w := w) hs.sound
    exact hs.walk hwalk
  -- a reset of one part leaves the others, and these remain true without it
  | isLoaded lang => exact hs
  | reset => exact ⟨hs.config, hs.sound.run w .reset, { Faithful.fresh w s.config with }⟩
  | resetLoader => exact ⟨hs.config, hs.sound.resetLoader, hs.faithful.resetLoader⟩
  | resetQueries =>
    refine ⟨hs.config, hs.sound.run w .resetQueries, { hs.faithful with queries := ?_ }⟩
    rintro _ _ ⟨⟩

theorem Current.after (hs : Current w config s) (history : List Operation) :
    Current w config (s.after (history.map (Call.mk w))) := by
  induction history generalizing s with
  | nil => exact hs
  | cons operation rest ih => exact ih (hs.run operation)

/-- **`caching_is_transparent`** — in a world that stays the same, an engine answers every question
as a fresh one does, whatever was asked of it and reset before; and a matcher it has built is the
toolkit that would be imported now. -/
theorem caching_is_transparent (w : World) (config : EngineConfig) (history : List Operation)
    (question : Question) :
    let s := ({ config } : State).after (history.map (Call.mk w))
    (question.ask w s).1 = (question.ask w { config }).1 ∧
      ∀ matcher, s.matcher = some matcher → w.importModule toolkitModule = .ok matcher := by
  intro s
  have hs : Current w config s := (Current.fresh w config).after history
  obtain ⟨answer, hanswer⟩ : question.ask.Determined w config := question.determined
  refine ⟨?same, fun matcher hmatcher => ?_⟩
  case same => rw [(hanswer s hs).1, (hanswer { config } (.fresh w config)).1]
  exact (attemptToolkit_eq_some_iff.mp (hs.faithful.matcher matcher hmatcher)).1

end HookAudit.Engine
