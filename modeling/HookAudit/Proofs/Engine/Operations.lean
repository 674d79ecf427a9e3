/-
# HookAudit.Proofs.Engine.Operations — what can be asked of an engine, and in which order.

A `Question` is anything an engine, its loader, its queries or a scanner around it answers; an
`Operation` is a question, a look at what is loaded, or a reset.  A history is a list of calls, each
in a world of its own, so that between two calls modules may come and go and files may change.

Questions are made of a few operations.  What holds of these and passes from parts to what is made
of them (`Composable`) holds of every question, which is shown once (`Composable.ask`).  So every
question is answered by a walk, and of errors only by a failure from outside or a refused language
(`Question.walks`), and an engine stays sound through every history (`Sound.after`).
-/
import HookAudit.Proofs.Engine.Requests
import HookAudit.Scanner.Hook

namespace HookAudit.Engine

open Action

variable {w : World} {s s' : State} {lang : Language} {t : Trace}

/-! ## Operations -/

/-- A question to an engine, or to a scanner around it. -/
inductive Question where
  | ensureRuntime
  | loadGrammar (lang : Language)
  | availableLanguages
  | availability
  | queryFiles (lang : Language)
  | getQueries (lang : Language)
  | validate (lang : Language)
  | scan (content : Text) (requested : Option LanguageName) (filename : Option Text)
  | scanRequest (content : Text) (lang : Option Language)
  | scanHook (config : ScannerConfig) (content : Text) (filename : Option Text)
      (requested : Option LanguageName)

/-- What an operation answers. -/
inductive Reply where
  | done
  | flag (value : Bool)
  | grammar (grammar : Option GrammarRef)
  | languages (languages : List Language)
  | availability (availability : Availability)
  | files (files : List QueryFile)
  | queries (queries : List NamedQuery)
  | report (report : PackReport)
  | outcome (outcome : Outcome)
  | assessment (assessment : Assessment)

/-- Puts a question. -/
def Question.ask : Question → Action Reply
  | .ensureRuntime => return .flag (← Engine.ensureRuntime)
  | .loadGrammar lang => return .grammar (← Engine.loadGrammar lang)
  | .availableLanguages => return .languages (← Engine.availableLanguages)
  | .availability => return .availability (← Engine.availability)
  | .queryFiles lang => do
    let s ← state
    return .files (Engine.queryFiles (← files) s.config.queries lang)
  | .getQueries lang => return .queries (← Engine.getQueries lang)
  | .validate lang => return .report (← Engine.validate lang)
  | .scan content requested filename => return .outcome (← Engine.scan content requested filename)
  | .scanRequest content lang => return .outcome (← Engine.scanRequest content lang)
  | .scanHook config content filename requested =>
    return .assessment (← Scanner.scanHook config Engine.scan content filename requested)

/-- Something to do with an engine. -/
inductive Operation where
  | ask (question : Question)
  | isLoaded (lang : Language)
  | reset
  | resetLoader
  | resetQueries

/-- Does it. -/
def Operation.run : Operation → Action Reply
  | .ask question => question.ask
  | .isLoaded lang => return .flag (← Engine.isLoaded lang)
  | .reset => do
    Engine.reset
    return .done
  | .resetLoader => do
    Engine.resetLoader
    return .done
  | .resetQueries => do
    Engine.resetQueries
    return .done

/-- Whether an operation makes an engine forget. -/
def Operation.Forgets : Operation → Prop
  | .ask _ | .isLoaded _ => False
  | .reset | .resetLoader | .resetQueries => True

/-- An operation in the world of its time. -/
structure Call where
  world : World
  operation : Operation

/-- The state behind a history, whatever came of its calls. -/
def State.after (s : State) : List Call → State
  | [] => s
  | call :: rest => (call.operation.run call.world s).2.1.after rest

/-! ## What questions are made of -/

/-- **`Composable P`** — the property `P` holds of the operations that questions are made of, and
passes from parts to what is made of them. -/
structure Composable (P : (α : Type) → Action α → Prop) : Prop where
  pure {α : Type} (a : α) : P α (Pure.pure a)
  bind {α β : Type} {act : Action α} {next : α → Action β} (hact : P α act)
    (hnext : ∀ a, P β (next a)) : P β (act >>= next)
  /-- A language may be refused. -/
  refused {α : Type} (e : LanguageError) : P α (fail (.language e))
  /-- A scanner may have something to say. -/
  said {α : Type} (message : Text) (a : α) :
    P α (log .info Scanner.scannerSource message >>= fun _ => Pure.pure a)
  ensureRuntime : P Bool Engine.ensureRuntime
  loadGrammar (lang : Language) : P _ (Engine.loadGrammar lang)
  queryFiles (lang : Language) : P Reply (Question.queryFiles lang).ask
  getQueries (lang : Language) : P _ (Engine.getQueries lang)
  validate (lang : Language) : P _ (Engine.validate lang)
  scanRequest (content : Text) (lang : Language) : P _ (Engine.scanRequest content (some lang))

namespace Composable

variable {P : (α : Type) → Action α → Prop} {α β : Type}

theorem returning (h : Composable P) {act : Action α} (hact : P α act) (f : α → β) :
    P β (act >>= fun a => Pure.pure (f a)) :=
  h.bind hact fun a => h.pure (f a)

theorem select (h : Composable P) {test : α → Action Bool} (htest : ∀ a, P Bool (test a))
    (xs : List α) : P _ (Action.select test xs) := by
  induction xs with
  | nil => exact h.pure []
  | cons x xs ih => exact h.bind (htest x) fun keep => h.returning ih _

theorem each (h : Composable P) {act : α → Action β} (hact : ∀ a, P β (act a)) (xs : List α) :
    P _ (Action.each act xs) := by
  induction xs with
  | nil => exact h.pure []
  | cons x xs ih => exact h.bind (hact x) fun b => h.returning ih _

theorem availableLanguages (h : Composable P) : P _ Engine.availableLanguages :=
  h.select (fun lang => h.returning (h.loadGrammar lang) _) Language.all

theorem availability (h : Composable P) : P _ Engine.availability := by
  refine h.bind h.ensureRuntime fun isThere => ?_
  cases isThere with
  | false => exact h.pure _
  | true =>
    refine h.bind (h.select (fun lang => ?_) Language.all) fun usable => ?_
    · refine h.bind (h.loadGrammar lang) fun grammar? => ?_
      cases grammar? with
      | none => exact h.pure false
      | some grammar => exact h.returning (h.getQueries lang) _
    · cases usable <;> exact h.pure _

theorem scan (h : Composable P) (content : Text) (requested : Option LanguageName)
    (filename : Option Text) : P _ (Engine.scan content requested filename) := by
  unfold Engine.scan
  cases languageOf content requested filename with
  | error e => exact h.refused e
  | ok lang? =>
    cases lang? with
    | none => exact h.pure _
    | some lang => exact h.scanRequest content lang

theorem assess (h : Composable P) (config : ScannerConfig) (content : Text)
    (filename : Option Text) (requested : Option LanguageName) :
    P _ (Scanner.assess config Engine.scan content filename requested) := by
  unfold Scanner.assess
  dsimp only
  split
  -- too large a hook is not given to the engine
  · exact h.said _ _
  · refine h.bind (h.scan content requested filename) fun outcome => ?_
    cases outcome <;> exact h.pure _

theorem scanHook (h : Composable P) (config : ScannerConfig) (content : Text)
    (filename : Option Text) (requested : Option LanguageName) :
    P _ (Scanner.scanHook config Engine.scan content filename requested) :=
  h.returning (h.assess config content filename requested) _

/-- **`Composable.ask`** — such a property holds of every question. -/
theorem ask (h : Composable P) (question : Question) : P _ question.ask := by
  cases question with
  | ensureRuntime => exact h.returning h.ensureRuntime _
  | loadGrammar lang => exact h.returning (h.loadGrammar lang) _
  | availableLanguages => exact h.returning h.availableLanguages _
  | availability => exact h.returning h.availability _
  | queryFiles lang => exact h.queryFiles lang
  | getQueries lang => exact h.returning (h.getQueries lang) _
  | validate lang => exact h.returning (h.validate lang) _
  | scan content requested filename => exact h.returning (h.scan content requested filename) _
  | scanRequest content lang =>
    cases lang with
    | none => exact h.pure _
    | some lang => exact h.returning (h.scanRequest content lang) _
  | scanHook config content filename requested =>
    exact h.returning (h.scanHook config content filename requested) _

end Composable

/-! ## Errors -/

/-- The errors in which a question can end: a failure from outside goes through, or a language is
refused. -/
def Fault.Expected : Fault → Prop
  | .outside _ | .language _ => True
  | _ => False

theorem ToolkitStep.outside {e : Fault} (h : ToolkitStep w s (.error e) s' t) :
    ∃ failure, e = .outside failure := by
  cases h
  exact ⟨_, rfl⟩

theorem GrammarStep.outside {e : Fault} (h : GrammarStep w s lang (.error e) s' t) :
    ∃ failure, e = .outside failure := by
  cases h with
  | toolkitFailed hopen hstep => exact hstep.outside
  | failed => exact ⟨_, rfl⟩

theorem PackStep.outside {e : Fault} (h : PackStep w s lang (.error e) s') :
    ∃ failure, e = .outside failure := by
  cases h
  exact ⟨_, rfl⟩

theorem QueriesStep.outside {e : Fault} (h : QueriesStep w s lang (.error e) s' t) :
    ∃ failure, e = .outside failure := by
  cases h with
  | grammarFailed hopen hstep => exact hstep.outside
  | packed hopen hstep hpack => exact hpack.outside

theorem ValidateStep.outside {e : Fault} (h : ValidateStep w s lang (.error e) s' t) :
    ∃ failure, e = .outside failure := by
  cases h with
  | grammarFailed hstep => exact hstep.outside
  | packFailed => exact ⟨_, rfl⟩

theorem RequestStep.outside {content : Text} {e : Fault}
    (h : RequestStep w s content lang (.error e) s' t) : ∃ failure, e = .outside failure := by
  cases h with
  | grammarFailed hstep => exact hstep.outside
  | packFailed hstep hpack => exact hpack.outside

/-! ## Every question is answered by a walk -/

namespace Action

variable {α β : Type}

/-- **`act.Walks`** — every run from a sound engine is a walk, and ends in no error but those to be
expected. -/
def Walks (act : Action α) : Prop :=
  ∀ w s, Sound s → act.Ends w s fun r s' t => Walk w s s' t ∧ ∀ e, r = .error e → e.Expected

theorem Walks.of_ends {act : Action α} {P : World → State → Except Fault α → State → Trace → Prop}
    (hends : ∀ w s, Sound s → act.Ends w s (P w s))
    (hwalk : ∀ {w s r s' t}, P w s r s' t → Walk w s s' t)
    (houtside : ∀ {w s e s' t}, P w s (.error e) s' t → ∃ failure, e = .outside failure) :
    act.Walks := by
  intro w s hs
  refine (hends w s hs).mono fun r s' t h => ⟨hwalk h, ?_⟩
  rintro e rfl
  obtain ⟨failure, rfl⟩ := houtside h
  exact trivial

theorem Walks.bind {act : Action α} {next : α → Action β} (hact : act.Walks)
    (hnext : ∀ a, (next a).Walks) : (act >>= next).Walks := by
  intro w s hs
  refine (hact w s hs).bind ?_ ?_
  · rintro e s' t ⟨hwalk, hfault⟩
    exact ⟨hwalk, by rintro _ ⟨⟩; exact hfault e rfl⟩
  · rintro a s₁ t₁ ⟨hwalk, _⟩
    refine (hnext a w s₁ (hs.walk hwalk)).mono ?_
    rintro r s₂ t₂ ⟨hrest, hfault⟩
    exact ⟨hwalk.trans hrest, hfault⟩

theorem Walks.composable : Composable fun _ act => act.Walks where
  pure _ := fun _ _ _ => Ends.pure ⟨.stay, nofun⟩
  bind := Walks.bind
  refused _ := fun _ _ _ => Ends.fail ⟨.stay, by rintro _ ⟨⟩; exact trivial⟩
  said _ _ := fun _ _ _ => Ends.otherLog_bind (by decide) (Ends.pure ⟨.stay, nofun⟩)
  ensureRuntime := .of_ends (fun _ _ _ => ensureRuntime_ends) ToolkitStep.walk ToolkitStep.outside
  loadGrammar _ := .of_ends (fun _ _ _ => loadGrammar_ends) GrammarStep.walk GrammarStep.outside
  queryFiles _ := fun _ _ _ => Ends.state_bind (Ends.files_bind (Ends.pure ⟨.stay, nofun⟩))
  getQueries _ :=
    .of_ends (fun _ _ hs => getQueries_ends hs) QueriesStep.walk QueriesStep.outside
  validate _ := .of_ends (fun _ _ hs => validate_ends hs) ValidateStep.walk ValidateStep.outside
  scanRequest content _ :=
    .of_ends (fun _ _ hs => scanRequest_ends hs content) RequestStep.walk RequestStep.outside

end Action

/-- **`Question.walks`** — whatever is asked of a sound engine, it takes a walk and meets no error
but those to be expected. -/
theorem Question.walks (question : Question) : question.ask.Walks :=
  Walks.composable.ask question

/-! ## Histories -/

/-- Asking leads along a walk. -/
theorem Question.walk (question : Question) (hs : Sound s) :
    ∃ t, Walk w s (question.ask w s).2.1 t :=
  ⟨_, (question.walks w s hs).1⟩

/-- An operation that forgets nothing leads along a walk. -/
theorem Operation.walk {operation : Operation} (hkeeps : ¬ operation.Forgets) (hs : Sound s) :
    ∃ t, Walk w s (operation.run w s).2.1 t := by
  cases operation with
  | ask question => exact question.walk hs
  | isLoaded lang => exact ⟨{}, .stay⟩
  | reset => exact absurd trivial hkeeps
  | resetLoader => exact absurd trivial hkeeps
  | resetQueries => exact absurd trivial hkeeps

/-- An engine whose loader has forgotten everything. -/
theorem Sound.resetLoader (hs : Sound s) : Sound { s with loader := {} } where
  complete := by rintro _ ⟨⟩
  apart := by rintro _ ⟨⟩
  ready := by rintro _ (⟨⟨⟩⟩ | ⟨⟨⟩⟩)
  matcher := hs.matcher

/-- Every operation keeps an engine sound, also one that ends in an error. -/
theorem Sound.run (hs : Sound s) (w : World) (operation : Operation) :
    Sound (operation.run w s).2.1 := by
  cases operation with
  | ask question =>
    obtain ⟨t, hwalk⟩ := question.walk (w := w) hs
    exact hs.walk hwalk
  | isLoaded lang => exact hs
  | reset => exact { hs.resetLoader with matcher := by rintro _ ⟨⟩ }
  | resetLoader => exact hs.resetLoader
  | resetQueries => exact { hs with }

/-- **`Sound.after`** — an engine stays sound through every history. -/
theorem Sound.after (hs : Sound s) (history : List Call) : Sound (s.after history) := by
  induction history generalizing s with
  | nil => exact hs
  | cons call rest ih => exact ih (hs.run call.world call.operation)

/-- No history changes a setting, not even one with resets. -/
theorem Sound.after_config (hs : Sound s) (history : List Call) :
    (s.after history).config = s.config := by
  induction history generalizing s with
  | nil => rfl
  | cons call rest ih =>
    have hrun : (call.operation.run call.world s).2.1.config = s.config := by
      cases hoperation : call.operation with
      | ask question =>
        obtain ⟨t, hwalk⟩ := question.walk (w := call.world) hs
        exact hwalk.config
      | isLoaded lang => rfl
      | reset => rfl
      | resetLoader => rfl
      | resetQueries => rfl
    exact (ih (hs.run call.world call.operation)).trans hrun

/-- What walks keep, a history that forgets nothing keeps. -/
theorem State.after_keeps {I : State → Prop} {history : List Call} (hs : Sound s)
    (hkeeps : ∀ call ∈ history, ¬ call.operation.Forgets)
    (hmove : ∀ {w s s' t}, Move w s s' t → I s → I s') (h : I s) : I (s.after history) := by
  induction history generalizing s with
  | nil => exact h
  | cons call rest ih =>
    -- each call walks in a world of its own, so the moves of all worlds have to keep the invariant
    obtain ⟨hfirst, hrest⟩ := List.forall_mem_cons.mp hkeeps
    obtain ⟨t, hwalk⟩ := Operation.walk (w := call.world) hfirst hs
    exact ih (hs.run call.world call.operation) hrest (hwalk.keeps hmove h)

end HookAudit.Engine
