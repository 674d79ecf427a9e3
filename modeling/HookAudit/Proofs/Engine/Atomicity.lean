/-
# HookAudit.Proofs.Engine.Atomicity — a failure that goes through leaves no mark.

When the world fails at a stage of loading by more than an absence, the failure goes through to
whoever asked, and what it is about stays as it was.  So the next question that needs the stage
tries it again, also where absences are final (`failures_leave_no_mark`).  `Question.Needs` tells
how far a question makes an engine load, which depends on what is remembered: queries that are
remembered are handed out without a look at anything else.
-/
import HookAudit.Engine.Rehearsal
import HookAudit.Proofs.Engine.Mishaps
import HookAudit.Proofs.Engine.Operations
import HookAudit.Proofs.Scanner.Hook

namespace HookAudit.Engine

open Action

variable {w : World} {s s' : State} {lang : Language} {failure : Failure}

/-! ## What a question needs -/

/-- Whether a question is about one language, and which. -/
def Question.For (lang : Language) : Question → Prop
  | .loadGrammar l | .getQueries l | .validate l => l = lang
  | .scan content requested filename => languageOf content requested filename = .ok (some lang)
  | .scanRequest _ l => l = some lang
  | _ => False

/-- Whether a question about one language makes an engine load its grammar; for queries that are
remembered there is no need to. -/
def Question.Loads (s : State) (lang : Language) (question : Question) : Prop :=
  question.For lang ∧ (question = .getQueries lang → s.queries.lookup lang = none)

/-- Whether a question that makes an engine load a grammar makes it look at the query files too. -/
def Question.Compiles (s : State) (lang : Language) : Question → Prop
  | .validate _ => True
  | .getQueries _ | .scan _ _ _ | .scanRequest _ _ => s.queries.lookup lang = none
  | _ => False

/-- **`question.Needs s lang stage`** — the question makes an engine in the state `s` load a
language as far as `stage`; the toolkit is the same for all. -/
def Question.Needs (s : State) (lang : Language) (question : Question) : Stage → Prop
  | .toolkit => question = .ensureRuntime ∨ ∃ other, question.Loads s other
  | .grammar => question.Loads s lang
  | .queries => question.Loads s lang ∧ question.Compiles s lang

/-- **`question.Retries w s lang stage`** — in the world `w` the question makes an engine in the
state `s` try this stage: it imports the module, or fails just when the query files do. -/
def Question.Retries (w : World) (s : State) (lang : Language) (question : Question) : Stage → Prop
  | .toolkit => toolkitModule ∈ (question.ask w s).2.2.imports
  | .grammar => ∃ module factory, (grammarTable s.config).lookup lang = some (module, factory) ∧
      module ∈ (question.ask w s).2.2.imports
  | .queries => ∃ toolkit grammar, s.loader.runtime = .ready toolkit ∧
      s.loader.loaded.lookup lang = some grammar ∧
      ∀ failure, (question.ask w s).1 = .error (.outside failure) ↔
        PackFails w s.config toolkit grammar lang failure

theorem fault?_eq_some_iff {α : Type} {r : Except Fault α} {e : Fault} :
    fault? r = some e ↔ r = .error e := by
  cases r <;> simp [fault?]

/-- What is said of the error of a run holds as well when something is made of its answer. -/
theorem Ends.fault_of {α β : Type} {act : Action α} {P : Option Fault → State → Trace → Prop}
    (f : α → β) (hact : act.Ends w s fun r => P (fault? r)) :
    (act >>= fun a => Pure.pure (f a)).Ends w s fun r => P (fault? r) := by
  refine Ends.returning f hact fun r s' t h => ?_
  rw [fault?_map]
  exact h

theorem Question.ensureRuntime_ends :
    Question.ensureRuntime.ask.Ends w s fun r s' t =>
      ∃ r₀, ToolkitStep w s r₀ s' t ∧ fault? r₀ = fault? r :=
  Ends.fault_of (P := fun e? s' t => ∃ r₀, ToolkitStep w s r₀ s' t ∧ fault? r₀ = e?) _
    (Engine.ensureRuntime_ends.mono fun r _ _ h => ⟨r, h, rfl⟩)

/-- Queries that are remembered are handed out. -/
theorem Question.getQueries_ends {queries : List NamedQuery} (hs : Sound s)
    (hcompiled : s.queries.lookup lang = some queries) :
    (Question.getQueries lang).ask.Ends w s fun r _ _ => fault? r = none := by
  refine Ends.fault_of (P := fun e? _ _ => e? = none) _
    ((Engine.getQueries_ends hs).mono fun r s' t h => ?_)
  cases h with
  | there => rfl
  | noGrammar hopen => simp [hcompiled] at hopen
  | grammarFailed hopen => simp [hcompiled] at hopen
  | packed hopen => simp [hcompiled] at hopen

/-- All questions that load a language load it in the same way. -/
theorem Question.ask_ends {question : Question} (hs : Sound s) (hloads : question.Loads s lang) :
    question.ask.Ends w s fun r =>
      LanguageStep w s lang (question.Compiles s lang) (fault? r) := by
  obtain ⟨hfor, hopen⟩ := hloads
  cases question with
  | loadGrammar l =>
    obtain rfl := hfor
    exact Ends.fault_of _ (loadGrammar_ends.mono fun _ _ _ h => h.languageStep)
  | getQueries l =>
    obtain rfl := hfor
    exact Ends.fault_of _
      ((Engine.getQueries_ends hs).mono fun _ _ _ h => h.languageStep (hopen rfl))
  | validate l =>
    obtain rfl := hfor
    exact Ends.fault_of _ ((validate_ends hs).mono fun _ _ _ h => h.languageStep)
  | scan content requested filename =>
    have hscan :
        (Engine.scan content requested filename).Ends w s (RequestStep w s content lang) := by
      rw [scan_eq_scanRequest hfor]
      exact scanRequest_ends hs content
    exact Ends.fault_of _ (hscan.mono fun _ _ _ h => h.languageStep hs)
  | scanRequest content l =>
    obtain rfl := hfor
    exact Ends.fault_of _ ((scanRequest_ends hs content).mono fun _ _ _ h => h.languageStep hs)
  | _ => exact hfor.elim

/-- A question ends in the mishap that it meets. -/
theorem Question.of_mishap {question : Question} {stage : Stage} (hs : Sound s)
    (hneeds : question.Needs s lang stage) (hmishap : Mishap w s lang stage failure) :
    (question.ask w s).1 = .error (.outside failure) ∧
      Untouched s lang stage (question.ask w s).2.1 := by
  rw [← fault?_eq_some_iff]
  have hloads : ∀ {other}, question.Loads s other → Mishap w s other stage failure →
      (stage = .queries → question.Compiles s other) →
      fault? (question.ask w s).1 = some (.outside failure) ∧
        Untouched s other stage (question.ask w s).2.1 := by
    intro other hloads hmishap hgoes
    exact (question.ask_ends hs hloads).of_mishap hs hmishap hgoes
  cases hmishap with
  | toolkit hopen hraised hunexpected =>
    rcases hneeds with rfl | ⟨other, hneeds⟩
    · obtain ⟨r, hstep, hfault⟩ := Question.ensureRuntime_ends (w := w) (s := s)
      obtain ⟨rfl, hsame⟩ :=
        hstep.of_fails hopen (attemptToolkit_eq_error_iff.mpr ⟨hraised, hunexpected⟩)
      exact ⟨hfault.symm, hsame⟩
    · have hother := hloads hneeds (.toolkit hopen hraised hunexpected) nofun
      exact hother
  | grammar hfinds hopen hfails => exact hloads hneeds (.grammar hfinds hopen hfails) nofun
  | queries hfinds hopens hfails =>
    exact hloads hneeds.1 (.queries hfinds hopens hfails) fun _ => hneeds.2

/-- Behind a mishap that left its stage untouched, a question that needs the stage tries it. -/
theorem Question.retries {question : Question} {stage : Stage} (w' : World) (hs' : Sound s')
    (hmishap : Mishap w s lang stage failure) (huntouched : Untouched s lang stage s')
    (hneeds : question.Needs s' lang stage) : question.Retries w' s' lang stage := by
  cases hmishap with
  | toolkit hopen =>
    obtain rfl := huntouched
    rcases hneeds with rfl | ⟨other, hneeds⟩
    · obtain ⟨r, hstep, _⟩ := Question.ensureRuntime_ends (w := w') (s := s')
      have himported := hstep.imports_of_open hopen
      exact himported
    · obtain ⟨r, s₁, hstep⟩ := (question.ask_ends (w := w') hs' hneeds).grammarStep
      have himported := hstep.imports_of_toolkitOpen hs' hopen
      exact himported
  | grammar hfinds hopen hfails =>
    obtain ⟨toolkit, hreaches⟩ := huntouched
    obtain ⟨hconfig, hloaded, hmissing, -⟩ := hreaches.frame
    have hopen' : s'.GrammarOpen lang := ⟨hloaded ▸ hopen.1, hconfig ▸ hmissing ▸ hopen.2⟩
    obtain ⟨r, s₁, hstep⟩ := (question.ask_ends (w := w') hs' hneeds).grammarStep
    have himports := hstep.imports_of_open hreaches.ready hopen'
    -- a grammar that no module is configured for fails in no way that goes through
    obtain ⟨module, factory, hconfigured⟩ :
        ∃ module factory, (grammarTable s'.config).lookup lang = some (module, factory) := by
      rw [hconfig]
      cases hfails with
      | importing hconfigured => exact ⟨_, _, hconfigured⟩
      | opening hconfigured => exact ⟨_, _, hconfigured⟩
    refine ⟨module, factory, hconfigured, ?_⟩
    show module ∈ (question.ask w' s').2.2.loading.imports
    rw [himports, grammarImports, hconfigured]
    exact List.mem_singleton_self _
  | queries hfinds hopens hfails =>
    obtain ⟨toolkit, grammar, hreaches⟩ := huntouched
    refine ⟨toolkit, grammar, hreaches.ready, hreaches.loaded, fun failure => ?_⟩
    rw [← fault?_eq_some_iff]
    exact (question.ask_ends (w := w') hs' hneeds.1).fails_iff hs' hreaches.ready hreaches.loaded
      hneeds.2

/-- A failure in which a question about one language ends is a mishap at a stage it needs. -/
theorem Question.mishap {question : Question} (hs : Sound s)
    (hsingle : question = .ensureRuntime ∨ question.For lang)
    (h : (question.ask w s).1 = .error (.outside failure)) :
    ∃ stage, question.Needs s lang stage ∧ Mishap w s lang stage failure := by
  rw [← fault?_eq_some_iff] at h
  rcases hsingle with rfl | hfor
  · obtain ⟨r, hstep, hfault⟩ := Question.ensureRuntime_ends (w := w) (s := s)
    rw [h] at hfault
    obtain rfl := fault?_eq_some_iff.mp hfault
    exact ⟨.toolkit, .inl rfl, hstep.mishap⟩
  · by_cases hopen : question = .getQueries lang → s.queries.lookup lang = none
    · have hloads : question.Loads s lang := ⟨hfor, hopen⟩
      have hstep : LanguageStep w s lang _ (fault? (question.ask w s).1) _ _ :=
        question.ask_ends hs hloads
      rw [h] at hstep
      obtain ⟨stage, hgoes, hmishap⟩ := hstep.mishap
      refine ⟨stage, ?_, hmishap⟩
      cases stage with
      | toolkit => exact .inr ⟨lang, hloads⟩
      | grammar => exact hloads
      | queries => exact ⟨hloads, hgoes rfl⟩
    · -- only queries that are remembered are had without loading, and they are had without error
      obtain ⟨rfl, hremembered⟩ := Classical.not_imp.mp hopen
      obtain ⟨queries, hcompiled⟩ := Option.ne_none_iff_exists'.mp hremembered
      have hnone : fault? ((Question.getQueries lang).ask w s).1 = none :=
        Question.getQueries_ends hs hcompiled
      rw [h] at hnone
      cases hnone

/-- **`failures_leave_no_mark`** — take an engine with any past and put to it a question.  If the
world fails at a stage of loading that the question needs, by more than an absence, the question
ends in this failure, nothing has changed but that earlier stages were reached, and the next
question that needs the stage tries it again, in whatever world it is put.  No other failure comes
through: one in which a question about one language ends is of this kind. -/
theorem failures_leave_no_mark (config : EngineConfig) (history : List Call) (w : World)
    (question : Question) (lang : Language) :
    let s := ({ config } : State).after history
    let s' := (question.ask w s).2.1
    (∀ stage failure, question.Needs s lang stage → Mishap w s lang stage failure →
      (question.ask w s).1 = .error (.outside failure) ∧ Untouched s lang stage s' ∧
        ∀ (w' : World) (next : Question), next.Needs s' lang stage →
          next.Retries w' s' lang stage) ∧
    ∀ failure, question = .ensureRuntime ∨ question.For lang →
      (question.ask w s).1 = .error (.outside failure) →
        ∃ stage, question.Needs s lang stage ∧ Mishap w s lang stage failure := by
  intro s s'
  have hs : Sound s := (Sound.fresh config).after history
  have hs' : Sound s' := hs.run w (.ask question)
  refine ⟨?propagated, fun failure => Question.mishap hs⟩
  intro stage failure hneeds hmishap
  obtain ⟨hanswer, huntouched⟩ := Question.of_mishap hs hneeds hmishap
  exact ⟨hanswer, huntouched, fun w' next => Question.retries w' hs' hmishap huntouched⟩

/-- What a module that breaks off while it is loaded has to say. -/
def breakdown : Failure := ⟨.other "RuntimeError", "boom"⟩

/-- A world in which the module of the shell grammar breaks off. -/
def troubledWorld : World :=
  rehearsal [(toolkitModule, .ok (standIn [])), ("tree_sitter_bash", .error breakdown)] {} []

/-- The failure of a grammar module comes through, and the module is imported again the next time,
although absences are final. -/
theorem broken_grammar_is_tried_again :
    ((Question.loadGrammar .bash).ask troubledWorld { config := {} }).1 =
      .error (.outside breakdown) ∧
    (Question.validate .bash).Retries troubledWorld
      ((Question.loadGrammar .bash).ask troubledWorld { config := {} }).2.1 .bash .grammar := by
  have hmishap : Mishap troubledWorld { config := {} } .bash .grammar breakdown :=
    .grammar (.imported trivial rfl (by decide)) ⟨rfl, nofun⟩ (.importing rfl rfl (by decide))
  obtain ⟨hanswer, _, hretries⟩ :=
    (failures_leave_no_mark {} [] troubledWorld (.loadGrammar .bash) .bash).1 .grammar breakdown
      ⟨rfl, nofun⟩ hmishap
  exact ⟨hanswer, hretries troubledWorld (.validate .bash) ⟨rfl, nofun⟩⟩

end HookAudit.Engine
