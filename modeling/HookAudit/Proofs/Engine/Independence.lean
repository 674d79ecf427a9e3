/-
# HookAudit.Proofs.Engine.Independence — languages are independent.

Loading a grammar is a function of the toolkit and of one row.  Of the toolkit it takes what looking
for it comes to (`ToolkitHolding.look`), of the row whether the grammar is loaded or given up
(`Holding.load`), and `GrammarStep.load` shows that the engine does just so.  The row stays while
other languages are loaded, and looking for the toolkit twice comes to the same
(`ToolkitHolding.look_look`), so nothing is left of the order in which two languages are loaded.
-/
import HookAudit.Proofs.Engine.Holdings
import HookAudit.Proofs.Engine.Stability

namespace HookAudit.Engine

variable {w : World} {s s' : State} {lang A B : Language} {t : Trace}

/-! ## Loading as a function -/

namespace ToolkitHolding

/-- What an attempt at the toolkit comes to, and what is held about the toolkit then. -/
def attempt (w : World) (held : ToolkitHolding) : Except Fault (Option Module) × ToolkitHolding :=
  match attemptToolkit w with
  | .ok (some toolkit) => (.ok (some toolkit), { held with runtime := .ready toolkit })
  | .ok none => (.ok none, ⟨.unavailable, true⟩)
  | .error failure => (.error (.outside failure), held)

/-- What looking for the toolkit comes to, by what is held about it. -/
def look (w : World) (config : EngineConfig) (held : ToolkitHolding) :
    Except Fault (Option Module) × ToolkitHolding :=
  match held.runtime with
  | .ready toolkit => (.ok (some toolkit), held)
  | .unavailable => if config.retryUnavailable then held.attempt w else (.ok none, held)
  | .uninitialized => held.attempt w

/-- **`look_look`** — looking for the toolkit once more comes to the same. -/
theorem look_look (w : World) (config : EngineConfig) (held : ToolkitHolding) :
    (held.look w config).2.look w config = held.look w config := by
  have hattempt : look w config held = held.attempt w →
      (held.attempt w).2.look w config = held.attempt w := by
    intro hlook
    cases houtcome : attemptToolkit w with
    | error failure =>
      -- a failure leaves no mark, so the second look is the first
      have hsame : (held.attempt w).2 = held := by simp [attempt, houtcome]
      rw [hsame, hlook]
    | ok toolkit? =>
      cases toolkit? with
      | some toolkit => simp [attempt, look, houtcome]
      | none => simp [attempt, look, houtcome]
  cases hruntime : held.runtime with
  | ready toolkit => simp [look, hruntime]
  | uninitialized =>
    have hlook : look w config held = held.attempt w := by simp [look, hruntime]
    rw [hlook, hattempt hlook]
  | unavailable =>
    by_cases hretry : config.retryUnavailable = true
    · have hlook : look w config held = held.attempt w := by simp [look, hruntime, hretry]
      rw [hlook, hattempt hlook]
    · simp [look, hruntime, hretry]

end ToolkitHolding

theorem State.look_of_open (hopen : s.ToolkitOpen) :
    s.toolkitHolding.look w s.config = s.toolkitHolding.attempt w := by
  unfold State.ToolkitOpen at hopen
  unfold ToolkitHolding.look
  cases hruntime : s.loader.runtime with
  | ready toolkit => simp [hruntime] at hopen
  | uninitialized => simp [State.toolkitHolding, hruntime]
  | unavailable =>
    have hretry : s.config.retryUnavailable = true := by simpa [hruntime] using hopen
    simp [State.toolkitHolding, hruntime, hretry]

/-- **`ToolkitStep.look`** — the engine looks for the toolkit just so. -/
theorem ToolkitStep.look {r : Except Fault Bool} (h : ToolkitStep w s r s' t) :
    s.toolkitHolding.look w s.config =
      (r.map fun _ => s'.loader.toolkit?, s'.toolkitHolding) := by
  cases h with
  | there hready =>
    rw [State.toolkit?_of_ready hready]
    simp [ToolkitHolding.look, State.toolkitHolding, hready, Except.map]
  | givenUp hunavailable hfinal =>
    simp [ToolkitHolding.look, State.toolkitHolding, Loader.toolkit?, hunavailable, hfinal,
      Except.map]
  | found hopen houtcome =>
    rw [State.look_of_open hopen, ToolkitHolding.attempt, houtcome]
    rfl
  | absent message hopen houtcome =>
    rw [State.look_of_open hopen, ToolkitHolding.attempt, houtcome,
      State.toolkitHolding_withoutToolkit]
    rfl
  | failed hopen houtcome =>
    rw [State.look_of_open hopen, ToolkitHolding.attempt, houtcome]
    rfl

/-- Looking for the toolkit changes nothing about any language. -/
theorem ToolkitStep.holding {r : Except Fault Bool} (h : ToolkitStep w s r s' t) :
    s'.holding lang = s.holding lang := by
  cases h <;> simp

namespace Holding

variable {config : EngineConfig} {held : Holding} {found : Except Fault (Option Module)}

/-- Whether a language has a grammar is to be found out. -/
def isOpen (config : EngineConfig) (held : Holding) : Bool :=
  held.grammar.isNone && (!held.missing || config.retryUnavailable)

/-- What an attempt at the grammar of a language comes to, and what is held about the language
then. -/
def attempt (w : World) (config : EngineConfig) (lang : Language) (toolkit : Module)
    (held : Holding) : Except Fault (Option GrammarRef) × Holding :=
  match attemptGrammar w config toolkit lang with
  | .ok (some grammar) =>
    (.ok (some grammar), { held with grammar := some grammar, missing := false })
  | .ok none => (.ok none, { held with missing := true, warned := true })
  | .error failure => (.error (.outside failure), held)

/-- What looking for a grammar comes to behind looking for the toolkit. -/
def behind (w : World) (config : EngineConfig) (lang : Language)
    (found : Except Fault (Option Module)) (held : Holding) :
    Except Fault (Option GrammarRef) × Holding :=
  match found with
  | .error e => (.error e, held)
  | .ok none => (.ok none, held)
  | .ok (some toolkit) => held.attempt w config lang toolkit

/-- What loading the grammar of a language comes to, by what is held about the language and what
looking for the toolkit comes to. -/
def load (w : World) (config : EngineConfig) (lang : Language)
    (found : Except Fault (Option Module)) (held : Holding) :
    Except Fault (Option GrammarRef) × Holding :=
  if held.isOpen config then held.behind w config lang found else (.ok held.grammar, held)

theorem load_of_closed (h : held.isOpen config = false) :
    held.load w config lang found = (.ok held.grammar, held) := by
  simp [load, h]

theorem load_of_open (h : held.isOpen config = true) :
    held.load w config lang found = held.behind w config lang found := by
  simp [load, h]

end Holding

theorem State.isOpen_holding_iff :
    (s.holding lang).isOpen s.config = true ↔ s.GrammarOpen lang := by
  simp only [Holding.isOpen, State.holding, State.GrammarOpen, Bool.and_eq_true,
    Option.isNone_iff_eq_none, Bool.or_eq_true, Bool.not_eq_true', List.contains_eq_mem,
    decide_eq_false_iff_not]
  tauto

/-- Behind a toolkit that is there, loading a grammar that is open is an attempt at it. -/
theorem ToolkitStep.load_ready {toolkit : Module} (hopen : s.GrammarOpen lang)
    (h : ToolkitStep w s (.ok true) s' t) (hready : s'.loader.runtime = .ready toolkit) :
    (s.holding lang).load w s.config lang (s.toolkitHolding.look w s.config).1 =
      (s'.holding lang).attempt w s.config lang toolkit := by
  rw [Holding.load_of_open (State.isOpen_holding_iff.mpr hopen), h.look,
    State.toolkit?_of_ready hready, h.holding]
  rfl

/-- **`GrammarStep.load`** — the engine loads a grammar just so: the answer and the row of the
language are a function of that row and of what looking for the toolkit comes to, and the toolkit is
looked for when the grammar is open. -/
theorem GrammarStep.load {r : Except Fault (Option GrammarRef)} (h : GrammarStep w s lang r s' t) :
    (s.holding lang).load w s.config lang (s.toolkitHolding.look w s.config).1 =
        (r, s'.holding lang) ∧
      s'.toolkitHolding = if (s.holding lang).isOpen s.config
        then (s.toolkitHolding.look w s.config).2 else s.toolkitHolding := by
  have hclosed : ¬ s.GrammarOpen lang → (s.holding lang).isOpen s.config = false :=
    fun hnot => Bool.eq_false_iff.mpr (mt State.isOpen_holding_iff.mp hnot)
  have hopened : s.GrammarOpen lang → (s.holding lang).isOpen s.config = true :=
    State.isOpen_holding_iff.mpr
  cases h with
  -- a grammar that is settled is answered from its row
  | @there grammar hloaded =>
    have hnot := hclosed fun hopen => by simp [hopen.1] at hloaded
    have hgrammar : (s.holding lang).grammar = some grammar := hloaded
    rw [Holding.load_of_closed hnot, hgrammar, hnot]
    exact ⟨rfl, rfl⟩
  | givenUp hunloaded hmissing hfinal =>
    have hnot := hclosed fun hopen => by simp [hopen.2 hmissing] at hfinal
    have hgrammar : (s.holding lang).grammar = none := hunloaded
    rw [Holding.load_of_closed hnot, hgrammar, hnot]
    exact ⟨rfl, rfl⟩
  -- without a toolkit, looking for it is all that happens
  | noToolkit hopen hstep =>
    have hnone : s'.loader.toolkit? = none := by simp [Loader.toolkit?, hstep.unavailable]
    rw [hstep.look, hstep.holding, hopened hopen, hnone]
    exact ⟨Holding.load_of_open (hopened hopen), rfl⟩
  | toolkitFailed hopen hstep =>
    rw [hstep.look, hstep.holding, hopened hopen]
    exact ⟨Holding.load_of_open (hopened hopen), rfl⟩
  -- and behind one the grammar is attempted
  | found hopen hstep hready houtcome =>
    rw [hstep.load_ready hopen hready, hstep.look, hopened hopen]
    simp [Holding.attempt, houtcome]
  | absent message hopen hstep hready houtcome =>
    rw [hstep.load_ready hopen hready, hstep.look, hopened hopen]
    simp [Holding.attempt, houtcome]
  | failed hopen hstep hready houtcome =>
    rw [hstep.load_ready hopen hready, hstep.look, hopened hopen]
    simp [Holding.attempt, houtcome]

/-! ## Either order -/

/-- **`SameHeld s s'`** — two states hold the same: settings, toolkit and matcher, and the row of
every language. -/
structure SameHeld (s s' : State) : Prop where
  config : s'.config = s.config
  toolkit : s'.toolkitHolding = s.toolkitHolding
  holding : ∀ lang, s'.holding lang = s.holding lang
  matcher : s'.matcher = s.matcher

/-- Loading a grammar leaves the other languages alone. -/
theorem loadGrammar_spares (lang : Language) : (loadGrammar lang).Keeps (Spares lang) := by
  rw [← Plan.loadGrammar_run]
  exact Plan.loadGrammar_about.run

/-- **`GrammarStep.behind_other`** — behind the loading of another language, loading comes to what
it would have come to before.  The toolkit is then as looking for it leaves it, if either language
was open. -/
theorem GrammarStep.behind_other {rA rB rB' : Except Fault (Option GrammarRef)} {sA sB sAB : State}
    {tA tB tAB : Trace} (hspares : Spares A s sA) (hne : B ≠ A)
    (hA : GrammarStep w s A rA sA tA) (hB : GrammarStep w s B rB sB tB)
    (hAB : GrammarStep w sA B rB' sAB tAB) :
    rB' = rB ∧ sAB.holding B = sB.holding B ∧
      sAB.toolkitHolding =
        if (s.holding A).isOpen s.config || (s.holding B).isOpen s.config
          then (s.toolkitHolding.look w s.config).2 else s.toolkitHolding := by
  -- whether or not the first call has looked for the toolkit, looking comes to the same
  have hlook : sA.toolkitHolding.look w s.config = s.toolkitHolding.look w s.config := by
    rw [hA.load.2]
    split
    · exact ToolkitHolding.look_look w s.config _
    · rfl
  have hrow : sA.holding B = s.holding B := hspares.others B hne
  obtain ⟨hload, htoolkit⟩ := hAB.load
  rw [hspares.config, hrow, hlook] at hload htoolkit
  obtain ⟨hanswer, hholding⟩ := Prod.mk.inj (hload.symm.trans hB.load.1)
  refine ⟨hanswer, hholding, ?_⟩
  rw [htoolkit, hA.load.2]
  cases (s.holding A).isOpen s.config <;> cases (s.holding B).isOpen s.config <;> rfl

/-- **`languages_are_independent`** — whatever state an engine is in: a question about one language
leaves what is held about the others as it was, be it answered or not, and also when the importer
says something else at each attempt; all that languages share is the toolkit, and a matcher built
for it.  And in one world, two grammars can be loaded in either order: each call has the answer or
the error that it would have had alone, and the two orders leave the same behind. -/
theorem languages_are_independent (s : State) (hne : A ≠ B) :
    (∀ question : Question, question.For A →
      (∀ worlds, Spares A s (question.plan.play worlds 0 s).state) ∧
        ∀ w, Spares A s (question.ask w s).2.1) ∧
      ∀ w,
        let afterA := (loadGrammar A w s).2.1
        let afterB := (loadGrammar B w s).2.1
        (loadGrammar A w afterB).1 = (loadGrammar A w s).1 ∧
          (loadGrammar B w afterA).1 = (loadGrammar B w s).1 ∧
          SameHeld (loadGrammar B w afterA).2.1 (loadGrammar A w afterB).2.1 := by
  refine ⟨fun question hfor => ⟨fun worlds => ?courses, fun w => ?runs⟩, fun w => ?orders⟩
  case courses => exact Question.plan_about hfor s _ ⟨worlds, 0, rfl⟩
  case runs =>
    rw [← question.plan_run]
    exact (Question.plan_about hfor).run w s
  case orders =>
    intro afterA afterB
    -- each language is the second one in one of the orders, and its row is settled there
    have step : ∀ lang s, GrammarStep w s lang (loadGrammar lang w s).1 (loadGrammar lang w s).2.1
        (loadGrammar lang w s).2.2.loading := fun _ _ => loadGrammar_ends
    have hA : Spares A s afterA := loadGrammar_spares A w s
    have hB : Spares B s afterB := loadGrammar_spares B w s
    have hAB := loadGrammar_spares B w afterA
    have hBA := loadGrammar_spares A w afterB
    obtain ⟨hanswerB, hrowB, htoolkitB⟩ :=
      (step A s).behind_other hA hne.symm (step B s) (step B afterA)
    obtain ⟨hanswerA, hrowA, htoolkitA⟩ :=
      (step B s).behind_other hB hne (step A s) (step A afterB)
    refine ⟨hanswerA, hanswerB, ?config, ?toolkit, fun lang => ?holding, ?matcher⟩
    case config => rw [hAB.config, hBA.config, hA.config, hB.config]
    case toolkit => rw [htoolkitA, htoolkitB, Bool.or_comm]
    case holding =>
      by_cases hlangA : lang = A
      · rw [hlangA, hrowA, hAB.others A hne]
      · by_cases hlangB : lang = B
        · rw [hlangB, hrowB, hBA.others B hne.symm]
        · rw [hAB.others lang hlangB, hBA.others lang hlangA, hA.others lang hlangA,
            hB.others lang hlangB]
    case matcher =>
      rw [(step A afterB).frame.2.2, (step B afterA).frame.2.2, (step A s).frame.2.2,
        (step B s).frame.2.2]

/-- Where there is a grammar for shell hooks only, asking for another one first, or for the queries
of another language, takes nothing from them. -/
theorem shell_is_independent :
    (loadGrammar .bash shellWorld (loadGrammar .python shellWorld { config := elsewhere }).2.1).1 =
        .ok (some (.labelled "ptr")) ∧
      (((Question.getQueries .typescript).ask shellWorld
        (loadGrammar .bash shellWorld { config := elsewhere }).2.1).2.1.holding .bash).grammar =
        some (.labelled "ptr") := by
  refine ⟨?behind, ?kept⟩
  case behind =>
    have hbash := ((languages_are_independent { config := elsewhere }
      (A := .python) (B := .bash) (by decide)).2 shellWorld).2.1
    rw [hbash]
    rfl
  case kept =>
    have htypescript := ((languages_are_independent
      (loadGrammar .bash shellWorld { config := elsewhere }).2.1 (A := .typescript) (B := .bash)
      (by decide)).1 (.getQueries .typescript) rfl).2 shellWorld
    rw [htypescript.others .bash (by decide)]
    rfl

end HookAudit.Engine
