/-
# HookAudit.Proofs.Engine.Loads — what a plan may attempt, and in which order.

Two things are shown of every plan, part by part (`Loads`): its attempts follow the rules of
loading, and their subjects come in a fixed order.  An operation that loads in several places
attempts no more than one that loads once: what its first part has found is settled to the second.
-/
import HookAudit.Proofs.Engine.Plans

namespace HookAudit.Engine

open Action

variable {w : World} {s s' s₁ : State} {lang : Language} {x : Subject} {xs ys : List Subject}
  {α β : Type}

/-! ## What plans may attempt -/

/-- **`Loads s xs c`** — the attempts of a course from `s` follow the rules of loading, and are made
at some of the subjects `xs`, in their order. -/
structure Loads (s : State) (xs : List Subject) (c : Plan.Course α) : Prop where
  recounts : Recounts s c.attempts c.answer c.state c.shown
  subjects : (c.attempts.map (·.subject)).Sublist xs

theorem Loads.widen {c : Plan.Course α} (h : Loads s xs c) (hsub : xs.Sublist ys) :
    Loads s ys c where
  recounts := h.recounts
  subjects := h.subjects.trans hsub

/-- A subject that is settled is not attempted. -/
theorem Loads.of_closed {c : Plan.Course α} (hclosed : ¬ s.Open x) (h : Loads s (x :: xs) c) :
    Loads s xs c where
  recounts := h.recounts
  subjects := by
    rcases List.sublist_cons_iff.mp h.subjects with hsub | ⟨rest, hrest, -⟩
    · exact hsub
    · have hmem : x ∈ c.attempts.map (·.subject) := by
        rw [hrest]
        exact List.mem_cons_self
      obtain ⟨a, ha, rfl⟩ := List.mem_map.mp hmem
      exact absurd (h.recounts.accounts.attempted a ha) hclosed

/-- What a request may attempt, by what is said of its language. -/
def requestSubjects : Except LanguageError (Option Language) → List Subject
  | .ok (some lang) => [.runtime, .grammar lang]
  | _ => []

theorem requestSubjects_nodup (lang? : Except LanguageError (Option Language)) :
    (requestSubjects lang?).Nodup := by
  unfold requestSubjects
  split <;> simp

namespace Plan

variable {plan : Plan α} {next : α → Plan β}

theorem loads_quiet {act : Action α} (hquiet : act.Quiet) :
    (Plan.quiet act hquiet).Always s (Loads s []) := by
  rintro _ ⟨worlds, n, rfl⟩
  obtain ⟨hconfig, hloader, hshown⟩ := hquiet (worlds n) s
  refine ⟨?_, .slnil⟩
  have hnothing : Recounts s [] (act (worlds n) s).1 (act (worlds n) s).2.1 {} :=
    .nothing hconfig hloader
  rwa [← hshown] at hnothing

theorem loads_pure (a : α) : (Pure.pure a : Plan α).Always s (Loads s []) :=
  loads_quiet (Quiet.pure a)

/-- **`loads_bind`** — behind what the first part attempts come the attempts of the second. -/
theorem loads_bind (hfirst : plan.Always s (Loads s xs))
    (hnext : ∀ a s₁ t as, plan.Takes s ⟨.ok a, s₁, t, as⟩ → (next a).Always s₁ (Loads s₁ ys)) :
    (plan >>= next).Always s (Loads s (xs ++ ys)) := by
  have hboth : plan.Always s fun c => plan.Takes s c ∧ Loads s xs c :=
    fun c hc => ⟨hc, hfirst c hc⟩
  refine hboth.bind ?_ ?_
  · rintro e s₁ t as ⟨-, hloads⟩
    exact ⟨hloads.recounts.stopped, hloads.subjects.trans (List.sublist_append_left xs ys)⟩
  · rintro a s₁ t as ⟨htakes, hloads⟩
    refine (hnext a s₁ t as htakes).mono fun c hc => ⟨hloads.recounts.append hc.recounts, ?_⟩
    rw [List.map_append]
    exact hloads.subjects.append hc.subjects

/-- Behind the first part nothing more is attempted. -/
theorem loads_bind_nothing (hfirst : plan.Always s (Loads s xs))
    (hnext : ∀ a s₁ t as, plan.Takes s ⟨.ok a, s₁, t, as⟩ → (next a).Always s₁ (Loads s₁ [])) :
    (plan >>= next).Always s (Loads s xs) := by
  have hboth := loads_bind hfirst hnext
  rwa [List.append_nil] at hboth

/-- What is made of an answer attempts nothing. -/
theorem loads_returning (hplan : plan.Always s (Loads s xs)) (f : α → β) :
    (plan >>= fun a => Pure.pure (f a)).Always s (Loads s xs) :=
  loads_bind_nothing hplan fun a _ _ _ _ => loads_pure (f a)

/-- A look at the state shows it and changes nothing. -/
theorem Always.getState_bind {next : State → Plan α} {P : Course α → Prop}
    (h : (next s).Always s P) : (getState >>= next).Always s P := by
  have hstate : getState.Always s fun c => c = ⟨.ok s, s, {}, []⟩ := by
    rintro _ ⟨worlds, n, rfl⟩
    rfl
  refine hstate.bind (by rintro _ _ _ _ ⟨⟩) ?_
  rintro _ _ _ _ ⟨⟩
  exact h

/-! ### The toolkit -/

/-- Looking for the toolkit is a step in some world, and an attempt at most. -/
theorem ensureRuntime_always : ensureRuntime.Always s fun c =>
    (∃ w, ToolkitStep w s c.answer c.state c.shown) ∧ Loads s [.runtime] c := by
  have hattempt : s.ToolkitOpen → toolkit.Always s fun c =>
      (∃ w, ToolkitStep w s c.answer c.state c.shown) ∧ Loads s [.runtime] c := by
    rintro hopen _ ⟨worlds, n, rfl⟩
    exact ⟨⟨worlds n, loadToolkit_ends hopen⟩, loadToolkit_attempts hopen, List.Sublist.refl _⟩
  have hnone : ∀ isThere, (∀ w, ToolkitStep w s (.ok isThere) s {}) →
      (Pure.pure isThere : Plan Bool).Always s fun c =>
        (∃ w, ToolkitStep w s c.answer c.state c.shown) ∧ Loads s [.runtime] c := by
    rintro isThere hstep _ ⟨worlds, n, rfl⟩
    exact ⟨⟨worlds n, hstep (worlds n)⟩, .nothing rfl rfl, List.nil_sublist _⟩
  refine Always.getState_bind ?_
  cases hruntime : s.loader.runtime with
  | ready found => exact hnone true fun _ => .there hruntime
  | uninitialized => exact hattempt (by simp [State.ToolkitOpen, hruntime])
  | unavailable =>
    dsimp only
    split
    · rename_i hretry
      exact hattempt (by simpa [State.ToolkitOpen, hruntime] using hretry)
    · rename_i hretry
      exact hnone false fun _ => .givenUp hruntime (by simpa using hretry)

theorem ensureRuntime_loads : ensureRuntime.Always s (Loads s [.runtime]) :=
  ensureRuntime_always.mono fun _ h => h.2

/-- Once the toolkit is there, it is not looked for. -/
theorem ready_closed {toolkit : Module} (hready : s.loader.runtime = .ready toolkit) :
    ¬ s.Open .runtime := by
  intro hopen
  exact State.ToolkitOpen.not_ready hopen toolkit hready

/-! ### Grammars -/

/-- A grammar that an attempt hands out is loaded. -/
theorem openGrammar_loaded : (openGrammar lang).Ends w s fun r s' _ =>
    ∀ ref, r = .ok (some ref) → s'.loader.loaded.lookup lang = some ref := by
  have himport : (importGrammar lang).Ends w s fun _ _ _ => True := trivial
  refine himport.bind (by rintro _ _ _ - _ ⟨⟩) ?_
  rintro grammar? s₁ t -
  cases grammar? with
  | none => exact Ends.updateLoader_bind (Ends.pure (by rintro _ ⟨⟩))
  | some ref =>
    refine Ends.updateLoader_bind (Ends.pure ?_)
    rintro _ ⟨⟩
    exact List.lookup_cons_self

/-- Loading a grammar attempts the toolkit, then the grammar; a grammar that is handed out is
loaded. -/
theorem loadGrammar_always : (loadGrammar lang).Always s fun c =>
    (∀ ref, c.answer = .ok (some ref) → c.state.loader.loaded.lookup lang = some ref) ∧
      Loads s [.runtime, .grammar lang] c := by
  refine Always.getState_bind ?_
  cases hloaded : s.loader.loaded.lookup lang with
  | some ref =>
    refine Always.pure ⟨?_, .nothing rfl rfl, List.nil_sublist _⟩
    rintro _ ⟨⟩
    exact hloaded
  | none =>
    dsimp only
    split
    · exact Always.pure ⟨by rintro _ ⟨⟩, .nothing rfl rfl, List.nil_sublist _⟩
    · rename_i hgiven
      have hopen : s.GrammarOpen lang := by
        refine ⟨hloaded, fun hmissing => ?_⟩
        simpa [hmissing] using hgiven
      refine ensureRuntime_always.bind ?_ ?_
      · rintro e s₁ t as ⟨-, hloads⟩
        exact ⟨by rintro _ ⟨⟩, hloads.recounts.stopped,
          hloads.subjects.trans (List.sublist_append_left _ [Subject.grammar lang])⟩
      · rintro isThere s₁ t as ⟨⟨w, hstep⟩, hloads⟩
        cases isThere with
        | false =>
          refine Always.pure ⟨by rintro _ ⟨⟩, ?_, ?_⟩
          · exact hloads.recounts.append (.nothing rfl rfl)
          · rw [List.append_nil]
            exact hloads.subjects.trans (List.sublist_append_left _ [Subject.grammar lang])
        | true =>
          obtain ⟨toolkit, hready⟩ := hstep.ready
          rintro _ ⟨worlds, n, rfl⟩
          -- finding the toolkit has left the grammar open
          refine ⟨openGrammar_loaded, hloads.recounts.append ?_, ?_⟩
          · exact openGrammar_attempts hready (hstep.grammarOpen hopen)
          · rw [List.map_append]
            exact hloads.subjects.append (List.Sublist.refl [Subject.grammar lang])

theorem loadGrammar_loads : (loadGrammar lang).Always s (Loads s [.runtime, .grammar lang]) :=
  loadGrammar_always.mono fun _ h => h.2

/-- Once its grammar is loaded, a language is not looked for. -/
theorem loaded_closed {ref : GrammarRef} (hloaded : s.loader.loaded.lookup lang = some ref) :
    ¬ s.Open (.grammar lang) := by
  rintro ⟨hunloaded, -⟩
  cases hunloaded.symm.trans hloaded

/-! ### Queries, requests and availability -/

theorem getQueries_loads : (getQueries lang).Always s (Loads s [.runtime, .grammar lang]) := by
  refine Always.getState_bind ?_
  cases s.queries.lookup lang with
  | some queries => exact (loads_pure queries).mono fun _ h => h.widen (List.nil_sublist _)
  | none =>
    refine loads_bind_nothing loadGrammar_loads ?_
    rintro grammar? s₁ - - -
    cases grammar? with
    | none => exact loads_pure []
    | some ref => exact loads_quiet _

theorem validate_loads : (validate lang).Always s (Loads s [.runtime, .grammar lang]) := by
  refine loads_bind_nothing loadGrammar_loads ?_
  rintro grammar? s₁ - - -
  cases grammar? with
  | none => exact loads_pure _
  | some ref => exact loads_quiet _

/-- Once the toolkit is there, loading a grammar attempts no more than that. -/
theorem loadGrammar_loads_of_closed (hclosed : ¬ s.Open .runtime) :
    (loadGrammar lang).Always s (Loads s [.grammar lang]) :=
  loadGrammar_loads.mono fun _ h => h.of_closed hclosed

/-- Getting the queries behind the grammar attempts nothing. -/
theorem getQueries_loads_behind {ref : GrammarRef} {t : Trace} {as : List Attempt}
    (hclosed : ¬ s.Open .runtime) (h : (loadGrammar lang).Takes s ⟨.ok (some ref), s₁, t, as⟩) :
    (getQueries lang).Always s₁ (Loads s₁ []) := by
  obtain ⟨hhanded, hloads⟩ := loadGrammar_always _ h
  -- getting queries may attempt both subjects again, but neither is open any more
  have hruntime : ¬ s₁.Open .runtime := fun hopen =>
    hclosed (hloads.recounts.accounts.isOpen _ hopen)
  have hgrammar : ¬ s₁.Open (.grammar lang) := loaded_closed (hhanded ref rfl)
  exact getQueries_loads.mono fun _ h => (h.of_closed hruntime).of_closed hgrammar

theorem isUsable_loads (hclosed : ¬ s.Open .runtime) :
    (isUsable lang).Always s (Loads s [.grammar lang]) := by
  refine loads_bind_nothing (loadGrammar_loads_of_closed hclosed) ?_
  intro grammar? s₁ t as htakes
  cases grammar? with
  | none => exact loads_pure _
  | some ref => exact loads_returning (getQueries_loads_behind hclosed htakes) _

theorem scanRequest_loads (content : Text) :
    (scanRequest content lang).Always s (Loads s [.runtime, .grammar lang]) := by
  show (scanRequest content lang).Always s (Loads s ([.runtime] ++ [.grammar lang]))
  refine loads_bind ensureRuntime_loads ?_
  intro isThere s₁ t as htakes
  obtain ⟨⟨w, hstep⟩, -⟩ := ensureRuntime_always _ htakes
  cases isThere with
  | false => exact (loads_pure _).mono fun _ h => h.widen (List.nil_sublist _)
  | true =>
    obtain ⟨toolkit, hready⟩ := hstep.ready
    have hclosed : ¬ s₁.Open .runtime := ready_closed hready
    refine loads_bind_nothing (loadGrammar_loads_of_closed hclosed) ?_
    intro grammar? s₂ t₂ bs htakes₂
    cases grammar? with
    | none => exact loads_pure _
    | some ref =>
      refine loads_bind_nothing (getQueries_loads_behind hclosed htakes₂) ?_
      rintro queries s₃ - - -
      cases queries with
      | nil => exact loads_pure _
      | cons query queries => exact loads_quiet _

/-- A selection attempts what its tests attempt. -/
theorem select_loads {test : α → Plan Bool} {subjects : α → List Subject} {I : State → Prop}
    (hkeeps : ∀ s s' as, Accounts s s' as → I s → I s')
    (htest : ∀ a s, I s → (test a).Always s (Loads s (subjects a))) (as : List α) (hs : I s) :
    (select test as).Always s (Loads s (as.flatMap subjects)) := by
  induction as generalizing s with
  | nil => exact loads_pure []
  | cons a as ih =>
    rw [List.flatMap_cons]
    refine loads_bind (htest a s hs) ?_
    intro keep s₁ t bs htakes
    -- `I` passes the first test, so that it holds where the others start
    have hs₁ : I s₁ := hkeeps _ _ _ (htest a s hs _ htakes).recounts.accounts hs
    exact loads_returning (ih hs₁) _

theorem availability_loads :
    availability.Always s (Loads s (.runtime :: Language.all.map .grammar)) := by
  show availability.Always s (Loads s ([.runtime] ++ Language.all.map .grammar))
  refine loads_bind ensureRuntime_loads ?_
  intro isThere s₁ t as htakes
  obtain ⟨⟨w, hstep⟩, -⟩ := ensureRuntime_always _ htakes
  cases isThere with
  | false => exact (loads_pure _).mono fun _ h => h.widen (List.nil_sublist _)
  | true =>
    obtain ⟨toolkit, hready⟩ := hstep.ready
    have hselect : (select isUsable Language.all).Always s₁
        (Loads s₁ (Language.all.flatMap fun lang => [.grammar lang])) :=
      select_loads (I := fun s => ¬ s.Open .runtime)
        (fun _ _ _ haccounts hclosed hopen => hclosed (haccounts.isOpen _ hopen))
        (fun lang _ hclosed => isUsable_loads hclosed) Language.all (ready_closed hready)
    rw [List.map_eq_flatMap]
    refine loads_bind_nothing hselect ?_
    rintro usable s₂ - - -
    cases usable <;> exact loads_pure _

theorem availableLanguages_loads : availableLanguages.Always s
    (Loads s (Language.all.flatMap fun lang => [.runtime, .grammar lang])) :=
  select_loads (I := fun _ => True) (fun _ _ _ _ h => h)
    (fun _ _ _ => loads_returning loadGrammar_loads _) Language.all trivial

theorem scan_loads (content : Text) (requested : Option LanguageName) (filename : Option Text) :
    (scan content requested filename).Always s
      (Loads s (requestSubjects (languageOf content requested filename))) := by
  unfold scan
  cases languageOf content requested filename with
  | error e => exact loads_quiet _
  | ok lang? =>
    cases lang? with
    | none => exact loads_pure _
    | some lang => exact scanRequest_loads content

theorem scanHook_loads (config : ScannerConfig) (content : Text) (filename : Option Text)
    (requested : Option LanguageName) :
    (scanHook config content filename requested).Always s
      (Loads s (requestSubjects (languageOf content requested filename))) := by
  refine loads_returning ?_ _
  unfold assess
  dsimp only
  split
  · exact (loads_quiet _).mono fun _ h => h.widen (List.nil_sublist _)
  · refine loads_bind_nothing (scan_loads content requested filename) ?_
    rintro outcome s₁ - - -
    cases outcome <;> exact loads_pure _

end Plan

/-- What a question may attempt, in order. -/
def Question.subjects : Question → List Subject
  | .ensureRuntime => [.runtime]
  | .loadGrammar lang | .getQueries lang | .validate lang => [.runtime, .grammar lang]
  | .availableLanguages => Language.all.flatMap fun lang => [.runtime, .grammar lang]
  | .availability => .runtime :: Language.all.map .grammar
  | .queryFiles _ => []
  | .scan content requested filename | .scanHook _ content filename requested =>
    requestSubjects (languageOf content requested filename)
  | .scanRequest _ lang => requestSubjects (.ok lang)

/-- **`Question.plan_loads`** — whatever course a question takes, it attempts no more than that. -/
theorem Question.plan_loads (question : Question) :
    question.plan.Always s (Engine.Loads s question.subjects) := by
  cases question with
  | ensureRuntime => exact Plan.loads_returning Plan.ensureRuntime_loads _
  | loadGrammar lang => exact Plan.loads_returning Plan.loadGrammar_loads _
  | availableLanguages => exact Plan.loads_returning Plan.availableLanguages_loads _
  | availability => exact Plan.loads_returning Plan.availability_loads _
  | queryFiles lang => exact Plan.loads_quiet _
  | getQueries lang => exact Plan.loads_returning Plan.getQueries_loads _
  | validate lang => exact Plan.loads_returning Plan.validate_loads _
  | scan content requested filename =>
    exact Plan.loads_returning (Plan.scan_loads content requested filename) _
  | scanRequest content lang =>
    cases lang with
    | none => exact Plan.loads_pure _
    | some lang => exact Plan.loads_returning (Plan.scanRequest_loads content) _
  | scanHook config content filename requested =>
    exact Plan.loads_returning (Plan.scanHook_loads config content filename requested) _

/-- But for the listing of languages, no question may attempt a subject twice. -/
theorem Question.subjects_nodup {question : Question} (h : question ≠ .availableLanguages) :
    question.subjects.Nodup := by
  have hpair : ∀ lang : Language, [Subject.runtime, .grammar lang].Nodup := by simp
  cases question with
  | ensureRuntime => exact List.pairwise_singleton _ _
  | loadGrammar lang => exact hpair lang
  | availableLanguages => exact absurd rfl h
  | availability => decide
  | queryFiles lang => exact List.nodup_nil
  | getQueries lang => exact hpair lang
  | validate lang => exact hpair lang
  | scan content requested filename => exact requestSubjects_nodup _
  | scanRequest content lang => exact requestSubjects_nodup _
  | scanHook config content filename requested => exact requestSubjects_nodup _

end HookAudit.Engine
