/-
# HookAudit.Proofs.Engine.Orderly — worlds in which what fails is absent.

The toolkit and the grammars come from other hands, and the engine counts on how these fail: what
cannot be imported is missing, a grammar that cannot be opened is refused, and a query that does not
compile is malformed.  In a world that keeps to this (`Orderly`) every request is answered
(`Orderly.scan_answers`), if only with the reason why there is no opinion.  The world in which
everything is installed but some modules is one (`installed_orderly`).
-/
import HookAudit.Engine.Installed
import HookAudit.Proofs.Engine.Alone

namespace HookAudit.Engine

open Action

variable {w : World} {config : EngineConfig} {toolkit : Module} {lang : Language}
  {grammar : GrammarRef} {content : Text} {filename : Option Text} {requested : Option LanguageName}

/-- **`Orderly w`** — modules, grammars and queries of the world `w` fail only as they should. -/
structure Orderly (w : World) : Prop where
  importing : ∀ name failure, w.importModule name = .error failure → failure.kind = .missing
  opening : ∀ toolkit name found factory result failure,
    w.importModule toolkitModule = .ok toolkit → w.importModule name = .ok found →
    found.lookUp factory = .factory result → openWith (some toolkit) result = .error failure →
    failure.kind.RefusesGrammar
  compiling : ∀ toolkit grammar text failure,
    w.importModule toolkitModule = .ok toolkit → toolkit.openGrammar grammar = .ok () →
    toolkit.compile grammar text = .error failure → failure.kind = .badQuery

/-! ## Attempts -/

theorem Orderly.attemptToolkit_ok (hw : Orderly w) :
    ∃ toolkit?, attemptToolkit w = .ok toolkit? := by
  cases htoolkit : attemptToolkit w with
  | ok toolkit? => exact ⟨toolkit?, rfl⟩
  | error failure =>
    obtain ⟨hraised, hunexpected⟩ := attemptToolkit_eq_error_iff.mp htoolkit
    exact absurd (hw.importing _ _ hraised) hunexpected

theorem Orderly.attemptGrammar_ok (hw : Orderly w)
    (htoolkit : w.importModule toolkitModule = .ok toolkit) (config : EngineConfig)
    (lang : Language) : ∃ grammar?, attemptGrammar w config toolkit lang = .ok grammar? := by
  cases hgrammar : attemptGrammar w config toolkit lang with
  | ok grammar? => exact ⟨grammar?, rfl⟩
  | error failure =>
    cases attemptGrammar_eq_error_iff.mp hgrammar with
    | importing _ hraised hunexpected => exact absurd (hw.importing _ _ hraised) hunexpected
    | opening _ himported hcallable hraised hunexpected =>
      exact absurd (hw.opening _ _ _ _ _ _ htoolkit himported hcallable hraised) hunexpected

/-- A grammar that an attempt comes to can be opened. -/
theorem opens_of_attemptGrammar (h : attemptGrammar w config toolkit lang = .ok (some grammar)) :
    toolkit.openGrammar grammar = .ok () := by
  unfold attemptGrammar at h
  split at h
  · cases h
  split at h
  · split at h <;> cases h
  split at h
  · rename_i result hcallable
    split at h
    · rename_i opened hopened
      cases h
      unfold openWith at hopened
      cases result with
      | error failure => cases hopened
      | ok ref =>
        cases hopens : toolkit.openGrammar ref with
        | error failure =>
          simp only [hopens, Bind.bind, Except.bind] at hopened
          cases hopened
        | ok _ =>
          simp only [hopens, Bind.bind, Except.bind, Pure.pure, Except.pure] at hopened
          cases hopened
          exact hopens
    · split at h <;> cases h
  · cases h

theorem Orderly.attemptPack_ok (hw : Orderly w)
    (htoolkit : w.importModule toolkitModule = .ok toolkit)
    (hopens : toolkit.openGrammar grammar = .ok ()) (config : EngineConfig) (lang : Language) :
    ∃ judged, attemptPack w config toolkit grammar lang = .ok judged := by
  cases hpack : attemptPack w config toolkit grammar lang with
  | ok judged => exact ⟨judged, rfl⟩
  | error failure =>
    obtain ⟨_, file, _, _, ⟨text, _, _, hraised, hunexpected⟩, _⟩ :=
      attemptPack_eq_error_iff.mp hpack
    exact absurd (hw.compiling _ _ _ _ htoolkit hopens hraised) hunexpected

/-- **`Orderly.outcomeOf_ok`** — in an orderly world there is always something to be said about a
hook. -/
theorem Orderly.outcomeOf_ok (hw : Orderly w) (config : EngineConfig) (content : Text)
    (lang : Language) : ∃ outcome, outcomeOf w config content lang = .ok outcome := by
  obtain ⟨toolkit?, htoolkit⟩ := hw.attemptToolkit_ok
  cases toolkit? with
  | none =>
    refine ⟨noToolkitOutcome, ?_⟩
    unfold outcomeOf
    rw [grammarOf_of_noToolkit htoolkit, htoolkit]
    rfl
  | some toolkit =>
    have himport := (attemptToolkit_eq_some_iff.mp htoolkit).1
    obtain ⟨grammar?, hattempt⟩ := hw.attemptGrammar_ok himport config lang
    have hgrammar : grammarOf w config lang = .ok grammar? :=
      (grammarOf_of_toolkit htoolkit).trans hattempt
    cases grammar? with
    | none =>
      refine ⟨noGrammarOutcome lang, ?_⟩
      unfold outcomeOf
      rw [hgrammar, htoolkit]
      rfl
    | some grammar =>
      -- what is assumed of compiling is assumed of grammars that open, and this one has
      obtain ⟨judged, hjudged⟩ :=
        hw.attemptPack_ok himport (opens_of_attemptGrammar hattempt) config lang
      have hqueries : queriesOf w config lang = .ok (usableQueries judged) := by
        unfold queriesOf
        rw [packOf_of_grammar htoolkit hgrammar, hjudged]
        rfl
      unfold outcomeOf
      rw [hgrammar, hqueries]
      cases usableQueries judged with
      | nil => exact ⟨_, rfl⟩
      | cons query queries => exact ⟨_, rfl⟩

/-! ## Answers -/

theorem Orderly.scanRequest_answers (hw : Orderly w) (config : EngineConfig) (content : Text)
    (lang : Language) :
    ∃ outcome, (scanRequest content (some lang)).alone w config = .ok outcome := by
  obtain ⟨outcome, houtcome⟩ := hw.outcomeOf_ok config content lang
  refine ⟨outcome, ?_⟩
  have hstep : RequestStep w { config } content lang _ _ _ :=
    scanRequest_ends (.fresh config) content
  have hanswer := hstep.answer (.fresh w config)
  rw [houtcome] at hanswer
  exact hanswer

/-- **`Orderly.scan_answers`** — in an orderly world a hook with a known name of its language, or
none, is answered. -/
theorem Orderly.scan_answers (hw : Orderly w) (config : EngineConfig) {lang? : Option Language}
    (hlang : languageOf content requested filename = .ok lang?) :
    ∃ outcome, (scan content requested filename).alone w config = .ok outcome := by
  unfold scan
  rw [hlang]
  cases lang? with
  | none => exact ⟨_, rfl⟩
  | some lang => exact hw.scanRequest_answers config content lang

/-- So is the question what the scanner makes of it. -/
theorem Orderly.assess_answers (hw : Orderly w) (config : EngineConfig)
    (scanner : ScannerConfig) {lang? : Option Language}
    (hlang : languageOf content requested filename = .ok lang?) :
    ∃ assessed, (Scanner.assess scanner scan content filename requested).alone w config =
      .ok assessed := by
  obtain ⟨outcome, houtcome⟩ := hw.scan_answers config hlang
  unfold Scanner.assess
  dsimp only
  split
  · exact ⟨_, rfl⟩
  · rw [alone_bind (Determined.composable.scan content requested filename) fun outcome => by
      cases outcome <;> exact Determined.composable.pure _, houtcome]
    cases outcome <;> exact ⟨_, rfl⟩

/-! ## The installed world -/

/-- What is imported where everything is installed but some modules. -/
theorem importModule_installed {files : Files} {absent : List Text} {name : Text}
    {answer : Except Failure Module} (h : (installed files absent).importModule name = answer) :
    answer = .error (notInstalled name) ∨ (name, answer) ∈ installedModules := by
  change importFrom (installedModules.filter fun m => !absent.contains m.1) name = answer at h
  unfold importFrom at h
  cases hlookup : (installedModules.filter fun m => !absent.contains m.1).lookup name with
  | none =>
    rw [hlookup] at h
    exact .inl h.symm
  | some entry =>
    rw [hlookup] at h
    obtain rfl : entry = answer := h
    obtain ⟨earlier, later, hsplit, -⟩ := List.lookup_eq_some_iff.mp hlookup
    have hmem : (name, entry) ∈ installedModules.filter fun m => !absent.contains m.1 := by
      rw [hsplit]
      simp
    exact .inr (List.mem_filter.mp hmem).1

/-- The installed modules are the toolkit, under its name, and modules with one grammar each. -/
theorem of_mem_installedModules {name : Text} {answer : Except Failure Module}
    (h : (name, answer) ∈ installedModules) :
    answer = .ok Engine.toolkit ∨
      name ≠ toolkitModule ∧ ∃ factory lang, answer = .ok (grammarModule factory lang) := by
  simp only [installedModules, List.mem_cons, Prod.mk.injEq, List.not_mem_nil, or_false] at h
  rcases h with ⟨-, rfl⟩ | ⟨rfl, rfl⟩ | ⟨rfl, rfl⟩ | ⟨rfl, rfl⟩ | ⟨rfl, rfl⟩
  · exact .inl rfl
  all_goals exact .inr ⟨by decide, _, _, rfl⟩

theorem toolkit_of_installed {files : Files} {absent : List Text}
    (h : (installed files absent).importModule toolkitModule = .ok toolkit) :
    toolkit = Engine.toolkit := by
  rcases importModule_installed h with herror | hmem
  · cases herror
  rcases of_mem_installedModules hmem with htoolkit | ⟨hname, -⟩
  · cases htoolkit
    rfl
  · exact absurd rfl hname

/-- The factories of the installed modules yield grammars of languages. -/
theorem factory_of_installed {files : Files} {absent : List Text} {name factory : Text}
    {found : Module} {result : Except Failure GrammarRef}
    (h : (installed files absent).importModule name = .ok found)
    (hcallable : found.lookUp factory = .factory result) :
    ∃ lang, result = .ok (.language lang) := by
  rcases importModule_installed h with herror | hmem
  · cases herror
  rcases of_mem_installedModules hmem with htoolkit | ⟨-, name, lang, hgrammar⟩
  · cases htoolkit
    cases hcallable
  · cases hgrammar
    simp only [grammarModule] at hcallable
    split at hcallable
    · cases hcallable
      exact ⟨lang, rfl⟩
    · cases hcallable

/-- **`installed_orderly`** — where everything is installed but some modules, nothing fails in
another way. -/
theorem installed_orderly (files : Files) (absent : List Text) :
    Orderly (installed files absent) where
  importing := by
    intro name failure h
    rcases importModule_installed h with herror | hmem
    · cases herror
      rfl
    · rcases of_mem_installedModules hmem with htoolkit | ⟨-, _, _, hgrammar⟩
      · cases htoolkit
      · cases hgrammar
  opening := by
    intro toolkit name found factory result failure htoolkit hfound hcallable hraised
    obtain rfl := toolkit_of_installed htoolkit
    obtain ⟨lang, rfl⟩ := factory_of_installed hfound hcallable
    cases hraised
  compiling := by
    intro toolkit grammar text failure htoolkit hopens hraised
    obtain rfl := toolkit_of_installed htoolkit
    cases grammar with
    | labelled label => cases hopens
    | language lang =>
      cases text with
      | packed query => cases hraised
      | written source =>
        simp only [Engine.toolkit] at hraised
        split at hraised
        · cases hraised
        · cases hraised
          rfl

end HookAudit.Engine
