/-
# HookAudit.Proofs.Engine.Attempts — what an attempt to load something comes to.

An attempt at the toolkit, at a grammar or at the queries of a language asks the world once and
remembers nothing.  It comes to one of three things: what was looked for, its absence, or a failure
that is no absence and goes through.  Here each attempt is a function of the world alone, the runs
of the engine's own operations are read off it, and the failures that go through are characterised
by what the world did: `attemptToolkit_eq_error_iff`, `attemptGrammar_eq_error_iff` and
`attemptPack_eq_error_iff`.
-/
import HookAudit.Proofs.Engine.Endings
import Mathlib.Data.List.Forall2

namespace HookAudit.Engine

open Action

variable {w : World} {s : State} {config : EngineConfig} {toolkit : Module} {lang : Language}
  {grammar : GrammarRef} {failure : Failure}

/-! ## Warnings -/

/-- The state with a subject counted as warned about. -/
def State.warn (s : State) (subject : Subject) : State :=
  if s.loader.warned.contains subject then s
  else { s with loader := { s.loader with warned := subject :: s.loader.warned } }

/-- What is said when a subject is to be warned about. -/
def State.warning (s : State) (subject : Subject) (message : Text) : List LogEntry :=
  if s.loader.warned.contains subject then [] else [⟨.warning, loaderSource, message⟩]

/-- Giving up with a warning. -/
theorem warnOnce_none_ends {α : Type} {subject : Subject} {message : Text}
    {Q : Except Fault (Option α) → State → Trace → Prop}
    (h : Q (.ok none) (s.warn subject) ⟨[], s.warning subject message⟩) :
    (warnOnce subject message >>= fun _ => Pure.pure none : Action (Option α)).Ends w s Q := by
  have hwarn : (warnOnce subject message).Ends w s fun r s' t =>
      r = .ok () ∧ s' = s.warn subject ∧ t = ⟨[], s.warning subject message⟩ := by
    unfold warnOnce State.warn State.warning
    refine Ends.state_bind ?_
    split
    · exact Ends.pure ⟨rfl, rfl, rfl⟩
    · refine Ends.updateLoader_bind ?_
      show (log .warning loaderSource message >>= Pure.pure).Ends w _ _
      exact Ends.loaderLog_bind (Ends.pure ⟨rfl, rfl, rfl⟩)
  refine hwarn.bind (fun _ _ _ hP => nomatch hP.1) ?_
  rintro _ _ _ ⟨⟨⟩, rfl, rfl⟩
  exact Ends.pure_behind h

/-- **`Attempted subject imports s a`** — how a run ends that makes an attempt at a subject, given
what the attempt comes to: an absence is warned about once, a failure leaves no mark. -/
inductive Attempted {α : Type} (subject : Subject) (imports : List Text) (s : State) :
    Except Failure (Option α) → Except Fault (Option α) → State → Trace → Prop where
  | found (a : α) : Attempted subject imports s (.ok (some a)) (.ok (some a)) s ⟨imports, []⟩
  | absent (message : Text) : Attempted subject imports s (.ok none) (.ok none) (s.warn subject)
      ⟨imports, s.warning subject message⟩
  | failed (failure : Failure) :
      Attempted subject imports s (.error failure) (.error (.outside failure)) s ⟨imports, []⟩

/-! ## The toolkit -/

/-- A toolkit that offers everything it has to. -/
def Module.Complete (toolkit : Module) : Prop := ∀ name ∈ toolkitNames, toolkit.offers name = true

instance (toolkit : Module) : Decidable toolkit.Complete :=
  inferInstanceAs (Decidable (∀ name ∈ toolkitNames, toolkit.offers name = true))

/-- What an attempt at the toolkit comes to. -/
def attemptToolkit (w : World) : Except Failure (Option Module) :=
  match w.importModule toolkitModule with
  | .error failure => if failure.kind = .missing then .ok none else .error failure
  | .ok toolkit => if toolkit.Complete then .ok (some toolkit) else .ok none

theorem attemptToolkit_eq_error_iff :
    attemptToolkit w = .error failure ↔
      w.importModule toolkitModule = .error failure ∧ failure.kind ≠ .missing := by
  unfold attemptToolkit
  cases w.importModule toolkitModule with
  | error other => by_cases h : other.kind = .missing <;> grind
  | ok found => by_cases h : found.Complete <;> simp [h]

theorem attemptToolkit_eq_some_iff :
    attemptToolkit w = .ok (some toolkit) ↔
      w.importModule toolkitModule = .ok toolkit ∧ toolkit.Complete := by
  unfold attemptToolkit
  cases w.importModule toolkitModule with
  | error other => by_cases h : other.kind = .missing <;> simp [h]
  | ok found => by_cases h : found.Complete <;> grind

theorem importToolkit_ends :
    importToolkit.Ends w s (Attempted .runtime [toolkitModule] s (attemptToolkit w)) := by
  unfold importToolkit attemptToolkit
  refine Ends.importModule_bind ?_
  cases w.importModule toolkitModule with
  | error failure =>
    by_cases h : failure.kind = .missing
    · simp only [h, beq_self_eq_true, if_true]
      exact warnOnce_none_ends (.absent _)
    · simp only [h, beq_iff_eq, if_false]
      exact Ends.fail (.failed failure)
  | ok found =>
    have hcomplete : (toolkitNames.filter (!found.offers ·)).isEmpty = true ↔ found.Complete := by
      simp [Module.Complete]
    dsimp only
    by_cases h : found.Complete
    · simp only [hcomplete.mpr h, h, if_true]
      exact Ends.pure (.found found)
    · simp only [mt hcomplete.mp h, h, if_false]
      exact warnOnce_none_ends (.absent _)

/-! ## Grammars -/

/-- The modules that an attempt at a grammar imports. -/
def grammarImports (config : EngineConfig) (lang : Language) : List Text :=
  match (grammarTable config).lookup lang with
  | none => []
  | some (module, _) => [module]

/-- Whether a failure to open a grammar counts as its absence. -/
def FailureKind.RefusesGrammar (kind : FailureKind) : Prop := kind = .badType ∨ kind = .badValue

instance (kind : FailureKind) : Decidable kind.RefusesGrammar :=
  inferInstanceAs (Decidable (_ ∨ _))

/-- What an attempt at a grammar comes to, given the toolkit. -/
def attemptGrammar (w : World) (config : EngineConfig) (toolkit : Module) (lang : Language) :
    Except Failure (Option GrammarRef) :=
  match (grammarTable config).lookup lang with
  | none => .ok none
  | some (module, factory) =>
    match w.importModule module with
    | .error failure => if failure.kind = .missing then .ok none else .error failure
    | .ok found =>
      match found.lookUp factory with
      | .factory result =>
        match openWith (some toolkit) result with
        | .ok grammar => .ok (some grammar)
        | .error failure => if failure.kind.RefusesGrammar then .ok none else .error failure
      | _ => .ok none

/-- **`GrammarFails w config toolkit lang failure`** — the module of a grammar fails to load by more
than its absence, or the grammar fails to open by more than being refused. -/
inductive GrammarFails (w : World) (config : EngineConfig) (toolkit : Module) (lang : Language) :
    Failure → Prop where
  | importing {module factory : Text} {failure : Failure}
      (configured : (grammarTable config).lookup lang = some (module, factory))
      (raised : w.importModule module = .error failure) (unexpected : failure.kind ≠ .missing) :
      GrammarFails w config toolkit lang failure
  | opening {module factory : Text} {found : Module} {result : Except Failure GrammarRef}
      {failure : Failure}
      (configured : (grammarTable config).lookup lang = some (module, factory))
      (imported : w.importModule module = .ok found)
      (callable : found.lookUp factory = .factory result)
      (raised : openWith (some toolkit) result = .error failure)
      (unexpected : ¬ failure.kind.RefusesGrammar) :
      GrammarFails w config toolkit lang failure

theorem attemptGrammar_eq_error_iff :
    attemptGrammar w config toolkit lang = .error failure ↔
      GrammarFails w config toolkit lang failure := by
  constructor
  · intro h
    unfold attemptGrammar at h
    split at h
    · cases h
    · rename_i module factory hconfigured
      split at h
      · rename_i other hraised
        split at h
        · cases h
        · cases h
          exact .importing hconfigured hraised ‹_›
      · rename_i found himported
        split at h
        · rename_i result hcallable
          split at h
          · cases h
          · rename_i other hraised
            split at h
            · cases h
            · cases h
              exact .opening hconfigured himported hcallable hraised ‹_›
        · cases h
  · intro h
    unfold attemptGrammar
    cases h with
    | importing hconfigured hraised hunexpected => simp [hconfigured, hraised, hunexpected]
    | opening hconfigured himported hcallable hraised hunexpected =>
      simp [hconfigured, himported, hcallable, hraised, hunexpected]

theorem importGrammar_ends (lang : Language)
    (htoolkit : s.loader.toolkit? = some toolkit) :
    (importGrammar lang).Ends w s (Attempted (.grammar lang) (grammarImports s.config lang) s
      (attemptGrammar w s.config toolkit lang)) := by
  unfold importGrammar attemptGrammar grammarImports
  refine Ends.state_bind ?_
  rw [htoolkit]
  dsimp only
  cases (grammarTable s.config).lookup lang with
  | none => exact warnOnce_none_ends (.absent _)
  | some entry =>
    obtain ⟨module, factory⟩ := entry
    dsimp only
    refine Ends.importModule_bind ?_
    cases w.importModule module with
    | error failure =>
      by_cases h : failure.kind = .missing
      · simp only [h, beq_self_eq_true, if_true]
        exact warnOnce_none_ends (.absent _)
      · simp only [h, beq_iff_eq, if_false]
        exact Ends.fail (.failed failure)
    | ok found =>
      dsimp only
      cases found.lookUp factory with
      | absent => exact warnOnce_none_ends (.absent _)
      | value => exact warnOnce_none_ends (.absent _)
      | factory result =>
        dsimp only
        cases openWith (some toolkit) result with
        | ok grammar => exact Ends.pure (.found grammar)
        | error failure =>
          have hrefuses : (failure.kind == .badType || failure.kind == .badValue) = true ↔
              failure.kind.RefusesGrammar := by
            simp [FailureKind.RefusesGrammar]
          by_cases h : failure.kind.RefusesGrammar
          · simp only [hrefuses.mpr h, h, if_true]
            exact warnOnce_none_ends (.absent _)
          · simp only [mt hrefuses.mp h, h, if_false]
            exact Ends.fail (.failed failure)

/-! ## Queries -/

/-- What became of one query file. -/
inductive Verdict where
  | unreadable (reason : Text)
  | blank
  | malformed (reason : Text)
  /-- The query declares no capture that names a risk. -/
  | riskless (query : NamedQuery)
  | usable (query : NamedQuery)

/-- The report that a verdict amounts to. -/
def FileReport.ofVerdict (name : Text) : Verdict → FileReport
  | .unreadable reason => { name, error := some reason }
  | .blank => { name, empty := true }
  | .malformed reason => { name, error := some reason }
  | .riskless query => ofQuery query true
  | .usable query => ofQuery query false
where
  ofQuery (query : NamedQuery) (riskless : Bool) : FileReport :=
    { name, compiled := true, captureCount := query.captureNames.length, riskless
      unusual := query.captureNames.filter fun c =>
        !isRiskName c && !helperCaptures.contains c }

/-- The query of a file, unless it is skipped. -/
def Verdict.query? : Verdict → Option NamedQuery
  | .usable query => some query
  | _ => none

/-- What an attempt at a query file comes to, given toolkit and grammar. -/
def attemptFile (toolkit : Module) (grammar : GrammarRef) (file : QueryFile) :
    Except Failure Verdict :=
  match file.content with
  | .error reason => .ok (.unreadable reason)
  | .ok text =>
    if text.isBlank then .ok .blank
    else match toolkit.compile grammar text with
      | .ok compiled =>
        let query : NamedQuery := ⟨file.name, compiled⟩
        .ok (if query.riskCaptures.isEmpty then .riskless query else .usable query)
      | .error failure =>
        if failure.kind = .badQuery then .ok (.malformed failure.message) else .error failure

/-- What an attempt at all query files of a language comes to: each file with its verdict. -/
def attemptPack (w : World) (config : EngineConfig) (toolkit : Module) (grammar : GrammarRef)
    (lang : Language) : Except Failure (List (QueryFile × Verdict)) :=
  (queryFiles w.files config.queries lang).mapM fun file =>
    (attemptFile toolkit grammar file).map (file, ·)

/-- The compiled queries of a language, by what became of its files. -/
def usableQueries (judged : List (QueryFile × Verdict)) : List NamedQuery :=
  judged.filterMap (·.2.query?)

/-- **`FileFails toolkit grammar file failure`** — the query of a file fails to compile by more than
being malformed. -/
def FileFails (toolkit : Module) (grammar : GrammarRef) (file : QueryFile) (failure : Failure) :
    Prop :=
  ∃ text, file.content = .ok text ∧ text.isBlank = false ∧
    toolkit.compile grammar text = .error failure ∧ failure.kind ≠ .badQuery

/-- **`PackFails w config toolkit grammar lang failure`** — among the query files of a language
there is one that fails to compile by more than being malformed, and the first of them fails so. -/
def PackFails (w : World) (config : EngineConfig) (toolkit : Module) (grammar : GrammarRef)
    (lang : Language) (failure : Failure) : Prop :=
  ∃ earlier file later, queryFiles w.files config.queries lang = earlier ++ file :: later ∧
    FileFails toolkit grammar file failure ∧
    ∀ other ∈ earlier, ∀ failure', ¬ FileFails toolkit grammar other failure'

theorem attemptFile_eq_error_iff {file : QueryFile} :
    attemptFile toolkit grammar file = .error failure ↔ FileFails toolkit grammar file failure := by
  constructor
  · intro h
    unfold attemptFile at h
    split at h
    · cases h
    · rename_i text hcontent
      split at h
      · cases h
      · rename_i hblank
        split at h
        · cases h
        · rename_i other hraised
          split at h
          · cases h
          · cases h
            exact ⟨text, hcontent, by simpa using hblank, hraised, ‹_›⟩
  · rintro ⟨text, hcontent, hblank, hraised, hunexpected⟩
    simp [attemptFile, hcontent, hblank, hraised, hunexpected]

/-- Going through a list ends in the failure of the first member that fails. -/
theorem mapM_eq_error_iff {α β ε : Type} {f : α → Except ε β} {xs : List α} {e : ε} :
    xs.mapM f = .error e ↔ ∃ earlier x later, xs = earlier ++ x :: later ∧ f x = .error e ∧
      ∀ y ∈ earlier, ∃ b, f y = .ok b := by
  induction xs with
  | nil => simp [Pure.pure, Except.pure]
  | cons x xs ih =>
    rw [List.mapM_cons]
    cases hx : f x with
    | error e' =>
      constructor
      · rintro ⟨⟩
        exact ⟨[], x, xs, rfl, hx, by simp⟩
      · rintro ⟨earlier, y, later, hsplit, hy, hearlier⟩
        -- nothing comes before the first member, so it is the one that fails
        cases earlier with
        | nil =>
          obtain ⟨rfl, rfl⟩ := List.cons.inj hsplit
          rw [hx] at hy
          cases hy
          rfl
        | cons z earlier =>
          obtain ⟨rfl, _⟩ := List.cons.inj hsplit
          obtain ⟨b, hb⟩ := hearlier x List.mem_cons_self
          rw [hx] at hb
          cases hb
    | ok b =>
      have hrest : (do
          let c ← Except.ok b
          let cs ← xs.mapM f
          Pure.pure (c :: cs) : Except ε (List β)) = .error e ↔ xs.mapM f = .error e := by
        cases xs.mapM f <;> simp [Bind.bind, Except.bind, Pure.pure, Except.pure]
      rw [hrest, ih]
      constructor
      · rintro ⟨earlier, y, later, rfl, hy, hearlier⟩
        refine ⟨x :: earlier, y, later, rfl, hy, ?_⟩
        simpa using ⟨⟨b, hx⟩, hearlier⟩
      · rintro ⟨earlier, y, later, hsplit, hy, hearlier⟩
        cases earlier with
        | nil =>
          obtain ⟨rfl, rfl⟩ := List.cons.inj hsplit
          rw [hx] at hy
          cases hy
        | cons z earlier =>
          obtain ⟨rfl, rfl⟩ := List.cons.inj hsplit
          exact ⟨earlier, y, later, rfl, hy, fun y hy => hearlier y (List.mem_cons_of_mem _ hy)⟩

/-- Going through a list comes to an answer for each member. -/
theorem mapM_eq_ok_iff {α β ε : Type} {f : α → Except ε β} {xs : List α} {ys : List β} :
    xs.mapM f = .ok ys ↔ List.Forall₂ (fun x y => f x = .ok y) xs ys := by
  induction xs generalizing ys with
  | nil => simp [Pure.pure, Except.pure, eq_comm]
  | cons x xs ih =>
    rw [List.mapM_cons]
    cases hx : f x with
    | error e =>
      constructor
      · rintro ⟨⟩
      · rintro (_ | ⟨hy, -⟩)
        rw [hx] at hy
        cases hy
    | ok b =>
      cases hxs : xs.mapM f with
      | error e =>
        constructor
        · rintro ⟨⟩
        · rintro (_ | ⟨-, hrest⟩)
          rw [ih.mpr hrest] at hxs
          cases hxs
      | ok bs =>
        constructor
        · rintro ⟨⟩
          exact .cons hx (ih.mp hxs)
        · rintro (_ | ⟨hy, hrest⟩)
          rw [hx] at hy
          rw [ih.mpr hrest] at hxs
          cases hy
          cases hxs
          rfl

/-- Where going through a list comes to answers, each member has one. -/
theorem exists_of_mapM_eq_ok {α β ε : Type} {f : α → Except ε β} {xs : List α} {ys : List β}
    {x : α} (h : xs.mapM f = .ok ys) (hx : x ∈ xs) : ∃ y ∈ ys, f x = .ok y := by
  replace h := mapM_eq_ok_iff.mp h
  induction h with
  | nil => cases hx
  | @cons x' y xs ys hy _ ih =>
    rcases List.mem_cons.mp hx with rfl | hx
    · exact ⟨y, List.mem_cons_self, hy⟩
    · obtain ⟨y', hmem, hy'⟩ := ih hx
      exact ⟨y', List.mem_cons_of_mem _ hmem, hy'⟩

/-- And each answer is that of a member. -/
theorem exists_of_mem_mapM {α β ε : Type} {f : α → Except ε β} {xs : List α} {ys : List β}
    {y : β} (h : xs.mapM f = .ok ys) (hy : y ∈ ys) : ∃ x ∈ xs, f x = .ok y := by
  replace h := mapM_eq_ok_iff.mp h
  induction h with
  | nil => cases hy
  | @cons x y' xs ys hx _ ih =>
    rcases List.mem_cons.mp hy with rfl | hy
    · exact ⟨x, List.mem_cons_self, hx⟩
    · obtain ⟨x', hmem, hx'⟩ := ih hy
      exact ⟨x', List.mem_cons_of_mem _ hmem, hx'⟩

/-- Going through a list on which all answers are known. -/
theorem mapM_eq_ok {α β ε : Type} {f : α → Except ε β} {g : α → β} {xs : List α}
    (h : ∀ x ∈ xs, f x = .ok (g x)) : xs.mapM f = .ok (xs.map g) :=
  mapM_eq_ok_iff.mpr (List.forall₂_map_right_iff.mpr (List.forall₂_same.mpr h))

/-- Going through a list on which there always is an answer. -/
theorem exists_mapM_eq_ok {α β ε : Type} {f : α → Except ε β} {xs : List α}
    (h : ∀ x ∈ xs, ∃ b, f x = .ok b) :
    ∃ bs, xs.mapM f = .ok bs ∧ ∀ b, b ∈ bs ↔ ∃ x ∈ xs, f x = .ok b := by
  induction xs with
  | nil => exact ⟨[], rfl, by simp⟩
  | cons x xs ih =>
    obtain ⟨⟨b, hx⟩, hxs⟩ := List.forall_mem_cons.mp h
    obtain ⟨bs, hbs, hmem⟩ := ih hxs
    refine ⟨b :: bs, ?_, fun c => ?_⟩
    · rw [List.mapM_cons, hx, hbs]
      rfl
    · rw [List.exists_mem_cons_iff, List.mem_cons, hmem, hx, Except.ok.injEq, eq_comm]

theorem attemptPack_eq_error_iff :
    attemptPack w config toolkit grammar lang = .error failure ↔
      PackFails w config toolkit grammar lang failure := by
  have hfails : ∀ (file : QueryFile) failure,
      (attemptFile toolkit grammar file).map (file, ·) = .error failure ↔
        FileFails toolkit grammar file failure := by
    intro file failure
    rw [← attemptFile_eq_error_iff]
    cases attemptFile toolkit grammar file <;> simp [Except.map]
  have hjudged : ∀ file : QueryFile,
      (∃ b, (attemptFile toolkit grammar file).map (file, ·) = .ok b) ↔
        ∀ failure, ¬ FileFails toolkit grammar file failure := by
    intro file
    simp only [← attemptFile_eq_error_iff]
    cases attemptFile toolkit grammar file <;> simp [Except.map]
  unfold attemptPack PackFails
  rw [mapM_eq_error_iff]
  simp only [hfails, hjudged]

/-- What compiling a query comes to: a malformed query is told from a failure that goes through. -/
theorem compileQuery_run (name : Text) (text : QueryText) :
    compileQuery toolkit grammar name text w s =
      (match toolkit.compile grammar text with
        | .ok compiled => .ok ⟨name, compiled⟩
        | .error failure =>
          if failure.kind = .badQuery then .error (.malformedQuery name failure.message)
          else .error (.outside failure), s, {}) := by
  unfold compileQuery
  cases toolkit.compile grammar text with
  | ok compiled => rfl
  | error failure =>
    by_cases h : failure.kind = .badQuery
    · simp only [h, beq_self_eq_true, if_true]
      rfl
    · simp only [h, beq_iff_eq, if_false]
      rfl

theorem attempt_compileQuery_gives (name : Text) (text : QueryText) :
    (attempt (compileQuery toolkit grammar name text)).Gives w s (.ok
      (match toolkit.compile grammar text with
        | .ok compiled => .ok ⟨name, compiled⟩
        | .error failure =>
          if failure.kind = .badQuery then .error (.malformedQuery name failure.message)
          else .error (.outside failure))) := by
  unfold Gives Ends attempt
  rw [compileQuery_run]
  exact ⟨rfl, rfl, rfl⟩

/-- What the queries' own part of the program says is not about loading. -/
theorem queriesSource_ne : queriesSource ≠ loaderSource := by decide

theorem compileFile_gives (file : QueryFile) :
    (compileFile toolkit grammar file).Gives w s
      ((((attemptFile toolkit grammar file).map (file, ·)).map
        (·.2.query?)).mapError .outside) := by
  have hwarn : ∀ message, (do
      log .warning queriesSource message
      return none : Action (Option NamedQuery)).Gives w s (.ok none) :=
    fun _ => Ends.otherLog_bind queriesSource_ne (Gives.pure none)
  unfold compileFile attemptFile
  cases file.content with
  | error reason => exact hwarn _
  | ok text =>
    dsimp only
    by_cases hblank : text.isBlank = true
    · simp only [hblank, if_true]
      exact Gives.pure none
    · simp only [hblank]
      refine (attempt_compileQuery_gives file.name text).bind_ends (by rintro _ ⟨⟩) ?_
      rintro _ ⟨⟩
      cases toolkit.compile grammar text with
      | ok compiled =>
        dsimp only
        by_cases hriskless : (⟨file.name, compiled⟩ : NamedQuery).riskCaptures.isEmpty = true
        · simp only [hriskless, if_true]
          exact hwarn _
        · simp only [hriskless]
          exact Gives.pure _
      | error failure =>
        by_cases h : failure.kind = .badQuery
        · simp only [h, if_true]
          exact hwarn _
        · simp only [h, if_false]
          exact Gives.fail _

theorem reportFile_gives (file : QueryFile) :
    (reportFile toolkit grammar file).Gives w s
      ((((attemptFile toolkit grammar file).map (file, ·)).map
        fun p => FileReport.ofVerdict p.1.name p.2).mapError .outside) := by
  unfold reportFile attemptFile
  cases file.content with
  | error reason => exact Gives.pure _
  | ok text =>
    dsimp only
    by_cases hblank : text.isBlank = true
    · simp only [hblank, if_true]
      exact Gives.pure _
    · simp only [hblank]
      refine (attempt_compileQuery_gives file.name text).bind_ends (by rintro _ ⟨⟩) ?_
      rintro _ ⟨⟩
      cases toolkit.compile grammar text with
      | ok compiled =>
        dsimp only
        cases hriskless : (⟨file.name, compiled⟩ : NamedQuery).riskCaptures.isEmpty with
        | true =>
          simp only [if_true]
          exact Gives.pure _
        | false => exact Gives.pure _
      | error failure =>
        by_cases h : failure.kind = .badQuery
        · simp only [h, if_true]
          exact Gives.pure _
        · simp only [h, if_false]
          exact Gives.fail _

theorem compileFiles_gives (config : EngineConfig) (toolkit : Module) (grammar : GrammarRef)
    (lang : Language) :
    (each (compileFile toolkit grammar) (queryFiles w.files config.queries lang)).Gives w s
      (((attemptPack w config toolkit grammar lang).map
        (List.map (·.2.query?))).mapError .outside) :=
  Gives.each compileFile_gives _

theorem reportFiles_gives (config : EngineConfig) (toolkit : Module) (grammar : GrammarRef)
    (lang : Language) :
    (each (reportFile toolkit grammar) (queryFiles w.files config.queries lang)).Gives w s
      (((attemptPack w config toolkit grammar lang).map
        (List.map fun p => FileReport.ofVerdict p.1.name p.2)).mapError .outside) :=
  Gives.each reportFile_gives _

end HookAudit.Engine
