/-
# HookAudit.Proofs.Engine.Agreement — validation and loading see the same files alike.

Getting queries and validating go through the query files of a language separately, each with its
own bookkeeping: the one drops a file that is of no use, the other says what is wrong with it.  File
by file the two come to the same (`FilesMatch`), provided that a source that compiles for the one
compiles for the other; so what validation calls usable is what an analysis will search with, and
every other file is counted once under what is wrong with it.
-/
import HookAudit.Engine.Rehearsal
import HookAudit.Proofs.Engine.Operations

namespace HookAudit.Engine

open Action

variable {w : World} {s s' : State} {lang : Language} {toolkit toolkit₁ toolkit₂ : Module}
  {grammar grammar₁ grammar₂ : GrammarRef} {file : QueryFile} {files : List QueryFile}
  {query? : Option NamedQuery} {entry : FileReport}

/-! ## One file -/

/-- What getting queries keeps of a query file: its query, unless the file is dropped. -/
def kept (toolkit : Module) (grammar : GrammarRef) (w : World) (s : State) (file : QueryFile) :
    Option NamedQuery :=
  match (compileFile toolkit grammar file w s).1 with
  | .ok query? => query?
  | .error _ => none

/-- Whether validation has nothing against a file. -/
def FileReport.usable (f : FileReport) : Bool := f.compiled && !f.riskless

/-- The ways in which a file may be of no use, and which of them validation reports: it failed, it
has nothing to compile, or its query names no risk. -/
def FileReport.defects (f : FileReport) : List Bool :=
  [!f.compiled && !f.empty, f.empty, f.compiled && f.riskless]

/-- **`SameVerdicts toolkit₁ grammar₁ toolkit₂ grammar₂`** — a source that compiles for one grammar
compiles for the other, and declares the same captures. -/
def SameVerdicts (toolkit₁ : Module) (grammar₁ : GrammarRef) (toolkit₂ : Module)
    (grammar₂ : GrammarRef) : Prop :=
  ∀ source, (toolkit₁.compile grammar₁ source).toOption.map Compiled.captureNames =
    (toolkit₂.compile grammar₂ source).toOption.map Compiled.captureNames

/-- **`FilesMatch file query? entry`** — what is kept of a file and what is reported of it agree. -/
structure FilesMatch (file : QueryFile) (query? : Option NamedQuery) (entry : FileReport) :
    Prop where
  name : entry.name = file.name
  apart : ¬ (entry.compiled = true ∧ entry.empty = true)
  /-- A file is dropped for exactly one reason. -/
  defects : entry.defects.count true = if query?.isNone then 1 else 0
  /-- What is kept is reported as usable, with its captures. -/
  shown : (if entry.usable then [(entry.name, entry.captureCount)] else []) =
    (query?.map fun q => (q.name, q.captureNames.length)).toList

theorem kept_eq : kept toolkit grammar w s file =
    match attemptFile toolkit grammar file with
    | .ok verdict => verdict.query?
    | .error _ => none := by
  have hgives : (compileFile toolkit grammar file).Gives w s _ := compileFile_gives file
  obtain ⟨hanswer, -, -⟩ := hgives
  unfold kept
  rw [hanswer]
  cases attemptFile toolkit grammar file <;> rfl

/-- A source fails to compile for both grammars or compiles for both. -/
theorem SameVerdicts.compile_cases (h : SameVerdicts toolkit₁ grammar₁ toolkit₂ grammar₂)
    (source : QueryText) :
    (∃ failure₁ failure₂, toolkit₁.compile grammar₁ source = .error failure₁ ∧
        toolkit₂.compile grammar₂ source = .error failure₂) ∨
      ∃ compiled₁ compiled₂, toolkit₁.compile grammar₁ source = .ok compiled₁ ∧
        toolkit₂.compile grammar₂ source = .ok compiled₂ ∧
        compiled₁.captureNames = compiled₂.captureNames := by
  have hverdict := h source
  cases hcompiled₁ : toolkit₁.compile grammar₁ source with
  | error failure₁ =>
    cases hcompiled₂ : toolkit₂.compile grammar₂ source with
    | error failure₂ => exact .inl ⟨failure₁, failure₂, rfl, rfl⟩
    | ok compiled₂ =>
      rw [hcompiled₁, hcompiled₂] at hverdict
      cases hverdict
  | ok compiled₁ =>
    cases hcompiled₂ : toolkit₂.compile grammar₂ source with
    | error failure₂ =>
      rw [hcompiled₁, hcompiled₂] at hverdict
      cases hverdict
    | ok compiled₂ =>
      rw [hcompiled₁, hcompiled₂] at hverdict
      exact .inr ⟨compiled₁, compiled₂, rfl, rfl, Option.some.inj hverdict⟩

/-- **`Verdict.Alike name v₁ v₂`** — two verdicts on a file of this name that differ at most in why
its query is malformed, or in what it compiled to beside its captures. -/
inductive Verdict.Alike (name : Text) : Verdict → Verdict → Prop where
  | unreadable (reason : Text) : Alike name (.unreadable reason) (.unreadable reason)
  | blank : Alike name .blank .blank
  | malformed (reason₁ reason₂ : Text) : Alike name (.malformed reason₁) (.malformed reason₂)
  | riskless {compiled₁ compiled₂ : Compiled}
      (names : compiled₁.captureNames = compiled₂.captureNames) :
      Alike name (.riskless ⟨name, compiled₁⟩) (.riskless ⟨name, compiled₂⟩)
  | usable {compiled₁ compiled₂ : Compiled}
      (names : compiled₁.captureNames = compiled₂.captureNames) :
      Alike name (.usable ⟨name, compiled₁⟩) (.usable ⟨name, compiled₂⟩)

/-- Where a file has a verdict for both grammars, the verdicts are alike. -/
theorem SameVerdicts.alike {verdict₁ verdict₂ : Verdict}
    (hsame : SameVerdicts toolkit₁ grammar₁ toolkit₂ grammar₂)
    (h₁ : attemptFile toolkit₁ grammar₁ file = .ok verdict₁)
    (h₂ : attemptFile toolkit₂ grammar₂ file = .ok verdict₂) :
    verdict₁.Alike file.name verdict₂ := by
  unfold attemptFile at h₁ h₂
  cases hcontent : file.content with
  | error reason =>
    rw [hcontent] at h₁ h₂
    cases h₁
    cases h₂
    exact .unreadable reason
  | ok source =>
    rw [hcontent] at h₁ h₂
    dsimp only at h₁ h₂
    by_cases hblank : source.isBlank = true
    · rw [if_pos hblank] at h₁ h₂
      cases h₁
      cases h₂
      exact .blank
    rw [if_neg hblank] at h₁ h₂
    obtain ⟨failure₁, failure₂, hfailed₁, hfailed₂⟩ |
      ⟨compiled₁, compiled₂, hcompiled₁, hcompiled₂, hnames⟩ := hsame.compile_cases source
    · rw [hfailed₁] at h₁
      rw [hfailed₂] at h₂
      -- an attempt that came to a verdict met no failure but a malformed query
      dsimp only at h₁ h₂
      split at h₁ <;> cases h₁
      split at h₂ <;> cases h₂
      exact .malformed _ _
    · rw [hcompiled₁] at h₁
      rw [hcompiled₂] at h₂
      have hrisks : (⟨file.name, compiled₁⟩ : NamedQuery).riskCaptures =
          (⟨file.name, compiled₂⟩ : NamedQuery).riskCaptures :=
        congrArg (List.filter isRiskName) hnames
      dsimp only at h₁ h₂
      rw [hrisks] at h₁
      cases h₁
      cases h₂
      split
      · exact .riskless hnames
      · exact .usable hnames

/-- Of alike verdicts, what the one keeps of the file is what the other reports of it. -/
theorem Verdict.Alike.filesMatch {verdict₁ verdict₂ : Verdict}
    (h : verdict₁.Alike file.name verdict₂) :
    FilesMatch file verdict₁.query? (.ofVerdict file.name verdict₂) := by
  cases h with
  | unreadable => exact ⟨rfl, by simp [FileReport.ofVerdict], rfl, rfl⟩
  | blank => exact ⟨rfl, by simp [FileReport.ofVerdict], rfl, rfl⟩
  | malformed => exact ⟨rfl, by simp [FileReport.ofVerdict], rfl, rfl⟩
  | riskless names =>
    exact ⟨rfl, by simp [FileReport.ofVerdict, FileReport.ofVerdict.ofQuery], rfl, rfl⟩
  | @usable compiled₁ compiled₂ names =>
    refine ⟨rfl, by simp [FileReport.ofVerdict, FileReport.ofVerdict.ofQuery], rfl, ?_⟩
    show [(file.name, compiled₂.captureNames.length)] =
      [(file.name, compiled₁.captureNames.length)]
    rw [names]

/-! ## All files -/

/-- A pack that could be judged has a verdict for each of its files. -/
theorem attemptPack_eq_ok_iff {config : EngineConfig} {judged : List (QueryFile × Verdict)} :
    attemptPack w config toolkit grammar lang = .ok judged ↔
      List.Forall₂ (fun file p => p.1 = file ∧ attemptFile toolkit grammar file = .ok p.2)
        (queryFiles w.files config.queries lang) judged := by
  have hone : ∀ (file : QueryFile) (p : QueryFile × Verdict),
      (attemptFile toolkit grammar file).map (file, ·) = .ok p ↔
        p.1 = file ∧ attemptFile toolkit grammar file = .ok p.2 := by
    rintro file ⟨other, verdict⟩
    cases attemptFile toolkit grammar file <;> simp [Except.map, eq_comm]
  unfold attemptPack
  rw [mapM_eq_ok_iff]
  simp only [hone]

/-- The queries of a pack are what is kept of its files. -/
theorem usableQueries_eq {judged : List (QueryFile × Verdict)}
    (h : List.Forall₂ (fun file p => p.1 = file ∧ attemptFile toolkit grammar file = .ok p.2)
      files judged) : usableQueries judged = files.filterMap (kept toolkit grammar w s) := by
  induction h with
  | nil => rfl
  | @cons file p files judged hp _ ih =>
    have hkept : kept toolkit grammar w s file = p.2.query? := by rw [kept_eq, hp.2]
    rw [List.filterMap_cons, hkept, ← ih]
    rfl

/-- What is reported of a pack agrees, file by file, with what is kept of it. -/
theorem entries_match {judged₁ judged₂ : List (QueryFile × Verdict)}
    (hsame : SameVerdicts toolkit₁ grammar₁ toolkit₂ grammar₂)
    (h₁ : List.Forall₂ (fun file p => p.1 = file ∧ attemptFile toolkit₁ grammar₁ file = .ok p.2)
      files judged₁)
    (h₂ : List.Forall₂ (fun file p => p.1 = file ∧ attemptFile toolkit₂ grammar₂ file = .ok p.2)
      files judged₂) :
    List.Forall₂ (fun file => FilesMatch file (kept toolkit₁ grammar₁ w s file)) files
      (fileReports judged₂) := by
  induction h₁ generalizing judged₂ with
  | nil =>
    cases h₂
    exact .nil
  | @cons file p files judged₁ hp _ ih =>
    obtain _ | ⟨hq, hrest⟩ := h₂
    refine .cons ?_ (ih hrest)
    rw [kept_eq, hp.2]
    dsimp only
    rw [hq.1]
    exact (hsame.alike hp.2 hq.2).filesMatch

/-- What is kept of the files is what is reported as usable. -/
theorem shown_of_entries {keep : QueryFile → Option NamedQuery} {entries : List FileReport}
    (h : List.Forall₂ (fun file => FilesMatch file (keep file)) files entries) :
    (files.filterMap keep).map (fun q => (q.name, q.captureNames.length)) =
      (entries.filter (·.usable)).map fun f => (f.name, f.captureCount) := by
  induction h with
  | nil => rfl
  | @cons file entry files entries hentry _ ih =>
    have hshown := hentry.shown
    rw [List.filterMap_cons, List.filter_cons]
    cases hkeep : keep file with
    | none =>
      rw [hkeep] at hshown
      cases husable : entry.usable with
      | true =>
        rw [husable] at hshown
        cases hshown
      | false => simpa using ih
    | some q =>
      rw [hkeep] at hshown
      cases husable : entry.usable with
      | true =>
        rw [husable] at hshown
        simp only [if_true, List.map_cons, ih]
        exact congrArg (· :: _) (List.cons.inj hshown).1.symm
      | false =>
        rw [husable] at hshown
        cases hshown

/-- No entry is both compiled and empty. -/
theorem apart_of_entries {keep : QueryFile → Option NamedQuery} {entries : List FileReport}
    (h : List.Forall₂ (fun file => FilesMatch file (keep file)) files entries) :
    ∀ f ∈ entries, ¬ (f.compiled = true ∧ f.empty = true) := by
  induction h with
  | nil => rintro _ ⟨⟩
  | cons hentry _ ih => exact List.forall_mem_cons.mpr ⟨hentry.apart, ih⟩

namespace PackReport

/-- Every entry of a report is counted once: among the errors, the compiled or the empty. -/
theorem counts_add_up {report : PackReport}
    (h : ∀ f ∈ report.files, ¬ (f.compiled = true ∧ f.empty = true)) :
    report.errorCount + report.compiledCount + (report.files.filter (·.empty)).length =
      report.files.length := by
  unfold errorCount compiledCount
  generalize report.files = entries at h
  induction entries with
  | nil => rfl
  | cons f entries ih =>
    obtain ⟨hf, hrest⟩ := List.forall_mem_cons.mp h
    have hcount := ih hrest
    cases hcompiled : f.compiled <;> cases hempty : f.empty <;>
      simp_all <;> omega

end PackReport

/-! ## Loading and validating -/

/-- A language without a grammar has none loaded. -/
theorem GrammarStep.not_loaded {t : Trace} (h : GrammarStep w s lang (.ok none) s' t) :
    s'.loader.loaded.lookup lang = none := by
  cases h with
  | givenUp hunloaded => exact hunloaded
  | noToolkit hopen hstep => rw [hstep.frame.2.1, hopen.1]
  | absent message hopen hstep =>
    show (State.withoutGrammar _ lang).loader.loaded.lookup lang = none
    rw [State.withoutGrammar, State.warn_loaded, hstep.frame.2.1, hopen.1]

/-- Getting queries that are not remembered compiles the pack with the grammar it leaves loaded, and
remembers what it hands out. -/
theorem getQueries_compiles {queries : List NamedQuery} (hs : Sound s)
    (hopen : s.queries.lookup lang = none) (hanswer : (getQueries lang).Answers w s queries s')
    (hready : s'.loader.runtime = .ready toolkit)
    (hloaded : s'.loader.loaded.lookup lang = some grammar) :
    ∃ s₁ t judged, GrammarStep w s lang (.ok (some grammar)) s₁ t ∧
      s₁.loader.runtime = .ready toolkit ∧
      attemptPack w s.config toolkit grammar lang = .ok judged ∧
      queries = usableQueries judged ∧ s' = s₁.withQueries lang queries := by
  obtain ⟨t, hstep⟩ : ∃ t, QueriesStep w s lang (.ok queries) s' t := by
    obtain ⟨trace, hrun⟩ := hanswer
    have hends : (getQueries lang).Ends w s _ := getQueries_ends hs
    rw [Ends, hrun] at hends
    exact ⟨_, hends⟩
  cases hstep with
  | there hcompiled =>
    rw [hopen] at hcompiled
    cases hcompiled
  | noGrammar _ hgrammar =>
    rw [hgrammar.not_loaded] at hloaded
    cases hloaded
  | @packed found _ s₁ _ _ _ hgrammar hpack =>
    cases hpack with
    | there hcompiled =>
      rw [hgrammar.frame.2.1, hopen] at hcompiled
      cases hcompiled
    | @compiled toolkit' grammar' judged _ hready' hloaded' houtcome =>
      obtain rfl := RuntimeState.ready.inj (hready'.symm.trans hready)
      obtain rfl := Option.some.inj (hloaded'.symm.trans hloaded)
      obtain rfl := Option.some.inj (hloaded'.symm.trans hgrammar.loaded)
      rw [hgrammar.frame.1] at houtcome
      exact ⟨s₁, t, judged, hgrammar, hready', houtcome, rfl, rfl⟩

/-- Validating judges the pack with the grammar it leaves loaded. -/
theorem validate_judges {report : PackReport} (hs : Sound s)
    (hanswer : (validate lang).Answers w s report s')
    (hready : s'.loader.runtime = .ready toolkit)
    (hloaded : s'.loader.loaded.lookup lang = some grammar) :
    ∃ judged, attemptPack w s.config toolkit grammar lang = .ok judged ∧
      report.files = fileReports judged := by
  obtain ⟨t, hstep⟩ : ∃ t, ValidateStep w s lang (.ok report) s' t := by
    obtain ⟨trace, hrun⟩ := hanswer
    have hends : (validate lang).Ends w s _ := validate_ends hs
    rw [Ends, hrun] at hends
    exact ⟨_, hends⟩
  cases hstep with
  | noGrammar hgrammar =>
    rw [hgrammar.not_loaded] at hloaded
    cases hloaded
  | @judged toolkit' grammar' judged _ _ hgrammar hready' houtcome =>
    rw [hgrammar.loaded] at hloaded
    rw [hready] at hready'
    cases hloaded
    cases hready'
    exact ⟨judged, houtcome, rfl⟩

/-- However validation ends, it leaves the compiled queries as they are. -/
theorem ValidateStep.queries {r : Except Fault PackReport} {t : Trace}
    (h : ValidateStep w s lang r s' t) : s'.queries = s.queries := by
  cases h with
  | noGrammar hgrammar => exact hgrammar.frame.2.1
  | grammarFailed hgrammar => exact hgrammar.frame.2.1
  | judged hgrammar => exact hgrammar.frame.2.1
  | packFailed hgrammar => exact hgrammar.frame.2.1

/-- **`PackAgreement keep files queries report`** — of these query files, of which loading keeps
what `keep` says, the queries and the report agree. -/
structure PackAgreement (keep : QueryFile → Option NamedQuery) (files : List QueryFile)
    (queries : List NamedQuery) (report : PackReport) : Prop where
  /-- The queries are what is kept of the files. -/
  built : queries = files.filterMap keep
  /-- They are what the report calls usable, in order, with as many captures. -/
  usable : queries.map (fun q => (q.name, q.captureNames.length)) =
    (report.files.filter (·.usable)).map fun f => (f.name, f.captureCount)
  /-- Every file is reported, under exactly one defect if it is dropped and none if it is kept. -/
  entries : List.Forall₂ (fun file entry => entry.name = file.name ∧
    entry.defects.count true = if (keep file).isNone then 1 else 0) files report.files
  counts : report.errorCount + report.compiledCount + (report.files.filter (·.empty)).length =
    files.length

/-- **`validation_agrees_with_loading`** — take two engines with the same settings and any past, in
worlds with the same query files.  If the one builds the queries of a language and the other
validates them, with grammars that come to the same verdict on every source, then what the one
keeps and what the other reports agree.  And whatever comes of validation, the compiled queries of
an engine stay as they are. -/
theorem validation_agrees_with_loading (config : EngineConfig) (before₁ before₂ : List Call)
    (w₁ w₂ : World) (lang : Language) :
    let s₁ := ({ config } : State).after before₁
    let s₂ := ({ config } : State).after before₂
    (validate lang w₂ s₂).2.1.queries = s₂.queries ∧
    ∀ (queries : List NamedQuery) (report : PackReport) (s₁' s₂' : State)
      (toolkit₁ toolkit₂ : Module) (grammar₁ grammar₂ : GrammarRef),
      queryFiles w₁.files config.queries lang = queryFiles w₂.files config.queries lang →
      s₁.queries.lookup lang = none → (getQueries lang).Answers w₁ s₁ queries s₁' →
      (validate lang).Answers w₂ s₂ report s₂' →
      s₁'.loader.runtime = .ready toolkit₁ → s₁'.loader.loaded.lookup lang = some grammar₁ →
      s₂'.loader.runtime = .ready toolkit₂ → s₂'.loader.loaded.lookup lang = some grammar₂ →
      SameVerdicts toolkit₁ grammar₁ toolkit₂ grammar₂ →
      PackAgreement (kept toolkit₁ grammar₁ w₁ s₁') (queryFiles w₂.files config.queries lang)
        queries report := by
  intro s₁ s₂
  have hs₁ : Sound s₁ := (Sound.fresh config).after before₁
  have hs₂ : Sound s₂ := (Sound.fresh config).after before₂
  have hconfig₁ : s₁.config = config := (Sound.fresh config).after_config before₁
  have hconfig₂ : s₂.config = config := (Sound.fresh config).after_config before₂
  refine ⟨ValidateStep.queries (validate_ends hs₂), ?_⟩
  intro queries report s₁' s₂' toolkit₁ toolkit₂ grammar₁ grammar₂ hfiles hopen hqueries hreport
    hready₁ hloaded₁ hready₂ hloaded₂ hsame
  obtain ⟨-, -, judged₁, -, -, hpack₁, rfl, -⟩ :=
    getQueries_compiles hs₁ hopen hqueries hready₁ hloaded₁
  obtain ⟨judged₂, hpack₂, hentries⟩ := validate_judges hs₂ hreport hready₂ hloaded₂
  rw [hconfig₁, attemptPack_eq_ok_iff, hfiles] at hpack₁
  rw [hconfig₂, attemptPack_eq_ok_iff] at hpack₂
  have hmatch := entries_match (w := w₁) (s := s₁') hsame hpack₁ hpack₂
  rw [← hentries] at hmatch
  have hkept : usableQueries judged₁ = _ := usableQueries_eq (w := w₁) (s := s₁') hpack₁
  refine ⟨hkept, ?usable, ?entries, ?counts⟩
  case usable =>
    rw [hkept]
    exact shown_of_entries hmatch
  case entries =>
    exact hmatch.imp fun file f h => ⟨h.name, h.defects⟩
  case counts =>
    rw [hmatch.length_eq]
    exact PackReport.counts_add_up (apart_of_entries hmatch)

/-- A toolkit that takes the queries with one capture, finds no capture in those with two, and
refuses the others. -/
def pickyToolkit : Module :=
  { standIn [] with
    compile := fun _ source => match source with
      | .packed query =>
        if query.captureNames.length ≤ 1 then .ok (.text [] query.captureNames)
        else if query.captureNames.length ≤ 2 then .ok (.text [] [])
        else .error ⟨.badQuery, "too many captures"⟩
      | .written _ => .error ⟨.badQuery, "not packed"⟩ }

/-- A world with that toolkit and a grammar for shell hooks. -/
def pickyWorld : World :=
  rehearsal [(toolkitModule, .ok pickyToolkit),
    ("tree_sitter_bash", .ok (moduleWith "language" (.factory (.ok (.labelled "ptr")))))] {} []

/-- With that toolkit, loading keeps three of the shell queries; validation reports four as failed
and five as naming no risk, and the two agree. -/
theorem picky_toolkit_is_agreed_on : ∃ queries report s',
    queries.length = 3 ∧ report.errorCount = 4 ∧ (report.files.filter (·.riskless)).length = 5 ∧
      PackAgreement (kept pickyToolkit (.labelled "ptr") pickyWorld s')
        (queryFiles {} .packaged .bash) queries report := by
  refine ⟨_, _, _, ?_, ?_, ?_, (validation_agrees_with_loading {} [] [] pickyWorld pickyWorld
    .bash).2 _ _ _ _ pickyToolkit pickyToolkit _ _ rfl rfl ⟨_, rfl⟩ ⟨_, rfl⟩ rfl rfl rfl rfl
    fun _ => rfl⟩
  · decide +kernel
  · decide +kernel
  · decide +kernel

end HookAudit.Engine
