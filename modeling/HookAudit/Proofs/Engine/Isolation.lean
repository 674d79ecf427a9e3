/-
# HookAudit.Proofs.Engine.Isolation — a file that is of no use affects no other.

The queries of a language are compiled once, and what comes of a hook in that language depends on
its query files through these queries alone.  Each file contributes on its own, so with more or
fewer files that are of no use the same queries are compiled, the same is remembered, and a hook is
told the same (`Building.elsewhere`, `Building.told_alike`); the difference is in what is said while
compiling.  What is remembered is handed out again without a word, whatever became of the files.
-/
import HookAudit.Proofs.Engine.Building
import HookAudit.Proofs.Engine.Stability
import HookAudit.Proofs.Scanner.Hook

namespace HookAudit.Engine

open Action

variable {w : World} {s s' s₁ s₂ : State} {toolkit : Module} {lang : Language}
  {grammar : GrammarRef} {t : Trace} {files₂ : Files} {queries : List NamedQuery} {content : Text}

/-! ## The call that compiles -/

/-- A pack can be judged when each of its files can; what is compiled of it is what they
contribute. -/
theorem usableQueries_eq_contributions {config : EngineConfig} {judged : List (QueryFile × Verdict)}
    (h : attemptPack w config toolkit grammar lang = .ok judged) :
    (∀ file ∈ queryFiles w.files config.queries lang, ∃ v, Judged toolkit grammar file v) ∧
      usableQueries judged = contributions w.files config.queries lang toolkit grammar := by
  replace h := attemptPack_eq_ok_iff.mp h
  unfold contributions
  generalize queryFiles w.files config.queries lang = files at h
  induction h with
  | nil => exact ⟨by rintro _ ⟨⟩, rfl⟩
  | @cons file p files judged hp _ ih =>
    have hjudged := attemptFile_eq_ok_iff.mp hp.2
    refine ⟨List.forall_mem_cons.mpr ⟨⟨p.2, hjudged⟩, ih.1⟩, ?_⟩
    rw [List.filterMap_cons, hjudged.contribution, ← ih.2]
    rfl

/-- **`Building.of_answers`** — when queries that are not remembered are handed out and the grammar
is there, they were compiled. -/
theorem Building.of_answers (hs : Sound s) (hopen : s.queries.lookup lang = none)
    (hanswer : (getQueries lang).Answers w s queries s')
    (hready : s'.loader.runtime = .ready toolkit)
    (hloaded : s'.loader.loaded.lookup lang = some grammar) :
    ∃ s₁, Building w s lang toolkit grammar s₁ ∧ s' = s₁.withQueries lang queries ∧
      queries = contributions w.files s.config.queries lang toolkit grammar := by
  obtain ⟨s₁, t, judged, hgrammar, hready₁, hpack, hqueries, hstate⟩ :=
    getQueries_compiles hs hopen hanswer hready hloaded
  obtain ⟨hjudged, hsame⟩ := usableQueries_eq_contributions hpack
  exact ⟨s₁, ⟨hopen, ⟨t, hgrammar⟩, hready₁, hjudged⟩, hstate, hqueries.trans hsame⟩

/-- Queries can be compiled when the grammar is handed out and each file comes to something. -/
theorem Building.of_run (hopen : s.queries.lookup lang = none)
    (hload : (loadGrammar lang).Answers w s (some grammar) s₁)
    (hready : s₁.loader.runtime = .ready toolkit)
    (hjudged : ∀ file ∈ queryFiles w.files s.config.queries lang,
      (attemptFile toolkit grammar file).isOk = true) :
    Building w s lang toolkit grammar s₁ where
  isOpen := hopen
  loads := by
    obtain ⟨trace, hrun⟩ := hload
    have hends : GrammarStep w s lang _ _ _ := loadGrammar_ends
    rw [hrun] at hends
    exact ⟨_, hends⟩
  ready := hready
  judged := by
    intro file hfile
    have hok := hjudged file hfile
    cases hattempt : attemptFile toolkit grammar file with
    | ok v => exact ⟨v, attemptFile_eq_ok_iff.mp hattempt⟩
    | error failure =>
      rw [hattempt] at hok
      cases hok

/-- What can be judged can be judged, whatever else there is in the directories. -/
theorem Building.elsewhere (h : Building w s lang toolkit grammar s₁)
    (halike : AlikeBut (Dropped toolkit grammar) w.files files₂ s.config.queries lang) :
    Building { w with files := files₂ } s lang toolkit grammar s₁ where
  isOpen := h.isOpen
  loads := by
    obtain ⟨t, hstep⟩ := h.loads
    refine ⟨t, ?_⟩
    -- loading asks the world for modules only
    cases hstep with
    | there hloaded => exact .there hloaded
    | found hopen hstep hready houtcome =>
      refine .found hopen ?_ hready houtcome
      cases hstep with
      | there hready => exact .there hready
      | found hopen houtcome => exact .found hopen houtcome
  ready := h.ready
  judged := by
    intro file hfile
    by_cases huseless : Dropped toolkit grammar file
    · obtain ⟨v, hjudged, -⟩ := huseless
      exact ⟨v, hjudged⟩
    · exact h.judged file ((halike file huseless).mpr hfile)

/-! ## What a hook is told -/

/-- What a hook is told when these are the queries of its language. -/
def answerWith (w : World) (config : EngineConfig) (lang : Language) (grammar : GrammarRef)
    (queries : List NamedQuery) (content : Text) : Outcome :=
  if queries.isEmpty then noQueriesOutcome lang
  else assessmentOf w config grammar queries content

/-- Where the queries were compiled, getting them comes to nothing else. -/
theorem Building.pack (h : Building w s lang toolkit grammar s₁)
    {r : Except Fault (List NamedQuery)} (hpack : PackStep w s₁ lang r s') :
    let queries := contributions w.files s.config.queries lang toolkit grammar
    r = .ok queries ∧ s' = s₁.withQueries lang queries := by
  obtain ⟨t, hgrammar⟩ := h.loads
  have hopen : s₁.queries.lookup lang = none := by rw [hgrammar.frame.2.1, h.isOpen]
  cases hpack with
  | there hcompiled =>
    rw [hopen] at hcompiled
    cases hcompiled
  | @compiled toolkit' grammar' judged _ hready hloaded houtcome =>
    obtain rfl := RuntimeState.ready.inj (hready.symm.trans h.ready)
    obtain rfl := Option.some.inj (hloaded.symm.trans hgrammar.loaded)
    rw [hgrammar.frame.1] at houtcome
    rw [(usableQueries_eq_contributions houtcome).2]
    exact ⟨rfl, rfl⟩
  | @failed toolkit' grammar' failure _ hready hloaded houtcome =>
    obtain rfl := RuntimeState.ready.inj (hready.symm.trans h.ready)
    obtain rfl := Option.some.inj (hloaded.symm.trans hgrammar.loaded)
    rw [hgrammar.frame.1] at houtcome
    -- no file that can be judged makes compiling fail
    obtain ⟨earlier, file, later, hsplit, hfails, -⟩ := attemptPack_eq_error_iff.mp houtcome
    obtain ⟨v, hjudged⟩ := h.judged file (by rw [hsplit]; simp)
    rw [← attemptFile_eq_ok_iff, attemptFile_eq_error_iff.mpr hfails] at hjudged
    cases hjudged

/-- **`Building.told`** — where the queries are compiled for it, a hook is told what they find. -/
theorem Building.told (h : Building w s lang toolkit grammar s₁) (hs : Sound s)
    {r : Except Fault Outcome} (hstep : RequestStep w s content lang r s' t) :
    let queries := contributions w.files s.config.queries lang toolkit grammar
    r = .ok (answerWith w s.config lang grammar queries content) ∧
      (if queries.isEmpty then s' = s₁.withQueries lang queries
        else MatcherStep (s₁.withQueries lang queries) s') := by
  intro queries
  obtain ⟨t₁, hgrammar⟩ := h.loads
  unfold answerWith
  cases hstep with
  | noToolkit hstep =>
    cases (hgrammar.found_unique (GrammarStep.of_noToolkit hs hstep)).1
  | noGrammar _ hstep => cases (hgrammar.found_unique hstep).1
  | grammarFailed hstep => cases (hgrammar.found_unique hstep).1
  | noQueries hstep hpack =>
    obtain ⟨-, rfl⟩ := hgrammar.found_unique hstep
    obtain ⟨hqueries, hstate⟩ := h.pack hpack
    have hempty : queries = [] := (Except.ok.inj hqueries).symm
    rw [hempty]
    rw [← Except.ok.inj hqueries] at hstate
    exact ⟨rfl, hstate⟩
  | packFailed hstep hpack =>
    obtain ⟨-, rfl⟩ := hgrammar.found_unique hstep
    cases (h.pack hpack).1
  | assessed hstep hpack hsome hmatcher =>
    obtain ⟨hsame, rfl⟩ := hgrammar.found_unique hstep
    cases hsame
    obtain ⟨⟨⟩, rfl⟩ := h.pack hpack
    rw [if_neg (by simpa using hsome), if_neg (by simpa using hsome)]
    exact ⟨rfl, hmatcher⟩

/-- There is one way to have a matcher. -/
theorem MatcherStep.unique (h₁ : MatcherStep s s₁) (h₂ : MatcherStep s s₂) : s₂ = s₁ := by
  cases h₁ with
  | there hbuilt =>
    cases h₂ with
    | there => rfl
    | built _ hopen =>
      rw [hbuilt] at hopen
      cases hopen
  | built hready hopen =>
    cases h₂ with
    | there hbuilt =>
      rw [hbuilt] at hopen
      cases hopen
    | built hready' =>
      cases hready.symm.trans hready'
      rfl

/-- **`Building.told_alike`** — where the same queries are compiled from other files, a hook is told
the same, and the same is remembered. -/
theorem Building.told_alike (h : Building w s lang toolkit grammar s₁) (hs : Sound s)
    (halike : AlikeBut (Dropped toolkit grammar) w.files files₂ s.config.queries lang)
    (hsame : contributions w.files s.config.queries lang toolkit grammar =
      contributions files₂ s.config.queries lang toolkit grammar) (content : Text) :
    let w₂ := { w with files := files₂ }
    (scanRequest content (some lang) w₂ s).1 = (scanRequest content (some lang) w s).1 ∧
      (scanRequest content (some lang) w₂ s).2.1 = (scanRequest content (some lang) w s).2.1 := by
  intro w₂
  have hfirst : RequestStep w s content lang _ _ _ := scanRequest_ends hs content
  have hsecond : RequestStep w₂ s content lang _ _ _ := scanRequest_ends hs content
  obtain ⟨hanswer₁, hstate₁⟩ := h.told hs hfirst
  obtain ⟨hanswer₂, hstate₂⟩ := (h.elsewhere halike).told hs hsecond
  dsimp only at hanswer₂ hstate₂
  rw [← hsame] at hanswer₂ hstate₂
  refine ⟨by rw [hanswer₁, hanswer₂]; rfl, ?_⟩
  split at hstate₁
  · rename_i hnone
    rw [if_pos hnone] at hstate₂
    rw [hstate₁, hstate₂]
  · rename_i hsome
    rw [if_neg hsome] at hstate₂
    exact hstate₁.unique hstate₂

/-! ## Later calls -/

/-- Queries that are remembered are handed out without a word. -/
theorem getQueries_of_compiled (hcompiled : s.queries.lookup lang = some queries) :
    (getQueries lang).Runs w s queries s {} := by
  have hstate : state.Runs w s s s {} := rfl
  unfold getQueries
  refine hstate.bind_silent ?_
  rw [hcompiled]
  exact .pure queries

/-- With queries that are remembered, a hook is told what they find. -/
theorem scanRequest_of_compiled (hs : Sound s)
    (hloaded : s.loader.loaded.lookup lang = some grammar)
    (hcompiled : s.queries.lookup lang = some queries) (content : Text) :
    (scanRequest content (some lang) w s).1 =
      .ok (answerWith w s.config lang grammar queries content) := by
  have hstep : RequestStep w s content lang _ _ _ := scanRequest_ends hs content
  unfold answerWith
  obtain ⟨hanswer, rfl⟩ | ⟨hanswer, hsome⟩ := hstep.eq_of_compiled hs hloaded hcompiled
  · exact hanswer
  · rw [if_neg (by simpa using hsome)]
    exact hanswer

/-! ## Each file on its own -/

/-- **`FilesStandAlone w s s' lang toolkit grammar queries`** — the call that led from `s` to `s'`
and handed out `queries` took each query file of the language on its own. -/
structure FilesStandAlone (w : World) (s s' : State) (lang : Language) (toolkit : Module)
    (grammar : GrammarRef) (queries : List NamedQuery) : Prop where
  /-- The queries are what the files contribute, in order: at most one query each, decided by what
  the file holds. -/
  contributed : queries =
    (queryFiles w.files s.config.queries lang).filterMap (contribution toolkit grammar)
  /-- The files of a language are those of its directory, behind those of the one it inherits. -/
  inherited : queryFiles w.files s.config.queries lang =
    (if lang = .typescript then filesOf w.files s.config.queries .javascript else []) ++
      filesOf w.files s.config.queries lang
  /-- The files of a directory come in the strict order of their names, suffix included. -/
  ordered : ∀ origin ∈ lang.queryLanguages, (filesOf w.files s.config.queries origin).Pairwise
    fun a b => a.path.name.codes < b.path.name.codes
  /-- No two queries have the same name. -/
  named : (queries.map (·.name)).Nodup
  /-- It is of no account in which order directories list their files. -/
  enumerated : ∀ files₂, ListsOnce files₂ s.config.queries lang →
    (∀ file, file ∈ queryFiles w.files s.config.queries lang ↔
      file ∈ queryFiles files₂ s.config.queries lang) →
    queryFiles w.files s.config.queries lang = queryFiles files₂ s.config.queries lang
  /-- With more or fewer files that are of no use, the queries are the same, a hook in the language
  is told the same, and the same is remembered. -/
  unaffected : ∀ files₂, ListsOnce files₂ s.config.queries lang →
    AlikeBut (Dropped toolkit grammar) w.files files₂ s.config.queries lang →
    (getQueries lang).Answers { w with files := files₂ } s queries s' ∧
    ∀ content requested filename, languageOf content requested filename = .ok (some lang) →
      (scan content requested filename { w with files := files₂ } s).1 =
          (scan content requested filename w s).1 ∧
        (scan content requested filename { w with files := files₂ } s).2.1 =
          (scan content requested filename w s).2.1
  /-- Something is said of a file exactly when it is of no use and not blank. -/
  complained : ∀ file ∈ queryFiles w.files s.config.queries lang,
    ((complaint? toolkit grammar file).isSome = true ↔
      contribution toolkit grammar file = none ∧ file.isBlank = false)
  /-- That is said once for each file, and one thing more if no file is of use; nothing else is. -/
  logged : (getQueries lang w s).2.2.logs =
    ((queryFiles w.files s.config.queries lang).filterMap (complaint? toolkit grammar) ++
      if queries.isEmpty then ["No security queries compiled for " ++ lang.name] else []).map
        fun message => ⟨.warning, queriesSource, message⟩
  /-- Until the next reset, the queries are handed out again without a word, and hooks are told what
  these queries find, whatever has become of the files. -/
  remembered : ∀ (later : List Call) (w' : World), (∀ call ∈ later, ¬ call.operation.Forgets) →
    getQueries lang w' (s'.after later) = (.ok queries, s'.after later, {}) ∧
    ∀ content requested filename, languageOf content requested filename = .ok (some lang) →
      (scan content requested filename w' (s'.after later)).1 =
        .ok (answerWith w' s.config lang grammar queries content)

/-- **`query_files_stand_alone`** — take an engine with any past that is to compile the queries of a
language and finds its grammar there.  Whatever its directories hold, no query file affects what
another contributes, and one that is of no use affects nothing but what is said. -/
theorem query_files_stand_alone (config : EngineConfig) (before : List Call) (w : World)
    (lang : Language) (toolkit : Module) (grammar : GrammarRef) (queries : List NamedQuery)
    (s' : State) (honce : ListsOnce w.files config.queries lang)
    (hopen : (({ config } : State).after before).queries.lookup lang = none)
    (hanswer : (getQueries lang).Answers w (({ config } : State).after before) queries s')
    (hready : s'.loader.runtime = .ready toolkit)
    (hloaded : s'.loader.loaded.lookup lang = some grammar) :
    FilesStandAlone w (({ config } : State).after before) s' lang toolkit grammar queries := by
  have hs : Sound (({ config } : State).after before) := (Sound.fresh config).after before
  have hconfig : (({ config } : State).after before).config = config :=
    (Sound.fresh config).after_config before
  generalize ({ config } : State).after before = s at *
  subst hconfig
  obtain ⟨s₁, hbuilding, hstate, hqueries⟩ := Building.of_answers hs hopen hanswer hready hloaded
  obtain ⟨imports, hruns⟩ := hbuilding.runs
  obtain ⟨t, hgrammar⟩ := hbuilding.loads
  have hs' : Sound s' := by
    rw [hstate]
    exact { hs.walk hgrammar.walk with }
  refine { contributed := hqueries, inherited := ?inherited, ordered := ?ordered, named := ?named,
           enumerated := ?enumerated, unaffected := ?unaffected, complained := ?complained,
           logged := ?logged, remembered := ?remembered }
  case inherited =>
    cases lang <;> simp [queryFiles, Language.queryLanguages]
  case ordered =>
    exact fun origin horigin => filesOf_sorted honce horigin
  case named =>
    rw [hqueries]
    exact contributed_names_nodup honce
  case enumerated =>
    exact fun files₂ honce₂ hsame => queryFiles_eq honce honce₂ hsame
  case unaffected =>
    intro files₂ honce₂ halike
    have hsame := halike.contributions honce honce₂
    refine ⟨?_, ?_⟩
    · obtain ⟨imports₂, hruns₂⟩ := (hbuilding.elsewhere halike).runs
      dsimp only at hruns₂
      rw [← hsame, ← hqueries, ← hstate] at hruns₂
      exact hruns₂.answers
    · intro content requested filename hlanguage
      rw [scan_eq_scanRequest hlanguage]
      exact hbuilding.told_alike hs halike hsame content
  case complained =>
    intro file hfile
    obtain ⟨v, hjudged⟩ := hbuilding.judged file hfile
    exact hjudged.complains_iff
  case logged =>
    rw [hqueries, hruns]
    rfl
  case remembered =>
    intro later w' hlater
    have hlasting : Lasting s' (s'.after later) := .after hs' hlater
    have hcompiled : s'.queries.lookup lang = some queries := by
      rw [hstate]
      exact List.lookup_cons_self
    refine ⟨getQueries_of_compiled (hlasting.queries _ _ hcompiled), ?_⟩
    intro content requested filename hlanguage
    have hconfig : (s'.after later).config = s.config := by
      rw [hlasting.config, hstate]
      exact hgrammar.frame.1
    rw [scan_eq_scanRequest hlanguage, ← hconfig]
    exact scanRequest_of_compiled (hs'.after later) (hlasting.loaded _ _ hloaded)
      (hlasting.queries _ _ hcompiled) content

/-- Directories, listed in no order, with a query for each of two languages among files that are
malformed, blank, no text, or name no risk. -/
def litteredFiles : Files where
  tree := .directory [("packs", .directory [
    ("typescript", .directory [
      ("f_net.scm", .file (Text.encode "((call) @danger.net)")),
      ("e_helper.scm", .file (Text.encode "((call) @func)")),
      ("d_octets.scm", .file [255, 254])]),
    ("javascript", .directory [
      ("b_broken.scm", .file (Text.encode "((call) @danger.eval BROKEN")),
      ("c_blank.scm", .file (Text.encode "  \n")),
      ("a_exec.scm", .file (Text.encode "((call) @danger.exec)"))])])]

/-- A world with these directories, a toolkit, and a grammar for typed scripts. -/
def litteredWorld : World :=
  rehearsal [(toolkitModule, .ok (standIn [])), ("tree_sitter_typescript",
    .ok (moduleWith "language_typescript" (.factory (.ok (.labelled "ptr")))))] litteredFiles []

/-- Settings that take the queries from these directories. -/
def litteredConfig : EngineConfig := { queries := .directory ⟨[], ["packs"]⟩ }

/-- A query file in these directories. -/
def litteredFile (directory stem : Text) (content : Except Text QueryText) : QueryFile :=
  ⟨directory ++ "/" ++ stem, ⟨[], ["packs", directory, stem ++ ".scm"]⟩, content⟩

/-- The query files in these directories, in the order in which they are compiled. -/
def litteredQueries : List QueryFile := [
  litteredFile "javascript" "a_exec" (.ok (.written "((call) @danger.exec)")),
  litteredFile "javascript" "b_broken" (.ok (.written "((call) @danger.eval BROKEN")),
  litteredFile "javascript" "c_blank" (.ok (.written "  \n")),
  litteredFile "typescript" "d_octets"
    (.error "'utf-8' codec can't decode byte 0xff in position 0: invalid start byte"),
  litteredFile "typescript" "e_helper" (.ok (.written "((call) @func)")),
  litteredFile "typescript" "f_net" (.ok (.written "((call) @danger.net)"))]

theorem queryFiles_litteredFiles :
    queryFiles litteredFiles litteredConfig.queries .typescript = litteredQueries := by
  have hjavascript : [("b_broken.scm" : Text), "c_blank.scm", "a_exec.scm"].mergeSort Text.le =
      [("a_exec.scm" : Text), "b_broken.scm", "c_blank.scm"] :=
    mergeSort_names (by decide) (by decide)
  have htypescript : [("f_net.scm" : Text), "e_helper.scm", "d_octets.scm"].mergeSort Text.le =
      [("d_octets.scm" : Text), "e_helper.scm", "f_net.scm"] :=
    mergeSort_names (by decide) (by decide)
  show ((List.map _ ([("b_broken.scm" : Text), "c_blank.scm", "a_exec.scm"].mergeSort _)).filter
      _).map _ ++ (((List.map _ ([("f_net.scm" : Text), "e_helper.scm", "d_octets.scm"].mergeSort
      _)).filter _).map _ ++ []) = _
  rw [hjavascript, htypescript]
  rfl

/-- In these directories two files contribute a query, and three are complained of. -/
theorem litter_is_left_aside : ∃ queries s',
    queries.map (·.name) = [("javascript/a_exec" : Text), "typescript/f_net"] ∧
      (getQueries .typescript litteredWorld { config := litteredConfig }).2.2.logs.length = 3 ∧
      FilesStandAlone litteredWorld { config := litteredConfig } s' .typescript (standIn [])
        (.labelled "ptr") queries := by
  have hjudged : ∀ file ∈ queryFiles litteredFiles litteredConfig.queries .typescript,
      (attemptFile (standIn []) (.labelled "ptr") file).isOk = true := by
    rw [queryFiles_litteredFiles]
    decide +kernel
  have hbuilding : Building litteredWorld { config := litteredConfig } .typescript (standIn [])
      (.labelled "ptr") _ :=
    .of_run rfl ⟨_, rfl⟩ rfl hjudged
  obtain ⟨imports, hruns⟩ := hbuilding.runs
  refine ⟨_, _, ?names, ?logs, query_files_stand_alone litteredConfig [] litteredWorld .typescript
    (standIn []) (.labelled "ptr") _ _ ?once rfl hruns.answers rfl rfl⟩
  case names =>
    show ((queryFiles litteredFiles litteredConfig.queries .typescript).filterMap _).map _ = _
    rw [queryFiles_litteredFiles]
    decide +kernel
  case logs =>
    rw [hruns]
    show (List.map _ ((queryFiles litteredFiles litteredConfig.queries .typescript).filterMap _ ++
      if ((queryFiles litteredFiles litteredConfig.queries .typescript).filterMap _).isEmpty
        then _ else _)).length = 3
    rw [queryFiles_litteredFiles]
    decide +kernel
  case once =>
    show ∀ origin ∈ Language.typescript.queryLanguages,
      (listing litteredFiles (Path.child ⟨[], ["packs"]⟩ origin.name)).Nodup
    decide +kernel

end HookAudit.Engine
