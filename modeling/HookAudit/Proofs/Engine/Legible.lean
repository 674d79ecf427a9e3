/-
# HookAudit.Proofs.Engine.Legible — assessments that can be printed line by line.

A finding is made of a capture's name, its place and a snippet.  Only the name comes from outside as
it is: a toolkit reads it from a query, where a name is a single word.  In a world that keeps to
this (`World.Legible`), as the installed one does (`installed_legible`), an engine only ever holds
queries whose names are on one line (`State.Legible.after`), and so is every finding of every
assessment it makes (`scan_upholds`).
-/
import HookAudit.Proofs.Engine.Orderly
import HookAudit.Proofs.Heuristics
import HookAudit.Proofs.Query.Names
import HookAudit.Proofs.Score.Reporting

namespace HookAudit

/-! ## Legible worlds -/

/-- All findings are on one line. -/
def Assessment.Legible (a : Assessment) : Prop := ∀ finding ∈ a.findings, finding.OneLine

namespace Engine

/-- The captures of a source are on one line; what is written is still to be read. -/
def QueryText.Legible : QueryText → Prop
  | .written _ => True
  | .packed query => ∀ name ∈ query.captureNames, name.OneLine

/-- The names that a compiled query declares are on one line. -/
def Compiled.Legible (compiled : Compiled) : Prop := ∀ name ∈ compiled.captureNames, name.OneLine

/-- A toolkit that takes no query with a name on several lines. -/
def Module.Legible (toolkit : Module) : Prop :=
  ∀ grammar text compiled, text.Legible → toolkit.compile grammar text = .ok compiled →
    compiled.Legible

/-- **`w.Legible`** — the world's toolkit reads names on one line, and what is found by queries with
such names has such names. -/
structure World.Legible (w : World) : Prop where
  toolkit : ∀ toolkit, w.importModule toolkitModule = .ok toolkit → toolkit.Legible
  search : ∀ compiled, compiled.Legible → ∀ root source, ∀ found ∈ w.search compiled root source,
    ∀ entry ∈ found, entry.1.OneLine

/-- **`s.Legible`** — so does the toolkit of an engine, and so do the queries it has compiled. -/
structure State.Legible (s : State) : Prop where
  toolkit : ∀ toolkit, s.loader.runtime = .ready toolkit → toolkit.Legible
  queries : ∀ lang queries, s.queries.lookup lang = some queries →
    ∀ query ∈ queries, query.compiled.Legible

open Action

variable {w : World} {s s' : State} {lang : Language} {toolkit : Module} {grammar : GrammarRef}
  {config : EngineConfig} {t : Trace}

/-- **`installed_legible`** — where everything is installed but some modules, names are words. -/
theorem installed_legible (files : Files) (absent : List Text) :
    (installed files absent).Legible where
  toolkit := by
    intro toolkit htoolkit grammar text compiled htext hcompiled
    obtain rfl := toolkit_of_installed htoolkit
    cases grammar with
    | labelled label => cases text <;> cases hcompiled
    | language lang =>
      cases text with
      | packed query =>
        cases hcompiled
        exact htext
      | written source =>
        simp only [Engine.toolkit] at hcompiled
        split at hcompiled
        · rename_i query hread
          cases hcompiled
          exact Query.oneLine_of_read hread
        · cases hcompiled
  search := by
    intro compiled hcompiled root source found hfound entry hentry
    cases compiled with
    | text source names => cases hfound
    | rules query =>
      obtain ⟨m, hm, rfl⟩ := List.mem_map.mp hfound
      exact hcompiled _ (Query.names_of_mem_matches hm entry hentry)

/-! ## What an engine holds -/

/-- The queries that come with the library have names on one line. -/
theorem legible_of_mem_pack : ∀ lang : Language, ∀ packed ∈ lang.pack,
    (QueryText.packed packed.query).Legible := by
  have hall : ∀ lang : Language, ∀ packed ∈ lang.pack, ∀ name ∈ packed.query.captureNames,
      name.OneLine := by
    intro lang
    cases lang <;> decide +kernel
  exact hall

theorem legible_of_mem_queryFiles {files : Files} {source : QuerySource} {file : QueryFile}
    {text : QueryText} (hfile : file ∈ queryFiles files source lang)
    (hcontent : file.content = .ok text) : text.Legible := by
  obtain ⟨origin, -, horigin⟩ := List.mem_flatMap.mp hfile
  cases source with
  | packaged =>
    obtain ⟨packed, hpacked, rfl⟩ := List.mem_map.mp horigin
    cases hcontent
    exact legible_of_mem_pack origin packed hpacked
  | directory root =>
    obtain ⟨path, -, rfl⟩ := List.mem_map.mp horigin
    dsimp only at hcontent
    split at hcontent
    · cases hcontent
      trivial
    · cases hcontent

/-- A query that is kept is what its file compiled to. -/
theorem compiles_of_usable {file : QueryFile} {query : NamedQuery}
    (h : attemptFile toolkit grammar file = .ok (.usable query)) :
    ∃ text, file.content = .ok text ∧ toolkit.compile grammar text = .ok query.compiled := by
  unfold attemptFile at h
  split at h
  · cases h
  · rename_i text hcontent
    split at h
    · cases h
    · split at h
      · rename_i compiled hcompiled
        dsimp only at h
        split at h <;> cases h
        exact ⟨text, hcontent, hcompiled⟩
      · split at h <;> cases h

theorem legible_of_usable {judged : List (QueryFile × Verdict)} (htoolkit : toolkit.Legible)
    (h : attemptPack w config toolkit grammar lang = .ok judged) :
    ∀ query ∈ usableQueries judged, query.compiled.Legible := by
  intro query hquery
  obtain ⟨⟨file, verdict⟩, hjudged, hverdict⟩ := List.mem_filterMap.mp hquery
  obtain ⟨other, hother, hattempt⟩ := exists_of_mem_mapM h hjudged
  cases houtcome : attemptFile toolkit grammar other with
  | error failure =>
    rw [houtcome] at hattempt
    cases hattempt
  | ok outcome =>
    rw [houtcome] at hattempt
    cases hattempt
    cases verdict with
    | usable kept =>
      cases hverdict
      obtain ⟨text, hcontent, hcompiled⟩ := compiles_of_usable houtcome
      exact htoolkit grammar text _ (legible_of_mem_queryFiles hother hcontent) hcompiled
    | _ => cases hverdict

/-- **`State.Legible.move`** — in a legible world every move keeps an engine legible. -/
theorem State.Legible.move (hw : w.Legible) (h : Move w s s' t) (hs : s.Legible) : s'.Legible := by
  cases h with
  | toolkitFound hopen houtcome =>
    refine { hs with toolkit := ?_ }
    rintro _ ⟨⟩
    exact hw.toolkit _ (attemptToolkit_eq_some_iff.mp houtcome).1
  | toolkitAbsent message hopen houtcome =>
    refine { toolkit := ?_, queries := ?_ }
    · rintro _ ⟨⟩
    · simpa [State.withoutToolkit] using hs.queries
  | toolkitFailed => exact hs
  | grammarFound => exact { hs with }
  | grammarAbsent =>
    refine { toolkit := ?_, queries := hs.queries }
    simpa [State.withoutGrammar] using hs.toolkit
  | grammarFailed => exact hs
  | @queriesCompiled toolkit lang grammar judged hready hloaded hopen houtcome =>
    refine { hs with queries := ?_ }
    intro other queries hqueries
    by_cases hother : other = lang
    · subst hother
      obtain rfl : usableQueries judged = queries := by
        simpa [State.withQueries] using hqueries
      exact legible_of_usable (hs.toolkit _ hready) houtcome
    · exact hs.queries other queries ((lookup_cons_of_ne hother).symm.trans hqueries)
  | matcherBuilt => exact { hs with }

theorem State.Legible.walk (hw : w.Legible) (h : Walk w s s' t) (hs : s.Legible) : s'.Legible :=
  h.keeps (State.Legible.move hw) hs

/-- A fresh engine holds nothing. -/
theorem State.Legible.fresh (config : EngineConfig) : ({ config } : State).Legible where
  toolkit := by rintro _ ⟨⟩
  queries := by rintro _ _ ⟨⟩

/-- **`State.Legible.after`** — an engine stays legible through every history in legible worlds. -/
theorem State.Legible.after (hsound : Sound s) (hs : s.Legible) {history : List Call}
    (hlegible : ∀ call ∈ history, call.world.Legible) : (s.after history).Legible := by
  induction history generalizing s with
  | nil => exact hs
  | cons call rest ih =>
    obtain ⟨hw, hrest⟩ := List.forall_mem_cons.mp hlegible
    refine ih (hsound.run call.world call.operation) ?_ hrest
    cases call.operation with
    | ask question =>
      obtain ⟨t, hwalk⟩ := question.walk (w := call.world) hsound
      exact hs.walk hw hwalk
    | isLoaded lang => exact hs
    | reset => exact .fresh s.config
    | resetLoader => exact { hs with toolkit := by rintro _ ⟨⟩ }
    | resetQueries => exact { hs with queries := by rintro _ _ ⟨⟩ }

/-! ## What an engine says -/

theorem name_of_representative? {found : Found} {name : Text} {span : Span}
    (h : Detection.representative? found = some (name, span)) : ∃ spans, (name, spans) ∈ found := by
  induction found with
  | nil => cases h
  | cons entry rest ih =>
    obtain ⟨other, spans⟩ := entry
    have hrest : Detection.representative? rest = some (name, span) →
        ∃ spans', (name, spans') ∈ (other, spans) :: rest := fun h =>
      (ih h).imp fun _ hmem => List.mem_cons_of_mem _ hmem
    cases spans with
    | nil => exact hrest h
    | cons first others =>
      unfold Detection.representative? at h
      split at h
      · cases h
        exact ⟨_, List.mem_cons_self⟩
      · exact hrest h

/-- A capture with a name on one line has a finding on one line. -/
theorem oneLine_finding_of_ofMatch? {found : Found} {source : Text.Octets} {limit : Int}
    {capture : Capture} (hfound : ∀ entry ∈ found, entry.1.OneLine)
    (h : Detection.ofMatch? found source limit = some capture) : capture.finding.OneLine := by
  obtain ⟨⟨name, span⟩, hrepresentative, rfl⟩ := Option.map_eq_some_iff.mp h
  obtain ⟨spans, hmem⟩ := name_of_representative? hrepresentative
  simp only [Capture.finding, Detection.ofSpan, Text.oneLine_append]
  exact ⟨⟨⟨⟨⟨⟨hfound _ hmem, by decide⟩, Text.oneLine_ofInt _⟩, by decide⟩, Text.oneLine_ofInt _⟩,
    by decide⟩, Text.oneLine_normalize _ _⟩

theorem legible_ofCaptures (hw : w.Legible) {queries : List NamedQuery}
    (hqueries : ∀ query ∈ queries, query.compiled.Legible) (grammar : GrammarRef)
    (source : Text.Octets) (limit : Int) :
    (Assessment.ofCaptures (capturesIn w grammar queries source limit)).Legible := by
  intro finding hfinding
  obtain ⟨capture, hfirst, rfl⟩ := Score.mem_findings.mp hfinding
  obtain ⟨found, hfound, hcapture⟩ := List.mem_filterMap.mp hfirst.mem
  obtain ⟨query, hquery, hsearched⟩ := List.mem_flatMap.mp hfound
  exact oneLine_finding_of_ofMatch? (hw.search _ (hqueries query hquery) _ _ found hsearched)
    hcapture

theorem legible_heuristics (content : Text) : (Heuristics.scan content).Legible := by
  intro finding hfinding
  obtain ⟨⟨family, n⟩, hhit, rfl⟩ := List.mem_map.mp hfinding
  have hnames : ∀ family ∈ Heuristics.families, family.name.OneLine := by decide
  have hname := hnames family (Heuristics.mem_hits_iff.mp hhit).1
  simp only [Heuristics.finding, Text.oneLine_append]
  exact ⟨⟨⟨hname, by decide⟩, Text.oneLine_ofNat n⟩, by decide⟩

/-! ## What is upheld -/

/-- **`Watched w s`** — an engine that holds nothing but names on one line, in a world in which it
stays so. -/
structure Watched (w : World) (s : State) : Prop where
  world : w.Legible
  sound : Sound s
  state : s.Legible

theorem Watched.walk (h : Watched w s) (hwalk : Walk w s s' t) : Watched w s' :=
  ⟨h.world, h.sound.walk hwalk, h.state.walk h.world hwalk⟩

namespace Action

variable {α β : Type} {act : Action α} {P : α → Prop} {Q : β → Prop}

/-- **`act.Upholds P`** — whatever a watched engine answers satisfies `P`, and it is left
watched, also by an error. -/
def Upholds (act : Action α) (P : α → Prop) : Prop :=
  ∀ w s, Watched w s → act.Ends w s fun r s' _ => Watched w s' ∧ ∀ a, r = .ok a → P a

theorem Upholds.pure {a : α} (h : P a) : (Pure.pure a : Action α).Upholds P := by
  rintro w s hs
  exact Ends.pure ⟨hs, by rintro _ ⟨⟩; exact h⟩

theorem Upholds.fail (e : Fault) : (fail e : Action α).Upholds P :=
  fun _ _ hs => Ends.fail ⟨hs, by rintro _ ⟨⟩⟩

theorem Upholds.bind {next : α → Action β} (hact : act.Upholds P)
    (hnext : ∀ a, P a → (next a).Upholds Q) : (act >>= next).Upholds Q := by
  intro w s hs
  refine (hact w s hs).bind ?_ ?_
  · rintro e s' t ⟨hs', -⟩
    exact ⟨hs', by rintro _ ⟨⟩⟩
  · rintro a s' t ⟨hs', ha⟩
    exact (hnext a (ha a rfl)) w s' hs'

/-- Looking at the files, or saying something, leaves an engine as it is. -/
theorem Upholds.files : files.Upholds fun _ => True :=
  fun _ _ hs => ⟨hs, fun _ _ => trivial⟩

theorem Upholds.log (level : LogLevel) (source message : Text) :
    (log level source message).Upholds fun _ => True :=
  fun _ _ hs => ⟨hs, fun _ _ => trivial⟩

theorem Upholds.attempt (hact : act.Upholds P) :
    (attempt act).Upholds fun r => ∀ a, r = .ok a → P a := by
  intro w s hs
  obtain ⟨hs', hanswer⟩ := hact w s hs
  exact ⟨hs', by rintro _ ⟨⟩; exact hanswer⟩

theorem Upholds.each {act : α → Action β} {xs : List α} (hact : ∀ a ∈ xs, (act a).Upholds Q) :
    (each act xs).Upholds fun bs => ∀ b ∈ bs, Q b := by
  induction xs with
  | nil => exact .pure (by simp)
  | cons x xs ih =>
    obtain ⟨hx, hxs⟩ := List.forall_mem_cons.mp hact
    refine hx.bind fun b hb => (ih hxs).bind fun bs hbs => .pure ?_
    exact List.forall_mem_cons.mpr ⟨hb, hbs⟩

theorem Upholds.every {act : α → Action β} {xs : List α} (hact : ∀ a ∈ xs, (act a).Upholds Q) :
    (every act xs).Upholds fun bs => ∀ b ∈ bs, Q b := by
  induction xs with
  | nil => exact .pure (by simp)
  | cons x xs ih =>
    obtain ⟨hx, hxs⟩ := List.forall_mem_cons.mp hact
    refine hx.attempt.bind fun first hfirst => (ih hxs).attempt.bind fun others hothers => ?_
    split
    · rename_i b bs
      exact .pure (List.forall_mem_cons.mpr ⟨hfirst b rfl, hothers bs rfl⟩)
    · exact .fail _
    · exact .fail _

end Action

/-! ## Scanning -/

/-- What is said of a hook, if it is assessed, is on single lines. -/
def Outcome.Legible (outcome : Outcome) : Prop := ∀ a, outcome = .assessed a → a.Legible

theorem scanRequest_upholds (content : Text) (lang : Language) :
    (scanRequest content (some lang)).Upholds Outcome.Legible := by
  intro w s hs
  refine (scanRequest_ends hs.sound content).mono fun r s' t h => ⟨hs.walk h.walk, ?_⟩
  rintro outcome rfl a rfl
  cases h with
  | @assessed grammar queries s₁ s₂ _ _ hstep hpack hsome hmatcher =>
    have hqueries := (hs.walk hstep.walk).walk hpack.walk
    exact legible_ofCaptures hs.world (hqueries.state.queries _ _ hpack.remembered) _ _ _

/-- **`scan_upholds`** — whatever the engine says of a hook is on single lines. -/
theorem scan_upholds (content : Text) (requested : Option LanguageName) (filename : Option Text) :
    (scan content requested filename).Upholds Outcome.Legible := by
  unfold scan
  split
  · exact .fail _
  · exact .pure (by rintro a ⟨⟩)
  · exact scanRequest_upholds content _

end Engine

namespace Scanner

open Engine Action

theorem legible_merge {a b : Assessment} (ha : a.Legible) (hb : b.Legible) :
    (a.merge b).Legible := by
  intro finding hfinding
  rcases List.mem_append.mp (mem_distinct.mp hfinding) with h | h
  · exact ha finding h
  · exact hb finding h

theorem assess_upholds (config : ScannerConfig) (content : Text) (filename : Option Text)
    (requested : Option LanguageName) :
    (assess config Engine.scan content filename requested).Upholds fun assessed =>
      assessed.1.Legible := by
  have hheuristics := legible_heuristics content
  unfold assess
  dsimp only
  split
  · exact (Upholds.log _ _ _).bind fun _ _ => .pure hheuristics
  · refine (scan_upholds content requested filename).bind fun outcome houtcome => ?_
    cases outcome with
    | noOpinion reason detail => exact .pure hheuristics
    | assessed a => exact .pure (legible_merge (houtcome a rfl) hheuristics)

end Scanner

end HookAudit
