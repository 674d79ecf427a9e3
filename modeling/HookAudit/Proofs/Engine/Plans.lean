/-
# HookAudit.Proofs.Engine.Plans — operations taken apart into attempts.

A run of an operation happens in one world, and a world answers the same to every import of a
module.  An importer need not: what it said at one attempt it may take back at the next, within one
call.  So an operation is written as a plan of the attempts it makes and of parts that have nothing
to do with loading, and every attempt of a plan is made in a world of its own.  An attempt imports
one module at most, so there is no importer that this leaves out.

A plan is the operation that it is a plan of: carried out in one world, the two are equal
(`Question.plan_run`).  What is shown of every course that a plan may take (`Plan.Always`) therefore
holds of every run of the operation, and of much more.
-/
import HookAudit.Proofs.Engine.Journal

namespace HookAudit.Engine

open Action

variable {w : World} {s s' s₁ : State} {lang : Language} {α β : Type}

namespace Action

variable {α β : Type}

/-! ## Runs that attempt nothing -/

/-- **`act.Quiet`** — no run of `act` has anything to do with loading. -/
def Quiet (act : Action α) : Prop :=
  ∀ w s, act.Ends w s fun _ s' t => s'.config = s.config ∧ s'.loader = s.loader ∧ t = {}

theorem Quiet.pure (a : α) : (Pure.pure a : Action α).Quiet := fun _ _ => ⟨rfl, rfl, rfl⟩

theorem Quiet.fail (e : Fault) : (fail e : Action α).Quiet := fun _ _ => ⟨rfl, rfl, rfl⟩

theorem Quiet.state : state.Quiet := fun _ _ => ⟨rfl, rfl, rfl⟩

theorem Quiet.files : files.Quiet := fun _ _ => ⟨rfl, rfl, rfl⟩

theorem Quiet.parseWith (grammar : GrammarRef) (source : Text.Octets) :
    (parseWith grammar source).Quiet := fun _ _ => ⟨rfl, rfl, rfl⟩

theorem Quiet.search (compiled : Compiled) (root : Node) (source : Text.Octets) :
    (search compiled root source).Quiet := fun _ _ => ⟨rfl, rfl, rfl⟩

theorem Quiet.update {change : State → State} (hconfig : ∀ s, (change s).config = s.config)
    (hloader : ∀ s, (change s).loader = s.loader) : (update change).Quiet :=
  fun _ s => ⟨hconfig s, hloader s, rfl⟩

theorem Quiet.bind {act : Action α} {next : α → Action β} (hact : act.Quiet)
    (hnext : ∀ a, (next a).Quiet) : (act >>= next).Quiet := by
  intro w s
  refine (hact w s).bind (fun _ _ _ h => h) ?_
  rintro a s₁ _ ⟨hconfig, hloader, rfl⟩
  refine (hnext a w s₁).mono ?_
  rintro r s₂ _ ⟨hconfig', hloader', rfl⟩
  exact ⟨hconfig'.trans hconfig, hloader'.trans hloader, rfl⟩

/-- What leaves no mark has nothing to do with loading. -/
theorem Quiet.of_gives {act : Action α} {r : World → State → Except Fault α}
    (h : ∀ w s, act.Gives w s (r w s)) : act.Quiet := by
  intro w s
  refine (h w s).mono ?_
  rintro _ _ _ ⟨-, rfl, rfl⟩
  exact ⟨rfl, rfl, rfl⟩

/-- What others say is nothing about loading. -/
theorem Quiet.log {level : LogLevel} {source message : Text} (hsource : source ≠ loaderSource) :
    (log level source message).Quiet := by
  intro w s
  show (Action.log level source message >>= Pure.pure).Ends w s _
  exact Ends.otherLog_bind hsource (Ends.pure ⟨rfl, rfl, rfl⟩)

theorem Quiet.each {act : α → Action β} (hact : ∀ a, (act a).Quiet) (xs : List α) :
    (each act xs).Quiet := by
  induction xs with
  | nil => exact Quiet.pure []
  | cons x xs ih => exact (hact x).bind fun b => ih.bind fun bs => Quiet.pure (b :: bs)

end Action

/-! ## Plans -/

/-- An operation, taken apart. -/
inductive Plan : Type → Type 1 where
  /-- A part that has nothing to do with loading. -/
  | quiet {α : Type} (act : Action α) (isQuiet : act.Quiet) : Plan α
  /-- An attempt at the toolkit. -/
  | toolkit : Plan Bool
  /-- An attempt at a grammar. -/
  | grammar (lang : Language) : Plan (Option GrammarRef)
  | bind {α β : Type} (first : Plan α) (next : α → Plan β) : Plan β

namespace Plan

instance : Monad Plan where
  pure a := .quiet (Pure.pure a) (Quiet.pure a)
  bind := .bind

/-- The operation that a plan is a plan of. -/
def run : {α : Type} → Plan α → Action α
  | _, .quiet act _ => act
  | _, .toolkit => loadToolkit
  | _, .grammar lang => openGrammar lang
  | _, .bind first next => first.run >>= fun a => (next a).run

/-- How carrying out a plan went. -/
structure Course (α : Type) where
  answer : Except Fault α
  state : State
  /-- What was shown of loading. -/
  shown : Trace
  attempts : List Attempt

/-- How a run of an operation went that makes these attempts. -/
def courseOf (act : Action α) (w : World) (s : State) (as : List Attempt) : Course α :=
  ⟨(act w s).1, (act w s).2.1, (act w s).2.2.loading, as⟩

/-- A course, and what was made of its answer. -/
def Course.andThen (c : Course α) (next : α → State → Course β) : Course β :=
  match c.answer with
  | .error e => ⟨.error e, c.state, c.shown, c.attempts⟩
  | .ok a =>
    let rest := next a c.state
    ⟨rest.answer, rest.state, c.shown ++ rest.shown, c.attempts ++ rest.attempts⟩

/-- Carries a plan out behind `n` attempts, with a world for each attempt. -/
def play (worlds : Nat → World) : {α : Type} → Plan α → Nat → State → Course α
  | _, .quiet act _, n, s => courseOf act (worlds n) s []
  | _, .toolkit, n, s => courseOf loadToolkit (worlds n) s [s.attempt (worlds n) .runtime]
  | _, .grammar lang, n, s =>
    courseOf (openGrammar lang) (worlds n) s [s.attempt (worlds n) (.grammar lang)]
  | _, .bind first next, n, s =>
    let c := first.play worlds n s
    c.andThen fun a s' => (next a).play worlds (n + c.attempts.length) s'

/-- **`plan.Takes s c`** — carried out from `s`, a plan may take the course `c`. -/
def Takes (plan : Plan α) (s : State) (c : Course α) : Prop :=
  ∃ worlds n, plan.play worlds n s = c

/-- **`plan.Always s P`** — whatever course the plan takes from `s`, it is as `P` says. -/
def Always (plan : Plan α) (s : State) (P : Course α → Prop) : Prop := ∀ c, plan.Takes s c → P c

variable {P Q : Course α → Prop} {plan : Plan α} {next : α → Plan β}

theorem Always.mono (h : plan.Always s P) (hPQ : ∀ c, P c → Q c) : plan.Always s Q :=
  fun c hc => hPQ c (h c hc)

theorem Always.pure {a : α} (h : P ⟨.ok a, s, {}, []⟩) : (Pure.pure a : Plan α).Always s P := by
  rintro _ ⟨worlds, n, rfl⟩
  exact h

/-- **`Always.bind`** — an error ends a plan, and an answer is gone on with. -/
theorem Always.bind {P : Course α → Prop} {Q : Course β → Prop} (hfirst : plan.Always s P)
    (herror : ∀ e s' t as, P ⟨.error e, s', t, as⟩ → Q ⟨.error e, s', t, as⟩)
    (hok : ∀ a s' t as, P ⟨.ok a, s', t, as⟩ → (next a).Always s' fun c =>
      Q ⟨c.answer, c.state, t ++ c.shown, as ++ c.attempts⟩) :
    (plan >>= next).Always s Q := by
  rintro _ ⟨worlds, n, rfl⟩
  have hP := hfirst _ ⟨worlds, n, rfl⟩
  show Q (Course.andThen _ _)
  rcases hplay : plan.play worlds n s with ⟨answer, s₁, t, as⟩
  rw [hplay] at hP
  cases answer with
  | error e => exact herror e s₁ t as hP
  | ok a => exact hok a s₁ t as hP _ ⟨worlds, n + as.length, rfl⟩

/-- **`play_const`** — carried out in one world, a plan is the operation. -/
theorem play_const (plan : Plan α) (w : World) (n : Nat) (s : State) :
    ∃ as, plan.play (fun _ => w) n s = courseOf plan.run w s as := by
  -- over all states and counts, since a second part starts from where the first has led
  induction plan generalizing n s with
  | quiet act _ => exact ⟨_, rfl⟩
  | toolkit => exact ⟨_, rfl⟩
  | grammar lang => exact ⟨_, rfl⟩
  | bind first next ihFirst ihNext =>
    obtain ⟨as, hfirst⟩ := ihFirst n s
    show ∃ bs, (first.play (fun _ => w) n s).andThen _ =
      courseOf (first.run >>= fun a => (next a).run) w s bs
    rw [hfirst]
    simp only [courseOf, Course.andThen]
    rcases hrun : first.run w s with ⟨answer, s₁, trace⟩
    cases answer with
    | error e =>
      have hboth : (first.run >>= fun a => (next a).run) w s = (.error e, s₁, trace) := by
        show Action.bind first.run (fun a => (next a).run) w s = _
        rw [Action.bind, hrun]
      refine ⟨as, ?_⟩
      rw [hboth]
    | ok a =>
      obtain ⟨bs, hnext⟩ := ihNext a (n + as.length) s₁
      have hboth : (first.run >>= fun a => (next a).run) w s =
          (((next a).run w s₁).1, ((next a).run w s₁).2.1,
            trace ++ ((next a).run w s₁).2.2) := by
        show Action.bind first.run (fun a => (next a).run) w s = _
        rw [Action.bind, hrun]
      refine ⟨as ++ bs, ?_⟩
      rw [hboth, Trace.loading_append]
      dsimp only
      rw [hnext]
      rfl

end Plan

/-! ## What operations do beside loading -/

theorem requireToolkit_quiet : requireToolkit.Quiet := by
  refine Quiet.state.bind fun s => ?_
  cases s.loader.toolkit? with
  | none => exact .fail _
  | some toolkit => exact .pure _

/-- Once a grammar is there, its queries are compiled without loading anything. -/
theorem compilePack_quiet (s : State) (lang : Language) (grammar : GrammarRef) :
    (do
      let toolkit ← requireToolkit
      let found ← each (compileFile toolkit grammar)
        (queryFiles (← files) s.config.queries lang)
      let queries := found.filterMap id
      if queries.isEmpty then
        log .warning queriesSource ("No security queries compiled for " ++ lang.name)
      update fun s => { s with queries := (lang, queries) :: s.queries }
      return queries : Action (List NamedQuery)).Quiet := by
  refine requireToolkit_quiet.bind fun toolkit => Quiet.files.bind fun files => ?_
  refine (Quiet.each (fun file => .of_gives fun _ _ => compileFile_gives file) _).bind
    fun found => ?_
  have hremember : ∀ queries : List NamedQuery, (do
      update fun s => { s with queries := (lang, queries) :: s.queries }
      return queries : Action (List NamedQuery)).Quiet := fun queries =>
    (Quiet.update (fun _ => rfl) fun _ => rfl).bind fun _ => .pure queries
  dsimp only
  split
  · exact (Quiet.log queriesSource_ne).bind fun _ => hremember _
  · exact hremember _

/-- Nor does looking at the files of a pack load anything. -/
theorem reportPack_quiet (lang : Language) (grammar : GrammarRef) :
    (do
      let toolkit ← requireToolkit
      let s ← state
      let reports ← each (reportFile toolkit grammar)
        (queryFiles (← files) s.config.queries lang)
      return { lang, grammarAvailable := true, files := reports } : Action PackReport).Quiet := by
  refine requireToolkit_quiet.bind fun toolkit => Quiet.state.bind fun s =>
    Quiet.files.bind fun files => ?_
  exact (Quiet.each (fun file => .of_gives fun _ _ => reportFile_gives file) _).bind
    fun reports => .pure _

theorem getMatcher_quiet : getMatcher.Quiet := by
  refine Quiet.state.bind fun s => ?_
  cases s.matcher with
  | some toolkit => exact .pure toolkit
  | none =>
    dsimp only
    cases s.loader.toolkit? with
    | none => exact .fail _
    | some toolkit =>
      exact (Quiet.update (fun _ => rfl) fun _ => rfl).bind fun _ => .pure toolkit

/-- With toolkit, grammar and queries at hand, an analysis loads nothing. -/
theorem analysis_quiet (content : Text) (grammar : GrammarRef) (queries : List NamedQuery) :
    (do
      let toolkit ← getMatcher
      let source := Text.encode content
      let root ← parse (some toolkit) (some grammar) source
      let captures ← matchAll root source (← state).config.snippetLength queries
      return .assessed (Assessment.ofCaptures captures) : Action Outcome).Quiet := by
  refine getMatcher_quiet.bind fun toolkit => ?_
  refine (Quiet.parseWith grammar _).bind fun root => Quiet.state.bind fun s => ?_
  have hmatch : (matchAll root (Text.encode content) s.config.snippetLength queries).Quiet := by
    unfold matchAll
    exact (Quiet.each (fun q => Quiet.search q.compiled root _) queries).bind fun found => .pure _
  exact hmatch.bind fun captures => .pure _

/-- A listing of query files is none of loading. -/
theorem queryFiles_quiet (lang : Language) : (Question.queryFiles lang).ask.Quiet :=
  Quiet.state.bind fun _ => Quiet.files.bind fun _ => .pure _

/-! ## The plans of operations -/

namespace Plan

/-- Looks at the state. -/
def getState : Plan State := .quiet state .state

/-- The plan of looking for the toolkit. -/
def ensureRuntime : Plan Bool := do
  let s ← getState
  match s.loader.runtime with
  | .ready _ => return true
  | .unavailable => if s.config.retryUnavailable then toolkit else return false
  | .uninitialized => toolkit

/-- The plan of loading a grammar. -/
def loadGrammar (lang : Language) : Plan (Option GrammarRef) := do
  let s ← getState
  match s.loader.loaded.lookup lang with
  | some ref => return some ref
  | none =>
    if s.loader.missing.contains lang && !s.config.retryUnavailable then return none
    if !(← ensureRuntime) then return none
    grammar lang

/-- The plan of a selection. -/
def select (test : α → Plan Bool) : List α → Plan (List α)
  | [] => return []
  | a :: rest => do
    let keep ← test a
    let others ← select test rest
    return if keep then a :: others else others

/-- The plan of getting queries. -/
def getQueries (lang : Language) : Plan (List NamedQuery) := do
  let s ← getState
  match s.queries.lookup lang with
  | some queries => return queries
  | none =>
    match ← loadGrammar lang with
    | none => return []
    | some ref => .quiet _ (compilePack_quiet s lang ref)

/-- The plan of validating. -/
def validate (lang : Language) : Plan PackReport := do
  match ← loadGrammar lang with
  | none => return { lang, grammarAvailable := false, files := [] }
  | some ref => .quiet _ (reportPack_quiet lang ref)

/-- The plan of answering a request. -/
def scanRequest (content : Text) (lang : Language) : Plan Outcome := do
  if !(← ensureRuntime) then
    return .noOpinion .runtimeUnavailable "tree-sitter is not installed"
  match ← loadGrammar lang with
  | none => return .noOpinion .grammarUnavailable ("no " ++ lang.name ++ " grammar available")
  | some ref =>
    let queries ← getQueries lang
    if queries.isEmpty then
      return .noOpinion .noQueries ("no " ++ lang.name ++ " queries compiled")
    .quiet _ (analysis_quiet content ref queries)

/-- The plan of a scan. -/
def scan (content : Text) (requested : Option LanguageName) (filename : Option Text) :
    Plan Outcome :=
  match languageOf content requested filename with
  | .error e => .quiet _ (.fail (.language e))
  | .ok none =>
    return .noOpinion .unsupportedLanguage
      ("cannot determine language of " ++ displayName filename)
  | .ok (some lang) => scanRequest content lang

/-- Whether a language can be analysed: the plan of finding out. -/
def isUsable (lang : Language) : Plan Bool := do
  match ← loadGrammar lang with
  | none => return false
  | some _ => return !(← getQueries lang).isEmpty

/-- The plan of finding out what can be analysed. -/
def availability : Plan Availability := do
  if !(← ensureRuntime) then
    return { available := false, reason := some .runtimeUnavailable }
  let usable ← select isUsable Language.all
  if usable.isEmpty then return { available := false, reason := some .grammarUnavailable }
  return { available := true, languages := usable }

/-- The plan of listing the languages. -/
def availableLanguages : Plan (List Language) :=
  select (fun lang => return (← loadGrammar lang).isSome) Language.all

/-- The plan of assessing a hook, with whether the engine has an opinion. -/
def assess (config : ScannerConfig) (content : Text) (filename : Option Text)
    (requested : Option LanguageName) : Plan (Assessment × Bool) := do
  let heuristic := Heuristics.scan content
  if (Text.encodedLength content : Int) > config.maxContentBytes then
    .quiet (do
      log .info Scanner.scannerSource ("Hook " ++ displayName filename ++ " exceeds " ++
        Text.ofInt config.maxContentBytes ++ " bytes; using heuristic scan only")
      return (heuristic, false)) ((Quiet.log (by decide)).bind fun _ => .pure (heuristic, false))
  else
    match ← scan content requested filename with
    | .noOpinion _ _ => return (heuristic, false)
    | .assessed assessment => return (assessment.merge heuristic, true)

/-- The plan of assessing a hook. -/
def scanHook (config : ScannerConfig) (content : Text) (filename : Option Text)
    (requested : Option LanguageName) : Plan Assessment :=
  return (← assess config content filename requested).1

/-! ### Plans are the operations they are plans of -/

theorem run_bind (plan : Plan α) (next : α → Plan β) :
    (plan >>= next).run = plan.run >>= fun a => (next a).run := rfl

/-- What goes on in the same way from every answer. -/
theorem bind_congr {act : Action α} {f g : α → Action β} (h : ∀ a, f a = g a) :
    act >>= f = act >>= g :=
  congrArg (act >>= ·) (funext h)

theorem ensureRuntime_run : ensureRuntime.run = Engine.ensureRuntime := by
  refine bind_congr fun s => ?_
  dsimp only
  cases s.loader.runtime with
  | uninitialized => rfl
  | ready toolkit => rfl
  | unavailable =>
    dsimp only
    split <;> rfl

theorem loadGrammar_run : (loadGrammar lang).run = Engine.loadGrammar lang := by
  refine bind_congr fun s => ?_
  dsimp only
  cases s.loader.loaded.lookup lang with
  | some ref => rfl
  | none =>
    dsimp only
    split
    · rfl
    · rw [run_bind, ensureRuntime_run]
      refine bind_congr fun isThere => ?_
      cases isThere <;> rfl

theorem select_run {test : α → Plan Bool} {test' : α → Action Bool}
    (h : ∀ a, (test a).run = test' a) (xs : List α) :
    (select test xs).run = Action.select test' xs := by
  induction xs with
  | nil => rfl
  | cons x xs ih =>
    rw [select, Action.select, run_bind, h]
    refine bind_congr fun keep => ?_
    rw [run_bind, ih]
    rfl

theorem getQueries_run : (getQueries lang).run = Engine.getQueries lang := by
  refine bind_congr fun s => ?_
  dsimp only
  cases s.queries.lookup lang with
  | some queries => rfl
  | none =>
    dsimp only
    rw [run_bind, loadGrammar_run]
    refine bind_congr fun grammar? => ?_
    cases grammar? <;> rfl

theorem validate_run : (validate lang).run = Engine.validate lang := by
  rw [validate, run_bind, loadGrammar_run]
  refine bind_congr fun grammar? => ?_
  cases grammar? <;> rfl

theorem scanRequest_run (content : Text) :
    (scanRequest content lang).run = Engine.scanRequest content (some lang) := by
  rw [scanRequest, run_bind, ensureRuntime_run]
  refine bind_congr fun isThere => ?_
  cases isThere with
  | false => rfl
  | true =>
    show (loadGrammar lang >>= _).run = _
    rw [run_bind, loadGrammar_run]
    refine bind_congr fun grammar? => ?_
    cases grammar? with
    | none => rfl
    | some ref =>
      dsimp only
      rw [run_bind, getQueries_run]
      refine bind_congr fun queries => ?_
      cases queries <;> rfl

theorem scan_run (content : Text) (requested : Option LanguageName) (filename : Option Text) :
    (scan content requested filename).run = Engine.scan content requested filename := by
  unfold scan Engine.scan
  cases languageOf content requested filename with
  | error e => rfl
  | ok lang? =>
    cases lang? with
    | none => rfl
    | some lang => exact scanRequest_run content

theorem availability_run : availability.run = Engine.availability := by
  rw [availability, run_bind, ensureRuntime_run]
  refine bind_congr fun isThere => ?_
  cases isThere with
  | false => rfl
  | true =>
    have husable : ∀ lang, (isUsable lang).run = (do
        match ← Engine.loadGrammar lang with
        | none => return false
        | some _ => return !(← Engine.getQueries lang).isEmpty) := by
      intro lang
      rw [isUsable, run_bind, loadGrammar_run]
      refine bind_congr fun grammar? => ?_
      cases grammar? with
      | none => rfl
      | some ref =>
        dsimp only
        rw [run_bind, getQueries_run]
        rfl
    show (select isUsable Language.all >>= _).run = _
    rw [run_bind, select_run husable]
    refine bind_congr fun usable => ?_
    cases usable <;> rfl

theorem availableLanguages_run : availableLanguages.run = Engine.availableLanguages := by
  refine select_run (fun lang => ?_) Language.all
  rw [run_bind, loadGrammar_run]
  rfl

theorem scanHook_run (config : ScannerConfig) (content : Text) (filename : Option Text)
    (requested : Option LanguageName) : (scanHook config content filename requested).run =
      Scanner.scanHook config Engine.scan content filename requested := by
  have hassess : (assess config content filename requested).run =
      Scanner.assess config Engine.scan content filename requested := by
    unfold assess Scanner.assess
    dsimp only
    split
    · rfl
    · rw [run_bind, scan_run]
      refine bind_congr fun outcome => ?_
      cases outcome <;> rfl
  rw [scanHook, run_bind, hassess]
  rfl

end Plan

/-- The plan of a question. -/
def Question.plan : Question → Plan Reply
  | .ensureRuntime => return .flag (← Plan.ensureRuntime)
  | .loadGrammar lang => return .grammar (← Plan.loadGrammar lang)
  | .availableLanguages => return .languages (← Plan.availableLanguages)
  | .availability => return .availability (← Plan.availability)
  | .queryFiles lang => .quiet _ (queryFiles_quiet lang)
  | .getQueries lang => return .queries (← Plan.getQueries lang)
  | .validate lang => return .report (← Plan.validate lang)
  | .scan content requested filename => return .outcome (← Plan.scan content requested filename)
  | .scanRequest content lang =>
    match lang with
    | none => return .outcome (.noOpinion .unsupportedLanguage "no language given")
    | some lang => return .outcome (← Plan.scanRequest content lang)
  | .scanHook config content filename requested =>
    return .assessment (← Plan.scanHook config content filename requested)

theorem Question.plan_run (question : Question) : question.plan.run = question.ask := by
  cases question with
  | ensureRuntime => exact congrArg (· >>= _) Plan.ensureRuntime_run
  | loadGrammar lang => exact congrArg (· >>= _) Plan.loadGrammar_run
  | availableLanguages => exact congrArg (· >>= _) Plan.availableLanguages_run
  | availability => exact congrArg (· >>= _) Plan.availability_run
  | queryFiles lang => rfl
  | getQueries lang => exact congrArg (· >>= _) Plan.getQueries_run
  | validate lang => exact congrArg (· >>= _) Plan.validate_run
  | scan content requested filename =>
    exact congrArg (· >>= _) (Plan.scan_run content requested filename)
  | scanRequest content lang =>
    cases lang with
    | none => rfl
    | some lang => exact congrArg (· >>= _) (Plan.scanRequest_run content)
  | scanHook config content filename requested =>
    exact congrArg (· >>= _) (Plan.scanHook_run config content filename requested)

end HookAudit.Engine
