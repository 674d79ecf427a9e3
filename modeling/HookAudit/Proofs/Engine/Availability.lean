/-
# HookAudit.Proofs.Engine.Availability — a look at what is available says what scans will do.

To tell what can be analysed, an engine loads everything that is there, in steps of its own: the
toolkit, and for each language a grammar and queries.  A scan takes these steps again, with other
short cuts.  A language that the look drops is one with something in the way, which in the same world
stays in the way, also where failures are tried again (`Denied`); one that it names has its grammar
and queries from then on.  So the answer says how things stand (`availability_ends`), and every
language is settled by it.  Without retries the look predicts every later scan, whatever becomes of
modules and files (`availability_predicts_scanning`).
-/
import HookAudit.Proofs.Engine.Stability

namespace HookAudit.Engine

open Action

variable {w : World} {s s' : State} {lang : Language} {toolkit : Module} {t : Trace}
  {reason : NoOpinion}

/-- What is settled stays settled along every walk. -/
theorem Walk.lasting (h : Walk w s s' t) : Lasting s s' :=
  h.keeps (I := Lasting s) (fun hmove hs => hs.trans hmove.lasting) (.refl s)

/-! ## What is settled -/

/-- **`SettledAs s lang usable`** — it is settled whether a language can be analysed. -/
def SettledAs (s : State) (lang : Language) (usable : Bool) : Prop :=
  ∃ reason, Settled s lang reason ∧ reason.isNone = usable

theorem SettledAs.lasting {usable : Bool} (h : SettledAs s lang usable)
    (hfinal : s.config.retryUnavailable = false) (hlasting : Lasting s s') :
    SettledAs s' lang usable := by
  obtain ⟨reason, hsettled, hreason⟩ := h
  exact ⟨reason, hsettled.lasting hfinal hlasting, hreason⟩

/-! ## What stands in the way -/

/-- **`Denied w s lang reason`** — in the world as it is, a language is not analysed for a reason, and
trying again does not help. -/
inductive Denied (w : World) (s : State) (lang : Language) : NoOpinion → Prop where
  | noToolkit (unavailable : s.loader.runtime = .unavailable)
      (again : s.config.retryUnavailable = true → attemptToolkit w = .ok none) :
      Denied w s lang .runtimeUnavailable
  | noGrammar {toolkit : Module} (ready : s.loader.runtime = .ready toolkit)
      (missing : lang ∈ s.loader.missing)
      (again : s.config.retryUnavailable = true →
        attemptGrammar w s.config toolkit lang = .ok none) :
      Denied w s lang .grammarUnavailable
  | noQueries {grammar : GrammarRef} (loaded : s.loader.loaded.lookup lang = some grammar)
      (compiled : s.queries.lookup lang = some []) : Denied w s lang .noQueries

/-- **`Denied.move`** — no move in this world takes it out of the way. -/
theorem Denied.move (h : Denied w s lang reason) (hmove : Move w s s' t) :
    Denied w s' lang reason := by
  have hlasting := hmove.lasting
  cases h with
  | noQueries hloaded hcompiled =>
    exact .noQueries (hlasting.loaded _ _ hloaded) (hlasting.queries _ _ hcompiled)
  | noToolkit hunavailable hagain =>
    refine .noToolkit ?_ (by rwa [hmove.config])
    -- the moves that are left without a toolkit look for it again
    have hnone : ∀ toolkit, s.loader.runtime ≠ .ready toolkit := by simp [hunavailable]
    have hretry : s.ToolkitOpen → s.config.retryUnavailable = true := by
      simp [State.ToolkitOpen, hunavailable]
    cases hmove with
    | toolkitFound hopen houtcome =>
      rw [hagain (hretry hopen)] at houtcome
      cases houtcome
    | toolkitAbsent => rfl
    | toolkitFailed => exact hunavailable
    | grammarFound hready => exact absurd hready (hnone _)
    | grammarAbsent _ hready => exact absurd hready (hnone _)
    | grammarFailed => exact hunavailable
    | queriesCompiled => exact hunavailable
    | matcherBuilt => exact hunavailable
  | @noGrammar toolkit hready hmissing hagain =>
    refine .noGrammar (hlasting.toolkit _ hready) ?_ (by rwa [hmove.config])
    cases hmove with
    | toolkitFound hopen => exact absurd hready (hopen.not_ready toolkit)
    | toolkitAbsent _ hopen => exact absurd hready (hopen.not_ready toolkit)
    | grammarFound hready' hopen houtcome =>
      refine mem_missing_withGrammar.mpr ⟨hmissing, ?_⟩
      rintro rfl
      cases hready.symm.trans hready'
      rw [hagain (hopen.2 hmissing)] at houtcome
      cases houtcome
    | grammarAbsent => exact mem_missing_withoutGrammar.mpr (.inr hmissing)
    | toolkitFailed => exact hmissing
    | grammarFailed => exact hmissing
    | queriesCompiled => exact hmissing
    | matcherBuilt => exact hmissing

theorem Denied.walk (h : Denied w s lang reason) (hwalk : Walk w s s' t) :
    Denied w s' lang reason :=
  hwalk.keeps (I := fun s => Denied w s lang reason) (fun hmove hs => hs.move hmove) h

theorem Denied.settled (h : Denied w s lang reason) : Settled s lang (some reason) := by
  cases h with
  | noToolkit hunavailable => exact .noToolkit hunavailable
  | noGrammar hready hmissing => exact .noGrammar hready hmissing
  | noQueries hloaded hcompiled => exact .noQueries hloaded hcompiled

/-- A toolkit that was looked for in vain is in the way of every language. -/
theorem ToolkitStep.denies (h : ToolkitStep w s (.ok false) s' t) (lang : Language) :
    Denied w s' lang .runtimeUnavailable := by
  refine .noToolkit h.unavailable fun hretry => ?_
  cases h with
  | givenUp _ hfinal =>
    rw [hfinal] at hretry
    cases hretry
  | absent _ _ houtcome => exact houtcome

/-- A grammar that was asked for in vain, with the toolkit there, is in the way of its language. -/
theorem GrammarStep.denies (hready : s.loader.runtime = .ready toolkit)
    (h : GrammarStep w s lang (.ok none) s' t) : Denied w s' lang .grammarUnavailable := by
  have hready' : s'.loader.runtime = .ready toolkit := h.walk.lasting.toolkit _ hready
  cases h with
  | givenUp _ hmissing hfinal =>
    refine .noGrammar hready hmissing fun hretry => ?_
    rw [hfinal] at hretry
    cases hretry
  | noToolkit _ hstep => cases (hstep.eq_of_ready hready).1
  | absent _ _ hstep hfound houtcome =>
    obtain ⟨-, rfl, -⟩ := hstep.eq_of_ready hready
    cases hready.symm.trans hfound
    refine .noGrammar hready' (mem_missing_withoutGrammar.mpr (.inl rfl)) fun _ => ?_
    simpa [State.withoutGrammar] using houtcome

/-! ## A look at one language -/

/-- Whether a language can be analysed: its grammar loads, and there are queries. -/
def isUsable (lang : Language) : Action Bool := do
  match ← loadGrammar lang with
  | none => return false
  | some _ => return !(← getQueries lang).isEmpty

/-- **`Seen w s lang usable`** — what a look at a language has come to, with the toolkit there: it has
its grammar and queries, or one of them is not there. -/
inductive Seen (w : World) (s : State) (lang : Language) : Bool → Prop where
  | noGrammar (denied : Denied w s lang .grammarUnavailable) : Seen w s lang false
  | noQueries (denied : Denied w s lang .noQueries) : Seen w s lang false
  | analysable {grammar : GrammarRef} {queries : List NamedQuery}
      (loaded : s.loader.loaded.lookup lang = some grammar)
      (compiled : s.queries.lookup lang = some queries) (some : queries ≠ []) : Seen w s lang true

variable {usable : Bool}

theorem Seen.walk (h : Seen w s lang usable) (hwalk : Walk w s s' t) : Seen w s' lang usable := by
  cases h with
  | noGrammar hdenied => exact .noGrammar (hdenied.walk hwalk)
  | noQueries hdenied => exact .noQueries (hdenied.walk hwalk)
  | analysable hloaded hcompiled hsome =>
    have hlasting := hwalk.lasting
    exact .analysable (hlasting.loaded _ _ hloaded) (hlasting.queries _ _ hcompiled) hsome

theorem Seen.settled (h : Seen w s lang usable) : SettledAs s lang usable := by
  cases h with
  | noGrammar hdenied => exact ⟨_, hdenied.settled, rfl⟩
  | noQueries hdenied => exact ⟨_, hdenied.settled, rfl⟩
  | analysable hloaded hcompiled hsome => exact ⟨_, .analysable hloaded hcompiled hsome, rfl⟩

/-- **`isUsable_ends`** — with the toolkit there, a look at a language brings about what it says. -/
theorem isUsable_ends (hs : Sound s) (hready : s.loader.runtime = .ready toolkit) :
    (isUsable lang).Ends w s fun r s' t =>
      Walk w s s' t ∧ ∀ usable, r = .ok usable → Seen w s' lang usable := by
  unfold isUsable
  refine loadGrammar_ends.bind (fun e s₁ t₁ hstep => ⟨hstep.walk, nofun⟩) ?_
  intro grammar? s₁ t₁ hstep
  cases grammar? with
  | none =>
    refine Ends.pure ?_
    rw [Trace.append_nothing]
    refine ⟨hstep.walk, ?_⟩
    rintro _ ⟨⟩
    exact .noGrammar (hstep.denies hready)
  | some grammar =>
    refine (getQueries_ends (hs.walk hstep.walk)).returning _ ?_
    rintro r s₂ t₂ hqueries
    refine ⟨hstep.walk.trans hqueries.walk, ?_⟩
    intro usable hr
    obtain ⟨hpack, rfl⟩ := hqueries.pack hstep.loaded
    have hloaded : s₂.loader.loaded.lookup lang = some grammar := by
      rw [hpack.frame.2.1]
      exact hstep.loaded
    cases r with
    | error e => cases hr
    | ok queries =>
      cases hr
      have hcompiled := hpack.remembered
      cases queries with
      | nil => exact .noQueries (.noQueries hloaded hcompiled)
      | cons query queries => exact .analysable hloaded hcompiled (List.cons_ne_nil _ _)

/-! ## A look at all languages -/

/-- Going through languages brings about what it says of each: what comes later does not undo what
came before. -/
theorem select_isUsable_ends (hs : Sound s) (hready : s.loader.runtime = .ready toolkit)
    (langs : List Language) :
    (select isUsable langs).Ends w s fun r s' t => Walk w s s' t ∧ ∀ usable, r = .ok usable →
      (∀ lang ∈ usable, Seen w s' lang true) ∧
        ∀ lang ∈ langs, lang ∉ usable → Seen w s' lang false := by
  induction langs generalizing s with
  | nil =>
    refine Ends.pure ⟨.stay, ?_⟩
    rintro _ ⟨⟩
    exact ⟨nofun, nofun⟩
  | cons lang rest ih =>
    refine (isUsable_ends hs hready).bind (fun e s₁ t₁ h => ⟨h.1, nofun⟩) ?_
    rintro keep s₁ t₁ ⟨hwalk, hseen⟩
    refine (ih (hs.walk hwalk) (hwalk.lasting.toolkit _ hready)).returning _ ?_
    rintro r s₂ t₂ ⟨hrest, hothers⟩
    refine ⟨hwalk.trans hrest, ?_⟩
    intro usable hr
    cases r with
    | error e => cases hr
    | ok others =>
      obtain ⟨hkept, hdropped⟩ := hothers others rfl
      have hfirst : Seen w s₂ lang keep := (hseen keep rfl).walk hrest
      cases hr
      cases keep with
      | false =>
        refine ⟨hkept, fun other hother hnot => ?_⟩
        rcases List.mem_cons.mp hother with rfl | hmem
        · exact hfirst
        · exact hdropped other hmem hnot
      | true =>
        refine ⟨List.forall_mem_cons.mpr ⟨hfirst, hkept⟩, fun other hother hnot => ?_⟩
        obtain ⟨hne, hnot⟩ := not_or.mp (mt List.mem_cons.mpr hnot)
        exact hdropped other ((List.mem_cons.mp hother).resolve_left hne) hnot

theorem mem_allLanguages (lang : Language) : lang ∈ Language.all := by
  cases lang <;> decide

/-- **`Explained w s answer`** — how things stand is what an engine answers: there is no toolkit, no
language has both a grammar and queries, or the languages that are named have them. -/
inductive Explained (w : World) (s : State) : Availability → Prop where
  | noToolkit (denied : ∀ lang, Denied w s lang .runtimeUnavailable) :
      Explained w s { available := false, reason := some .runtimeUnavailable }
  | noLanguage (seen : ∀ lang, Seen w s lang false) :
      Explained w s { available := false, reason := some .grammarUnavailable }
  | languages {usable : List Language} (seen : ∀ lang, Seen w s lang (usable.contains lang)) :
      Explained w s { available := true, languages := usable }

/-- **`availability_ends`** — a look at what is available brings about what it says. -/
theorem availability_ends (hs : Sound s) :
    availability.Ends w s fun r s' t =>
      Walk w s s' t ∧ ∀ answer, r = .ok answer → Explained w s' answer := by
  unfold availability
  refine ensureRuntime_ends.bind (fun e s₁ t₁ hstep => ⟨hstep.walk, nofun⟩) ?_
  intro isThere s₁ t₁ hstep
  cases isThere with
  | false =>
    refine Ends.pure ?_
    rw [Trace.append_nothing]
    refine ⟨hstep.walk, ?_⟩
    rintro _ ⟨⟩
    exact .noToolkit hstep.denies
  | true =>
    obtain ⟨toolkit, hready⟩ := hstep.ready
    refine (select_isUsable_ends (hs.walk hstep.walk) hready Language.all).bind
      (fun e s₂ t₂ h => ⟨hstep.walk.trans h.1, nofun⟩) ?_
    rintro usable s₂ t₂ ⟨hwalk, hseen⟩
    obtain ⟨hkept, hdropped⟩ := hseen usable rfl
    -- each language has been looked at, and was kept or dropped
    have hall : ∀ lang, Seen w s₂ lang (usable.contains lang) := by
      intro lang
      by_cases hlang : lang ∈ usable
      · rw [List.contains_iff_mem.mpr hlang]
        exact hkept lang hlang
      · have hnot : usable.contains lang = false := by simpa using hlang
        rw [hnot]
        exact hdropped lang (mem_allLanguages lang) hlang
    cases usable with
    | nil =>
      refine Ends.pure ?_
      rw [Trace.append_nothing]
      refine ⟨hstep.walk.trans hwalk, ?_⟩
      rintro _ ⟨⟩
      exact .noLanguage hall
    | cons first others =>
      refine Ends.pure ?_
      rw [Trace.append_nothing]
      refine ⟨hstep.walk.trans hwalk, ?_⟩
      rintro _ ⟨⟩
      exact .languages hall

/-- **`Explained.settled`** — so every language is settled as the answer says. -/
theorem Explained.settled {answer : Availability} (h : Explained w s answer) (lang : Language) :
    SettledAs s lang (answer.languages.contains lang) := by
  cases h with
  | noToolkit hdenied => exact ⟨_, (hdenied lang).settled, rfl⟩
  | noLanguage hseen => exact (hseen lang).settled
  | languages hseen => exact (hseen lang).settled

/-! ## Scans -/

/-- Whatever a request comes to, what it shows of loading is what loading the grammar shows. -/
theorem RequestStep.grammarStep {content : Text} {r : Except Fault Outcome} (hs : Sound s)
    (h : RequestStep w s content lang r s' t) : ∃ grammar? s₁, GrammarStep w s lang grammar? s₁ t := by
  cases h with
  | noToolkit hstep => exact ⟨_, _, .of_noToolkit hs hstep⟩
  | noGrammar _ hstep => exact ⟨_, _, hstep⟩
  | grammarFailed hstep => exact ⟨_, _, hstep⟩
  | noQueries hstep => exact ⟨_, _, hstep⟩
  | packFailed hstep => exact ⟨_, _, hstep⟩
  | assessed hstep => exact ⟨_, _, hstep⟩

/-- **`Settled.silent`** — a request about a language that is settled loads nothing. -/
theorem Settled.silent {reason : Option NoOpinion} {content : Text} {r : Except Fault Outcome}
    (h : Settled s lang reason) (hs : Sound s) (hfinal : s.config.retryUnavailable = false)
    (hstep : RequestStep w s content lang r s' t) : t = {} := by
  obtain ⟨grammar?, s₁, hgrammar⟩ := hstep.grammarStep hs
  cases h with
  | noToolkit hunavailable => exact (hgrammar.eq_of_givenUp hs hfinal (.inr hunavailable)).2.2
  | noGrammar _ hmissing => exact (hgrammar.eq_of_givenUp hs hfinal (.inl hmissing)).2.2
  | noQueries hloaded => exact (hgrammar.eq_of_loaded hloaded).2.2
  | analysable hloaded => exact (hgrammar.eq_of_loaded hloaded).2.2

/-- **`availability_predicts_scanning`** — take an engine without retries and with any past, let it
say what it can analyse, and let any calls follow but resets, each in a world of its own.  Then a
request about a hook is answered by an assessment if its language is among those named, and by a
reason for no opinion if it is not, in any world and without an import. -/
theorem availability_predicts_scanning (config : EngineConfig)
    (hfinal : config.retryUnavailable = false) (before later : List Call) (w w' : World)
    (answer : Availability) (hlater : ∀ call ∈ later, ¬ call.operation.Forgets)
    (hanswer : (availability w (({ config } : State).after before)).1 = .ok answer)
    (lang : Language) (content : Text) :
    let s' := (availability w (({ config } : State).after before)).2.1.after later
    let run := scanRequest content (some lang) w' s'
    (lang ∈ answer.languages → ∃ assessment, run.1 = .ok (.assessed assessment)) ∧
    (lang ∉ answer.languages → ∃ reason detail, run.1 = .ok (.noOpinion reason detail)) ∧
    run.2.2.imports = [] := by
  intro s' run
  have hs : Sound (({ config } : State).after before) := (Sound.fresh config).after before
  have hconfig := (Sound.fresh config).after_config before
  obtain ⟨hwalk, hexplained⟩ := availability_ends (w := w) hs
  have hbehind := hs.walk hwalk
  have hlasting : Lasting _ s' := .after hbehind hlater
  have hs' : Sound s' := hbehind.after later
  have hfinal' : ∀ s₁ : State, s₁.config = config → s₁.config.retryUnavailable = false := by
    rintro s₁ rfl
    exact hfinal
  obtain ⟨reason, hsettled, hreason⟩ :=
    ((hexplained answer hanswer).settled lang).lasting (hfinal' _ (hwalk.config.trans hconfig))
      hlasting
  have hkept := hfinal' s' (hlasting.config.trans (hwalk.config.trans hconfig))
  have hrequest : RequestStep w' s' content lang run.1 _ run.2.2.loading := scanRequest_ends hs' content
  obtain ⟨outcome, hrun, houtcome⟩ := hsettled.answers hs' hkept hrequest
  refine ⟨fun hmem => ?assessed, fun hnot => ?refused, ?silent⟩
  case assessed =>
    rw [List.contains_iff_mem.mpr hmem, ← houtcome] at hreason
    cases outcome with
    | assessed assessment => exact ⟨assessment, hrun⟩
    | noOpinion reason detail => cases hreason
  case refused =>
    have hcontains : answer.languages.contains lang = false := by simpa using hnot
    rw [hcontains, ← houtcome] at hreason
    cases outcome with
    | assessed assessment => cases hreason
    | noOpinion reason detail => exact ⟨reason, detail, hrun⟩
  case silent => exact congrArg Trace.imports (hsettled.silent hs' hkept hrequest)

/-- In the world of shell hooks an engine names them, and them alone; it still analyses them when
all modules are gone, and still has no opinion on others. -/
theorem shell_is_predicted :
    (availability shellWorld { config := {} }).1 = .ok { available := true, languages := [.bash] } ∧
    (∃ assessment, (scanRequest "curl" (some .bash) bareWorld
      ((availability shellWorld { config := {} }).2.1.after
        [⟨bareWorld, .ask (.getQueries .python)⟩])).1 = .ok (.assessed assessment)) ∧
    ∃ reason detail, (scanRequest "" (some .python) bareWorld
      ((availability shellWorld { config := {} }).2.1.after
        [⟨bareWorld, .ask (.getQueries .python)⟩])).1 = .ok (.noOpinion reason detail) := by
  have hanswer : (availability shellWorld { config := {} }).1 =
      .ok { available := true, languages := [.bash] } := by decide +kernel
  have hlater : ∀ call ∈ ([⟨bareWorld, .ask (.getQueries .python)⟩] : List Call),
      ¬ call.operation.Forgets := by
    intro call hcall
    rw [List.mem_singleton.mp hcall]
    exact id
  have hpredicts := fun lang content => availability_predicts_scanning {} rfl []
    [⟨bareWorld, .ask (.getQueries .python)⟩] shellWorld bareWorld _ hlater hanswer lang content
  exact ⟨hanswer, (hpredicts .bash "curl").1 (by decide), (hpredicts .python "").2.1 (by decide)⟩

end HookAudit.Engine
