/-
# HookAudit.Proofs.Engine.Journal — attempts, and what may be said of several.

An attempt at the toolkit is a run of `importToolkit`, an attempt at a grammar a run of
`importGrammar`.  The trace of a run shows which modules were imported but not on whose behalf: two
languages may share a module, and a language without one is attempted without any import.  So the
attempts of a run are kept in a journal, and a journal is held to two things.

* From state to state it follows the rules of loading (`Accounts`): only what is open is attempted,
  what is settled is never open again, a grammar is attempted only with the toolkit there, and the
  first absence of a subject is warned about.
* It is what the run did (`Recounts`): together its attempts show exactly what the run shows of
  loading, and an attempt that raised has ended the run.

Both pass from parts to what is made of them (`Accounts.append`, `Recounts.append`), so that what
the rules forbid a single attempt they forbid a run of any length.
-/
import HookAudit.Proofs.Engine.Stability

namespace HookAudit.Engine

open Action

/-! ## Attempts -/

/-- How an attempt may end. -/
inductive Fate where
  | found
  | absent
  /-- A failure that is no absence goes through. -/
  | raised
deriving DecidableEq

/-- How an attempt has ended. -/
def fateOf {α : Type} : Except Fault (Option α) → Fate
  | .ok (some _) => .found
  | .ok none => .absent
  | .error _ => .raised

/-- An attempt to load something. -/
structure Attempt where
  subject : Subject
  /-- The name of the state in which the toolkit was. -/
  runtime : Text
  fate : Fate
  /-- What the attempt shows of loading. -/
  trace : Trace

/-- The attempt at a subject that an engine makes. -/
def State.attempt (w : World) (s : State) : Subject → Attempt
  | .runtime =>
    let (answer, _, trace) := importToolkit w s
    ⟨.runtime, s.loader.runtime.name, fateOf answer, trace.loading⟩
  | .grammar lang =>
    let (answer, _, trace) := importGrammar lang w s
    ⟨.grammar lang, s.loader.runtime.name, fateOf answer, trace.loading⟩

/-- The modules that an attempt at a subject imports. -/
def importsFor (config : EngineConfig) : Subject → List Text
  | .runtime => [toolkitModule]
  | .grammar lang => grammarImports config lang

/-- **`s.Open subject`** — whether a subject is there is to be found out. -/
def State.Open (s : State) : Subject → Prop
  | .runtime => s.ToolkitOpen
  | .grammar lang => s.GrammarOpen lang

/-- **`a.Settles config`** — the attempt has found its subject, or its absence is final. -/
def Attempt.Settles (config : EngineConfig) (a : Attempt) : Prop :=
  a.fate = .found ∨ a.fate = .absent ∧ config.retryUnavailable = false

/-- **`a.FirstMiss known earlier`** — behind the attempts `earlier`, this one is the first to miss a
subject that is not among those known to be missed. -/
def Attempt.FirstMiss (known : List Subject) (earlier : List Attempt) (a : Attempt) : Prop :=
  a.fate = .absent ∧ a.subject ∉ known ∧ ∀ b ∈ earlier, b.subject = a.subject → b.fate ≠ .absent

/-- One warning about loading, and nothing else. -/
def SingleWarning (logs : List LogEntry) : Prop :=
  ∃ message, logs = [⟨.warning, loaderSource, message⟩]

/-- What attempts together show of loading. -/
def shownBy (as : List Attempt) : Trace := as.foldr (fun a t => a.trace ++ t) {}

variable {w : World} {s s' s₁ s₂ : State} {toolkit : Module} {lang : Language}
  {grammar : GrammarRef} {failure : Failure} {a : Attempt} {as bs : List Attempt} {t : Trace}

theorem shownBy_append : shownBy (as ++ bs) = shownBy as ++ shownBy bs := by
  induction as with
  | nil => rfl
  | cons a as ih =>
    show a.trace ++ shownBy (as ++ bs) = a.trace ++ shownBy as ++ shownBy bs
    rw [ih, Trace.append_assoc]

theorem shownBy_singleton : shownBy [a] = a.trace := Trace.append_nothing _

/-! ## The rules of loading -/

/-- What lasts is no longer open. -/
theorem Lasting.isOpen {x : Subject} (h : Lasting s s') (hopen : s'.Open x) : s.Open x := by
  cases x with
  | runtime =>
    show s.ToolkitOpen
    cases hruntime : s.loader.runtime with
    | uninitialized => simp [State.ToolkitOpen, hruntime]
    | ready toolkit =>
      have hready := h.toolkit toolkit hruntime
      simp [State.Open, State.ToolkitOpen, hready] at hopen
    | unavailable =>
      cases hretry : s.config.retryUnavailable with
      | true => simpa [State.ToolkitOpen, hruntime] using hretry
      | false =>
        have hunavailable := h.unavailable hretry hruntime
        simp [State.Open, State.ToolkitOpen, hunavailable, h.config, hretry] at hopen
  | grammar lang =>
    obtain ⟨hunloaded, hretry⟩ := hopen
    refine ⟨?_, fun hmissing => ?_⟩
    · cases hloaded : s.loader.loaded.lookup lang with
      | none => rfl
      | some grammar =>
        rw [h.loaded lang grammar hloaded] at hunloaded
        cases hunloaded
    · cases hfinal : s.config.retryUnavailable with
      | true => rfl
      | false => rw [← hfinal, ← h.config, hretry (h.missing hfinal lang hmissing)]

/-- **`Accounts s s' as`** — by the rules of loading, the attempts `as` may lead from `s` to
`s'`. -/
structure Accounts (s s' : State) (as : List Attempt) : Prop where
  config : s'.config = s.config
  /-- Nothing becomes open. -/
  isOpen : ∀ x, s'.Open x → s.Open x
  attempted : ∀ a ∈ as, s.Open a.subject
  settled : ∀ a ∈ as, a.Settles s.config → ¬ s'.Open a.subject
  /-- Behind an attempt that settles its subject there is no other. -/
  final : as.Pairwise fun a b => a.subject = b.subject → ¬ a.Settles s.config
  imports : ∀ a ∈ as, a.trace.imports = importsFor s.config a.subject
  ready : ∀ a ∈ as, ∀ lang, a.subject = .grammar lang → a.runtime = "ready"
  warned : ∀ x, x ∈ s'.loader.warned ↔
    x ∈ s.loader.warned ∨ ∃ a ∈ as, a.subject = x ∧ a.fate = .absent
  /-- The first miss of a subject is warned about, and nothing else is said. -/
  warns : ∀ earlier a later, as = earlier ++ a :: later →
    (a.FirstMiss s.loader.warned earlier → SingleWarning a.trace.logs) ∧
      (¬ a.FirstMiss s.loader.warned earlier → a.trace.logs = [])

/-- Without an attempt the loader stays as it is. -/
theorem Accounts.nothing (hconfig : s'.config = s.config) (hloader : s'.loader = s.loader) :
    Accounts s s' [] where
  config := hconfig
  isOpen x := by
    cases x <;> simp [State.Open, State.ToolkitOpen, State.GrammarOpen, hconfig, hloader]
  attempted := by rintro _ ⟨⟩
  settled := by rintro _ ⟨⟩
  final := .nil
  imports := by rintro _ ⟨⟩
  ready := by rintro _ ⟨⟩
  warned x := by simp [hloader]
  warns := by
    intro earlier a later h
    simp at h

/-- Misses are counted from the first state on. -/
theorem Accounts.firstMiss_iff (h : Accounts s s₁ as) {earlier : List Attempt} :
    a.FirstMiss s.loader.warned (as ++ earlier) ↔ a.FirstMiss s₁.loader.warned earlier := by
  unfold Attempt.FirstMiss
  simp only [h.warned, List.mem_append]
  constructor
  · rintro ⟨habsent, hknown, hearlier⟩
    refine ⟨habsent, ?_, fun b hb => hearlier b (.inr hb)⟩
    rintro (hwarned | ⟨b, hb, hsubject, hmissed⟩)
    · exact hknown hwarned
    · exact hearlier b (.inl hb) hsubject hmissed
  · rintro ⟨habsent, hknown, hearlier⟩
    refine ⟨habsent, fun hwarned => hknown (.inl hwarned), ?_⟩
    rintro b (hb | hb) hsubject
    · exact fun hmissed => hknown (.inr ⟨b, hb, hsubject, hmissed⟩)
    · exact hearlier b hb hsubject

/-- **`Accounts.append`** — attempts that lead from one state to another, and further attempts from
there on. -/
theorem Accounts.append (h₁ : Accounts s s₁ as) (h₂ : Accounts s₁ s₂ bs) :
    Accounts s s₂ (as ++ bs) where
  config := h₂.config.trans h₁.config
  isOpen x hopen := h₁.isOpen x (h₂.isOpen x hopen)
  attempted a ha := by
    rcases List.mem_append.mp ha with ha | ha
    · exact h₁.attempted a ha
    · exact h₁.isOpen _ (h₂.attempted a ha)
  settled a ha hsettles hopen := by
    rcases List.mem_append.mp ha with ha | ha
    · exact h₁.settled a ha hsettles (h₂.isOpen _ hopen)
    · exact h₂.settled a ha (h₁.config ▸ hsettles) hopen
  final := by
    refine List.pairwise_append.mpr ⟨h₁.final, h₁.config ▸ h₂.final, ?_⟩
    -- what the first attempts have settled is closed to the second
    intro a ha b hb hsubject hsettles
    exact h₁.settled a ha hsettles (hsubject ▸ h₂.attempted b hb)
  imports a ha := by
    rcases List.mem_append.mp ha with ha | ha
    · exact h₁.imports a ha
    · exact h₁.config ▸ h₂.imports a ha
  ready a ha := by
    rcases List.mem_append.mp ha with ha | ha
    · exact h₁.ready a ha
    · exact h₂.ready a ha
  warned x := by
    rw [h₂.warned, h₁.warned, or_assoc]
    simp only [List.mem_append, or_and_right, exists_or]
  warns earlier a later hsplit := by
    rcases List.append_eq_append_iff.mp hsplit with ⟨more, rfl, hbs⟩ | ⟨rest, rfl, hrest⟩
    · rw [h₁.firstMiss_iff]
      exact h₂.warns more a later hbs
    · cases rest with
      | nil =>
        have hmiss : a.FirstMiss s.loader.warned (earlier ++ [] ++ []) ↔
            a.FirstMiss s₁.loader.warned [] := h₁.firstMiss_iff
        rw [List.append_nil, List.append_nil] at hmiss
        rw [hmiss]
        exact h₂.warns [] a later hrest.symm
      | cons b rest =>
        obtain ⟨rfl, rfl⟩ := List.cons.inj hrest
        exact h₁.warns earlier a rest rfl

/-- What is known of a single attempt: it is a move, made where its subject was open. -/
theorem Accounts.single (hmove : Move w s s' a.trace) (hopen : s.Open a.subject)
    (himports : a.trace.imports = importsFor s.config a.subject)
    (hready : ∀ lang, a.subject = .grammar lang → a.runtime = "ready")
    (hsettled : a.Settles s.config → ¬ s'.Open a.subject)
    (hmissed : a.fate = .absent → s'.loader.warned = (s.warn a.subject).loader.warned ∧
      ∃ message, a.trace.logs = s.warning a.subject message)
    (hother : a.fate ≠ .absent → s'.loader.warned = s.loader.warned ∧ a.trace.logs = []) :
    Accounts s s' [a] where
  config := hmove.config
  isOpen _ := hmove.lasting.isOpen
  attempted := by simpa using hopen
  settled := by simpa using hsettled
  final := List.pairwise_singleton _ _
  imports := by simpa using himports
  ready := by simpa using hready
  warned x := by
    by_cases habsent : a.fate = .absent
    · rw [(hmissed habsent).1]
      unfold State.warn
      split
      · rename_i hknown
        have hmem : a.subject ∈ s.loader.warned := by simpa using hknown
        simp only [List.mem_singleton, exists_eq_left, habsent, and_true]
        constructor
        · exact Or.inl
        · rintro (hx | rfl)
          · exact hx
          · exact hmem
      · simp [habsent, eq_comm, or_comm]
    · rw [(hother habsent).1]
      simp [habsent]
  warns earlier b later hsplit := by
    obtain ⟨rfl, hb⟩ : earlier = [] ∧ [a] = b :: later := by
      cases earlier with
      | nil => exact ⟨rfl, hsplit⟩
      | cons c earlier => simp at hsplit
    obtain ⟨rfl, -⟩ := List.cons.inj hb
    by_cases habsent : a.fate = .absent
    · obtain ⟨-, message, hlogs⟩ := hmissed habsent
      rw [hlogs, State.warning]
      by_cases hknown : a.subject ∈ s.loader.warned
      · simp [Attempt.FirstMiss, hknown]
      · simp [Attempt.FirstMiss, SingleWarning, hknown, habsent]
    · simp [Attempt.FirstMiss, habsent, (hother habsent).2]

/-! ## What attempts recount -/

section Recounts

variable {α β : Type}

/-- **`Recounts s as r s' t`** — the attempts `as` are all that a run from `s` had to do with
loading which ended in `r`, left `s'` and showed `t`. -/
structure Recounts (s : State) (as : List Attempt) (r : Except Fault α) (s' : State) (t : Trace) :
    Prop where
  accounts : Accounts s s' as
  shown : t = shownBy as
  raised : (∃ a ∈ as, a.fate = .raised) → ∃ failure, r = .error (.outside failure)

/-- Without an attempt. -/
theorem Recounts.nothing {r : Except Fault α} (hconfig : s'.config = s.config)
    (hloader : s'.loader = s.loader) : Recounts s [] r s' {} where
  accounts := .nothing hconfig hloader
  shown := rfl
  raised := by rintro ⟨_, ⟨⟩, _⟩

/-- A single attempt. -/
theorem Recounts.single {r : Except Fault α} (haccounts : Accounts s s' [a])
    (hraised : a.fate = .raised → ∃ failure, r = .error (.outside failure)) :
    Recounts s [a] r s' a.trace where
  accounts := haccounts
  shown := shownBy_singleton.symm
  raised := by simpa using hraised

/-- An error ends whatever it is a part of. -/
theorem Recounts.stopped {e : Fault} (h : Recounts s as (.error e : Except Fault α) s' t) :
    Recounts s as (.error e : Except Fault β) s' t where
  accounts := h.accounts
  shown := h.shown
  raised hraised := by
    obtain ⟨failure, hfailure⟩ := h.raised hraised
    exact ⟨failure, congrArg Except.error (Except.error.inj hfailure)⟩

/-- **`Recounts.append`** — an answer, and what was made of it. -/
theorem Recounts.append {b : α} {r : Except Fault β} {t' : Trace}
    (h₁ : Recounts s as (.ok b) s₁ t) (h₂ : Recounts s₁ bs r s₂ t') :
    Recounts s (as ++ bs) r s₂ (t ++ t') where
  accounts := h₁.accounts.append h₂.accounts
  shown := by rw [h₁.shown, h₂.shown, shownBy_append]
  raised := by
    rintro ⟨a, ha, hfate⟩
    rcases List.mem_append.mp ha with ha | ha
    -- what has answered was no attempt that raised
    · obtain ⟨failure, hfailure⟩ := h₁.raised ⟨a, ha, hfate⟩
      cases hfailure
    · exact h₂.raised ⟨a, ha, hfate⟩

end Recounts

/-! ## The attempts themselves -/

/-- The state of a loader that has a toolkit. -/
theorem ready_name (hready : s.loader.runtime = .ready toolkit) :
    s.loader.runtime.name = "ready" := by
  rw [hready]
  rfl

/-- **`attempt_ends`** — to look for a subject that is open and to remember what came of it is a
single attempt, if what is remembered is a move that closes the subject where it has to. -/
theorem attempt_ends {α β : Type} {act : Action (Option α)} {next : Option α → Action β}
    (subject : Subject) {outcome : Except Failure (Option α)} (hopen : s.Open subject)
    (hready : ∀ lang, subject = .grammar lang → s.loader.runtime.name = "ready")
    (hattempt : act.Ends w s fun r s' t =>
      Attempted subject (importsFor s.config subject) s outcome r s' t ∧
        s.attempt w subject = ⟨subject, s.loader.runtime.name, fateOf r, t⟩)
    (hfound : ∀ a, outcome = .ok (some a) → (next (some a)).Ends w s fun _ s' t =>
      t = {} ∧ Move w s s' ⟨importsFor s.config subject, []⟩ ∧ ¬ s'.Open subject ∧
        s'.loader.warned = s.loader.warned)
    (habsent : outcome = .ok none → ∀ message, (next none).Ends w (s.warn subject) fun _ s' t =>
      t = {} ∧ Move w s s' ⟨importsFor s.config subject, s.warning subject message⟩ ∧
        (s.config.retryUnavailable = false → ¬ s'.Open subject) ∧
        s'.loader.warned = (s.warn subject).loader.warned)
    (hfailed : ∀ failure, outcome = .error failure →
      Move w s s ⟨importsFor s.config subject, []⟩) :
    (act >>= next).Ends w s (Recounts s [s.attempt w subject]) := by
  refine hattempt.bind ?_ ?_
  · rintro _ _ _ ⟨⟨⟩, hattempted⟩
    rw [hattempted]
    exact .single (.single (hfailed _ rfl) hopen rfl hready (by rintro (h | ⟨h, -⟩) <;> cases h)
      nofun fun _ => ⟨rfl, rfl⟩) fun _ => ⟨_, rfl⟩
  · rintro a? _ _ ⟨hcame, hattempted⟩
    rw [hattempted]
    cases hcame with
    | found a =>
      refine (hfound a rfl).mono ?_
      rintro r s' _ ⟨rfl, hmove, hclosed, hwarned⟩
      rw [Trace.append_nothing]
      exact .single (.single hmove hopen rfl hready (fun _ => hclosed) nofun
        fun _ => ⟨hwarned, rfl⟩) nofun
    | absent message =>
      refine (habsent rfl message).mono ?_
      rintro r s' _ ⟨rfl, hmove, hclosed, hwarned⟩
      rw [Trace.append_nothing]
      refine .single (.single hmove hopen rfl hready ?_ (fun _ => ⟨hwarned, message, rfl⟩)
        fun h => absurd rfl h) nofun
      rintro (hfate | ⟨-, hfinal⟩)
      · cases hfate
      · exact hclosed hfinal

/-- **`loadToolkit_attempts`** — to look for the toolkit is to attempt it. -/
theorem loadToolkit_attempts (hopen : s.ToolkitOpen) :
    loadToolkit.Ends w s (Recounts s [s.attempt w .runtime]) := by
  have hattempt : importToolkit.Ends w s fun r s' t =>
      Attempted .runtime [toolkitModule] s (attemptToolkit w) r s' t ∧
        s.attempt w .runtime = ⟨.runtime, s.loader.runtime.name, fateOf r, t⟩ :=
    ⟨importToolkit_ends, rfl⟩
  refine attempt_ends .runtime hopen nofun hattempt ?_ ?_ ?_
  · intro found houtcome
    exact Ends.updateLoader_bind (Ends.pure ⟨rfl, .toolkitFound hopen houtcome, id, rfl⟩)
  · intro houtcome message
    refine Ends.updateLoader_bind (Ends.pure ?_)
    rw [State.warn_with_loader]
    refine ⟨rfl, .toolkitAbsent message hopen houtcome, ?_, rfl⟩
    intro hfinal hopen'
    have hretry : s.config.retryUnavailable = true := hopen'
    rw [hfinal] at hretry
    cases hretry
  · exact fun failure houtcome => .toolkitFailed hopen houtcome

/-- Looks for a grammar, where the toolkit is there, and remembers what came of it. -/
def openGrammar (lang : Language) : Action (Option GrammarRef) := do
  match ← importGrammar lang with
  | none =>
    updateLoader fun l =>
      { l with missing := if l.missing.contains lang then l.missing else lang :: l.missing }
    return none
  | some ref =>
    updateLoader fun l =>
      { l with missing := l.missing.filter (· != lang), loaded := (lang, ref) :: l.loaded }
    return some ref

/-- **`openGrammar_attempts`** — to look for a grammar is to attempt it. -/
theorem openGrammar_attempts (hready : s.loader.runtime = .ready toolkit)
    (hopen : s.GrammarOpen lang) :
    (openGrammar lang).Ends w s (Recounts s [s.attempt w (.grammar lang)]) := by
  have hattempt : (importGrammar lang).Ends w s fun r s' t =>
      Attempted (.grammar lang) (grammarImports s.config lang) s
          (attemptGrammar w s.config toolkit lang) r s' t ∧
        s.attempt w (.grammar lang) = ⟨.grammar lang, s.loader.runtime.name, fateOf r, t⟩ :=
    ⟨importGrammar_ends lang (State.toolkit?_of_ready hready), rfl⟩
  refine attempt_ends (.grammar lang) hopen (fun _ _ => ready_name hready) hattempt
    ?_ ?_ ?_
  · intro grammar houtcome
    refine Ends.updateLoader_bind (Ends.pure ⟨rfl, .grammarFound hready hopen houtcome, ?_, rfl⟩)
    rintro ⟨hunloaded, -⟩
    cases hunloaded.symm.trans List.lookup_cons_self
  · intro houtcome message
    refine Ends.updateLoader_bind (Ends.pure ?_)
    rw [State.warn_with_loader, State.warn_missing]
    refine ⟨rfl, .grammarAbsent message hready hopen houtcome, ?_, rfl⟩
    rintro hfinal ⟨-, hretry⟩
    have hagain : s.config.retryUnavailable = true :=
      hretry (mem_missing_withoutGrammar.mpr (.inl rfl))
    rw [hfinal] at hagain
    cases hagain
  · exact fun failure houtcome => .grammarFailed hready hopen houtcome

end HookAudit.Engine
