/-
# HookAudit.Proofs.Engine.Reasons — what the reason for having no language means.

An engine that can analyse no language gives a reason.  Without a toolkit it is that; otherwise it is
that grammars are not available, whatever keeps the languages from being analysed: a look at a
language asks for its grammar and its queries at once and drops it if either is not there.  A request
tells the two apart.

As long as the world stays as it is, what a language was dropped for comes up again, and a request
says which of the two it is (`Denied.answers`).  So the reason is the one that requests give in each
language without a grammar, and in no other (`reason_is_told_of_missing_grammars`).  Where every
grammar loads and no query compiles, nobody is told the reason
(`unqueried_grammars_are_called_unavailable`).
-/
import HookAudit.Proofs.Engine.Availability

namespace HookAudit.Engine

open Action

variable {w : World} {s s' : State} {lang : Language} {toolkit : Module} {t : Trace}
  {reason : NoOpinion}

/-! ## What is said about it -/

/-- Where the toolkit is not there, looking for it says so. -/
theorem ToolkitStep.eq_of_denied {r : Except Fault Bool}
    (hunavailable : s.loader.runtime = .unavailable)
    (hagain : s.config.retryUnavailable = true → attemptToolkit w = .ok none)
    (h : ToolkitStep w s r s' t) : r = .ok false := by
  cases hretry : s.config.retryUnavailable with
  | false => exact (h.eq_of_unavailable hunavailable hretry).1
  | true =>
    have hopen : s.ToolkitOpen := by simp [State.ToolkitOpen, hunavailable, hretry]
    rw [h.answer_of_open hopen, hagain hretry]
    rfl

/-- A grammar of a language with this reason is handed out when queries are what is missing, and
refused otherwise. -/
theorem Denied.grammar {r : Except Fault (Option GrammarRef)} (h : Denied w s lang reason)
    (hs : Sound s) (hstep : GrammarStep w s lang r s' t) :
    if reason = .noQueries then ∃ grammar, r = .ok (some grammar) else r = .ok none := by
  cases h with
  | noQueries hloaded => exact ⟨_, (hstep.eq_of_loaded hloaded).1⟩
  | noToolkit hunavailable hagain =>
    have hrefused : ∀ {r s' t}, ToolkitStep w s r s' t → r = .ok false :=
      ToolkitStep.eq_of_denied hunavailable hagain
    -- nothing has been loaded without a toolkit
    have hunready : ∀ toolkit, s.loader.runtime ≠ .ready toolkit := by simp [hunavailable]
    cases hstep with
    | there hloaded =>
      rw [(hs.nothing_settled hunready lang).1] at hloaded
      cases hloaded
    | givenUp => rfl
    | noToolkit => rfl
    | toolkitFailed _ hstep => cases hrefused hstep
    | found _ hstep => cases hrefused hstep
    | absent => rfl
    | failed _ hstep => cases hrefused hstep
  | noGrammar hready hmissing hagain =>
    cases hstep with
    | there hloaded => exact absurd hmissing (hs.apart lang (Option.isSome_of_eq_some hloaded))
    | givenUp => rfl
    | noToolkit => rfl
    | toolkitFailed _ hstep => cases (hstep.eq_of_ready hready).1
    | found hopen hstep hready' houtcome =>
      obtain ⟨-, rfl, -⟩ := hstep.eq_of_ready hready
      cases hready.symm.trans hready'
      rw [hagain (hopen.2 hmissing)] at houtcome
      cases houtcome
    | absent => rfl
    | failed hopen hstep hready' houtcome =>
      obtain ⟨-, rfl, -⟩ := hstep.eq_of_ready hready
      cases hready.symm.trans hready'
      rw [hagain (hopen.2 hmissing)] at houtcome
      cases houtcome

theorem Denied.refused {r : Except Fault (Option GrammarRef)} (h : Denied w s lang reason)
    (hs : Sound s) (hreason : reason ≠ .noQueries) (hstep : GrammarStep w s lang r s' t) :
    r = .ok none := by
  have hanswer := h.grammar hs hstep
  rwa [if_neg hreason] at hanswer

/-- **`Denied.answers`** — a request about such a language is told the reason, whatever the hook. -/
theorem Denied.answers {content : Text} {r : Except Fault Outcome} (h : Denied w s lang reason)
    (hs : Sound s) (hstep : RequestStep w s content lang r s' t) :
    ∃ detail, r = .ok (.noOpinion reason detail) := by
  -- a request gets past its grammar only if queries are what is missing
  have hrefused : reason ≠ .noQueries →
      ∀ {r s' t}, GrammarStep w s lang r s' t → r = .ok none := fun hne => h.refused hs hne
  cases h with
  | noQueries hloaded hcompiled =>
    obtain ⟨rfl, -⟩ | ⟨-, hsome⟩ := hstep.eq_of_compiled hs hloaded hcompiled
    · exact ⟨_, rfl⟩
    · exact absurd rfl hsome
  | noToolkit hunavailable hagain =>
    cases hstep with
    | noToolkit => exact ⟨_, rfl⟩
    | noGrammar htoolkit => cases htoolkit.eq_of_denied hunavailable hagain
    | grammarFailed hstep => cases hrefused nofun hstep
    | noQueries hstep => cases hrefused nofun hstep
    | packFailed hstep => cases hrefused nofun hstep
    | assessed hstep => cases hrefused nofun hstep
  | noGrammar hready =>
    cases hstep with
    | noToolkit hstep => cases (hstep.eq_of_ready hready).1
    | noGrammar => exact ⟨_, rfl⟩
    | grammarFailed hstep => cases hrefused nofun hstep
    | noQueries hstep => cases hrefused nofun hstep
    | packFailed hstep => cases hrefused nofun hstep
    | assessed hstep => cases hrefused nofun hstep

/-! ## Who is told the reason -/

/-- Whether requests in a language are told a reason, whatever the hook. -/
def Told (w : World) (s : State) (lang : Language) (reason : NoOpinion) : Prop :=
  ∀ content, ∃ detail, (scanRequest content (some lang) w s).1 = .ok (.noOpinion reason detail)

theorem Denied.told (h : Denied w s lang reason) (hs : Sound s) : Told w s lang reason :=
  fun content => h.answers hs (scanRequest_ends hs content)

/-- Only one reason is told. -/
theorem Told.unique {other : NoOpinion} (h : Told w s lang reason) (h' : Told w s lang other) :
    reason = other := by
  obtain ⟨_, hanswer⟩ := h []
  obtain ⟨_, hanswer'⟩ := h' []
  cases hanswer.symm.trans hanswer'
  rfl

/-- **`Explained.told`** — an answer that names no language gives a reason, and that is told in the
languages without a grammar. -/
theorem Explained.told {answer : Availability} (h : Explained w s answer)
    (hnone : answer.available = false) (hs : Sound s) :
    ∃ reason, answer.reason = some reason ∧ reason ≠ .noQueries ∧ ∀ lang,
      (loadGrammar lang w s).1 = .ok none ∧ Told w s lang reason ∨
        (∃ grammar, (loadGrammar lang w s).1 = .ok (some grammar)) ∧ Told w s lang .noQueries := by
  have hstep : ∀ lang, GrammarStep w s lang _ _ _ := fun lang => loadGrammar_ends
  cases h with
  | noToolkit hdenied =>
    exact ⟨_, rfl, by decide, fun lang =>
      .inl ⟨(hdenied lang).grammar hs (hstep lang), (hdenied lang).told hs⟩⟩
  | noLanguage hseen =>
    refine ⟨_, rfl, by decide, fun lang => ?_⟩
    cases hseen lang with
    | noGrammar hdenied => exact .inl ⟨hdenied.grammar hs (hstep lang), hdenied.told hs⟩
    | noQueries hdenied => exact .inr ⟨hdenied.grammar hs (hstep lang), hdenied.told hs⟩
  | languages => cases hnone

/-- **`reason_is_told_of_missing_grammars`** — take an engine with any past that finds no language to
analyse, in a world that stays as it is.  It gives a reason.  A language has no grammar, and all
requests in it are told that reason, or it has one, and they are told that there are no queries.  So
the reason is told in some language if and only if some language has no grammar. -/
theorem reason_is_told_of_missing_grammars (config : EngineConfig) (before : List Call) (w : World)
    (answer : Availability)
    (hanswer : (availability w (({ config } : State).after before)).1 = .ok answer)
    (hnone : answer.available = false) :
    let s' := (availability w (({ config } : State).after before)).2.1
    ∃ reason, answer.reason = some reason ∧
      (∀ lang, (loadGrammar lang w s').1 = .ok none ∧ Told w s' lang reason ∨
        (∃ grammar, (loadGrammar lang w s').1 = .ok (some grammar)) ∧
          Told w s' lang .noQueries) ∧
      ((∃ lang, Told w s' lang reason) ↔ ∃ lang, (loadGrammar lang w s').1 = .ok none) := by
  intro s'
  have hs : Sound (({ config } : State).after before) := (Sound.fresh config).after before
  obtain ⟨hwalk, hexplained⟩ := availability_ends (w := w) hs
  obtain ⟨reason, hreason, hother, htold⟩ :=
    (hexplained answer hanswer).told hnone (hs.walk hwalk)
  refine ⟨reason, hreason, htold, ?_, ?_⟩
  · rintro ⟨lang, hlang⟩
    rcases htold lang with ⟨hmissing, -⟩ | ⟨-, hqueries⟩
    · exact ⟨lang, hmissing⟩
    · exact absurd (hlang.unique hqueries) hother
  · rintro ⟨lang, hmissing⟩
    rcases htold lang with ⟨-, htold⟩ | ⟨⟨grammar, hgrammar⟩, -⟩
    · exact ⟨lang, htold⟩
    · cases hmissing.symm.trans hgrammar

/-- A world in which only the grammar for shell scripts is not installed. -/
def shelllessWorld : World := installed {} ["tree_sitter_bash"]

/-- An engine that was made to forget that it had no toolkit. -/
def forgetful : List Call := [⟨bareWorld, .ask .availability⟩, ⟨bareWorld, .reset⟩]

/-- Where the grammar for shell scripts is not installed and there are no queries at all, the reason
is told of shell hooks, and another of the rest. -/
theorem missing_shell_grammar_is_told :
    (availability shelllessWorld (({ config := elsewhere } : State).after forgetful)).1 =
        .ok { available := false, reason := some .grammarUnavailable } ∧
      (∃ lang, Told shelllessWorld (availability shelllessWorld
        (({ config := elsewhere } : State).after forgetful)).2.1 lang .grammarUnavailable) ∧
      Told shelllessWorld (availability shelllessWorld
        (({ config := elsewhere } : State).after forgetful)).2.1 .python .noQueries := by
  have hanswer : (availability shelllessWorld
      (({ config := elsewhere } : State).after forgetful)).1 =
        .ok { available := false, reason := some .grammarUnavailable } := by decide +kernel
  obtain ⟨_, ⟨⟩, hlanguages, htold⟩ :=
    reason_is_told_of_missing_grammars elsewhere forgetful shelllessWorld _ hanswer rfl
  have hloaded : (loadGrammar .bash shelllessWorld (availability shelllessWorld
        (({ config := elsewhere } : State).after forgetful)).2.1).1 = .ok none ∧
      (loadGrammar .python shelllessWorld (availability shelllessWorld
        (({ config := elsewhere } : State).after forgetful)).2.1).1 =
          .ok (some (.language .python)) := by
    decide +kernel
  refine ⟨hanswer, htold.mpr ⟨.bash, hloaded.1⟩, ?_⟩
  rcases hlanguages .python with ⟨hnone, -⟩ | ⟨-, hqueries⟩
  · cases hnone.symm.trans hloaded.2
  · exact hqueries

/-- **`unqueried_grammars_are_called_unavailable`** — with everything installed, and a directory for
the queries that has none, grammars are said not to be available; no request in any language is told
so. -/
theorem unqueried_grammars_are_called_unavailable :
    let w := installed {} []
    let s' := (availability w { config := elsewhere }).2.1
    (availability w { config := elsewhere }).1 =
        .ok { available := false, reason := some .grammarUnavailable } ∧
      ∀ lang content detail, (scanRequest content (some lang) w s').1 ≠
        .ok (.noOpinion .grammarUnavailable detail) := by
  intro w s'
  have hanswer : (availability w { config := elsewhere }).1 =
      .ok { available := false, reason := some .grammarUnavailable } := by decide +kernel
  have hmissing : s'.loader.missing = [] := by decide +kernel
  have hfresh : Sound { config := elsewhere } := .fresh elsewhere
  obtain ⟨hwalk, hexplained⟩ := availability_ends (w := w) hfresh
  have hs : Sound s' := hfresh.walk hwalk
  have hseen : ∀ lang, Seen w s' lang false := by
    cases hexplained _ hanswer with
    | noLanguage hseen => exact hseen
  refine ⟨hanswer, fun lang content detail htold => ?_⟩
  cases hseen lang with
  | noGrammar hdenied =>
    cases hdenied with
    | noGrammar _ hmem =>
      rw [hmissing] at hmem
      cases hmem
  | noQueries hdenied =>
    obtain ⟨_, hother⟩ := hdenied.told hs content
    cases htold.symm.trans hother

end HookAudit.Engine
