/-
# HookAudit.Proofs.Engine.SingleShot — nothing is looked for twice without a reason.

From one reset of the loader to the next, an engine may be asked anything any number of times, and
at every attempt the importer may answer as it likes.  Still no subject is attempted behind an
attempt that found it, and without retrying none behind one that missed it; only a failure that went
through to the caller leaves the question open.  A subject is warned about once, when it is first
missed.

The rules of loading carry over from call to call (`Session.accounts`), and bound what happens over
a whole session.  What bounds a single call, also with retrying, is the order in which a plan may
attempt its subjects.
-/
import HookAudit.Proofs.Engine.Loads

namespace HookAudit.Engine

open Action

variable {w : World} {s s' : State} {config : EngineConfig}

/-! ## Sessions -/

/-- Whether an operation makes the loader forget. -/
def Operation.ResetsLoader : Operation → Prop
  | .reset | .resetLoader => True
  | .ask _ | .isLoaded _ | .resetQueries => False

/-- An operation, with a world for each attempt that it makes. -/
structure Turn where
  operation : Operation
  worlds : Nat → World

/-- How a turn goes; only questions attempt anything. -/
def Turn.course (turn : Turn) (s : State) : Plan.Course Reply :=
  match turn.operation with
  | .ask question => question.plan.play turn.worlds 0 s
  | operation => Plan.courseOf operation.run (turn.worlds 0) s []

/-- Operations with the courses they took, one behind the other. -/
abbrev Session := List (Operation × Plan.Course Reply)

/-- How one turn after another goes. -/
def State.session (s : State) : List Turn → Session
  | [] => []
  | turn :: rest => (turn.operation, turn.course s) :: (turn.course s).state.session rest

/-- The attempts of a session, in order. -/
def Session.attempts (session : Session) : List Attempt := session.flatMap (·.2.attempts)

/-- What a session shows of loading. -/
def Session.shown (session : Session) : Trace :=
  session.foldr (fun call t => call.2.shown ++ t) {}

/-- A turn in one world is a run of its operation there. -/
theorem Turn.course_const (operation : Operation) (w : World) (s : State) :
    ∃ as, (⟨operation, fun _ => w⟩ : Turn).course s = Plan.courseOf operation.run w s as := by
  cases operation with
  | ask question =>
    obtain ⟨as, hplay⟩ := question.plan.play_const w 0 s
    rw [question.plan_run] at hplay
    exact ⟨as, hplay⟩
  | isLoaded lang => exact ⟨_, rfl⟩
  | reset => exact ⟨_, rfl⟩
  | resetLoader => exact ⟨_, rfl⟩
  | resetQueries => exact ⟨_, rfl⟩

/-! ### What carries over from call to call -/

/-- A turn that leaves the loader its memory attempts what it may attempt. -/
theorem Turn.recounts {turn : Turn} (hkept : ¬ turn.operation.ResetsLoader) (s : State) :
    Recounts s (turn.course s).attempts (turn.course s).answer (turn.course s).state
      (turn.course s).shown := by
  obtain ⟨operation, worlds⟩ := turn
  cases operation with
  | ask question => exact (question.plan_loads _ ⟨worlds, 0, rfl⟩).recounts
  | isLoaded lang => exact .nothing rfl rfl
  | reset => exact absurd trivial hkept
  | resetLoader => exact absurd trivial hkept
  | resetQueries => exact .nothing rfl rfl

/-- But for the listing of languages, a turn attempts no subject twice. -/
theorem Turn.nodup {turn : Turn} (hlisting : turn.operation ≠ .ask .availableLanguages)
    (s : State) : ((turn.course s).attempts.map (·.subject)).Nodup := by
  obtain ⟨operation, worlds⟩ := turn
  cases operation with
  | ask question =>
    have hquestion : question ≠ .availableLanguages := fun h => hlisting (congrArg Operation.ask h)
    exact (Question.subjects_nodup hquestion).sublist
      (question.plan_loads _ ⟨worlds, 0, rfl⟩).subjects
  | isLoaded lang => exact List.nodup_nil
  | reset => exact List.nodup_nil
  | resetLoader => exact List.nodup_nil
  | resetQueries => exact List.nodup_nil

/-- **`session_accounts`** — the attempts of a whole session follow the rules of loading, and are
all that is shown of it. -/
theorem session_accounts {turns : List Turn}
    (hkept : ∀ turn ∈ turns, ¬ turn.operation.ResetsLoader) (s : State) :
    (∃ s', Accounts s s' (s.session turns).attempts) ∧
      (s.session turns).shown = shownBy (s.session turns).attempts := by
  induction turns generalizing s with
  | nil => exact ⟨⟨s, .nothing rfl rfl⟩, rfl⟩
  | cons turn turns ih =>
    obtain ⟨hfirst, hrest⟩ := List.forall_mem_cons.mp hkept
    have hcourse := Turn.recounts hfirst s
    -- the rest is played from the state in which the first turn has left the engine
    obtain ⟨⟨s', haccounts⟩, hshown⟩ := ih hrest (turn.course s).state
    refine ⟨⟨s', hcourse.accounts.append haccounts⟩, ?_⟩
    show (turn.course s).shown ++ Session.shown _ = shownBy ((turn.course s).attempts ++ _)
    rw [shownBy_append, hcourse.shown, hshown]
    rfl

/-- Each call of a session is the course of a turn. -/
theorem exists_turn_of_mem {turns : List Turn} {call : Operation × Plan.Course Reply}
    (hcall : call ∈ s.session turns) :
    ∃ turn ∈ turns, ∃ s₁, call = (turn.operation, turn.course s₁) := by
  induction turns generalizing s with
  | nil => cases hcall
  | cons turn turns ih =>
    rcases List.mem_cons.mp hcall with rfl | hcall
    · exact ⟨turn, List.mem_cons_self, s, rfl⟩
    · obtain ⟨other, hother, s₁, hcourse⟩ := ih hcall
      exact ⟨other, List.mem_cons_of_mem _ hother, s₁, hcourse⟩

/-! ## Single-shot loading -/

/-- **`SingleShot config session`** — between two resets of its loader, an engine with these
settings looks for nothing twice without a reason, and warns of nothing twice. -/
structure SingleShot (config : EngineConfig) (session : Session) : Prop where
  /-- The attempts are all that the session shows of loading. -/
  shown : session.shown = shownBy session.attempts
  /-- Every attempt imports the module of its subject, and nothing else. -/
  imports : ∀ a ∈ session.attempts, a.trace.imports = importsFor config a.subject
  /-- A grammar is attempted only while the toolkit is there. -/
  ready : ∀ a ∈ session.attempts, ∀ lang, a.subject = .grammar lang → a.runtime = "ready"
  /-- What an attempt raises goes through to the caller. -/
  propagated : ∀ call ∈ session, (∃ a ∈ call.2.attempts, a.fate = .raised) →
    ∃ failure, call.2.answer = .error (.outside failure)
  /-- Without retrying, a subject is attempted once at most, failures that went through apart. -/
  once : config.retryUnavailable = false → ∀ x, (session.attempts.filter fun a =>
    a.subject = x ∧ a.fate ≠ .raised).length ≤ 1
  /-- What has been found is not attempted again. -/
  untilFound : session.attempts.Pairwise fun a b => a.subject = b.subject → a.fate ≠ .found
  /-- A single call attempts a subject once at most, the listing of languages apart. -/
  withinCall : ∀ call ∈ session, call.1 ≠ .ask .availableLanguages →
    (call.2.attempts.map (·.subject)).Nodup
  /-- The first miss of a subject is warned about once, and nothing else is. -/
  warned : ∀ earlier a later, session.attempts = earlier ++ a :: later →
    if a.fate = .absent ∧ ∀ b ∈ earlier, b.subject = a.subject → b.fate ≠ .absent
    then SingleWarning a.trace.logs else a.trace.logs = []

/-- Where each member forbids later ones of its kind, there is one of a kind at most. -/
theorem length_filter_le_one {α : Type} {p : α → Bool} {xs : List α}
    (h : xs.Pairwise fun a b => p a → ¬ p b) : (xs.filter p).length ≤ 1 := by
  have hnone : (xs.filter p).Pairwise fun _ _ => False :=
    (h.filter p).imp_of_mem fun ha hb hforbids =>
      hforbids (List.mem_filter.mp ha).2 (List.mem_filter.mp hb).2
  match hxs : xs.filter p with
  | [] => exact Nat.zero_le 1
  | [a] => exact Nat.le_refl 1
  | a :: b :: rest =>
    rw [hxs] at hnone
    exact absurd ((List.pairwise_cons.mp hnone).1 b List.mem_cons_self) id

/-- **`loading_is_single_shot`** — whatever is done to an engine whose loader is new or has been
reset, and whatever the importer answers at each attempt: up to the next reset, loading is
single-shot. -/
theorem loading_is_single_shot {s : State} (hfresh : s.loader = {}) {turns : List Turn}
    (hkept : ∀ turn ∈ turns, ¬ turn.operation.ResetsLoader) :
    SingleShot s.config (s.session turns) := by
  obtain ⟨⟨s', haccounts⟩, hshown⟩ := session_accounts hkept s
  refine ⟨hshown, haccounts.imports, haccounts.ready, ?propagated, ?once, ?untilFound, ?withinCall,
    ?warned⟩
  case propagated =>
    rintro _ hcall hraised
    obtain ⟨turn, hturn, s₁, rfl⟩ := exists_turn_of_mem hcall
    exact (Turn.recounts (hkept turn hturn) s₁).raised hraised
  case once =>
    intro hfinal x
    refine length_filter_le_one (haccounts.final.imp ?_)
    intro a b hsettled ha hb
    simp only [decide_eq_true_eq] at ha hb
    -- an attempt that did not raise has found its subject, or has missed it for good
    refine hsettled (ha.1.trans hb.1.symm) ?_
    cases hfate : a.fate with
    | found => exact .inl hfate
    | absent => exact .inr ⟨hfate, hfinal⟩
    | raised => exact absurd hfate ha.2
  case untilFound =>
    exact haccounts.final.imp fun hsettled hsubject hfound => hsettled hsubject (.inl hfound)
  case withinCall =>
    rintro _ hcall hlisting
    obtain ⟨turn, -, s₁, rfl⟩ := exists_turn_of_mem hcall
    exact Turn.nodup hlisting s₁
  case warned =>
    intro earlier a later hsplit
    obtain ⟨hfirst, hother⟩ := haccounts.warns earlier a later hsplit
    have hiff : a.FirstMiss s.loader.warned earlier ↔
        a.fate = .absent ∧ ∀ b ∈ earlier, b.subject = a.subject → b.fate ≠ .absent := by
      simp [Attempt.FirstMiss, hfresh]
    rw [hiff] at hfirst hother
    split
    · rename_i hmiss
      exact hfirst hmiss
    · rename_i hmiss
      exact hother hmiss

/-- Settings by which everything that is not there is looked for again. -/
def persistent : EngineConfig := { retryUnavailable := true }

/-- A grammar is asked for again and again while modules come and go, also within one call: the
toolkit is missed and then found, the grammar is missed and then found, and that is all. -/
theorem shell_is_sought_until_found :
    let turns : List Turn := [⟨.ask (.loadGrammar .bash), fun _ => bareWorld⟩,
      ⟨.ask (.loadGrammar .bash), fun n => if n = 0 then shellWorld else bareWorld⟩,
      ⟨.ask (.loadGrammar .bash), fun _ => shellWorld⟩,
      ⟨.ask (.loadGrammar .bash), fun _ => bareWorld⟩]
    let session := ({ config := persistent } : State).session turns
    session.attempts.map (fun a => (a.subject, a.fate)) = [(.runtime, .absent),
        (.runtime, .found), (.grammar .bash, .absent), (.grammar .bash, .found)] ∧
      SingleShot persistent session := by
  refine ⟨rfl, loading_is_single_shot (s := { config := persistent }) rfl ?_⟩
  intro turn hturn
  simp only [List.mem_cons, List.not_mem_nil, or_false] at hturn
  rcases hturn with rfl | rfl | rfl | rfl <;> exact id

end HookAudit.Engine
