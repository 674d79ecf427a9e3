/-
# HookAudit.Proofs.Engine.Alone — what an operation answers on its own.

`act.alone w config` is what a fresh engine answers, that has done nothing else.  Where answers are
determined, so that nothing done before makes a difference, the answer of a composed operation is
made of the answers of its parts on their own: `alone_bind`, `alone_each`, `alone_every`.
-/
import HookAudit.Proofs.Engine.Transparency

namespace HookAudit.Engine.Action

variable {w : World} {config : EngineConfig} {s : State} {α β : Type}

/-- What an operation answers by itself, on a fresh engine. -/
def alone (act : Action α) (w : World) (config : EngineConfig) : Except Fault α :=
  (act w { config }).1

/-- **`Determined.ends_alone`** — a determined answer is the one that the operation has on its
own. -/
theorem Determined.ends_alone {act : Action α} (hact : act.Determined w config)
    (hs : Current w config s) :
    act.Ends w s fun r s' _ => r = act.alone w config ∧ Current w config s' := by
  obtain ⟨answer, hanswer⟩ := hact
  have halone : act.alone w config = answer := (hanswer { config } (.fresh w config)).1
  rw [halone]
  exact hanswer s hs

theorem Determined.answer_eq_alone {act : Action α} (hact : act.Determined w config)
    (hs : Current w config s) : (act w s).1 = act.alone w config :=
  (hact.ends_alone hs).1

theorem Determined.fail (e : Fault) : (fail e : Action α).Determined w config :=
  ⟨.error e, fun _ hs => Ends.fail ⟨rfl, hs⟩⟩

theorem Determined.files_bind {next : Files → Action β} (h : (next w.files).Determined w config) :
    (files >>= next).Determined w config := by
  obtain ⟨answer, hanswer⟩ := h
  exact ⟨answer, fun s hs => Ends.files_bind (hanswer s hs)⟩

theorem alone_files_bind (next : Files → Action β) :
    (files >>= next).alone w config = (next w.files).alone w config := rfl

/-- **`alone_bind`** — behind a first part, the second answers as on its own. -/
theorem alone_bind {act : Action α} {next : α → Action β} (hact : act.Determined w config)
    (hnext : ∀ a, (next a).Determined w config) :
    (act >>= next).alone w config = act.alone w config >>= fun a => (next a).alone w config := by
  refine Ends.bind (Q := fun r _ _ => r = act.alone w config >>= fun a => (next a).alone w config)
    (hact.ends_alone (.fresh w config)) ?_ ?_
  · rintro e s' t ⟨hanswer, -⟩
    rw [← hanswer]
    rfl
  · rintro a s' t ⟨hanswer, hs'⟩
    rw [← hanswer]
    -- the second part starts from where the first has left the engine, which is not a fresh one
    exact ((hnext a).ends_alone hs').mono fun r s'' t' h => h.1

theorem Determined.returning {act : Action α} (hact : act.Determined w config) (f : α → β) :
    (act >>= fun a => Pure.pure (f a)).Determined w config :=
  Determined.composable.returning hact f

theorem alone_returning {act : Action α} (hact : act.Determined w config) (f : α → β) :
    (act >>= fun a => Pure.pure (f a)).alone w config = (act.alone w config).map f := by
  rw [alone_bind hact fun a => Determined.composable.pure (f a)]
  cases act.alone w config <;> rfl

/-- Going through a list, one after another. -/
theorem Determined.each {act : α → Action β} (hact : ∀ a, (act a).Determined w config)
    (xs : List α) : (each act xs).Determined w config :=
  Determined.composable.each hact xs

theorem alone_each {act : α → Action β} (hact : ∀ a, (act a).Determined w config) (xs : List α) :
    (each act xs).alone w config = xs.mapM fun a => (act a).alone w config := by
  induction xs with
  | nil => rfl
  | cons x xs ih =>
    rw [List.mapM_cons, ← ih]
    refine (alone_bind (hact x) fun b => (Determined.each hact xs).returning _).trans ?_
    simp only [alone_returning (Determined.each hact xs)]
    cases (act x).alone w config with
    | error e => rfl
    | ok b => cases (Action.each act xs).alone w config <;> rfl

/-- An attempt comes to what is answered. -/
theorem Determined.attempt {act : Action α} (hact : act.Determined w config) :
    (attempt act).Determined w config := by
  refine ⟨.ok (act.alone w config), fun s hs => ?_⟩
  obtain ⟨hanswer, hs'⟩ := hact.ends_alone hs
  exact ⟨congrArg Except.ok hanswer, hs'⟩

theorem alone_attempt (act : Action α) :
    (attempt act).alone w config = .ok (act.alone w config) := rfl

/-- The end of trying all: the first error decides. -/
theorem Determined.firstError (first : Except Fault β) (others : Except Fault (List β)) :
    (match first, others with
      | .ok b, .ok bs => Pure.pure (b :: bs)
      | .error e, _ => Action.fail e
      | _, .error e => Action.fail e : Action (List β)).Determined w config := by
  cases first <;> cases others <;> exact ⟨_, fun s hs => ⟨rfl, hs⟩⟩

theorem Determined.every {act : α → Action β} (hact : ∀ a, (act a).Determined w config)
    (xs : List α) : (every act xs).Determined w config := by
  induction xs with
  | nil => exact Determined.composable.pure []
  | cons x xs ih =>
    exact (hact x).attempt.bind fun first => ih.attempt.bind fun others => .firstError first others

/-- Trying all answers as going through them does. -/
theorem alone_every {act : α → Action β} (hact : ∀ a, (act a).Determined w config) (xs : List α) :
    (every act xs).alone w config = xs.mapM fun a => (act a).alone w config := by
  induction xs with
  | nil => rfl
  | cons x xs ih =>
    have hothers := (Determined.every hact xs).attempt
    rw [List.mapM_cons, ← ih]
    refine (alone_bind (hact x).attempt fun first =>
      hothers.bind fun others => .firstError first others).trans ?_
    rw [alone_attempt]
    refine (alone_bind hothers fun others => .firstError _ others).trans ?_
    rw [alone_attempt]
    cases (act x).alone w config <;> cases (Action.every act xs).alone w config <;> rfl

end HookAudit.Engine.Action
