/-
# HookAudit.Proofs.Engine.Endings — how a run may end.

`act.Ends w s P` says of one run all that the engine's own statements are about: its answer or its
error, the state it leaves, and what its trace shows of loading (the modules it tried to import and
what the loader said).  The judgement is closed under everything operations are made of, so a
postcondition of a composed operation is found from those of its parts: `Ends.bind` hands the state
and the trace behind the first part to the second, and an error straight through.

Other messages of a trace are left out; whatever they say, nothing is loaded by saying it.
-/
import HookAudit.Engine.Queries
import HookAudit.Proofs.Engine.Answers

namespace HookAudit.Engine

/-! ## What a trace shows of loading -/

/-- The part of a trace that is about loading. -/
def Trace.loading (trace : Trace) : Trace where
  imports := trace.imports
  logs := trace.logs.filter (·.source == loaderSource)

theorem Trace.loading_append (a b : Trace) : (a ++ b).loading = a.loading ++ b.loading := by
  show (⟨_, List.filter _ (a.logs ++ b.logs)⟩ : Trace) = ⟨_, _⟩
  rw [List.filter_append]
  rfl

@[simp]
theorem Trace.nothing_append (t : Trace) : ({} : Trace) ++ t = t := rfl

@[simp]
theorem Trace.append_nothing (t : Trace) : t ++ ({} : Trace) = t := by
  show (⟨t.imports ++ [], t.logs ++ []⟩ : Trace) = t
  rw [List.append_nil, List.append_nil]

theorem Trace.append_assoc (a b c : Trace) : a ++ b ++ c = a ++ (b ++ c) := by
  show (⟨a.imports ++ b.imports ++ c.imports, a.logs ++ b.logs ++ c.logs⟩ : Trace) = ⟨_, _⟩
  rw [List.append_assoc, List.append_assoc]
  rfl

namespace Action

variable {α β : Type} {w : World} {s : State}

/-! ## The judgement -/

/-- **`act.Ends w s P`** — the answer or error of the run of `act` in `w` from `s`, the state it
leaves and what it shows of loading are as `P` says. -/
def Ends (act : Action α) (w : World) (s : State)
    (P : Except Fault α → State → Trace → Prop) : Prop :=
  P (act w s).1 (act w s).2.1 (act w s).2.2.loading

theorem Ends.mono {act : Action α} {P Q : Except Fault α → State → Trace → Prop}
    (h : act.Ends w s P) (hPQ : ∀ r s' t, P r s' t → Q r s' t) : act.Ends w s Q :=
  hPQ _ _ _ h

theorem Ends.pure {P : Except Fault α → State → Trace → Prop} {a : α} (h : P (.ok a) s {}) :
    (Pure.pure a : Action α).Ends w s P := h

/-- An answer behind something that showed `t` of loading. -/
theorem Ends.pure_behind {P : Except Fault α → State → Trace → Prop} {a : α} {t : Trace}
    (h : P (.ok a) s t) : (Pure.pure a : Action α).Ends w s fun r s' t' => P r s' (t ++ t') := by
  refine Ends.pure ?_
  rwa [Trace.append_nothing]

theorem Ends.fail {P : Except Fault α → State → Trace → Prop} {e : Fault} (h : P (.error e) s {}) :
    (fail e : Action α).Ends w s P := h

/-- **`Ends.bind`** — behind a first part that ends as `P` says, an error ends the whole run, and an
answer hands over to the second part. -/
theorem Ends.bind {act : Action α} {next : α → Action β}
    {P : Except Fault α → State → Trace → Prop} {Q : Except Fault β → State → Trace → Prop}
    (hact : act.Ends w s P) (herror : ∀ e s' t, P (.error e) s' t → Q (.error e) s' t)
    (hok : ∀ a s' t, P (.ok a) s' t →
      (next a).Ends w s' fun r s'' t' => Q r s'' (t ++ t')) :
    (act >>= next).Ends w s Q := by
  show Q (Action.bind act next w s).1 (Action.bind act next w s).2.1
    (Action.bind act next w s).2.2.loading
  unfold Ends at hact
  unfold Action.bind
  split
  · rename_i e t trace hrun
    rw [hrun] at hact
    exact herror e t _ hact
  · rename_i a t trace hrun
    rw [hrun] at hact
    rw [Trace.loading_append]
    exact hok a t _ hact

/-- What is made of an answer changes neither state nor trace, and no error. -/
theorem Ends.returning {act : Action α} {P : Except Fault α → State → Trace → Prop}
    {Q : Except Fault β → State → Trace → Prop} (f : α → β) (hact : act.Ends w s P)
    (hPQ : ∀ r s' t, P r s' t → Q (r.map f) s' t) :
    (act >>= fun a => Pure.pure (f a)).Ends w s Q :=
  hact.bind (fun e s' t => hPQ (.error e) s' t) fun a s' t h =>
    Ends.pure_behind (hPQ (.ok a) s' t h)

/-! ## The parts of operations -/

/-- Behind a first part whose run is known, only the second is left. -/
theorem Ends.known_bind {act : Action α} {next : α → Action β} {a : α} {s' : State} {trace : Trace}
    {Q : Except Fault β → State → Trace → Prop} (hact : act w s = (.ok a, s', trace))
    (h : (next a).Ends w s' fun r s'' t => Q r s'' (trace.loading ++ t)) :
    (act >>= next).Ends w s Q := by
  have hfirst : act.Ends w s fun r t trace' => r = .ok a ∧ t = s' ∧ trace' = trace.loading := by
    unfold Ends
    rw [hact]
    exact ⟨rfl, rfl, rfl⟩
  refine hfirst.bind (fun _ _ _ hP => nomatch hP.1) ?_
  rintro _ _ _ ⟨⟨⟩, rfl, rfl⟩
  exact h

variable {Q : Except Fault β → State → Trace → Prop}

theorem Ends.state_bind {next : State → Action β} (h : (next s).Ends w s Q) :
    (state >>= next).Ends w s Q := Ends.known_bind rfl h

theorem Ends.files_bind {next : Files → Action β} (h : (next w.files).Ends w s Q) :
    (files >>= next).Ends w s Q := Ends.known_bind rfl h

theorem Ends.update_bind {change : State → State} {next : Unit → Action β}
    (h : (next ()).Ends w (change s) Q) : (update change >>= next).Ends w s Q :=
  Ends.known_bind rfl h

theorem Ends.updateLoader_bind {change : Loader → Loader} {next : Unit → Action β}
    (h : (next ()).Ends w { s with loader := change s.loader } Q) :
    (updateLoader change >>= next).Ends w s Q := Ends.known_bind rfl h

theorem Ends.importModule_bind {name : Text} {next : Except Failure Module → Action β}
    (h : (next (w.importModule name)).Ends w s fun r s' t => Q r s' (⟨[name], []⟩ ++ t)) :
    (importModule name >>= next).Ends w s Q := Ends.known_bind rfl h

/-- What the loader says is part of loading. -/
theorem Ends.loaderLog_bind {level : LogLevel} {message : Text} {next : Unit → Action β}
    (h : (next ()).Ends w s fun r s' t => Q r s' (⟨[], [⟨level, loaderSource, message⟩]⟩ ++ t)) :
    (log level loaderSource message >>= next).Ends w s Q := by
  refine Ends.known_bind rfl ?_
  simpa [Trace.loading] using h

/-- What others say is none of it. -/
theorem Ends.otherLog_bind {level : LogLevel} {source message : Text} {next : Unit → Action β}
    (hsource : source ≠ loaderSource) (h : (next ()).Ends w s Q) :
    (log level source message >>= next).Ends w s Q := by
  refine Ends.known_bind rfl ?_
  simpa [Trace.loading, hsource] using h

/-! ## Runs that leave no mark -/

/-- **`act.Gives w s r`** — the run of `act` in `w` from `s` ends in `r`, leaves the state as it is
and has nothing to do with loading. -/
def Gives (act : Action α) (w : World) (s : State) (r : Except Fault α) : Prop :=
  act.Ends w s fun r' s' t => r' = r ∧ s' = s ∧ t = {}

theorem Gives.pure (a : α) : (Pure.pure a : Action α).Gives w s (.ok a) := ⟨rfl, rfl, rfl⟩

theorem Gives.fail (e : Fault) : (fail e : Action α).Gives w s (.error e) := ⟨rfl, rfl, rfl⟩

theorem Gives.bind_ends {act : Action α} {next : α → Action β} {r : Except Fault α}
    (hact : act.Gives w s r) (herror : ∀ e, r = .error e → Q (.error e) s {})
    (hok : ∀ a, r = .ok a → (next a).Ends w s Q) : (act >>= next).Ends w s Q := by
  refine Ends.bind hact ?_ ?_
  · rintro e _ _ ⟨hr, rfl, rfl⟩
    exact herror e hr.symm
  · rintro a _ _ ⟨hr, rfl, rfl⟩
    exact hok a hr.symm

/-- Asking for each member of a list what the world decides: the first failure ends the run. -/
theorem Gives.each {γ : Type} {act : α → Action β} {f : α → Except Failure γ} {g : γ → β}
    (hact : ∀ a, (act a).Gives w s (((f a).map g).mapError .outside)) (xs : List α) :
    (each act xs).Gives w s (((xs.mapM f).map (List.map g)).mapError .outside) := by
  induction xs with
  | nil => exact Gives.pure []
  | cons x xs ih =>
    have hx := hact x
    rw [List.mapM_cons]
    show (act x >>= fun b => Action.each act xs >>= fun bs => Pure.pure (b :: bs)).Ends w s _
    cases hfx : f x with
    | error failure =>
      rw [hfx] at hx
      exact hx.bind_ends (by rintro _ ⟨⟩; exact ⟨rfl, rfl, rfl⟩) (by rintro _ ⟨⟩)
    | ok c =>
      rw [hfx] at hx
      refine hx.bind_ends (by rintro _ ⟨⟩) ?_
      rintro _ ⟨⟩
      cases hxs : xs.mapM f with
      | error failure =>
        rw [hxs] at ih
        exact ih.bind_ends (by rintro _ ⟨⟩; exact ⟨rfl, rfl, rfl⟩) (by rintro _ ⟨⟩)
      | ok cs =>
        rw [hxs] at ih
        exact ih.bind_ends (by rintro _ ⟨⟩) (by rintro _ ⟨⟩; exact Gives.pure _)

end Action

end HookAudit.Engine
