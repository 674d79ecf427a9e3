/-
# HookAudit.Proofs.Engine.Answers — reasoning about runs of operations.

An operation is a function from a world and a state to an answer or an error, a next state and a
trace.  Two judgements about its runs carry the proofs about the engine, and each is proved for a
composed operation from its parts:

* `act.Answers w s a s'` — the run of `act` in `w` from `s` answers `a` and leaves `s'`.  The lemmas
  take a run apart, step by step: `answers_bind` names the state between two steps.
* `act.Keeps R` — every run of `act`, also one that ends in an error, leads from a state to one that
  `R` relates to it.  `R` is a preorder: what it says survives any number of steps.

Traces are left out of both.
-/
import HookAudit.Engine.Action
import Mathlib.Order.Defs.Unbundled

namespace HookAudit.Engine.Action

variable {α β : Type} {w : World} {s s' : State}

/-! ## Answers -/

/-- **`act.Answers w s a s'`** — in the world `w` and from the state `s`, the operation answers `a`
and leaves the state `s'`. -/
def Answers (act : Action α) (w : World) (s : State) (a : α) (s' : State) : Prop :=
  ∃ trace, act w s = (.ok a, s', trace)

/-- An operation answers something exactly when its run ends in no error. -/
theorem answer_eq_ok_iff {act : Action α} {a : α} :
    (act w s).1 = .ok a ↔ ∃ s', act.Answers w s a s' := by
  constructor
  · intro h
    exact ⟨(act w s).2.1, (act w s).2.2, by rw [← h]⟩
  · rintro ⟨s', trace, h⟩
    rw [h]

/-- A run that is known decides what is answered. -/
theorem answers_of_run {act : Action α} {a b : α} {t : State} {trace : Trace}
    (hrun : act w s = (.ok a, t, trace)) : act.Answers w s b s' ↔ b = a ∧ s' = t := by
  constructor
  · rintro ⟨_, h⟩
    rw [hrun, Prod.mk.injEq, Except.ok.injEq, Prod.mk.injEq] at h
    exact ⟨h.1.symm, h.2.1.symm⟩
  · rintro ⟨rfl, rfl⟩
    exact ⟨trace, hrun⟩

/-- A run has one answer and leaves one state. -/
theorem Answers.unique {act : Action α} {a b : α} {t : State} (ha : act.Answers w s a s')
    (hb : act.Answers w s b t) : b = a ∧ t = s' := by
  obtain ⟨trace, hrun⟩ := ha
  exact (answers_of_run hrun).mp hb

@[simp]
theorem answers_pure {a b : α} : (pure a : Action α).Answers w s b s' ↔ b = a ∧ s' = s :=
  answers_of_run rfl

@[simp]
theorem answers_state {t : State} : state.Answers w s t s' ↔ t = s ∧ s' = s :=
  answers_of_run rfl

@[simp]
theorem answers_update {change : State → State} {u : Unit} :
    (update change).Answers w s u s' ↔ s' = change s :=
  (answers_of_run rfl).trans (and_iff_right rfl)

@[simp]
theorem answers_updateLoader {change : Loader → Loader} {u : Unit} :
    (updateLoader change).Answers w s u s' ↔ s' = { s with loader := change s.loader } :=
  answers_update

@[simp]
theorem answers_parseWith {grammar : GrammarRef} {source : Text.Octets} {root : Node} :
    (parseWith grammar source).Answers w s root s' ↔ root = w.parse grammar source ∧ s' = s :=
  answers_of_run rfl

@[simp]
theorem answers_search {compiled : Compiled} {root : Node} {source : Text.Octets}
    {found : List Found} : (search compiled root source).Answers w s found s' ↔
      found = w.search compiled root source ∧ s' = s :=
  answers_of_run rfl

/-- **`answers_bind`** — an operation followed by another answers through the state between them. -/
theorem answers_bind {act : Action α} {next : α → Action β} {b : β} :
    (act >>= next).Answers w s b s' ↔
      ∃ a t, act.Answers w s a t ∧ (next a).Answers w t b s' := by
  constructor
  · rintro ⟨trace, h⟩
    change Action.bind act next w s = _ at h
    unfold Action.bind at h
    split at h
    · cases h
    · rename_i a t first hact
      obtain ⟨hanswer, hrest⟩ := Prod.mk.inj h
      exact ⟨a, t, ⟨first, hact⟩, (next a w t).2.2, by
        rw [← hanswer, ← (Prod.mk.inj hrest).1]⟩
  · rintro ⟨a, t, ⟨first, hact⟩, ⟨rest, hnext⟩⟩
    refine ⟨first ++ rest, ?_⟩
    show Action.bind act next w s = _
    simp only [Action.bind, hact, hnext]

/-- Behind a first step whose answer is known, only the second is left. -/
theorem Answers.bind_iff {act : Action α} {next : α → Action β} {a : α} {b : β} {t : State}
    (hact : act.Answers w s a t) :
    (act >>= next).Answers w s b s' ↔ (next a).Answers w t b s' := by
  rw [answers_bind]
  constructor
  · rintro ⟨a', t', hact', hnext⟩
    obtain ⟨rfl, rfl⟩ := hact.unique hact'
    exact hnext
  · intro hnext
    exact ⟨a, t, hact, hnext⟩

@[simp]
theorem answers_state_bind {next : State → Action β} {b : β} :
    (state >>= next).Answers w s b s' ↔ (next s).Answers w s b s' :=
  (answers_state.mpr ⟨rfl, rfl⟩).bind_iff

/-- Asking for each member of a list what leaves no mark answers all of it and leaves no mark. -/
theorem answers_each {act : α → Action β} {f : α → β}
    (hact : ∀ a b s', (act a).Answers w s b s' ↔ b = f a ∧ s' = s) (xs : List α) {bs : List β} :
    (each act xs).Answers w s bs s' ↔ bs = xs.map f ∧ s' = s := by
  induction xs generalizing bs with
  | nil => simp [each]
  | cons x xs ih =>
    simp only [each, answers_bind, hact, answers_pure, List.map_cons]
    constructor
    · rintro ⟨_, _, ⟨rfl, rfl⟩, rest, t, hrest, rfl, rfl⟩
      obtain ⟨rfl, rfl⟩ := ih.mp hrest
      exact ⟨rfl, rfl⟩
    · rintro ⟨rfl, rfl⟩
      exact ⟨f x, s', ⟨rfl, rfl⟩, xs.map f, s', ih.mpr ⟨rfl, rfl⟩, rfl, rfl⟩

/-! ## What every run keeps -/

/-- **`act.Keeps R`** — whatever comes of a run, it leads from a state to one related to it. -/
def Keeps (R : State → State → Prop) (act : Action α) : Prop :=
  ∀ w s, R s (act w s).2.1

section Keeps

variable {R : State → State → Prop}

theorem Keeps.of_answers {act : Action α} {a : α} (hact : act.Keeps R) (h : act.Answers w s a s') :
    R s s' := by
  obtain ⟨trace, h⟩ := h
  have hrun := hact w s
  rwa [h] at hrun

theorem Keeps.mono {R' : State → State → Prop} {act : Action α} (hact : act.Keeps R)
    (h : ∀ s s', R s s' → R' s s') : act.Keeps R' :=
  fun w s => h _ _ (hact w s)

theorem Keeps.update {change : State → State} (h : ∀ s, R s (change s)) :
    (update change).Keeps R :=
  fun _ s => h s

/-- What comes of an operation is left as it leaves it. -/
theorem Keeps.attempt {act : Action α} (hact : act.Keeps R) : (attempt act).Keeps R := hact

theorem Keeps.bind [IsTrans State R] {act : Action α} {next : α → Action β} (hact : act.Keeps R)
    (hnext : ∀ a, (next a).Keeps R) : (act >>= next).Keeps R := by
  intro w s
  have hfirst := hact w s
  show R s (Action.bind act next w s).2.1
  unfold Action.bind
  split
  · rename_i e t trace hrun
    rwa [hrun] at hfirst
  · rename_i a t trace hrun
    rw [hrun] at hfirst
    exact IsTrans.trans _ _ _ hfirst (hnext a w t)

variable [Std.Refl R]

theorem Keeps.pure (a : α) : (Pure.pure a : Action α).Keeps R := fun _ s => refl s

/-- An operation whose answer is set aside for a known one. -/
theorem Keeps.returning [IsTrans State R] {act : Action α} (hact : act.Keeps R) (b : β) :
    (act >>= fun _ => Pure.pure b).Keeps R :=
  hact.bind fun _ => Keeps.pure b

theorem Keeps.fail (e : Fault) : (fail e : Action α).Keeps R := fun _ s => refl s

theorem Keeps.state : state.Keeps R := fun _ s => refl s

theorem Keeps.files : files.Keeps R := fun _ s => refl s

theorem Keeps.log (level : LogLevel) (source message : Text) :
    (log level source message).Keeps R := fun _ s => refl s

theorem Keeps.importModule (name : Text) : (importModule name).Keeps R := fun _ s => refl s

theorem Keeps.each [IsTrans State R] {act : α → Action β} (hact : ∀ a, (act a).Keeps R)
    (xs : List α) : (each act xs).Keeps R := by
  induction xs with
  | nil => exact Keeps.pure []
  | cons x xs ih =>
    exact Keeps.bind (hact x) fun b => Keeps.bind ih fun bs => Keeps.pure (b :: bs)

end Keeps

end HookAudit.Engine.Action
