/-
# HookAudit.Proofs.Engine.Renewal — a reset is a fresh start.

What can be seen of an engine is its transcript: for each call the answer or error, the modules it
tried to import and the messages it logged.  A reset takes back everything an engine may have
learned (`run_reset`), in whatever state a history has left it, also one that broke off.  So from a
reset on, the transcript is that of a fresh engine with the same settings, whatever the world does
behind it (`reset_is_a_fresh_start`).
-/
import HookAudit.Proofs.Engine.Operations

namespace HookAudit.Engine

open Action

variable {w : World} {s : State} {history continuation : List Call}

/-! ## Transcripts -/

/-- What is seen of a call: its answer or error, and its trace. -/
structure Sight where
  answer : Except Fault Reply
  trace : Trace

/-- What is seen of an operation in a world. -/
def State.sight (s : State) (call : Call) : Sight :=
  let (answer, _, trace) := call.operation.run call.world s
  { answer, trace }

/-- Everything that is seen of a history. -/
def State.transcript (s : State) : List Call → List Sight
  | [] => []
  | call :: rest => s.sight call :: (call.operation.run call.world s).2.1.transcript rest

theorem State.after_append :
    s.after (history ++ continuation) = (s.after history).after continuation := by
  induction history generalizing s with
  | nil => rfl
  | cons call rest ih => exact ih

/-- What is seen behind a history is seen from the state that it leaves. -/
theorem State.transcript_append :
    s.transcript (history ++ continuation) =
      s.transcript history ++ (s.after history).transcript continuation := by
  induction history generalizing s with
  | nil => rfl
  | cons call rest ih => exact congrArg (s.sight call :: ·) ih

/-! ## Resets -/

/-- **`run_reset`** — a reset leaves the settings and nothing else, and shows nothing. -/
theorem run_reset (w : World) (s : State) :
    Operation.reset.run w s = (.ok .done, { config := s.config }, {}) := rfl

/-- **`reset_is_a_fresh_start`** — a reset behind any history leaves the engine as it was built, and
all that is seen from there on is what is seen of an engine built anew. -/
theorem reset_is_a_fresh_start (config : EngineConfig) (history : List Call) (w : World)
    (continuation : List Call) :
    ({ config } : State).after (history ++ [⟨w, .reset⟩]) = { config } ∧
      ({ config } : State).transcript (history ++ ⟨w, .reset⟩ :: continuation) =
        ({ config } : State).transcript history ++
          { answer := .ok .done, trace := {} } :: ({ config } : State).transcript continuation := by
  have hconfig : (({ config } : State).after history).config = config :=
    (Sound.fresh config).after_config history
  have hrun : Operation.reset.run w (({ config } : State).after history) =
      (.ok .done, { config }, {}) := by
    rw [run_reset, hconfig]
  constructor
  · rw [State.after_append]
    show (Operation.reset.run w _).2.1 = _
    rw [hrun]
  · rw [State.transcript_append]
    refine congrArg (_ ++ ·) ?_
    show State.sight _ _ :: State.transcript (Operation.reset.run w _).2.1 continuation = _
    unfold State.sight
    rw [hrun]

end HookAudit.Engine
