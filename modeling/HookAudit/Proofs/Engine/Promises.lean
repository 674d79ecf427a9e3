/-
# HookAudit.Proofs.Engine.Promises — what holds of every answer.

`act.Promises P` says that whatever `act` answers satisfies `P`, in any world and from any state; a
run that ends in an error is promised nothing.  It is the judgement for properties of answers that
owe nothing to what the engine remembers: a composed operation keeps the promise of its last part
(`Promises.bind`), and going through a list makes one promise about all members.
-/
import HookAudit.Proofs.Engine.Answers

namespace HookAudit.Engine.Action

variable {α β : Type} {P : α → Prop} {Q : β → Prop}

/-- **`act.Promises P`** — whatever the operation answers, in any world and from any state,
satisfies `P`. -/
def Promises (act : Action α) (P : α → Prop) : Prop :=
  ∀ w s a, (act w s).1 = .ok a → P a

theorem Promises.pure {a : α} (h : P a) : (Pure.pure a : Action α).Promises P := by
  rintro w s _ ⟨⟩
  exact h

theorem Promises.fail (e : Fault) : (fail e : Action α).Promises P := by
  rintro w s a ⟨⟩

/-- Every answer is an answer. -/
theorem Promises.trivial (act : Action α) : act.Promises fun _ => True :=
  fun _ _ _ _ => True.intro

/-- Behind a first part, the second makes the promise; it may count on that of the first. -/
theorem Promises.bind {act : Action α} {next : α → Action β} (hact : act.Promises P)
    (hnext : ∀ a, P a → (next a).Promises Q) : (act >>= next).Promises Q := by
  intro w s b h
  obtain ⟨s', hanswer⟩ := answer_eq_ok_iff.mp h
  obtain ⟨a, t, hfirst, hsecond⟩ := answers_bind.mp hanswer
  exact hnext a (hact w s a (answer_eq_ok_iff.mpr ⟨t, hfirst⟩)) w t b
    (answer_eq_ok_iff.mpr ⟨s', hsecond⟩)

/-- Behind a first part of which nothing is known. -/
theorem Promises.behind {act : Action α} {next : α → Action β}
    (hnext : ∀ a, (next a).Promises Q) : (act >>= next).Promises Q :=
  (Promises.trivial act).bind fun a _ => hnext a

theorem Promises.attempt {act : Action α} (hact : act.Promises P) :
    (attempt act).Promises fun r => ∀ a, r = .ok a → P a := by
  rintro w s r ⟨⟩ a h
  exact hact w s a h

theorem Promises.each {act : α → Action β} (hact : ∀ a, (act a).Promises Q) (xs : List α) :
    (each act xs).Promises fun bs => ∀ b ∈ bs, Q b := by
  induction xs with
  | nil => exact .pure (by simp)
  | cons x xs ih =>
    refine (hact x).bind fun b hb => ih.bind fun bs hbs => .pure ?_
    exact List.forall_mem_cons.mpr ⟨hb, hbs⟩

theorem Promises.every {act : α → Action β} (hact : ∀ a, (act a).Promises Q) (xs : List α) :
    (every act xs).Promises fun bs => ∀ b ∈ bs, Q b := by
  induction xs with
  | nil => exact .pure (by simp)
  | cons x xs ih =>
    refine (hact x).attempt.bind fun first hfirst => ih.attempt.bind fun others hothers => ?_
    split
    · rename_i b bs
      exact .pure (List.forall_mem_cons.mpr ⟨hfirst b rfl, hothers bs rfl⟩)
    · exact .fail _
    · exact .fail _

end HookAudit.Engine.Action
