/-
# HookAudit.Proofs.Regex.Greedy — repetitions of one set.

A greedy repetition of one set goes on as long as it can and gives code points back only when what
follows the repetition gives up.  Two consequences decide most runs.  Where what follows accepts
behind the longest run, that is the way taken (`run_many_longest`).  Where it gives up at every
position on the way, so does the whole (`run_many_eq_none`).
-/
import HookAudit.Regex.Match

namespace HookAudit.Regex

variable {α β : Type} {f : α → β} {y : β} {s : CodeSet} {k : Continuation α} {groups : Groups}
  {x : CodePoint} {p rest t : Text}

/-! ## Sets -/

theorem has_blank (x : CodePoint) : CodeSet.has ⟨false, false, [.blank true]⟩ x = x.isBlank := by
  cases h : x.isBlank <;> simp [CodeSet.has, CodeSet.listed, SetItem.has, h]

theorem has_nonBlank (x : CodePoint) :
    CodeSet.has ⟨false, false, [.blank false]⟩ x = !x.isBlank := by
  cases h : x.isBlank <;> simp [CodeSet.has, CodeSet.listed, SetItem.has, h]

theorem has_char (z : Char) (x : CodePoint) :
    CodeSet.has ⟨false, false, [.range z.toNat z.toNat]⟩ x = x.is z := by
  simp only [CodeSet.has, CodeSet.listed, SetItem.has, CodePoint.is, List.any_cons, List.any_nil,
    Bool.or_false, Bool.bne_false, Bool.false_eq_true, if_false]
  rw [Bool.eq_iff_iff]
  simp only [Bool.and_eq_true, decide_eq_true_eq, beq_iff_eq]
  omega

/-! ## Choices -/

theorem map_firstOf_of_first {first second : Unit → Option α} (h : (first ()).map f = Option.some y) :
    (firstOf first second).map f = Option.some y := by
  unfold firstOf
  cases hfirst : first () with
  | none =>
    rw [hfirst] at h
    cases h
  | some a =>
    rw [hfirst] at h
    exact h

theorem firstOf_of_none {first second : Unit → Option α} (h : first () = none) :
    firstOf first second = second () := by
  unfold firstOf
  rw [h]

theorem run_opt_of_none {r : Regex} {c : Cursor} (h : r.run groups c k = none) :
    (opt r).run groups c k = k groups c := firstOf_of_none h

/-! ## Rounds -/

section Rounds

variable {body : Groups → Cursor → Continuation α → Option α} {fuel : Nat} {c : Cursor}

/-- A greedy repetition stops where no further round leads anywhere. -/
theorem rounds_of_none (h : (body groups c fun inner d =>
      if d.ahead.length < c.ahead.length then rounds true body fuel inner d k else none) = none) :
    rounds true body (fuel + 1) groups c k = k groups c := by
  rw [rounds, if_pos rfl, firstOf_of_none h]

/-- A further round is taken where it leads somewhere. -/
theorem map_rounds_of_some (h : (body groups c fun inner d =>
      if d.ahead.length < c.ahead.length then rounds true body fuel inner d k
      else none).map f = Option.some y) :
    (rounds true body (fuel + 1) groups c k).map f = Option.some y := by
  rw [rounds, if_pos rfl, map_firstOf_of_first h]

end Rounds

/-! ## Repetitions -/

/-- A repetition tries to go on behind what is in the set, and else stops before it. -/
theorem run_many_cons (behind : Option CodePoint) :
    (many (one s)).run groups ⟨behind, x :: t⟩ k =
      firstOf
        (fun _ => if s.has x then (many (one s)).run groups ⟨Option.some x, t⟩ k else none)
        fun _ => k groups ⟨behind, x :: t⟩ := by
  have hagain : (one s).run groups ⟨behind, x :: t⟩ (fun inner c =>
      if c.ahead.length < t.length + 1 then
        rounds true (fun inner c k => (one s).run inner c k) t.length inner c k
      else none) =
      if s.has x then (many (one s)).run groups ⟨Option.some x, t⟩ k else none := by
    simp only [run]
    rw [if_pos (Nat.lt_succ_self _)]
    rfl
  exact congrArg (fun first => firstOf (fun _ => first) fun _ => k groups ⟨behind, x :: t⟩) hagain

theorem run_many_cons_of_not (hx : s.has x = false) (behind : Option CodePoint) :
    (many (one s)).run groups ⟨behind, x :: t⟩ k = k groups ⟨behind, x :: t⟩ := by
  rw [run_many_cons, firstOf_of_none (if_neg (by simp [hx]))]

theorem run_many_cons_of_has (hx : s.has x = true) (behind : Option CodePoint) :
    (many (one s)).run groups ⟨behind, x :: t⟩ k =
      firstOf (fun _ => (many (one s)).run groups ⟨Option.some x, t⟩ k)
        fun _ => k groups ⟨behind, x :: t⟩ := by
  rw [run_many_cons]
  simp only [if_pos hx]

/-- **`run_many_longest`** — where the rest is accepted behind the longest run, so is the whole,
with the same result. -/
theorem run_many_longest (hp : ∀ x ∈ p, s.has x = true) (hrest : ∀ x ∈ rest.head?, s.has x = false)
    (hk : ∀ behind, (k groups ⟨behind, rest⟩).map f = Option.some y) (behind : Option CodePoint) :
    ((many (one s)).run groups ⟨behind, p ++ rest⟩ k).map f = Option.some y := by
  induction p generalizing behind with
  | nil =>
    cases rest with
    | nil => exact hk behind
    | cons x rest =>
      rw [List.nil_append, run_many_cons_of_not (hrest x rfl)]
      exact hk behind
  | cons x p ih =>
    obtain ⟨hx, hp⟩ := List.forall_mem_cons.mp hp
    rw [List.cons_append, run_many_cons_of_has hx]
    exact map_firstOf_of_first (ih hp _)

/-- So it is where the set has to occur at least once. -/
theorem run_some_longest (hsome : p ≠ []) (hp : ∀ x ∈ p, s.has x = true)
    (hrest : ∀ x ∈ rest.head?, s.has x = false)
    (hk : ∀ behind, (k groups ⟨behind, rest⟩).map f = Option.some y) (behind : Option CodePoint) :
    ((Regex.some (one s)).run groups ⟨behind, p ++ rest⟩ k).map f = Option.some y := by
  obtain ⟨x, p, rfl⟩ := List.exists_cons_of_ne_nil hsome
  obtain ⟨hx, hp⟩ := List.forall_mem_cons.mp hp
  simp only [Regex.some, run, List.cons_append]
  rw [if_pos hx]
  exact run_many_longest hp hrest hk _

/-- **`run_many_eq_none`** — where the rest gives up at every position that a run comes to, so does
the whole. -/
theorem run_many_eq_none {P : Text → Prop} (htail : ∀ x t, P (x :: t) → P t)
    (hk : ∀ behind t, P t → k groups ⟨behind, t⟩ = none) (behind : Option CodePoint) (ht : P t) :
    (many (one s)).run groups ⟨behind, t⟩ k = none := by
  induction t generalizing behind with
  | nil => exact hk behind [] ht
  | cons x t ih =>
    cases hx : s.has x with
    | false =>
      rw [run_many_cons_of_not hx]
      exact hk behind _ ht
    | true =>
      rw [run_many_cons_of_has hx, firstOf_of_none (ih _ (htail x t ht))]
      exact hk behind _ ht

/-- A repetition that has to occur gives up where the set does not. -/
theorem run_some_eq_none_of_head (h : ∀ x ∈ t.head?, s.has x = false) (behind : Option CodePoint) :
    (Regex.some (one s)).run groups ⟨behind, t⟩ k = none := by
  cases t with
  | nil => rfl
  | cons x t =>
    simp only [Regex.some, run]
    rw [if_neg (by simp [h x rfl])]

/-- So it does where the rest gives up at every position that a run comes to. -/
theorem run_some_eq_none {P : Text → Prop} (htail : ∀ x t, P (x :: t) → P t)
    (hk : ∀ behind t, P t → k groups ⟨behind, t⟩ = none) (behind : Option CodePoint) (ht : P t) :
    (Regex.some (one s)).run groups ⟨behind, t⟩ k = none := by
  cases t with
  | nil => rfl
  | cons x t =>
    simp only [Regex.some, run]
    split
    · exact run_many_eq_none htail hk _ (htail x t ht)
    · rfl

/-! ## Pieces -/

/-- **`run_group_some`** — a group notes the longest run. -/
theorem run_group_some {number : Nat} (hsome : p ≠ []) (hp : ∀ x ∈ p, s.has x = true)
    (hrest : ∀ x ∈ rest.head?, s.has x = false)
    (hk : ∀ behind, (k ((number, p) :: groups) ⟨behind, rest⟩).map f = Option.some y)
    (behind : Option CodePoint) :
    ((group number (Regex.some (one s))).run groups ⟨behind, p ++ rest⟩ k).map f =
      Option.some y := by
  refine run_some_longest (f := f) (s := s) hsome hp hrest (fun behind' => ?_) behind
  have hpiece : Cursor.between ⟨behind, p ++ rest⟩ ⟨behind', rest⟩ = p := by
    simp [Cursor.between]
  rw [hpiece]
  exact hk behind'

end HookAudit.Regex
