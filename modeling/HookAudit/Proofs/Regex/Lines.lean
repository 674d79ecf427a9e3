/-
# HookAudit.Proofs.Regex.Lines — searching among further lines.

An expression that asks nothing about the ends of the whole text (`isLocal`) matches among further
lines wherever it matches in a text of its own: to the assertions that are left, the newlines around
the text look like its ends.  The matcher need not take the same way there, since a repetition may
go on into the lines below; what is kept is that there is a match at the position (`run_inLines`).
So the number of matches may go down, but not to zero (`count_pos_inLines`).
-/
import HookAudit.Regex.Match
import Mathlib.Data.List.Basic

namespace HookAudit.Regex

/-! ## Positions -/

/-- The code point that ends a line. -/
def newline : CodePoint := .ofChar '\n'

theorem newline_is : newline.is '\n' = true := by decide

theorem newline_isWord : newline.isWord = false := by decide +kernel

/-- A position of a text once the text has become some lines in the middle of others. -/
def Cursor.inLines (below : Text) (c : Cursor) : Cursor :=
  ⟨Option.some (c.behind.getD newline), c.ahead ++ newline :: below⟩

@[simp]
theorem Cursor.length_ahead_inLines (below : Text) (c : Cursor) :
    (c.inLines below).ahead.length = c.ahead.length + (below.length + 1) := by
  simp [inLines]

/-- **`c.Reaches d`** — going on from `c`, a search comes to `d`. -/
inductive Cursor.Reaches : Cursor → Cursor → Prop where
  | here (c : Cursor) : c.Reaches c
  | next {behind : Option CodePoint} {x : CodePoint} {rest : Text} {d : Cursor}
      (further : Reaches ⟨Option.some x, rest⟩ d) : Reaches ⟨behind, x :: rest⟩ d

namespace Cursor.Reaches

variable {c d e : Cursor}

theorem trans (hcd : c.Reaches d) (hde : d.Reaches e) : c.Reaches e := by
  induction hcd with
  | here => exact hde
  | next _ ih => exact .next (ih hde)

theorem inLines (h : c.Reaches d) (below : Text) :
    (c.inLines below).Reaches (d.inLines below) := by
  induction h with
  | here => exact .here _
  | next _ ih => exact .next ih

/-- Every line is reached. -/
theorem behind_newline (above t : Text) (behind : Option CodePoint) :
    Reaches ⟨behind, above ++ newline :: t⟩ ⟨Option.some newline, t⟩ := by
  induction above generalizing behind with
  | nil => exact .next (.here _)
  | cons x above ih => exact .next (ih (Option.some x))

end Cursor.Reaches

/-! ## Searches -/

variable {r : Regex}

/-- A search succeeds when the expression matches at a position that it comes to. -/
theorem findFrom_isSome_iff {behind : Option CodePoint} {t : Text} :
    (r.findFrom behind t).isSome = true ↔
      ∃ d, Cursor.Reaches ⟨behind, t⟩ d ∧ (r.matchAt d).isSome = true := by
  constructor
  · intro h
    induction t generalizing behind with
    | nil =>
      rw [findFrom, Option.isSome_map] at h
      exact ⟨_, .here _, h⟩
    | cons x rest ih =>
      unfold findFrom at h
      split at h
      · rename_i m hmatch
        exact ⟨_, .here _, by rw [hmatch]; rfl⟩
      · obtain ⟨d, hreach, hmatch⟩ := ih h
        exact ⟨d, .next hreach, hmatch⟩
  · rintro ⟨d, hreach, hmatch⟩
    generalize hstart : (⟨behind, t⟩ : Cursor) = start at hreach
    induction hreach generalizing behind t with
    | here c =>
      subst hstart
      cases t with
      | nil => rwa [findFrom, Option.isSome_map]
      | cons x rest =>
        unfold findFrom
        obtain ⟨m, hm⟩ := Option.isSome_iff_exists.mp hmatch
        rw [hm]
        rfl
    | next _ ih =>
      obtain ⟨rfl, rfl⟩ := Cursor.mk.inj hstart
      unfold findFrom
      split
      · rfl
      · exact ih hmatch rfl

/-- There are matches exactly when a search from the start succeeds. -/
theorem count_pos_iff {t : Text} : 0 < r.count t ↔ (r.findFrom none t).isSome = true := by
  unfold count countFrom Cursor.atStart
  cases r.findFrom none t with
  | none => simp
  | some found =>
    obtain ⟨start, stop⟩ := found
    simp only [Option.isSome_some, iff_true]
    split
    · exact Nat.succ_pos _
    · split
      · exact Nat.one_pos
      · exact Nat.succ_pos _

/-! ## Local expressions -/

/-- Whether an expression asks nothing about the start or the end of the whole text. -/
def isLocal : Regex → Bool
  | textStart | textEnd | absoluteEnd => false
  | seq a b | alt a b => a.isLocal && b.isLocal
  | star _ r | group _ r => r.isLocal
  | empty | one _ | lineStart | lineEnd | boundary _ => true

/-- Newlines are no word characters, so the ends of words stay where they are. -/
theorem Cursor.atBoundary_inLines (below : Text) (c : Cursor) :
    (c.inLines below).atBoundary = c.atBoundary := by
  obtain ⟨behind, ahead⟩ := c
  cases behind <;> cases ahead <;> simp [atBoundary, inLines, newline_isWord]

/-- A local assertion that holds at a position holds there among further lines. -/
theorem holdsAt_inLines (hlocal : r.isLocal = true) (below : Text) {c : Cursor}
    (h : holdsAt r c = true) : holdsAt r (c.inLines below) = true := by
  obtain ⟨behind, ahead⟩ := c
  cases r with
  | lineStart => cases behind <;> simp_all [holdsAt, Cursor.inLines, newline_is]
  | lineEnd => cases ahead <;> simp_all [holdsAt, Cursor.inLines, newline_is]
  | boundary inside =>
    simp only [holdsAt, Bool.and_eq_true] at h ⊢
    exact ⟨rfl, by rw [Cursor.atBoundary_inLines]; exact h.2⟩
  | textStart | textEnd | absoluteEnd => cases hlocal
  | empty | one | seq | alt | star | group => rfl

/-! ## Runs -/

section Runs

variable {α β : Type} {k : Continuation α} {k' : Continuation β} {below : Text}

/-- **`k.Survives below k'`** — whatever position `k` accepts, `k'` accepts it among further
lines. -/
def Continuation.Survives (below : Text) (k : Continuation α) (k' : Continuation β) : Prop :=
  ∀ groups groups' c, (k groups c).isSome = true → (k' groups' (c.inLines below)).isSome = true

theorem firstOf_isSome {first second : Unit → Option α} :
    (firstOf first second).isSome = true ↔
      (first ()).isSome = true ∨ (second ()).isSome = true := by
  unfold firstOf
  cases first () <;> simp

/-- Going round once more or not, whichever is preferred. -/
theorem rounds_succ_isSome {greedy : Bool} {fuel : Nat} {groups : Groups} {c : Cursor}
    {body : Groups → Cursor → Continuation α → Option α} :
    (rounds greedy body (fuel + 1) groups c k).isSome = true ↔
      (body groups c fun groups' c' =>
        if c'.ahead.length < c.ahead.length then rounds greedy body fuel groups' c' k
        else none).isSome = true ∨ (k groups c).isSome = true := by
  cases greedy with
  | true => rw [rounds, if_pos rfl, firstOf_isSome]
  | false => rw [rounds, if_neg Bool.false_ne_true, firstOf_isSome, or_comm]

/-- A repetition may always end. -/
theorem rounds_isSome_of_stay {greedy : Bool} (fuel : Nat) {groups : Groups} {c : Cursor}
    {body : Groups → Cursor → Continuation α → Option α} (h : (k groups c).isSome = true) :
    (rounds greedy body fuel groups c k).isSome = true := by
  cases fuel with
  | zero => exact h
  | succ fuel => exact rounds_succ_isSome.mpr (.inr h)

/-- Rounds that lead somewhere do so among further lines, where there are at least as many. -/
theorem rounds_inLines {greedy : Bool} {body : Groups → Cursor → Continuation α → Option α}
    {body' : Groups → Cursor → Continuation β → Option β}
    (hbody : ∀ {k : Continuation α} {k' : Continuation β}, Continuation.Survives below k k' →
      ∀ groups groups' c, (body groups c k).isSome = true →
        (body' groups' (c.inLines below) k').isSome = true)
    (hk : Continuation.Survives below k k') {fuel fuel' : Nat} (hfuel : fuel ≤ fuel')
    (groups groups' : Groups) (c : Cursor)
    (h : (rounds greedy body fuel groups c k).isSome = true) :
    (rounds greedy body' fuel' groups' (c.inLines below) k').isSome = true := by
  induction fuel generalizing fuel' groups groups' c with
  | zero => exact rounds_isSome_of_stay fuel' (hk groups groups' c h)
  | succ fuel ih =>
    rcases rounds_succ_isSome.mp h with hagain | hstay
    · cases fuel' with
      | zero => exact absurd hfuel (Nat.not_succ_le_zero fuel)
      | succ more =>
        refine rounds_succ_isSome.mpr (.inl (hbody ?_ groups groups' c hagain))
        intro groups groups' d hd
        dsimp only at hd ⊢
        split at hd
        · rename_i hless
          rw [if_pos (by simpa using hless)]
          exact ih (Nat.le_of_succ_le_succ hfuel) groups groups' d hd
        · cases hd
    · exact rounds_isSome_of_stay fuel' (hk groups groups' c hstay)

/-- **`run_inLines`** — where a local expression matches and the rest is accepted, it matches among
further lines with the rest accepted. -/
theorem run_inLines (hlocal : r.isLocal = true) (hk : Continuation.Survives below k k')
    (groups groups' : Groups) (c : Cursor) (h : (r.run groups c k).isSome = true) :
    (r.run groups' (c.inLines below) k').isSome = true := by
  induction r generalizing k k' groups groups' c with
  | empty => exact hk groups groups' c h
  | one set =>
    obtain ⟨behind, ahead⟩ := c
    cases ahead with
    | nil => cases h
    | cons x rest =>
      simp only [run, Cursor.inLines, List.cons_append] at h ⊢
      split at h
      · rename_i hset
        rw [if_pos hset]
        exact hk groups groups' ⟨Option.some x, rest⟩ h
      · cases h
  | seq a b iha ihb =>
    obtain ⟨ha, hb⟩ := Bool.and_eq_true_iff.mp hlocal
    exact iha ha (fun groups groups' d => ihb hb hk groups groups' d) groups groups' c h
  | alt a b iha ihb =>
    obtain ⟨ha, hb⟩ := Bool.and_eq_true_iff.mp hlocal
    refine firstOf_isSome.mpr ?_
    rcases firstOf_isSome.mp h with h | h
    · exact .inl (iha ha hk groups groups' c h)
    · exact .inr (ihb hb hk groups groups' c h)
  | star greedy body ih =>
    refine rounds_inLines (fun hk => ih hlocal hk) hk ?_ groups groups' c h
    simp
  | group number body ih =>
    -- what groups hold decides nothing, so the pieces noted here need not be compared
    have hrest : Continuation.Survives below
        (fun inner d => k ((number, c.between d) :: inner) d)
        (fun inner d => k' ((number, (c.inLines below).between d) :: inner) d) :=
      fun _ _ d hd => hk _ _ d hd
    exact ih hlocal hrest groups groups' c h
  | textStart | textEnd | absoluteEnd => cases hlocal
  | lineStart | lineEnd | boundary inside =>
    simp only [run] at h ⊢
    split at h
    · rename_i hholds
      rw [if_pos (holdsAt_inLines hlocal below hholds)]
      exact hk groups groups' c h
    · cases h

end Runs

/-- A match of a local expression at a position is one among further lines. -/
theorem matchAt_inLines (hlocal : r.isLocal = true) (below : Text) {c : Cursor}
    (h : (r.matchAt c).isSome = true) : (r.matchAt (c.inLines below)).isSome = true :=
  run_inLines hlocal (fun _ _ _ _ => rfl) [] [] c h

/-- **`count_pos_inLines`** — a local expression that occurs in a text occurs when lines are added
above and below. -/
theorem count_pos_inLines (hlocal : r.isLocal = true) {t : Text} (above below : Text)
    (h : 0 < r.count t) : 0 < r.count (above ++ newline :: (t ++ newline :: below)) := by
  obtain ⟨d, hreach, hmatch⟩ := findFrom_isSome_iff.mp (count_pos_iff.mp h)
  refine count_pos_iff.mpr (findFrom_isSome_iff.mpr ⟨d.inLines below, ?_, ?_⟩)
  · exact (Cursor.Reaches.behind_newline above _ none).trans (hreach.inLines below)
  · exact matchAt_inLines hlocal below hmatch

end HookAudit.Regex
