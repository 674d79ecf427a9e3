/-
# HookAudit.Proofs.Text.Lines — texts cut at newlines.

Cutting at newlines undoes joining by newlines where the joined texts hold none (`splitOn_join`).  A
text that does hold one comes apart: what stands in front of it on its line goes to the first piece,
and what stands behind it to the last (`splitOn_append`, `exists_splitOn_append`).  Numbers and
snippets are on one line, whatever they are of (`oneLine_normalize`).
-/
import HookAudit.Snippet
import Mathlib.Data.List.Basic

namespace HookAudit

theorem CodePoint.is_iff {c : CodePoint} {z : Char} : c.is z = true ↔ c = .ofChar z := by
  rw [is, beq_iff_eq]
  exact ⟨fun h => by cases c; cases h; rfl, fun h => congrArg CodePoint.val h⟩

namespace Text

variable {a b t : Text} {ts : List Text} {cut : CodePoint → Bool}

/-! ## Texts on one line -/

/-- **`t.OneLine`** — a text without a newline. -/
def OneLine (t : Text) : Prop := ∀ c ∈ t, c.is '\n' = false

instance (t : Text) : Decidable t.OneLine :=
  inferInstanceAs (Decidable (∀ c ∈ t, c.is '\n' = false))

theorem oneLine_append : (a ++ b).OneLine ↔ a.OneLine ∧ b.OneLine := List.forall_mem_append

theorem OneLine.subset (h : b.OneLine) (hsub : a ⊆ b) : a.OneLine := fun c hc => h c (hsub hc)

theorem oneLine_join {separator : Text} (hseparator : separator.OneLine)
    (hts : ∀ t ∈ ts, t.OneLine) : (join separator ts).OneLine := by
  induction ts with
  | nil => exact fun c hc => nomatch hc
  | cons t rest ih =>
    obtain ⟨ht, hrest⟩ := List.forall_mem_cons.mp hts
    cases rest with
    | nil => simpa [join] using ht
    | cons u us =>
      have hjoin : join separator (t :: u :: us) = t ++ separator ++ join separator (u :: us) := by
        simp [join]
      rw [hjoin]
      exact oneLine_append.mpr ⟨oneLine_append.mpr ⟨ht, hseparator⟩, ih hrest⟩

/-! ### Numbers -/

theorem oneLine_ofNat (n : Nat) : (ofNat n).OneLine := by
  intro c hc
  obtain ⟨digit, hdigit, rfl⟩ := List.mem_map.mp hc
  have hplain := Nat.isDigit_of_mem_toDigits (by decide) (by decide) hdigit
  by_contra hnewline
  have hten : digit.toNat = 10 := by
    simpa [CodePoint.is, CodePoint.ofChar] using hnewline
  simp only [Char.isDigit, Bool.and_eq_true, decide_eq_true_eq] at hplain
  have hlow : 48 ≤ digit.toNat := hplain.1
  omega

theorem oneLine_ofInt (i : Int) : (ofInt i).OneLine := by
  cases i with
  | ofNat n => exact oneLine_ofNat n
  | negSucc n => exact List.forall_mem_cons.mpr ⟨by decide, oneLine_ofNat (n + 1)⟩

/-! ### Words and snippets -/

/-- No piece holds a code point at which is cut. -/
theorem not_cut_of_mem_splitWhere : ∀ piece ∈ splitWhere cut t, ∀ c ∈ piece, cut c = false := by
  induction t with
  | nil => simp [splitWhere]
  | cons c rest ih =>
    unfold splitWhere
    split
    · rintro piece (_ | ⟨_, hpiece⟩)
      · exact fun c hc => nomatch hc
      · exact ih piece hpiece
    · rename_i hcut
      have hcut : cut c = false := by simpa using hcut
      split
      · simp [hcut]
      · rename_i first others hsplit
        rw [hsplit] at ih
        obtain ⟨hfirst, hothers⟩ := List.forall_mem_cons.mp ih
        exact List.forall_mem_cons.mpr ⟨List.forall_mem_cons.mpr ⟨hcut, hfirst⟩, hothers⟩

/-- The words of a text are on one line, as a newline is white space. -/
theorem oneLine_collapse (t : Text) : t.collapse.OneLine := by
  refine oneLine_join (by decide) fun word hword c hc => ?_
  have hblank : c.isBlank = false :=
    not_cut_of_mem_splitWhere word (List.mem_filter.mp hword).1 c hc
  by_contra hnewline
  have hten : c.val = 10 := by simpa [CodePoint.is] using hnewline
  simp [CodePoint.isBlank, hten] at hblank

theorem subset_cut (t : Text) (limit : Int) : Snippet.cut t limit ⊆ t := by
  cases limit <;> exact List.take_subset _ _

theorem subset_stripRight (t : Text) : t.stripRight ⊆ t := by
  intro c hc
  exact List.mem_reverse.mp ((List.dropWhile_sublist _).subset (List.mem_reverse.mp hc))

/-- **`oneLine_normalize`** — a snippet is on one line, whatever it is of and however it is cut. -/
theorem oneLine_normalize (t : Text) (limit : Int) : (Snippet.normalize t limit).OneLine := by
  have hwhole := oneLine_collapse t
  unfold Snippet.normalize
  dsimp only
  split
  · exact hwhole
  · split
    · exact hwhole.subset (subset_cut _ _)
    · refine oneLine_append.mpr ⟨?_, by decide⟩
      exact (hwhole.subset (subset_cut _ _)).subset (subset_stripRight _)

/-! ## Pieces -/

theorem splitWhere_ne_nil (cut : CodePoint → Bool) (t : Text) : splitWhere cut t ≠ [] := by
  cases t with
  | nil => exact List.cons_ne_nil _ _
  | cons c rest =>
    unfold splitWhere
    split
    · exact List.cons_ne_nil _ _
    · split <;> exact List.cons_ne_nil _ _

theorem splitWhere_cons_of_not (cut : CodePoint → Bool) (c : CodePoint) (hcut : cut c = false) :
    splitWhere cut (c :: t) = (splitWhere cut t).modifyHead (c :: ·) := by
  rw [splitWhere, hcut]
  cases hsplit : splitWhere cut t with
  | nil => exact absurd hsplit (splitWhere_ne_nil cut t)
  | cons first others => rfl

/-- What is not cut goes in front of the first piece of what follows. -/
theorem splitWhere_append (ha : ∀ c ∈ a, cut c = false) :
    splitWhere cut (a ++ b) = (splitWhere cut b).modifyHead (a ++ ·) := by
  induction a with
  | nil =>
    rw [List.nil_append]
    cases splitWhere cut b <;> rfl
  | cons c rest ih =>
    obtain ⟨hc, hrest⟩ := List.forall_mem_cons.mp ha
    rw [List.cons_append, splitWhere_cons_of_not cut c hc, ih hrest]
    cases splitWhere cut b <;> rfl

/-- **`splitOn_append`** — a text on one line goes in front of the first line of another. -/
theorem splitOn_append (ha : a.OneLine) :
    (a ++ b).splitOn '\n' = (b.splitOn '\n').modifyHead (a ++ ·) :=
  splitWhere_append ha

theorem splitOn_of_oneLine (h : t.OneLine) : t.splitOn '\n' = [t] := by
  have hsplit := splitOn_append (b := []) h
  rw [List.append_nil] at hsplit
  rw [hsplit]
  show [t ++ []] = [t]
  rw [List.append_nil]

/-- **`exists_splitOn_append`** — a text on one line goes behind the last line of another. -/
theorem exists_splitOn_append (t : Text) :
    ∃ earlier last, ∀ a : Text, a.OneLine → (t ++ a).splitOn '\n' = earlier ++ [last ++ a] := by
  induction t with
  | nil => exact ⟨[], [], fun a ha => splitOn_of_oneLine ha⟩
  | cons c rest ih =>
    obtain ⟨earlier, last, hrest⟩ := ih
    by_cases hc : c.is '\n' = true
    · refine ⟨[] :: earlier, last, fun a ha => ?_⟩
      show splitWhere _ (c :: (rest ++ a)) = _
      rw [splitWhere, if_pos hc]
      exact congrArg ([] :: ·) (hrest a ha)
    · have hc : c.is '\n' = false := by simpa using hc
      -- the code point goes in front of the first piece, which may be the last one as well
      cases earlier with
      | nil =>
        refine ⟨[], c :: last, fun a ha => ?_⟩
        refine (splitWhere_cons_of_not _ c hc).trans ?_
        exact congrArg (List.modifyHead (c :: ·)) (hrest a ha)
      | cons first others =>
        refine ⟨(c :: first) :: others, last, fun a ha => ?_⟩
        refine (splitWhere_cons_of_not _ c hc).trans ?_
        exact congrArg (List.modifyHead (c :: ·)) (hrest a ha)

theorem splitWhere_cons_of_cut {c : CodePoint} (hc : cut c = true) :
    splitWhere cut (c :: t) = [] :: splitWhere cut t := by
  rw [splitWhere, if_pos hc]

/-- What is cut at a code point has the pieces of what stands before and behind it. -/
theorem splitWhere_append_of_cut {c : CodePoint} (hc : cut c = true) (a b : Text) :
    splitWhere cut (a ++ c :: b) = splitWhere cut a ++ splitWhere cut b := by
  induction a with
  | nil => exact splitWhere_cons_of_cut hc
  | cons d rest ih =>
    rw [List.cons_append]
    cases hd : cut d with
    | true =>
      rw [splitWhere_cons_of_cut hd, splitWhere_cons_of_cut hd, ih]
      rfl
    | false =>
      rw [splitWhere_cons_of_not cut d hd, splitWhere_cons_of_not cut d hd, ih]
      cases hsplit : splitWhere cut rest with
      | nil => exact absurd hsplit (splitWhere_ne_nil cut rest)
      | cons first others => rfl

/-- A newline ends a line, so what is joined by newlines has the lines of its parts. -/
theorem splitOn_append_newline (a b : Text) :
    (a ++ CodePoint.ofChar '\n' :: b).splitOn '\n' = a.splitOn '\n' ++ b.splitOn '\n' :=
  splitWhere_append_of_cut (by decide) a b

/-- **`splitOn_join`** — the lines of what is joined by newlines are the lines of its parts. -/
theorem splitOn_join (hts : ts ≠ []) :
    (join "\n" ts).splitOn '\n' = ts.flatMap (·.splitOn '\n') := by
  induction ts with
  | nil => exact absurd rfl hts
  | cons t rest ih =>
    cases rest with
    | nil => simp [join]
    | cons u us =>
      have hjoin : join "\n" (t :: u :: us) =
          t ++ CodePoint.ofChar '\n' :: join "\n" (u :: us) := by
        simp [join, ofString]
      rw [hjoin, splitOn_append_newline, ih (List.cons_ne_nil _ _)]
      rfl

/-- What is cut off at newlines is on one line. -/
theorem oneLine_of_mem_splitOn (h : a ∈ t.splitOn '\n') : a.OneLine :=
  not_cut_of_mem_splitWhere a h

end Text

end HookAudit
