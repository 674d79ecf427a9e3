/-
# HookAudit.Proofs.Regex.Case — expressions to which letter case is nothing.

The two cases of an ASCII letter are alike (`alike_otherCase`): they have one set of case variants,
both are characters of words, and neither ends a line.  An expression all of whose sets ignore case
(`ignoresCase`) has no other way to look at a code point, so on two texts that are alike letter by
letter the matcher takes the same way, step by step (`run_alike`): through every alternative, every
round of a repetition and every assertion it succeeds in both or in neither, at the same length.
So the matches are as many (`count_eq_of_alike`), not only in one text where there are some in the
other.
-/
import HookAudit.Proofs.Text.Utf8
import HookAudit.Regex.Match
import Mathlib.Data.List.Forall2

namespace HookAudit

/-! ## Letters -/

namespace CodePoint

variable {a b c : CodePoint}

/-- An ASCII letter in the other case; anything else is left as it is. -/
def otherCase (c : CodePoint) : CodePoint :=
  if 65 ≤ c.val ∧ c.val ≤ 90 then ofNat (c.val + 32)
  else if 97 ≤ c.val ∧ c.val ≤ 122 then ofNat (c.val - 32)
  else c

theorem val_ofNat {n : Nat} (h : n < 0x110000) : (ofNat n).val = n := by
  rw [ofNat, dif_pos h]

theorem otherCase_eq_self (h : c.isAsciiLetter = false) : c.otherCase = c := by
  simp only [isAsciiLetter, Bool.or_eq_false_iff, Bool.and_eq_false_iff,
    decide_eq_false_iff_not] at h
  unfold otherCase
  rw [if_neg (by omega), if_neg (by omega)]

/-- A letter and its other case are 32 apart. -/
theorem otherCase_val_of_letter (h : c.isAsciiLetter = true) :
    c.val ≤ 90 ∧ 65 ≤ c.val ∧ c.otherCase.val = c.val + 32 ∨
      97 ≤ c.val ∧ c.val ≤ 122 ∧ c.otherCase.val + 32 = c.val := by
  simp only [isAsciiLetter, Bool.or_eq_true, Bool.and_eq_true, decide_eq_true_eq] at h
  unfold otherCase
  rcases h with h | h
  · rw [if_pos h, val_ofNat (by omega)]
    omega
  · rw [if_neg (by omega), if_pos h, val_ofNat (by omega)]
    omega

theorem isAsciiLetter_otherCase (h : c.isAsciiLetter = true) :
    c.otherCase.isAsciiLetter = true := by
  have hval := otherCase_val_of_letter h
  simp only [isAsciiLetter, Bool.or_eq_true, Bool.and_eq_true, decide_eq_true_eq]
  omega

/-! ### Case variants -/

/-- A letter is represented by its lower case. -/
theorem fold_of_letter (h : c.isAsciiLetter = true) :
    c.fold = if c.val ≤ 90 then c.val + 32 else c.val := by
  simp only [isAsciiLetter, Bool.or_eq_true, Bool.and_eq_true, decide_eq_true_eq] at h
  have hlower : c.lowerVal = if c.val ≤ 90 then c.val + 32 else c.val := by
    unfold lowerVal
    rw [if_pos (by omega)]
    simp only [Bool.and_eq_true, decide_eq_true_eq]
    split_ifs <;> omega
  unfold fold
  rw [hlower]
  exact if_pos (by split_ifs <;> omega)

theorem fold_otherCase (h : c.isAsciiLetter = true) : c.otherCase.fold = c.fold := by
  have hval := otherCase_val_of_letter h
  rw [fold_of_letter h, fold_of_letter (isAsciiLetter_otherCase h)]
  split_ifs <;> omega

/-- The case variants are those of the representative. -/
theorem cases_eq_of_fold (h : a.fold = b.fold) : a.cases = b.cases := by
  unfold cases
  rw [h]

/-- A letter is among its own case variants. -/
theorem mem_cases_of_letter (h : c.isAsciiLetter = true) : c ∈ c.cases := by
  refine List.mem_map.mpr ⟨c.val, ?_, ofNat_val c⟩
  have hfold := fold_of_letter h
  simp only [isAsciiLetter, Bool.or_eq_true, Bool.and_eq_true, decide_eq_true_eq] at h
  refine List.mem_append_left _ (List.mem_append_left _ ?_)
  by_cases hupper : c.val ≤ 90
  · -- an upper case letter is the upper form of its representative
    rw [if_pos hupper] at hfold
    refine List.mem_append_right _ (List.mem_flatMap.mpr ⟨c.fold, List.mem_cons_self, ?_⟩)
    have hforms : Text.upperForms c.fold = [c.fold - 32] := by
      unfold Text.upperForms
      rw [if_pos (by omega), if_pos (by simp only [Bool.and_eq_true, decide_eq_true_eq]; omega)]
    rw [hforms, hfold]
    exact List.mem_singleton.mpr (by omega)
  · rw [if_neg hupper] at hfold
    rw [hfold]
    exact List.mem_append_left _ List.mem_cons_self

/-- Where case is ignored, a set has a letter when it lists one of its case variants. -/
theorem listed_of_letter {s : CodeSet} (hs : s.ignoreCase = true) (h : c.isAsciiLetter = true) :
    s.listed c = s.items.any fun item => c.cases.any item.has := by
  unfold CodeSet.listed
  rw [if_pos hs]
  congr 1
  funext item
  rw [Bool.or_eq_right_iff_imp]
  exact fun hitem => List.any_eq_true.mpr ⟨c, mem_cases_of_letter h, hitem⟩

/-! ### Likeness -/

/-- **`a.Alike b`** — what expressions that ignore case ask about a code point has one answer for
both: which sets it belongs to, whether it is part of a word, and whether it ends a line. -/
structure Alike (a b : CodePoint) : Prop where
  sets : ∀ s : CodeSet, s.ignoreCase = true → s.has a = s.has b
  word : a.isWord = b.isWord
  newline : a.is '\n' = b.is '\n'

theorem Alike.refl (c : CodePoint) : c.Alike c := ⟨fun _ _ => rfl, rfl, rfl⟩

/-- **`alike_otherCase`** — a letter and its other case are alike. -/
theorem alike_otherCase (c : CodePoint) : c.Alike c.otherCase := by
  cases h : c.isAsciiLetter with
  | false =>
    rw [otherCase_eq_self h]
    exact .refl c
  | true =>
    have hother := isAsciiLetter_otherCase h
    refine ⟨fun s hs => ?sets, ?word, ?newline⟩
    case sets =>
      unfold CodeSet.has
      rw [listed_of_letter hs h, listed_of_letter hs hother, cases_eq_of_fold (fold_otherCase h)]
    case word =>
      have hword : ∀ {d : CodePoint}, d.isAsciiLetter = true → d.isWord = true := by
        intro d hd
        unfold isWord
        rw [if_pos, hd]
        · rfl
        · simp only [isAsciiLetter, Bool.or_eq_true, Bool.and_eq_true, decide_eq_true_eq] at hd
          omega
      rw [hword h, hword hother]
    case newline =>
      have hline : ∀ {d : CodePoint}, d.isAsciiLetter = true → d.is '\n' = false := by
        intro d hd
        simp only [isAsciiLetter, Bool.or_eq_true, Bool.and_eq_true, decide_eq_true_eq] at hd
        exact beq_false_of_ne (by show d.val ≠ 10; omega)
      rw [hline h, hline hother]

end CodePoint

/-! ## Texts -/

namespace Text

variable {t u : Text}

/-- **`t.Alike u`** — texts that are alike letter by letter. -/
abbrev Alike (t u : Text) : Prop := List.Forall₂ CodePoint.Alike t u

/-- A text with some of its letters in the other case: those at the chosen offsets. -/
def recase (chosen : Nat → Bool) (t : Text) : Text :=
  t.mapIdx fun i c => if chosen i then c.otherCase else c

example : recase (· % 2 == 0) "rm -rf" = "Rm -Rf" := by decide

theorem alike_recase (chosen : Nat → Bool) (t : Text) : t.Alike (t.recase chosen) := by
  induction t generalizing chosen with
  | nil => exact .nil
  | cons c t ih =>
    rw [recase, List.mapIdx_cons]
    refine .cons ?_ (ih fun i => chosen (i + 1))
    cases chosen 0 with
    | false => exact .refl c
    | true => exact c.alike_otherCase

theorem Alike.isEmpty (h : t.Alike u) : t.isEmpty = u.isEmpty := by cases h <;> rfl

theorem Alike.all_newline (h : t.Alike u) : t.all (·.is '\n') = u.all (·.is '\n') := by
  induction h with
  | nil => rfl
  | cons hhead _ ih => rw [List.all_cons, List.all_cons, hhead.newline, ih]

end Text

/-! ## Expressions -/

namespace Regex

variable {r : Regex}

/-- Whether every set of an expression ignores case. -/
def ignoresCase : Regex → Bool
  | one set => set.ignoreCase
  | seq a b | alt a b => a.ignoresCase && b.ignoresCase
  | star _ r | group _ r => r.ignoresCase
  | empty | textStart | lineStart | textEnd | absoluteEnd | lineEnd | boundary _ => true

@[simp]
theorem ignoresCase_ignoreCase (r : Regex) : r.ignoreCase.ignoresCase = true := by
  induction r with
  | seq a b iha ihb | alt a b iha ihb => simp [ignoreCase, ignoresCase, iha, ihb]
  | star greedy r ih | group n r ih => simpa [ignoreCase, ignoresCase] using ih
  | _ => rfl

/-- **`c.Alike d`** — positions with alike texts around them. -/
structure Cursor.Alike (c d : Cursor) : Prop where
  behind : Option.Rel CodePoint.Alike c.behind d.behind
  ahead : Text.Alike c.ahead d.ahead

theorem Cursor.Alike.next {c d : Cursor} (h : c.Alike d) : c.next.Alike d.next := by
  obtain ⟨behind, ahead⟩ := c
  obtain ⟨behind', ahead'⟩ := d
  cases h.ahead with
  | nil => exact h
  | cons hhead htail => exact ⟨.some hhead, htail⟩

theorem Cursor.Alike.atBoundary {c d : Cursor} (h : c.Alike d) : c.atBoundary = d.atBoundary := by
  obtain ⟨behind, ahead⟩ := c
  obtain ⟨behind', ahead'⟩ := d
  obtain ⟨hbehind, hahead⟩ := h
  have hleft : behind.any CodePoint.isWord = behind'.any CodePoint.isWord := by
    cases hbehind with
    | none => rfl
    | some hlast => exact hlast.word
  have hright : ahead.head?.any CodePoint.isWord = ahead'.head?.any CodePoint.isWord := by
    cases hahead with
    | nil => rfl
    | cons hhead _ => exact hhead.word
  show (behind.any _ != ahead.head?.any _) = (behind'.any _ != ahead'.head?.any _)
  rw [hleft, hright]

/-- An assertion holds at both of two alike positions or at neither. -/
theorem Cursor.Alike.holdsAt {c d : Cursor} (h : c.Alike d) (r : Regex) :
    holdsAt r c = Regex.holdsAt r d := by
  have hboundary := h.atBoundary
  obtain ⟨behind, ahead⟩ := c
  obtain ⟨behind', ahead'⟩ := d
  obtain ⟨hbehind, hahead⟩ := h
  have hnone : behind.isNone = behind'.isNone := by cases hbehind <;> rfl
  have hempty : ahead.isEmpty = ahead'.isEmpty := Text.Alike.isEmpty hahead
  cases r with
  | textStart => exact hnone
  | lineStart =>
    cases hbehind with
    | none => rfl
    | some hlast => exact hlast.newline
  | textEnd =>
    show (ahead.isEmpty || (ahead.length == 1 && ahead.all (·.is '\n'))) =
      (ahead'.isEmpty || (ahead'.length == 1 && ahead'.all (·.is '\n')))
    rw [hempty, hahead.length_eq, Text.Alike.all_newline hahead]
  | absoluteEnd => exact hempty
  | lineEnd =>
    cases hahead with
    | nil => rfl
    | cons hhead _ => exact hhead.newline
  | boundary inside =>
    show (!(behind.isNone && ahead.isEmpty) && _) = (!(behind'.isNone && ahead'.isEmpty) && _)
    rw [hnone, hempty, hboundary]
  | _ => rfl

/-! ### Runs -/

section Runs

variable {α β : Type} {R : α → β → Prop} {k : Continuation α} {k' : Continuation β}

/-- **`k.Follows R k'`** — at alike positions two continuations give up together, or accept with
results in the relation `R`. -/
def Continuation.Follows (R : α → β → Prop) (k : Continuation α) (k' : Continuation β) : Prop :=
  ∀ groups groups' c d, c.Alike d → Option.Rel R (k groups c) (k' groups' d)

theorem firstOf_rel {first second : Unit → Option α} {first' second' : Unit → Option β}
    (hfirst : ∀ u, Option.Rel R (first u) (first' u))
    (hsecond : ∀ u, Option.Rel R (second u) (second' u)) :
    Option.Rel R (firstOf first second) (firstOf first' second') := by
  have hfirst := hfirst ()
  unfold firstOf
  revert hfirst
  generalize first () = a, first' () = b
  rintro (hab | _)
  · exact .some hab
  · exact hsecond ()

theorem rounds_alike {greedy : Bool} {body : Groups → Cursor → Continuation α → Option α}
    {body' : Groups → Cursor → Continuation β → Option β}
    (hbody : ∀ {k : Continuation α} {k' : Continuation β}, k.Follows R k' →
      ∀ groups groups' c d, c.Alike d → Option.Rel R (body groups c k) (body' groups' d k'))
    (hk : k.Follows R k') (fuel : Nat) (groups groups' : Groups) {c d : Cursor} (h : c.Alike d) :
    Option.Rel R (rounds greedy body fuel groups c k) (rounds greedy body' fuel groups' d k') := by
  induction fuel generalizing groups groups' c d with
  | zero => exact hk groups groups' c d h
  | succ fuel ih =>
    have hstay := hk groups groups' c d h
    have hagain : Option.Rel R
        (body groups c fun inner e =>
          if e.ahead.length < c.ahead.length then rounds greedy body fuel inner e k else none)
        (body' groups' d fun inner e =>
          if e.ahead.length < d.ahead.length then rounds greedy body' fuel inner e k'
          else none) := by
      refine hbody (fun inner inner' e e' he => ?_) groups groups' c d h
      -- a round ends in both at the same length, so it counts as progress in both or in neither
      rw [he.ahead.length_eq, h.ahead.length_eq]
      split
      · exact ih inner inner' he
      · exact .none
    cases greedy with
    | true => exact firstOf_rel (fun _ => hagain) fun _ => hstay
    | false => exact firstOf_rel (fun _ => hstay) fun _ => hagain

/-- **`run_alike`** — at alike positions an expression that ignores case does the same. -/
theorem run_alike (hr : r.ignoresCase = true) (hk : k.Follows R k') (groups groups' : Groups)
    {c d : Cursor} (h : c.Alike d) :
    Option.Rel R (r.run groups c k) (r.run groups' d k') := by
  induction r generalizing k k' groups groups' c d with
  | empty => exact hk groups groups' c d h
  | one set =>
    obtain ⟨behind, ahead⟩ := c
    obtain ⟨behind', ahead'⟩ := d
    obtain ⟨hbehind, hahead⟩ := h
    cases hahead with
    | nil => exact .none
    | cons hhead htail =>
      simp only [run]
      rw [hhead.sets set hr]
      split
      · exact hk groups groups' _ _ ⟨.some hhead, htail⟩
      · exact .none
  | seq a b iha ihb =>
    obtain ⟨ha, hb⟩ := Bool.and_eq_true_iff.mp hr
    exact iha ha (fun inner inner' e e' he => ihb hb hk inner inner' he) groups groups' h
  | alt a b iha ihb =>
    obtain ⟨ha, hb⟩ := Bool.and_eq_true_iff.mp hr
    exact firstOf_rel (fun _ => iha ha hk groups groups' h) fun _ => ihb hb hk groups groups' h
  | star greedy body ih =>
    simp only [run]
    rw [h.ahead.length_eq]
    exact rounds_alike (fun hk inner inner' e e' he => ih hr hk inner inner' he) hk _ groups
      groups' h
  | group number body ih =>
    -- the pieces that groups note differ in case, but no continuation here looks at them
    exact ih hr (fun inner inner' e e' he => hk _ _ e e' he) groups groups' h
  | textStart | lineStart | textEnd | absoluteEnd | lineEnd | boundary inside =>
    simp only [run]
    rw [h.holdsAt]
    split
    · exact hk groups groups' c d h
    · exact .none

end Runs

/-! ### Matches -/

/-- A match at one of two alike positions is one at the other, and ends at alike positions. -/
theorem matchAt_alike (hr : r.ignoresCase = true) {c d : Cursor} (h : c.Alike d) :
    Option.Rel (fun m m' => m.2.Alike m'.2) (r.matchAt c) (r.matchAt d) :=
  run_alike (R := fun m m' : Groups × Cursor => m.2.Alike m'.2) hr (fun _ _ _ _ he => .some he) [] [] h

/-- So is the first match further on. -/
theorem findFrom_alike (hr : r.ignoresCase = true) {behind behind' : Option CodePoint}
    {t u : Text} (hbehind : Option.Rel CodePoint.Alike behind behind') (h : t.Alike u) :
    Option.Rel (fun m m' => m.1.Alike m'.1 ∧ m.2.Alike m'.2) (r.findFrom behind t)
      (r.findFrom behind' u) := by
  induction h generalizing behind behind' with
  | nil =>
    have hmatch := matchAt_alike hr (c := ⟨behind, []⟩) (d := ⟨behind', []⟩) ⟨hbehind, .nil⟩
    unfold findFrom
    revert hmatch
    generalize r.matchAt ⟨behind, []⟩ = m, r.matchAt ⟨behind', []⟩ = m'
    rintro (hend | _)
    · exact .some ⟨⟨hbehind, .nil⟩, hend⟩
    · exact .none
  | @cons x y t u hhead htail ih =>
    have hhere : Cursor.Alike ⟨behind, x :: t⟩ ⟨behind', y :: u⟩ := ⟨hbehind, .cons hhead htail⟩
    have hmatch := matchAt_alike hr hhere
    unfold findFrom
    revert hmatch
    generalize r.matchAt ⟨behind, x :: t⟩ = m, r.matchAt ⟨behind', y :: u⟩ = m'
    rintro (hend | _)
    · exact .some ⟨hhere, hend⟩
    · exact ih (.some hhead)

theorem countFrom_alike (hr : r.ignoresCase = true) (fuel : Nat) {c d : Cursor} (h : c.Alike d) :
    r.countFrom fuel c = r.countFrom fuel d := by
  induction fuel generalizing c d with
  | zero => rfl
  | succ fuel ih =>
    have hfound := findFrom_alike hr h.behind h.ahead
    unfold countFrom
    revert hfound
    generalize r.findFrom c.behind c.ahead = m, r.findFrom d.behind d.ahead = m'
    rintro (⟨hstart, hstop⟩ | _)
    · dsimp only
      rw [hstart.ahead.length_eq, hstop.ahead.length_eq, Text.Alike.isEmpty hstart.ahead, ih hstop,
        ih hstart.next]
    · rfl

/-- **`count_eq_of_alike`** — an expression that ignores case has as many matches in alike texts. -/
theorem count_eq_of_alike (hr : r.ignoresCase = true) {t u : Text} (h : t.Alike u) :
    r.count t = r.count u := by
  unfold count
  rw [h.length_eq]
  exact countFrom_alike hr _ ⟨.none, h⟩

end Regex

end HookAudit
