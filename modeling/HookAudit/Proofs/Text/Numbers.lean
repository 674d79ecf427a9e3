/-
# HookAudit.Proofs.Text.Numbers — numbers and marks can be read back.

Texts are put together from parts, and some say which.  A written number tells the number
(`ofNat_injective`, `ofInt_injective`).  Where a mark stands that one of the neighbouring parts
cannot hold, the parts can be told: by the last of these marks when it is the part behind that has
none, by the first when it is the part in front.  Numbers hold digits and a minus sign only, so
every other character is such a mark beside them.
-/
import HookAudit.Text.CodePoint
import Mathlib.Data.List.Basic

namespace HookAudit

theorem CodePoint.ofChar_injective : Function.Injective CodePoint.ofChar :=
  fun _ _ h => Char.toNat_inj.mp (congrArg CodePoint.val h)

namespace Text

/-! ## Numbers -/

variable {x : Char}

theorem notMem_ofNat (hx : x.isDigit = false) (n : Nat) : CodePoint.ofChar x ∉ ofNat n := by
  intro h
  obtain ⟨c, hc, hcx⟩ := List.mem_map.mp h
  obtain rfl := CodePoint.ofChar_injective hcx
  have hdigit := Nat.isDigit_of_mem_toDigits (by decide) (by decide) hc
  exact Bool.false_ne_true (hx.symm.trans hdigit)

theorem notMem_ofInt (hx : x.isDigit = false) (hminus : x ≠ '-') (i : Int) :
    CodePoint.ofChar x ∉ ofInt i := by
  cases i with
  | ofNat n => exact notMem_ofNat hx n
  | negSucc n =>
    intro h
    rcases List.mem_cons.mp h with h | h
    · exact hminus (CodePoint.ofChar_injective h)
    · exact notMem_ofNat hx (n + 1) h

/-- The digits of a number tell the number. -/
theorem ofNat_injective : Function.Injective ofNat := by
  intro i k h
  have hdigits : Nat.toDigits 10 i = Nat.toDigits 10 k :=
    List.map_injective_iff.mpr CodePoint.ofChar_injective h
  calc i = Nat.ofDigitChars 10 (Nat.toDigits 10 i) 0 := Nat.ofDigitChars_ten_toDigits.symm
    _ = Nat.ofDigitChars 10 (Nat.toDigits 10 k) 0 := by rw [hdigits]
    _ = k := Nat.ofDigitChars_ten_toDigits

theorem ofInt_injective : Function.Injective ofInt := by
  have hsign : ∀ m n, ofNat m ≠ CodePoint.ofChar '-' :: ofNat n := by
    intro m n h
    exact notMem_ofNat (x := '-') (by decide) m (h ▸ List.mem_cons_self)
  intro i k h
  cases i with
  | ofNat m =>
    cases k with
    | ofNat n => exact congrArg Int.ofNat (ofNat_injective h)
    | negSucc n => exact absurd h (hsign m (n + 1))
  | negSucc m =>
    cases k with
    | ofNat n => exact absurd h.symm (hsign n (m + 1))
    | negSucc n =>
      have hnext := ofNat_injective (List.cons.inj h).2
      exact congrArg Int.negSucc (Nat.succ.inj hnext)

/-! ## Marks -/

section Marks

variable {α : Type} {mark : α} {xs ys xs' ys' : List α}

/-- What stands before and behind the last of some mark is told by the mark. -/
theorem eq_of_append_last_mark (hys : mark ∉ ys) (hys' : mark ∉ ys')
    (h : xs ++ mark :: ys = xs' ++ mark :: ys') : xs = xs' ∧ ys = ys' := by
  rcases List.append_eq_append_iff.mp h with ⟨more, rfl, hmore⟩ | ⟨more, rfl, hmore⟩
  · cases more with
    | nil => exact ⟨(List.append_nil xs).symm, (List.cons.inj hmore).2⟩
    | cons c more =>
      obtain ⟨rfl, rfl⟩ := List.cons.inj hmore
      exact absurd (by simp) hys
  · cases more with
    | nil => exact ⟨List.append_nil xs', (List.cons.inj hmore).2.symm⟩
    | cons c more =>
      obtain ⟨rfl, rfl⟩ := List.cons.inj hmore
      exact absurd (by simp) hys'

/-- And so it is by the first, which is the last when read backwards. -/
theorem eq_of_append_first_mark (hxs : mark ∉ xs) (hxs' : mark ∉ xs')
    (h : xs ++ mark :: ys = xs' ++ mark :: ys') : xs = xs' ∧ ys = ys' := by
  have hback : ys.reverse ++ mark :: xs.reverse = ys'.reverse ++ mark :: xs'.reverse := by
    simpa using congrArg List.reverse h
  obtain ⟨hbehind, hfront⟩ :=
    eq_of_append_last_mark (by simpa using hxs) (by simpa using hxs') hback
  exact ⟨List.reverse_inj.mp hfront, List.reverse_inj.mp hbehind⟩

end Marks

end Text

end HookAudit
