/-
# HookAudit.Proofs.Score.Unique — the captures that scoring looks at.

Scoring first drops every capture whose name and range occurred before.  What remains is said
without the pass by `FirstOfKey`; each key of the list remains exactly once.

Which of several captures with one key remains depends on their order, and shows only in line,
column and snippet.  Where these are determined by the key (`Agreeing`), dropping repetitions drops
no capture at all: `mem_unique_of_agreeing`.
-/
import HookAudit.Proofs.FirstCome
import HookAudit.Score
import Mathlib.Data.List.Nodup

namespace HookAudit.Score

variable {captures : List Capture} {c : Capture}

/-- A capture in front of which no capture has the same name and range. -/
def FirstOfKey (captures : List Capture) (c : Capture) : Prop :=
  ∃ before after, captures = before ++ c :: after ∧ ∀ d ∈ before, d.key ≠ c.key

/-- Captures with the same name and range are the same altogether. -/
def Agreeing (captures : List Capture) : Prop :=
  ∀ c ∈ captures, ∀ d ∈ captures, c.key = d.key → c = d

theorem FirstOfKey.mem (h : FirstOfKey captures c) : c ∈ captures := by
  obtain ⟨before, after, rfl, _⟩ := h
  simp

/-- Dropping repetitions is the pass in which equal keys clash. -/
theorem unique_eq_firstCome (captures : List Capture) :
    unique captures = firstCome (fun c k => k.key == c.key) captures := rfl

theorem mem_of_mem_unique (h : c ∈ unique captures) : c ∈ captures :=
  mem_of_mem_firstCome h

/-- Every key of the list remains. -/
theorem exists_mem_unique (h : c ∈ captures) : ∃ u ∈ unique captures, u.key = c.key := by
  have hcover : c ∈ unique captures ∨ ∃ k ∈ unique captures, (k.key == c.key) = true :=
    mem_or_clash h
  rcases hcover with hkept | ⟨k, hk, hkey⟩
  · exact ⟨c, hkept, rfl⟩
  · exact ⟨k, hk, eq_of_beq hkey⟩

/-- **`mem_unique_iff`** — what remains are the first captures of their keys. -/
theorem mem_unique_iff : c ∈ unique captures ↔ FirstOfKey captures c := by
  rw [unique_eq_firstCome, mem_firstCome_iff]
  constructor
  · rintro ⟨before, after, rfl, hfree⟩
    refine ⟨before, after, rfl, ?_⟩
    intro d hd hkey
    obtain ⟨u, hu, hukey⟩ := exists_mem_unique hd
    exact beq_eq_false_iff_ne.mp (hfree u hu) (hukey.trans hkey)
  · rintro ⟨before, after, rfl, hfresh⟩
    refine ⟨before, after, rfl, ?_⟩
    intro k hk
    exact beq_eq_false_iff_ne.mpr (hfresh k (mem_of_mem_firstCome hk))

/-- No key remains twice. -/
theorem pairwise_key_unique (captures : List Capture) :
    (unique captures).Pairwise fun a b => a.key ≠ b.key := by
  refine (pairwise_firstCome captures).imp ?_
  intro a b hfree
  exact beq_eq_false_iff_ne.mp hfree

theorem nodup_unique (captures : List Capture) : (unique captures).Nodup :=
  (pairwise_key_unique captures).imp fun hkey heq => hkey (congrArg Capture.key heq)

/-- Captures that remain are told apart by their keys. -/
theorem eq_of_key_eq {d : Capture} (hc : c ∈ unique captures) (hd : d ∈ unique captures)
    (hkey : c.key = d.key) : c = d := by
  have hinj := List.inj_on_of_nodup_map (List.pairwise_map.mpr (pairwise_key_unique captures))
  exact hinj hc hd hkey

/-- Where key decides everything, nothing but repetitions is dropped. -/
theorem mem_unique_of_agreeing (hagree : Agreeing captures) :
    c ∈ unique captures ↔ c ∈ captures := by
  constructor
  · exact mem_of_mem_unique
  · intro hc
    obtain ⟨u, hu, hkey⟩ := exists_mem_unique hc
    rwa [← hagree u (mem_of_mem_unique hu) c hc hkey]

/-- One list behind another: the second contributes the keys that the first does not have. -/
theorem firstOfKey_append {A B : List Capture} :
    FirstOfKey (A ++ B) c ↔ FirstOfKey A c ∨ FirstOfKey B c ∧ ∀ a ∈ A, a.key ≠ c.key := by
  constructor
  · rintro ⟨before, after, hsplit, hfresh⟩
    rcases List.append_eq_append_iff.mp hsplit with ⟨mid, rfl, rfl⟩ | ⟨mid, rfl, hmid⟩
    · refine Or.inr ⟨⟨mid, after, rfl, fun d hd => hfresh d (by simp [hd])⟩, ?_⟩
      exact fun a ha => hfresh a (by simp [ha])
    · cases mid with
      | nil =>
        obtain rfl : B = c :: after := by simpa using hmid.symm
        refine Or.inr ⟨⟨[], after, rfl, by simp⟩, ?_⟩
        exact fun a ha => hfresh a (by simpa using ha)
      | cons d mid =>
        obtain ⟨rfl, _⟩ := List.cons.inj hmid
        exact Or.inl ⟨before, mid, rfl, hfresh⟩
  · rintro (⟨before, after, rfl, hfresh⟩ | ⟨⟨before, after, rfl, hfresh⟩, hA⟩)
    · exact ⟨before, after ++ B, by simp, hfresh⟩
    · refine ⟨A ++ before, after, by simp, ?_⟩
      intro d hd
      rcases List.mem_append.mp hd with hd | hd
      · exact hA d hd
      · exact hfresh d hd

end HookAudit.Score
