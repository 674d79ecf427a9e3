/-
# HookAudit.Proofs.FirstCome — keeping what clashes with nothing kept before.

Three passes of the library have one shape: the members of a list are visited in order, and a
member stays unless it *clashes* with one that stayed before.  Distinct findings clash when equal,
unique captures when their keys agree, counted captures when their ranges overlap.  `firstCome` is
that pass with the clash as a parameter, and this module is its theory:

* `mem_firstCome_iff` — which members stay, said of the members in front of them;
* `mem_or_clash` — whatever is left out clashes with something that stayed;
* `Greedy` — the *rule*: a member is selected exactly when nothing selected that comes before it
  clashes with it;
* `greedy_iff` — on a list that a strict order sorts, the pass makes the one selection that obeys
  the rule.

The last gives the pass a meaning that mentions no pass.  `Greedy.union` is the one law of the rule
itself: selections from pools that do not clash with each other can be made apart.
-/
import HookAudit.Assessment
import Mathlib.Data.List.Induction
import Mathlib.Data.Set.Basic

namespace HookAudit

variable {α β : Type} {clash : α → α → Bool}

/-- The members of a list that clash with no member kept before them. -/
def firstCome (clash : α → α → Bool) (xs : List α) : List α :=
  xs.foldl (fun kept x => if kept.any (clash x) then kept else kept ++ [x]) []

@[simp]
theorem firstCome_nil : firstCome clash [] = [] := rfl

/-- One more member at the end: the equation on which every induction below runs. -/
theorem firstCome_concat (xs : List α) (x : α) :
    firstCome clash (xs ++ [x]) =
      if (firstCome clash xs).any (clash x) then firstCome clash xs
      else firstCome clash xs ++ [x] := by
  rw [firstCome, List.foldl_append, List.foldl_cons, List.foldl_nil]
  rfl

/-- What was kept stays kept when the list goes on. -/
theorem firstCome_prefix_append (xs ys : List α) :
    firstCome clash xs <+: firstCome clash (xs ++ ys) := by
  induction ys using List.reverseRecOn with
  | nil => simp
  | append_singleton ys y ih =>
    rw [← List.append_assoc, firstCome_concat]
    split
    · exact ih
    · exact ih.trans (List.prefix_append _ _)

/-- Nothing is added and the order is kept. -/
theorem firstCome_sublist (xs : List α) : (firstCome clash xs).Sublist xs := by
  induction xs using List.reverseRecOn with
  | nil => simp
  | append_singleton xs x ih =>
    rw [firstCome_concat]
    split
    · exact ih.trans (List.sublist_append_left xs [x])
    · exact ih.append (List.Sublist.refl [x])

theorem mem_of_mem_firstCome {xs : List α} {x : α} (h : x ∈ firstCome clash xs) : x ∈ xs :=
  (firstCome_sublist xs).subset h

/-- No two kept members clash, the later one being asked. -/
theorem pairwise_firstCome (xs : List α) :
    (firstCome clash xs).Pairwise fun k x => clash x k = false := by
  induction xs using List.reverseRecOn with
  | nil => simp
  | append_singleton xs x ih =>
    rw [firstCome_concat]
    split
    · exact ih
    · rename_i hnone
      refine List.pairwise_append.mpr ⟨ih, List.pairwise_singleton _ _, ?_⟩
      intro k hk y hy
      rw [List.mem_singleton.mp hy]
      simp only [Bool.not_eq_true, List.any_eq_false] at hnone
      exact hnone k hk

/-- **`mem_firstCome_iff`** — a member stays exactly when, at one of its places in the list, it
clashes with nothing kept from the part in front of that place. -/
theorem mem_firstCome_iff {xs : List α} {x : α} :
    x ∈ firstCome clash xs ↔
      ∃ before after, xs = before ++ x :: after ∧
        ∀ k ∈ firstCome clash before, clash x k = false := by
  constructor
  · intro hx
    induction xs using List.reverseRecOn with
    | nil => simp at hx
    | append_singleton xs y ih =>
      have extended : x ∈ firstCome clash xs → ∃ before after, xs ++ [y] = before ++ x :: after ∧
          ∀ k ∈ firstCome clash before, clash x k = false := by
        intro h
        obtain ⟨before, after, rfl, hfree⟩ := ih h
        exact ⟨before, after ++ [y], by simp, hfree⟩
      rw [firstCome_concat] at hx
      split at hx
      · exact extended hx
      · rename_i hnone
        rcases List.mem_append.mp hx with hx | hx
        · exact extended hx
        · obtain rfl := List.mem_singleton.mp hx
          refine ⟨xs, [], rfl, ?_⟩
          intro k hk
          simp only [Bool.not_eq_true, List.any_eq_false] at hnone
          exact hnone k hk
  · rintro ⟨before, after, rfl, hfree⟩
    have hkept : firstCome clash (before ++ [x]) = firstCome clash before ++ [x] := by
      rw [firstCome_concat, if_neg]
      simpa using hfree
    have hmem : x ∈ firstCome clash (before ++ [x]) := by simp [hkept]
    rw [← List.singleton_append, ← List.append_assoc]
    exact (firstCome_prefix_append _ after).subset hmem

/-- **`mem_or_clash`** — whatever is left out clashes with something kept. -/
theorem mem_or_clash {xs : List α} {x : α} (hx : x ∈ xs) :
    x ∈ firstCome clash xs ∨ ∃ k ∈ firstCome clash xs, clash x k = true := by
  obtain ⟨before, after, rfl⟩ := List.append_of_mem hx
  by_cases hfree : ∀ k ∈ firstCome clash before, clash x k = false
  · exact Or.inl (mem_firstCome_iff.mpr ⟨before, after, rfl, hfree⟩)
  · push Not at hfree
    obtain ⟨k, hk, hclash⟩ := hfree
    exact Or.inr ⟨k, (firstCome_prefix_append before (x :: after)).subset hk, by simpa using hclash⟩

/-- Renaming the members commutes with the pass when clashes do not see the renaming. -/
theorem firstCome_map {clash' : β → β → Bool} {f : α → β}
    (hclash : ∀ a b, clash' (f a) (f b) = clash a b) (xs : List α) :
    firstCome clash' (xs.map f) = (firstCome clash xs).map f := by
  induction xs using List.reverseRecOn with
  | nil => rfl
  | append_singleton xs x ih =>
    have hany : (firstCome clash' (xs.map f)).any (clash' (f x)) =
        (firstCome clash xs).any (clash x) := by
      simp only [ih, List.any_map, Function.comp_def, hclash]
    rw [List.map_append, List.map_singleton, firstCome_concat, firstCome_concat, hany, ih]
    split <;> simp

/-! ## The rule behind the pass -/

/-- **`Greedy clash before pool S`** — the selection `S` from `pool` that takes everything it can,
earliest first: a member of the pool is selected exactly when nothing selected that comes before it
clashes with it. -/
structure Greedy (clash : α → α → Bool) (before : α → α → Prop) (pool S : Set α) : Prop where
  subset : S ⊆ pool
  rule : ∀ x ∈ pool, (x ∈ S ↔ ∀ k ∈ S, before k x → clash x k = false)

section Sorted

variable {before : α → α → Prop} {xs : List α}

/-- Over a list sorted by a strict order, the pass makes a greedy selection. -/
theorem greedy_firstCome (hasymm : ∀ a b, before a b → ¬ before b a)
    (hsorted : xs.Pairwise before) :
    Greedy clash before {x | x ∈ xs} {x | x ∈ firstCome clash xs} where
  subset _ hx := mem_of_mem_firstCome hx
  rule x hx := by
    constructor
    · intro hkept
      have hforward : (firstCome clash xs).Pairwise fun a b => before a b → clash b a = false := by
        refine (pairwise_firstCome xs).imp ?_
        intro a b hfree _
        exact hfree
      have hbackward : (firstCome clash xs).Pairwise fun a b => before b a → clash a b = false :=
        (hsorted.sublist (firstCome_sublist xs)).imp fun hab hba => absurd hba (hasymm _ _ hab)
      have hboth := List.Pairwise.forall_of_forall_of_flip
        (R := fun a b => before a b → clash b a = false)
        (fun a _ haa => absurd haa (hasymm _ _ haa)) hforward hbackward
      exact fun k hk => hboth hk hkept
    · intro hfree
      -- what was kept in front of `x` comes before it in the order
      obtain ⟨front, rest, rfl⟩ := List.append_of_mem hx
      refine mem_firstCome_iff.mpr ⟨front, rest, rfl, fun k hk => ?_⟩
      refine hfree k ((firstCome_prefix_append front (x :: rest)).subset hk) ?_
      exact (List.pairwise_append.mp hsorted).2.2 k (mem_of_mem_firstCome hk) x (by simp)

/-- Two greedy selections from a sorted list agree: on each member, because they agree on the
members in front of it and the rule looks no further. -/
theorem Greedy.agree (hasymm : ∀ a b, before a b → ¬ before b a) (hsorted : xs.Pairwise before)
    {S T : Set α} (hS : Greedy clash before {x | x ∈ xs} S)
    (hT : Greedy clash before {x | x ∈ xs} T) : S = T := by
  have agree : ∀ front, front <+: xs → ∀ x ∈ front, (x ∈ S ↔ x ∈ T) := by
    intro front
    induction front using List.reverseRecOn with
    | nil => simp
    | append_singleton front y ih =>
      rintro ⟨rest, rfl⟩ x hx
      rw [List.append_assoc, List.singleton_append] at *
      have ihfront := ih (List.prefix_append front (y :: rest))
      rcases List.mem_append.mp hx with hx | hx
      · exact ihfront x hx
      · obtain rfl := List.mem_singleton.mp hx
        have hpool : x ∈ {z | z ∈ front ++ x :: rest} := by simp
        -- what comes before `x` in the order stands in front of it in the list
        have hfront : ∀ k ∈ front ++ x :: rest, before k x → k ∈ front := by
          intro k hk hkx
          rcases List.mem_append.mp hk with hk | hk
          · exact hk
          · rcases List.mem_cons.mp hk with rfl | hk
            · exact absurd hkx (hasymm _ _ hkx)
            · have hxk := (List.pairwise_cons.mp (List.pairwise_append.mp hsorted).2.1).1 k hk
              exact absurd hkx (hasymm _ _ hxk)
        rw [hS.rule x hpool, hT.rule x hpool]
        constructor
        · intro hfree k hk hkx
          exact hfree k ((ihfront k (hfront k (hT.subset hk) hkx)).mpr hk) hkx
        · intro hfree k hk hkx
          exact hfree k ((ihfront k (hfront k (hS.subset hk) hkx)).mp hk) hkx
  ext x
  constructor
  · exact fun hx => (agree xs (List.prefix_refl xs) x (hS.subset hx)).mp hx
  · exact fun hx => (agree xs (List.prefix_refl xs) x (hT.subset hx)).mpr hx

/-- **`greedy_iff`** — the pass over a sorted list is the one greedy selection from it. -/
theorem greedy_iff (hasymm : ∀ a b, before a b → ¬ before b a) (hsorted : xs.Pairwise before)
    {S : Set α} :
    Greedy clash before {x | x ∈ xs} S ↔ S = {x | x ∈ firstCome clash xs} := by
  constructor
  · exact fun hS => hS.agree hasymm hsorted (greedy_firstCome hasymm hsorted)
  · rintro rfl
    exact greedy_firstCome hasymm hsorted

end Sorted

/-! ## Pools that do not clash -/

section Union

variable {before : α → α → Prop} {P Q S T : Set α}

/-- In front of a pool that does not clash with it, a greedy selection goes on as before. -/
theorem Greedy.rule_union (hS : Greedy clash before P S) (hT : T ⊆ Q)
    (hapart : ∀ p ∈ P, ∀ q ∈ Q, p ≠ q ∧ clash p q = false) {x : α} (hx : x ∈ P) :
    x ∈ S ∪ T ↔ ∀ k ∈ S ∪ T, before k x → clash x k = false := by
  constructor
  · rintro (hxS | hxT) k (hkS | hkT) hkx
    · exact (hS.rule x hx).mp hxS k hkS hkx
    · exact (hapart x hx k (hT hkT)).2
    · exact absurd rfl (hapart x hx x (hT hxT)).1
    · exact (hapart x hx k (hT hkT)).2
  · intro hfree
    exact Or.inl ((hS.rule x hx).mpr fun k hk => hfree k (Or.inl hk))

/-- **`Greedy.union`** — greedy selections from two pools that do not clash are together the greedy
selection from both pools, however the order interleaves them. -/
theorem Greedy.union (hS : Greedy clash before P S) (hT : Greedy clash before Q T)
    (hPQ : ∀ p ∈ P, ∀ q ∈ Q, p ≠ q ∧ clash p q = false)
    (hQP : ∀ q ∈ Q, ∀ p ∈ P, q ≠ p ∧ clash q p = false) :
    Greedy clash before (P ∪ Q) (S ∪ T) where
  subset := Set.union_subset_union hS.subset hT.subset
  rule x hx := by
    rcases hx with hx | hx
    · exact hS.rule_union hT.subset hPQ hx
    · rw [Set.union_comm]
      exact hT.rule_union hS.subset hQP hx

end Union

/-! ## Distinct members -/

/-- Taking the distinct members is the pass in which equal members clash. -/
theorem distinct_eq_firstCome [BEq α] (xs : List α) :
    distinct xs = firstCome (fun x k => x == k) xs := by
  simp only [distinct, firstCome, List.contains_eq_any_beq]

@[simp]
theorem mem_distinct [BEq α] [LawfulBEq α] {xs : List α} {x : α} : x ∈ distinct xs ↔ x ∈ xs := by
  rw [distinct_eq_firstCome]
  constructor
  · exact mem_of_mem_firstCome
  · intro hx
    rcases mem_or_clash hx with hx | ⟨k, hk, hclash⟩
    · exact hx
    · rwa [eq_of_beq hclash]

theorem nodup_distinct [BEq α] [LawfulBEq α] (xs : List α) : (distinct xs).Nodup := by
  rw [distinct_eq_firstCome]
  refine (pairwise_firstCome xs).imp ?_
  rintro k x hclash rfl
  simp at hclash

end HookAudit
