/-
# HookAudit.Proofs.Entries — what a list of named values keeps.

Adding named values one by one, a name that comes again takes the new value and keeps its place.  So
a value is kept exactly when none behind it has its name (`mem_entriesOf_iff`); and where all names
differ, everything is kept as it is (`entriesOf_of_nodup`).
-/
import HookAudit.Json.Value
import Mathlib.Data.List.Induction

namespace HookAudit

variable {α β : Type} {name other : Text} {value : α} {entries pairs : List (Text × α)}

theorem mem_putEntry_iff {v : α} :
    (other, v) ∈ putEntry entries name value ↔
      other = name ∧ v = value ∨ other ≠ name ∧ (other, v) ∈ entries := by
  unfold putEntry
  split
  · rename_i hthere
    obtain ⟨⟨first, old⟩, hmem, hfirst⟩ := List.any_eq_true.mp hthere
    obtain rfl : first = name := by simpa using hfirst
    constructor
    · intro h
      obtain ⟨⟨n, u⟩, hentry, heq⟩ := List.mem_map.mp h
      by_cases hn : n = first
      · subst hn
        simp only [beq_self_eq_true, if_true, Prod.mk.injEq] at heq
        exact .inl ⟨heq.1.symm, heq.2.symm⟩
      · simp only [hn, beq_iff_eq, if_false, Prod.mk.injEq] at heq
        obtain ⟨rfl, rfl⟩ := heq
        exact .inr ⟨hn, hentry⟩
    · rintro (⟨rfl, rfl⟩ | ⟨hne, hentry⟩)
      · exact List.mem_map.mpr ⟨_, hmem, by simp⟩
      · exact List.mem_map.mpr ⟨_, hentry, by simp [hne]⟩
  · rename_i habsent
    have hne : (other, v) ∈ entries → other ≠ name := by
      rintro hentry rfl
      exact habsent (List.any_eq_true.mpr ⟨_, hentry, by simp⟩)
    simp only [List.mem_append, List.mem_singleton, Prod.mk.injEq]
    constructor
    · rintro (hentry | h)
      · exact .inr ⟨hne hentry, hentry⟩
      · exact .inl h
    · rintro (h | ⟨-, hentry⟩)
      · exact .inr h
      · exact .inl hentry

theorem entriesOf_concat :
    entriesOf (pairs ++ [(name, value)]) = putEntry (entriesOf pairs) name value := by
  simp [entriesOf, List.foldl_append]

theorem entriesOf_of_nodup (h : (pairs.map (·.1)).Nodup) : entriesOf pairs = pairs := by
  induction pairs using List.reverseRecOn with
  | nil => rfl
  | append_singleton pairs pair ih =>
    obtain ⟨name, value⟩ := pair
    rw [List.map_append] at h
    obtain ⟨hpairs, -, hnew⟩ := List.pairwise_append.mp h
    have habsent : ¬ pairs.any (·.1 == name) = true := by
      intro hthere
      obtain ⟨entry, hmem, hname⟩ := List.any_eq_true.mp hthere
      exact hnew entry.1 (List.mem_map.mpr ⟨entry, hmem, rfl⟩) name (by simp) (by simpa using hname)
    rw [entriesOf_concat, ih hpairs, putEntry, if_neg habsent]

/-- Where all names differ, whatever has a name is found under it. -/
theorem lookup_eq_some_iff_of_nodup (h : (pairs.map (·.1)).Nodup) :
    pairs.lookup name = some value ↔ (name, value) ∈ pairs := by
  rw [List.lookup_eq_some_iff]
  constructor
  · rintro ⟨earlier, later, rfl, -⟩
    simp
  · intro hmem
    obtain ⟨earlier, later, rfl⟩ := List.append_of_mem hmem
    refine ⟨earlier, later, rfl, fun pair hpair => bne_iff_ne.mpr ?_⟩
    rw [List.map_append] at h
    obtain ⟨-, -, hapart⟩ := List.pairwise_append.mp h
    exact (hapart pair.1 (List.mem_map_of_mem hpair) name (by simp)).symm

/-- **`IsLast pairs name value`** — the value has the name, and none behind it has. -/
def IsLast (pairs : List (Text × α)) (name : Text) (value : α) : Prop :=
  ∃ earlier later, pairs = earlier ++ (name, value) :: later ∧ name ∉ later.map (·.1)

/-- What comes behind takes precedence. -/
theorem isLast_append_iff {xs ys : List (Text × α)} :
    IsLast (xs ++ ys) name value ↔
      IsLast ys name value ∨ name ∉ ys.map (·.1) ∧ IsLast xs name value := by
  constructor
  · rintro ⟨earlier, later, hsplit, hlater⟩
    -- the pair is in the second list, or in the first with all of the second behind it
    rcases List.append_eq_append_iff.mp hsplit with ⟨more, rfl, rfl⟩ | ⟨rest, rfl, hrest⟩
    · exact .inl ⟨more, later, rfl, hlater⟩
    · cases rest with
      | nil => exact .inl ⟨[], later, hrest.symm, hlater⟩
      | cons pair rest =>
        obtain ⟨rfl, rfl⟩ : (name, value) = pair ∧ later = rest ++ ys := List.cons.inj hrest
        rw [List.map_append, List.mem_append, not_or] at hlater
        exact .inr ⟨hlater.2, earlier, rest, rfl, hlater.1⟩
  · rintro (⟨earlier, later, rfl, hlater⟩ | ⟨hys, earlier, later, rfl, hlater⟩)
    · exact ⟨xs ++ earlier, later, by simp, hlater⟩
    · refine ⟨earlier, later ++ ys, by simp, ?_⟩
      rw [List.map_append, List.mem_append, not_or]
      exact ⟨hlater, hys⟩

theorem isLast_singleton_iff {v : α} :
    IsLast [(name, value)] other v ↔ other = name ∧ v = value := by
  constructor
  · rintro ⟨earlier, later, hsplit, -⟩
    cases earlier with
    | nil =>
      obtain ⟨hpair, -⟩ := List.cons.inj hsplit
      exact ⟨(congrArg Prod.fst hpair).symm, (congrArg Prod.snd hpair).symm⟩
    | cons pair earlier => simp at hsplit
  · rintro ⟨rfl, rfl⟩
    exact ⟨[], [], rfl, by simp⟩

theorem IsLast.mem (h : IsLast pairs name value) : (name, value) ∈ pairs := by
  obtain ⟨earlier, later, rfl, -⟩ := h
  exact List.mem_append_right _ List.mem_cons_self

/-- **`mem_entriesOf_iff`** — what is kept under a name is the last value that has it. -/
theorem mem_entriesOf_iff : (name, value) ∈ entriesOf pairs ↔ IsLast pairs name value := by
  induction pairs using List.reverseRecOn with
  | nil =>
    constructor
    · rintro ⟨⟩
    · rintro ⟨earlier, later, hsplit, -⟩
      simp at hsplit
  | append_singleton pairs pair ih =>
    obtain ⟨first, new⟩ := pair
    rw [entriesOf_concat, mem_putEntry_iff, isLast_append_iff, isLast_singleton_iff, ih]
    simp

/-- A name that occurs has a last value. -/
theorem exists_isLast_iff : (∃ value, IsLast pairs name value) ↔ name ∈ pairs.map (·.1) := by
  constructor
  · rintro ⟨value, earlier, later, rfl, -⟩
    simp
  · intro hname
    induction pairs using List.reverseRecOn with
    | nil => cases hname
    | append_singleton pairs pair ih =>
      obtain ⟨first, new⟩ := pair
      by_cases hfirst : name = first
      · exact ⟨new, isLast_append_iff.mpr (.inl (isLast_singleton_iff.mpr ⟨hfirst, rfl⟩))⟩
      · obtain ⟨value, hvalue⟩ := ih (by simpa [hfirst] using hname)
        exact ⟨value, isLast_append_iff.mpr (.inr ⟨by simpa using hfirst, hvalue⟩)⟩

/-- Renaming apart keeps what is last. -/
theorem isLast_map_iff {rename : Text → Text} (hrename : ∀ a b, rename a = rename b → a = b) :
    IsLast (pairs.map fun pair => (rename pair.1, pair.2)) other value ↔
      ∃ name, rename name = other ∧ IsLast pairs name value := by
  induction pairs using List.reverseRecOn with
  | nil => simp [IsLast]
  | append_singleton pairs pair ih =>
    obtain ⟨first, new⟩ := pair
    rw [List.map_append, isLast_append_iff, ih]
    simp only [List.map_cons, List.map_nil, isLast_singleton_iff, List.mem_singleton,
      isLast_append_iff]
    constructor
    · rintro (⟨rfl, rfl⟩ | ⟨hother, name, rfl, hname⟩)
      · exact ⟨first, rfl, .inl ⟨rfl, rfl⟩⟩
      · exact ⟨name, rfl, .inr ⟨fun h => hother (congrArg rename h), hname⟩⟩
    · rintro ⟨name, rfl, ⟨rfl, rfl⟩ | ⟨hne, hname⟩⟩
      · exact .inl ⟨rfl, rfl⟩
      · exact .inr ⟨fun h => hne (hrename _ _ h), name, rfl, hname⟩

/-- What is made of values is last where they are. -/
theorem isLast_map_value_iff {f : α → β} {b : β} :
    IsLast (pairs.map fun pair => (pair.1, f pair.2)) name b ↔
      ∃ value, IsLast pairs name value ∧ f value = b := by
  induction pairs using List.reverseRecOn with
  | nil => simp [IsLast]
  | append_singleton pairs pair ih =>
    obtain ⟨first, new⟩ := pair
    rw [List.map_append, isLast_append_iff, ih]
    simp only [List.map_cons, List.map_nil, isLast_singleton_iff, List.mem_singleton,
      isLast_append_iff]
    constructor
    · rintro (⟨rfl, rfl⟩ | ⟨hname, value, hvalue, rfl⟩)
      · exact ⟨new, .inl ⟨rfl, rfl⟩, rfl⟩
      · exact ⟨value, .inr ⟨hname, hvalue⟩, rfl⟩
    · rintro ⟨value, ⟨rfl, rfl⟩ | ⟨hname, hvalue⟩, rfl⟩
      · exact .inl ⟨rfl, rfl⟩
      · exact .inr ⟨hname, value, hvalue, rfl⟩

/-- Where all names differ, everything is last. -/
theorem isLast_iff_of_nodup (h : (pairs.map (·.1)).Nodup) :
    IsLast pairs name value ↔ (name, value) ∈ pairs := by
  rw [← mem_entriesOf_iff, entriesOf_of_nodup h]

/-- What is kept under a name was there. -/
theorem mem_of_mem_entriesOf {pair : Text × α} (h : pair ∈ entriesOf pairs) : pair ∈ pairs := by
  obtain ⟨earlier, later, rfl, -⟩ := mem_entriesOf_iff.mp h
  simp

/-- Names are kept apart. -/
theorem nodup_putEntry (h : (entries.map (·.1)).Nodup) (name : Text) (value : α) :
    ((putEntry entries name value).map (·.1)).Nodup := by
  unfold putEntry
  split
  · have hnames : (entries.map fun entry => if entry.1 == name then (name, value) else entry).map
        (·.1) = entries.map (·.1) := by
      rw [List.map_map]
      refine List.map_congr_left fun entry _ => ?_
      by_cases hname : entry.1 = name <;> simp [hname]
    rwa [hnames]
  · rename_i habsent
    rw [List.map_append]
    refine List.nodup_append.mpr ⟨h, List.pairwise_singleton _ _, ?_⟩
    rintro other hother _ hname rfl
    obtain ⟨entry, hentry, rfl⟩ := List.mem_map.mp hother
    exact habsent (List.any_eq_true.mpr ⟨entry, hentry, by simpa using hname⟩)

theorem nodup_entriesOf (pairs : List (Text × α)) : ((entriesOf pairs).map (·.1)).Nodup := by
  induction pairs using List.reverseRecOn with
  | nil => exact .nil
  | append_singleton pairs pair ih =>
    rw [entriesOf_concat]
    exact nodup_putEntry ih _ _

/-- There is one last value of a name. -/
theorem IsLast.unique {v : α} (h : IsLast pairs name value) (h' : IsLast pairs name v) :
    v = value := by
  induction pairs using List.reverseRecOn with
  | nil =>
    obtain ⟨earlier, later, hsplit, -⟩ := h
    simp at hsplit
  | append_singleton pairs pair ih =>
    obtain ⟨first, new⟩ := pair
    rw [isLast_append_iff, isLast_singleton_iff] at h h'
    rcases h with ⟨rfl, rfl⟩ | ⟨hne, h⟩
    · rcases h' with ⟨-, rfl⟩ | ⟨hne, -⟩
      · rfl
      · exact absurd (by simp) hne
    · rcases h' with ⟨rfl, -⟩ | ⟨-, h'⟩
      · exact absurd (by simp) hne
      · exact ih h h'

/-- What is last is last of what is kept. -/
theorem isLast_entriesOf_iff : IsLast (entriesOf pairs) name value ↔ IsLast pairs name value := by
  have hkept : ∀ v, IsLast (entriesOf pairs) name v → IsLast pairs name v := by
    rintro v ⟨earlier, later, hsplit, -⟩
    rw [← mem_entriesOf_iff, hsplit]
    simp
  -- conversely the name is kept with some last value, and there is only one
  refine ⟨hkept value, fun h => ?_⟩
  have hname : name ∈ (entriesOf pairs).map (·.1) :=
    List.mem_map.mpr ⟨_, mem_entriesOf_iff.mpr h, rfl⟩
  obtain ⟨last, hlast⟩ := exists_isLast_iff.mpr hname
  rwa [h.unique (hkept last hlast)] at hlast

/-- Going through lists, it does not matter whether each is cut down to what it keeps first. -/
theorem isLast_flatMap_congr {xs : List β} {f g : β → List (Text × α)}
    (h : ∀ x ∈ xs, ∀ name value, IsLast (f x) name value ↔ IsLast (g x) name value) :
    IsLast (xs.flatMap f) name value ↔ IsLast (xs.flatMap g) name value := by
  induction xs generalizing value with
  | nil => rfl
  | cons x xs ih =>
    obtain ⟨hx, hxs⟩ := List.forall_mem_cons.mp h
    have hrest : ∀ v, IsLast (xs.flatMap f) name v ↔ IsLast (xs.flatMap g) name v :=
      fun v => ih hxs
    rw [List.flatMap_cons, List.flatMap_cons, isLast_append_iff, isLast_append_iff, hx, hrest]
    simp only [← exists_isLast_iff, hrest]

end HookAudit
