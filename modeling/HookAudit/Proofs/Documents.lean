/-
# HookAudit.Proofs.Documents — documents that have been read.

A text may name a member of an object twice, but the document that is read from it does not: of
members with one name the last is kept.  So every document that is read is proper (`read_proper`):
each object in it, however deep, has every name once.
-/
import HookAudit.Json.Reader
import HookAudit.Proofs.Entries

namespace HookAudit.Json

variable {fuel : Nat} {t rest : Text} {j : Json}

/-- **`j.Proper`** — every object in the document has each name once. -/
inductive Proper : Json → Prop where
  | null : Proper .null
  | bool (value : Bool) : Proper (.bool value)
  | int (value : Int) : Proper (.int value)
  | real (spelling : Text) : Proper (.real spelling)
  | str (value : Text) : Proper (.str value)
  | arr {items : List Json} (items_proper : ∀ item ∈ items, Proper item) : Proper (.arr items)
  | obj {members : List (Text × Json)} (once : (members.map (·.1)).Nodup)
      (members_proper : ∀ member ∈ members, Proper member.2) : Proper (.obj members)

theorem Proper.names_nodup {members : List (Text × Json)} (h : Proper (.obj members)) :
    (members.map (·.1)).Nodup := by
  cases h with
  | obj once members_proper => exact once

theorem Proper.of_lookup {name : Text} (h : j.Proper) {value : Json}
    (hvalue : j.get? name = some value) : value.Proper := by
  cases h with
  | obj once members_proper =>
    exact members_proper _ ((lookup_eq_some_iff_of_nodup once).mp hvalue)
  | _ => cases hvalue

theorem wordValues_proper : ∀ word ∈ wordValues, word.2.Proper := by
  simp only [wordValues, List.forall_mem_cons]
  exact ⟨.null, .bool _, .bool _, .real _, .real _, .real _, nofun⟩

theorem readNumber_proper (h : readNumber t = .ok (j, rest)) : j.Proper := by
  unfold readNumber at h
  split at h
  rename_i sign body hsign
  split at h
  rename_i whole tail hwhole
  split at h
  · cases h
  split at h
  rename_i fraction tail' hfraction
  split at h
  rename_i exponent tail'' hexponent
  split at h
  · split at h
    · cases h
    · cases h
      exact .int _
  · cases h
    exact .real _

/-- What is made of what was read. -/
theorem map_eq_ok {α β ε : Type} {x : Except ε α} {f : α → β} {b : β} (h : x.map f = .ok b) :
    ∃ a, x = .ok a ∧ f a = b := by
  cases x with
  | error e => cases h
  | ok a =>
    cases h
    exact ⟨a, rfl, rfl⟩

/-- With some fuel, values, members and items are read properly. -/
structure ReadsProperly (fuel : Nat) : Prop where
  value : ∀ {t j rest}, readValue fuel t = .ok (j, rest) → j.Proper
  members : ∀ {t ms rest}, readMembers fuel t = .ok (ms, rest) → ∀ member ∈ ms, member.2.Proper
  items : ∀ {t xs rest}, readItems fuel t = .ok (xs, rest) → ∀ item ∈ xs, item.Proper

theorem ReadsProperly.zero : ReadsProperly 0 where
  value := by
    intro t j rest h
    rw [readValue] at h
    cases h
  members := by
    intro t ms rest h
    rw [readMembers] at h
    cases h
  items := by
    intro t xs rest h
    rw [readItems] at h
    cases h

theorem ReadsProperly.readValue_succ (ih : ReadsProperly fuel)
    (h : readValue (fuel + 1) t = .ok (j, rest)) : j.Proper := by
  rw [readValue.eq_def] at h
  dsimp only at h
  -- by the first character: a string, an object, an array, a word or a number
  split at h
  · cases h
  split at h
  · obtain ⟨⟨s, r⟩, hread, heq⟩ := map_eq_ok h
    cases heq
    exact .str s
  split at h
  · split at h
    · cases h
    split at h
    · cases h
      exact .obj .nil nofun
    · obtain ⟨⟨ms, r⟩, hread, heq⟩ := map_eq_ok h
      cases heq
      -- members may repeat a name in the text; what is kept of them does not
      exact .obj (nodup_entriesOf ms) fun member hmember =>
        ih.members hread member (mem_of_mem_entriesOf hmember)
  split at h
  · split at h
    · cases h
    split at h
    · cases h
      exact .arr nofun
    · obtain ⟨⟨xs, r⟩, hread, heq⟩ := map_eq_ok h
      cases heq
      exact .arr (ih.items hread)
  split at h
  · rename_i word value hword
    cases h
    exact wordValues_proper _ (List.mem_of_find?_eq_some hword)
  · exact readNumber_proper h

theorem ReadsProperly.readMembers_succ (ih : ReadsProperly fuel) {ms : List (Text × Json)}
    (h : readMembers (fuel + 1) t = .ok (ms, rest)) : ∀ member ∈ ms, member.2.Proper := by
  rw [readMembers.eq_def] at h
  dsimp only at h
  -- everything up to the value of the member can only fail
  split at h
  · cases h
  split at h
  · cases h
  split at h
  · cases h
  split at h
  · cases h
  split at h
  · cases h
  split at h
  · cases h
  rename_i value rest' hvalue
  split at h
  · cases h
  split at h
  · cases h
    exact List.forall_mem_singleton.mpr (ih.value hvalue)
  split at h
  · cases h
  · obtain ⟨⟨more, r⟩, hread, heq⟩ := map_eq_ok h
    cases heq
    exact List.forall_mem_cons.mpr ⟨ih.value hvalue, ih.members hread⟩

theorem ReadsProperly.readItems_succ (ih : ReadsProperly fuel) {xs : List Json}
    (h : readItems (fuel + 1) t = .ok (xs, rest)) : ∀ item ∈ xs, item.Proper := by
  rw [readItems.eq_def] at h
  dsimp only at h
  split at h
  · cases h
  rename_i value rest' hvalue
  split at h
  · cases h
  split at h
  · cases h
    exact List.forall_mem_singleton.mpr (ih.value hvalue)
  split at h
  · cases h
  · obtain ⟨⟨more, r⟩, hread, heq⟩ := map_eq_ok h
    cases heq
    exact List.forall_mem_cons.mpr ⟨ih.value hvalue, ih.items hread⟩

theorem readsProperly (fuel : Nat) : ReadsProperly fuel := by
  induction fuel with
  | zero => exact .zero
  | succ fuel ih => exact ⟨ih.readValue_succ, ih.readMembers_succ, ih.readItems_succ⟩

/-- **`read_proper`** — a document that is read from a text has each name once in every object. -/
theorem read_proper (h : read t = .ok j) : j.Proper := by
  unfold read at h
  split at h
  · cases h
  split at h
  · cases h
  · rename_i value rest hvalue
    dsimp only at h
    split at h
    · cases h
      exact (readsProperly _).value hvalue
    · cases h

end HookAudit.Json
