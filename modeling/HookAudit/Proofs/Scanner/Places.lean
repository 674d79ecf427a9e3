/-
# HookAudit.Proofs.Scanner.Places — where the hooks of a settings document stand.

A hook stands at a place: the code of a configuration of an event, or the code or the command of one
of the further hooks of a configuration.  `places` lists the places of a document that hold a text,
in document order (`places_ordered`), and `mem_places_iff` says that it lists all of them.  The
hooks that are assessed are these, each under the key of its place (`inlineHooks_eq`).

A key is read back from its end, so it names one place (`Place.key_eq_iff`), except that an event
may be given the very name that the further hooks of another event's configuration have in keys.
-/
import HookAudit.Proofs.Documents
import HookAudit.Proofs.Entries
import HookAudit.Proofs.Text.Numbers
import HookAudit.Scanner.Settings
import Mathlib.Data.List.Nodup

namespace HookAudit.Scanner

/-! ## Places -/

/-- A place of a settings document at which a hook may stand. -/
inductive Place where
  /-- The code of a configuration. -/
  | code (event : Text) (index : Nat)
  /-- The code of one of the further hooks of a configuration. -/
  | nestedCode (event : Text) (index nested : Nat)
  /-- The command of one of the further hooks of a configuration. -/
  | nestedCommand (event : Text) (index nested : Nat)
deriving DecidableEq

namespace Place

/-- The event of a place. -/
def event : Place → Text
  | code event _ | nestedCode event _ _ | nestedCommand event _ _ => event

/-- Which configuration of its event a place belongs to. -/
def index : Place → Nat
  | code _ index | nestedCode _ index _ | nestedCommand _ index _ => index

/-- Where in its configuration a place comes. -/
def rank : Place → Nat
  | code _ _ => 0
  | nestedCode _ _ nested => 2 * nested + 1
  | nestedCommand _ _ nested => 2 * nested + 2

/-- The key of a place. -/
def key : Place → Text
  | code event index => position event index ++ ".inline"
  | nestedCode event index nested =>
    position (position event index ++ ".hooks") nested ++ ".inline"
  | nestedCommand event index nested =>
    position (position event index ++ ".hooks") nested ++ ".command"

/-- The language of a hook, by its place. -/
def lang : Place → Option Language
  | code _ _ | nestedCode _ _ _ => none
  | nestedCommand _ _ _ => some .bash

/-- The hook with some text at a place. -/
def hook (place : Place) (content : Text) : InlineHook := ⟨place.key, content, place.lang⟩

/-- **`Before events p q`** — with the events in this order, the place `p` comes before `q`. -/
inductive Before (events : List Text) (p q : Place) : Prop where
  | event (earlier : [p.event, q.event].Sublist events)
  | index (same : p.event = q.event) (earlier : p.index < q.index)
  | rank (same : p.event = q.event) (sameIndex : p.index = q.index) (earlier : p.rank < q.rank)

/-- Where no event is named twice, no place comes before itself. -/
theorem Before.ne {events : List Text} (hevents : events.Nodup) {p q : Place}
    (h : Before events p q) : p ≠ q := by
  rintro rfl
  cases h with
  | event hearlier => exact absurd rfl (List.pairwise_iff_forall_sublist.mp hevents hearlier)
  | index _ hearlier => exact absurd hearlier (Nat.lt_irrefl _)
  | rank _ _ hearlier => exact absurd hearlier (Nat.lt_irrefl _)

end Place

/-! ## What stands there -/

/-- The member of a list under a name. -/
def itemAt? (j : Json) (name : Text) (index : Nat) : Option Json :=
  match j.get? name with
  | some (.arr items) => items[index]?
  | _ => none

/-- A configuration of an event. -/
def configuration? (settings : Json) (event : Text) (index : Nat) : Option Json :=
  (settings.get? "hooks").bind fun events => itemAt? events event index

/-- The text at a place of a configuration. -/
def textIn? (configuration : Json) : Place → Option Text
  | .code _ _ => textOf? configuration "code"
  | .nestedCode _ _ nested =>
    (itemAt? configuration "hooks" nested).bind fun hook => textOf? hook "code"
  | .nestedCommand _ _ nested =>
    (itemAt? configuration "hooks" nested).bind fun hook => textOf? hook "command"

/-- The text at a place of a settings document. -/
def textAt? (settings : Json) (place : Place) : Option Text :=
  (configuration? settings place.event place.index).bind fun j => textIn? j place

/-- The events of a settings document. -/
def eventsOf (settings : Json) : List (Text × Json) :=
  match settings.get? "hooks" with
  | some (.obj events) => events
  | _ => []

/-- The names of the events of a settings document. -/
def eventNames (settings : Json) : List Text := (eventsOf settings).map (·.1)

/-- A proper document names no event twice. -/
theorem eventNames_nodup_of_proper {settings : Json} (h : settings.Proper) :
    (eventNames settings).Nodup := by
  unfold eventNames eventsOf
  split
  · rename_i events hevents
    exact (h.of_lookup hevents).names_nodup
  · exact .nil

/-! ## All places -/

/-- The place with the text that an object has under a name. -/
def placeUnder (j : Json) (name : Text) (place : Place) : List (Place × Text) :=
  match textOf? j name with
  | some content => [(place, content)]
  | none => []

/-- The places of one of the further hooks of a configuration. -/
def nestedPlaces (event : Text) (index nested : Nat) (j : Json) : List (Place × Text) :=
  placeUnder j "code" (.nestedCode event index nested) ++
    placeUnder j "command" (.nestedCommand event index nested)

/-- The places of a configuration. -/
def configurationPlaces (event : Text) (index : Nat) (j : Json) : List (Place × Text) :=
  placeUnder j "code" (.code event index) ++
    (itemsUnder j "hooks").flatMap fun (hook, nested) => nestedPlaces event index nested hook

/-- The places of an event. -/
def eventPlaces (event : Text) : Json → List (Place × Text)
  | .arr configurations => configurations.zipIdx.flatMap fun (configuration, index) =>
    configurationPlaces event index configuration
  | _ => []

/-- The places of a settings document that hold a text, in document order. -/
def places (settings : Json) : List (Place × Text) :=
  (eventsOf settings).flatMap fun (event, configurations) => eventPlaces event configurations

/-! ### Every place is listed -/

variable {settings j : Json} {event name t : Text} {index nested : Nat} {p place : Place}
  {names : List Text}

theorem mem_placeUnder_iff :
    (p, t) ∈ placeUnder j name place ↔ p = place ∧ textOf? j name = some t := by
  unfold placeUnder
  cases textOf? j name with
  | none => simp
  | some content => simp [eq_comm]

theorem mem_itemsUnder_iff {item : Json} :
    (item, index) ∈ itemsUnder j name ↔ itemAt? j name index = some item := by
  unfold itemsUnder itemAt?
  cases j.get? name with
  | none => simp
  | some items =>
    cases items with
    | arr items => exact List.mk_mem_zipIdx_iff_getElem?
    | _ => simp

theorem mem_configurationPlaces_iff :
    (p, t) ∈ configurationPlaces event index j ↔
      p.event = event ∧ p.index = index ∧ textIn? j p = some t := by
  simp only [configurationPlaces, nestedPlaces, List.mem_append, mem_placeUnder_iff,
    List.mem_flatMap, Prod.exists, mem_itemsUnder_iff]
  constructor
  · rintro (⟨rfl, ht⟩ | ⟨hook, nested, hhook, ⟨rfl, ht⟩ | ⟨rfl, ht⟩⟩)
    · exact ⟨rfl, rfl, ht⟩
    · exact ⟨rfl, rfl, by rw [textIn?, hhook]; exact ht⟩
    · exact ⟨rfl, rfl, by rw [textIn?, hhook]; exact ht⟩
  · rintro ⟨rfl, rfl, ht⟩
    cases p with
    | code => exact .inl ⟨rfl, ht⟩
    | nestedCode event index nested =>
      obtain ⟨hook, hhook, ht⟩ := Option.bind_eq_some_iff.mp ht
      exact .inr ⟨hook, nested, hhook, .inl ⟨rfl, ht⟩⟩
    | nestedCommand event index nested =>
      obtain ⟨hook, hhook, ht⟩ := Option.bind_eq_some_iff.mp ht
      exact .inr ⟨hook, nested, hhook, .inr ⟨rfl, ht⟩⟩

theorem mem_eventPlaces_iff :
    (p, t) ∈ eventPlaces event j ↔
      ∃ configurations index configuration, j = .arr configurations ∧
        configurations[index]? = some configuration ∧
        (p, t) ∈ configurationPlaces event index configuration := by
  cases j with
  | arr configurations =>
    simp only [eventPlaces, List.mem_flatMap, Prod.exists, List.mk_mem_zipIdx_iff_getElem?]
    constructor
    · rintro ⟨configuration, index, hthere, h⟩
      exact ⟨configurations, index, configuration, rfl, hthere, h⟩
    · rintro ⟨_, index, configuration, ⟨⟩, hthere, h⟩
      exact ⟨configuration, index, hthere, h⟩
  | _ => simp [eventPlaces]

theorem event_of_mem_eventPlaces (h : (p, t) ∈ eventPlaces event j) : p.event = event := by
  obtain ⟨_, _, _, _, _, h⟩ := mem_eventPlaces_iff.mp h
  exact (mem_configurationPlaces_iff.mp h).1

/-- A configuration is looked up among the events. -/
theorem configuration?_eq_some_iff (hnames : (eventNames settings).Nodup) {configuration : Json} :
    configuration? settings event index = some configuration ↔
      ∃ configurations, (event, .arr configurations) ∈ eventsOf settings ∧
        configurations[index]? = some configuration := by
  have hitem : ∀ events : Json, itemAt? events event index = some configuration ↔
      ∃ configurations, events.get? event = some (.arr configurations) ∧
        configurations[index]? = some configuration := by
    intro events
    unfold itemAt?
    split
    · rename_i items hitems
      simp [hitems]
    · rename_i hnone
      exact iff_of_false nofun fun ⟨items, hitems, _⟩ => hnone items hitems
  unfold eventNames at hnames
  simp only [← lookup_eq_some_iff_of_nodup hnames, configuration?, Option.bind_eq_some_iff, hitem]
  unfold eventsOf
  cases settings.get? "hooks" with
  | none => simp
  | some events => cases events <;> simp [Json.get?]

/-- **`mem_places_iff`** — every place that holds a text is listed with it. -/
theorem mem_places_iff (hnames : (eventNames settings).Nodup) :
    (p, t) ∈ places settings ↔ textAt? settings p = some t := by
  simp only [places, List.mem_flatMap, Prod.exists, mem_eventPlaces_iff, textAt?,
    Option.bind_eq_some_iff, configuration?_eq_some_iff hnames]
  constructor
  · rintro ⟨event, _, hevent, configurations, index, configuration, rfl, hthere, h⟩
    obtain ⟨rfl, rfl, ht⟩ := mem_configurationPlaces_iff.mp h
    exact ⟨configuration, ⟨configurations, hevent, hthere⟩, ht⟩
  · rintro ⟨configuration, ⟨configurations, hevent, hthere⟩, ht⟩
    exact ⟨_, _, hevent, configurations, _, configuration, rfl, hthere,
      mem_configurationPlaces_iff.mpr ⟨rfl, rfl, ht⟩⟩

/-! ### In document order -/

theorem pairwise_zipIdx {α : Type} (xs : List α) : xs.zipIdx.Pairwise fun a b => a.2 < b.2 := by
  rw [← List.pairwise_map, List.zipIdx_map_snd]
  exact List.pairwise_lt_range' 1

theorem pairwise_itemsUnder (j : Json) (name : Text) :
    (itemsUnder j name).Pairwise fun a b => a.2 < b.2 := by
  unfold itemsUnder
  split
  · exact pairwise_zipIdx _
  · exact .nil

theorem pairwise_placeUnder {R : Place × Text → Place × Text → Prop} :
    (placeUnder j name place).Pairwise R := by
  unfold placeUnder
  cases textOf? j name with
  | none => exact .nil
  | some content => exact List.pairwise_singleton _ _

theorem pairwise_configurationPlaces :
    (configurationPlaces event index j).Pairwise fun p q => p.1.Before names q.1 := by
  refine List.pairwise_append.mpr ⟨pairwise_placeUnder, List.pairwise_flatMap.mpr ⟨?_, ?_⟩, ?_⟩
  · rintro ⟨hook, nested⟩ -
    refine List.pairwise_append.mpr ⟨pairwise_placeUnder, pairwise_placeUnder, ?_⟩
    rintro ⟨p, t⟩ hp ⟨q, u⟩ hq
    obtain ⟨rfl, -⟩ := mem_placeUnder_iff.mp hp
    obtain ⟨rfl, -⟩ := mem_placeUnder_iff.mp hq
    exact .rank rfl rfl (Nat.lt_succ_self _)
  · refine (pairwise_itemsUnder j "hooks").imp ?_
    rintro ⟨hook, nested⟩ ⟨hook', nested'⟩ (hlt : nested < nested') ⟨p, t⟩ hp ⟨q, u⟩ hq
    simp only [nestedPlaces, List.mem_append, mem_placeUnder_iff] at hp hq
    rcases hp with ⟨rfl, -⟩ | ⟨rfl, -⟩ <;> rcases hq with ⟨rfl, -⟩ | ⟨rfl, -⟩ <;>
      exact .rank rfl rfl (by simp only [Place.rank]; omega)
  · rintro ⟨p, t⟩ hp ⟨q, u⟩ hq
    obtain ⟨rfl, -⟩ := mem_placeUnder_iff.mp hp
    simp only [List.mem_flatMap, Prod.exists, nestedPlaces, List.mem_append,
      mem_placeUnder_iff] at hq
    obtain ⟨hook, nested, -, ⟨rfl, -⟩ | ⟨rfl, -⟩⟩ := hq
    · exact .rank rfl rfl (Nat.succ_pos _)
    · exact .rank rfl rfl (Nat.succ_pos _)

theorem pairwise_eventPlaces :
    (eventPlaces event j).Pairwise fun p q => p.1.Before names q.1 := by
  unfold eventPlaces
  split
  · rename_i configurations
    refine List.pairwise_flatMap.mpr ⟨fun _ _ => pairwise_configurationPlaces, ?_⟩
    refine (pairwise_zipIdx configurations).imp ?_
    rintro ⟨j, index⟩ ⟨j', index'⟩ (hlt : index < index') ⟨p, t⟩ hp ⟨q, u⟩ hq
    obtain ⟨rfl, rfl, -⟩ := mem_configurationPlaces_iff.mp hp
    obtain ⟨hevent, rfl, -⟩ := mem_configurationPlaces_iff.mp hq
    exact .index hevent.symm hlt
  · exact .nil

/-- **`places_ordered`** — the places are listed in document order. -/
theorem places_ordered (settings : Json) :
    (places settings).Pairwise fun p q => p.1.Before (eventNames settings) q.1 := by
  refine List.pairwise_flatMap.mpr ⟨fun _ _ => pairwise_eventPlaces, ?_⟩
  refine List.pairwise_iff_forall_sublist.mpr ?_
  rintro ⟨event, j⟩ ⟨event', j'⟩ hearlier ⟨p, t⟩ hp ⟨q, u⟩ hq
  obtain rfl := event_of_mem_eventPlaces hp
  obtain rfl := event_of_mem_eventPlaces hq
  exact .event (hearlier.map Prod.fst)

/-! ### The hooks stand there -/

theorem map_placeUnder (j : Json) (name : Text) (place : Place) :
    (placeUnder j name place).map (fun p => p.1.hook p.2) =
      hookUnder j name place.key place.lang := by
  unfold placeUnder hookUnder
  cases textOf? j name <;> rfl

/-- **`inlineHooks_eq`** — the hooks of a settings document are the texts at its places, each under
the key of its place. -/
theorem inlineHooks_eq (settings : Json) :
    inlineHooks settings = (places settings).map fun p => p.1.hook p.2 := by
  have hnested : ∀ event index nested j,
      nestedHooks (position (position event index ++ ".hooks") nested) j =
        (nestedPlaces event index nested j).map fun p => p.1.hook p.2 := by
    intro event index nested j
    rw [nestedPlaces, List.map_append, map_placeUnder, map_placeUnder]
    rfl
  have hconfiguration : ∀ event index j, configurationHooks (position event index) j =
      (configurationPlaces event index j).map fun p => p.1.hook p.2 := by
    intro event index j
    rw [configurationPlaces, List.map_append, map_placeUnder, List.map_flatMap]
    simp only [← hnested]
    rfl
  have hevent : ∀ event j, eventHooks event j =
      (eventPlaces event j).map fun p => p.1.hook p.2 := by
    intro event j
    cases j with
    | arr configurations =>
      rw [eventPlaces, List.map_flatMap]
      simp only [← hconfiguration]
      rfl
    | _ => rfl
  have hevents : inlineHooks settings = (eventsOf settings).flatMap fun (event, configurations) =>
      eventHooks event configurations := by
    unfold inlineHooks eventsOf
    cases settings.get? "hooks" with
    | none => rfl
    | some events => cases events <;> rfl
  rw [hevents, places, List.map_flatMap]
  simp only [← hevent]

/-! ## Keys -/

/-- A position tells the list and the number. -/
theorem position_injective {a b : Text} {i k : Nat} (h : position a i = position b k) :
    a = b ∧ i = k := by
  have hbracket : ∀ n, CodePoint.ofChar '[' ∉ Text.ofNat n := Text.notMem_ofNat (by decide)
  have hopen : a ++ CodePoint.ofChar '[' :: Text.ofNat i =
      b ++ CodePoint.ofChar '[' :: Text.ofNat k := by
    have hclose := List.append_cancel_right h
    rwa [List.append_assoc, List.append_assoc] at hclose
  obtain ⟨hlist, hnumber⟩ :=
    Text.eq_of_append_last_mark (hbracket i) (hbracket k) hopen
  exact ⟨hlist, Text.ofNat_injective hnumber⟩

/-- Code and commands have different keys. -/
theorem inline_ne_command (a b : Text) : a ++ (".inline" : Text) ≠ b ++ ".command" := by
  intro h
  have hlast := congrArg List.getLast? h
  rw [List.getLast?_append_of_ne_nil _ (by decide), List.getLast?_append_of_ne_nil _ (by decide)]
    at hlast
  exact absurd hlast (by decide)

namespace Place

/-- **`Shadows p q`** — the place `p` is the code of a configuration of an event that has the name
which the further hooks of another event's configuration have in keys, and `q` is one of these. -/
inductive Shadows : Place → Place → Prop where
  | mk (event : Text) (index nested : Nat) :
    Shadows (.code (position event index ++ ".hooks") nested) (.nestedCode event index nested)

theorem Shadows.key_eq {p q : Place} (h : p.Shadows q) : p.key = q.key := by
  cases h
  rfl

/-- **`key_eq_iff`** — two places have one key only when one shadows the other. -/
theorem key_eq_iff {p q : Place} : p.key = q.key ↔ p = q ∨ p.Shadows q ∨ q.Shadows p := by
  have hshadow : ∀ e i e' i' n, (code e i).key = (nestedCode e' i' n).key →
      (code e i).Shadows (nestedCode e' i' n) := by
    intro e i e' i' n h
    obtain ⟨rfl, rfl⟩ := position_injective (List.append_cancel_right h)
    exact .mk e' i' i
  constructor
  · intro h
    cases p <;> cases q
    -- two keys with the same ending name the same place
    case code.code =>
      obtain ⟨rfl, rfl⟩ := position_injective (List.append_cancel_right h)
      exact .inl rfl
    case nestedCode.nestedCode | nestedCommand.nestedCommand =>
      obtain ⟨hhooks, rfl⟩ := position_injective (List.append_cancel_right h)
      obtain ⟨rfl, rfl⟩ := position_injective (List.append_cancel_right hhooks)
      exact .inl rfl
    case code.nestedCode => exact .inr (.inl (hshadow _ _ _ _ _ h))
    case nestedCode.code => exact .inr (.inr (hshadow _ _ _ _ _ h.symm))
    case code.nestedCommand | nestedCode.nestedCommand => exact absurd h (inline_ne_command _ _)
    case nestedCommand.code | nestedCommand.nestedCode =>
      exact absurd h.symm (inline_ne_command _ _)
  · rintro (rfl | h | h)
    · rfl
    · exact h.key_eq
    · exact h.key_eq.symm

end Place

/-- **`Unshadowed settings`** — no event is named twice, and no hook shadows another. -/
structure Unshadowed (settings : Json) : Prop where
  once : (eventNames settings).Nodup
  apart : ∀ p q : Place, p.Shadows q → textAt? settings p = none ∨ textAt? settings q = none

theorem event_mem_of_mem_places (h : (p, t) ∈ places settings) : p.event ∈ eventNames settings := by
  obtain ⟨⟨event, j⟩, hevent, h⟩ := List.mem_flatMap.mp h
  obtain rfl := event_of_mem_eventPlaces h
  exact List.mem_map_of_mem hevent

/-- A hook is shadowed only by an event with a name that ends in a position and `.hooks`. -/
theorem Unshadowed.of_names (hnames : (eventNames settings).Nodup)
    (hplain : ∀ event ∈ eventNames settings, ∀ index,
      position event index ++ ".hooks" ∉ eventNames settings) : Unshadowed settings where
  once := hnames
  apart := by
    rintro _ _ ⟨event, index, nested⟩
    cases hp : textAt? settings (.code (position event index ++ ".hooks") nested) with
    | none => exact .inl rfl
    | some t =>
      cases hq : textAt? settings (.nestedCode event index nested) with
      | none => exact .inr rfl
      | some u =>
        have hshadow := event_mem_of_mem_places ((mem_places_iff hnames).mpr hp)
        have hevent := event_mem_of_mem_places ((mem_places_iff hnames).mpr hq)
        exact absurd hshadow (hplain event hevent index)

/-- **`keys_nodup`** — where no hook shadows another, every place has a key of its own. -/
theorem keys_nodup (h : Unshadowed settings) : ((places settings).map (·.1.key)).Nodup := by
  have hshadow : ∀ {p q : Place} {t u}, (p, t) ∈ places settings → (q, u) ∈ places settings →
      ¬ p.Shadows q := by
    intro p q t u hp hq hpq
    rw [mem_places_iff h.once] at hp hq
    rcases h.apart p q hpq with hnone | hnone
    · exact Option.some_ne_none t (hp.symm.trans hnone)
    · exact Option.some_ne_none u (hq.symm.trans hnone)
  refine List.pairwise_map.mpr ((places_ordered settings).imp_of_mem ?_)
  rintro ⟨p, t⟩ ⟨q, u⟩ hp hq hbefore hkey
  rcases Place.key_eq_iff.mp hkey with heq | hpq | hqp
  · exact hbefore.ne h.once heq
  · exact hshadow hp hq hpq
  · exact hshadow hq hp hqp

/-- **`Listing settings listed`** — the list has every place of a settings document that holds a
text, with that text, in document order, and no two of these places share a key. -/
structure Listing (settings : Json) (listed : List (Place × Text)) : Prop where
  complete : ∀ place content, (place, content) ∈ listed ↔ textAt? settings place = some content
  ordered : listed.Pairwise fun p q => p.1.Before (eventNames settings) q.1
  distinct : (listed.map (·.1.key)).Nodup

theorem places_listing (h : Unshadowed settings) : Listing settings (places settings) where
  complete _ _ := mem_places_iff h.once
  ordered := places_ordered settings
  distinct := keys_nodup h

end HookAudit.Scanner
