/-
# HookAudit.Proofs.Scanner.Recognition — what of a settings document is read, and what is not.

The walk through a settings document meets values of the wrong shape at every level: events that are
no object, an event that is no list, a configuration that is no object, further hooks that are no
list, a further hook that is no object, code or a command that is no text.  `DocumentEdit` says, level
by level, what can be done to a document in places where nothing is recognised: another such value
takes the place of one, or a member is added under a name that is not looked up.  Such edits change
nothing (`assessedAlike_of_edits`), so the hooks that are found are those at places which hold a text
and no others (`settings_walk_is_exact`).
-/
import HookAudit.Proofs.Engine.Operations
import HookAudit.Proofs.Scanner.Places
import Mathlib.Logic.Relation

namespace HookAudit

open Engine Action

/-! ## Shapes -/

namespace Json

/-- Whether a value is a text. -/
def isStr : Json → Bool
  | str _ => true
  | _ => false

/-- Whether a value is a list. -/
def isArr : Json → Bool
  | arr _ => true
  | _ => false

/-- Whether a value is an object. -/
def isObj : Json → Bool
  | obj _ => true
  | _ => false

end Json

namespace Scanner

/-! ## Edits -/

/-- Where values of some shape are recognised: one that is not gives way to another that is not, or
one that is gets changed inside. -/
inductive ValueEdit (shape : Json → Bool) (inside : Json → Json → Prop) (old new : Json) : Prop where
  | outside (hold : shape old = false) (hnew : shape new = false)
  | inside (h : inside old new)

/-- In a list one item is changed. -/
inductive ItemEdit (change : Json → Json → Prop) : Json → Json → Prop where
  | change (before after : List Json) {old new : Json} (h : change old new) :
      ItemEdit change (.arr (before ++ old :: after)) (.arr (before ++ new :: after))

/-- In an object the value of one member is changed, or a member is added anywhere. -/
inductive MemberEdit (change : Text → Json → Json → Prop) (addition : Text → Json → Prop) :
    Json → Json → Prop where
  | change (before after : List (Text × Json)) {name : Text} {old new : Json}
      (h : change name old new) : MemberEdit change addition
        (.obj (before ++ (name, old) :: after)) (.obj (before ++ (name, new) :: after))
  | add (before after : List (Text × Json)) {name : Text} {value : Json}
      (h : addition name value) : MemberEdit change addition
        (.obj (before ++ after)) (.obj (before ++ (name, value) :: after))

/-- Only texts are recognised, and a text that is there stays. -/
abbrev TextEdit : Json → Json → Prop := ValueEdit Json.isStr fun _ _ => False

/-- An edit of one of the further hooks of a configuration. -/
abbrev NestedEdit : Json → Json → Prop :=
  ValueEdit Json.isObj (MemberEdit
    (fun name old new => name = "code" ∨ name = "command" → TextEdit old new)
    (fun name _ => name ≠ "code" ∧ name ≠ "command"))

/-- An edit of a configuration. -/
abbrev ConfigurationEdit : Json → Json → Prop :=
  ValueEdit Json.isObj (MemberEdit
    (fun name old new => (name = "code" → TextEdit old new) ∧
      (name = "hooks" → ValueEdit Json.isArr (ItemEdit NestedEdit) old new))
    (fun name _ => name ≠ "code" ∧ name ≠ "hooks"))

/-- An edit of an event. -/
abbrev EventEdit : Json → Json → Prop := ValueEdit Json.isArr (ItemEdit ConfigurationEdit)

/-- An edit of the events; an event that is no list may be added. -/
abbrev EventsEdit : Json → Json → Prop :=
  ValueEdit Json.isObj (MemberEdit (fun _ => EventEdit) (fun _ value => value.isArr = false))

/-- **`DocumentEdit old new`** — the documents differ in one value that is not of a recognised shape
in either of them, or in one member that is not looked up. -/
abbrev DocumentEdit : Json → Json → Prop :=
  MemberEdit (fun name old new => name = "hooks" → EventsEdit old new)
    (fun name _ => name ≠ "hooks")

/-! ### They change nothing that is read -/

variable {change : Text → Json → Json → Prop} {addition : Text → Json → Prop}
  {shape : Json → Bool} {inside item : Json → Json → Prop} {old new settings j : Json}
  {name key : Text} {β : Type}

theorem get?_of_not_obj (h : j.isObj = false) (name : Text) : j.get? name = none := by
  cases j with
  | obj => cases h
  | _ => rfl

/-- What every value of another shape gives alike, and an edit inside keeps, an edit keeps. -/
theorem ValueEdit.congr (h : ValueEdit shape inside old new) {f : Json → β} {b : β}
    (houtside : ∀ j, shape j = false → f j = b)
    (hinside : ∀ a b, inside a b → f a = f b) : f old = f new := by
  cases h with
  | outside hold hnew => rw [houtside old hold, houtside new hnew]
  | inside h => exact hinside old new h

/-- What is made of the value under a name stays, if no member of that name is added and a change
of its value does not show. -/
theorem MemberEdit.map_get?_eq (h : MemberEdit change addition old new)
    (hname : ∀ value, ¬ addition name value) {f : Json → β}
    (hchange : ∀ a b, change name a b → f a = f b) :
    (old.get? name).map f = (new.get? name).map f := by
  cases h with
  | @change before after name' a b h =>
    simp only [Json.get?, List.lookup_append, List.lookup_cons]
    cases before.lookup name with
    | some value => rfl
    | none =>
      by_cases heq : name = name'
      · subst heq
        simp [hchange a b h]
      · simp [beq_false_of_ne heq]
  | @add before after name' value h =>
    have hne : name ≠ name' := by
      rintro rfl
      exact hname value h
    simp only [Json.get?, List.lookup_append, List.lookup_cons, beq_false_of_ne hne]

/-- The text that a value is. -/
def text? : Json → Option Text
  | .str t => some t
  | _ => none

theorem textOf?_eq_bind (j : Json) (name : Text) :
    textOf? j name = ((j.get? name).map text?).join := by
  unfold textOf?
  cases j.get? name with
  | none => rfl
  | some value => cases value <;> rfl

theorem TextEdit.text?_eq (h : TextEdit old new) : text? old = text? new :=
  h.congr (fun j hj => by cases j <;> first | rfl | cases hj) fun _ _ => False.elim

theorem MemberEdit.hookUnder_eq (h : MemberEdit change addition old new)
    (hname : ∀ value, ¬ addition name value)
    (hchange : ∀ a b, change name a b → TextEdit a b) (lang : Option Language) :
    hookUnder old name key lang = hookUnder new name key lang := by
  have htext : textOf? old name = textOf? new name := by
    rw [textOf?_eq_bind, textOf?_eq_bind,
      h.map_get?_eq hname fun a b hab => (hchange a b hab).text?_eq]
  unfold hookUnder
  rw [htext]

/-- The items of a list, each with its position. -/
def numbered : Json → List (Json × Nat)
  | .arr items => items.zipIdx
  | _ => []

theorem numbered_of_not_arr (h : j.isArr = false) : numbered j = [] := by
  cases j with
  | arr => cases h
  | _ => rfl

/-- What is gathered from the items of a list stays, if it stays for the item that is changed. -/
theorem ValueEdit.flatMap_numbered_eq (h : ValueEdit Json.isArr (ItemEdit item) old new)
    {gather : Json × Nat → List β}
    (hitem : ∀ a b index, item a b → gather (a, index) = gather (b, index)) :
    (numbered old).flatMap gather = (numbered new).flatMap gather := by
  refine h.congr (f := fun j => (numbered j).flatMap gather) (b := [])
    (fun j hj => by rw [numbered_of_not_arr hj]; rfl) ?_
  rintro _ _ ⟨before, after, h⟩
  simp only [numbered, List.zipIdx_append, List.zipIdx_cons, List.flatMap_append,
    List.flatMap_cons, hitem _ _ _ h]

theorem nestedHooks_eq_of_edit (h : NestedEdit old new) :
    nestedHooks key old = nestedHooks key new := by
  refine h.congr (b := []) (fun j hj => ?_) fun a b h => ?_
  · simp only [nestedHooks, hookUnder, textOf?, get?_of_not_obj hj, List.append_nil]
  · unfold nestedHooks
    rw [h.hookUnder_eq (fun _ hadd => hadd.1 rfl) fun _ _ hab => hab (.inl rfl),
      h.hookUnder_eq (fun _ hadd => hadd.2 rfl) fun _ _ hab => hab (.inr rfl)]

theorem configurationHooks_eq (key : Text) (j : Json) :
    configurationHooks key j = hookUnder j "code" (key ++ ".inline") none ++
      ((j.get? "hooks").map fun nested => (numbered nested).flatMap fun (hook, index) =>
        nestedHooks (position (key ++ ".hooks") index) hook).getD [] := by
  unfold configurationHooks itemsUnder
  cases j.get? "hooks" with
  | none => rfl
  | some nested => cases nested <;> rfl

theorem configurationHooks_eq_of_edit (h : ConfigurationEdit old new) :
    configurationHooks key old = configurationHooks key new := by
  refine h.congr (b := []) (fun j hj => ?_) fun a b h => ?_
  · simp only [configurationHooks, hookUnder, textOf?, itemsUnder, get?_of_not_obj hj,
      List.flatMap_nil, List.append_nil]
  · rw [configurationHooks_eq, configurationHooks_eq,
      h.hookUnder_eq (fun _ hadd => hadd.1 rfl) fun _ _ hab => hab.1 rfl,
      h.map_get?_eq (fun _ hadd => hadd.2 rfl) fun _ _ hab =>
        (hab.2 rfl).flatMap_numbered_eq fun _ _ _ => nestedHooks_eq_of_edit]

theorem eventHooks_eq_of_edit {event : Text} (h : EventEdit old new) :
    eventHooks event old = eventHooks event new := by
  have hnumbered : ∀ j, eventHooks event j = (numbered j).flatMap fun (configuration, index) =>
      configurationHooks (position event index) configuration := by
    intro j
    cases j <;> rfl
  rw [hnumbered, hnumbered]
  exact h.flatMap_numbered_eq fun _ _ _ => configurationHooks_eq_of_edit

/-- The hooks of the events. -/
def eventsHooks : Json → List InlineHook
  | .obj events => events.flatMap fun (event, configurations) => eventHooks event configurations
  | _ => []

theorem eventsHooks_eq_of_edit (h : EventsEdit old new) : eventsHooks old = eventsHooks new := by
  refine h.congr (b := []) (fun j hj => ?_) fun a b h => ?_
  · cases j with
    | obj => cases hj
    | _ => rfl
  · cases h with
    | change before after h =>
      simp only [eventsHooks, List.flatMap_append, List.flatMap_cons, eventHooks_eq_of_edit h]
    | @add before after event value h =>
      have hnone : eventHooks event value = [] := by
        cases value with
        | arr => cases h
        | _ => rfl
      simp only [eventsHooks, List.flatMap_append, List.flatMap_cons, hnone, List.nil_append]

theorem inlineHooks_eq_of_edit (h : DocumentEdit old new) : inlineHooks old = inlineHooks new := by
  have hevents : ∀ j, inlineHooks j = ((j.get? "hooks").map eventsHooks).getD [] := by
    intro j
    unfold inlineHooks
    cases j.get? "hooks" with
    | none => rfl
    | some events => cases events <;> rfl
  rw [hevents, hevents, h.map_get?_eq (fun _ hadd => hadd rfl) fun _ _ hab =>
    eventsHooks_eq_of_edit (hab rfl)]

theorem scanSettings_eq_of_edit (h : DocumentEdit old new) (config : ScannerConfig)
    (analyst : Analyst) : scanSettings config analyst old = scanSettings config analyst new := by
  have hhooks := inlineHooks_eq_of_edit h
  cases h <;> simp only [scanSettings, hhooks]

/-- **`AssessedAlike old new`** — the documents have the same hooks, and whoever is asked, they are
assessed alike. -/
structure AssessedAlike (old new : Json) : Prop where
  hooks : inlineHooks old = inlineHooks new
  assessments : ∀ (config : ScannerConfig) (analyst : Analyst),
    scanSettings config analyst old = scanSettings config analyst new

/-- **`assessedAlike_of_edits`** — edits, one after another and also taken back, change nothing. -/
theorem assessedAlike_of_edits (h : Relation.EqvGen DocumentEdit old new) :
    AssessedAlike old new := by
  induction h with
  | rel old new h => exact ⟨inlineHooks_eq_of_edit h, scanSettings_eq_of_edit h⟩
  | refl => exact ⟨rfl, fun _ _ => rfl⟩
  | symm old new _ ih =>
    exact ⟨ih.hooks.symm, fun config analyst => (ih.assessments config analyst).symm⟩
  | trans old edited new _ _ ih₁ ih₂ =>
    exact ⟨ih₁.hooks.trans ih₂.hooks, fun config analyst =>
      (ih₁.assessments config analyst).trans (ih₂.assessments config analyst)⟩

/-! ## Errors -/

/-- The errors that are about a settings document. -/
def AboutSettings : Fault → Prop
  | .settingsKind _ | .unreadableSettings _ _ | .undecodableSettings _ _
  | .malformedSettings _ _ => True
  | _ => False

theorem scanSettings_of_not_obj (h : settings.isObj = false) (config : ScannerConfig)
    (analyst : Analyst) (w : World) (s : State) :
    scanSettings config analyst settings w s =
      (.error (.settingsKind settings.kindName), s, {}) := by
  cases settings with
  | obj => cases h
  | _ => rfl

/-- Assessing the hooks of an object is a walk like every question. -/
theorem scanSettings_walks (config : ScannerConfig) (members : List (Text × Json)) :
    (scanSettings config Engine.scan (.obj members)).Walks :=
  Walks.composable.returning (Walks.composable.each
    (fun _ => Walks.composable.returning (Walks.composable.scanHook _ _ _ _) _) _) _

/-- A sound engine finds fault with a settings document exactly when it is no object. -/
theorem fault_aboutSettings_iff {w : World} {s : State} (hs : Sound s) (config : ScannerConfig)
    (settings : Json) :
    (∃ e, (scanSettings config Engine.scan settings w s).1 = .error e ∧ AboutSettings e) ↔
      settings.isObj = false := by
  constructor
  · rintro ⟨e, herror, hsettings⟩
    cases settings with
    | obj members =>
      have hexpected := (scanSettings_walks config members w s hs).2 e herror
      cases e with
      | outside | language => cases hsettings
      | _ => cases hexpected
    | _ => rfl
  · intro h
    rw [scanSettings_of_not_obj h]
    exact ⟨_, rfl, trivial⟩

/-! ## The walk -/

/-- **`Inventory settings listed`** — the list has every place of a settings document that holds a
text, with that text and once, in document order. -/
structure Inventory (settings : Json) (listed : List (Place × Text)) : Prop where
  complete : ∀ place content, (place, content) ∈ listed ↔ textAt? settings place = some content
  ordered : listed.Pairwise fun p q => p.1.Before (eventNames settings) q.1
  once : (listed.map (·.1)).Nodup

theorem places_inventory (h : settings.Proper) : Inventory settings (places settings) where
  complete _ _ := mem_places_iff (eventNames_nodup_of_proper h)
  ordered := places_ordered settings
  once := List.pairwise_map.mpr
    ((places_ordered settings).imp fun hbefore => hbefore.ne (eventNames_nodup_of_proper h))

/-- **`settings_walk_is_exact`** — of a settings document those hooks are found that stand at a place
which holds a text, each once, in document order, under the key and in the language of its place.
The answer is an error about the document exactly when it is no object, and then nothing has been
done.  Documents that differ only in what is not recognised, or not looked up, have the same hooks
and are assessed alike. -/
theorem settings_walk_is_exact (settings : Json) (hproper : settings.Proper) :
    (∃ listed, Inventory settings listed ∧
      inlineHooks settings = listed.map fun p => p.1.hook p.2) ∧
    (∀ (scanner : ScannerConfig) (w : World) (config : EngineConfig) (history : List Call),
      (∃ e, (scanSettings scanner Engine.scan settings w
        (({ config } : State).after history)).1 = .error e ∧ AboutSettings e) ↔
          settings.isObj = false) ∧
    (∀ (scanner : ScannerConfig) (analyst : Analyst) (w : World) (s : State),
      settings.isObj = false → scanSettings scanner analyst settings w s =
        (.error (.settingsKind settings.kindName), s, {})) ∧
    ∀ edited, Relation.EqvGen DocumentEdit settings edited → AssessedAlike settings edited :=
  ⟨⟨places settings, places_inventory hproper, inlineHooks_eq settings⟩,
    fun scanner _ config history =>
      fault_aboutSettings_iff ((Sound.fresh config).after history) scanner settings,
    fun scanner analyst w s h => scanSettings_of_not_obj h scanner analyst w s,
    fun _ hedits => assessedAlike_of_edits hedits⟩

/-- A settings document in which one command stands among things that are not recognised. -/
def cluttered : Json :=
  .obj [("hooks", .obj [
    ("Note", .str "none"),
    ("Stop", .arr [.int 3, .obj [("code", .null),
      ("hooks", .arr [.bool true, .obj [("command", .str "ls")]])]])])]

/-- The same with other things instead, an event that is no list and a member that is not looked
up. -/
def recluttered : Json :=
  .obj [("version", .int 1), ("hooks", .obj [
    ("Note", .null), ("Start", .bool false),
    ("Stop", .arr [.arr [.str "ls"], .obj [("code", .null),
      ("hooks", .arr [.bool true, .obj [("type", .str "command"), ("command", .str "ls")]])]])])]

theorem cluttered_proper : cluttered.Proper := by
  have hcommand : (Json.obj [("command", .str "ls")]).Proper :=
    .obj (by decide) (List.forall_mem_singleton.mpr (.str _))
  have hnested : (Json.arr [.bool true, .obj [("command", .str "ls")]]).Proper :=
    .arr (List.forall_mem_cons.mpr ⟨.bool _, List.forall_mem_singleton.mpr hcommand⟩)
  have hconfiguration : (Json.obj [("code", .null),
      ("hooks", .arr [.bool true, .obj [("command", .str "ls")]])]).Proper := .obj (by decide) <|
    List.forall_mem_cons.mpr ⟨.null, List.forall_mem_singleton.mpr hnested⟩
  have hevent := Json.Proper.arr (List.forall_mem_cons.mpr
    ⟨.int 3, List.forall_mem_singleton.mpr hconfiguration⟩)
  exact .obj (by decide) <| List.forall_mem_singleton.mpr <| .obj (by decide) <|
    List.forall_mem_cons.mpr ⟨.str _, List.forall_mem_singleton.mpr hevent⟩

/-- Five edits lead from one to the other. -/
theorem cluttered_edits : Relation.EqvGen DocumentEdit cluttered recluttered := by
  have events : ∀ {old new : Json}, EventsEdit old new → Relation.EqvGen DocumentEdit
      (.obj [("hooks", old)]) (.obj [("hooks", new)]) :=
    fun h => .rel _ _ (.change [] [] fun _ => h)
  have note : EventEdit (.str "none") .null := .outside rfl rfl
  have flag : (Json.bool false).isArr = false := rfl
  have item : EventEdit
      (.arr [.int 3, .obj [("code", .null),
        ("hooks", .arr [.bool true, .obj [("command", .str "ls")]])]])
      (.arr [.arr [.str "ls"], .obj [("code", .null),
        ("hooks", .arr [.bool true, .obj [("command", .str "ls")]])]]) :=
    .inside (.change [] _ (.outside rfl rfl))
  have nested : EventEdit
      (.arr [.arr [.str "ls"], .obj [("code", .null),
        ("hooks", .arr [.bool true, .obj [("command", .str "ls")]])]])
      (.arr [.arr [.str "ls"], .obj [("code", .null),
        ("hooks", .arr [.bool true, .obj [("type", .str "command"), ("command", .str "ls")]])]]) := by
    refine .inside (.change [_] [] (.inside (.change [_] [] ⟨fun h => absurd h (by decide), ?_⟩)))
    exact fun _ => .inside (.change [_] [] (.inside (.add [] _ (by decide))))
  exact .trans _ _ _ (events (.inside (.change [] _ note))) <|
    .trans _ _ _ (events (.inside (.add [_] _ flag))) <|
    .trans _ _ _ (events (.inside (.change [_, _] [] item))) <|
    .trans _ _ _ (events (.inside (.change [_, _] [] nested))) <|
    .rel _ _ (.add [] _ (by decide))

/-- The command is found at its place, the numbers of which count what is not recognised, and it is
found alike in the other document; no history makes an engine find fault with this one, but with a
list it does. -/
theorem cluttered_hook_is_found_alike :
    (∃ listed, Inventory cluttered listed ∧
      listed.map (fun p => p.1.hook p.2) =
        [⟨"Stop[1].hooks[1].command", "ls", some .bash⟩]) ∧
    (¬ ∃ e, (scanSettings {} Engine.scan cluttered (installed {} [])
      (({ config := {} } : State).after
        [⟨installed {} [], .ask .availability⟩])).1 = .error e ∧ AboutSettings e) ∧
    AssessedAlike cluttered recluttered ∧
    scanSettings {} Engine.scan (.arr []) (installed {} []) { config := {} } =
      (.error (.settingsKind "list"), { config := {} }, {}) := by
  obtain ⟨⟨listed, hinventory, hhooks⟩, hfault, -, halike⟩ :=
    settings_walk_is_exact cluttered cluttered_proper
  refine ⟨⟨listed, hinventory, hhooks.symm.trans (by decide)⟩, ?_, halike _ cluttered_edits,
    (settings_walk_is_exact (.arr []) (.arr nofun)).2.2.1 {} _ _ _ rfl⟩
  rw [hfault {} (installed {} []) {} [⟨installed {} [], .ask .availability⟩]]
  decide

end Scanner

end HookAudit
