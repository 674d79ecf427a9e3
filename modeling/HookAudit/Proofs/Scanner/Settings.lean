/-
# HookAudit.Proofs.Scanner.Settings — what becomes of the hooks of a settings document.

The hooks of a settings document are assessed one after another, each as it is assessed on its own
(`scanSettings_alone`); then the assessments are entered under the keys of their places.  Where no
two places share a key, each place that holds a text keeps its own entry, and in an orderly world
every such place has one (`settings_lose_no_hook`).  Where an event has the name which the further
hooks of another have in keys, two hooks share one, and the later assessment takes the place of the
earlier (`shadowed_hook_is_lost`).
-/
import HookAudit.Proofs.Engine.Orderly
import HookAudit.Proofs.Scanner.Places

namespace HookAudit.Scanner

open Engine Action

variable {w : World} {config : EngineConfig} {scanner : ScannerConfig}

/-! ## Assessments -/

/-- The assessment of a text in a language, or as its own first line has it. -/
abbrev scanText (scanner : ScannerConfig) (content : Text) (lang : Option Language) :
    Action Assessment :=
  scanHook scanner Engine.scan content none (lang.map .known)

theorem scanHook_determined (content : Text) (filename : Option Text)
    (lang : Option LanguageName) :
    (scanHook scanner Engine.scan content filename lang).Determined w config :=
  Determined.composable.scanHook scanner content filename lang

theorem scanFile_determined (scanner : ScannerConfig) (eventType : Option Text)
    (lang : Option LanguageName) (path : Path) :
    (scanFile scanner Engine.scan eventType lang path).Determined w config := by
  refine Determined.files_bind ?_
  cases w.files.textLossy path with
  | error e => exact .fail _
  | ok content => exact (Determined.composable.assess _ _ _ _).returning _

/-- The assessment of the hook at a place, under the key of the place. -/
def entry (scanner : ScannerConfig) (w : World) (config : EngineConfig) (found : Place × Text) :
    Except Fault (Text × Assessment) :=
  ((scanText scanner found.2 found.1.lang).alone w config).map (found.1.key, ·)

theorem scanSettings_determined (settings : Json) :
    (scanSettings scanner Engine.scan settings).Determined w config := by
  unfold scanSettings
  split
  · exact (Determined.each (fun _ => (scanHook_determined _ _ _).returning _) _).returning _
  · exact .fail _

/-- **`scanSettings_alone`** — every hook is assessed as on its own, and of those that share a key
the last is kept. -/
theorem scanSettings_alone (members : List (Text × Json)) :
    (scanSettings scanner Engine.scan (.obj members)).alone w config =
      ((places (.obj members)).mapM (entry scanner w config)).map entriesOf := by
  have hhook : ∀ hook : InlineHook, (do
      let assessment ← scanText scanner hook.content hook.lang
      return (hook.key, assessment) : Action (Text × Assessment)).Determined w config :=
    fun _ => (scanHook_determined _ _ _).returning _
  refine (alone_returning (Determined.each hhook _) entriesOf).trans ?_
  rw [alone_each hhook, inlineHooks_eq, List.mapM_map]
  congr 2
  funext found
  exact alone_returning (scanHook_determined _ _ _) _

/-- In an orderly world every text is assessed. -/
theorem scanText_answers (hw : Orderly w) (config : EngineConfig) (content : Text)
    (lang : Option Language) :
    ∃ assessment, (scanText scanner content lang).alone w config = .ok assessment := by
  have hlang : ∃ lang?, languageOf content (lang.map .known) none = .ok lang? := by
    cases lang <;> exact ⟨_, rfl⟩
  obtain ⟨lang?, hlang⟩ := hlang
  obtain ⟨assessed, hassessed⟩ := hw.assess_answers config scanner hlang
  refine ⟨assessed.1, (alone_returning (Determined.composable.assess _ _ _ _) _).trans ?_⟩
  rw [hassessed]
  rfl

theorem entry_answers (scanner : ScannerConfig) (hw : Orderly w) (config : EngineConfig)
    (found : Place × Text) : ∃ kept, entry scanner w config found = .ok kept := by
  obtain ⟨assessment, hassessment⟩ := scanText_answers hw config found.2 found.1.lang
  refine ⟨(found.1.key, assessment), ?_⟩
  unfold entry
  rw [hassessment]
  rfl

theorem key_of_entry {place : Place × Text} {kept : Text × Assessment}
    (h : entry scanner w config place = .ok kept) : kept.1 = place.1.key := by
  unfold entry at h
  cases hown : (scanText scanner place.2 place.1.lang).alone w config with
  | error e =>
    rw [hown] at h
    cases h
  | ok assessment =>
    rw [hown] at h
    cases h
    rfl

/-- Assessments are entered under the keys of the places, in order. -/
theorem keys_of_entries {listed : List (Place × Text)} {found : List (Text × Assessment)}
    (h : listed.mapM (entry scanner w config) = .ok found) :
    found.map (·.1) = listed.map (·.1.key) := by
  replace h := mapM_eq_ok_iff.mp h
  induction h with
  | nil => rfl
  | cons hentry _ ih => rw [List.map_cons, List.map_cons, key_of_entry hentry, ih]

/-! ## Entries -/

/-- **`settings_lose_no_hook`** — of a settings document in which no hook shadows another, an engine
assesses every hook, whatever was asked of it before: its answer lists the places that hold a text,
each under a key of its own with the assessment of this text on its own.  In an orderly world there
always is such a list. -/
theorem settings_lose_no_hook (scanner : ScannerConfig) (w : World) (config : EngineConfig)
    (history : List Operation) (members : List (Text × Json))
    (hunshadowed : Unshadowed (.obj members)) :
    ∃ listed, Listing (.obj members) listed ∧
      (scanSettings scanner Engine.scan (.obj members) w
        (({ config } : State).after (history.map (Call.mk w)))).1 =
          listed.mapM (entry scanner w config) ∧
      (Orderly w → ∃ found, listed.mapM (entry scanner w config) = .ok found ∧
        found.map (·.1) = listed.map (·.1.key)) := by
  have hs := (Current.fresh w config).after history
  refine ⟨places (.obj members), places_listing hunshadowed, ?_, fun hw => ?_⟩
  · rw [(scanSettings_determined _).answer_eq_alone hs, scanSettings_alone]
    cases hfound : (places (.obj members)).mapM (entry scanner w config) with
    | error e => rfl
    | ok found =>
      have hkeys : (found.map (·.1)).Nodup := by
        rw [keys_of_entries hfound]
        exact keys_nodup hunshadowed
      exact congrArg Except.ok (entriesOf_of_nodup hkeys)
  · obtain ⟨found, hfound, -⟩ := exists_mapM_eq_ok fun found (_ : found ∈ places (.obj members)) =>
      entry_answers scanner hw config found
    exact ⟨found, hfound, keys_of_entries hfound⟩

/-- A settings document with hooks of two events, one of them a command. -/
def plainMembers : List (Text × Json) :=
  [("hooks", .obj [
    ("Stop", .arr [.obj [("code", .str "token"), ("hooks", .arr [.obj [("command", .str "ls")]])]]),
    ("Start", .arr [.obj [("code", .str "")]])])]

/-- All of its hooks are assessed, also when the engine has been asked for its languages before. -/
theorem plain_hooks_are_all_kept :
    ∃ listed found, Listing (.obj plainMembers) listed ∧
      (scanSettings {} Engine.scan (.obj plainMembers) (installed {} [])
        (({ config := {} } : State).after
          ([.ask .availability].map (Call.mk (installed {} []))))).1 = .ok found ∧
      listed.mapM (entry {} (installed {} []) {}) = .ok found ∧
      found.map (·.1) = listed.map (·.1.key) := by
  have hunshadowed : Unshadowed (.obj plainMembers) := by
    refine .of_names (by decide) fun event _ index hmem => ?_
    -- a name that stands for further hooks ends in `s`, and neither of these two does
    have hlast : ∀ name ∈ eventNames (.obj plainMembers),
        name.getLast? ≠ some (CodePoint.ofChar 's') := by decide
    refine hlast _ hmem ?_
    rw [List.getLast?_append_of_ne_nil _ (by decide)]
    decide
  obtain ⟨listed, hlisting, hanswer, hanswers⟩ :=
    settings_lose_no_hook {} (installed {} []) {} [.ask .availability] plainMembers hunshadowed
  obtain ⟨found, hfound, hkeys⟩ := hanswers (installed_orderly _ _)
  exact ⟨listed, found, hlisting, hanswer.trans hfound, hfound, hkeys⟩

/-- A settings document in which an event has the name that the further hooks of another have in
keys. -/
def shadowing : Json :=
  .obj [("hooks", .obj [
    ("Stop", .arr [.obj [("hooks", .arr [.obj [("code", .str "token")]])]]),
    ("Stop[0].hooks", .arr [.obj [("code", .str "")]])])]

/-- **`shadowed_hook_is_lost`** — the document has two hooks and one of them is risky, but there is
one entry and it is that of the other. -/
theorem shadowed_hook_is_lost :
    textAt? shadowing (.nestedCode "Stop" 0 0) = some "token" ∧
      textAt? shadowing (.code "Stop[0].hooks" 0) = some "" ∧
      ((scanText {} "token" none).alone (installed {} []) {}).map (·.riskScore) = .ok 30 ∧
      (scanSettings {} Engine.scan shadowing (installed {} []) { config := {} }).1.map
          (List.map fun kept => (kept.1, kept.2.riskScore)) =
        .ok [("Stop[0].hooks[0].inline", 0)] := by
  refine ⟨by decide, by decide, by decide +kernel, by decide +kernel⟩

end HookAudit.Scanner
