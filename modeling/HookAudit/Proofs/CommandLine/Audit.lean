/-
# HookAudit.Proofs.CommandLine.Audit — what a scan finds.

A scan assesses every hook file and every hook inside a settings document as it is assessed on its
own (`audit_alone`).  It enters the latter under labels, the name of the settings file with the key
of the place, so of hooks with one label only the last is kept (`mem_inline_iff`).  What is found
reaches the tier of the request exactly when a hook file or a kept hook does (`audit_reaches`).
-/
import HookAudit.CommandLine.Scan
import HookAudit.Proofs.Documents
import HookAudit.Proofs.Engine.Orderly
import HookAudit.Proofs.Scanner.Settings

namespace HookAudit.CommandLine

open Engine Action Scanner

variable {w : World} {config : EngineConfig} {request : ScanRequest} {path : Path}

/-! ## What a scan is about -/

/-- **`NamesHook files written path`** — the hook file at `path` is named by a written path: it is
below a directory and has the extension of a language, or it is the path itself. -/
inductive NamesHook (files : Files) (written : Text) : Path → Prop where
  | below {path : Path} (directory : files.isDirectory (.ofText written) = true)
      (listed : path ∈ files.filesBelow (.ofText written)) (extension : isHookFile path = true) :
      NamesHook files written path
  | itself (single : files.isDirectory (.ofText written) = false)
      (extension : (Path.ofText written).suffix.lower ≠ settingsExtension) :
      NamesHook files written (.ofText written)

/-- **`NamesSettings files written path`** — the written path is that of a settings document. -/
inductive NamesSettings (files : Files) (written : Text) : Path → Prop where
  | itself (single : files.isDirectory (.ofText written) = false)
      (extension : (Path.ofText written).suffix.lower = settingsExtension) :
      NamesSettings files written (.ofText written)

/-- What a request is about. -/
def ScanRequest.targets (request : ScanRequest) (files : Files) : Targets :=
  .ofPaths files request.paths

/-- What one more path adds to the targets. -/
theorem mem_add_iff {files : Files} {targets : Targets} {written : Text} :
    (path ∈ (targets.add files (.ofText written)).hooks ↔
        path ∈ targets.hooks ∨ NamesHook files written path) ∧
      (path ∈ (targets.add files (.ofText written)).settings ↔
        path ∈ targets.settings ∨ NamesSettings files written path) := by
  have hhook : NamesHook files written path ↔
      files.isDirectory (.ofText written) = true ∧
          path ∈ (files.filesBelow (.ofText written)).filter isHookFile ∨
        files.isDirectory (.ofText written) = false ∧
          (Path.ofText written).suffix.lower ≠ settingsExtension ∧ path = .ofText written := by
    rw [List.mem_filter]
    constructor
    · rintro (⟨hdirectory, hlisted, hextension⟩ | ⟨hsingle, hextension⟩)
      · exact .inl ⟨hdirectory, hlisted, hextension⟩
      · exact .inr ⟨hsingle, hextension, rfl⟩
    · rintro (⟨hdirectory, hlisted, hextension⟩ | ⟨hsingle, hextension, rfl⟩)
      · exact .below hdirectory hlisted hextension
      · exact .itself hsingle hextension
  have hsettings : NamesSettings files written path ↔
      files.isDirectory (.ofText written) = false ∧
        (Path.ofText written).suffix.lower = settingsExtension ∧ path = .ofText written := by
    constructor
    · rintro ⟨hsingle, hextension⟩
      exact ⟨hsingle, hextension, rfl⟩
    · rintro ⟨hsingle, hextension, rfl⟩
      exact .itself hsingle hextension
  rw [hhook, hsettings]
  unfold Targets.add
  cases files.isDirectory (.ofText written) with
  | true => simp
  | false =>
    by_cases hextension : (Path.ofText written).suffix.lower = settingsExtension <;>
      simp [hextension]

/-- **`mem_targets_iff`** — the targets of a request are the hook files and the settings documents
that its paths name. -/
theorem mem_targets_iff {files : Files} :
    (path ∈ (request.targets files).hooks ↔
        ∃ written ∈ request.paths, NamesHook files written path) ∧
      (path ∈ (request.targets files).settings ↔
        ∃ written ∈ request.paths, NamesSettings files written path) := by
  have hfold : ∀ (paths : List Text) (targets : Targets),
      let all := paths.foldl (fun targets written => targets.add files (.ofText written)) targets
      (path ∈ all.hooks ↔
          path ∈ targets.hooks ∨ ∃ written ∈ paths, NamesHook files written path) ∧
        (path ∈ all.settings ↔
          path ∈ targets.settings ∨ ∃ written ∈ paths, NamesSettings files written path) := by
    intro paths
    induction paths with
    | nil => simp
    | cons written paths ih =>
      intro targets
      obtain ⟨hhooks, hsettings⟩ := ih (targets.add files (.ofText written))
      refine ⟨hhooks.trans ?_, hsettings.trans ?_⟩
      · rw [mem_add_iff.1, List.exists_mem_cons_iff, or_assoc]
      · rw [mem_add_iff.2, List.exists_mem_cons_iff, or_assoc]
  obtain ⟨hhooks, hsettings⟩ := hfold request.paths {}
  exact ⟨hhooks.trans (by simp), hsettings.trans (by simp)⟩

/-- The document in a file. -/
def documentAt? (files : Files) (path : Path) : Option Json :=
  match files.text path with
  | .ok t => (Json.read t).toOption
  | .error _ => none

/-- **`targets.Readable files`** — all hook files can be read, and all settings documents are
objects. -/
structure Targets.Readable (targets : Targets) (files : Files) : Prop where
  hooks : ∀ path ∈ targets.hooks, ∃ content, files.textLossy path = .ok content
  settings : ∀ path ∈ targets.settings, ∃ members, documentAt? files path = some (.obj members)

instance (text : Except FileError Text) : Decidable (∃ content, text = .ok content) :=
  match text with
  | .ok content => .isTrue ⟨content, rfl⟩
  | .error _ => .isFalse nofun

instance (document : Option Json) : Decidable (∃ members, document = some (.obj members)) :=
  match document with
  | some (.obj members) => .isTrue ⟨members, rfl⟩
  | none | some .null | some (.bool _) | some (.int _) | some (.real _) | some (.str _)
  | some (.arr _) => .isFalse nofun

instance (targets : Targets) (files : Files) : Decidable (targets.Readable files) :=
  decidable_of_iff (_ ∧ _) ⟨fun h => ⟨h.1, h.2⟩, fun h => ⟨h.hooks, h.settings⟩⟩

/-- The label of a key in a settings document. -/
def label (path : Path) (key : Text) : Text := path.name ++ ":" ++ key

/-- The hooks inside a settings document. -/
def placesIn (files : Files) (path : Path) : List (Place × Text) :=
  ((documentAt? files path).map places).getD []

/-- The hooks inside all settings documents, with their labels. -/
def Targets.labelled (targets : Targets) (files : Files) : List (Text × Place × Text) :=
  targets.settings.flatMap fun path =>
    (placesIn files path).map fun found => (label path found.1.key, found)

/-- Reads and assesses a hook file, as a request has it. -/
abbrev scanHookFile (request : ScanRequest) (path : Path) : Action HookFile :=
  scanFile {} Engine.scan none (request.lang.map fun lang => .written lang.name) path

/-- The hook in a file, assessed on its own, reaches the tier of a request. -/
def FileReaches (w : World) (config : EngineConfig) (request : ScanRequest) (path : Path) : Prop :=
  ∃ hook, (scanHookFile request path).alone w config = .ok hook ∧
    request.failOn.rank ≤ hook.assessment.level.rank

/-- The hook at a place, assessed on its own, reaches the tier of a request. -/
def TextReaches (w : World) (config : EngineConfig) (request : ScanRequest) (place : Place)
    (content : Text) : Prop :=
  ∃ assessment, (scanText {} content place.lang).alone w config = .ok assessment ∧
    request.failOn.rank ≤ assessment.level.rank

instance (w : World) (config : EngineConfig) (request : ScanRequest) (place : Place)
    (content : Text) : Decidable (TextReaches w config request place content) :=
  match h : (scanText {} content place.lang).alone w config with
  | .ok assessment =>
    decidable_of_iff (request.failOn.rank ≤ assessment.level.rank) (by simp [TextReaches, h])
  | .error _ => .isFalse (by simp [TextReaches, h])

/-! ## Reading -/

theorem eventNames_nodup {files : Files} {settings : Json}
    (h : documentAt? files path = some settings) : (eventNames settings).Nodup := by
  have hproper : settings.Proper := by
    unfold documentAt? at h
    split at h
    · rename_i t _
      cases hread : Json.read t with
      | error e =>
        rw [hread] at h
        cases h
      | ok j =>
        rw [hread] at h
        cases h
        exact Json.read_proper hread
    · cases h
  exact eventNames_nodup_of_proper hproper

theorem readSettings_determined (path : Path) : (readSettings path).Determined w config := by
  refine .files_bind ?_
  split
  · exact .fail _
  · exact .fail _
  · split
    · exact Determined.composable.pure _
    · split <;> exact .fail _

theorem readSettings_alone {settings : Json} (h : documentAt? w.files path = some settings) :
    (readSettings path).alone w config = .ok settings := by
  refine (alone_files_bind _).trans ?_
  unfold documentAt? at h
  cases htext : w.files.text path with
  | error e =>
    rw [htext] at h
    cases h
  | ok t =>
    rw [htext] at h
    dsimp only at h ⊢
    cases hread : Json.read t with
    | error e =>
      rw [hread] at h
      cases h
    | ok j =>
      rw [hread] at h
      cases h
      rfl

/-! ## Assessing -/

theorem scanHookFile_determined (request : ScanRequest) (path : Path) :
    (scanHookFile request path).Determined w config :=
  scanFile_determined {} none _ path

/-- A request that names its language by its name is understood. -/
theorem languageOf_ok (content : Text) (lang : Option Language) (filename : Option Text) :
    ∃ lang?, languageOf content (lang.map fun lang => .written lang.name) filename = .ok lang? := by
  cases lang with
  | none =>
    have hchoose : Language.choose none filename = .ok (Language.ofFilename? filename) := rfl
    unfold languageOf
    rw [Option.map_none, hchoose]
    cases Language.ofFilename? filename <;> exact ⟨_, rfl⟩
  | some lang => cases lang <;> exact ⟨_, rfl⟩

theorem scanHookFile_answers (hw : Orderly w) (config : EngineConfig) (request : ScanRequest)
    (hreadable : ∃ content, w.files.textLossy path = .ok content) :
    ∃ hook, (scanHookFile request path).alone w config = .ok hook := by
  obtain ⟨content, hcontent⟩ := hreadable
  obtain ⟨lang?, hlang⟩ := languageOf_ok content request.lang (some path.name)
  obtain ⟨assessed, hassessed⟩ := hw.assess_answers config {} hlang
  refine ⟨{ name := path.name, content, assessment := assessed.1, analyzed := assessed.2 }, ?_⟩
  refine (alone_files_bind _).trans ?_
  rw [hcontent]
  refine (alone_returning (Determined.composable.assess _ _ _ _) _).trans ?_
  rw [hassessed]
  rfl

/-- The assessments of the hooks inside a settings document, each under its key. -/
def assessedIn (files : Files) (own : Place × Text → Assessment) (path : Path) :
    List (Text × Assessment) :=
  (placesIn files path).map fun found => (found.1.key, own found)

/-- Entries under their labels. -/
def relabel (path : Path) (entries : List (Text × Assessment)) : List (Text × Assessment) :=
  entries.map fun entry => (label path entry.1, entry.2)

theorem auditSettings_determined (path : Path) : (auditSettings path).Determined w config :=
  (readSettings_determined path).bind fun settings => (scanSettings_determined settings).returning _

/-- What a settings document adds to the findings: its assessments under their labels. -/
theorem auditSettings_alone {own : Place × Text → Assessment}
    (hown : ∀ found : Place × Text,
      (scanText {} found.2 found.1.lang).alone w config = .ok (own found))
    (hdocument : ∃ members, documentAt? w.files path = some (.obj members)) :
    (auditSettings path).alone w config =
      .ok (relabel path (entriesOf (assessedIn w.files own path))) := by
  obtain ⟨members, hmembers⟩ := hdocument
  have hentries : (places (.obj members)).mapM (entry {} w config) =
      .ok ((places (.obj members)).map fun found => (found.1.key, own found)) := by
    refine mapM_eq_ok fun found _ => ?_
    unfold entry
    rw [hown]
    rfl
  have hplaces : placesIn w.files path = places (.obj members) := by
    unfold placesIn
    rw [hmembers]
    rfl
  unfold auditSettings assessedIn
  rw [alone_bind (readSettings_determined path) fun settings =>
    (scanSettings_determined settings).returning _, readSettings_alone hmembers]
  refine (alone_returning (scanSettings_determined _) _).trans ?_
  rw [scanSettings_alone, hentries, hplaces]
  rfl

/-- **`audit_alone`** — what a scan finds where everything can be read: the hook files, and of the
hooks in settings documents what is kept under their labels. -/
theorem audit_alone (hw : Orderly w) (config : EngineConfig)
    (hreadable : (request.targets w.files).Readable w.files) {own : Place × Text → Assessment}
    (hown : ∀ found : Place × Text,
      (scanText {} found.2 found.1.lang).alone w config = .ok (own found)) :
    ∃ hooks, (audit request).alone w config = .ok
        { hooks
          inline := entriesOf ((request.targets w.files).settings.flatMap fun path =>
            relabel path (entriesOf (assessedIn w.files own path))) } ∧
      ∀ hook, hook ∈ hooks ↔ ∃ path ∈ (request.targets w.files).hooks,
        (scanHookFile request path).alone w config = .ok hook := by
  let targets := request.targets w.files
  obtain ⟨hooks, hhooks, hmem⟩ := exists_mapM_eq_ok fun path hpath =>
    scanHookFile_answers hw config request (hreadable.hooks path hpath)
  have hfiles : (every (scanHookFile request) targets.hooks).alone w config = .ok hooks :=
    (alone_every (scanHookFile_determined request) _).trans hhooks
  have hsettings : (each auditSettings targets.settings).alone w config =
      .ok (targets.settings.map fun path =>
        relabel path (entriesOf (assessedIn w.files own path))) :=
    (alone_each auditSettings_determined _).trans
      (mapM_eq_ok fun path hpath => auditSettings_alone hown (hreadable.settings path hpath))
  have hfirst : (every (scanHookFile request) targets.hooks).Determined w config :=
    .every (scanHookFile_determined request) _
  have hthen : (each auditSettings targets.settings).Determined w config :=
    .each auditSettings_determined _
  refine ⟨hooks, (alone_files_bind _).trans ?_, hmem⟩
  refine (alone_bind hfirst fun hooks => hthen.returning _).trans ?_
  rw [hfiles]
  refine (alone_returning hthen _).trans ?_
  rw [hsettings]
  rfl

/-! ## What is kept -/

theorem label_injective {a b : Text} (h : label path a = label path b) : a = b :=
  List.append_cancel_left h

/-- **`mem_inline_iff`** — of the hooks in settings documents, the last with each label is kept. -/
theorem mem_inline_iff {files : Files} {targets : Targets} {own : Place × Text → Assessment}
    {name : Text} {assessment : Assessment} :
    (name, assessment) ∈ entriesOf (targets.settings.flatMap fun path =>
        relabel path (entriesOf (assessedIn files own path))) ↔
      ∃ found, IsLast (targets.labelled files) name found ∧ own found = assessment := by
  have hlabelled : (targets.settings.flatMap fun path => relabel path (assessedIn files own path)) =
      (targets.labelled files).map fun pair => (pair.1, own pair.2) := by
    unfold Targets.labelled
    rw [List.map_flatMap]
    refine List.flatMap_congr fun path _ => ?_
    unfold relabel assessedIn
    rw [List.map_map, List.map_map]
    rfl
  rw [mem_entriesOf_iff, ← isLast_map_value_iff, ← hlabelled]
  refine isLast_flatMap_congr fun path _ name assessment => ?_
  unfold relabel
  rw [isLast_map_iff fun _ _ => label_injective, isLast_map_iff fun _ _ => label_injective]
  simp only [isLast_entriesOf_iff]

theorem reach_iff {found : Findings} {tier : RiskLevel} :
    found.reach tier = true ↔
      (∃ hook ∈ found.hooks, tier.rank ≤ hook.assessment.level.rank) ∨
        ∃ name assessment, (name, assessment) ∈ found.inline ∧
          tier.rank ≤ assessment.level.rank := by
  simp [Findings.reach, Findings.assessments]

/-- **`audit_reaches`** — what a scan finds reaches the tier of the request exactly when a hook file
or a kept hook does on its own, and it finds nothing exactly when there is nothing. -/
theorem audit_reaches (hw : Orderly w) (config : EngineConfig)
    (hreadable : (request.targets w.files).Readable w.files) :
    ∃ found, (audit request).alone w config = .ok found ∧
      (found.reach request.failOn = true ↔
        (∃ path ∈ (request.targets w.files).hooks, FileReaches w config request path) ∨
          ∃ name place content,
            IsLast ((request.targets w.files).labelled w.files) name (place, content) ∧
              TextReaches w config request place content) ∧
      (found.isEmpty = true → (request.targets w.files).hooks = [] ∧
        (request.targets w.files).labelled w.files = []) := by
  choose own hown using fun found : Place × Text => scanText_answers hw config found.2 found.1.lang
  obtain ⟨hooks, haudit, hhooks⟩ := audit_alone hw config hreadable hown
  have htext : ∀ place content, TextReaches w config request place content ↔
      request.failOn.rank ≤ (own (place, content)).level.rank := by
    intro place content
    unfold TextReaches
    rw [hown (place, content)]
    simp
  refine ⟨_, haudit, ?reach, ?empty⟩
  case reach =>
    rw [reach_iff]
    refine or_congr ?_ ?_
    · simp only [hhooks, FileReaches]
      constructor
      · rintro ⟨hook, ⟨path, hpath, hanswer⟩, hreach⟩
        exact ⟨path, hpath, hook, hanswer, hreach⟩
      · rintro ⟨path, hpath, hook, hanswer, hreach⟩
        exact ⟨hook, ⟨path, hpath, hanswer⟩, hreach⟩
    · simp only [mem_inline_iff, htext]
      constructor
      · rintro ⟨name, _, ⟨⟨place, content⟩, hlast, rfl⟩, hreach⟩
        exact ⟨name, place, content, hlast, hreach⟩
      · rintro ⟨name, place, content, hlast, hreach⟩
        exact ⟨name, _, ⟨_, hlast, rfl⟩, hreach⟩
  case empty =>
    intro hempty
    simp only [Findings.isEmpty, Bool.and_eq_true, List.isEmpty_iff] at hempty
    obtain ⟨rfl, hinline⟩ := hempty
    refine ⟨List.eq_nil_iff_forall_not_mem.mpr fun path hpath => ?_,
      List.eq_nil_iff_forall_not_mem.mpr fun pair hpair => ?_⟩
    · obtain ⟨hook, hanswer⟩ := scanHookFile_answers hw config request (hreadable.hooks path hpath)
      exact absurd ((hhooks hook).mpr ⟨path, hpath, hanswer⟩) (by simp)
    -- a label that occurs has a last hook, and that is kept
    · obtain ⟨found, hlast⟩ := exists_isLast_iff.mpr (List.mem_map_of_mem hpair)
      have hkept : ∃ kept, IsLast _ pair.1 kept ∧ own kept = own found := ⟨found, hlast, rfl⟩
      rw [← mem_inline_iff, hinline] at hkept
      cases hkept

/-- The labelled hooks are the texts at the places of the settings documents. -/
theorem mem_labelled_iff {files : Files} {targets : Targets} {name content : Text} {place : Place} :
    (name, place, content) ∈ targets.labelled files ↔
      ∃ path ∈ targets.settings, ∃ settings, documentAt? files path = some settings ∧
        textAt? settings place = some content ∧ name = label path place.key := by
  simp only [Targets.labelled, List.mem_flatMap, List.mem_map, Prod.mk.injEq]
  refine exists_congr fun path => and_congr_right fun hpath => ?_
  unfold placesIn
  cases hdocument : documentAt? files path with
  | none => simp
  | some settings =>
    constructor
    · rintro ⟨found, hfound, rfl, rfl⟩
      exact ⟨settings, rfl, (mem_places_iff (eventNames_nodup hdocument)).mp hfound, rfl⟩
    · rintro ⟨_, ⟨⟩, htext, rfl⟩
      exact ⟨(place, content), (mem_places_iff (eventNames_nodup hdocument)).mpr htext, rfl, rfl⟩

end HookAudit.CommandLine
