/-
# HookAudit.Proofs.CommandLine.ExitCode — what the code of a scan says.

A scan of existing paths is asked for by `scanArguments`.  Where everything can be read and there is
something to assess, its code is one exactly when a hook file, or a hook that is kept under its
label, reaches the tier of the request on its own (`exit_code_reflects_kept_hooks`).  Labels leave
out the directory, and of two hooks with one label only the later is kept: the earlier may be risky,
and the code is zero (`overwritten_hook_is_passed_over`).
-/
import HookAudit.CommandLine.Run
import HookAudit.Proofs.CommandLine.Audit

namespace HookAudit.CommandLine

open Engine Action Scanner

variable {around : Surroundings} {config : EngineConfig} {request : ScanRequest}

/-! ## Requests -/

/-- The settings of the engine of a scan, if they are accepted. -/
def scanConfig (around : Surroundings) (request : ScanRequest) :
    Except ConfigError EngineConfig := do
  let given ← EngineConfig.ofEnvironment around.home around.environment
  let config := { given with queries := chooseQueries request.queryDirectory given.queries }
  config.check around.world.files.isDirectory
  return config

/-- The arguments that ask for a scan of some paths with a document as outcome. -/
def scanArguments (tier : RiskLevel) (paths : List Text) : List Text :=
  "scan" :: "--format" :: "json" :: "--fail-on" :: tier.label :: "--" :: paths

/-- **`readRequest_scanArguments`** — so a scan of any existing paths is asked for. -/
theorem readRequest_scanArguments {files : Files} {tier : RiskLevel} {paths : List Text}
    (htier : tier ∈ thresholds) (hsome : paths ≠ [])
    (hexist : ∀ path ∈ paths, (files.findWritten path).isOk = true) :
    readRequest files (scanArguments tier paths) =
      .ok (.scan { paths, format := .json, failOn := tier }) := by
  have hpaths : checkPaths files paths = .ok () := by
    have hmissing : paths.find? (fun path => !(files.findWritten path).isOk) = none :=
      List.find?_eq_none.mpr fun path hpath => by simp [hexist path hpath]
    unfold checkPaths
    rw [hmissing, if_neg (by simpa using hsome)]
  have hoptions : checkOptions files
      { options := [("--format", "json"), ("--fail-on", tier.label)], others := paths }
      ["--format", "--fail-on"] = .ok () := by
    cases tier with
    | safe => exact absurd htier (by decide)
    | warning => rfl
    | dangerous => rfl
  have hcommand : Command.scan.request files
      ("--format" :: "json" :: "--fail-on" :: tier.label :: "--" :: paths) =
        .ok (.scan { paths, format := .json, failOn := tier }) := by
    have hread : readArguments Command.scan.options true
        ("--format" :: "json" :: "--fail-on" :: tier.label :: "--" :: paths) =
          .ok { options := [("--format", "json"), ("--fail-on", tier.label)], others := paths } :=
      rfl
    unfold Command.request
    rw [hread]
    show (do
      checkOptions files _ ["--format", "--fail-on"]
      checkPaths files paths
      return _ : Except Misuse Request) = _
    rw [hoptions, hpaths]
    cases tier with
    | safe => exact absurd htier (by decide)
    | warning => rfl
    | dangerous => rfl
  -- the words in front of the paths are fixed, so reading them computes for any paths
  have hread : readArguments programOptions false (scanArguments tier paths) =
      .ok { others := scanArguments tier paths } := rfl
  have hprogram : programRequest? { others := scanArguments tier paths } = none := rfl
  have hname : commandNamed "scan" (scanArguments tier paths) = .ok (.inr .scan) := rfl
  unfold readRequest
  rw [hread]
  dsimp only
  rw [hprogram]
  unfold scanArguments at hname ⊢
  dsimp only
  rw [hname]
  dsimp only
  rw [hcommand]

/-! ## The code -/

deriving instance DecidableEq for Breakdown, Ending

/-- A run whose arguments ask for a scan is that scan. -/
theorem run_eq_runScan {args : List Text}
    (hrequest : readRequest around.world.files args = .ok (.scan request)) :
    run around args = runScan around request := by
  unfold run
  rw [hrequest]
  rfl

/-- How a scan ends with accepted settings: as what it found has it. -/
theorem runScan_finishes {found : Findings} (hconfig : scanConfig around request = .ok config)
    (haudit : (audit request).alone around.world config = .ok found) :
    (runScan around request).ending = (finishScan request [] found).ending := by
  unfold scanConfig at hconfig
  unfold runScan
  cases hgiven : EngineConfig.ofEnvironment around.home around.environment with
  | error e =>
    rw [hgiven] at hconfig
    cases hconfig
  | ok given =>
    rw [hgiven] at hconfig
    simp only [Bind.bind, Except.bind, Pure.pure, Except.pure] at hconfig
    split at hconfig
    · cases hconfig
    · rename_i hcheck
      obtain rfl := Except.ok.inj hconfig
      unfold withEngine
      dsimp only
      rw [hcheck]
      dsimp only
      rw [show (audit request around.world _).1 = .ok found from haudit]
      -- the log is printed on a channel of its own
      unfold finishScan
      dsimp only
      split
      · rfl
      · cases request.format <;> rfl

/-- How a scan ends that writes a document and has found something. -/
theorem run_ending {args : List Text} {found : Findings}
    (hrequest : readRequest around.world.files args = .ok (.scan request))
    (hformat : request.format = .json) (hconfig : scanConfig around request = .ok config)
    (haudit : (audit request).alone around.world config = .ok found)
    (hfound : found.isEmpty = false) :
    (run around args).ending = .exit (if found.reach request.failOn then 1 else 0) := by
  rw [run_eq_runScan hrequest, runScan_finishes hconfig haudit]
  simp [finishScan, hfound, hformat]

/-- A hook file that the paths of a request name reaches its tier. -/
def SomeFileReaches (w : World) (config : EngineConfig) (request : ScanRequest) : Prop :=
  ∃ written ∈ request.paths, ∃ path, NamesHook w.files written path ∧
    FileReaches w config request path

/-- A hook inside a settings document that the paths of a request name reaches its tier. -/
def SomeTextReaches (w : World) (config : EngineConfig) (request : ScanRequest) : Prop :=
  ∃ written ∈ request.paths, ∃ path, NamesSettings w.files written path ∧
    ∃ settings place content, documentAt? w.files path = some settings ∧
      textAt? settings place = some content ∧ TextReaches w config request place content

/-- Among the hooks inside settings documents, one that is the last with its label does. -/
def SomeKeptReaches (w : World) (config : EngineConfig) (request : ScanRequest) : Prop :=
  ∃ name place content,
    IsLast ((request.targets w.files).labelled w.files) name (place, content) ∧
      TextReaches w config request place content

theorem someFileReaches_iff {w : World} : SomeFileReaches w config request ↔
    ∃ path ∈ (request.targets w.files).hooks, FileReaches w config request path := by
  simp only [mem_targets_iff.1]
  constructor
  · rintro ⟨written, hwritten, path, hnames, hreach⟩
    exact ⟨path, ⟨written, hwritten, hnames⟩, hreach⟩
  · rintro ⟨path, ⟨written, hwritten, hnames⟩, hreach⟩
    exact ⟨written, hwritten, path, hnames, hreach⟩

/-- Where all labels differ, every hook is kept. -/
theorem someKeptReaches_iff {w : World}
    (hlabels : (((request.targets w.files).labelled w.files).map (·.1)).Nodup) :
    SomeKeptReaches w config request ↔ SomeTextReaches w config request := by
  simp only [SomeKeptReaches, isLast_iff_of_nodup hlabels, mem_labelled_iff, mem_targets_iff.2]
  constructor
  · rintro ⟨_, place, content, ⟨path, ⟨written, hwritten, hnames⟩, settings, hdocument, htext, -⟩,
      hreach⟩
    exact ⟨written, hwritten, path, hnames, settings, place, content, hdocument, htext, hreach⟩
  · rintro ⟨written, hwritten, path, hnames, settings, place, content, hdocument, htext, hreach⟩
    exact ⟨label path place.key, place, content,
      ⟨path, ⟨written, hwritten, hnames⟩, settings, hdocument, htext, rfl⟩, hreach⟩

/-- **`exit_code_reflects_kept_hooks`** — where everything can be read and a hook is found, a scan
that writes a document ends with one or zero: with one exactly when a hook file, or a hook that is
the last with its label, reaches the tier on its own.  If no two hooks share a label, these are all
hooks of all settings documents. -/
theorem exit_code_reflects_kept_hooks (around : Surroundings) (args : List Text)
    (request : ScanRequest) (config : EngineConfig)
    (hrequest : readRequest around.world.files args = .ok (.scan request))
    (hformat : request.format = .json) (hconfig : scanConfig around request = .ok config)
    (hworld : Orderly around.world)
    (hreadable : (request.targets around.world.files).Readable around.world.files)
    (hfound : (request.targets around.world.files).hooks ≠ [] ∨
      (request.targets around.world.files).labelled around.world.files ≠ []) :
    ∃ code, (run around args).ending = .exit code ∧ (code = 0 ∨ code = 1) ∧
      (code = 1 ↔ SomeFileReaches around.world config request ∨
        SomeKeptReaches around.world config request) ∧
      ((((request.targets around.world.files).labelled around.world.files).map (·.1)).Nodup →
        (code = 1 ↔ SomeFileReaches around.world config request ∨
          SomeTextReaches around.world config request)) := by
  obtain ⟨found, haudit, hreach, hempty⟩ := audit_reaches hworld config hreadable
  have hsome : found.isEmpty = false := by
    rw [Bool.eq_false_iff]
    intro hnothing
    obtain ⟨hhooks, hlabelled⟩ := hempty hnothing
    exact hfound.elim (· hhooks) (· hlabelled)
  have hcode : (if found.reach request.failOn then 1 else 0) = 1 ↔
      SomeFileReaches around.world config request ∨
        SomeKeptReaches around.world config request := by
    rw [someFileReaches_iff, SomeKeptReaches, ← hreach]
    cases found.reach request.failOn <;> decide
  refine ⟨_, run_ending hrequest hformat hconfig haudit hsome, ?_, hcode, fun hlabels => ?_⟩
  · cases found.reach request.failOn <;> decide
  · rw [hcode, someKeptReaches_iff hlabels]

/-- A settings file with one hook. -/
def oneHook (code : Text) : FileTree :=
  .file <| Text.encode <|
    "\x7b\"hooks\": \x7b\"Stop\": [\x7b\"code\": \"" ++ code ++ "\"\x7d]\x7d\x7d"

/-- Two settings files with names of their own, and the paths to them. -/
def ownNames : Surroundings where
  world := installed
    { tree := .directory [("a.json", oneHook "token"), ("b.json", oneHook "")] } []

def ownNamesRequest : ScanRequest where
  paths := ["a.json", "b.json"]
  format := .json
  failOn := .warning

/-- A risky hook in one of two settings files is noticed. -/
theorem risky_hook_fails_the_scan :
    (ownNamesRequest.targets ownNames.world.files).Readable ownNames.world.files ∧
      (run ownNames (scanArguments .warning ["a.json", "b.json"])).ending = .exit 1 := by
  have hreadable :
      (ownNamesRequest.targets ownNames.world.files).Readable ownNames.world.files := by
    decide +kernel
  obtain ⟨code, hending, -, -, hcounts⟩ :=
    exit_code_reflects_kept_hooks ownNames (scanArguments .warning ["a.json", "b.json"])
      ownNamesRequest {} (readRequest_scanArguments (by decide) (by decide) (by decide +kernel))
      rfl (by decide +kernel) (installed_orderly _ _) hreadable (.inr (by decide +kernel))
  refine ⟨hreadable, ?_⟩
  obtain ⟨settings, hdocument, htext⟩ := Option.bind_eq_some_iff.mp
    (show (documentAt? ownNames.world.files (.ofText "a.json")).bind
      (textAt? · (.code "Stop" 0)) = some "token" by decide +kernel)
  -- the two labels differ, so the hook in the first file is kept
  have hone : code = 1 := (hcounts (by decide +kernel)).mpr
    (.inr ⟨"a.json", List.mem_cons_self, _, .itself (by decide) (by decide), settings, _, _,
      hdocument, htext, by decide +kernel⟩)
  rw [hending, hone]

/-- Two settings files with one name, in different directories. -/
def sameName : Surroundings where
  world := installed
    { tree := .directory [("a", .directory [("settings.json", oneHook "token")]),
        ("b", .directory [("settings.json", oneHook "")])] } []

def sameNameRequest : ScanRequest where
  paths := ["a/settings.json", "b/settings.json"]
  format := .json
  failOn := .warning

/-- **`overwritten_hook_is_passed_over`** — both files can be read and the hook in the first is
risky on its own, but that in the second takes its label, and the code is zero. -/
theorem overwritten_hook_is_passed_over :
    readRequest sameName.world.files (scanArguments .warning sameNameRequest.paths) =
        .ok (.scan sameNameRequest) ∧
      scanConfig sameName sameNameRequest = .ok {} ∧
      (sameNameRequest.targets sameName.world.files).Readable sameName.world.files ∧
      SomeTextReaches sameName.world {} sameNameRequest ∧
      (run sameName (scanArguments .warning sameNameRequest.paths)).ending = .exit 0 := by
  obtain ⟨settings, hdocument, htext⟩ := Option.bind_eq_some_iff.mp
    (show (documentAt? sameName.world.files (.ofText "a/settings.json")).bind
      (textAt? · (.code "Stop" 0)) = some "token" by decide +kernel)
  refine ⟨readRequest_scanArguments (by decide) (by decide) (by decide +kernel),
    by decide +kernel, by decide +kernel, ?_, by decide +kernel⟩
  exact ⟨"a/settings.json", List.mem_cons_self, _, .itself (by decide +kernel) (by decide),
    settings, _, _, hdocument, htext, by decide +kernel⟩

end HookAudit.CommandLine
