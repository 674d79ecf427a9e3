/-
# HookAudit.Proofs.CommandLine.Walk — the hooks in a directory.

The language of a hook file is that of its extension, in any letter case and in whatever directory it
is written.  A scan of a directory looks at the suffixes of the paths it walks over, and the engine is
given names and reads them as paths again.  In a tree of files these are the same: a scan collects
the files whose names the engine resolves to a language, and no other
(`mem_hooks_of_directory_iff`).  So when no language is asked for, each of them is analysed in that of
its extension (`scanFile_of_extension`), and none is of an unsupported language
(`walk_agrees_with_file_names`).
-/
import HookAudit.Proofs.CommandLine.Audit
import HookAudit.Proofs.Engine.LanguageChoice
import HookAudit.Proofs.Files.Names

namespace HookAudit.CommandLine

open Engine Action Scanner

variable {files : Files} {request : ScanRequest} {written : Text} {path : Path} {lang : Language}

/-! ## What is collected -/

/-- A file is collected by the suffix of its path. -/
theorem isHookFile_iff :
    isHookFile path = true ↔ ∃ lang, Language.extensions.lookup path.suffix.lower = some lang := by
  simp only [Language.lookup_extensions_eq_some_iff]
  unfold isHookFile
  rw [List.any_eq_true]
  constructor
  · rintro ⟨⟨e, lang⟩, hmem, heq⟩
    rw [← beq_iff_eq.mp heq]
    exact ⟨lang, hmem⟩
  · rintro ⟨lang, hmem⟩
    exact ⟨_, hmem, beq_self_eq_true _⟩

/-- **`namesHook_iff_of_directory`** — a directory names the files below it whose names resolve to a
language. -/
theorem namesHook_iff_of_directory (hplain : files.tree.Plain)
    (hdirectory : files.isDirectory (.ofText written) = true) :
    NamesHook files written path ↔ path ∈ files.filesBelow (.ofText written) ∧
      ∃ lang, Language.ofFilename? (some path.name) = some lang := by
  constructor
  · rintro (⟨-, hlisted, hextension⟩ | ⟨hsingle, -⟩)
    · rw [Language.ofFilename?_name (files.noSlash_of_mem_filesBelow hplain hdirectory hlisted)]
      exact ⟨hlisted, isHookFile_iff.mp hextension⟩
    · rw [hdirectory] at hsingle
      cases hsingle
  · rintro ⟨hlisted, hlang⟩
    rw [Language.ofFilename?_name (files.noSlash_of_mem_filesBelow hplain hdirectory hlisted)]
      at hlang
    exact .below hdirectory hlisted (isHookFile_iff.mpr hlang)

theorem mem_hooks_of_directory_iff (hplain : files.tree.Plain)
    (hdirectory : files.isDirectory (.ofText written) = true) :
    path ∈ (Targets.ofPaths files [written]).hooks ↔ path ∈ files.filesBelow (.ofText written) ∧
      ∃ lang, Language.ofFilename? (some path.name) = some lang := by
  have htargets : path ∈ (ScanRequest.targets { paths := [written] } files).hooks ↔
      ∃ other ∈ [written], NamesHook files other path := mem_targets_iff.1
  rw [← namesHook_iff_of_directory hplain hdirectory]
  exact htargets.trans (by simp)

/-! ## What is done with it -/

theorem scan_of_extension {filename : Option Text}
    (h : Language.ofFilename? filename = some lang) (content : Text) :
    Engine.scan content none filename = Engine.scanRequest content (some lang) :=
  scan_of_chosen (.byExtension (Language.ofFilename?_eq_some_iff.mp h))

/-- **`scanFile_of_extension`** — a hook file whose name resolves to a language is analysed in it. -/
theorem scanFile_of_extension (h : Language.ofFilename? (some path.name) = some lang)
    (config : ScannerConfig) (eventType : Option Text) :
    scanFile config Engine.scan eventType none path =
      scanFile config (fun content _ _ => Engine.scanRequest content (some lang)) eventType none
        path := by
  have hassess : ∀ content, assess config Engine.scan content (some path.name) none =
      assess config (fun content _ _ => Engine.scanRequest content (some lang)) content
        (some path.name) none := by
    intro content
    unfold assess
    rw [scan_of_extension h]
  unfold scanFile
  simp only [hassess]

/-- **`walk_agrees_with_file_names`** — a file name with an extension of a language, in any letter case
and behind any stem, is of that language, on its own and in any directory.  A name other than the
empty one and a dot is of the same language in any directory, if of any.  In any tree of files whose
names have no slash, a scan of a directory collects the files below it whose names resolve to a
language.  They are among the targets of every request with the directory.  Where no language is
asked for they are analysed in the language of their names, and whatever the engine was asked before,
it never finds their language unsupported. -/
theorem walk_agrees_with_file_names :
    (∀ (directory stem e : Text) (lang : Language), stem ≠ [] → stem.NoSlash →
      (e.lower, lang) ∈ Language.extensions →
        Language.ofFilename? (some (directory ++ .ofChar '/' :: (stem ++ e))) = some lang ∧
          Language.ofFilename? (some (stem ++ e)) = some lang) ∧
    (∀ directory name : Text, name.NoSlash → name ≠ [] → name ≠ "." →
      Language.ofFilename? (some (directory ++ .ofChar '/' :: name)) =
        Language.ofFilename? (some name)) ∧
    ∀ files : Files, files.tree.Plain → ∀ written : Text,
      files.isDirectory (.ofText written) = true → ∀ path,
        (path ∈ (Targets.ofPaths files [written]).hooks ↔
          path ∈ files.filesBelow (.ofText written) ∧
            ∃ lang, Language.ofFilename? (some path.name) = some lang) ∧
        (path ∈ (Targets.ofPaths files [written]).hooks →
          (∀ request : ScanRequest, written ∈ request.paths →
            path ∈ (Targets.ofPaths files request.paths).hooks) ∧
          ∃ lang, Language.ofFilename? (some path.name) = some lang ∧
            (∀ config eventType, scanFile config Engine.scan eventType none path =
              scanFile config (fun content _ _ => Engine.scanRequest content (some lang)) eventType none
                path) ∧
            ∀ (config : EngineConfig) (before : List Call) (w : World) (content detail : Text),
              (Engine.scan content none (some path.name) w (({ config } : State).after before)).1 ≠
                .ok (.noOpinion .unsupportedLanguage detail)) := by
  refine ⟨?extension, ?directory, ?walk⟩
  case extension =>
    intro directory stem e lang hstem hslash he
    have hsplit : directory ++ .ofChar '/' :: (stem ++ e) =
        (directory ++ [.ofChar '/']) ++ (stem ++ e) := by simp
    rw [hsplit]
    exact ⟨Language.ofFilename?_of_extension (.inr List.getLast?_concat) hstem hslash he,
      Language.ofFilename?_of_extension (.inl rfl) hstem hslash he⟩
  case directory =>
    intro directory name hslash hnonempty hnotDot
    have hname := Path.name_ofText_behind directory ⟨hslash, hnonempty, hnotDot⟩
    have hlookup := Language.ofFilename?_name (p := .ofText (directory ++ .ofChar '/' :: name))
      (by rwa [hname])
    -- both sides look up the suffix of the path with the directory
    rw [hname] at hlookup
    rw [hlookup, Language.ofFilename?_some]
  case walk =>
    intro files hplain written hdirectory path
    have hcollected : path ∈ (Targets.ofPaths files [written]).hooks ↔ _ :=
      mem_hooks_of_directory_iff hplain hdirectory
    refine ⟨hcollected, fun hmem => ⟨fun request hwritten => ?_, ?_⟩⟩
    · exact mem_targets_iff.1.mpr
        ⟨written, hwritten, (namesHook_iff_of_directory hplain hdirectory).mpr (hcollected.mp hmem)⟩
    · obtain ⟨-, lang, hlang⟩ := hcollected.mp hmem
      refine ⟨lang, hlang, scanFile_of_extension hlang, fun config before w content detail => ?_⟩
      rw [scan_of_extension hlang]
      exact (scanRequest_not_about_language ((Sound.fresh config).after before) w content lang).2
        detail

/-- A directory with a hook in a directory below it, and a file that is none. -/
def mixedFiles : Files :=
  (({} : Files).put (.ofText "hooks/v1.0/.a.b.PY") (.file (Text.encode "import os"))).put
    (.ofText "hooks/.sh") (.file [])

theorem mixedFiles_plain : mixedFiles.tree.Plain :=
  (FileTree.Plain.empty.put (.file _) (by decide)).put (.file _) (by decide)

/-- Names with more than one dot, and a directory that is walked over. -/
theorem dotted_names_are_walked_over :
    Language.ofFilename? (some "x.sh/v1.0/../.a.b.Py") = some .python ∧
      Language.ofFilename? (some "a.py/.sh") = none ∧
      ∃ path ∈ (Targets.ofPaths mixedFiles ["hooks"]).hooks, path.name = ".a.b.PY" ∧
        ∀ content detail,
          (Engine.scan content none (some path.name) (installed {} []) { config := {} }).1 ≠
            .ok (.noOpinion .unsupportedLanguage detail) := by
  obtain ⟨hextension, hanywhere, hwalk⟩ := walk_agrees_with_file_names
  have hdirectory : mixedFiles.isDirectory (.ofText "hooks") = true := by decide +kernel
  obtain ⟨hcollected, hdone⟩ := hwalk mixedFiles mixedFiles_plain "hooks" hdirectory
    ⟨[], ["hooks", "v1.0", ".a.b.PY"]⟩
  have hpaths : (mixedFiles.find (.ofText "hooks")).map FileTree.filePaths =
      .ok [[("v1.0" : Text), ".a.b.PY"], [".sh"]] := by decide +kernel
  have hmem : (⟨[], ["hooks", "v1.0", ".a.b.PY"]⟩ : Path) ∈
      (Targets.ofPaths mixedFiles ["hooks"]).hooks := by
    refine hcollected.mpr ⟨?_, .python, by decide +kernel⟩
    cases hfind : mixedFiles.find (.ofText "hooks") with
    | error e =>
      rw [hfind] at hpaths
      cases hpaths
    | ok tree =>
      rw [hfind] at hpaths
      have hfiles : tree.filePaths = _ := Except.ok.inj hpaths
      exact Files.mem_filesBelow_iff.mpr ⟨tree, hfind, ["v1.0", ".a.b.PY"], by simp [hfiles], rfl⟩
  obtain ⟨-, lang, -, -, hnever⟩ := hdone hmem
  exact ⟨(hextension "x.sh/v1.0/.." ".a.b" ".Py" .python (by decide) (by decide) (by decide)).1,
    (hanywhere "a.py" ".sh" (by decide) (by decide) (by decide)).trans (by decide),
    _, hmem, rfl, fun content detail => hnever {} [] (installed {} []) content detail⟩

end HookAudit.CommandLine
