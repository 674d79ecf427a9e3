/-
# HookAudit.Proofs.Scanner.Report — who speaks in the safety report.

In the report a hook is announced by a line of its own, which starts with the sign of its tier.
Findings are on one line each and are set further in, so they announce nothing.  Names go into the
report as they are: a name with a newline goes on in the next line, and if that line starts with a
sign, it announces a hook that is not there (`forged`).  Nothing else does, so what a report
announces is each hook at its place and what the names forge (`announced_report`).
-/
import HookAudit.Proofs.Engine.Agreement
import HookAudit.Proofs.Engine.Legible
import HookAudit.Proofs.Entries
import HookAudit.Proofs.Scanner.Places
import HookAudit.Scanner.Report

namespace HookAudit

/-- What the line of a hook of some tier starts with. -/
def RiskLevel.sign (level : RiskLevel) : Text := "  " ++ level.marker ++ " "

namespace Scanner

open Engine Action

variable {hooks : List HookFile} {inline : List (Text × Assessment)} {hook : HookFile}
  {line name tail : Text} {level : RiskLevel} {texts : List Text}

/-! ## Announcing hooks -/

/-- The tier of the hook that a line announces, if it announces one. -/
def announcedBy (line : Text) : Option RiskLevel :=
  [RiskLevel.safe, .warning, .dangerous].find? fun level => line.startsWith level.sign

/-- The tiers of the hooks that the lines of a text announce, in order. -/
def announced (t : Text) : List RiskLevel := (t.splitOn '\n').filterMap announcedBy

/-- The tiers of the hooks that a name announces below its first line.  A blank follows it, which
may complete a sign. -/
def forged (name : Text) : List RiskLevel :=
  ((name ++ " ").splitOn '\n').tail.filterMap announcedBy

theorem announcedBy_sign (level : RiskLevel) (rest : Text) :
    announcedBy (level.sign ++ rest) = some level := by
  cases level <;> rfl

/-- What is set further in announces nothing. -/
theorem announcedBy_indented (rest : Text) : announcedBy (("    " : Text) ++ rest) = none := rfl

/-- Behind a code point that is in no sign, a line goes on as it likes. -/
theorem isPrefixOf_append_cons {piece : Text} {c : CodePoint} (hc : c ∉ piece) (t rest : Text) :
    piece.isPrefixOf (t ++ c :: rest) = piece.isPrefixOf t := by
  induction t generalizing piece with
  | nil =>
    cases piece with
    | nil => rfl
    | cons d piece =>
      have hne : (d == c) = false := beq_false_of_ne fun h => hc (h ▸ List.mem_cons_self)
      simp [List.isPrefixOf, hne]
  | cons x t ih =>
    cases piece with
    | nil => rfl
    | cons d piece =>
      have hrest := ih fun h => hc (List.mem_cons_of_mem _ h)
      simp only [List.cons_append, List.isPrefixOf]
      rw [hrest]

theorem announcedBy_parenthesis (t rest : Text) :
    announcedBy (t ++ CodePoint.ofChar '(' :: rest) = announcedBy t := by
  have hsign : ∀ level : RiskLevel, CodePoint.ofChar '(' ∉ level.sign := by
    intro level
    cases level <;> decide
  unfold announcedBy
  simp only [Text.startsWith, isPrefixOf_append_cons (hsign _)]

/-- The lines of joined texts announce what the texts do. -/
theorem announced_join (texts : List Text) :
    announced (Text.join "\n" texts) = texts.flatMap announced := by
  cases texts with
  | nil => rfl
  | cons t rest =>
    unfold announced
    rw [Text.splitOn_join (List.cons_ne_nil t rest), List.filterMap_flatMap]

theorem announced_of_oneLine (h : line.OneLine) : announced line = (announcedBy line).toList := by
  unfold announced
  rw [Text.splitOn_of_oneLine h]
  cases hby : announcedBy line <;> simp [hby]

/-- **`announced_headline`** — a line with a sign and a name announces its hook, and what the name
forges. -/
theorem announced_headline (level : RiskLevel) (name : Text) (htail : tail.OneLine) :
    announced (level.sign ++ (name ++ (" (" ++ tail))) = level :: forged name := by
  have hsign : level.sign.OneLine := by cases level <;> decide
  have hmore : (" (" ++ tail : Text).OneLine := Text.oneLine_append.mpr ⟨by decide, htail⟩
  obtain ⟨earlier, last, hsplit⟩ := Text.exists_splitOn_append name
  have hlast : announcedBy (last ++ (" (" ++ tail)) = announcedBy (last ++ " ") := by
    rw [← announcedBy_parenthesis (last ++ " ") tail]
    simp [Text.ofString]
  unfold announced forged
  rw [Text.splitOn_append hsign, hsplit _ hmore, hsplit " " (by decide)]
  cases earlier with
  | nil =>
    show [level.sign ++ (last ++ (" (" ++ tail))].filterMap announcedBy = _
    rw [List.filterMap_cons, announcedBy_sign]
    rfl
  | cons first others =>
    show ((level.sign ++ first) :: (others ++ [last ++ (" (" ++ tail)])).filterMap announcedBy = _
    rw [List.filterMap_cons, announcedBy_sign]
    show level :: (others ++ [last ++ (" (" ++ tail)]).filterMap announcedBy =
      level :: (others ++ [last ++ " "]).filterMap announcedBy
    rw [List.filterMap_append, List.filterMap_append, List.filterMap_cons, hlast,
      List.filterMap_cons]

/-! ## Findings -/

/-- A finding is on one line of its own, which announces nothing. -/
theorem oneLine_findingLine {finding : Text} (h : finding.OneLine) :
    (findingLine finding).OneLine :=
  Text.oneLine_append.mpr ⟨by decide, h⟩

theorem announced_findings {a : Assessment} (h : a.Legible) :
    (a.findings.map findingLine).flatMap announced = [] := by
  refine List.flatMap_eq_nil_iff.mpr fun line hline => ?_
  obtain ⟨finding, hfinding, rfl⟩ := List.mem_map.mp hline
  rw [announced_of_oneLine (oneLine_findingLine (h finding hfinding))]
  rfl

/-! ## Hooks -/

/-- **`hook.Bare`** — a hook of which nothing is known but its name and its content, with findings
on single lines. -/
structure HookFile.Bare (hook : HookFile) : Prop where
  event : hook.eventType = none
  description : hook.description = none
  findings : hook.assessment.Legible

/-- The line of a hook file. -/
def headline (hook : HookFile) : Text :=
  hook.assessment.level.sign ++ (hook.name ++ (" (" ++ ("unknown)" : Text)))

/-- What is said below it. -/
def details (hook : HookFile) : List Text :=
  (if hook.analyzed then [] else
    [("    (could not analyze this hook; heuristic scan only)" : Text)]) ++
  hook.assessment.findings.map findingLine

theorem HookFile.Bare.lines_eq (h : hook.Bare) : hook.lines = headline hook :: details hook := by
  unfold HookFile.lines
  rw [h.event, h.description]
  simp [headline, details, RiskLevel.sign, eventName, Text.ofString]

theorem HookFile.Bare.oneLine_details (h : hook.Bare) : ∀ line ∈ details hook, line.OneLine := by
  intro line hline
  rcases List.mem_append.mp hline with hnote | hline
  · split at hnote
    · cases hnote
    · rw [List.mem_singleton.mp hnote]
      decide
  · obtain ⟨finding, hfinding, rfl⟩ := List.mem_map.mp hline
    exact oneLine_findingLine (h.findings finding hfinding)

theorem HookFile.Bare.announced_lines (h : hook.Bare) :
    hook.lines.flatMap announced = hook.assessment.level :: forged hook.name := by
  have hnote : (if hook.analyzed then [] else
      [("    (could not analyze this hook; heuristic scan only)" : Text)]).flatMap announced =
        [] := by
    split
    · rfl
    · decide +kernel
  rw [h.lines_eq, List.flatMap_cons, headline, announced_headline _ _ (by decide), details,
    List.flatMap_append, hnote, announced_findings h.findings]
  simp

/-- The line of an inline hook. -/
def inlineHeadline (entry : Text × Assessment) : Text :=
  entry.2.level.sign ++ (entry.1 ++ (" (" ++ ("risk: " ++ Text.ofNat entry.2.riskScore ++ ")")))

theorem inlineLines_eq (entry : Text × Assessment) :
    inlineLines entry.1 entry.2 =
      inlineHeadline entry :: entry.2.findings.map findingLine := by
  simp [inlineLines, inlineHeadline, RiskLevel.sign, Text.ofString]

theorem oneLine_score (n : Nat) : ("risk: " ++ Text.ofNat n ++ ")" : Text).OneLine := by
  simp only [Text.oneLine_append]
  exact ⟨⟨by decide, Text.oneLine_ofNat n⟩, by decide⟩

theorem announced_inlineLines {entry : Text × Assessment} (h : entry.2.Legible) :
    (inlineLines entry.1 entry.2).flatMap announced = entry.2.level :: forged entry.1 := by
  rw [inlineLines_eq, List.flatMap_cons, inlineHeadline, announced_headline _ _ (oneLine_score _),
    announced_findings h, List.append_nil]

/-! ## The report -/

/-- The hooks that a report is about, by name and tier. -/
def mentions (hooks : List HookFile) (inline : List (Text × Assessment)) :
    List (Text × RiskLevel) :=
  hooks.map (fun hook => (hook.name, hook.assessment.level)) ++
    inline.map fun entry => (entry.1, entry.2.level)

/-- The lines of a report as they are meant: two headings with a blank line in front, and below
them what is said of each hook.  An empty report is one empty line. -/
def meantLines (hooks : List HookFile) (inline : List (Text × Assessment)) : List Text :=
  if hooks.isEmpty && inline.isEmpty then [[]] else
    (if hooks.isEmpty then [] else [] :: "📄 File-based hooks:" :: hooks.flatMap HookFile.lines) ++
    (if inline.isEmpty then [] else [] :: "📝 Inline hooks:" ::
      inline.flatMap fun entry => inlineLines entry.1 entry.2)

/-- **`announced_report`** — a report announces each hook at its place, and what the names forge. -/
theorem announced_report (hhooks : ∀ hook ∈ hooks, hook.Bare)
    (hinline : ∀ entry ∈ inline, entry.2.Legible) :
    announced (safetyReport hooks inline) =
      (mentions hooks inline).flatMap fun mention => mention.2 :: forged mention.1 := by
  have hfiles : (if hooks.isEmpty then [] else
      ("\n📄 File-based hooks:" : Text) :: hooks.flatMap HookFile.lines).flatMap announced =
        hooks.flatMap fun hook => hook.assessment.level :: forged hook.name := by
    cases hooks with
    | nil => rfl
    | cons hook others =>
      have hheading : announced ("\n📄 File-based hooks:" : Text) = [] := by decide +kernel
      simp only [List.isEmpty_cons, Bool.false_eq_true, if_false]
      rw [List.flatMap_cons, hheading, List.nil_append, List.flatMap_assoc]
      exact List.flatMap_congr fun hook hhook => (hhooks hook hhook).announced_lines
  have hkeys : (if inline.isEmpty then [] else
      ("\n📝 Inline hooks:" : Text) :: inline.flatMap fun entry =>
        inlineLines entry.1 entry.2).flatMap announced =
        inline.flatMap fun entry => entry.2.level :: forged entry.1 := by
    cases inline with
    | nil => rfl
    | cons entry others =>
      have hheading : announced ("\n📝 Inline hooks:" : Text) = [] := by decide +kernel
      simp only [List.isEmpty_cons, Bool.false_eq_true, if_false]
      rw [List.flatMap_cons, hheading, List.nil_append, List.flatMap_assoc]
      exact List.flatMap_congr fun entry hentry => announced_inlineLines (hinline entry hentry)
  rw [safetyReport, announced_join, List.flatMap_append, hfiles, mentions, List.flatMap_append,
    List.flatMap_map, List.flatMap_map]
  exact congrArg (_ ++ ·) hkeys

theorem length_le_flatMap {α β : Type} (f : α → β) (g : α → List β) (xs : List α) :
    xs.length ≤ (xs.flatMap fun x => f x :: g x).length := by
  induction xs with
  | nil => exact Nat.le_refl _
  | cons x xs ih =>
    simp only [List.flatMap_cons, List.length_append, List.length_cons]
    omega

/-- Where each member of a list stands for one thing and some more, there is one thing for each
member exactly when there is nothing more. -/
theorem flatMap_eq_map_iff {α β : Type} {f : α → β} {g : α → List β} {xs : List α} :
    (xs.flatMap fun x => f x :: g x) = xs.map f ↔ ∀ x ∈ xs, g x = [] := by
  induction xs with
  | nil => simp
  | cons x xs ih =>
    simp only [List.flatMap_cons, List.map_cons, List.cons_append, List.cons.injEq, true_and,
      List.forall_mem_cons, ← ih]
    constructor
    · intro h
      have hlength := congrArg List.length h
      rw [List.length_append, List.length_map] at hlength
      have hrest := length_le_flatMap f g xs
      have hnothing : g x = [] := List.length_eq_zero_iff.mp (by omega)
      rw [hnothing] at h
      exact ⟨hnothing, h⟩
    · rintro ⟨hnothing, hrest⟩
      rw [hnothing]
      exact hrest

/-- The lines of some texts are the texts, where these are on one line. -/
theorem flatMap_splitOn (h : ∀ t ∈ texts, t.OneLine) :
    texts.flatMap (·.splitOn '\n') = texts := by
  have hsame : texts.flatMap (·.splitOn '\n') = texts.flatMap fun t => [t] :=
    List.flatMap_congr fun t ht => Text.splitOn_of_oneLine (h t ht)
  rw [hsame, List.flatMap_singleton']

theorem oneLine_hookLines (hhooks : ∀ hook ∈ hooks, hook.Bare)
    (hnames : ∀ hook ∈ hooks, hook.name.OneLine) :
    ∀ line ∈ hooks.flatMap HookFile.lines, line.OneLine := by
  intro line hline
  obtain ⟨hook, hhook, hline⟩ := List.mem_flatMap.mp hline
  rw [(hhooks hook hhook).lines_eq] at hline
  rcases List.mem_cons.mp hline with rfl | hline
  · have hsign : hook.assessment.level.sign.OneLine := by cases hook.assessment.level <;> decide
    simp only [headline, Text.oneLine_append]
    exact ⟨hsign, hnames hook hhook, by decide, by decide⟩
  · exact (hhooks hook hhook).oneLine_details line hline

theorem oneLine_inlineLines (hinline : ∀ entry ∈ inline, entry.2.Legible)
    (hkeys : ∀ entry ∈ inline, entry.1.OneLine) :
    ∀ line ∈ inline.flatMap fun entry => inlineLines entry.1 entry.2, line.OneLine := by
  intro line hline
  obtain ⟨entry, hentry, hline⟩ := List.mem_flatMap.mp hline
  rw [inlineLines_eq] at hline
  rcases List.mem_cons.mp hline with rfl | hline
  · have hsign : entry.2.level.sign.OneLine := by cases entry.2.level <;> decide
    simp only [inlineHeadline, Text.oneLine_append]
    exact ⟨hsign, hkeys entry hentry, by decide, ⟨by decide, Text.oneLine_ofNat _⟩, by decide⟩
  · obtain ⟨finding, hfinding, rfl⟩ := List.mem_map.mp hline
    exact oneLine_findingLine (hinline entry hentry finding hfinding)

theorem forall_mem_mentions {P : Text → Prop} :
    (∀ mention ∈ mentions hooks inline, P mention.1) ↔
      (∀ hook ∈ hooks, P hook.name) ∧ ∀ entry ∈ inline, P entry.1 := by
  rw [mentions, List.forall_mem_append, List.forall_mem_map, List.forall_mem_map]

/-- The lines about a hook are meant. -/
theorem subset_meantLines (hook : HookFile) (hhook : hook ∈ hooks) :
    hook.lines ⊆ meantLines hooks inline := by
  intro line hline
  have hsome : hooks.isEmpty = false := by simpa using List.ne_nil_of_mem hhook
  have hmem : line ∈ hooks.flatMap HookFile.lines := List.mem_flatMap_of_mem hhook hline
  simp [meantLines, hsome, hmem]

theorem inlineLines_subset_meantLines (entry : Text × Assessment) (hentry : entry ∈ inline) :
    inlineLines entry.1 entry.2 ⊆ meantLines hooks inline := by
  intro line hline
  have hsome : inline.isEmpty = false := by simpa using List.ne_nil_of_mem hentry
  have hmem : line ∈ inline.flatMap fun entry => inlineLines entry.1 entry.2 :=
    List.mem_flatMap_of_mem hentry hline
  simp [meantLines, hsome, hmem]

/-- **`splitOn_report_iff`** — a report has the lines that are meant exactly when all names are on
one line. -/
theorem splitOn_report_iff (hhooks : ∀ hook ∈ hooks, hook.Bare)
    (hinline : ∀ entry ∈ inline, entry.2.Legible) :
    (safetyReport hooks inline).splitOn '\n' = meantLines hooks inline ↔
      ∀ mention ∈ mentions hooks inline, mention.1.OneLine := by
  rw [forall_mem_mentions]
  constructor
  · intro h
    -- whatever is cut off at newlines holds none, and the meant lines hold the names
    have hmeant : ∀ line ∈ meantLines hooks inline, line.OneLine := by
      intro line hline
      rw [← h] at hline
      exact Text.oneLine_of_mem_splitOn hline
    constructor
    · intro hook hhook
      have hline := hmeant (headline hook) <| subset_meantLines hook hhook <| by
        rw [(hhooks hook hhook).lines_eq]
        exact List.mem_cons_self
      simp only [headline, Text.oneLine_append] at hline
      exact hline.2.1
    · intro entry hentry
      have hline := hmeant (inlineHeadline entry) <| inlineLines_subset_meantLines entry hentry <| by
        rw [inlineLines_eq]
        exact List.mem_cons_self
      simp only [inlineHeadline, Text.oneLine_append] at hline
      exact hline.2.1
  · rintro ⟨hnames, hkeys⟩
    have hfiles : (if hooks.isEmpty then [] else
        ("\n📄 File-based hooks:" : Text) :: hooks.flatMap HookFile.lines).flatMap
          (·.splitOn '\n') =
        if hooks.isEmpty then [] else [] :: "📄 File-based hooks:" :: hooks.flatMap HookFile.lines := by
      split
      · rfl
      · have hheading : ("\n📄 File-based hooks:" : Text).splitOn '\n' =
            [[], "📄 File-based hooks:"] := by decide +kernel
        rw [List.flatMap_cons, hheading, flatMap_splitOn (oneLine_hookLines hhooks hnames)]
        rfl
    have hentries : (if inline.isEmpty then [] else
        ("\n📝 Inline hooks:" : Text) :: inline.flatMap fun entry =>
          inlineLines entry.1 entry.2).flatMap (·.splitOn '\n') =
        if inline.isEmpty then [] else [] :: "📝 Inline hooks:" :: inline.flatMap fun entry =>
          inlineLines entry.1 entry.2 := by
      split
      · rfl
      · have hheading : ("\n📝 Inline hooks:" : Text).splitOn '\n' =
            [[], "📝 Inline hooks:"] := by decide +kernel
        rw [List.flatMap_cons, hheading, flatMap_splitOn (oneLine_inlineLines hinline hkeys)]
        rfl
    unfold safetyReport meantLines
    by_cases hnothing : (hooks.isEmpty && inline.isEmpty) = true
    · obtain ⟨rfl, rfl⟩ : hooks = [] ∧ inline = [] := by simpa using hnothing
      rfl
    · rw [if_neg hnothing, Text.splitOn_join, List.flatMap_append, hfiles]
      · exact congrArg (_ ++ ·) hentries
      · intro hnil
        refine hnothing ?_
        obtain ⟨hno, hnone⟩ := List.append_eq_nil_iff.mp hnil
        cases hooks <;> cases inline <;> simp_all

/-! ## Scanning -/

/-- **`Reached s`** — the states of the engine of a scanner that was only used where names are on
one line. -/
inductive Reached : State → Prop where
  | fresh (config : EngineConfig) : Reached { config }
  | call {s : State} (before : Reached s) (w : World) (legible : w.Legible)
      (operation : Operation) : Reached (operation.run w s).2.1
  | files {s : State} (before : Reached s) (w : World) (legible : w.Legible)
      (config : ScannerConfig) (paths : List Path) (event : Option Text)
      (lang : Option LanguageName) : Reached (scanFiles config Engine.scan paths event lang w s).2.1
  | settings {s : State} (before : Reached s) (w : World) (legible : w.Legible)
      (config : ScannerConfig) (settings : Json) :
      Reached (scanSettings config Engine.scan settings w s).2.1

/-- What is found in files has their names, and findings on single lines. -/
theorem scanFiles_upholds (config : ScannerConfig) (paths : List Path) (event : Option Text)
    (lang : Option LanguageName) :
    (scanFiles config Engine.scan paths event lang).Upholds fun hooks => ∀ hook ∈ hooks,
      (event = none → hook.Bare) ∧ ∃ path ∈ paths, hook.name = path.name := by
  refine .every fun path hpath => Upholds.files.bind fun files _ => ?_
  split
  · exact .fail _
  · exact (assess_upholds config _ _ lang).bind fun assessed h =>
      .pure ⟨fun hnone => ⟨hnone, rfl, h⟩, path, hpath, rfl⟩

/-- What is found in a settings document has findings on single lines, under the keys of its
places. -/
theorem scanSettings_upholds (config : ScannerConfig) (settings : Json) :
    (scanSettings config Engine.scan settings).Upholds fun entries => ∀ entry ∈ entries,
      entry.2.Legible ∧ ∃ found ∈ places settings, entry.1 = found.1.key := by
  cases settings with
  | obj members =>
    have heach : (each (fun hook : InlineHook => do
        let assessment ← scanHook config Engine.scan hook.content none (hook.lang.map .known)
        return (hook.key, assessment)) (inlineHooks (.obj members))).Upholds fun found =>
          ∀ entry ∈ found, entry.2.Legible ∧ ∃ found ∈ places (.obj members),
            entry.1 = found.1.key := by
      refine .each fun hook hhook => ?_
      rw [inlineHooks_eq] at hhook
      obtain ⟨found, hfound, rfl⟩ := List.mem_map.mp hhook
      have hscan : (scanHook config Engine.scan found.2 none
          (found.1.lang.map .known)).Upholds Assessment.Legible :=
        (assess_upholds config _ none _).bind fun _ h => .pure h
      exact hscan.bind fun a h => .pure ⟨h, found, hfound, rfl⟩
    exact heach.bind fun found h => .pure fun entry hentry => h entry (mem_of_mem_entriesOf hentry)
  | _ => exact .fail _

/-- **`Reached.watched`** — such an engine holds nothing but names on one line. -/
theorem Reached.watched {s : State} (h : Reached s) {w : World} (hw : w.Legible) : Watched w s := by
  induction h generalizing w with
  | fresh config => exact ⟨hw, .fresh config, .fresh config⟩
  | call before world legible operation ih =>
    have hs := ih legible
    have hhistory : ∀ call ∈ [Call.mk world operation], call.world.Legible := by simpa using legible
    exact ⟨hw, hs.sound.run world operation, hs.state.after hs.sound hhistory⟩
  | files before world legible config paths event lang ih =>
    obtain ⟨hs, -⟩ := scanFiles_upholds config paths event lang world _ (ih legible)
    exact ⟨hw, hs.sound, hs.state⟩
  | settings before world legible config settings ih =>
    obtain ⟨hs, -⟩ := scanSettings_upholds config settings world _ (ih legible)
    exact ⟨hw, hs.sound, hs.state⟩

/-- The key of a place is on one line if its event is. -/
theorem oneLine_key {place : Place} (h : place.event.OneLine) : place.key.OneLine := by
  cases place with
  | code event index =>
    simp only [Place.key, position, Text.oneLine_append]
    exact ⟨⟨⟨⟨h, by decide⟩, Text.oneLine_ofNat _⟩, by decide⟩, by decide⟩
  | nestedCode event index nested =>
    simp only [Place.key, position, Text.oneLine_append]
    exact ⟨⟨⟨⟨⟨⟨⟨⟨h, by decide⟩, Text.oneLine_ofNat _⟩, by decide⟩, by decide⟩, by decide⟩,
      Text.oneLine_ofNat _⟩, by decide⟩, by decide⟩
  | nestedCommand event index nested =>
    simp only [Place.key, position, Text.oneLine_append]
    exact ⟨⟨⟨⟨⟨⟨⟨⟨h, by decide⟩, Text.oneLine_ofNat _⟩, by decide⟩, by decide⟩, by decide⟩,
      Text.oneLine_ofNat _⟩, by decide⟩, by decide⟩

theorem forged_of_oneLine (h : name.OneLine) : forged name = [] := by
  unfold forged
  rw [Text.splitOn_of_oneLine (Text.oneLine_append.mpr ⟨h, by decide⟩)]
  rfl

/-- **`report_announces_its_hooks`** — take what a scan finds in files, with no event given, and what
one finds in a settings document, and the report on both.  The hooks that its lines announce are
the ones it is about, each once and in order, exactly when no name forges any; and it has the lines
that are meant exactly when all names are on one line.  So it is when no file and no event has a
name with a newline. -/
theorem report_announces_its_hooks {w₁ w₂ : World} {s₁ s₂ : State}
    (config₁ config₂ : ScannerConfig) (paths : List Path) (lang : Option LanguageName)
    (settings : Json) (hw₁ : w₁.Legible) (hs₁ : Reached s₁) (hw₂ : w₂.Legible) (hs₂ : Reached s₂)
    (hfiles : (scanFiles config₁ Engine.scan paths none lang w₁ s₁).1 = .ok hooks)
    (hsettings : (scanSettings config₂ Engine.scan settings w₂ s₂).1 = .ok inline) :
    let report := safetyReport hooks inline
    let hooksMeant := mentions hooks inline
    (announced report = hooksMeant.map (·.2) ↔ ∀ mention ∈ hooksMeant, forged mention.1 = []) ∧
    (report.splitOn '\n' = meantLines hooks inline ↔
      ∀ mention ∈ hooksMeant, mention.1.OneLine) ∧
    ((∀ path ∈ paths, path.name.OneLine) → (∀ event ∈ eventNames settings, event.OneLine) →
      announced report = hooksMeant.map (·.2) ∧ report.splitOn '\n' = meantLines hooks inline) := by
  intro report hooksMeant
  obtain ⟨-, hfound⟩ := scanFiles_upholds config₁ paths none lang w₁ s₁ (hs₁.watched hw₁)
  obtain ⟨-, hentries⟩ := scanSettings_upholds config₂ settings w₂ s₂ (hs₂.watched hw₂)
  replace hfound := hfound hooks hfiles
  replace hentries := hentries inline hsettings
  have hbare : ∀ hook ∈ hooks, hook.Bare := fun hook hhook => (hfound hook hhook).1 rfl
  have hlegible : ∀ entry ∈ inline, entry.2.Legible := fun entry hentry => (hentries entry hentry).1
  have hannounced : announced report = hooksMeant.map (·.2) ↔
      ∀ mention ∈ hooksMeant, forged mention.1 = [] := by
    rw [← flatMap_eq_map_iff, ← announced_report hbare hlegible]
  have hlines := splitOn_report_iff hbare hlegible
  refine ⟨hannounced, hlines, fun hpaths hevents => ?_⟩
  have hnames : ∀ mention ∈ hooksMeant, mention.1.OneLine := by
    refine forall_mem_mentions.mpr ⟨fun hook hhook => ?_, fun entry hentry => ?_⟩
    · obtain ⟨path, hpath, hname⟩ := (hfound hook hhook).2
      exact hname ▸ hpaths path hpath
    · obtain ⟨found, hplace, hkey⟩ := (hentries entry hentry).2
      exact hkey ▸ oneLine_key (hevents _ (event_mem_of_mem_places hplace))
  exact ⟨hannounced.mpr fun mention hmention => forged_of_oneLine (hnames mention hmention),
    hlines.mpr hnames⟩

/-- Files with a shell hook, in the world in which everything is installed. -/
def oneShellHook : World :=
  installed { tree := .directory [("stop.sh", .file (Text.encode "eval \"$1\""))] } []

/-- A settings document with one hook, of an event whose name is on two lines. -/
def twoLineEvent : Json :=
  .obj [("hooks", .obj [("Stop\nStart", .arr [.obj [("code", .str "token")]])])]

/-- A name on two lines may add a line that announces nothing: both hooks are announced, and the
lines are not the meant ones. -/
theorem two_line_event_announces_nothing :
    ∃ hooks inline,
      (scanFiles {} Engine.scan [.ofText "stop.sh"] none none oneShellHook { config := {} }).1 =
        .ok hooks ∧
      (scanSettings {} Engine.scan twoLineEvent oneShellHook { config := {} }).1 = .ok inline ∧
      announced (safetyReport hooks inline) = [.warning, .warning] ∧
      (safetyReport hooks inline).splitOn '\n' ≠ meantLines hooks inline := by
  have hworld : oneShellHook.Legible := installed_legible _ _
  obtain ⟨hannounced, hlines, -⟩ := report_announces_its_hooks {} {} [.ofText "stop.sh"] none
    twoLineEvent hworld (.fresh {}) hworld (.fresh {}) rfl rfl
  refine ⟨_, _, rfl, rfl, ?_, mt hlines.mp (by decide +kernel)⟩
  rw [hannounced.mpr (by decide +kernel)]
  decide +kernel

/-- A settings document with one hook, of an event whose name goes on like the line of a hook. -/
def forgingEvent : Json :=
  .obj [("hooks", .obj [("x\n  ✅ y", .arr [.obj [("code", .str "")]])])]

/-- **`event_name_forges_a_hook`** — there is one hook, and the report announces two. -/
theorem event_name_forges_a_hook :
    ∃ inline, (scanFiles {} Engine.scan [] none none (installed {} []) { config := {} }).1 =
        .ok [] ∧
      (scanSettings {} Engine.scan forgingEvent (installed {} []) { config := {} }).1 =
        .ok inline ∧
      inline.length = 1 ∧ announced (safetyReport [] inline) = [.safe, .safe] :=
  ⟨_, rfl, rfl, rfl, by decide +kernel⟩

end Scanner

end HookAudit
