/-
# HookAudit.Proofs.Scanner.Gate — which hooks are given to the engine.

The size of a hook decides, and it is counted in octets, code point by code point.  Above the limit
a run is the same whatever the engine would do (`scanHook_above_limit`).  Within the limit it is the
run of the engine on the very hook, with its answer turned into an assessment
(`scanHook_within_limit`); nothing else happens in it, so an engine that notes what it is asked
notes this hook once.  A hook file is marked as analysed where its hook was within the limit and the
engine, when the turn of the file came, had an opinion.
-/
import HookAudit.Engine.Installed
import HookAudit.Proofs.Engine.Attempts
import HookAudit.Proofs.Text.Utf8
import HookAudit.Scanner.Hook

namespace HookAudit

open Engine Action

/-! ## Turns -/

namespace Engine.Action

variable {w : World} {s : State} {α β : Type} {act : α → Action β}

/-- The members of a list, each with the state in which its turn comes when all are tried in
order. -/
def turns (act : α → Action β) (w : World) : State → List α → List (α × State)
  | _, [] => []
  | s, a :: rest => (a, s) :: turns act w (act a w s).2.1 rest

theorem map_fst_turns (act : α → Action β) (w : World) (s : State) (xs : List α) :
    (turns act w s xs).map (·.1) = xs := by
  induction xs generalizing s with
  | nil => rfl
  | cons a rest ih => rw [turns, List.map_cons, ih]

/-- **`answer_every`** — trying all answers as going through the turns does. -/
theorem answer_every (act : α → Action β) (w : World) (s : State) (xs : List α) :
    (every act xs w s).1 = (turns act w s xs).mapM fun turn => (act turn.1 w turn.2).1 := by
  induction xs generalizing s with
  | nil => rfl
  | cons a rest ih =>
    rw [turns, List.mapM_cons, ← ih]
    simp only [every, Bind.bind, Action.bind, attempt]
    cases (act a w s).1 <;> cases (every act rest w (act a w s).2.1).1 <;> rfl

/-- Turning an answer into another changes nothing else in a run. -/
theorem returning_eq (act : Action α) (f : α → β) (w : World) (s : State) :
    (act >>= fun a => Pure.pure (f a)) w s = ((act w s).1.map f, (act w s).2) := by
  show Action.bind act (fun a => Action.pure (f a)) w s = _
  unfold Action.bind Action.pure
  rcases act w s with ⟨_ | a, s', trace⟩
  · rfl
  · exact congrArg (fun t => (_, s', t)) (Trace.append_nothing trace)

end Engine.Action

namespace Scanner

variable {config : ScannerConfig} {analyst : Analyst} {content : Text} {filename : Option Text}
  {lang : Option LanguageName} {w : World} {s : State}

/-! ## Within the limit and above it -/

/-- What is said of a hook above the limit. -/
def oversizedNote (config : ScannerConfig) (filename : Option Text) : LogEntry :=
  ⟨.info, scannerSource, "Hook " ++ displayName filename ++ " exceeds " ++
    Text.ofInt config.maxContentBytes ++ " bytes; using heuristic scan only"⟩

/-- What is made of the opinion on a hook, and whether there was one. -/
def conclude (content : Text) : Outcome → Assessment × Bool
  | .noOpinion _ _ => (Heuristics.scan content, false)
  | .assessed a => (a.merge (Heuristics.scan content), true)

/-- **`assess_above_limit`** — above the limit nothing happens but a message. -/
theorem assess_above_limit (h : config.maxContentBytes < Text.encodedLength content) :
    assess config analyst content filename lang w s =
      (.ok (Heuristics.scan content, false), s, ⟨[], [oversizedNote config filename]⟩) := by
  unfold assess
  simp only [if_pos h]
  rfl

/-- **`assess_within_limit`** — within the limit nothing happens but what the analyst does. -/
theorem assess_within_limit (h : Text.encodedLength content ≤ config.maxContentBytes) :
    assess config analyst content filename lang w s =
      ((analyst content lang filename w s).1.map (conclude content),
        (analyst content lang filename w s).2) := by
  rw [← returning_eq]
  unfold assess
  simp only [if_neg (Int.not_lt.mpr h)]
  congr! 2 with outcome
  cases outcome <;> rfl

theorem scanHook_eq :
    scanHook config analyst content filename lang w s =
      ((assess config analyst content filename lang w s).1.map (·.1),
        (assess config analyst content filename lang w s).2) :=
  returning_eq _ _ w s

theorem scanHook_above_limit (h : config.maxContentBytes < Text.encodedLength content) :
    scanHook config analyst content filename lang w s =
      (.ok (Heuristics.scan content), s, ⟨[], [oversizedNote config filename]⟩) := by
  rw [scanHook_eq, assess_above_limit h]
  rfl

theorem scanHook_within_limit (h : Text.encodedLength content ≤ config.maxContentBytes) :
    scanHook config analyst content filename lang w s =
      ((analyst content lang filename w s).1.map fun outcome => (conclude content outcome).1,
        (analyst content lang filename w s).2) := by
  rw [scanHook_eq, assess_within_limit h]
  cases (analyst content lang filename w s).1 <;> rfl

/-! ## Noting what is asked -/

/-- An analyst that notes what he is asked in his trace, whenever he is asked. -/
def Analyst.noting (note : Text → Option LanguageName → Option Text → Trace) (analyst : Analyst) :
    Analyst := fun content lang filename w s =>
  let (answer, s', trace) := analyst content lang filename w s
  (answer, s', note content lang filename ++ trace)

/-! ## Hook files -/

/-- **`Judged config content asked assessment analyzed`** — what the assessment of a hook is and
whether it counts as analysed, where `asked` is what comes of asking the analyst. -/
inductive Judged (config : ScannerConfig) (content : Text) (asked : Except Fault Outcome) :
    Assessment → Bool → Prop where
  | oversized (size : config.maxContentBytes < Text.encodedLength content) :
      Judged config content asked (Heuristics.scan content) false
  | silent {reason : NoOpinion} {detail : Text}
      (size : Text.encodedLength content ≤ config.maxContentBytes)
      (answer : asked = .ok (.noOpinion reason detail)) :
      Judged config content asked (Heuristics.scan content) false
  | analyzed {a : Assessment} (size : Text.encodedLength content ≤ config.maxContentBytes)
      (answer : asked = .ok (.assessed a)) :
      Judged config content asked (a.merge (Heuristics.scan content)) true

theorem Judged.analyzed_iff {asked : Except Fault Outcome} {assessment : Assessment}
    {analyzed : Bool} (h : Judged config content asked assessment analyzed) :
    analyzed = true ↔ Text.encodedLength content ≤ config.maxContentBytes ∧
      ∃ a, asked = .ok (.assessed a) ∧ assessment = a.merge (Heuristics.scan content) := by
  cases h with
  | oversized size => simp [Int.not_le.mpr size]
  | silent size answer => simp [answer]
  | analyzed size answer => simp [size, answer]

theorem Judged.eq_scan {asked : Except Fault Outcome} {assessment : Assessment}
    (h : Judged config content asked assessment false) : assessment = Heuristics.scan content := by
  cases h <;> rfl

theorem assess_eq_ok_iff {assessment : Assessment} {analyzed : Bool} :
    (assess config analyst content filename lang w s).1 = .ok (assessment, analyzed) ↔
      Judged config content (analyst content lang filename w s).1 assessment analyzed := by
  rcases Int.lt_or_le config.maxContentBytes (Text.encodedLength content) with hsize | hsize
  · rw [assess_above_limit hsize]
    constructor
    · rintro ⟨⟩
      exact .oversized hsize
    · rintro (_ | ⟨hfits, _⟩ | ⟨hfits, _⟩)
      · rfl
      all_goals exact absurd hfits (Int.not_le.mpr hsize)
  · rw [assess_within_limit hsize]
    constructor
    · intro h
      cases hasked : (analyst content lang filename w s).1 with
      | error e =>
        rw [hasked] at h
        cases h
      | ok outcome =>
        rw [hasked] at h
        cases outcome <;> cases h
        · exact .analyzed hsize rfl
        · exact .silent hsize rfl
    · rintro (hlarge | ⟨_, hasked⟩ | ⟨_, hasked⟩)
      · exact absurd hsize (Int.not_le.mpr hlarge)
      all_goals
        rw [hasked]
        rfl

/-- **`MadeOf config analyst eventType lang w path s hook`** — what comes of a hook file whose turn
comes in a state. -/
structure MadeOf (config : ScannerConfig) (analyst : Analyst) (eventType : Option Text)
    (lang : Option LanguageName) (w : World) (path : Path) (s : State) (hook : HookFile) :
    Prop where
  content : w.files.textLossy path = .ok hook.content
  name : hook.name = path.name
  eventType : hook.eventType = eventType
  description : hook.description = none
  judged : Judged config hook.content (analyst hook.content lang (some path.name) w s).1
    hook.assessment hook.analyzed

theorem scanFile_readable {path : Path} (h : w.files.textLossy path = .ok content)
    (eventType : Option Text) :
    scanFile config analyst eventType lang path w s =
      ((assess config analyst content (some path.name) lang w s).1.map fun found =>
          { name := path.name, content, assessment := found.1, eventType, analyzed := found.2 },
        (assess config analyst content (some path.name) lang w s).2) := by
  rw [← returning_eq]
  unfold scanFile
  simp only [Bind.bind, Action.bind, files, h]
  rfl

theorem scanFile_eq_ok_iff {eventType : Option Text} {path : Path} {hook : HookFile} :
    (scanFile config analyst eventType lang path w s).1 = .ok hook ↔
      MadeOf config analyst eventType lang w path s hook := by
  cases hread : w.files.textLossy path with
  | error e =>
    have hfails : (scanFile config analyst eventType lang path w s).1 =
        .error (.unreadableHook path.toText (e.reason path.toText)) := by
      unfold scanFile
      simp only [Bind.bind, Action.bind, files, hread]
      rfl
    rw [hfails]
    constructor
    · rintro ⟨⟩
    · intro h
      cases hread.symm.trans h.content
  | ok content =>
    rw [scanFile_readable hread]
    constructor
    · intro h
      cases hassess : (assess config analyst content (some path.name) lang w s).1 with
      | error e =>
        rw [hassess] at h
        cases h
      | ok found =>
        rw [hassess] at h
        cases h
        exact ⟨hread, rfl, rfl, rfl, assess_eq_ok_iff.mp hassess⟩
    · rintro ⟨hcontent, hname, hevent, hdescription, hjudged⟩
      obtain ⟨name, content', assessment, event, description, analyzed⟩ := hook
      cases hread.symm.trans hcontent
      subst hname hevent hdescription
      rw [assess_eq_ok_iff.mpr hjudged]
      rfl

/-- **`scanFiles_eq_ok_iff`** — the hooks of a list of files are made of the files, each at its
turn. -/
theorem scanFiles_eq_ok_iff {eventType : Option Text} {paths : List Path} {hooks : List HookFile} :
    (scanFiles config analyst paths eventType lang w s).1 = .ok hooks ↔
      List.Forall₂ (fun turn hook => MadeOf config analyst eventType lang w turn.1 turn.2 hook)
        (turns (scanFile config analyst eventType lang) w s paths) hooks := by
  unfold scanFiles
  rw [answer_every, mapM_eq_ok_iff]
  simp only [scanFile_eq_ok_iff]

/-- Where all files can be read and the analyst never fails, every file gets its hook. -/
theorem exists_scanFiles {eventType : Option Text} {paths : List Path}
    (hread : ∀ path ∈ paths, ∃ content, w.files.textLossy path = .ok content)
    (hcalm : ∀ content filename s, ∃ outcome, (analyst content lang filename w s).1 = .ok outcome) :
    ∃ hooks, (scanFiles config analyst paths eventType lang w s).1 = .ok hooks := by
  have hturn : ∀ turn ∈ turns (scanFile config analyst eventType lang) w s paths,
      ∃ hook, (scanFile config analyst eventType lang turn.1 w turn.2).1 = .ok hook := by
    rintro ⟨path, s'⟩ hturn
    have hpath : path ∈ paths := by
      rw [← map_fst_turns (scanFile config analyst eventType lang) w s paths]
      exact List.mem_map_of_mem hturn
    obtain ⟨content, hcontent⟩ := hread path hpath
    rw [scanFile_readable hcontent]
    rcases Int.lt_or_le config.maxContentBytes (Text.encodedLength content) with hsize | hsize
    · rw [assess_above_limit hsize]
      exact ⟨_, rfl⟩
    · obtain ⟨outcome, houtcome⟩ := hcalm content (some path.name) s'
      rw [assess_within_limit hsize, houtcome]
      exact ⟨_, rfl⟩
  obtain ⟨hooks, hhooks, -⟩ := exists_mapM_eq_ok hturn
  exact ⟨hooks, (answer_every _ w s paths).trans hhooks⟩

/-- **`size_limit_gates_the_analyst`** — the size of a hook is the number of octets of its code
points, one for a surrogate.  Above the limit the run of the scanner is one and the same for all
analysts, with the heuristics for an answer whatever the hook and its language are called.  Within
the limit it is the run of the analyst on this hook with its answer concluded, in which the analyst
is asked once.  Of the files of a list, each with its turn, those are marked as analysed that are
within the limit and on which the analyst, at their turn, has an opinion. -/
theorem size_limit_gates_the_analyst (config : ScannerConfig) (content : Text)
    (filename : Option Text) (lang : Option LanguageName) (w : World) (s : State) :
    let size (t : Text) : Int := sumOf CodePoint.octetCount t
    (config.maxContentBytes < size content → ∀ analyst,
      scanHook config analyst content filename lang w s =
        (.ok (Heuristics.scan content), s, ⟨[], [oversizedNote config filename]⟩)) ∧
    (size content ≤ config.maxContentBytes → ∀ analyst,
      scanHook config analyst content filename lang w s =
        ((analyst content lang filename w s).1.map fun outcome => (conclude content outcome).1,
          (analyst content lang filename w s).2) ∧
      ∀ note, (scanHook config (analyst.noting note) content filename lang w s).2.2 =
        note content lang filename ++ (scanHook config analyst content filename lang w s).2.2) ∧
    ∀ (analyst : Analyst) (eventType : Option Text) (paths : List Path),
      (∀ hooks, (scanFiles config analyst paths eventType lang w s).1 = .ok hooks ↔
        List.Forall₂ (fun turn hook => MadeOf config analyst eventType lang w turn.1 turn.2 hook)
          (turns (scanFile config analyst eventType lang) w s paths) hooks) ∧
      (∀ path s' hook, MadeOf config analyst eventType lang w path s' hook →
        (hook.analyzed = true ↔ size hook.content ≤ config.maxContentBytes ∧
          ∃ a, (analyst hook.content lang (some path.name) w s').1 = .ok (.assessed a) ∧
            hook.assessment = a.merge (Heuristics.scan hook.content)) ∧
        (hook.analyzed = false → hook.assessment = Heuristics.scan hook.content)) ∧
      ((∀ path ∈ paths, ∃ content, w.files.textLossy path = .ok content) →
        (∀ content filename s',
          ∃ outcome, (analyst content lang filename w s').1 = .ok outcome) →
        ∃ hooks, (scanFiles config analyst paths eventType lang w s).1 = .ok hooks) := by
  intro size
  have hsize : ∀ t : Text, size t = Text.encodedLength t := fun t =>
    congrArg Int.ofNat (Text.encodedLength_eq t).symm
  simp only [hsize]
  refine ⟨fun hlarge analyst => scanHook_above_limit hlarge, fun hfits analyst => ?within,
    fun analyst eventType paths => ⟨fun hooks => scanFiles_eq_ok_iff, ?marked, exists_scanFiles⟩⟩
  case within =>
    refine ⟨scanHook_within_limit hfits, fun note => ?_⟩
    rw [scanHook_within_limit hfits, scanHook_within_limit hfits]
    rfl
  case marked =>
    intro path s' hook hmade
    refine ⟨hmade.judged.analyzed_iff, fun hsilent => ?_⟩
    have hjudged := hmade.judged
    rw [hsilent] at hjudged
    exact hjudged.eq_scan

/-- With a limit of one octet the engine is not asked about a letter of two, so that it does not
matter what the language is called; it is asked about a lone surrogate, and refuses the name. -/
theorem surrogate_is_within_one_octet :
    let config : ScannerConfig := { maxContentBytes := 1 }
    let lang : Option LanguageName := some (.written "none such")
    (∀ analyst, (scanHook config analyst "é" none lang (installed {} []) { config := {} }).1 =
        .ok (Heuristics.scan "é")) ∧
      (scanHook config Engine.scan [CodePoint.ofNat 0xD800] none lang (installed {} [])
        { config := {} }).1 = .error (.language (.unsupported "none such")) := by
  intro config lang
  obtain ⟨hlarge, -, -⟩ :=
    size_limit_gates_the_analyst config "é" none lang (installed {} []) { config := {} }
  obtain ⟨-, hfits, -⟩ := size_limit_gates_the_analyst config [CodePoint.ofNat 0xD800] none lang
    (installed {} []) { config := {} }
  refine ⟨fun analyst => congrArg Prod.fst (hlarge (by decide) analyst), ?_⟩
  exact (congrArg Prod.fst (hfits (by decide) Engine.scan).1).trans rfl

end Scanner

end HookAudit
