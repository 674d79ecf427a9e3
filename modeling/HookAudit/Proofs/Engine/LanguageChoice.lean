/-
# HookAudit.Proofs.Engine.LanguageChoice — in which language a hook is analysed.

A request may say which language its hook is in.  What it says is taken, or refused when it is no
name of a language; only where it says nothing does the file name decide, and only where that does
not, the first line of the hook.  `Chosen` lists the ways, and a call to the engine goes exactly one
of them or is refused (`languageOf_eq_ok_iff`, `languageOf_eq_error_iff`).

Neither refusing a name nor finding no language takes anything from the world, so both leave the
engine as it is.  Once a language is chosen nothing is left of the way it was, and calls that
choose alike answer alike (`language_choice_is_strict`).
-/
import HookAudit.Engine.Installed
import HookAudit.Proofs.Engine.Alone
import HookAudit.Proofs.Entries
import HookAudit.Proofs.Scanner.Hook

namespace HookAudit

open Engine Action

/-! ## Names -/

namespace Language

variable {key written : Text} {filename : Option Text} {lang : Language} {e : LanguageError}

/-- **`Named written lang`** — what is written, without white space around it and in lower case, is
the name of the language or one of its short names. -/
def Named (written : Text) (lang : Language) : Prop :=
  written.strip.lower = lang.name ∨ (written.strip.lower, lang) ∈ aliases

/-- **`EndsFilename filename lang`** — the file name has an extension of the language, in any letter
case. -/
def EndsFilename (filename : Option Text) (lang : Language) : Prop :=
  ∃ name, filename = some name ∧ ((Path.ofText name).suffix.lower, lang) ∈ extensions

theorem ofName?_eq_some_iff : ofName? key = some lang ↔ key = lang.name := by
  constructor
  · intro h
    have hname := List.find?_some h
    exact (beq_iff_eq.mp hname).symm
  · rintro rfl
    cases lang <;> rfl

theorem lookup_aliases_eq_some_iff : aliases.lookup key = some lang ↔ (key, lang) ∈ aliases :=
  lookup_eq_some_iff_of_nodup (by decide)

/-- No name is a short name of another language. -/
theorem lookup_aliases_name (lang : Language) : aliases.lookup lang.name = none := by
  cases lang <;> rfl

/-- **`parse_eq_ok_iff`** — what is written is read as the language that it names. -/
theorem parse_eq_ok_iff : parse written = .ok lang ↔ Named written lang := by
  unfold parse Named
  dsimp only
  rw [← ofName?_eq_some_iff, ← lookup_aliases_eq_some_iff]
  cases halias : aliases.lookup written.strip.lower with
  | some found =>
    have hnoName : ofName? written.strip.lower ≠ some lang := by
      intro hname
      rw [ofName?_eq_some_iff.mp hname, lookup_aliases_name] at halias
      cases halias
    simp [hnoName]
  | none => cases ofName? written.strip.lower <;> simp

theorem parse_eq_error_iff :
    parse written = .error e ↔ (∀ lang, ¬ Named written lang) ∧ e = .unsupported written := by
  simp only [← parse_eq_ok_iff]
  unfold parse
  dsimp only
  cases aliases.lookup written.strip.lower with
  | some found => simp
  | none => cases ofName? written.strip.lower <;> simp [eq_comm]

theorem ofFilename?_eq_some_iff :
    ofFilename? filename = some lang ↔ EndsFilename filename lang := by
  have hlookup : ∀ name : Text, extensions.lookup (Path.ofText name).suffix.lower = some lang ↔
      EndsFilename (some name) lang := by
    intro name
    rw [lookup_eq_some_iff_of_nodup (by decide)]
    simp [EndsFilename]
  match filename with
  | none => simp [ofFilename?, EndsFilename]
  | some [] =>
    -- an empty name is not looked up, and would not be found
    rw [← hlookup]
    rfl
  | some (c :: rest) => exact hlookup (c :: rest)

theorem ofFilename?_eq_none_iff :
    ofFilename? filename = none ↔ ∀ other, ¬ EndsFilename filename other := by
  simp only [← ofFilename?_eq_some_iff, Option.eq_none_iff_forall_ne_some, ne_eq]

end Language

namespace Engine

variable {content : Text} {requested : Option LanguageName} {filename : Option Text}
  {lang : Language} {lang? : Option Language} {e : LanguageError} {w : World} {s : State}
  {config : EngineConfig}

/-! ## The choice -/

/-- **`Chosen content filename requested lang?`** — the language that a request leads to, if any:
the one it asks for, else that of the file name, else that of the first line. -/
inductive Chosen (content : Text) (filename : Option Text) :
    Option LanguageName → Option Language → Prop where
  | known (lang : Language) : Chosen content filename (some (.known lang)) (some lang)
  | named {written : Text} {lang : Language} (names : Language.Named written lang) :
      Chosen content filename (some (.written written)) (some lang)
  | byExtension {lang : Language} (ends : Language.EndsFilename filename lang) :
      Chosen content filename none (some lang)
  | byFirstLine {lang : Language} (noExtension : ∀ other, ¬ Language.EndsFilename filename other)
      (line : Language.ofShebang? content = some lang) : Chosen content filename none (some lang)
  | undecided (noExtension : ∀ other, ¬ Language.EndsFilename filename other)
      (line : Language.ofShebang? content = none) : Chosen content filename none none

/-- **`Refused requested e`** — a request asks for something that is no language. -/
def Refused (requested : Option LanguageName) (e : LanguageError) : Prop :=
  ∃ written, requested = some (.written written) ∧ (∀ lang, ¬ Language.Named written lang) ∧
    e = .unsupported written

/-- A written name decides, one way or the other. -/
theorem languageOf_written (content : Text) (filename : Option Text) (written : Text) :
    languageOf content (some (.written written)) filename = (Language.parse written).map some := by
  unfold languageOf
  show Except.bind ((Language.parse written).map some) _ = _
  cases Language.parse written <;> rfl

/-- Without a name the file name decides, and where it does not, the first line. -/
theorem languageOf_none (content : Text) (filename : Option Text) :
    languageOf content none filename =
      .ok ((Language.ofFilename? filename).or (Language.ofShebang? content)) := by
  unfold languageOf
  show Except.bind (.ok (Language.ofFilename? filename)) _ = _
  cases Language.ofFilename? filename <;> rfl

/-- **`languageOf_eq_ok_iff`** — a language is found, or found to be missing, in the ways listed. -/
theorem languageOf_eq_ok_iff :
    languageOf content requested filename = .ok lang? ↔
      Chosen content filename requested lang? := by
  cases requested with
  | none =>
    rw [languageOf_none]
    constructor
    · rintro ⟨⟩
      cases hext : Language.ofFilename? filename with
      | some lang => exact .byExtension (Language.ofFilename?_eq_some_iff.mp hext)
      | none =>
        have hnone := Language.ofFilename?_eq_none_iff.mp hext
        rw [Option.none_or]
        cases hline : Language.ofShebang? content with
        | some lang => exact .byFirstLine hnone hline
        | none => exact .undecided hnone hline
    · rintro (_ | _ | hends | ⟨hnone, hline⟩ | ⟨hnone, hline⟩)
      · rw [Language.ofFilename?_eq_some_iff.mpr hends, Option.some_or]
      all_goals rw [Language.ofFilename?_eq_none_iff.mpr hnone, hline, Option.none_or]
  | some name =>
    cases name with
    | known known =>
      constructor
      · rintro ⟨⟩
        exact .known known
      · rintro ⟨⟩
        rfl
    | written written =>
      rw [languageOf_written]
      constructor
      · intro h
        cases hparse : Language.parse written with
        | error e =>
          rw [hparse] at h
          cases h
        | ok lang =>
          rw [hparse] at h
          cases h
          exact .named (Language.parse_eq_ok_iff.mp hparse)
      · rintro ⟨⟩
        rename_i lang hnames
        rw [Language.parse_eq_ok_iff.mpr hnames]
        rfl

/-- **`languageOf_eq_error_iff`** — nothing but a written name is refused, whatever the hook is and
its file is called. -/
theorem languageOf_eq_error_iff :
    languageOf content requested filename = .error e ↔ Refused requested e := by
  cases requested with
  | none =>
    rw [languageOf_none]
    simp [Refused]
  | some name =>
    cases name with
    | known known =>
      have hknown : languageOf content (some (.known known)) filename = .ok (some known) := rfl
      rw [hknown]
      simp [Refused]
    | written written =>
      have hmap : (Language.parse written).map some = .error e ↔
          Language.parse written = .error e := by
        cases Language.parse written <;> simp [Except.map]
      rw [languageOf_written, hmap, Language.parse_eq_error_iff]
      simp [Refused]

/-- A request is refused, or it leads to a language or to none. -/
theorem refused_or_chosen (content : Text) (requested : Option LanguageName)
    (filename : Option Text) :
    (∃ e, Refused requested e) ∨ ∃ lang?, Chosen content filename requested lang? := by
  cases h : languageOf content requested filename with
  | error e => exact .inl ⟨e, languageOf_eq_error_iff.mp h⟩
  | ok lang? => exact .inr ⟨lang?, languageOf_eq_ok_iff.mp h⟩

/-! ## What comes of it -/

theorem scan_of_refused (h : Refused requested e) (content : Text) (filename : Option Text) :
    scan content requested filename = fail (.language e) := by
  unfold scan
  rw [languageOf_eq_error_iff.mpr h]

theorem scan_of_undecided (h : Chosen content filename requested none) :
    scan content requested filename =
      Pure.pure (.noOpinion .unsupportedLanguage
        ("cannot determine language of " ++ displayName filename)) := by
  unfold scan
  rw [languageOf_eq_ok_iff.mpr h]

theorem scan_of_chosen (h : Chosen content filename requested (some lang)) :
    scan content requested filename = scanRequest content (some lang) :=
  scan_eq_scanRequest (languageOf_eq_ok_iff.mpr h)

/-- Nothing is said against the language of a request once it is chosen. -/
theorem scanRequest_not_about_language (hs : Sound s) (w : World) (content : Text)
    (lang : Language) :
    (∀ e, (scanRequest content (some lang) w s).1 ≠ .error (.language e)) ∧
      ∀ detail, (scanRequest content (some lang) w s).1 ≠
        .ok (.noOpinion .unsupportedLanguage detail) := by
  have hstep : RequestStep w s content lang _ _ _ := scanRequest_ends hs content
  constructor
  · intro e herror
    rw [herror] at hstep
    obtain ⟨failure, hfailure⟩ := hstep.outside
    cases hfailure
  · intro detail hanswer
    generalize (scanRequest content (some lang) w s).1 = r at hstep hanswer
    cases hstep <;> cases hanswer

/-- **`scan_eq_refusal_iff`** — a sound engine refuses a language exactly where what is asked for is
none. -/
theorem scan_eq_refusal_iff (hs : Sound s) :
    (scan content requested filename w s).1 = .error (.language e) ↔ Refused requested e := by
  constructor
  · intro h
    rcases refused_or_chosen content requested filename with ⟨e', hrefused⟩ | ⟨_ | lang, hchosen⟩
    · rw [scan_of_refused hrefused] at h
      cases h
      exact hrefused
    · rw [scan_of_undecided hchosen] at h
      cases h
    · rw [scan_of_chosen hchosen] at h
      exact absurd h ((scanRequest_not_about_language hs w content lang).1 e)
  · intro h
    rw [scan_of_refused h]
    rfl

/-- **`scan_eq_undecided_iff`** — it finds a language unsupported exactly where none is chosen. -/
theorem scan_eq_undecided_iff (hs : Sound s) :
    (∃ detail, (scan content requested filename w s).1 =
        .ok (.noOpinion .unsupportedLanguage detail)) ↔
      Chosen content filename requested none := by
  constructor
  · rintro ⟨detail, h⟩
    rcases refused_or_chosen content requested filename with ⟨e, hrefused⟩ | ⟨_ | lang, hchosen⟩
    · rw [scan_of_refused hrefused] at h
      cases h
    · exact hchosen
    · rw [scan_of_chosen hchosen] at h
      exact absurd h ((scanRequest_not_about_language hs w content lang).2 detail)
  · intro h
    rw [scan_of_undecided h]
    exact ⟨_, rfl⟩

/-- In a world that stays the same, a request is answered as a fresh engine answers the request for
the language it leads to. -/
theorem answer_of_chosen (h : Chosen content filename requested (some lang)) (w : World)
    (config : EngineConfig) (history : List Operation) :
    (scan content requested filename w (({ config } : State).after (history.map (Call.mk w)))).1 =
      (scanRequest content (some lang)).alone w config := by
  rw [scan_of_chosen h]
  exact (Determined.composable.scanRequest content lang).answer_eq_alone
    ((Current.fresh w config).after history)

/-- **`language_choice_is_strict`** — whatever an engine was asked before, in whatever worlds, the
language of a request is the one it asks for, else that of the extension of the file name, else that
of the first line.  The engine refuses a request exactly when it asks for something that is neither
a name nor a short name of a language, and finds its language unsupported exactly when none is
chosen.  Both leave the engine as it was, log nothing, import nothing, and are the same in every
world, so that no file is read.  Otherwise the run is that of the request for the chosen language;
and in a world that stays the same all requests about a content that lead to one language are
answered alike. -/
theorem language_choice_is_strict (config : EngineConfig) (before : List Call) (content : Text)
    (requested : Option LanguageName) (filename : Option Text) :
    let s := ({ config } : State).after before
    (∀ lang?, languageOf content requested filename = .ok lang? ↔
      Chosen content filename requested lang?) ∧
    (∀ e, languageOf content requested filename = .error e ↔ Refused requested e) ∧
    (∀ w e, (scan content requested filename w s).1 = .error (.language e) ↔
      Refused requested e) ∧
    (∀ w, (∃ detail, (scan content requested filename w s).1 =
        .ok (.noOpinion .unsupportedLanguage detail)) ↔ Chosen content filename requested none) ∧
    ((∃ e, Refused requested e) ∨ Chosen content filename requested none →
      ∃ answer, ∀ w, scan content requested filename w s = (answer, s, {})) ∧
    ∀ lang, Chosen content filename requested (some lang) →
      (∀ w, scan content requested filename w s = scanRequest content (some lang) w s) ∧
      ∀ (w : World) (history history' : List Operation) requested' filename',
        Chosen content filename' requested' (some lang) →
        let now := ({ config } : State).after (history.map (Call.mk w))
        let other := ({ config } : State).after (history'.map (Call.mk w))
        (scan content requested filename w now).1 =
          (scan content requested' filename' w other).1 := by
  intro s
  have hs : Sound s := (Sound.fresh config).after before
  refine ⟨fun lang? => languageOf_eq_ok_iff, fun e => languageOf_eq_error_iff,
    fun w e => scan_eq_refusal_iff hs, fun w => scan_eq_undecided_iff hs, ?frame,
    fun lang hchosen => ⟨fun w => ?request, ?routes⟩⟩
  case frame =>
    rintro (⟨e, hrefused⟩ | hundecided)
    · rw [scan_of_refused hrefused]
      exact ⟨_, fun w => rfl⟩
    · rw [scan_of_undecided hundecided]
      exact ⟨_, fun w => rfl⟩
  case request => rw [scan_of_chosen hchosen]
  case routes =>
    intro w history history' requested' filename' hchosen' now other
    exact (answer_of_chosen hchosen w config history).trans
      (answer_of_chosen hchosen' w config history').symm

/-- Three ways to one language and one answer, the last of them on a fresh engine. -/
theorem three_ways_to_bash :
    let content : Text := "#!/usr/bin/env -S bash\nrm -rf /\n"
    let w := installed {} []
    let asked : State := ({ config := {} } : State).after [⟨w, .ask .availability⟩]
    (scan content (some (.written " Shell\n")) (some "hook.py") w asked).1 =
        (scan content none (some "hook.BASH") w asked).1 ∧
      (scan content none (some "hook.BASH") w asked).1 =
        (scan content none none w { config := {} }).1 := by
  intro content w asked
  have hnamed : Chosen content (some "hook.py") (some (.written " Shell\n")) (some .bash) :=
    .named (.inr (by decide))
  have hextension : Chosen content (some "hook.BASH") none (some .bash) :=
    .byExtension ⟨"hook.BASH", rfl, by decide⟩
  have hline : Chosen content none none (some .bash) := by
    refine .byFirstLine ?_ (by decide +kernel)
    rintro other ⟨name, ⟨⟩, _⟩
  obtain ⟨-, -, -, -, -, hroutes⟩ :=
    language_choice_is_strict {} [] content none (some "hook.BASH")
  obtain ⟨-, halike⟩ := hroutes .bash hextension
  exact ⟨(halike w [.ask .availability] [.ask .availability] _ _ hnamed).symm,
    halike w [.ask .availability] [] _ _ hline⟩

end Engine

end HookAudit
