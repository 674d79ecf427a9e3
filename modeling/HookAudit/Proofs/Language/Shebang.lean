/-
# HookAudit.Proofs.Language.Shebang — the interpreter line, word by word.

The interpreter line is described by an expression with nested repetitions and optional parts, and
whoever writes a hook thinks of words.  The two agree on every line (`ofShebang?_eq_ofWords?`): the
program is the first word; if that is `env` and more words follow, it is the first of these that is
no option, or the last when all are.  White space of any kind and at either end makes no difference,
although behind an option that ends the line the matcher has to give the option back.

So every interpreter of the table is found under any directory, with any version, behind any options
of `env` and before any arguments (`Invokes`), and nothing below the first line matters.
-/
import HookAudit.Language.Shebang
import HookAudit.Proofs.Files.Names
import HookAudit.Proofs.Regex.Greedy
import HookAudit.Proofs.Text.Words

namespace HookAudit.Language

open Regex (Groups Cursor Continuation many opt seqs group char blank nonBlank)
open Text (Runs words)

/-! ## Words of an interpreter line -/

/-- An option is a hyphen with something behind it. -/
def isOption : Text → Bool
  | c :: _ :: _ => c.is '-'
  | _ => false

/-- What `env` runs: the first word that is no option, or the last word when all are. -/
def argument? (ws : List Text) : Option Text := (ws.find? fun word => !isOption word).or ws.getLast?

/-- The word of an interpreter line that names the interpreter. -/
def program? : List Text → Option Text
  | program :: argument :: more =>
    if (Path.ofText program).name = "env" then argument? (argument :: more) else some program
  | ws => ws.head?

/-- The language that the words of an interpreter line name. -/
def ofWords? (ws : List Text) : Option Language :=
  (program? ws).bind fun word => interpreters.lookup (dropVersion (Path.ofText word).name)

variable {word rest gap line t : Text} {ws more : List Text} {α β : Type} {f : α → β} {y : β}
  {k : Continuation α} {groups : Groups}

theorem argument?_isSome (word : Text) (more : List Text) :
    (argument? (word :: more)).isSome = true := by
  simp [argument?]

theorem argument?_singleton (word : Text) : argument? [word] = some word := by
  cases h : isOption word <;> simp [argument?, h]

/-- Options are passed over as long as words follow. -/
theorem argument?_cons_cons (word next : Text) (more : List Text) :
    argument? (word :: next :: more) =
      if isOption word then argument? (next :: more) else some word := by
  cases h : isOption word <;> simp [argument?, h]

/-! ## The matcher on words -/

/-- An option with the white space behind it. -/
def optionShape : Regex := seqs [char '-', Regex.some nonBlank, Regex.some blank]

/-- The argument behind the options. -/
def argumentShape : Regex := group 2 (Regex.some nonBlank)

/-- The words behind the program. -/
def argumentsShape : Regex := seqs [Regex.some blank, many optionShape, argumentShape]

/-- Behind its two marks an interpreter line is read as white space, a word, and more words. -/
theorem run_shebangLine (line : Text) (k : Continuation α) :
    shebangLine.run [] (.atStart ("#!" ++ line)) k =
      (many blank).run [] ⟨some (.ofChar '!'), line⟩ fun groups c =>
        (group 1 (Regex.some nonBlank)).run groups c fun groups c =>
          (opt argumentsShape).run groups c k := rfl

/-- Behind the mark of an option its letters are read, then white space. -/
theorem run_optionShape (behind : Option CodePoint) (c : CodePoint) (t : Text) :
    optionShape.run groups ⟨behind, c :: t⟩ k =
      if c.is '-' then
        (Regex.some nonBlank).run groups ⟨some c, t⟩ fun groups c =>
          (Regex.some blank).run groups c k
      else none := by
  rw [← Regex.has_char '-' c]
  rfl

/-! ### Where no word follows -/

theorem isBlank_of_mem_tail (c : CodePoint) (t : Text) (h : ∀ d ∈ c :: t, d.isBlank = true) :
    ∀ d ∈ t, d.isBlank = true := (List.forall_mem_cons.mp h).2

theorem run_argumentShape_of_blank (h : ∀ c ∈ t.head?, c.isBlank = true)
    (behind : Option CodePoint) : argumentShape.run groups ⟨behind, t⟩ k = none :=
  Regex.run_some_eq_none_of_head (fun c hc => by simp [Regex.has_nonBlank, h c hc]) behind

/-- In white space there is neither an option nor an argument. -/
theorem rounds_options_of_blank (ht : ∀ c ∈ t, c.isBlank = true) (fuel : Nat)
    (behind : Option CodePoint) :
    Regex.rounds true (fun groups c k => optionShape.run groups c k) fuel groups ⟨behind, t⟩
      (fun groups c => argumentShape.run groups c k) = none := by
  have hstay : argumentShape.run groups ⟨behind, t⟩ k = none :=
    run_argumentShape_of_blank (fun c hc => ht c (List.mem_of_mem_head? hc)) behind
  cases fuel with
  | zero => exact hstay
  | succ fuel =>
    refine (Regex.rounds_of_none ?_).trans hstay
    cases t with
    | nil => rfl
    | cons c t =>
      rw [run_optionShape, if_neg]
      intro hmark
      have hval : c.val = 45 := by simpa [CodePoint.is] using hmark
      have hblank := ht c List.mem_cons_self
      simp [CodePoint.isBlank, hval] at hblank

/-- White space has no arguments in it. -/
theorem run_argumentsShape_of_blank (ht : ∀ c ∈ t, c.isBlank = true) (behind : Option CodePoint) :
    argumentsShape.run groups ⟨behind, t⟩ k = none :=
  Regex.run_some_eq_none (P := fun t => ∀ c ∈ t, c.isBlank = true) isBlank_of_mem_tail
    (fun behind t ht => rounds_options_of_blank ht t.length behind) behind ht

/-- The end of a word, and then white space. -/
def Trailing (t : Text) : Prop := ∀ c ∈ t.dropWhile (!·.isBlank), c.isBlank = true

theorem Trailing.of_blank {c : CodePoint} (h : Trailing (c :: t)) (hc : c.isBlank = true) :
    ∀ d ∈ c :: t, d.isBlank = true := by
  unfold Trailing at h
  rwa [List.dropWhile_cons_of_neg (by simp [hc])] at h

theorem Trailing.tail (c : CodePoint) (t : Text) (h : Trailing (c :: t)) : Trailing t := by
  cases hc : c.isBlank with
  | false =>
    unfold Trailing at h
    rwa [List.dropWhile_cons_of_pos (by simp [hc])] at h
  | true =>
    have hblank := isBlank_of_mem_tail c t (h.of_blank hc)
    exact fun d hd => hblank d ((List.dropWhile_sublist _).subset hd)

/-- An option that nothing but white space follows is given back: the argument would be missing. -/
theorem run_optionShape_of_last {fuel length : Nat} (hword : ∀ c ∈ word, c.isBlank = false)
    (hrest : ∀ c ∈ rest, c.isBlank = true) (behind : Option CodePoint) :
    optionShape.run groups ⟨behind, word ++ rest⟩ (fun groups c =>
      if c.ahead.length < length then
        Regex.rounds true (fun groups c k => optionShape.run groups c k) fuel groups c
          fun groups c => argumentShape.run groups c k
      else none) = none := by
  have hstart : Trailing (word ++ rest) := by
    intro c hc
    rw [List.dropWhile_append_of_pos (fun c hc => by simp [hword c hc])] at hc
    exact hrest c ((List.dropWhile_sublist _).subset hc)
  cases hline : word ++ rest with
  | nil => rfl
  | cons c t =>
    rw [run_optionShape]
    split
    · -- at every position on the way, what is left is the end of the word and then white space
      refine Regex.run_some_eq_none Trailing.tail (fun behind u hu => ?_) _
        (Trailing.tail c t (hline ▸ hstart))
      cases u with
      | nil => rfl
      | cons d u =>
        cases hd : d.isBlank with
        | false =>
          refine Regex.run_some_eq_none_of_head ?_ behind
          rintro _ ⟨⟩
          rw [Regex.has_blank, hd]
        | true =>
          refine Regex.run_some_eq_none (P := fun t => ∀ c ∈ t, c.isBlank = true)
            isBlank_of_mem_tail (fun behind v hv => ?_) behind (hu.of_blank hd)
          split
          · exact rounds_options_of_blank hv _ behind
          · rfl
    · rfl

/-! ### Where words follow -/

theorem run_argumentShape_of_word (hsome : word ≠ []) (hword : ∀ c ∈ word, c.isBlank = false)
    (hrest : ∀ c ∈ rest.head?, c.isBlank = true)
    (hk : ∀ behind t, (k ((2, word) :: groups) ⟨behind, t⟩).map f = some y)
    (behind : Option CodePoint) :
    (argumentShape.run groups ⟨behind, word ++ rest⟩ k).map f = some y :=
  Regex.run_group_some hsome (fun c hc => by simp [Regex.has_nonBlank, hword c hc])
    (fun c hc => by simp [Regex.has_nonBlank, hrest c hc]) (fun behind => hk behind rest) behind

/-- A word that is no option is not read as one. -/
theorem run_optionShape_of_plain (hplain : isOption word = false) (hsome : word ≠ [])
    (hrest : ∀ c ∈ rest.head?, c.isBlank = true) (behind : Option CodePoint) :
    optionShape.run groups ⟨behind, word ++ rest⟩ k = none := by
  obtain ⟨c, tail, rfl⟩ := List.exists_cons_of_ne_nil hsome
  rw [List.cons_append, run_optionShape]
  split
  · rename_i hmark
    cases tail with
    | nil =>
      refine Regex.run_some_eq_none_of_head (fun d hd => ?_) _
      simp [Regex.has_nonBlank, hrest d hd]
    | cons d tail =>
      rw [isOption, hmark] at hplain
      cases hplain
  · rfl

/-- An option is read to its end, with the white space behind it. -/
theorem run_optionShape_of_option (hoption : isOption word = true)
    (hword : ∀ c ∈ word, c.isBlank = false) (hgap : gap ≠ []) (hblank : ∀ c ∈ gap, c.isBlank = true)
    (hrest : ∀ c ∈ rest.head?, c.isBlank = false)
    (hk : ∀ behind, (k groups ⟨behind, rest⟩).map f = some y) (behind : Option CodePoint) :
    (optionShape.run groups ⟨behind, word ++ (gap ++ rest)⟩ k).map f = some y := by
  match word, hoption with
  | c :: d :: tail, hmark =>
    obtain ⟨-, hletters⟩ := List.forall_mem_cons.mp hword
    obtain ⟨e, gap, rfl⟩ := List.exists_cons_of_ne_nil hgap
    rw [List.cons_append, run_optionShape, if_pos (show c.is '-' = true from hmark)]
    refine Regex.run_some_longest (List.cons_ne_nil d tail)
      (fun x hx => by simp [Regex.has_nonBlank, hletters x hx]) ?_ (fun behind => ?_) _
    · rintro _ ⟨⟩
      simp [Regex.has_nonBlank, hblank e List.mem_cons_self]
    · exact Regex.run_some_longest (List.cons_ne_nil e gap)
        (fun x hx => by simp [Regex.has_blank, hblank x hx])
        (fun x hx => by simp [Regex.has_blank, hrest x hx]) hk behind

/-- **`rounds_options_of_words`** — options are passed over one by one as long as a word follows, and
the word that is left is noted. -/
theorem rounds_options_of_words (hsome : word ≠ []) (hword : ∀ c ∈ word, c.isBlank = false)
    (hrest : ∀ c ∈ rest.head?, c.isBlank = true) (hmore : Runs rest more) {fuel : Nat}
    (hfuel : (word ++ rest).length ≤ fuel)
    (hk : ∀ argument ∈ argument? (word :: more), ∀ behind t,
      (k ((2, argument) :: groups) ⟨behind, t⟩).map f = some y) (behind : Option CodePoint) :
    (Regex.rounds true (fun groups c k => optionShape.run groups c k) fuel groups
      ⟨behind, word ++ rest⟩ fun groups c => argumentShape.run groups c k).map f = some y := by
  induction more generalizing word rest fuel behind with
  | nil =>
    have hblank : ∀ c ∈ rest, c.isBlank = true := by
      cases hmore with
      | nothing hblank => exact hblank
    have hstay := run_argumentShape_of_word hsome hword hrest
      (hk word (argument?_singleton word)) behind
    cases fuel with
    | zero => exact hstay
    | succ fuel =>
      refine (congrArg (Option.map f) (Regex.rounds_of_none ?_)).trans hstay
      exact run_optionShape_of_last hword hblank behind
  | cons next more ih =>
    obtain ⟨fuel, rfl⟩ : ∃ n, fuel = n + 1 := by
      cases fuel with
      | zero => exact absurd (List.append_eq_nil_iff.mp (List.length_eq_zero_iff.mp
          (Nat.le_zero.mp hfuel))).1 hsome
      | succ n => exact ⟨n, rfl⟩
    rw [argument?_cons_cons] at hk
    cases hoption : isOption word with
    | false =>
      rw [hoption] at hk
      refine (congrArg (Option.map f) (Regex.rounds_of_none ?_)).trans
        (run_argumentShape_of_word hsome hword hrest (hk word rfl) behind)
      exact run_optionShape_of_plain hoption hsome hrest behind
    | true =>
      rw [hoption, if_pos rfl] at hk
      cases hmore with
      | @word gap _ rest _ hgap hnext hsolid hapart hmore =>
        have hgapSome : gap ≠ [] := by
          rintro rfl
          obtain ⟨c, tail, rfl⟩ := List.exists_cons_of_ne_nil hnext
          have hblank := hrest c rfl
          rw [hsolid c List.mem_cons_self] at hblank
          cases hblank
        have hhead : ∀ c ∈ (next ++ rest).head?, c.isBlank = false := by
          obtain ⟨c, tail, rfl⟩ := List.exists_cons_of_ne_nil hnext
          rintro _ ⟨⟩
          exact hsolid c List.mem_cons_self
        have hlength : word.length ≠ 0 := fun h => hsome (List.length_eq_zero_iff.mp h)
        refine Regex.map_rounds_of_some ?_
        rw [List.append_assoc] at hfuel ⊢
        refine run_optionShape_of_option hoption hword hgapSome hgap hhead (fun behind => ?_) behind
        simp only [List.length_append] at hfuel ⊢
        rw [if_pos (by omega)]
        exact ih hnext hsolid hapart hmore (by rw [List.length_append]; omega) hk behind

/-- Behind white space the words are those that the matcher reads. -/
theorem run_argumentsShape_of_words (hrest : ∀ c ∈ rest.head?, c.isBlank = true)
    (hruns : Runs rest (word :: more))
    (hk : ∀ argument ∈ argument? (word :: more), ∀ behind t,
      (k ((2, argument) :: groups) ⟨behind, t⟩).map f = some y) (behind : Option CodePoint) :
    (argumentsShape.run groups ⟨behind, rest⟩ k).map f = some y := by
  cases hruns with
  | @word gap _ rest _ hgap hsome hword hapart hmore =>
    obtain ⟨c, tail, rfl⟩ := List.exists_cons_of_ne_nil hsome
    have hgapSome : gap ≠ [] := by
      rintro rfl
      have hblank := hrest c rfl
      rw [hword c List.mem_cons_self] at hblank
      cases hblank
    rw [List.append_assoc]
    refine Regex.run_some_longest hgapSome (fun x hx => by simp [Regex.has_blank, hgap x hx]) ?_
      (fun behind => ?_) behind
    · rintro _ ⟨⟩
      simp [Regex.has_blank, hword c List.mem_cons_self]
    · exact rounds_options_of_words hsome hword hapart hmore (Nat.le_refl _) hk behind

/-! ## Reading the line -/

/-- What the matcher notes of the words of an interpreter line: the program, and what `env` would
run. -/
def noted (program : Text) (more : List Text) : Groups :=
  (argument? more).toList.map (2, ·) ++ [(1, program)]

theorem matchStart_of_blank (h : ∀ c ∈ line, c.isBlank = true) :
    shebangLine.matchStart ("#!" ++ line) = none := by
  unfold Regex.matchStart Regex.matchAt
  rw [run_shebangLine]
  refine congrArg (Option.map _) (Regex.run_many_eq_none
    (P := fun t => ∀ c ∈ t, c.isBlank = true) isBlank_of_mem_tail (fun behind t ht => ?_) _ h)
  refine Regex.run_some_eq_none_of_head (fun c hc => ?_) behind
  simp [Regex.has_nonBlank, ht c (List.mem_of_mem_head? hc)]

/-- **`matchStart_of_words`** — the matcher notes the words of the line. -/
theorem matchStart_of_words (hruns : Runs line (word :: more)) :
    shebangLine.matchStart ("#!" ++ line) = some (noted word more) := by
  cases hruns with
  | @word gap _ rest _ hgap hsome hword hrest hmore =>
    have hhead : ∀ c ∈ (word ++ rest).head?, c.isBlank = false := by
      obtain ⟨c, tail, rfl⟩ := List.exists_cons_of_ne_nil hsome
      rintro _ ⟨⟩
      exact hword c List.mem_cons_self
    unfold Regex.matchStart Regex.matchAt
    rw [run_shebangLine, List.append_assoc]
    refine Regex.run_many_longest (fun x hx => by simp [Regex.has_blank, hgap x hx])
      (fun x hx => by simp [Regex.has_blank, hhead x hx]) (fun behind => ?_) _
    refine Regex.run_group_some hsome (fun x hx => by simp [Regex.has_nonBlank, hword x hx])
      (fun x hx => by simp [Regex.has_nonBlank, hrest x hx]) (fun behind => ?_) behind
    cases more with
    | nil =>
      have hblank : ∀ c ∈ rest, c.isBlank = true := by
        cases hmore with
        | nothing hblank => exact hblank
      rw [Regex.run_opt_of_none (run_argumentsShape_of_blank hblank behind)]
      rfl
    | cons next more =>
      refine Regex.map_firstOf_of_first (run_argumentsShape_of_words hrest hmore ?_ behind)
      intro argument hargument behind t
      simp [noted, Option.mem_def.mp hargument]

theorem firstLine_mark (rest : Text) : Text.firstLine ("#!" ++ rest) = "#!" ++ rest.firstLine := by
  show List.takeWhile _ _ = _
  rw [List.takeWhile_append_of_pos (by decide)]
  rfl

/-- **`ofShebang?_eq_ofWords?`** — an interpreter line is read word by word. -/
theorem ofShebang?_eq_ofWords? (rest : Text) :
    ofShebang? ("#!" ++ rest) = ofWords? rest.firstLine.words := by
  unfold ofShebang?
  rw [firstLine_mark]
  generalize rest.firstLine = line
  cases hwords : words line with
  | nil =>
    have hblank : ∀ c ∈ line, c.isBlank = true := by
      cases Text.runs_iff.mpr hwords with
      | nothing hblank => exact hblank
    rw [matchStart_of_blank hblank]
    rfl
  | cons program more =>
    rw [matchStart_of_words (Text.runs_iff.mpr hwords)]
    cases more with
    | nil => rfl
    | cons argument more =>
      obtain ⟨a, ha⟩ := Option.isSome_iff_exists.mp (argument?_isSome argument more)
      by_cases henv : (Path.ofText program).name = "env" <;>
        simp [noted, ofWords?, program?, List.lookup_cons, ha, henv]

/-! ## Names of interpreters -/

/-- What versions are written in. -/
def isVersionChar (c : CodePoint) : Bool := c.isDigit || c.is '.'

/-- **`Bare name bare`** — `bare` is the name without the digits and dots that end it, or the name
itself when it consists of nothing else. -/
inductive Bare (name : Text) : Text → Prop where
  | cut {bare version : Text} (split : name = bare ++ version)
      (digits : ∀ c ∈ version, isVersionChar c = true) (some : bare ≠ [])
      (last : ∀ c ∈ bare.getLast?, isVersionChar c = false) : Bare name bare
  | whole (digits : ∀ c ∈ name, isVersionChar c = true) : Bare name name

theorem dropVersion_eq (name : Text) :
    dropVersion name =
      if (name.rdropWhile isVersionChar).isEmpty then name else name.rdropWhile isVersionChar := rfl

theorem Bare.dropVersion_eq {name bare : Text} (h : Bare name bare) : dropVersion name = bare := by
  rw [Language.dropVersion_eq]
  cases h with
  | @cut bare version split digits some last =>
    have hdrop : name.rdropWhile isVersionChar = bare := by
      obtain ⟨front, c, rfl⟩ := (List.eq_nil_or_concat' bare).resolve_left some
      have hlast : isVersionChar c = false := last c (by simp)
      unfold List.rdropWhile
      rw [split, List.reverse_append, List.dropWhile_append_of_pos (by simpa using digits),
        List.reverse_append, List.reverse_singleton, List.singleton_append,
        List.dropWhile_cons_of_neg (by simp [hlast])]
      simp
    rw [hdrop, if_neg (by simpa using some)]
  | whole digits =>
    rw [List.rdropWhile_eq_nil_iff.mpr digits]
    rfl

theorem bare_dropVersion (name : Text) : Bare name (dropVersion name) := by
  rw [dropVersion_eq]
  split
  · rename_i hempty
    exact .whole (List.rdropWhile_eq_nil_iff.mp (List.isEmpty_iff.mp hempty))
  · rename_i hsome
    have hne : name.rdropWhile isVersionChar ≠ [] := fun h => hsome (List.isEmpty_iff.mpr h)
    have hsplit : name = name.rdropWhile isVersionChar ++
        (name.reverse.takeWhile isVersionChar).reverse := by
      unfold List.rdropWhile
      rw [← List.reverse_append, List.takeWhile_append_dropWhile, List.reverse_reverse]
    refine .cut hsplit ?_ hne ?_
    · intro c hc
      exact List.mem_takeWhile_imp (List.mem_reverse.mp hc)
    · intro c hc
      obtain ⟨_, rfl⟩ := List.mem_getLast?_eq_getLast hc
      exact Bool.eq_false_iff.mpr (List.rdropWhile_last_not isVersionChar name hne)

/-- **`dropVersion_eq_iff`** — dropping the version leaves the bare name. -/
theorem dropVersion_eq_iff {name bare : Text} : dropVersion name = bare ↔ Bare name bare := by
  constructor
  · rintro rfl
    exact bare_dropVersion name
  · exact Bare.dropVersion_eq

/-- **`Calls word lang`** — the word calls an interpreter of the table, in some directory and in some
version. -/
inductive Calls : Text → Language → Prop where
  | mk {directory name version : Text} {lang : Language} (known : (name, lang) ∈ interpreters)
      (place : directory = [] ∨ directory.getLast? = some (.ofChar '/'))
      (digits : ∀ c ∈ version, isVersionChar c = true) : Calls (directory ++ (name ++ version)) lang

/-- The interpreters have plain names, and `env` is none of them. -/
structure PlainName (name : Text) : Prop where
  long : 2 ≤ name.length
  last : ∀ c ∈ name.getLast?, isVersionChar c = false
  noSlash : ∀ c ∈ name, c.is '/' = false
  notEnv : name ≠ "env"

theorem plainName_of_interpreter : ∀ entry ∈ interpreters, PlainName entry.1 := by
  have hall : ∀ entry ∈ interpreters, 2 ≤ entry.1.length ∧
      (∀ c ∈ entry.1.getLast?, isVersionChar c = false) ∧ (∀ c ∈ entry.1, c.is '/' = false) ∧
      entry.1 ≠ "env" := by decide
  intro entry hentry
  obtain ⟨hlong, hlast, hslash, henv⟩ := hall entry hentry
  exact ⟨hlong, hlast, hslash, henv⟩

theorem isVersionChar_ne_slash {c : CodePoint} (h : isVersionChar c = true) : c.is '/' = false := by
  cases hslash : c.is '/' with
  | false => rfl
  | true =>
    have hval : c.val = 47 := by simpa [CodePoint.is] using hslash
    have hno : Text.digitRanges.has 47 = false := by decide
    simp [isVersionChar, CodePoint.isDigit, CodePoint.is, hval, hno] at h

/-- **`Calls.lookup`** — an interpreter of the table is found in any directory and version. -/
theorem Calls.lookup {lang : Language} (h : Calls word lang) :
    interpreters.lookup (dropVersion (Path.ofText word).name) = some lang ∧
      (Path.ofText word).name ≠ "env" := by
  obtain @⟨directory, name, version, lang, known, place, digits⟩ := h
  have hname := plainName_of_interpreter _ known
  have hsome : name ≠ [] := by
    rintro rfl
    exact absurd hname.long (Nat.not_succ_le_zero 1)
  have hdrop : dropVersion (name ++ version) = name :=
    (Bare.cut rfl digits hsome hname.last).dropVersion_eq
  have hcomponent : Path.IsName (name ++ version) := by
    refine ⟨Text.noSlash_append.mpr
      ⟨hname.noSlash, fun c hc => isVersionChar_ne_slash (digits c hc)⟩, by simp [hsome], ?_⟩
    intro hdot
    have hlength : (name ++ version).length = 1 := congrArg List.length hdot
    have hlong : 2 ≤ name.length := hname.long
    rw [List.length_append] at hlength
    omega
  rw [Path.name_ofText_append place hcomponent, hdrop]
  refine ⟨(lookup_eq_some_iff_of_nodup (by decide)).mpr known, fun henv => ?_⟩
  rw [henv] at hdrop
  exact hname.notEnv (hdrop.symm.trans (by decide))

/-- **`Invokes ws lang`** — the words call an interpreter of the table, with any arguments: directly,
or through an `env` in any directory, behind any options of it. -/
inductive Invokes : List Text → Language → Prop where
  | directly {word : Text} {arguments : List Text} {lang : Language} (calls : Calls word lang) :
      Invokes (word :: arguments) lang
  | throughEnv {env word : Text} {options arguments : List Text} {lang : Language}
      (name : (Path.ofText env).name = "env") (skipped : ∀ word ∈ options, isOption word = true)
      (plain : isOption word = false) (calls : Calls word lang) :
      Invokes (env :: (options ++ word :: arguments)) lang

theorem Invokes.ofWords? {lang : Language} (h : Invokes ws lang) : ofWords? ws = some lang := by
  cases h with
  | @directly word arguments _ calls =>
    obtain ⟨hlookup, henv⟩ := calls.lookup
    cases arguments <;> simpa [Language.ofWords?, program?, henv] using hlookup
  | @throughEnv env word options arguments _ name skipped plain calls =>
    have hargument : argument? (options ++ word :: arguments) = some word := by
      have hskipped : options.find? (fun word => !isOption word) = none :=
        List.find?_eq_none.mpr fun word hword => by simp [skipped word hword]
      simp [argument?, List.find?_append, hskipped, plain]
    have hprogram : program? (env :: (options ++ word :: arguments)) = some word := by
      cases options with
      | nil =>
        rw [← hargument]
        exact if_pos name
      | cons first options =>
        rw [← hargument]
        exact if_pos name
    rw [Language.ofWords?, hprogram]
    exact calls.lookup.1

/-- **`shebang_is_read_by_words`** — the language of an interpreter line is that of the interpreter
which its words name, once directory and version are dropped.  So an interpreter of the table is
found however it is called, and nothing behind the first line is looked at. -/
theorem shebang_is_read_by_words :
    (∀ rest, ofShebang? ("#!" ++ rest) = ofWords? rest.firstLine.words) ∧
      (∀ name bare, dropVersion name = bare ↔ Bare name bare) ∧
      (∀ rest lang, Invokes rest.firstLine.words lang → ofShebang? ("#!" ++ rest) = some lang) ∧
      ∀ line rest, line.OneLine →
        ofShebang? (line ++ CodePoint.ofChar '\n' :: rest) = ofShebang? line := by
  refine ⟨ofShebang?_eq_ofWords?, fun name bare => dropVersion_eq_iff, ?invoked, ?below⟩
  case invoked =>
    intro rest lang hinvokes
    rw [ofShebang?_eq_ofWords?, hinvokes.ofWords?]
  case below =>
    intro line rest hline
    have hfirst : Text.firstLine (line ++ CodePoint.ofChar '\n' :: rest) = line.firstLine := by
      have hkeep : ∀ c ∈ line, (!c.is '\n') = true := fun c hc => by simp [hline c hc]
      unfold Text.firstLine
      rw [List.takeWhile_append_of_pos hkeep, List.takeWhile_cons_of_neg (by decide),
        List.append_nil, List.takeWhile_eq_self_iff.mpr hkeep]
    unfold ofShebang?
    rw [hfirst]

/-- A line with white space at both ends, a version, and options before and behind the program. -/
def busyLine : Text := " /usr/bin/env\t-S -i ./bin/python3.11. -u \r"

/-- The program of such a line is found, whatever follows below. -/
theorem python_is_found_behind_options :
    Invokes busyLine.firstLine.words .python ∧ busyLine.OneLine ∧
      ofShebang? ("#!" ++ busyLine) = some .python ∧
      ofShebang? (("#!" ++ busyLine) ++ CodePoint.ofChar '\n' :: "exit 1") = some .python := by
  have hcalls : Calls "./bin/python3.11." .python := by
    have hword : ("./bin/python3.11." : Text) = "./bin/" ++ ("python" ++ "3.11.") := by decide
    rw [hword]
    exact .mk (by decide) (.inr (by decide)) (by decide)
  have hinvokes : Invokes busyLine.firstLine.words .python := by
    have hwords : busyLine.firstLine.words =
        "/usr/bin/env" :: (["-S", "-i"] ++ "./bin/python3.11." :: ["-u"]) := by decide
    rw [hwords]
    exact @Invokes.throughEnv "/usr/bin/env" "./bin/python3.11." ["-S", "-i"] ["-u"] .python
      (by decide) (by decide) (by decide) hcalls
  obtain ⟨-, -, hfound, hbelow⟩ := shebang_is_read_by_words
  have hpython := hfound busyLine .python hinvokes
  exact ⟨hinvokes, by decide, hpython, (hbelow _ "exit 1" (by decide)).trans hpython⟩

end HookAudit.Language
