/-
# HookAudit.Proofs.Engine.QueryFiles — what the files of a language contribute, and in which order.

What a query file contributes is a matter of that file alone: a query if it can be read, is not
blank, compiles and declares a capture that names a risk, and nothing otherwise (`contribution`).
A directory lists its entries in any order, but by name only once, and its files are taken in the
order of their names (`filesOf_sorted`).  So the queries of a language are told apart by name
(`names_nodup`), and directories that hold the same files, but for some that contribute nothing,
contribute the same (`AlikeBut.contributions`).
-/
import HookAudit.Proofs.Engine.Attempts
import HookAudit.Proofs.Score.Order
import Mathlib.Data.List.Perm.Basic

namespace HookAudit.Engine

variable {toolkit : Module} {grammar : GrammarRef} {file : QueryFile} {v : Verdict}
  {files files₁ files₂ : Files} {source : QuerySource} {lang origin : Language}

/-! ## One file -/

/-- What a file contributes to the queries of a language. -/
def contribution (toolkit : Module) (grammar : GrammarRef) (file : QueryFile) :
    Option NamedQuery :=
  match file.content with
  | .error _ => none
  | .ok text =>
    if text.isBlank then none
    else match toolkit.compile grammar text with
      | .error _ => none
      | .ok compiled =>
        let query : NamedQuery := ⟨file.name, compiled⟩
        if query.riskCaptures.isEmpty then none else some query

/-- **`Judged toolkit grammar file v`** — what is wrong with a file, if anything: it cannot be read
as text, is blank, holds a malformed query, or one that declares no capture that names a risk. -/
inductive Judged (toolkit : Module) (grammar : GrammarRef) (file : QueryFile) : Verdict → Prop where
  | unreadable {reason : Text} (content : file.content = .error reason) :
      Judged toolkit grammar file (.unreadable reason)
  | blank {text : QueryText} (content : file.content = .ok text) (blank : text.isBlank = true) :
      Judged toolkit grammar file .blank
  | malformed {text : QueryText} {failure : Failure} (content : file.content = .ok text)
      (filled : text.isBlank = false) (refused : toolkit.compile grammar text = .error failure)
      (kind : failure.kind = .badQuery) :
      Judged toolkit grammar file (.malformed failure.message)
  | riskless {text : QueryText} {compiled : Compiled} (content : file.content = .ok text)
      (filled : text.isBlank = false) (accepted : toolkit.compile grammar text = .ok compiled)
      (none : (NamedQuery.mk file.name compiled).riskCaptures = []) :
      Judged toolkit grammar file (.riskless ⟨file.name, compiled⟩)
  | usable {text : QueryText} {compiled : Compiled} (content : file.content = .ok text)
      (filled : text.isBlank = false) (accepted : toolkit.compile grammar text = .ok compiled)
      (some : (NamedQuery.mk file.name compiled).riskCaptures ≠ []) :
      Judged toolkit grammar file (.usable ⟨file.name, compiled⟩)

/-- A file that is of no use. -/
def Dropped (toolkit : Module) (grammar : GrammarRef) (file : QueryFile) : Prop :=
  ∃ v, Judged toolkit grammar file v ∧ v.query? = none

/-- Whether there is nothing in a file to compile. -/
def QueryFile.isBlank (file : QueryFile) : Bool :=
  match file.content with
  | .ok text => text.isBlank
  | .error _ => false

/-- What is said of a file that came to some verdict. -/
def Verdict.complaint? (file : QueryFile) : Verdict → Option Text
  | .unreadable reason => some ("Cannot read query " ++ file.path.toText ++ ": " ++ reason)
  | .malformed reason =>
    some ("Skipping malformed query " ++ (Fault.malformedQuery file.name reason).message)
  | .riskless _ =>
    some ("Query " ++ file.name ++ " declares no danger/warn/taint capture; skipping")
  | .blank | .usable _ => none

/-- What is said of a file. -/
def complaint? (toolkit : Module) (grammar : GrammarRef) (file : QueryFile) : Option Text :=
  match attemptFile toolkit grammar file with
  | .ok v => v.complaint? file
  | .error _ => none

/-- **`attemptFile_eq_ok_iff`** — an attempt at a file comes to what is wrong with it. -/
theorem attemptFile_eq_ok_iff :
    attemptFile toolkit grammar file = .ok v ↔ Judged toolkit grammar file v := by
  constructor
  · intro h
    unfold attemptFile at h
    split at h
    · rename_i reason hcontent
      cases h
      exact .unreadable hcontent
    · rename_i text hcontent
      split at h
      · cases h
        exact .blank hcontent ‹_›
      · rename_i hfilled
        have hfilled : text.isBlank = false := by simpa using hfilled
        split at h
        · rename_i compiled haccepted
          cases h
          cases hrisks : (NamedQuery.mk file.name compiled).riskCaptures with
          | nil => exact .riskless hcontent hfilled haccepted hrisks
          | cons risk others =>
            exact .usable hcontent hfilled haccepted (by rw [hrisks]; exact List.cons_ne_nil _ _)
        · rename_i failure hrefused
          split at h <;> cases h
          exact .malformed hcontent hfilled hrefused ‹_›
  · intro h
    unfold attemptFile
    cases h with
    | unreadable hcontent => rw [hcontent]
    | blank hcontent hblank => simp [hcontent, hblank]
    | malformed hcontent hfilled hrefused hkind => simp [hcontent, hfilled, hrefused, hkind]
    | riskless hcontent hfilled haccepted hnone => simp [hcontent, hfilled, haccepted, hnone]
    | usable hcontent hfilled haccepted hsome => simp [hcontent, hfilled, haccepted, hsome]

/-- What a file contributes is its query, unless something is wrong with it. -/
theorem Judged.contribution (h : Judged toolkit grammar file v) :
    contribution toolkit grammar file = v.query? := by
  unfold Engine.contribution
  cases h with
  | unreadable hcontent =>
    rw [hcontent]
    rfl
  | blank hcontent hblank => simp [hcontent, hblank, Verdict.query?]
  | malformed hcontent hfilled hrefused => simp [hcontent, hfilled, hrefused, Verdict.query?]
  | riskless hcontent hfilled haccepted hnone =>
    simp [hcontent, hfilled, haccepted, hnone, Verdict.query?]
  | usable hcontent hfilled haccepted hsome =>
    simp [hcontent, hfilled, haccepted, hsome, Verdict.query?]

theorem Dropped.contribution (h : Dropped toolkit grammar file) :
    contribution toolkit grammar file = none := by
  obtain ⟨v, hjudged, hnone⟩ := h
  rw [hjudged.contribution, hnone]

/-- **`Judged.complains_iff`** — something is said of a file exactly when it contributes nothing and
is not blank. -/
theorem Judged.complains_iff (h : Judged toolkit grammar file v) :
    (complaint? toolkit grammar file).isSome = true ↔
      Engine.contribution toolkit grammar file = none ∧ file.isBlank = false := by
  unfold complaint? QueryFile.isBlank
  rw [h.contribution, attemptFile_eq_ok_iff.mpr h]
  cases h with
  | unreadable hcontent => simp [hcontent, Verdict.complaint?, Verdict.query?]
  | blank hcontent hblank => simp [hcontent, hblank, Verdict.complaint?]
  | malformed hcontent hfilled => simp [hcontent, hfilled, Verdict.complaint?, Verdict.query?]
  | riskless hcontent hfilled => simp [hcontent, hfilled, Verdict.complaint?, Verdict.query?]
  | usable => simp [Verdict.complaint?, Verdict.query?]

/-! ## One directory -/

/-- The names that a directory lists. -/
def listing (files : Files) (path : Path) : List Text :=
  match files.find path with
  | .ok tree => tree.entries.map (·.1)
  | .error _ => []

/-- **`ListsOnce files source lang`** — no directory of queries that a language is searched with
lists a name twice. -/
def ListsOnce (files : Files) (source : QuerySource) (lang : Language) : Prop :=
  match source with
  | .packaged => True
  | .directory root => ∀ origin ∈ lang.queryLanguages, (listing files (root.child origin.name)).Nodup

/-- The names of the queries that come with the library are in order. -/
theorem pack_sorted (origin : Language) : origin.pack.Pairwise fun a b =>
    Text.codes (a.name ++ ".scm") < Text.codes (b.name ++ ".scm") := by
  cases origin <;> decide +kernel

/-- Where each result is what the member stands for, the results are some of these. -/
theorem filterMap_sublist_map {α β : Type} {f : α → Option β} {g : α → β}
    (h : ∀ a b, f a = some b → b = g a) (xs : List α) : (xs.filterMap f).Sublist (xs.map g) := by
  induction xs with
  | nil => exact .slnil
  | cons x xs ih =>
    rw [List.filterMap_cons, List.map_cons]
    cases hx : f x with
    | none => exact ih.cons _
    | some b =>
      rw [h x b hx]
      exact ih.cons_cons _

theorem name_child (path : Path) (name : Text) : (path.child name).name = name := by
  simp [Path.child, Path.name]

/-- Names are sorted to one list, in whichever order a directory lists them. -/
theorem mergeSort_names {xs ys : List Text} (hperm : xs.Perm ys)
    (hsorted : ys.Pairwise fun a b => Text.le a b = true) : xs.mergeSort Text.le = ys :=
  (mergeSort_eq_of_perm Text.le_iff_codes (fun _ _ _ _ h => Text.codes_injective h) hperm).trans
    (List.mergeSort_of_pairwise hsorted)

/-- **`filesOf_sorted`** — the files of a directory come in the strict order of their names. -/
theorem filesOf_sorted (honce : ListsOnce files source lang) (horigin : origin ∈ lang.queryLanguages) :
    (filesOf files source origin).Pairwise fun a b => a.path.name.codes < b.path.name.codes := by
  cases source with
  | packaged => exact List.pairwise_map.mpr (pack_sorted origin)
  | directory root =>
    refine List.pairwise_map.mpr (List.Pairwise.filter _ ?_)
    have hlisting := honce origin horigin
    unfold listing at hlisting
    unfold Files.filesIn
    cases hfind : files.find (root.child origin.name) with
    | error e => exact .nil
    | ok tree =>
      rw [hfind] at hlisting
      refine List.pairwise_map.mpr ?_
      refine (pairwise_lt_mergeSort Text.le_iff_codes ?_).imp fun h => ?_
      · refine (hlisting.sublist (filterMap_sublist_map ?_ tree.entries)).imp fun h =>
          Text.codes_injective.ne h
        rintro ⟨name, _ | _⟩ _ ⟨⟩
        rfl
      · dsimp only
        rw [name_child, name_child]
        exact h

/-- Lists in the strict order of names that have the same members are the same. -/
theorem eq_of_sorted_of_mem_iff {xs ys : List QueryFile}
    (hxs : xs.Pairwise fun a b => a.path.name.codes < b.path.name.codes)
    (hys : ys.Pairwise fun a b => a.path.name.codes < b.path.name.codes)
    (hmem : ∀ file, file ∈ xs ↔ file ∈ ys) : xs = ys := by
  have hperm : xs.Perm ys := by
    refine (List.perm_ext_iff_of_nodup (hxs.imp ?_) (hys.imp ?_)).mpr hmem
    · rintro a _ h rfl
      exact lt_irrefl _ h
    · rintro a _ h rfl
      exact lt_irrefl _ h
  refine hperm.eq_of_pairwise ?_ hxs hys
  intro a b _ _ hab hba
  exact absurd hab (lt_asymm hba)

/-- What is kept of a list is what is kept of the members of which something is kept. -/
theorem filterMap_eq_filterMap_filter {α β : Type} (f : α → Option β) (xs : List α) :
    xs.filterMap f = (xs.filter fun x => (f x).isSome).filterMap f := by
  rw [List.filterMap_filter]
  refine List.filterMap_congr fun x _ => ?_
  cases f x <;> rfl

/-- **`contributions_eq`** — two directories with the same files, but for some that are of no use,
contribute the same. -/
theorem contributions_eq (honce₁ : ListsOnce files₁ source lang) (honce₂ : ListsOnce files₂ source lang)
    (horigin : origin ∈ lang.queryLanguages)
    (hsame : ∀ file, ¬ Dropped toolkit grammar file →
      (file ∈ filesOf files₁ source origin ↔ file ∈ filesOf files₂ source origin)) :
    (filesOf files₁ source origin).filterMap (contribution toolkit grammar) =
      (filesOf files₂ source origin).filterMap (contribution toolkit grammar) := by
  have hfilter : (filesOf files₁ source origin).filter
        (fun file => (contribution toolkit grammar file).isSome) =
      (filesOf files₂ source origin).filter
        fun file => (contribution toolkit grammar file).isSome := by
    refine eq_of_sorted_of_mem_iff ((filesOf_sorted honce₁ horigin).filter _)
      ((filesOf_sorted honce₂ horigin).filter _) fun file => ?_
    rw [List.mem_filter, List.mem_filter]
    refine and_congr_left fun hsome => hsame file fun hdropped => ?_
    rw [hdropped.contribution] at hsome
    cases hsome
  rw [filterMap_eq_filterMap_filter, hfilter, ← filterMap_eq_filterMap_filter]

/-! ## Names -/

theorem parent_child (path : Path) (name : Text) : (path.child name).parent = path := by
  simp [Path.child, Path.parent]

theorem stem_append_suffix (path : Path) : path.stem ++ path.suffix = path.name := by
  unfold Path.stem Path.suffix
  cases Path.suffixStart? path.name with
  | none => exact List.append_nil _
  | some i => exact List.take_append_drop i path.name

/-- The name of a query file is that of its directory and its own, up to the suffix. -/
theorem name_of_mem_filesOf (h : file ∈ filesOf files source origin) :
    ∃ stem, file.name = origin.name ++ "/" ++ stem ∧ file.path.name = stem ++ ".scm" := by
  cases source with
  | packaged =>
    obtain ⟨packed, -, rfl⟩ := List.mem_map.mp h
    exact ⟨packed.name, rfl, rfl⟩
  | directory root =>
    obtain ⟨path, hpath, rfl⟩ := List.mem_map.mp h
    obtain ⟨hpath, hsuffix⟩ := List.mem_filter.mp hpath
    unfold Files.filesIn at hpath
    split at hpath
    · obtain ⟨name, -, rfl⟩ := List.mem_map.mp hpath
      refine ⟨((root.child origin.name).child name).stem, ?_, ?_⟩
      · dsimp only
        rw [parent_child, name_child]
      · dsimp only
        rw [← stem_append_suffix, eq_of_beq hsuffix]
    · cases hpath

/-- The name of a query says from which directory it is. -/
theorem origin_of_name {origin₁ origin₂ : Language} {stem₁ stem₂ : Text}
    (h : origin₁.name ++ "/" ++ stem₁ = origin₂.name ++ "/" ++ stem₂) : origin₁ = origin₂ := by
  have hhead : ∀ (origin : Language) (t : Text), (origin.name ++ t).head? = origin.name.head? := by
    intro origin t
    cases origin <;> rfl
  have hapart : ∀ a b : Language, a.name.head? = b.name.head? → a = b := by
    intro a b
    cases a <;> cases b <;> decide
  have hfirst := congrArg List.head? h
  rw [List.append_assoc, List.append_assoc, hhead, hhead] at hfirst
  exact hapart _ _ hfirst

/-- Within a directory, the queries are told apart by name. -/
theorem names_ne_of_sorted (honce : ListsOnce files source lang)
    (horigin : origin ∈ lang.queryLanguages) :
    (filesOf files source origin).Pairwise fun a b => a.name ≠ b.name := by
  refine (filesOf_sorted honce horigin).imp_of_mem fun {a b} ha hb hbefore hname => ?_
  obtain ⟨stem₁, hname₁, hpath₁⟩ := name_of_mem_filesOf ha
  obtain ⟨stem₂, hname₂, hpath₂⟩ := name_of_mem_filesOf hb
  rw [hname₁, hname₂] at hname
  rw [hpath₁, hpath₂, List.append_cancel_left hname] at hbefore
  exact lt_irrefl _ hbefore

/-- **`names_nodup`** — the query files of a language have names of their own. -/
theorem names_nodup (honce : ListsOnce files source lang) :
    (queryFiles files source lang).Pairwise fun a b => a.name ≠ b.name := by
  refine List.pairwise_flatMap.mpr ⟨fun origin horigin => names_ne_of_sorted honce horigin, ?_⟩
  have horigins : lang.queryLanguages.Nodup := by cases lang <;> decide
  refine horigins.imp fun hne a ha b hb hname => hne ?_
  obtain ⟨stem₁, hname₁, -⟩ := name_of_mem_filesOf ha
  obtain ⟨stem₂, hname₂, -⟩ := name_of_mem_filesOf hb
  rw [hname₁, hname₂] at hname
  exact origin_of_name hname

/-- A query has the name of its file. -/
theorem name_of_contribution {query : NamedQuery}
    (h : contribution toolkit grammar file = some query) : query.name = file.name := by
  unfold contribution at h
  split at h
  · cases h
  · split at h
    · cases h
    · split at h
      · cases h
      · dsimp only at h
        split at h <;> cases h
        rfl

/-- So have the queries of a language. -/
theorem contributed_names_nodup (honce : ListsOnce files source lang) :
    (((queryFiles files source lang).filterMap (contribution toolkit grammar)).map (·.name)).Nodup := by
  refine List.pairwise_map.mpr (List.pairwise_filterMap.mpr ?_)
  refine (names_nodup honce).imp fun {a b} hne q hq q' hq' hname => hne ?_
  rw [← name_of_contribution hq, ← name_of_contribution hq', hname]

/-- What the query files of a language contribute, in order. -/
def contributions (files : Files) (source : QuerySource) (lang : Language) (toolkit : Module)
    (grammar : GrammarRef) : List NamedQuery :=
  (queryFiles files source lang).filterMap (contribution toolkit grammar)

/-! ## Directories that differ in files of no use -/

/-- **`AlikeBut useless files₁ files₂ source lang`** — the query files of a language are the same,
but for some that are useless. -/
def AlikeBut (useless : QueryFile → Prop) (files₁ files₂ : Files) (source : QuerySource)
    (lang : Language) : Prop :=
  ∀ file, ¬ useless file →
    (file ∈ queryFiles files₁ source lang ↔ file ∈ queryFiles files₂ source lang)

/-- A query file has its directory in its name. -/
theorem mem_filesOf_of_mem_queryFiles (h₁ : file ∈ filesOf files₁ source origin)
    (h₂ : file ∈ queryFiles files₂ source lang) : file ∈ filesOf files₂ source origin := by
  obtain ⟨other, -, hother⟩ := List.mem_flatMap.mp h₂
  obtain ⟨stem₁, hname₁, -⟩ := name_of_mem_filesOf h₁
  obtain ⟨stem₂, hname₂, -⟩ := name_of_mem_filesOf hother
  rw [hname₁] at hname₂
  rwa [origin_of_name hname₂]

/-- So what holds of all files together holds of each directory. -/
theorem AlikeBut.filesOf {useless : QueryFile → Prop} (h : AlikeBut useless files₁ files₂ source lang)
    (horigin : origin ∈ lang.queryLanguages) (huseful : ¬ useless file) :
    file ∈ filesOf files₁ source origin ↔ file ∈ filesOf files₂ source origin := by
  constructor
  · intro hfile
    exact mem_filesOf_of_mem_queryFiles hfile
      ((h file huseful).mp (List.mem_flatMap.mpr ⟨origin, horigin, hfile⟩))
  · intro hfile
    exact mem_filesOf_of_mem_queryFiles hfile
      ((h file huseful).mpr (List.mem_flatMap.mpr ⟨origin, horigin, hfile⟩))

/-- **`queryFiles_eq`** — the order in which directories list their files is of no account. -/
theorem queryFiles_eq (honce₁ : ListsOnce files₁ source lang) (honce₂ : ListsOnce files₂ source lang)
    (hsame : ∀ file, file ∈ queryFiles files₁ source lang ↔ file ∈ queryFiles files₂ source lang) :
    queryFiles files₁ source lang = queryFiles files₂ source lang := by
  have halike : AlikeBut (fun _ => False) files₁ files₂ source lang := fun file _ => hsame file
  refine List.flatMap_congr fun origin horigin => ?_
  exact eq_of_sorted_of_mem_iff (filesOf_sorted honce₁ horigin) (filesOf_sorted honce₂ horigin)
    fun file => halike.filesOf horigin not_false

/-- **`AlikeBut.contributions`** — files that are of no use add nothing. -/
theorem AlikeBut.contributions (h : AlikeBut (Dropped toolkit grammar) files₁ files₂ source lang)
    (honce₁ : ListsOnce files₁ source lang) (honce₂ : ListsOnce files₂ source lang) :
    Engine.contributions files₁ source lang toolkit grammar =
      Engine.contributions files₂ source lang toolkit grammar := by
  unfold Engine.contributions queryFiles
  rw [List.filterMap_flatMap, List.filterMap_flatMap]
  refine List.flatMap_congr fun origin horigin => ?_
  exact contributions_eq honce₁ honce₂ horigin fun file huseful => h.filesOf horigin huseful

end HookAudit.Engine
