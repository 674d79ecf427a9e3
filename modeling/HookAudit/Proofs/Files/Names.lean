/-
# HookAudit.Proofs.Files.Names — the last component of a path, and its suffix.

What stands in front of the last slash of a written path plays no part in its name
(`name_ofText_append`), and the suffix of a path is that of its name.  A name that ends in an
extension, with anything in front of it, has it as its suffix (`suffix_eq_of_name`).  Lower case turns
nothing but a dot into a dot, so extensions are recognised in any letter case
(`IsExtension.of_lower`).

No name in a tree of files has a slash (`FileTree.Plain`).  So what is found below a directory is
called by its last component, also where that is written alone, and its language is that of its path
(`ofFilename?_name`).
-/
import HookAudit.Files.Tree
import HookAudit.Language.Basic
import HookAudit.Proofs.Entries
import HookAudit.Proofs.Text.Lines

namespace HookAudit

variable {t directory name stem e : Text} {p q : Path}

/-! ## Names -/

/-- **`t.NoSlash`** — a text without a slash. -/
def Text.NoSlash (t : Text) : Prop := ∀ c ∈ t, c.is '/' = false

instance (t : Text) : Decidable t.NoSlash := inferInstanceAs (Decidable (∀ c ∈ t, c.is '/' = false))

theorem Text.noSlash_append {a b : Text} : (a ++ b).NoSlash ↔ a.NoSlash ∧ b.NoSlash :=
  List.forall_mem_append

namespace Path

/-- **`IsName t`** — a text that stands for a component of a path: it has no slash, and it is neither
empty nor a dot. -/
structure IsName (t : Text) : Prop where
  noSlash : t.NoSlash
  nonempty : t ≠ []
  notDot : t ≠ "."

/-- **`name_ofText_append`** — a name behind a directory is the last component of the path. -/
theorem name_ofText_append
    (hdirectory : directory = [] ∨ directory.getLast? = some (.ofChar '/')) (h : IsName name) :
    (ofText (directory ++ name)).name = name := by
  -- the cut goes through the end of the directory, so the name is a piece of its own, the last one
  have hlast : ∃ pieces, Text.splitOn '/' (directory ++ name) = pieces ++ [name] := by
    have hname : Text.splitOn '/' name = [name] := by
      have hsplit := Text.splitWhere_append (b := []) h.noSlash
      rw [List.append_nil] at hsplit
      refine hsplit.trans ?_
      show [name ++ []] = [name]
      rw [List.append_nil]
    rcases hdirectory with rfl | hslash
    · exact ⟨[], hname⟩
    · obtain ⟨front, rfl⟩ := List.getLast?_eq_some_iff.mp hslash
      refine ⟨Text.splitOn '/' front, ?_⟩
      rw [List.append_assoc, List.singleton_append]
      exact (Text.splitWhere_append_of_cut (by decide) front name).trans (by rw [← hname]; rfl)
  obtain ⟨pieces, hpieces⟩ := hlast
  have hkept : (!name.isEmpty && name != ("." : Text)) = true := by
    simp [h.nonempty, h.notDot]
  show ((Text.splitOn '/' (directory ++ name)).filter _).getLast?.getD [] = name
  rw [hpieces, List.filter_append]
  simp [hkept]

/-- A name behind a slash. -/
theorem name_ofText_behind (directory : Text) (h : IsName name) :
    (ofText (directory ++ .ofChar '/' :: name)).name = name := by
  have hsplit : directory ++ .ofChar '/' :: name = (directory ++ [.ofChar '/']) ++ name := by simp
  rw [hsplit]
  exact name_ofText_append (.inr List.getLast?_concat) h

/-- A name on its own. -/
theorem name_ofText (h : IsName name) : (ofText name).name = name :=
  name_ofText_append (.inl rfl) h

/-! ## Suffixes -/

/-- The suffix of a path is that of its name. -/
theorem suffix_congr (h : p.name = q.name) : p.suffix = q.suffix := by
  unfold suffix
  rw [h]

theorem suffix_eq_nil (h : p.name = [] ∨ p.name = ".") : p.suffix = [] := by
  unfold suffix
  rcases h with h | h <;> rw [h] <;> rfl

/-- **`IsExtension e`** — a dot with something behind it, where there is no other dot and no slash. -/
structure IsExtension (e : Text) : Prop where
  dot : e.head? = some (.ofChar '.')
  behind : e.tail ≠ []
  noDot : ∀ c ∈ e.tail, c.is '.' = false
  noSlash : Text.NoSlash e.tail

theorem IsExtension.exists_eq (h : IsExtension e) : ∃ tail, e = .ofChar '.' :: tail ∧ tail ≠ [] ∧
    (∀ c ∈ tail, c.is '.' = false) ∧ Text.NoSlash tail := by
  cases e with
  | nil => cases h.dot
  | cons c tail =>
    cases h.dot
    exact ⟨tail, rfl, h.behind, h.noDot, h.noSlash⟩

/-- The last dot is the one with none behind it. -/
theorem lastDot?_append {tail : Text} (htail : ∀ c ∈ tail, c.is '.' = false) :
    lastDot? (stem ++ .ofChar '.' :: tail) = some stem.length := by
  have hreverse : (stem ++ .ofChar '.' :: tail).reverse =
      tail.reverse ++ .ofChar '.' :: stem.reverse := by simp
  have hnone : tail.reverse.findIdx? (·.is '.') = none := by
    simpa [List.findIdx?_eq_none_iff] using htail
  have hdot : (CodePoint.ofChar '.').is '.' = true := by decide
  unfold lastDot?
  rw [hreverse, List.findIdx?_append, hnone, List.findIdx?_cons, if_pos hdot]
  simp

/-- **`suffix_eq_of_name`** — a name that ends in an extension, behind something, has it as its
suffix. -/
theorem suffix_eq_of_name (hname : p.name = stem ++ e) (hstem : stem ≠ []) (he : IsExtension e) :
    p.suffix = e := by
  obtain ⟨tail, rfl, hbehind, hnoDot, -⟩ := he.exists_eq
  have hstart : suffixStart? (stem ++ .ofChar '.' :: tail) = some stem.length := by
    have hfront : 0 < stem.length := List.length_pos_iff.mpr hstem
    have hback : 0 < tail.length := List.length_pos_iff.mpr hbehind
    unfold suffixStart?
    rw [lastDot?_append hnoDot]
    refine if_pos ?_
    simp only [List.length_append, List.length_cons, Bool.and_eq_true, decide_eq_true_eq]
    omega
  unfold suffix
  rw [hname, hstart]
  exact List.drop_left

theorem isName_append (hstem : stem ≠ []) (hslash : stem.NoSlash) (he : IsExtension e) :
    IsName (stem ++ e) := by
  obtain ⟨tail, rfl, -, -, htail⟩ := he.exists_eq
  refine ⟨Text.noSlash_append.mpr ⟨hslash, List.forall_mem_cons.mpr ⟨by decide, htail⟩⟩,
    List.append_ne_nil_of_left_ne_nil hstem _, fun h => ?_⟩
  have hlength : (stem ++ .ofChar '.' :: tail).length = 1 := congrArg List.length h
  have hfront : 0 < stem.length := List.length_pos_iff.mpr hstem
  simp at hlength
  omega

end Path

/-! ## Letter case -/

/-- Only a dot is a dot in lower case: no letter of any script comes down to it. -/
theorem CodePoint.eq_dot_of_lower {c : CodePoint} (h : c.lower = .ofChar '.') : c = .ofChar '.' := by
  -- each run of the table is shifted to a place behind the dot
  have hruns : ∀ run ∈ Text.lowerRuns, (46 : Int) < run.1 + run.2.2.2 := by decide +kernel
  have hval : c.lowerVal = 46 := by
    have hlower : (ofNat c.lowerVal).val = 46 := congrArg CodePoint.val h
    unfold ofNat at hlower
    split at hlower
    · exact hlower
    · cases hlower
  have hdot : c.val = 46 := by
    unfold lowerVal at hval
    split at hval
    · split at hval
      · rename_i hcapital
        simp only [Bool.and_eq_true, decide_eq_true_eq] at hcapital
        omega
      · exact hval
    · split at hval
      · cases hval
      · split at hval
        · rename_i first last step offset hfind
          have hrun := hruns _ (List.mem_of_find?_eq_some hfind)
          have hfirst := List.find?_some hfind
          simp only [Bool.and_eq_true, decide_eq_true_eq] at hfirst
          dsimp only at hrun
          omega
        · exact hval
  exact CodePoint.is_iff.mp (beq_iff_eq.mpr hdot)

namespace Text

theorem lower_cons (c : CodePoint) (t : Text) : lower (c :: t) =
    (if c.val == 0x130 then [.ofNat 0x69, .ofNat 0x307] else [c.lower]) ++ lower t := rfl

/-- Punctuation stays what it is in lower case. -/
theorem mem_lower {z : Char} (hlower : (CodePoint.ofChar z).lower = .ofChar z)
    (hplain : (CodePoint.ofChar z).val ≠ 0x130) (h : .ofChar z ∈ t) : .ofChar z ∈ t.lower := by
  refine List.mem_flatMap.mpr ⟨_, h, ?_⟩
  rw [if_neg (by simpa using hplain), hlower]
  exact List.mem_singleton_self _

end Text

/-- **`IsExtension.of_lower`** — what is an extension in lower case is one as written. -/
theorem Path.IsExtension.of_lower (h : IsExtension e.lower) : IsExtension e := by
  obtain ⟨letters, hlower, hsome, hnoDot, hnoSlash⟩ := h.exists_eq
  cases e with
  | nil => cases hlower
  | cons c tail =>
    rw [Text.lower_cons] at hlower
    split at hlower
    · -- the one capital that comes down to two characters, and the first of them is a letter
      cases hlower
    obtain ⟨hdot, rfl⟩ := List.cons.inj hlower
    obtain rfl := CodePoint.eq_dot_of_lower hdot
    refine ⟨rfl, ?_, fun c hc => ?_, fun c hc => ?_⟩
    · rintro rfl
      exact hsome rfl
    · refine Bool.eq_false_iff.mpr fun his => ?_
      obtain rfl := CodePoint.is_iff.mp his
      exact absurd (hnoDot _ (Text.mem_lower (by decide) (by decide) hc)) (by decide)
    · refine Bool.eq_false_iff.mpr fun his => ?_
      obtain rfl := CodePoint.is_iff.mp his
      exact absurd (hnoSlash _ (Text.mem_lower (by decide) (by decide) hc)) (by decide)

/-! ## Languages -/

namespace Language

variable {lang : Language}

theorem isExtension_of_mem (h : (e, lang) ∈ extensions) : Path.IsExtension e := by
  have hall : ∀ entry ∈ extensions, entry.1.head? = some (.ofChar '.') ∧ entry.1.tail ≠ [] ∧
      (∀ c ∈ entry.1.tail, c.is '.' = false) ∧ Text.NoSlash entry.1.tail := by decide
  obtain ⟨hdot, hbehind, hnoDot, hnoSlash⟩ := hall _ h
  exact ⟨hdot, hbehind, hnoDot, hnoSlash⟩

theorem lookup_extensions_eq_some_iff :
    extensions.lookup e = some lang ↔ (e, lang) ∈ extensions :=
  lookup_eq_some_iff_of_nodup (by decide)

/-- An empty file name has no suffix to look up. -/
theorem ofFilename?_some (name : Text) :
    ofFilename? (some name) = extensions.lookup (Path.ofText name).suffix.lower := by
  cases name <;> rfl

/-- **`ofFilename?_of_extension`** — a file with an extension of a language, in any letter case and
any directory, is in that language. -/
theorem ofFilename?_of_extension
    (hdirectory : directory = [] ∨ directory.getLast? = some (.ofChar '/')) (hstem : stem ≠ [])
    (hslash : stem.NoSlash) (he : (e.lower, lang) ∈ extensions) :
    ofFilename? (some (directory ++ (stem ++ e))) = some lang := by
  have hextension : Path.IsExtension e := (isExtension_of_mem he).of_lower
  have hname := Path.name_ofText_append hdirectory (Path.isName_append hstem hslash hextension)
  rw [ofFilename?_some, Path.suffix_eq_of_name hname hstem hextension]
  exact lookup_extensions_eq_some_iff.mpr he

/-- **`ofFilename?_name`** — the language of a path is that of its name. -/
theorem ofFilename?_name (hslash : p.name.NoSlash) :
    ofFilename? (some p.name) = extensions.lookup p.suffix.lower := by
  rw [ofFilename?_some]
  by_cases hdegenerate : p.name = [] ∨ p.name = "."
  · -- neither has a suffix, and neither has it when read as a path
    rw [Path.suffix_eq_nil hdegenerate]
    rcases hdegenerate with h | h <;> rw [h] <;> rfl
  · obtain ⟨hnonempty, hnotDot⟩ := not_or.mp hdegenerate
    rw [Path.suffix_congr (Path.name_ofText ⟨hslash, hnonempty, hnotDot⟩)]

end Language

/-! ## Trees of files -/

namespace FileTree

variable {tree here body : FileTree} {above : List FileTree} {parts : List Text}
  {entries : List (Text × FileTree)}

/-- **`tree.Plain`** — no name in a tree of files has a slash. -/
inductive Plain : FileTree → Prop where
  | file (octets : Text.Octets) : Plain (.file octets)
  | directory {entries : List (Text × FileTree)} (names : ∀ entry ∈ entries, entry.1.NoSlash)
      (below : ∀ entry ∈ entries, Plain entry.2) : Plain (.directory entries)

theorem Plain.empty : Plain .empty := .directory nofun nofun

theorem Plain.entry (h : tree.Plain) :
    ∀ entry ∈ tree.entries, entry.1.NoSlash ∧ entry.2.Plain := by
  cases h with
  | file => nofun
  | directory hnames hbelow => exact fun entry hentry => ⟨hnames entry hentry, hbelow entry hentry⟩

/-- **`Plain.follow`** — what a path leads to is plain, wherever it turns back. -/
theorem Plain.follow (hhere : here.Plain) (habove : ∀ parent ∈ above, parent.Plain)
    (h : here.follow above parts = .ok tree) : tree.Plain := by
  induction parts generalizing here above with
  | nil =>
    cases h
    exact hhere
  | cons part rest ih =>
    unfold FileTree.follow at h
    split at h
    · cases h
    · rename_i entries
      split at h
      · split at h
        · cases h
        · obtain ⟨hparent, hothers⟩ := List.forall_mem_cons.mp habove
          exact ih hparent hothers h
      · split at h
        · cases h
        · rename_i next hlookup
          obtain ⟨earlier, later, hsplit, -⟩ := List.lookup_eq_some_iff.mp hlookup
          have hnext := hhere.entry (part, next) (by simp [FileTree.entries, hsplit])
          exact ih hnext.2 (List.forall_mem_cons.mpr ⟨hhere, habove⟩) h

/-- **`Plain.put`** — a plain tree stays so when something plain is put at a path without slashes. -/
theorem Plain.put (h : tree.Plain) (hbody : body.Plain) (hparts : ∀ part ∈ parts, part.NoSlash) :
    (tree.put body parts).Plain := by
  induction parts generalizing tree with
  | nil => exact hbody
  | cons part rest ih =>
    obtain ⟨hpart, hrest⟩ := List.forall_mem_cons.mp hparts
    have hold : ((tree.entries.lookup part).getD .empty).Plain := by
      cases hlookup : tree.entries.lookup part with
      | none => exact .empty
      | some old =>
        obtain ⟨earlier, later, hsplit, -⟩ := List.lookup_eq_some_iff.mp hlookup
        exact (h.entry (part, old) (by simp [hsplit])).2
    have hnext := ih hold hrest
    unfold FileTree.put
    dsimp only
    split
    · refine .directory (List.forall_mem_map.mpr fun entry hentry => ?_)
        (List.forall_mem_map.mpr fun entry hentry => ?_)
      · split
        · exact hpart
        · exact (h.entry entry hentry).1
      · split
        · exact hnext
        · exact (h.entry entry hentry).2
    · exact .directory
        (List.forall_mem_append.mpr ⟨fun entry hentry => (h.entry entry hentry).1, by simpa⟩)
        (List.forall_mem_append.mpr ⟨fun entry hentry => (h.entry entry hentry).2, by simpa⟩)

mutual

/-- The components of the paths of all files are names in the tree. -/
theorem Plain.filePaths : ∀ tree : FileTree, tree.Plain →
    ∀ parts ∈ tree.filePaths, ∀ part ∈ parts, part.NoSlash
  | .file _, _ => by
    intro parts hparts
    cases List.mem_singleton.mp hparts
    exact List.forall_mem_nil _
  | .directory entries, h => Plain.filePathsIn entries h.entry

theorem Plain.filePathsIn : ∀ entries : List (Text × FileTree),
    (∀ entry ∈ entries, entry.1.NoSlash ∧ entry.2.Plain) →
    ∀ parts ∈ FileTree.filePathsIn entries, ∀ part ∈ parts, part.NoSlash
  | [], _ => nofun
  | (name, tree) :: rest, h => by
    obtain ⟨⟨hname, htree⟩, hrest⟩ := List.forall_mem_cons.mp h
    intro parts hparts
    rcases List.mem_append.mp hparts with hparts | hparts
    · obtain ⟨below, hbelow, rfl⟩ := List.mem_map.mp hparts
      exact List.forall_mem_cons.mpr ⟨hname, Plain.filePaths tree htree below hbelow⟩
    · exact Plain.filePathsIn rest hrest parts hparts

end

/-- Below a directory, every path starts with a name. -/
theorem ne_nil_of_mem_filePathsIn (h : parts ∈ filePathsIn entries) : parts ≠ [] := by
  induction entries with
  | nil => cases h
  | cons entry rest ih =>
    rcases List.mem_append.mp h with h | h
    · obtain ⟨below, -, rfl⟩ := List.mem_map.mp h
      exact List.cons_ne_nil _ _
    · exact ih h

end FileTree

namespace Files

variable {files : Files}

/-- What is found below a path are the files of the tree it leads to. -/
theorem mem_filesBelow_iff : q ∈ files.filesBelow p ↔ ∃ tree, files.find p = .ok tree ∧
    ∃ parts ∈ tree.filePaths, { p with parts := p.parts ++ parts } = q := by
  unfold filesBelow
  cases files.find p with
  | error e => simp
  | ok tree => simp [List.mem_mergeSort]

/-- **`noSlash_of_mem_filesBelow`** — what is found below a directory has a name without a slash. -/
theorem noSlash_of_mem_filesBelow (hplain : files.tree.Plain) (hdirectory : files.isDirectory p = true)
    (h : q ∈ files.filesBelow p) : q.name.NoSlash := by
  obtain ⟨tree, hfind, parts, hparts, rfl⟩ := mem_filesBelow_iff.mp h
  have htree : tree.Plain := hplain.follow (List.forall_mem_nil _) hfind
  have hsome : parts ≠ [] := by
    unfold isDirectory at hdirectory
    rw [hfind] at hdirectory
    cases tree with
    | file octets => cases hdirectory
    | directory entries => exact FileTree.ne_nil_of_mem_filePathsIn hparts
  have hname : (p.parts ++ parts).getLast?.getD [] = parts.getLast hsome := by
    rw [List.getLast?_append, List.getLast?_eq_some_getLast hsome]
    rfl
  show Text.NoSlash ((p.parts ++ parts).getLast?.getD [])
  rw [hname]
  exact FileTree.Plain.filePaths tree htree parts hparts _ (List.getLast_mem hsome)

end Files

end HookAudit
