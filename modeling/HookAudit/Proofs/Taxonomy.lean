/-
# HookAudit.Proofs.Taxonomy — a risk name belongs to its longest prefix and shows what it implies.

Some categories have a prefix that begins the prefix of another, and the table tries the longer one
first (`ranked_apart`).  So the first category that fits a name is the one with the longest prefix
(`classify_mostSpecific`).

What a category implies is declared in the table, and what a name gives away is read off its pieces.
Each prefix gives away what its category declares, and a name gives away whatever a piece of it does,
so the declarations add nothing to the reading (`capabilitiesOf_classify`).  A report therefore shows
a capability exactly when the name of some capture has one of the pieces for it
(`capabilities_are_read_off_names`).
-/
import HookAudit.Proofs.Capabilities
import HookAudit.Proofs.Score.Unique

namespace HookAudit

/-! ## Pieces of a name -/

theorem Text.startsWith_iff_prefix {t piece : Text} : t.startsWith piece = true ↔ piece <+: t :=
  List.isPrefixOf_iff_prefix

theorem Text.contains_iff_infix {t piece : Text} : Text.contains piece t = true ↔ piece <:+: t := by
  induction t with
  | nil => rw [Text.contains, List.isEmpty_iff, List.infix_nil]
  | cons c rest ih =>
    rw [Text.contains, Bool.or_eq_true, List.isPrefixOf_iff_prefix, ih, List.infix_cons_iff]

namespace Capabilities

variable {piece name : Text}

/-- **`ofRiskName_within`** — a name gives away all that a piece of it does. -/
theorem ofRiskName_within (h : piece <:+: name) : (ofRiskName piece).Within (ofRiskName name) := by
  have hpiece : ∀ {word : Text}, Text.contains word piece = true → Text.contains word name = true :=
    fun hword => Text.contains_iff_infix.mpr ((Text.contains_iff_infix.mp hword).trans h)
  exact {
    fileSystem := hpiece
    network := hpiece
    processExecution := fun hexec =>
      Bool.or_eq_true_iff.mpr ((Bool.or_eq_true_iff.mp hexec).imp hpiece hpiece)
    dangerousImports := hpiece
    credentialAccess := hpiece }

/-- **`c.ReadOff names`** — a capability is there exactly when one of the names has a piece that gives
it away. -/
structure ReadOff (c : Capabilities) (names : List Text) : Prop where
  fileSystem : c.fileSystem = true ↔ ∃ name ∈ names, Text.ofString "fs" <:+: name
  network : c.network = true ↔ ∃ name ∈ names, Text.ofString "net" <:+: name
  processExecution : c.processExecution = true ↔
    ∃ name ∈ names, Text.ofString "exec" <:+: name ∨ Text.ofString "eval" <:+: name
  dangerousImports : c.dangerousImports = true ↔
    ∃ name ∈ names, Text.ofString "danger.import" <:+: name
  credentialAccess : c.credentialAccess = true ↔
    ∃ name ∈ names, Text.ofString "taint.env" <:+: name

/-- What several names give away together is read off all of them. -/
theorem readOff_unions (names : List Text) : (unions (names.map ofRiskName)).ReadOff names := by
  have hflag : ∀ {flag : Capabilities → Bool}, flag none = false →
      (∀ a b : Capabilities, flag (a.union b) = (flag a || flag b)) →
      (flag (unions (names.map ofRiskName)) = true ↔ ∃ name ∈ names, flag (ofRiskName name) = true) := by
    intro flag hnone hunion
    rw [flag_unions hnone hunion, List.any_map, List.any_eq_true]
    rfl
  constructor <;> refine (hflag rfl fun _ _ => rfl).trans ?_
  case processExecution => simp only [ofRiskName, Bool.or_eq_true, Text.contains_iff_infix]
  all_goals simp only [ofRiskName, Text.contains_iff_infix]

/-- Names that occur equally are read alike. -/
theorem ReadOff.congr {c : Capabilities} {names more : List Text} (h : c.ReadOff names)
    (hsame : ∀ name, name ∈ names ↔ name ∈ more) : c.ReadOff more := by
  obtain ⟨hfile, hnetwork, hexec, himports, hcredentials⟩ := h
  simp only [hsame] at hfile hnetwork hexec himports hcredentials
  exact ⟨hfile, hnetwork, hexec, himports, hcredentials⟩

end Capabilities

namespace RiskCategory

variable {category other : RiskCategory} {name : Text}

/-! ## The category of a name -/

/-- **`category.MostSpecific name`** — of all categories whose prefix the name starts with, the
category is the one with the longest. -/
structure MostSpecific (category : RiskCategory) (name : Text) : Prop where
  starts : category.prefixText <+: name
  longest : ∀ other : RiskCategory, other.prefixText <+: name → other ≠ category →
    other.prefixText.length < category.prefixText.length

theorem mem_ranked (h : category ≠ unclassified) : category ∈ ranked := by
  cases category <;> first | exact absurd rfl h | decide

/-- **`ranked_apart`** — no prefix is tried before one that it begins. -/
theorem ranked_apart :
    ranked.Pairwise fun earlier later => ¬ earlier.prefixText <+: later.prefixText := by
  decide +kernel

theorem prefixText_ne_nil (h : category ∈ ranked) : category.prefixText ≠ [] := by
  revert category
  decide

/-- Of two beginnings of a text, one that does not begin the other is longer. -/
theorem length_lt_of_not_prefix {a b : Text} (ha : a <+: name) (hb : b <+: name)
    (h : ¬ a <+: b) : b.length < a.length :=
  Nat.lt_of_not_le fun hle => h (List.prefix_of_prefix_length_le ha hb hle)

/-- **`classify_mostSpecific`** — the first category that fits a name is the most specific one. -/
theorem classify_mostSpecific (name : Text) : (classify name).MostSpecific name := by
  unfold classify
  cases hfind : ranked.find? fun category => name.startsWith category.prefixText with
  | none =>
    refine ⟨List.nil_prefix, fun other hother hne => ?_⟩
    have hnot := List.find?_eq_none.mp hfind other (mem_ranked hne)
    exact absurd (Text.startsWith_iff_prefix.mpr hother) hnot
  | some category =>
    obtain ⟨hstarts, before, after, hsplit, hbefore⟩ := List.find?_eq_some_iff_append.mp hfind
    have hcategory : category.prefixText <+: name := Text.startsWith_iff_prefix.mp hstarts
    refine ⟨hcategory, fun other hother hne => ?_⟩
    by_cases hranked : other = unclassified
    · have hmem : category ∈ ranked := hsplit ▸ List.mem_append_right _ List.mem_cons_self
      rw [hranked]
      exact List.length_pos_iff.mpr (prefixText_ne_nil hmem)
    have hmem : other ∈ before ++ category :: after := hsplit ▸ mem_ranked hranked
    rcases List.mem_append.mp hmem with hearlier | hlater
    · have hnot := hbefore other hearlier
      rw [Text.startsWith_iff_prefix.mpr hother] at hnot
      cases hnot
    · have hapart := ranked_apart
      rw [hsplit] at hapart
      have hlater := (List.mem_cons.mp hlater).resolve_left hne
      exact length_lt_of_not_prefix hcategory hother
        (List.rel_of_pairwise_cons (List.pairwise_append.mp hapart).2.1 hlater)

/-! ## What it implies -/

/-- The prefix of a category gives away what the category declares. -/
theorem capabilities_within (category : RiskCategory) :
    category.capabilities.Within (.ofRiskName category.prefixText) := by
  cases category <;> constructor <;> decide

/-- **`capabilitiesOf_classify`** — what the category of a name declares, the name gives away. -/
theorem capabilitiesOf_classify (name : Text) :
    (classify name).capabilitiesOf name = .ofRiskName name :=
  Capabilities.union_eq_right <| (capabilities_within _).trans <|
    Capabilities.ofRiskName_within (classify_mostSpecific name).starts.isInfix

/-- **`capabilities_are_read_off_names`** — a name belongs to the category with the longest prefix
that it starts with, and what it implies in this category is what its pieces give away.  So a report
shows a capability exactly when some capture has a name with a piece for it. -/
theorem capabilities_are_read_off_names :
    (∀ name, (classify name).MostSpecific name ∧
      (classify name).capabilitiesOf name = .ofRiskName name) ∧
    ∀ captures limit,
      (Score.report captures limit).capabilities.ReadOff (captures.map (·.name)) := by
  refine ⟨fun name => ⟨classify_mostSpecific name, capabilitiesOf_classify name⟩,
    fun captures limit => ?_⟩
  have hread : (Score.report captures limit).capabilities =
      Capabilities.unions (((Score.unique captures).map (·.name)).map .ofRiskName) := by
    simp only [Score.report, Score.capabilities, capabilitiesOf_classify, List.map_map,
      Function.comp_def]
  rw [hread]
  refine (Capabilities.readOff_unions _).congr fun name => ?_
  -- of captures with one key, a single one is left, and it has the name of the others
  simp only [List.mem_map]
  constructor
  · rintro ⟨c, hc, rfl⟩
    exact ⟨c, Score.mem_of_mem_unique hc, rfl⟩
  · rintro ⟨c, hc, rfl⟩
    obtain ⟨first, hfirst, hkey⟩ := Score.exists_mem_unique hc
    exact ⟨first, hfirst, congrArg Prod.fst hkey⟩

end RiskCategory

end HookAudit
