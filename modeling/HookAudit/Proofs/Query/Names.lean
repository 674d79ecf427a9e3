/-
# HookAudit.Proofs.Query.Names — the names of captures.

A pattern binds nodes under the names it declares (`Pattern.declares`), so a query finds under its
own names only.  The names that a query declares are words of its text, and a word ends with its
line at the latest: whatever is read, its names are on one line (`oneLine_of_read`).  Readers are
mutual, so the readers of a given fuel are treated together, as one structure, by induction on it.
-/
import HookAudit.Detection
import HookAudit.Proofs.Text.Lines
import HookAudit.Query.Reader

namespace HookAudit.Query

variable {p : Pattern} {n : Node} {bound : Bindings} {further : List Text} {name : Text}

theorem mem_dedup {names : List Text} : name ∈ dedup names ↔ name ∈ names := by
  induction names with
  | nil => rfl
  | cons other rest ih =>
    simp only [dedup, List.mem_cons, List.mem_filter, ih, bne_iff_ne]
    by_cases h : name = other <;> simp [h]

/-! ## What patterns bind -/

/-- The names under which nodes are bound. -/
def boundNames (bound : Bindings) : List Text := bound.map (·.1)

theorem boundNames_append (a b : Bindings) : boundNames (a ++ b) = boundNames a ++ boundNames b :=
  List.map_append

theorem boundNames_bindAll (names : List Text) (n : Node) :
    boundNames (bindAll names n) = names := by
  simp [boundNames, bindAll, Function.comp_def]

mutual

/-- **`Pattern.declares`** — a pattern binds under its own names and those handed down. -/
theorem Pattern.declares (further : List Text) : ∀ (p : Pattern) (n : Node),
    ∀ bound ∈ p.matches further n, boundNames bound ⊆ p.captureNames ++ further
  | .node test absent inside captures, n => by
    intro bound hbound
    unfold Pattern.matches at hbound
    split at hbound
    · obtain ⟨below, hbelow, rfl⟩ := List.mem_map.mp hbound
      have hinside := Sequence.declares inside n.children below hbelow
      rw [boundNames_append, boundNames_bindAll, Pattern.captureNames]
      refine List.append_subset.mpr ⟨?_, List.Subset.trans hinside ?_⟩
      · rw [List.append_assoc]
        exact List.subset_append_right _ _
      · rw [List.append_assoc]
        exact List.subset_append_left _ _
    · cases hbound
  | .choice options captures, n => by
    intro bound hbound
    have hoptions := Options.declares (captures ++ further) options n bound hbound
    rwa [Pattern.captureNames, List.append_assoc]

theorem Sequence.declares : ∀ (patterns : Sequence) (ns : List Node),
    ∀ bound ∈ patterns.matches ns, boundNames bound ⊆ patterns.captureNames
  | .done closed, ns => by
    intro bound hbound
    unfold Sequence.matches at hbound
    split at hbound
    · cases hbound
    · rw [List.mem_singleton.mp hbound]
      exact List.nil_subset _
  | .next anchored field quantity pattern rest, ns => by
    intro bound hbound
    unfold Sequence.matches at hbound
    dsimp only at hbound
    -- wherever the first pattern is found, it binds under names of its own
    have hfound : ∀ found ∈ (candidates anchored ns).flatMap fun (n, after) =>
        if hasRole field n then (pattern.matches [] n).map (·, after) else [],
        boundNames found.1 ⊆ pattern.captureNames := by
      intro found hfound
      obtain ⟨⟨n, after⟩, -, hfound⟩ := List.mem_flatMap.mp hfound
      dsimp only at hfound
      split at hfound
      · obtain ⟨below, hbelow, rfl⟩ := List.mem_map.mp hfound
        simpa using Pattern.declares [] pattern n below hbelow
      · cases hfound
    revert hfound hbound
    generalize ((candidates anchored ns).flatMap fun (n, after) =>
      if hasRole field n then (pattern.matches [] n).map (·, after) else []) = found
    intro hbound hfound
    have hrest : ∀ after, ∀ others ∈ rest.matches after,
        boundNames others ⊆ pattern.captureNames ++ rest.captureNames := fun after others hothers =>
      List.subset_append_of_subset_right _ (Sequence.declares rest after others hothers)
    have hjoined : ∀ first : Bindings, boundNames first ⊆ pattern.captureNames →
        ∀ after, ∀ bound ∈ (rest.matches after).map (first ++ ·),
          boundNames bound ⊆ pattern.captureNames ++ rest.captureNames := by
      intro first hfirst after bound hbound
      obtain ⟨others, hothers, rfl⟩ := List.mem_map.mp hbound
      rw [boundNames_append]
      exact List.append_subset.mpr
        ⟨List.subset_append_of_subset_left _ hfirst, hrest after others hothers⟩
    have hcontinued : ∀ bound ∈ found.flatMap (fun (bound, after) =>
        (rest.matches after).map (bound ++ ·)),
        boundNames bound ⊆ pattern.captureNames ++ rest.captureNames := by
      intro bound hbound
      obtain ⟨⟨first, after⟩, hfirst, hbound⟩ := List.mem_flatMap.mp hbound
      exact hjoined first (hfound _ hfirst) after bound hbound
    have hrepeated : ∀ bound ∈ (match found.getLast? with
        | none => []
        | some (_, after) => 
          (rest.matches after).map ((found.flatMap fun one : Bindings × List Node => one.1) ++ ·)),
        boundNames bound ⊆ pattern.captureNames ++ rest.captureNames := by
      intro bound hbound
      split at hbound
      · cases hbound
      · refine hjoined _ ?_ _ bound hbound
        intro name hname
        obtain ⟨entry, hentry, rfl⟩ := List.mem_map.mp hname
        obtain ⟨one, hone, hentry⟩ := List.mem_flatMap.mp hentry
        exact hfound one hone (List.mem_map_of_mem hentry)
    rw [Sequence.captureNames]
    cases quantity with
    | once => exact hcontinued bound hbound
    | optional =>
      dsimp only at hbound
      split at hbound
      · exact hrest ns bound hbound
      · exact hcontinued bound hbound
    | some => exact hrepeated bound hbound
    | many =>
      dsimp only at hbound
      split at hbound
      · exact hrest ns bound hbound
      · exact hrepeated bound hbound

theorem Options.declares (further : List Text) : ∀ (options : Options) (n : Node),
    ∀ bound ∈ options.matches further n, boundNames bound ⊆ options.captureNames ++ further
  | .none, n => by
    intro bound hbound
    cases hbound
  | .more pattern rest, n => by
    intro bound hbound
    rw [Options.captureNames]
    rcases List.mem_append.mp hbound with hfirst | hrest
    · exact List.Subset.trans (Pattern.declares further pattern n bound hfirst) (by simp)
    · exact List.Subset.trans (Options.declares further rest n bound hrest) (by simp)

end

/-- **`names_of_mem_matches`** — a query finds under the names that it declares. -/
theorem names_of_mem_matches {q : HookAudit.Query} {root : Node} {source : Text.Octets} {m : Match}
    (hm : m ∈ q.matches root source) : ∀ entry ∈ m.spans, entry.1 ∈ q.captureNames := by
  intro entry hentry
  obtain ⟨n, -, hm⟩ := List.mem_flatMap.mp hm
  obtain ⟨rule, hrule, hm⟩ := List.mem_flatMap.mp hm
  obtain ⟨bound, hbound, rfl⟩ := List.mem_map.mp hm
  obtain ⟨found, hfound, rfl⟩ := List.mem_map.mp hentry
  obtain ⟨name, hname, rfl⟩ := List.mem_map.mp hfound
  have hnames := rule.pattern.declares [] n bound (List.mem_filter.mp hbound).1
  rw [List.append_nil] at hnames
  exact mem_dedup.mpr (List.mem_flatMap.mpr ⟨rule, hrule, hnames (mem_dedup.mp hname)⟩)

/-! ## What readers read -/

namespace Reader

variable {α β : Type} {r : Reader α} {P : α → Prop} {Q : β → Prop}

/-- **`r.Yields P`** — whatever is read satisfies `P`. -/
def Yields (r : Reader α) (P : α → Prop) : Prop := ∀ c a c', r c = .ok (a, c') → P a

theorem Yields.pure {a : α} (h : P a) : (Pure.pure a : Reader α).Yields P := by
  rintro c _ _ ⟨⟩
  exact h

theorem Yields.failAt (fault : Fault) (rest : Text) :
    (Reader.failAt fault rest : Reader α).Yields P := by
  rintro c a c' ⟨⟩

theorem Yields.fail (fault : Fault) : (Reader.fail fault : Reader α).Yields P := by
  rintro c a c' ⟨⟩

theorem Yields.bind {next : α → Reader β} (hr : r.Yields P) (hnext : ∀ a, P a → (next a).Yields Q) :
    (r >>= next).Yields Q := by
  intro c b c' h
  change (r c >>= fun read => next read.1 read.2) = _ at h
  cases hread : r c with
  | error stuck =>
    rw [hread] at h
    cases h
  | ok read =>
    rw [hread] at h
    exact hnext read.1 (hr c read.1 read.2 hread) read.2 b c' h

/-- Behind something of which nothing has to be known. -/
theorem Yields.behind {next : α → Reader β} (hnext : ∀ a, (next a).Yields Q) :
    (r >>= next).Yields Q :=
  Yields.bind (P := fun _ => True) (fun _ _ _ _ => trivial) fun a _ => hnext a

/-- Going on unless something is wrong. -/
theorem Yields.orStop {wrong : Bool} {stop : Reader Unit} {next : Unit → Reader β}
    (hnext : (next ()).Yields Q) :
    (if wrong = true then stop >>= next else next ()).Yields Q := by
  split
  · exact .behind fun _ => hnext
  · exact hnext

end Reader

/-! ## What names are read -/

open Reader

/-- A pattern whose names are on one line. -/
def Pattern.Plain (p : Pattern) : Prop := ∀ name ∈ p.captureNames, name.OneLine

/-- Alternatives whose names are on one line. -/
def Options.Plain (options : Options) : Prop := ∀ name ∈ options.captureNames, name.OneLine

/-- Siblings whose names are on one line. -/
def PlainMembers (members : List Member) : Prop := ∀ m ∈ members, m.pattern.Plain

theorem oneLine_wordOf (t : Text) : (wordOf t).OneLine := by
  intro c hc
  have hword := List.all_eq_true.mp List.all_takeWhile c hc
  by_contra hnewline
  have hten : c.val = 10 := by simpa [CodePoint.is] using hnewline
  simp [startsWord, CodePoint.isWord, CodePoint.isAsciiLetter, CodePoint.isAsciiDigit,
    CodePoint.is, hten] at hword

theorem word_yields : word.Yields Text.OneLine :=
  Yields.behind fun rest => Yields.behind fun _ => .pure (oneLine_wordOf rest)

theorem Pattern.Plain.as (hp : p.Plain) (hname : name.OneLine) : (p.as name).Plain := by
  cases p with
  | node test absent inside captures =>
    intro other hother
    simp only [Pattern.as, Pattern.captureNames, ← List.append_assoc, List.mem_append,
      List.mem_singleton] at hother
    rcases hother with hother | rfl
    · exact hp other (List.mem_append.mpr hother)
    · exact hname
  | choice options captures =>
    intro other hother
    simp only [Pattern.as, Pattern.captureNames, ← List.append_assoc, List.mem_append,
      List.mem_singleton] at hother
    rcases hother with hother | rfl
    · exact hp other (List.mem_append.mpr hother)
    · exact hname

theorem PlainMembers.changeFirst {members : List Member} {change : Member → Member}
    (hmembers : PlainMembers members) (hchange : ∀ m, m.pattern.Plain → (change m).pattern.Plain) :
    PlainMembers (changeFirst change members) := by
  cases members with
  | nil => exact hmembers
  | cons m rest =>
    obtain ⟨hm, hrest⟩ := List.forall_mem_cons.mp hmembers
    exact List.forall_mem_cons.mpr ⟨hchange m hm, hrest⟩

theorem suffixes_yields (fuel : Nat) {members : List Member} (hmembers : PlainMembers members) :
    (suffixes fuel members).Yields PlainMembers := by
  induction fuel generalizing members with
  | zero => exact .pure hmembers
  | succ fuel ih =>
    unfold suffixes
    have hquantified : ∀ q : Quantity, (do
        Reader.skip 1
        suffixes fuel (members.map fun m => { m with quantity := m.quantity.join q }) :
          Reader (List Member)).Yields PlainMembers :=
      fun q => .behind fun _ => ih (List.forall_mem_map.mpr hmembers)
    refine .behind fun _ => ?_
    dsimp only
    refine .behind fun _ => ?_
    split
    · exact hquantified _
    refine .behind fun _ => ?_
    split
    · exact hquantified _
    refine .behind fun _ => ?_
    split
    · exact hquantified _
    refine .behind fun _ => ?_
    split
    · refine .behind fun _ => .behind fun _ => .orStop ?_
      refine word_yields.bind fun name hname => .behind fun _ => ih ?_
      exact hmembers.changeFirst fun m hm => hm.as hname
    · exact .pure hmembers

theorem PlainMembers.inside {members : List Member} (hmembers : PlainMembers members)
    (closed : Bool) : ∀ name ∈ (Sequence.ofMembers closed members).captureNames, name.OneLine := by
  induction members with
  | nil => exact fun _ hname => nomatch hname
  | cons m rest ih =>
    obtain ⟨hm, hrest⟩ := List.forall_mem_cons.mp hmembers
    exact List.forall_mem_append.mpr ⟨hm, ih hrest⟩

theorem plain_nodePattern {vocabulary : Vocabulary} {kind : Text} {absent : List String}
    {inside : Sequence} (hinside : ∀ name ∈ inside.captureNames, name.OneLine)
    (h : nodePattern vocabulary kind absent inside = some p) : p.Plain := by
  have hnode : ∀ test, (Pattern.node test absent inside []).Plain := by
    intro test
    exact List.forall_mem_append.mpr ⟨hinside, nofun⟩
  have hkinds : ∀ kinds : List String, (kinds.foldr (fun kind rest =>
      Options.more (.node (.kind kind true) absent inside []) rest) .none).Plain := by
    intro kinds
    induction kinds with
    | nil => exact fun _ hname => nomatch hname
    | cons kind kinds ih => exact List.forall_mem_append.mpr ⟨hnode _, ih⟩
  unfold nodePattern at h
  split at h
  · cases h
    exact hnode _
  · split at h
    · cases h
      exact hnode _
    · cases h
      exact List.forall_mem_append.mpr ⟨hkinds _, nofun⟩
    · cases h

/-- **`PlainReaders fuel vocabulary`** — whatever patterns are read, their names are on one line. -/
structure PlainReaders (fuel : Nat) (vocabulary : Vocabulary) : Prop where
  members? : ∀ anchored, (members? fuel vocabulary anchored).Yields fun read =>
    ∀ members, read = some members → PlainMembers members
  siblings : ∀ anchored, (siblings fuel vocabulary anchored).Yields PlainMembers
  alternatives : (alternatives fuel vocabulary).Yields Options.Plain
  namedNode : (namedNode fuel vocabulary).Yields Pattern.Plain
  children : ∀ inside : Inside, PlainMembers inside.members →
    (children fuel vocabulary inside).Yields fun inside => PlainMembers inside.members

namespace PlainReaders

variable {fuel : Nat} {vocabulary : Vocabulary}

theorem zero (vocabulary : Vocabulary) : PlainReaders 0 vocabulary where
  members? _ := .fail _
  siblings _ := .fail _
  alternatives := .fail _
  namedNode := .fail _
  children _ _ := .fail _

/-- Siblings with what stands behind them. -/
theorem members_suffixes {members : List Member} (hmembers : PlainMembers members) :
    (do return some (← suffixes fuel members) : Reader (Option (List Member))).Yields fun read =>
      ∀ members, read = some members → PlainMembers members :=
  (suffixes_yields fuel hmembers).bind fun read hread => .pure (by rintro _ ⟨⟩; exact hread)

theorem members?_succ (h : PlainReaders fuel vocabulary) (anchored : Bool) :
    (Query.members? (fuel + 1) vocabulary anchored).Yields fun read =>
      ∀ members, read = some members → PlainMembers members := by
  have hsingle : ∀ {m : Member}, m.pattern.Plain → PlainMembers [m] := by
    intro m hm
    simpa [PlainMembers] using hm
  have hbare : ∀ test, (Pattern.node test [] (.done false) []).Plain := fun _ => nofun
  unfold Query.members?
  refine .behind fun _ => .orStop (.behind fun _ => .behind fun _ => ?_)
  split
  · exact .pure nofun
  refine .behind fun _ => ?_
  split
  · refine .behind fun _ => .behind fun _ => .behind fun _ => .behind fun _ => .behind fun _ => ?_
    split
    · exact (h.siblings anchored).bind fun group hgroup => members_suffixes hgroup
    · refine .behind fun _ => .behind fun _ => ?_
      split
      · refine .behind fun _ => .behind fun _ => .pure ?_
        rintro _ ⟨⟩
        exact nofun
      · exact h.namedNode.bind fun pattern hpattern => members_suffixes (hsingle hpattern)
  refine .behind fun _ => ?_
  split
  · refine .behind fun _ => .behind fun _ => h.alternatives.bind fun options hoptions => ?_
    exact members_suffixes (hsingle (List.forall_mem_append.mpr ⟨hoptions, nofun⟩))
  refine .behind fun _ => ?_
  split
  · exact .behind fun _ => members_suffixes (hsingle (hbare _))
  refine .behind fun _ => ?_
  split
  · exact .behind fun _ => .behind fun _ => .orStop (members_suffixes (hsingle (hbare _)))
  refine .behind fun _ => ?_
  split
  · refine .behind fun _ => .behind fun _ => .behind fun _ => .behind fun _ => .orStop ?_
    refine .behind fun _ => .behind fun _ => (h.members? anchored).bind fun read hread => ?_
    split
    · exact .fail _
    · exact .orStop (members_suffixes ((hread _ rfl).changeFirst fun _ hm => hm))
  · exact .fail _

theorem siblings_succ (h : PlainReaders fuel vocabulary) (anchored : Bool) :
    (Query.siblings (fuel + 1) vocabulary anchored).Yields PlainMembers := by
  unfold Query.siblings
  refine .behind fun _ => (h.members? _).bind fun read hread => ?_
  split
  · exact .behind fun _ => .orStop (.behind fun _ => .pure nofun)
  · exact (h.siblings false).bind fun others hothers =>
      .pure (List.forall_mem_append.mpr ⟨hread _ rfl, hothers⟩)

theorem alternatives_succ (h : PlainReaders fuel vocabulary) :
    (Query.alternatives (fuel + 1) vocabulary).Yields Options.Plain := by
  unfold Query.alternatives
  refine (h.members? _).bind fun read hread => ?_
  split
  · exact .fail _
  · rename_i members
    have hnone : Options.none.Plain := fun _ hname => nomatch hname
    cases members with
    | nil =>
      refine .behind fun _ => ?_
      dsimp only
      split
      · exact .behind fun _ => (Yields.pure hnone).bind fun others hothers => .pure hothers
      · exact h.alternatives.bind fun others hothers => .pure hothers
    | cons m rest =>
      -- the first of the siblings is the alternative
      have hmore : ∀ others : Options, others.Plain → (Options.more m.pattern others).Plain :=
        fun others hothers =>
          List.forall_mem_append.mpr ⟨hread _ rfl _ List.mem_cons_self, hothers⟩
      refine .behind fun _ => ?_
      dsimp only
      split
      · exact .behind fun _ => (Yields.pure hnone).bind fun others hothers =>
          .pure (hmore others hothers)
      · exact h.alternatives.bind fun others hothers => .pure (hmore others hothers)

theorem namedNode_succ (h : PlainReaders fuel vocabulary) :
    (Query.namedNode (fuel + 1) vocabulary).Yields Pattern.Plain := by
  unfold Query.namedNode
  refine .behind fun _ => .orStop (.behind fun _ => .behind fun _ => .orStop (.behind fun _ => ?_))
  refine (h.children {} nofun).bind fun inside hinside => ?_
  split
  · rename_i pattern hpattern
    exact .pure (plain_nodePattern (hinside.inside _) hpattern)
  · exact .failAt _ _

theorem children_succ (h : PlainReaders fuel vocabulary) (inside : Inside)
    (hinside : PlainMembers inside.members) :
    (Query.children (fuel + 1) vocabulary inside).Yields fun inside =>
      PlainMembers inside.members := by
  unfold Query.children
  refine .behind fun _ => ?_
  split
  · exact .behind fun _ => .behind fun _ => h.children _ hinside
  · refine .behind fun _ => (h.members? _).bind fun read hread => ?_
    split
    · exact .behind fun _ => .orStop (.orStop (.behind fun _ => .pure hinside))
    · exact h.children _ (List.forall_mem_append.mpr ⟨hinside, hread _ rfl⟩)

end PlainReaders

theorem plainReaders (fuel : Nat) (vocabulary : Vocabulary) : PlainReaders fuel vocabulary := by
  induction fuel with
  | zero => exact .zero vocabulary
  | succ fuel ih =>
    exact ⟨ih.members?_succ, ih.siblings_succ, ih.alternatives_succ, ih.namedNode_succ,
      ih.children_succ⟩

theorem readRules_yields (fuel : Nat) (vocabulary : Vocabulary) :
    (readRules fuel vocabulary).Yields fun rules => ∀ rule ∈ rules, rule.pattern.Plain := by
  induction fuel with
  | zero => exact .fail _
  | succ fuel ih =>
    unfold readRules
    refine .behind fun _ => .behind fun _ => ?_
    split
    · exact .pure nofun
    refine .behind fun _ => ((plainReaders fuel vocabulary).members? false).bind fun read hread => ?_
    split
    · exact .fail _
    · rename_i members
      refine .behind fun _ => ?_
      split
      · exact .fail _
      · refine ih.bind fun others hothers => .pure (List.forall_mem_append.mpr ⟨?_, hothers⟩)
        have hmembers := hread members rfl
        cases members with
        | nil => exact nofun
        | cons m rest =>
          cases rest with
          | nil => simpa [patternOf] using hmembers m List.mem_cons_self
          | cons m' rest =>
            have hinside := PlainMembers.inside hmembers false
            have hpattern : (Pattern.node .any [] (.ofMembers false (m :: m' :: rest)) []).Plain :=
              List.forall_mem_append.mpr ⟨hinside, nofun⟩
            simpa [patternOf] using hpattern

/-- **`oneLine_of_read`** — whatever query is read, the names that it declares are on one line. -/
theorem oneLine_of_read {vocabulary : Vocabulary} {t : Text} {q : HookAudit.Query}
    (h : read vocabulary t = .ok q) : ∀ name ∈ q.captureNames, name.OneLine := by
  intro name hname
  unfold read at h
  split at h
  · rename_i rules cursor hrules
    cases h
    obtain ⟨rule, hrule, hname⟩ := List.mem_flatMap.mp (mem_dedup.mp hname)
    exact readRules_yields _ _ _ _ _ hrules rule hrule name hname
  · cases h

end HookAudit.Query
