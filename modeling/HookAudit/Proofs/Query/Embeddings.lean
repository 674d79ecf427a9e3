/-
# HookAudit.Proofs.Query.Embeddings — where patterns of a pack match.

The patterns of the packs ask for a node of some kind with some children, in order, and let any
others stand between them.  So an embedding splits the children at the one that the first part takes
and goes on behind it (`mem_matches_parts_cons`), and every split gives one.  The name of a command,
which most patterns for shell scripts ask for, is read off once (`mem_matches_commandWord`).
-/
import HookAudit.Query.Match
import HookAudit.Query.Pack.Bash
import Mathlib.Data.List.Basic

namespace HookAudit

/-! ## Nodes below a node -/

namespace Node

variable {n c : Node}

/-- **`n.IsA kind`** — a named node of a kind. -/
structure IsA (n : Node) (kind : String) : Prop where
  kind : n.kind = kind
  named : n.named = true

instance (n : Node) (kind : String) : Decidable (n.IsA kind) :=
  decidable_of_iff (n.kind = kind ∧ n.named = true)
    ⟨fun ⟨hkind, hnamed⟩ => ⟨hkind, hnamed⟩, fun h => ⟨h.kind, h.named⟩⟩

theorem self_mem_preorder (n : Node) : n ∈ n.preorder := by
  cases n
  exact List.mem_cons_self

theorem mem_preorderAll {ns : List Node} : n ∈ preorderAll ns ↔ ∃ c ∈ ns, n ∈ c.preorder := by
  induction ns with
  | nil => simp [preorderAll]
  | cons m ns ih => simp [preorderAll, ih]

mutual

/-- **`children_mem_preorder`** — a tree that has a node has its children. -/
theorem children_mem_preorder : ∀ (root : Node), ∀ n ∈ root.preorder, ∀ c ∈ n.children,
    c ∈ root.preorder
  | .mk kind named field span children => by
    intro n hn c hc
    rcases List.mem_cons.mp hn with rfl | hn
    · exact List.mem_cons_of_mem _ (mem_preorderAll.mpr ⟨c, hc, c.self_mem_preorder⟩)
    · exact List.mem_cons_of_mem _ (children_mem_preorderAll children n hn c hc)

theorem children_mem_preorderAll : ∀ (ns : List Node), ∀ n ∈ preorderAll ns, ∀ c ∈ n.children,
    c ∈ preorderAll ns
  | [] => nofun
  | m :: ns => by
    intro n hn c hc
    rcases List.mem_append.mp hn with hn | hn
    · exact List.mem_append_left _ (children_mem_preorder m n hn c hc)
    · exact List.mem_append_right _ (children_mem_preorderAll ns n hn c hc)

end

end Node

namespace Query

variable {n c : Node} {ns after : List Node} {bound : Bindings} {further : List Text}
  {kind : String} {parts : List Part} {part : Part} {p : Pattern} {name : Text}
  {field : String}

/-! ## Children in order -/

theorem mem_candidates : (c, after) ∈ candidates false ns ↔ ∃ before, ns = before ++ c :: after := by
  induction ns with
  | nil => simp [candidates]
  | cons m ns ih =>
    simp only [candidates, Bool.false_and, Bool.false_eq_true, if_false, List.mem_cons,
      Prod.mk.injEq, ih]
    constructor
    · rintro (⟨rfl, rfl⟩ | ⟨before, rfl⟩)
      · exact ⟨[], rfl⟩
      · exact ⟨m :: before, rfl⟩
    · rintro ⟨before, hsplit⟩
      cases before with
      | nil =>
        obtain ⟨rfl, rfl⟩ := List.cons.inj hsplit
        exact .inl ⟨rfl, rfl⟩
      | cons m' before =>
        obtain ⟨rfl, rfl⟩ := List.cons.inj hsplit
        exact .inr ⟨before, rfl⟩

/-- The patterns for children that parts amount to. -/
def inOrder (parts : List Part) : Sequence :=
  parts.foldr (fun part rest => .next part.anchored part.field .once part.pattern rest) (.done false)

theorem mem_matches_parts_nil : bound ∈ (inOrder []).matches ns ↔ bound = [] := by
  simp [inOrder, Sequence.matches]

/-- **`mem_matches_parts_cons`** — the first part takes one of the children, the others are found
behind it. -/
theorem mem_matches_parts_cons (hanchored : part.anchored = false) :
    bound ∈ (inOrder (part :: parts)).matches ns ↔
      ∃ before c after, ns = before ++ c :: after ∧ hasRole part.field c = true ∧
        ∃ first ∈ part.pattern.matches [] c, ∃ others ∈ (inOrder parts).matches after,
          bound = first ++ others := by
  simp only [inOrder, List.foldr_cons, Sequence.matches, hanchored, List.mem_flatMap, List.mem_map,
    Prod.exists, mem_candidates]
  constructor
  · rintro ⟨first, after, ⟨c, _, ⟨before, rfl⟩, hfound⟩, others, hothers, rfl⟩
    split at hfound
    · rename_i hrole
      obtain ⟨_, hfirst, heq⟩ := List.mem_map.mp hfound
      cases heq
      exact ⟨before, c, _, rfl, hrole, first, hfirst, others, hothers, rfl⟩
    · cases hfound
  · rintro ⟨before, c, after, rfl, hrole, first, hfirst, others, hothers, rfl⟩
    refine ⟨first, after, ⟨c, after, ⟨before, rfl⟩, ?_⟩, others, hothers, rfl⟩
    rw [if_pos hrole]
    exact List.mem_map_of_mem hfirst

/-- A child somewhere, then the others behind it. -/
theorem mem_matches_child : bound ∈ (inOrder (child p :: parts)).matches ns ↔
    ∃ before c after, ns = before ++ c :: after ∧
      ∃ first ∈ p.matches [] c, ∃ others ∈ (inOrder parts).matches after,
        bound = first ++ others := by
  rw [mem_matches_parts_cons rfl]
  simp only [child, hasRole, true_and]

/-- A child in a role somewhere, then the others behind it. -/
theorem mem_matches_role : bound ∈ (inOrder (role field p :: parts)).matches ns ↔
    ∃ before c after, ns = before ++ c :: after ∧ c.field = some field ∧
      ∃ first ∈ p.matches [] c, ∃ others ∈ (inOrder parts).matches after,
        bound = first ++ others := by
  rw [mem_matches_parts_cons rfl]
  simp only [role, hasRole, beq_iff_eq]

/-- A split around one member is a member. -/
theorem exists_split_iff {good : Node → Prop} :
    (∃ before c after, ns = before ++ c :: after ∧ good c) ↔ ∃ c ∈ ns, good c := by
  constructor
  · rintro ⟨before, c, after, rfl, hc⟩
    exact ⟨c, List.mem_append_right _ List.mem_cons_self, hc⟩
  · rintro ⟨c, hmem, hc⟩
    obtain ⟨before, after, rfl⟩ := List.append_of_mem hmem
    exact ⟨before, c, after, rfl, hc⟩

/-- One child. -/
theorem mem_matches_only_child :
    bound ∈ (inOrder [child p]).matches ns ↔ ∃ c ∈ ns, bound ∈ p.matches [] c := by
  simp only [mem_matches_child, mem_matches_parts_nil, exists_eq_left, List.append_nil,
    exists_eq_right']
  exact exists_split_iff

/-- One child in a role. -/
theorem mem_matches_only_role : bound ∈ (inOrder [role field p]).matches ns ↔
    ∃ c ∈ ns, c.field = some field ∧ bound ∈ p.matches [] c := by
  simp only [mem_matches_role, mem_matches_parts_nil, exists_eq_left, List.append_nil,
    exists_eq_right']
  exact exists_split_iff

/-! ## Nodes -/

theorem mem_matches_captured {captures : List Text} :
    bound ∈ (Pattern.node (.kind kind true) [] (inOrder parts) captures).matches [] n ↔
      n.IsA kind ∧ ∃ below ∈ (inOrder parts).matches n.children,
        bound = bindAll captures n ++ below := by
  have htest : NodeTest.accepts (.kind kind true) n = true ↔ n.IsA kind := by
    simp only [NodeTest.accepts, Bool.and_eq_true, beq_iff_eq]
    exact ⟨fun ⟨hkind, hnamed⟩ => ⟨hkind, hnamed⟩, fun h => ⟨h.kind, h.named⟩⟩
  simp only [Pattern.matches, List.all_nil, Bool.and_true, List.append_nil]
  by_cases hn : n.IsA kind
  · rw [if_pos (by simpa using htest.mpr hn)]
    simp only [List.mem_map, hn, true_and, eq_comm]
  · rw [if_neg (by simpa using mt htest.mp hn)]
    exact iff_of_false List.not_mem_nil fun h => hn h.1

/-- A node of a kind with some parts. -/
theorem mem_matches_node : bound ∈ (node kind parts).matches [] n ↔
    n.IsA kind ∧ bound ∈ (inOrder parts).matches n.children :=
  mem_matches_captured.trans (and_congr_right fun _ => by simp [bindAll])

/-- A node of a kind with some parts, itself captured. -/
theorem mem_matches_node_as : bound ∈ ((node kind parts).as name).matches [] n ↔
    n.IsA kind ∧ ∃ below ∈ (inOrder parts).matches n.children, bound = (name, n) :: below :=
  mem_matches_captured

/-! ## Commands -/

/-- **`NamedBy name word`** — a node is the name of a command, and the word is one of its parts. -/
structure NamedBy (name word : Node) : Prop where
  role : name.field = some "name"
  kind : name.IsA "command_name"
  part : word ∈ name.children
  word : word.IsA "word"

/-- **`mem_matches_commandWord`** — a child that names a command, then the others behind it; a word
of the name is captured. -/
theorem mem_matches_commandWord {capture : Text} :
    bound ∈ (inOrder (Bash.commandWord capture :: parts)).matches ns ↔
      ∃ before name after word, ns = before ++ name :: after ∧ NamedBy name word ∧
        ∃ others ∈ (inOrder parts).matches after, bound = (capture, word) :: others := by
  rw [Bash.commandWord, mem_matches_role]
  simp only [mem_matches_node, mem_matches_only_child, mem_matches_node_as, mem_matches_parts_nil,
    exists_eq_left]
  constructor
  · rintro ⟨before, name, after, hsplit, hrole, _, ⟨hkind, word, hpart, hword, rfl⟩, others,
      hothers, rfl⟩
    exact ⟨before, name, after, word, hsplit, ⟨hrole, hkind, hpart, hword⟩, others, hothers, rfl⟩
  · rintro ⟨before, name, after, word, hsplit, hword, others, hothers, rfl⟩
    exact ⟨before, name, after, hsplit, hword.role, _,
      ⟨hword.kind, word, hword.part, hword.word, rfl⟩, others, hothers, rfl⟩

/-- So it is where the command is captured itself. -/
theorem mem_matches_commandOf_as {capture : Text} :
    bound ∈ ((Bash.commandOf capture parts).as name).matches [] n ↔
      n.IsA "command" ∧ ∃ before named after word, n.children = before ++ named :: after ∧
        NamedBy named word ∧
        ∃ others ∈ (inOrder parts).matches after,
          bound = (name, n) :: (capture, word) :: others := by
  rw [Bash.commandOf, mem_matches_node_as]
  simp only [mem_matches_commandWord]
  refine and_congr_right fun _ => ⟨?_, ?_⟩
  · rintro ⟨_, ⟨before, named, after, word, hsplit, hword, others, hothers, rfl⟩, rfl⟩
    exact ⟨before, named, after, word, hsplit, hword, others, hothers, rfl⟩
  · rintro ⟨before, named, after, word, hsplit, hword, others, hothers, rfl⟩
    exact ⟨_, ⟨before, named, after, word, hsplit, hword, others, hothers, rfl⟩, rfl⟩

/-- **`CommandWord n word`** — a node is a command, and the word is part of its name. -/
def CommandWord (n word : Node) : Prop := n.IsA "command" ∧ ∃ name ∈ n.children, NamedBy name word

/-- What a query finds are the embeddings of its rules, at any node, that satisfy the predicates. -/
theorem mem_query_matches {q : HookAudit.Query} {root : Node} {source : Text.Octets} {m : Match} :
    m ∈ q.matches root source ↔ ∃ n ∈ root.preorder, ∃ rule ∈ q.rules,
      ∃ bound ∈ rule.pattern.matches [] n,
        (∀ predicate ∈ rule.predicates, predicate.holds source bound = true) ∧
          Match.ofBindings bound = m := by
  simp only [HookAudit.Query.matches, Rule.matchesAt, List.mem_flatMap, List.mem_map,
    List.mem_filter, List.all_eq_true, and_assoc]

end Query

end HookAudit
