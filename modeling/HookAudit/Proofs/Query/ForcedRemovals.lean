/-
# HookAudit.Proofs.Query.ForcedRemovals — removals that recurse and never ask.

The flags of a removal may be written in any order, in one word with others.  The query for shell
scripts looks for them with an expression that tries both orders with letters around them; what it
finds are the words among whose option letters both flags are (`found_recursiveForced`).  The argument
with the flags may be any of those behind the name of the command, so the commands it captures are
those that are called `rm` and have such an argument, and no other query captures anything under the
name (`forced_removals_are_told_exactly`).

Patterns look for the parts of a command in order.  In the trees of shell scripts the name of a
command stands before its arguments (`NamesFirst`), so the order asks for nothing more.
-/
import HookAudit.Engine.Installed
import HookAudit.Proofs.Query.Captures
import HookAudit.Proofs.Regex.Spelling

namespace HookAudit

namespace Query

variable {source : Text.Octets} {root n word argument : Node} {bound : Bindings} {t u : Text}

/-! ## Option letters -/

/-- The ASCII letters right behind the dash at the start of a word.  A word that does not start with
a dash has none. -/
def optionLetters : Text → Text
  | [] => []
  | dash :: rest => if dash.is '-' then rest.takeWhile CodePoint.isAsciiLetter else []

/-- **`RecursiveForced t`** — among the option letters of a word are the flag that forces and one
that recurses, wherever they stand. -/
structure RecursiveForced (t : Text) : Prop where
  forced : .ofChar 'f' ∈ optionLetters t
  recursive : .ofChar 'r' ∈ optionLetters t ∨ .ofChar 'R' ∈ optionLetters t

instance (t : Text) : Decidable (RecursiveForced t) :=
  decidable_of_iff (.ofChar 'f' ∈ optionLetters t ∧
      (.ofChar 'r' ∈ optionLetters t ∨ .ofChar 'R' ∈ optionLetters t))
    ⟨fun ⟨hforced, hrecursive⟩ => ⟨hforced, hrecursive⟩, fun h => ⟨h.forced, h.recursive⟩⟩

/-- The letters that recurse. -/
def Recurses (c : CodePoint) : Prop := c = .ofChar 'r' ∨ c = .ofChar 'R'

theorem recursiveForced_iff : RecursiveForced t ↔
    (∃ c ∈ optionLetters t, c = .ofChar 'f') ∧ ∃ c ∈ optionLetters t, Recurses c := by
  constructor
  · rintro ⟨hforced, hr | hR⟩
    · exact ⟨⟨_, hforced, rfl⟩, _, hr, .inl rfl⟩
    · exact ⟨⟨_, hforced, rfl⟩, _, hR, .inr rfl⟩
  · rintro ⟨⟨_, hforced, rfl⟩, _, hmem, rfl | rfl⟩
    · exact ⟨hforced, .inl hmem⟩
    · exact ⟨hforced, .inr hmem⟩

/-! ## Two members in either order -/

/-- **`exists_mem_and_exists_mem_iff`** — a list has members of two kinds that exclude each other
when one of them stands before the other. -/
theorem exists_mem_and_exists_mem_iff {α : Type} {l : List α} {A B : α → Prop}
    (hapart : ∀ x, A x → ¬ B x) : ((∃ x ∈ l, A x) ∧ ∃ x ∈ l, B x) ↔
      ∃ before x between y after, l = before ++ x :: (between ++ y :: after) ∧
        (A x ∧ B y ∨ B x ∧ A y) := by
  constructor
  · rintro ⟨⟨x, hx, hA⟩, y, hy, hB⟩
    obtain ⟨before, after, rfl⟩ := List.append_of_mem hx
    -- the list is cut at the one, and the other is in front of it or behind it
    rcases List.mem_append.mp hy with hy | hy
    · obtain ⟨before, between, rfl⟩ := List.append_of_mem hy
      exact ⟨before, y, between, x, after, by simp, .inr ⟨hB, hA⟩⟩
    · rcases List.mem_cons.mp hy with rfl | hy
      · exact absurd hB (hapart _ hA)
      · obtain ⟨between, after, rfl⟩ := List.append_of_mem hy
        exact ⟨before, x, between, y, after, rfl, .inl ⟨hA, hB⟩⟩
  · rintro ⟨before, x, between, y, after, rfl, ⟨hA, hB⟩ | ⟨hB, hA⟩⟩
    · exact ⟨⟨x, by simp, hA⟩, y, by simp, hB⟩
    · exact ⟨⟨y, by simp, hA⟩, x, by simp, hB⟩

/-- What goes on from a run goes on from it inside the longest run. -/
theorem prefix_takeWhile_iff {α : Type} {p : α → Bool} {run l : List α}
    (hrun : ∀ x ∈ run, p x = true) : run <+: l.takeWhile p ↔ run <+: l := by
  constructor
  · exact fun h => h.trans (List.takeWhile_prefix p)
  · rintro ⟨rest, rfl⟩
    rw [List.takeWhile_append_of_pos hrun]
    exact List.prefix_append run _

/-! ## The expression -/

open Regex (seqs alts char charOf letter many)

/-- What the expression looks for at the start of a word. -/
def flagShape : Regex :=
  seqs [char '-', many letter,
    alts [seqs [charOf "rR", many letter, char 'f'], seqs [char 'f', many letter, charOf "rR"]]]

/-- Letters with a flag of each kind, one of them last. -/
def FlagRun (run : Text) : Prop :=
  ∃ before x between y, run = before ++ x :: (between ++ [y]) ∧
    (∀ c ∈ before, c.isAsciiLetter = true) ∧ (∀ c ∈ between, c.isAsciiLetter = true) ∧
      (x = .ofChar 'f' ∧ Recurses y ∨ Recurses x ∧ y = .ofChar 'f')

theorem reads_letters : (many letter).Reads fun t => ∀ c ∈ t, c.isAsciiLetter = true := by
  refine (Regex.reads_many _).congr fun t => ?_
  simp [CodeSet.has, CodeSet.listed, SetItem.has, CodePoint.isAsciiLetter, or_comm]

theorem reads_recursive : (charOf "rR").Reads fun t => ∃ c, Recurses c ∧ t = [c] := by
  refine (Regex.reads_one _).congr fun t => ?_
  have hhas : ∀ c, CodeSet.has ⟨false, false, [.range 114 114, .range 82 82]⟩ c = true ↔
      Recurses c := by
    intro c
    -- in the set the two letters stand as ranges of code points
    have hr := CodePoint.is_iff (c := c) (z := 'r')
    have hR := CodePoint.is_iff (c := c) (z := 'R')
    rw [Recurses, ← hr, ← hR]
    simp [CodeSet.has, CodeSet.listed, SetItem.has, CodePoint.is]
    omega
  exact exists_congr fun c => and_congr_left fun _ => hhas c

theorem reads_flagShape : flagShape.Reads fun t => ∃ run, FlagRun run ∧ t = .ofChar '-' :: run := by
  have hforced := reads_recursive.seq (reads_letters.seq (Regex.reads_char 'f'))
  have hforces := (Regex.reads_char 'f').seq (reads_letters.seq reads_recursive)
  refine ((Regex.reads_char '-').seq (reads_letters.seq (hforced.alt hforces))).congr fun t => ?_
  constructor
  · rintro ⟨_, _, rfl, ⟨before, _, hbefore, hflags, rfl⟩, rfl⟩
    rcases hflags with ⟨_, _, ⟨c, hc, rfl⟩, ⟨between, _, hbetween, rfl, rfl⟩, rfl⟩ |
      ⟨_, _, rfl, ⟨between, _, hbetween, ⟨c, hc, rfl⟩, rfl⟩, rfl⟩
    · exact ⟨_, ⟨before, c, between, _, rfl, hbefore, hbetween, .inr ⟨hc, rfl⟩⟩, rfl⟩
    · exact ⟨_, ⟨before, _, between, c, rfl, hbefore, hbetween, .inl ⟨rfl, hc⟩⟩, rfl⟩
  · rintro ⟨_, ⟨before, x, between, y, rfl, hbefore, hbetween, ⟨rfl, hy⟩ | ⟨hx, rfl⟩⟩, rfl⟩
    · exact ⟨_, _, rfl, ⟨before, _, hbefore,
        .inr ⟨_, _, rfl, ⟨between, _, hbetween, ⟨y, hy, rfl⟩, rfl⟩, rfl⟩, rfl⟩, rfl⟩
    · exact ⟨_, _, rfl, ⟨before, _, hbefore,
        .inl ⟨_, _, ⟨x, hx, rfl⟩, ⟨between, _, hbetween, rfl, rfl⟩, rfl⟩, rfl⟩, rfl⟩

theorem isAsciiLetter_of_mem_optionLetters {c : CodePoint} (hc : c ∈ optionLetters t) :
    c.isAsciiLetter = true := by
  unfold optionLetters at hc
  split at hc
  · cases hc
  · split at hc
    · exact List.all_eq_true.mp List.all_takeWhile c hc
    · cases hc

theorem FlagRun.isAsciiLetter (h : FlagRun u) : ∀ c ∈ u, c.isAsciiLetter = true := by
  have hrecurses : ∀ c, Recurses c → c.isAsciiLetter = true := by
    rintro c (rfl | rfl) <;> rfl
  obtain ⟨before, x, between, y, rfl, hbefore, hbetween, hflags⟩ := h
  have hends : x.isAsciiLetter = true ∧ y.isAsciiLetter = true := by
    rcases hflags with ⟨rfl, hy⟩ | ⟨hx, rfl⟩
    · exact ⟨rfl, hrecurses y hy⟩
    · exact ⟨hrecurses x hx, rfl⟩
  simpa [or_imp, forall_and, hends] using ⟨hbefore, hbetween⟩

/-- A text starts with such letters when both flags are among those it starts with. -/
theorem exists_flagRun_iff {letters : Text} (hletters : ∀ c ∈ letters, c.isAsciiLetter = true) :
    (∃ run, FlagRun run ∧ run <+: letters) ↔
      (∃ c ∈ letters, c = .ofChar 'f') ∧ ∃ c ∈ letters, Recurses c := by
  have hapart : ∀ c, c = .ofChar 'f' → ¬ Recurses c := by
    rintro _ rfl (h | h) <;> exact absurd h (by decide)
  rw [exists_mem_and_exists_mem_iff hapart]
  constructor
  · rintro ⟨_, ⟨before, x, between, y, rfl, -, -, hflags⟩, after, rfl⟩
    exact ⟨before, x, between, y, after, by simp, hflags⟩
  · rintro ⟨before, x, between, y, after, rfl, hflags⟩
    refine ⟨_, ⟨before, x, between, y, rfl, fun c hc => hletters c (by simp [hc]),
      fun c hc => hletters c (by simp [hc]), hflags⟩, after, by simp⟩

theorem FlagRun.ne_nil (h : FlagRun u) : u ≠ [] := by
  obtain ⟨before, x, between, y, rfl, -⟩ := h
  simp

/-- The option letters start with a run of letters when the word does, behind a dash. -/
theorem prefix_optionLetters_iff (hu : FlagRun u) :
    u <+: optionLetters t ↔ .ofChar '-' :: u <+: t := by
  cases t with
  | nil => exact iff_of_false (mt List.prefix_nil.mp hu.ne_nil) (by simp)
  | cons dash rest =>
    have hcons : optionLetters (dash :: rest) =
        if dash.is '-' then rest.takeWhile CodePoint.isAsciiLetter else [] := rfl
    rw [hcons, List.cons_prefix_cons]
    split
    · rename_i hdash
      rw [prefix_takeWhile_iff hu.isAsciiLetter, and_iff_right (CodePoint.is_iff.mp hdash).symm]
    · rename_i hdash
      exact iff_of_false (mt List.prefix_nil.mp hu.ne_nil)
        fun h => hdash (CodePoint.is_iff.mpr h.1.symm)

/-- **`found_recursiveForced`** — the expression is found in the words with both flags. -/
theorem found_recursiveForced : Bash.recursiveForced.found t = true ↔ RecursiveForced t := by
  have hshape : Bash.recursiveForced = .seq .textStart flagShape := rfl
  rw [hshape, Regex.found_textStart_iff_of_reads reads_flagShape, recursiveForced_iff,
    ← exists_flagRun_iff fun c => isAsciiLetter_of_mem_optionLetters]
  constructor
  · rintro ⟨_, ⟨run, hrun, rfl⟩, hprefix⟩
    exact ⟨run, hrun, (prefix_optionLetters_iff hrun).mpr hprefix⟩
  · rintro ⟨run, hrun, hprefix⟩
    exact ⟨_, ⟨run, hrun, rfl⟩, (prefix_optionLetters_iff hrun).mp hprefix⟩

/-! ## The commands -/

/-- **`ArgumentWord n argument`** — one of the arguments of a node is a word. -/
structure ArgumentWord (n argument : Node) : Prop where
  mem : argument ∈ n.children
  role : argument.field = some "argument"
  word : argument.IsA "word"

/-- **`RemovalWords n word argument`** — a node is a command, and two words are part of its name and,
behind it, one of its arguments. -/
structure RemovalWords (n word argument : Node) : Prop where
  command : n.IsA "command"
  parts : ∃ before named after, n.children = before ++ named :: after ∧ NamedBy named word ∧
    argument ∈ after
  role : argument.field = some "argument"
  word : argument.IsA "word"

/-- **`ForcedRemoval source n`** — a node is a command that is called `rm`, and a word behind its name
has both flags. -/
def ForcedRemoval (source : Text.Octets) (n : Node) : Prop :=
  ∃ word argument, RemovalWords n word argument ∧ word.text source = "rm" ∧
    RecursiveForced (argument.text source)

/-- **`NamesFirst root`** — no argument of a command stands before its name, as in all trees of shell
scripts. -/
def NamesFirst (root : Node) : Prop :=
  ∀ n ∈ root.preorder, n.IsA "command" →
    n.children.Pairwise fun a b => b.field = some "name" → a.field ≠ some "argument"

instance (root : Node) : Decidable (NamesFirst root) := by
  unfold NamesFirst
  infer_instance

/-- Where names come first, any argument stands behind the name. -/
theorem NamesFirst.removalWords_iff (hfirst : NamesFirst root) (hn : n ∈ root.preorder) :
    RemovalWords n word argument ↔ CommandWord n word ∧ ArgumentWord n argument := by
  constructor
  · rintro ⟨hcommand, ⟨before, named, after, hsplit, hword, hmem⟩, hrole, hargument⟩
    exact ⟨⟨hcommand, named, by simp [hsplit], hword⟩, by simp [hsplit, hmem], hrole, hargument⟩
  · rintro ⟨⟨hcommand, named, hnamed, hword⟩, hmem, hrole, hargument⟩
    obtain ⟨before, after, hsplit⟩ := List.append_of_mem hnamed
    refine ⟨hcommand, ⟨before, named, after, hsplit, hword, ?_⟩, hrole, hargument⟩
    -- it is not in front of the name, and it is not the name
    have hordered := hfirst n hn hcommand
    rw [hsplit, List.pairwise_append] at hordered
    rw [hsplit, List.mem_append, List.mem_cons] at hmem
    rcases hmem with hbefore | rfl | hafter
    · exact absurd hrole (hordered.2.2 _ hbefore _ List.mem_cons_self hword.role)
    · exact absurd (hword.role.symm.trans hrole) (by decide)
    · exact hafter

/-! ## Where they are found -/

/-- The name under which these commands are captured. -/
def fsdelete : Text := "danger.fsdelete"

/-- What the query binds. -/
def removalBindings (n word argument : Node) : Bindings :=
  [(fsdelete, n), ("cmd", word), ("arg", argument)]

/-- The rule of the query. -/
def removalRule : Rule where
  pattern := (Bash.commandOf "cmd" [role "argument" ((node "word" []).as "arg")]).as fsdelete
  predicates := [captureIs "cmd" "rm", captureHas "arg" Bash.recursiveForced]

theorem rules_recursiveDelete : Bash.recursiveDelete.query.rules = [removalRule] := rfl

theorem mem_matches_removalRule : bound ∈ removalRule.pattern.matches [] n ↔
    ∃ word argument, RemovalWords n word argument ∧ bound = removalBindings n word argument := by
  unfold removalRule
  rw [mem_matches_commandOf_as]
  simp only [mem_matches_only_role, mem_matches_node_as, mem_matches_parts_nil, exists_eq_left]
  constructor
  · rintro ⟨hcommand, before, named, after, word, hsplit, hword, _,
      ⟨argument, hmem, hrole, hargument, rfl⟩, rfl⟩
    exact ⟨word, argument,
      ⟨hcommand, ⟨before, named, after, hsplit, hword, hmem⟩, hrole, hargument⟩, rfl⟩
  · rintro ⟨word, argument,
      ⟨hcommand, ⟨before, named, after, hsplit, hword, hmem⟩, hrole, hargument⟩, rfl⟩
    exact ⟨hcommand, before, named, after, word, hsplit, hword, _,
      ⟨argument, hmem, hrole, hargument, rfl⟩, rfl⟩

theorem removalRule_holds :
    (∀ predicate ∈ removalRule.predicates,
      predicate.holds source (removalBindings n word argument) = true) ↔
      word.text source = "rm" ∧ RecursiveForced (argument.text source) := by
  have hname : (captureIs "cmd" "rm").holds source (removalBindings n word argument) = true ↔ _ :=
    captureIs_holds rfl
  have hflags : (captureHas "arg" Bash.recursiveForced).holds source
      (removalBindings n word argument) = true ↔ _ :=
    (captureHas_holds rfl).trans found_recursiveForced
  exact List.forall_mem_cons.trans (and_congr hname (List.forall_mem_singleton.trans hflags))

/-- A match of the query. -/
def removalMatch (n word argument : Node) : Match :=
  [(fsdelete, [n]), ("cmd", [word]), ("arg", [argument])]

theorem ofBindings_removalBindings :
    Match.ofBindings (removalBindings n word argument) = removalMatch n word argument := by
  rfl

/-- **`mem_matches_recursiveDelete`** — what the query finds are the removals that recurse and are
forced, each once for every argument that says so. -/
theorem mem_matches_recursiveDelete {m : Match} :
    m ∈ Bash.recursiveDelete.query.matches root source ↔
      ∃ n ∈ root.preorder, ∃ word argument, RemovalWords n word argument ∧
        word.text source = "rm" ∧ RecursiveForced (argument.text source) ∧
        removalMatch n word argument = m := by
  rw [mem_query_matches, rules_recursiveDelete]
  simp only [List.mem_singleton, exists_eq_left, mem_matches_removalRule]
  constructor
  · rintro ⟨n, hn, _, ⟨word, argument, hwords, rfl⟩, hholds, rfl⟩
    obtain ⟨hname, hflags⟩ := removalRule_holds.mp hholds
    exact ⟨n, hn, word, argument, hwords, hname, hflags, ofBindings_removalBindings.symm⟩
  · rintro ⟨n, hn, word, argument, hwords, hname, hflags, rfl⟩
    exact ⟨n, hn, _, ⟨word, argument, hwords, rfl⟩, removalRule_holds.mpr ⟨hname, hflags⟩,
      ofBindings_removalBindings⟩

theorem mem_removalMatch {nodes : List Node} :
    (fsdelete, nodes) ∈ removalMatch n word argument ↔ nodes = [n] := by
  have hcmd : fsdelete ≠ "cmd" := by decide
  have harg : fsdelete ≠ "arg" := by decide
  simp only [removalMatch, List.mem_cons, Prod.mk.injEq, hcmd, harg, true_and, false_and,
    List.not_mem_nil, or_false]

/-- **`capturesExactly_fsdelete`** — what is captured under the name are these removals. -/
theorem capturesExactly_fsdelete :
    CapturesExactly Language.bash.packedQueries root source fsdelete fun n =>
      n ∈ root.preorder ∧ ForcedRemoval source n where
  sound q hq m hm nodes hnodes := by
    obtain ⟨packed, hpacked, rfl⟩ := mem_packedQueries_bash.mp hq
    -- the eighth query of the pack is the only one that has the name
    have hothers : ∀ other ∈ Bash.pack.take 7 ++ Bash.pack.drop 8,
        fsdelete ∉ other.query.captureNames := by decide
    obtain rfl : packed = Bash.recursiveDelete := eq_of_captures hothers hpacked hm hnodes
    obtain ⟨n, hn, word, argument, hwords, hname, hflags, rfl⟩ :=
      mem_matches_recursiveDelete.mp hm
    exact ⟨n, ⟨hn, word, argument, hwords, hname, hflags⟩, mem_removalMatch.mp hnodes⟩
  complete := by
    rintro n ⟨hn, word, argument, hwords, hname, hflags⟩
    exact ⟨_, mem_packedQueries_bash.mpr ⟨Bash.recursiveDelete, by simp [Bash.pack], rfl⟩, _,
      mem_matches_recursiveDelete.mpr ⟨n, hn, word, argument, hwords, hname, hflags, rfl⟩, _, rfl⟩

/-- **`forced_removals_are_told_exactly`** — the nodes that the queries for shell scripts capture
under the name are the commands of the tree that are called `rm` and have an argument with both
flags behind their name.  Where names come first, as in shell scripts, it may be any argument.  An
assessment is made of the captures of these nodes and of no others with the name. -/
theorem forced_removals_are_told_exactly (root : Node) (source : Text.Octets) (limit : Int) :
    (∀ n, (∃ q ∈ Language.bash.packedQueries, ∃ m ∈ q.matches root source, (fsdelete, [n]) ∈ m) ↔
      n ∈ root.preorder ∧ ForcedRemoval source n) ∧
    (NamesFirst root → ∀ n ∈ root.preorder,
      (∃ q ∈ Language.bash.packedQueries, ∃ m ∈ q.matches root source, (fsdelete, [n]) ∈ m) ↔
        ∃ word argument, CommandWord n word ∧ ArgumentWord n argument ∧
          word.text source = "rm" ∧ RecursiveForced (argument.text source)) ∧
    ∀ c, c ∈ Detection.captures Language.bash.packedQueries root source limit ∧
        c.name = fsdelete ↔
      ∃ n, (n ∈ root.preorder ∧ ForcedRemoval source n) ∧
        Detection.ofSpan fsdelete n.span source limit = c := by
  refine ⟨fun n => capturesExactly_fsdelete.mem_iff, fun hfirst n hn => ?_,
    fun c => capturesExactly_fsdelete.mem_captures (by decide)⟩
  rw [capturesExactly_fsdelete.mem_iff, and_iff_right hn]
  simp only [ForcedRemoval, hfirst.removalWords_iff hn, and_assoc]

/-- Two removals, one of which has its flags in different words. -/
def removalScript : Text := "if a; then rm -R -f b; rm -v c -qRzfw d; fi"

theorem removalScript_namesFirst :
    NamesFirst (Language.bash.tree (Text.encode removalScript)) := by
  decide +kernel

/-- Of these the other is found, by the letters of its second word. -/
theorem letters_of_one_word_tell :
    let source := Text.encode removalScript
    let root := Language.bash.tree source
    (Bash.recursiveDelete.query.matches root source).length = 1 ∧
      ∃ n ∈ root.preorder, n.text source = "rm -v c -qRzfw d" ∧
        ∃ word argument, CommandWord n word ∧ ArgumentWord n argument ∧
          word.text source = "rm" ∧ RecursiveForced (argument.text source) := by
  intro source root
  have hlength : (Bash.recursiveDelete.query.matches root source).length = 1 := by decide +kernel
  have htexts : ∀ m ∈ Bash.recursiveDelete.query.matches root source, ∀ p ∈ m, p.1 = fsdelete →
      p.2.map (·.text source) = ["rm -v c -qRzfw d"] := by decide +kernel
  obtain ⟨m, hm⟩ := List.exists_mem_of_length_pos (hlength ▸ Nat.one_pos)
  obtain ⟨n, hn, word, argument, -, -, -, rfl⟩ := mem_matches_recursiveDelete.mp hm
  have htext := htexts _ hm _ List.mem_cons_self rfl
  refine ⟨hlength, n, hn, (List.cons.inj htext).1, ?_⟩
  refine ((forced_removals_are_told_exactly root source 80).2.1 removalScript_namesFirst n hn).mp ?_
  exact ⟨_, mem_packedQueries_bash.mpr ⟨Bash.recursiveDelete, by simp [Bash.pack], rfl⟩, _, hm,
    List.mem_cons_self⟩

end Query

end HookAudit
