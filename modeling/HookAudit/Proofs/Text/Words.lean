/-
# HookAudit.Proofs.Text.Words — the words of a text.

The words of a text are its maximal runs of code points that are no white space (`Runs`), and
cutting at white space finds these and no others (`runs_iff`).  To join them by spaces is to replace
every run of white space by one space and to strip both ends (`strip_squeeze`).  What comes of it is
tidy: no white space is left but single spaces, each behind something else (`tidy_collapse`).  A
tidy text that ends in no space is not changed by doing so again (`Tidy.collapse_eq_self`).
-/
import HookAudit.Proofs.Text.Lines
import Mathlib.Data.List.Chain
import Mathlib.Data.List.DropRight

namespace HookAudit.Text

variable {t u gap word rest : Text} {ws more : List Text} {c : CodePoint}

/-- The one white space that is left in a tidy text. -/
def space : CodePoint := .ofChar ' '

/-! ## Words -/

/-- **`Runs t ws`** — the words are the maximal runs of code points of `t` that are no white space,
in order. -/
inductive Runs : Text → List Text → Prop where
  | nothing {gap : Text} (blank : ∀ c ∈ gap, c.isBlank = true) : Runs gap []
  | word {gap word rest : Text} {more : List Text} (blank : ∀ c ∈ gap, c.isBlank = true)
      (some : word ≠ []) (solid : ∀ c ∈ word, c.isBlank = false)
      (apart : ∀ c ∈ rest.head?, c.isBlank = true) (others : Runs rest more) :
      Runs (gap ++ word ++ rest) (word :: more)

theorem words_cons_of_blank (hc : c.isBlank = true) : words (c :: t) = words t := by
  unfold words
  rw [splitWhere, if_pos hc]
  rfl

theorem words_append_of_blank (hgap : ∀ c ∈ gap, c.isBlank = true) :
    words (gap ++ t) = words t := by
  induction gap with
  | nil => rfl
  | cons c gap ih =>
    obtain ⟨hc, hgap⟩ := List.forall_mem_cons.mp hgap
    exact (words_cons_of_blank hc).trans (ih hgap)

/-- Where no code point of a word follows, the first piece is empty. -/
theorem exists_splitWhere_of_apart (hrest : ∀ c ∈ rest.head?, c.isBlank = true) :
    ∃ pieces, splitWhere CodePoint.isBlank rest = [] :: pieces := by
  cases rest with
  | nil => exact ⟨[], rfl⟩
  | cons c rest => exact ⟨_, by rw [splitWhere, if_pos (hrest c rfl)]⟩

theorem words_append_of_solid (hsome : word ≠ []) (hword : ∀ c ∈ word, c.isBlank = false)
    (hrest : ∀ c ∈ rest.head?, c.isBlank = true) : words (word ++ rest) = word :: words rest := by
  obtain ⟨pieces, hpieces⟩ := exists_splitWhere_of_apart hrest
  unfold words
  rw [splitWhere_append hword, hpieces]
  simp [hsome]

theorem Runs.words_eq (h : Runs t ws) : words t = ws := by
  induction h with
  | @nothing gap hgap =>
    have hwords := words_append_of_blank (t := []) hgap
    rwa [List.append_nil] at hwords
  | word hgap hsome hword hrest _ ih =>
    rw [List.append_assoc, words_append_of_blank hgap, words_append_of_solid hsome hword hrest, ih]

theorem Runs.cons_of_blank (h : Runs t ws) (hc : c.isBlank = true) : Runs (c :: t) ws := by
  cases h with
  | nothing hgap => exact .nothing (List.forall_mem_cons.mpr ⟨hc, hgap⟩)
  | word hgap hsome hword hrest hothers =>
    exact .word (List.forall_mem_cons.mpr ⟨hc, hgap⟩) hsome hword hrest hothers

/-- A code point in front goes to the first word, or is one where white space follows. -/
theorem Runs.exists_cons_of_solid (h : Runs t ws) (hc : c.isBlank = false) :
    ∃ ws, Runs (c :: t) ws := by
  have hword : ∀ d ∈ [c], d.isBlank = false := by simpa using hc
  have hnone : ∀ d ∈ ([] : Text), d.isBlank = true := nofun
  cases h with
  | nothing hgap =>
    exact ⟨_, .word hnone (List.cons_ne_nil c []) hword
      (fun d hd => hgap d (List.mem_of_mem_head? hd)) (.nothing hgap)⟩
  | @word gap first rest more hgap hsome hfirst hrest hothers =>
    cases gap with
    | nil =>
      exact ⟨_, .word hnone (List.cons_ne_nil c first) (List.forall_mem_cons.mpr ⟨hc, hfirst⟩)
        hrest hothers⟩
    | cons d gap =>
      have hd : ∀ x ∈ (d :: gap ++ first ++ rest).head?, x.isBlank = true := by
        simpa using hgap d List.mem_cons_self
      exact ⟨_, .word hnone (List.cons_ne_nil c []) hword hd
        (.word hgap hsome hfirst hrest hothers)⟩

/-- Every text has words. -/
theorem exists_runs (t : Text) : ∃ ws, Runs t ws := by
  induction t with
  | nil => exact ⟨[], .nothing nofun⟩
  | cons c t ih =>
    obtain ⟨ws, hws⟩ := ih
    cases hc : c.isBlank with
    | true => exact ⟨ws, hws.cons_of_blank hc⟩
    | false => exact hws.exists_cons_of_solid hc

/-- **`runs_iff`** — the words of a text are its maximal runs of other code points than white
space. -/
theorem runs_iff : Runs t ws ↔ words t = ws := by
  constructor
  · exact Runs.words_eq
  · rintro rfl
    obtain ⟨ws, hws⟩ := exists_runs t
    rwa [hws.words_eq]

/-! ## Squeezing -/

/-- A text with every run of white space replaced by a space.  Behind white space its first run has
been replaced already. -/
def squeezeFrom (behindBlank : Bool) : Text → Text
  | [] => []
  | c :: rest =>
    if c.isBlank then
      if behindBlank then squeezeFrom true rest else space :: squeezeFrom true rest
    else c :: squeezeFrom false rest

/-- A text with every run of white space replaced by a space. -/
def squeeze (t : Text) : Text := squeezeFrom false t

theorem squeezeFrom_cons_of_blank (hc : c.isBlank = true) :
    squeezeFrom true (c :: t) = squeezeFrom true t ∧
      squeezeFrom false (c :: t) = space :: squeezeFrom true t := by
  constructor <;> rw [squeezeFrom, if_pos hc] <;> rfl

theorem squeezeFrom_cons_of_solid (hc : c.isBlank = false) (behindBlank : Bool) :
    squeezeFrom behindBlank (c :: t) = c :: squeezeFrom false t := by
  rw [squeezeFrom, if_neg (by simp [hc])]

/-- White space at the start is dropped behind white space. -/
theorem squeezeFrom_append_of_blank (hgap : ∀ c ∈ gap, c.isBlank = true) :
    squeezeFrom true (gap ++ t) = squeezeFrom true t := by
  induction gap with
  | nil => rfl
  | cons c gap ih =>
    obtain ⟨hc, hgap⟩ := List.forall_mem_cons.mp hgap
    exact (squeezeFrom_cons_of_blank hc).1.trans (ih hgap)

theorem squeezeFrom_append_of_solid (hsome : word ≠ []) (hword : ∀ c ∈ word, c.isBlank = false)
    (behindBlank : Bool) : squeezeFrom behindBlank (word ++ t) = word ++ squeezeFrom false t := by
  induction word generalizing behindBlank with
  | nil => exact absurd rfl hsome
  | cons c word ih =>
    obtain ⟨hc, hword⟩ := List.forall_mem_cons.mp hword
    rw [List.cons_append, squeezeFrom_cons_of_solid hc]
    cases word with
    | nil => rfl
    | cons d word =>
      rw [ih (List.cons_ne_nil d word) hword]
      rfl

/-! ## Stripping -/

theorem stripRight_eq (t : Text) : t.stripRight = t.rdropWhile CodePoint.isBlank := rfl

theorem exists_stripRight_append (t : Text) : ∃ gap, t.stripRight ++ gap = t := by
  refine ⟨(t.reverse.takeWhile CodePoint.isBlank).reverse, ?_⟩
  unfold stripRight
  rw [← List.reverse_append, List.takeWhile_append_dropWhile, List.reverse_reverse]

/-- Stripping goes no further than the last code point that is no white space. -/
theorem stripRight_append (a b : Text) :
    (a ++ b).stripRight = if b.stripRight = [] then a.stripRight else a ++ b.stripRight := by
  unfold stripRight
  rw [List.reverse_append, List.dropWhile_append]
  cases b.reverse.dropWhile CodePoint.isBlank with
  | nil => simp
  | cons c rest => simp

theorem stripRight_eq_self (h : ∀ c ∈ t.getLast?, c.isBlank = false) : t.stripRight = t := by
  refine List.rdropWhile_eq_self_iff.mpr fun hne => ?_
  simp [h _ (List.getLast?_eq_getLast_of_ne_nil hne)]

theorem getLast?_stripRight (t : Text) : ∀ c ∈ t.stripRight.getLast?, c.isBlank = false := by
  intro c hc
  obtain ⟨hne, rfl⟩ := List.mem_getLast?_eq_getLast hc
  exact Bool.eq_false_iff.mpr (List.rdropWhile_last_not CodePoint.isBlank t hne)

/-! ## Two readings -/

theorem join_cons (w : Text) (ws : List Text) :
    join " " (w :: ws) = w ++ if ws = [] then [] else space :: join " " ws := by
  cases ws with
  | nil => simp [join]
  | cons v ws => simp [join, ofString, space]

theorem Runs.join_eq_nil_iff (h : Runs t ws) : join " " ws = [] ↔ ws = [] := by
  cases h with
  | nothing => exact iff_of_true rfl rfl
  | word _ hsome => simp [join_cons, hsome]

/-- Where no word goes on, what is left is empty or starts with a run of white space. -/
theorem stripRight_squeezeFrom_of_apart (hrest : ∀ c ∈ rest.head?, c.isBlank = true) :
    (squeezeFrom false rest).stripRight =
      if (squeezeFrom true rest).stripRight = [] then []
      else space :: (squeezeFrom true rest).stripRight := by
  cases rest with
  | nil => rfl
  | cons c rest =>
    obtain ⟨hbehind, hfirst⟩ := squeezeFrom_cons_of_blank (t := rest) (hrest c rfl)
    have hspace : stripRight [space] = [] := by decide
    rw [hbehind, hfirst, ← List.singleton_append, stripRight_append, hspace, List.singleton_append]

/-- **`Runs.stripRight_squeezeFrom`** — what squeezing and stripping leave of a text are its words,
joined by spaces. -/
theorem Runs.stripRight_squeezeFrom (h : Runs t ws) :
    (squeezeFrom true t).stripRight = join " " ws := by
  induction h with
  | @nothing gap hgap =>
    have hnone := squeezeFrom_append_of_blank (t := []) hgap
    rw [List.append_nil] at hnone
    rw [hnone]
    rfl
  | @word gap word rest more hgap hsome hword hrest hothers ih =>
    have hlast : stripRight word = word :=
      stripRight_eq_self fun c hc => hword c (List.mem_of_mem_getLast? hc)
    rw [List.append_assoc, squeezeFrom_append_of_blank hgap,
      squeezeFrom_append_of_solid hsome hword, stripRight_append,
      stripRight_squeezeFrom_of_apart hrest, ih, join_cons, hlast]
    simp only [hothers.join_eq_nil_iff]
    split_ifs <;> simp_all

theorem collapse_eq (t : Text) : t.collapse = (squeezeFrom true t).stripRight :=
  (runs_iff.mpr rfl).stripRight_squeezeFrom.symm

theorem head?_squeezeFrom (t : Text) : ∀ c ∈ (squeezeFrom true t).head?, c.isBlank = false := by
  induction t with
  | nil => exact nofun
  | cons c t ih =>
    cases hc : c.isBlank with
    | true => rwa [(squeezeFrom_cons_of_blank hc).1]
    | false =>
      rw [squeezeFrom_cons_of_solid hc]
      rintro _ ⟨⟩
      exact hc

theorem stripLeft_eq_self (h : ∀ c ∈ t.head?, c.isBlank = false) : t.stripLeft = t := by
  cases t with
  | nil => rfl
  | cons c t => exact List.dropWhile_cons_of_neg (by simp [h c rfl])

theorem stripLeft_squeeze (t : Text) : t.squeeze.stripLeft = squeezeFrom true t := by
  unfold squeeze
  cases t with
  | nil => rfl
  | cons c t =>
    cases hc : c.isBlank with
    | true =>
      rw [(squeezeFrom_cons_of_blank hc).1, (squeezeFrom_cons_of_blank hc).2]
      refine (List.dropWhile_cons_of_pos (by decide)).trans ?_
      exact stripLeft_eq_self (head?_squeezeFrom t)
    | false =>
      rw [squeezeFrom_cons_of_solid hc, squeezeFrom_cons_of_solid hc]
      exact stripLeft_eq_self (by rintro _ ⟨⟩; exact hc)

/-- **`strip_squeeze`** — the words of a text, joined by spaces, are what is left when every run of
white space is replaced by a space and both ends are stripped. -/
theorem strip_squeeze (t : Text) : t.squeeze.strip = t.collapse := by
  unfold strip
  rw [stripLeft_squeeze, collapse_eq]

/-! ## Tidy texts -/

/-- **`Tidy t`** — the only white space of the text are single spaces, each behind something
else. -/
structure Tidy (t : Text) : Prop where
  plain : ∀ c ∈ t, c.isBlank = true → c = space
  single : t.IsChain fun c d => c.isBlank = true → d.isBlank = false
  start : ∀ c ∈ t.head?, c.isBlank = false

theorem Tidy.of_append (h : Tidy (t ++ u)) : Tidy t where
  plain := (List.forall_mem_append.mp h.plain).1
  single := (List.isChain_append.mp h.single).1
  start := by
    cases t with
    | nil => exact nofun
    | cons c t => exact h.start

theorem Tidy.append_solid (h : Tidy t) (hu : ∀ c ∈ u, c.isBlank = false) : Tidy (t ++ u) where
  plain := by
    refine List.forall_mem_append.mpr ⟨h.plain, fun c hc hblank => ?_⟩
    simp [hu c hc] at hblank
  single := by
    refine List.isChain_append.mpr ⟨h.single, ?_, fun c _ d hd _ => ?_⟩
    · refine List.Pairwise.isChain (List.pairwise_of_forall_mem_list fun c hc d hd _ => hu d hd)
    · exact hu d (List.mem_of_mem_head? hd)
  start := by
    cases t with
    | nil => exact fun c hc => hu c (List.mem_of_mem_head? hc)
    | cons c t => exact h.start

/-- Squeezing leaves single spaces. -/
theorem squeezeFrom_single (t : Text) (behindBlank : Bool) :
    (∀ c ∈ squeezeFrom behindBlank t, c.isBlank = true → c = space) ∧
    (squeezeFrom behindBlank t).IsChain fun c d => c.isBlank = true → d.isBlank = false := by
  induction t generalizing behindBlank with
  | nil => exact ⟨nofun, .nil⟩
  | cons c t ih =>
    cases hc : c.isBlank with
    | true =>
      obtain ⟨hplain, hsingle⟩ := ih true
      cases behindBlank with
      | true =>
        rw [(squeezeFrom_cons_of_blank hc).1]
        exact ih true
      | false =>
        rw [(squeezeFrom_cons_of_blank hc).2]
        exact ⟨List.forall_mem_cons.mpr ⟨fun _ => rfl, hplain⟩,
          List.isChain_cons.mpr ⟨fun d hd _ => head?_squeezeFrom t d hd, hsingle⟩⟩
    | false =>
      obtain ⟨hplain, hsingle⟩ := ih false
      rw [squeezeFrom_cons_of_solid hc]
      exact ⟨List.forall_mem_cons.mpr ⟨by simp [hc], hplain⟩,
        List.isChain_cons.mpr ⟨by simp [hc], hsingle⟩⟩

/-- **`tidy_collapse`** — the words of a text, joined by spaces, are a tidy text. -/
theorem tidy_collapse (t : Text) : Tidy t.collapse := by
  have hsqueezed : Tidy (squeezeFrom true t) :=
    ⟨(squeezeFrom_single t true).1, (squeezeFrom_single t true).2, head?_squeezeFrom t⟩
  obtain ⟨gap, hgap⟩ := exists_stripRight_append (squeezeFrom true t)
  rw [← hgap] at hsqueezed
  rw [collapse_eq]
  exact hsqueezed.of_append

/-- Where there are only single spaces, there is nothing to squeeze. -/
theorem squeezeFrom_eq_self {behindBlank : Bool} (hplain : ∀ c ∈ t, c.isBlank = true → c = space)
    (hsingle : t.IsChain fun c d => c.isBlank = true → d.isBlank = false)
    (hstart : behindBlank = true → ∀ c ∈ t.head?, c.isBlank = false) :
    squeezeFrom behindBlank t = t := by
  induction t generalizing behindBlank with
  | nil => rfl
  | cons c t ih =>
    obtain ⟨hc, hplain⟩ := List.forall_mem_cons.mp hplain
    obtain ⟨hnext, hsingle⟩ := List.isChain_cons.mp hsingle
    cases hblank : c.isBlank with
    | true =>
      cases behindBlank with
      | true => simp [hstart rfl c rfl] at hblank
      | false =>
        rw [(squeezeFrom_cons_of_blank hblank).2, hc hblank,
          ih hplain hsingle fun _ d hd => hnext d hd hblank]
    | false =>
      have hrest : squeezeFrom false t = t := ih hplain hsingle nofun
      rw [squeezeFrom_cons_of_solid hblank, hrest]

/-- **`Tidy.collapse_eq_self`** — a tidy text that ends in no white space is its own words. -/
theorem Tidy.collapse_eq_self (h : Tidy t) (hlast : ∀ c ∈ t.getLast?, c.isBlank = false) :
    t.collapse = t := by
  rw [collapse_eq, squeezeFrom_eq_self h.plain h.single fun _ => h.start, stripRight_eq_self hlast]

theorem getLast?_collapse (t : Text) : ∀ c ∈ t.collapse.getLast?, c.isBlank = false := by
  rw [collapse_eq]
  exact getLast?_stripRight _

/-- Stripping takes at most one code point from a tidy text. -/
theorem Tidy.length_le_stripRight (h : Tidy t) : t.length ≤ t.stripRight.length + 1 := by
  rcases List.eq_nil_or_concat' t with rfl | ⟨u, c, rfl⟩
  · exact Nat.zero_le _
  · obtain ⟨-, -, hbefore⟩ := List.isChain_append.mp h.single
    rw [stripRight_eq, List.rdropWhile_concat, ← stripRight_eq]
    cases hc : c.isBlank with
    | false => exact Nat.le_succ _
    | true =>
      have hu : stripRight u = u := by
        refine stripRight_eq_self fun d hd => ?_
        by_contra hblank
        simp [hbefore d hd c rfl (by simpa using hblank)] at hc
      rw [if_pos rfl, hu, List.length_append]
      rfl

theorem mem_squeezeFrom {behindBlank : Bool} (h : c ∈ squeezeFrom behindBlank t) :
    c ∈ t ∨ c = space := by
  induction t generalizing behindBlank with
  | nil => cases h
  | cons d t ih =>
    cases hd : d.isBlank with
    | true =>
      cases behindBlank with
      | true =>
        rw [(squeezeFrom_cons_of_blank hd).1] at h
        exact (ih h).imp_left (List.mem_cons_of_mem d)
      | false =>
        rw [(squeezeFrom_cons_of_blank hd).2] at h
        rcases List.mem_cons.mp h with rfl | h
        · exact .inr rfl
        · exact (ih h).imp_left (List.mem_cons_of_mem d)
    | false =>
      rw [squeezeFrom_cons_of_solid hd] at h
      rcases List.mem_cons.mp h with rfl | h
      · exact .inl List.mem_cons_self
      · exact (ih h).imp_left (List.mem_cons_of_mem d)

theorem mem_collapse (h : c ∈ t.collapse) : c ∈ t ∨ c = space := by
  rw [collapse_eq] at h
  exact mem_squeezeFrom (subset_stripRight _ h)

end HookAudit.Text
