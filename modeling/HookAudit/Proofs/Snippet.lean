/-
# HookAudit.Proofs.Snippet — what a snippet keeps of a text.

A snippet keeps the words of a text and nothing of the white space around them, and of the words as
much as the limit admits.  Three cases are told apart: the words fit, or a cut is marked by an
ellipsis, or the limit has no room for one.  A cut may fall behind a space, which is then dropped,
so a marked snippet may stay one below the limit.  Whatever the case, a snippet is tidy, and with
room for an ellipsis it is its own snippet (`normalize_is_canonical`).
-/
import HookAudit.Proofs.Text.Words
import HookAudit.Snippet

namespace HookAudit.Snippet

open Text

variable {t : Text} {limit : Nat}

/-! ## Three cases -/

theorem normalize_of_fitting (h : t.collapse.length ≤ limit) : normalize t limit = t.collapse :=
  if_pos (Int.ofNat_le.mpr h)

theorem normalize_of_tight (h : limit < t.collapse.length) (hlimit : limit ≤ 3) :
    normalize t limit = t.collapse.take limit := by
  unfold normalize
  dsimp only
  rw [if_neg (by omega), if_pos (by omega)]
  rfl

theorem normalize_of_cut (h : limit < t.collapse.length) (hlimit : 4 ≤ limit) :
    normalize t limit = stripRight (t.collapse.take (limit - 3)) ++ ellipsis := by
  unfold normalize
  dsimp only
  have hroom : (limit : Int) - 3 = ((limit - 3 : Nat) : Int) := by omega
  rw [if_neg (by omega), if_neg (by omega), hroom]
  rfl

theorem tidy_take_collapse (n : Nat) : Tidy (t.collapse.take n) := by
  have hwhole := tidy_collapse t
  rw [← List.take_append_drop n t.collapse] at hwhole
  exact hwhole.of_append

/-! ## Cuts -/

/-- **`Abridges whole limit snippet`** — the snippet is a beginning of the whole with something
missing behind it, and an ellipsis instead; it has as many code points as the limit, or one less. -/
structure Abridges (whole : Text) (limit : Nat) (snippet : Text) : Prop where
  beginning : ∃ kept lost, whole = kept ++ lost ∧ lost ≠ [] ∧
    (∀ c ∈ kept.getLast?, c.isBlank = false) ∧ snippet = kept ++ ellipsis
  length : snippet.length = limit ∨ snippet.length + 1 = limit

/-- **`abridges_normalize`** — where the limit has room for it, every cut is marked. -/
theorem abridges_normalize (h : limit < t.collapse.length) (hlimit : 4 ≤ limit) :
    Abridges t.collapse limit (normalize t limit) := by
  have hroom : (t.collapse.take (limit - 3)).length = limit - 3 := by
    rw [List.length_take]
    omega
  have hstripped := (tidy_take_collapse (t := t) (limit - 3)).length_le_stripRight
  obtain ⟨gap, hgap⟩ := exists_stripRight_append (t.collapse.take (limit - 3))
  rw [normalize_of_cut h hlimit]
  constructor
  case beginning =>
    refine ⟨_, gap ++ t.collapse.drop (limit - 3), ?_, ?_, getLast?_stripRight _, rfl⟩
    · rw [← List.append_assoc, hgap, List.take_append_drop]
    · intro hnil
      have hdrop := congrArg List.length (List.append_eq_nil_iff.mp hnil).2
      rw [List.length_drop, List.length_nil] at hdrop
      omega
  case length =>
    have htotal := congrArg List.length hgap
    rw [List.length_append] at htotal
    have hdots : ellipsis.length = 3 := rfl
    rw [List.length_append, hdots]
    omega

/-! ## Every snippet -/

theorem length_normalize_le (t : Text) (limit : Nat) : (normalize t limit).length ≤ limit := by
  rcases Nat.lt_or_ge limit t.collapse.length with hlong | hfits
  · rcases Nat.lt_or_ge 3 limit with hroom | htight
    · rcases (abridges_normalize hlong hroom).length with hlength | hlength <;> omega
    · rw [normalize_of_tight hlong htight]
      exact List.length_take_le _ _
  · rwa [normalize_of_fitting hfits]

theorem tidy_normalize (t : Text) (limit : Nat) : Tidy (normalize t limit) := by
  rcases Nat.lt_or_ge limit t.collapse.length with hlong | hfits
  · rcases Nat.lt_or_ge 3 limit with hroom | htight
    · obtain ⟨gap, hgap⟩ := exists_stripRight_append (t.collapse.take (limit - 3))
      have hkept : Tidy (stripRight (t.collapse.take (limit - 3))) :=
        (hgap.symm ▸ tidy_take_collapse (limit - 3)).of_append
      rw [normalize_of_cut hlong hroom]
      exact hkept.append_solid (by decide)
    · rw [normalize_of_tight hlong htight]
      exact tidy_take_collapse limit
  · rw [normalize_of_fitting hfits]
    exact tidy_collapse t

theorem getLast?_normalize (hlimit : 4 ≤ limit) :
    ∀ c ∈ (normalize t limit).getLast?, c.isBlank = false := by
  rcases Nat.lt_or_ge limit t.collapse.length with hlong | hfits
  · rw [normalize_of_cut hlong hlimit, List.getLast?_append_of_ne_nil _ (by decide)]
    decide
  · rw [normalize_of_fitting hfits]
    exact getLast?_collapse t

/-- **`normalize_normalize`** — a snippet is its own snippet. -/
theorem normalize_normalize (t : Text) (hlimit : 4 ≤ limit) :
    normalize (normalize t limit) limit = normalize t limit := by
  have hwords : (normalize t limit).collapse = normalize t limit :=
    (tidy_normalize t limit).collapse_eq_self (getLast?_normalize hlimit)
  rw [normalize_of_fitting, hwords]
  rw [hwords]
  exact length_normalize_le t limit

theorem cut_subset (t : Text) (limit : Int) : cut t limit ⊆ t := by
  cases limit <;> exact List.take_subset _ _

/-- A snippet holds nothing but the text, spaces and dots, whatever the limit. -/
theorem mem_normalize {limit : Int} {c : CodePoint} (h : c ∈ normalize t limit) :
    c ∈ t ∨ c = space ∨ c = .ofChar '.' := by
  have hwhole : c ∈ t.collapse ∨ c = .ofChar '.' := by
    unfold normalize at h
    dsimp only at h
    split at h
    · exact .inl h
    · split at h
      · exact .inl (cut_subset _ _ h)
      · rcases List.mem_append.mp h with hkept | hdots
        · exact .inl (cut_subset _ _ (subset_stripRight _ hkept))
        · exact .inr (by simpa [ellipsis, ofString] using hdots)
  rcases hwhole with hword | hdot
  · exact (mem_collapse hword).imp_right .inl
  · exact .inr (.inr hdot)

/-- Something is left of every text that has a word. -/
theorem normalize_eq_nil_iff (hlimit : 0 < limit) : normalize t limit = [] ↔ t.collapse = [] := by
  rcases Nat.lt_or_ge limit t.collapse.length with hlong | hfits
  · have hwhole : t.collapse ≠ [] := List.ne_nil_of_length_pos (Nat.zero_lt_of_lt hlong)
    refine iff_of_false (fun hnil => ?_) hwhole
    rcases Nat.lt_or_ge 3 limit with hroom | htight
    · rw [normalize_of_cut hlong hroom] at hnil
      cases (List.append_eq_nil_iff.mp hnil).2
    · rw [normalize_of_tight hlong htight, List.take_eq_nil_iff] at hnil
      exact hnil.elim (Nat.ne_of_gt hlimit) hwhole
  · rw [normalize_of_fitting hfits]

/-- **`normalize_is_canonical`** — the words of a text are its maximal runs of other code points
than white space, and joined by spaces they are what is left when every run of white space is
replaced by a space and both ends are stripped.  Texts with the same words have the same snippet.
It is no longer than the limit, has no white space but single spaces behind something else, hence no
line break, and is the words themselves where these fit.  Where they do not and the limit has room
for an ellipsis, it is a marked beginning of them; and with that room, its own snippet is the
snippet again. -/
theorem normalize_is_canonical (t : Text) (limit : Nat) :
    let whole := join " " t.words
    let snippet := normalize t limit
    ((∀ ws, Runs t ws ↔ t.words = ws) ∧ t.squeeze.strip = whole) ∧
    (∀ u : Text, join " " u.words = whole → normalize u limit = snippet) ∧
    snippet.length ≤ limit ∧ (0 < limit → (snippet = [] ↔ whole = [])) ∧
    Tidy snippet ∧ snippet.OneLine ∧
    (whole.length ≤ limit → snippet = whole) ∧
    (4 ≤ limit → limit < whole.length → Abridges whole limit snippet) ∧
    (4 ≤ limit → normalize snippet limit = snippet) := by
  intro whole snippet
  refine ⟨⟨fun ws => runs_iff, strip_squeeze t⟩, ?words, length_normalize_le t limit,
    normalize_eq_nil_iff, tidy_normalize t limit, oneLine_normalize t limit, normalize_of_fitting,
    fun hroom hlong => abridges_normalize hlong hroom, normalize_normalize t⟩
  case words =>
    intro u hwords
    show normalize u limit = normalize t limit
    have hsame : u.collapse = t.collapse := hwords
    unfold normalize
    rw [hsame]

/-- A command on three lines, cut behind a space, which goes. -/
theorem command_is_abridged :
    let t : Text := " rm\t\n-rf  /tmp\n"
    10 < (join " " t.words).length ∧ normalize t 10 = "rm -rf..." ∧
      Abridges (join " " t.words) 10 (normalize t 10) ∧
      normalize (normalize t 10) 10 = normalize t 10 := by
  intro t
  obtain ⟨-, -, -, -, -, -, -, habridges, hagain⟩ := normalize_is_canonical t 10
  have hlong : 10 < (join " " t.words).length := by decide
  exact ⟨hlong, by decide, habridges (by decide) hlong, hagain (by decide)⟩

end HookAudit.Snippet
