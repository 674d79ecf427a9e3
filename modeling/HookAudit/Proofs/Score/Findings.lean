/-
# HookAudit.Proofs.Score.Findings — one finding for every piece that is shown.

A finding is a line of text: the name of the risk, where it stands, and a snippet.  Two captures may
have one finding, and then the report lists it once.  This module says when that happens and in what
order the findings come, for captures taken from a source as they stand in it (`TakenFrom`).

* `Capture.finding_eq_iff` — a finding tells the name, the line, the column and the snippet.  It is
  read from the front: the name ends at the first blank and a number at the first colon behind it,
  so a snippet may hold anything, even what looks like a place.
* `placeAt_lt` — along a source, the pairs of row and column increase with every byte, so the order
  of captures by offset is the order of their findings by line and column.
* `findings_of_takenFrom` puts these together.
-/
import HookAudit.Proofs.Score.Greedy
import HookAudit.Proofs.Text.Numbers
import HookAudit.Text.Blank
import HookAudit.Text.Utf8
import Mathlib.Data.Finset.Card
import Mathlib.Order.Monotone.Basic

namespace HookAudit

/-! ## What a finding tells -/

namespace Capture

variable {c d : Capture}

/-- What a finding shows of a capture: name, line, column and snippet. -/
def shown (c : Capture) : Text × Int × Int × Text := (c.name, c.line, c.column, c.snippet)

/-- The capture that shows given things, with an empty range. -/
def ofShown (shown : Text × Int × Int × Text) : Capture :=
  ⟨shown.1, 0, 0, shown.2.1, shown.2.2.1, shown.2.2.2⟩

/-- A capture whose name has no blanks. -/
def Unspaced (c : Capture) : Prop := ∀ p ∈ c.name, p.isBlank = false

instance (c : Capture) : Decidable c.Unspaced :=
  inferInstanceAs (Decidable (∀ p ∈ c.name, p.isBlank = false))

theorem Unspaced.space_notMem (hc : c.Unspaced) : CodePoint.ofChar ' ' ∉ c.name :=
  fun h => absurd (hc _ h) (by decide)

theorem finding_ofShown (c : Capture) : (ofShown c.shown).finding = c.finding := rfl

/-- A finding, opened at the marks by which it is read. -/
theorem finding_eq (c : Capture) :
    c.finding = c.name ++ CodePoint.ofChar ' ' :: (("at " : Text) ++
      (Text.ofInt c.line ++ CodePoint.ofChar ':' ::
        (Text.ofInt c.column ++ CodePoint.ofChar ':' ::
          (CodePoint.ofChar ' ' :: c.snippet)))) := by
  simp [finding, Text.ofString]

/-- **`finding_eq_iff`** — captures with unblank names have one finding exactly when they show the
same. -/
theorem finding_eq_iff (hc : c.Unspaced) (hd : d.Unspaced) :
    c.finding = d.finding ↔ c.shown = d.shown := by
  constructor
  · intro h
    rw [finding_eq, finding_eq] at h
    have hcolon : ∀ i, CodePoint.ofChar ':' ∉ Text.ofInt i :=
      Text.notMem_ofInt (by decide) (by decide)
    obtain ⟨hname, h⟩ := Text.eq_of_append_first_mark hc.space_notMem hd.space_notMem h
    obtain ⟨hline, h⟩ :=
      Text.eq_of_append_first_mark (hcolon _) (hcolon _) (List.append_cancel_left h)
    obtain ⟨hcolumn, h⟩ := Text.eq_of_append_first_mark (hcolon _) (hcolon _) h
    have hsnippet := (List.cons.inj h).2
    simp only [shown, hname, Text.ofInt_injective hline, Text.ofInt_injective hcolumn, hsnippet]
  · intro h
    rw [← finding_ofShown c, h, finding_ofShown]

end Capture

/-! ## Rows and columns of a source -/

namespace Text

/-- The row of an offset, counted from zero: the newlines in front of it. -/
def rowAt (source : Octets) (offset : Nat) : Nat := (source.take offset).count 10

/-- The column of an offset, counted from zero: the bytes behind the last newline in front of it. -/
def columnAt (source : Octets) (offset : Nat) : Nat :=
  ((source.take offset).reverse.takeWhile (· != 10)).length

/-- Where an offset lies: rows first, then columns. -/
def placeAt (source : Octets) (offset : Nat) : Nat ×ₗ Nat :=
  toLex (rowAt source offset, columnAt source offset)

variable {source : Octets} {offset later : Nat}

/-- A newline ends the row, and any other byte moves on by one column. -/
theorem placeAt_succ (h : offset < source.length) :
    placeAt source (offset + 1) =
      if source[offset] = 10 then toLex (rowAt source offset + 1, 0)
      else toLex (rowAt source offset, columnAt source offset + 1) := by
  -- one byte more is in front, and only a newline shortens the row
  have htake : source.take (offset + 1) = source.take offset ++ [source[offset]] := by simp
  rw [placeAt, rowAt, columnAt, htake, List.count_append, List.reverse_append]
  split <;> rename_i hnewline
  · simp [hnewline, rowAt]
  · simp [hnewline, rowAt, columnAt]

theorem placeAt_lt_succ (h : offset < source.length) :
    placeAt source offset < placeAt source (offset + 1) := by
  rw [placeAt_succ h, placeAt]
  split <;> simp [Prod.Lex.toLex_lt_toLex]

theorem placeAt_mono (source : Octets) : Monotone (placeAt source) := by
  refine monotone_nat_of_le_succ fun offset => ?_
  by_cases h : offset < source.length
  · exact (placeAt_lt_succ h).le
  · -- behind the end nothing changes any more
    have hend : source.take (offset + 1) = source.take offset := by
      rw [List.take_of_length_le (by omega), List.take_of_length_le (by omega)]
    rw [placeAt, placeAt, rowAt, rowAt, columnAt, columnAt, hend]

/-- **`placeAt_lt`** — of two places in a source, the later one has the later row or, on the same
row, the later column. -/
theorem placeAt_lt (h : offset < later) (hlater : later ≤ source.length) :
    placeAt source offset < placeAt source later :=
  (placeAt_lt_succ (h.trans_le hlater)).trans_le (placeAt_mono source h)

end Text

/-! ## Captures in their source -/

namespace Capture

variable {source : Text.Octets} {c d : Capture}

/-- The place that a finding gives for a capture. -/
def spot (c : Capture) : Int ×ₗ Int := toLex (c.line, c.column)

/-- **`c.Located source`** — line and column are those of the first byte, counted from one. -/
structure Located (source : Text.Octets) (c : Capture) : Prop where
  start : 0 ≤ c.start
  line : c.line = Text.rowAt source c.start.toNat + 1
  column : c.column = Text.columnAt source c.start.toNat + 1

instance (source : Text.Octets) (c : Capture) : Decidable (c.Located source) :=
  decidable_of_iff (0 ≤ c.start ∧ c.line = Text.rowAt source c.start.toNat + 1 ∧
      c.column = Text.columnAt source c.start.toNat + 1)
    ⟨fun h => ⟨h.1, h.2.1, h.2.2⟩, fun h => ⟨h.start, h.line, h.column⟩⟩

theorem Located.spot_eq (h : c.Located source) :
    c.spot = toLex ((Text.rowAt source c.start.toNat + 1 : Int),
      (Text.columnAt source c.start.toNat + 1 : Int)) := by
  rw [spot, h.line, h.column]

/-- The spots of located captures compare as their places in the source do. -/
theorem Located.spot_le_iff (hc : c.Located source) (hd : d.Located source) :
    c.spot ≤ d.spot ↔
      Text.placeAt source c.start.toNat ≤ Text.placeAt source d.start.toNat := by
  rw [hc.spot_eq, hd.spot_eq, Text.placeAt, Text.placeAt, Prod.Lex.toLex_le_toLex,
    Prod.Lex.toLex_le_toLex]
  omega

theorem Located.spot_le (hc : c.Located source) (hd : d.Located source) (h : c.start ≤ d.start) :
    c.spot ≤ d.spot :=
  (hc.spot_le_iff hd).mpr (Text.placeAt_mono source (Int.toNat_le_toNat h))

/-- Within the source, a spot tells the first byte. -/
theorem Located.start_eq (hc : c.Located source) (hd : d.Located source)
    (hcend : c.start ≤ source.length) (hdend : d.start ≤ source.length) (h : c.spot = d.spot) :
    c.start = d.start := by
  have hplace : Text.placeAt source c.start.toNat = Text.placeAt source d.start.toNat :=
    le_antisymm ((hc.spot_le_iff hd).mp h.le) ((hd.spot_le_iff hc).mp h.ge)
  have hcstart := hc.start
  have hdstart := hd.start
  rcases lt_trichotomy c.start.toNat d.start.toNat with hlt | heq | hlt
  · exact absurd hplace (Text.placeAt_lt hlt (by omega)).ne
  · omega
  · exact absurd hplace (Text.placeAt_lt hlt (by omega)).ne'

end Capture

namespace Score

open Capture

variable {source : Text.Octets} {captures : List Capture}

/-- **`TakenFrom source captures`** — captures as they are taken from a source: each has the line
and column of its first byte and a name without blanks, and its range decides its snippet. -/
structure TakenFrom (source : Text.Octets) (captures : List Capture) : Prop where
  located : ∀ c ∈ captures, c.Located source
  unspaced : ∀ c ∈ captures, c.Unspaced
  snippet : ∀ c ∈ captures, ∀ d ∈ captures,
    c.start = d.start → c.stop = d.stop → c.snippet = d.snippet

/-- In one source, name and range decide a capture. -/
theorem TakenFrom.agreeing (h : TakenFrom source captures) : Agreeing captures := by
  intro c hc d hd hkey
  simp only [key, Prod.mk.injEq] at hkey
  obtain ⟨hname, hstart, hstop⟩ := hkey
  have hline : c.line = d.line := by rw [(h.located c hc).line, (h.located d hd).line, hstart]
  have hcolumn : c.column = d.column := by
    rw [(h.located c hc).column, (h.located d hd).column, hstart]
  have hsnippet := h.snippet c hc d hd hstart hstop
  cases c
  cases d
  simp_all

theorem TakenFrom.finding_eq_iff (h : TakenFrom source captures) {c d : Capture}
    (hc : c ∈ captures) (hd : d ∈ captures) : c.finding = d.finding ↔ c.shown = d.shown :=
  Capture.finding_eq_iff (h.unspaced c hc) (h.unspaced d hd)

/-- Every capture is reported. -/
theorem TakenFrom.mem_findings_iff (h : TakenFrom source captures) {f : Text} :
    f ∈ findings captures ↔ ∃ c ∈ captures, c.finding = f := by
  simp only [mem_findings, ← mem_unique_iff, mem_unique_of_agreeing h.agreeing]

/-- A finding tells where the capture stands. -/
theorem TakenFrom.spot_eq (h : TakenFrom source captures) {c d : Capture} (hc : c ∈ captures)
    (hd : d ∈ captures) (heq : c.finding = d.finding) : c.spot = d.spot := by
  have hshown := (h.finding_eq_iff hc hd).mp heq
  simp only [shown, Prod.mk.injEq] at hshown
  rw [spot, spot, hshown.2.1, hshown.2.2.1]

/-- The findings come in the order in which the captures stand in the source. -/
theorem TakenFrom.pairwise_findings (h : TakenFrom source captures) :
    (findings captures).Pairwise fun f g =>
      ∀ c ∈ captures, ∀ d ∈ captures, c.finding = f → d.finding = g → c.spot ≤ d.spot := by
  have hsorted : (((unique captures).mergeSort positionLe).map Capture.finding).Pairwise fun f g =>
      ∀ c ∈ captures, ∀ d ∈ captures, c.finding = f → d.finding = g → c.spot ≤ d.spot := by
    refine List.pairwise_map.mpr ((pairwise_mergeSort_of_iff positionLe_iff _).imp_of_mem ?_)
    intro a b ha hb hplace c hc d hd hca hdb
    have ha' := mem_of_mem_unique (List.mem_mergeSort.mp ha)
    have hb' := mem_of_mem_unique (List.mem_mergeSort.mp hb)
    have hstart : a.start ≤ b.start := by
      simp only [place, Prod.Lex.toLex_le_toLex] at hplace
      omega
    rw [h.spot_eq hc ha' hca, h.spot_eq hd hb' hdb]
    exact (h.located a ha').spot_le (h.located b hb') hstart
  -- dropping repeated findings leaves the others in their order
  rw [findings, distinct_eq_firstCome]
  exact hsorted.sublist (firstCome_sublist _)

/-- There are as many findings as there are different things to show. -/
theorem TakenFrom.length_findings (h : TakenFrom source captures) :
    (findings captures).length = (captures.map shown).toFinset.card := by
  -- the findings are the image of what is shown, under a map that is injective there
  have himage : (findings captures).toFinset =
      (captures.map shown).toFinset.image fun s => (ofShown s).finding := by
    ext f
    simp [h.mem_findings_iff, finding_ofShown]
  have hinj : Set.InjOn (fun s => (ofShown s).finding) ((captures.map shown).toFinset : Set _) := by
    intro s hs t ht heq
    obtain ⟨c, hc, rfl⟩ := List.mem_map.mp (List.mem_toFinset.mp (Finset.mem_coe.mp hs))
    obtain ⟨d, hd, rfl⟩ := List.mem_map.mp (List.mem_toFinset.mp (Finset.mem_coe.mp ht))
    exact (h.finding_eq_iff hc hd).mp heq
  have hnodup : (findings captures).Nodup := nodup_distinct _
  rw [← List.toFinset_card_of_nodup hnodup, himage, Finset.card_image_of_injOn hinj]

/-- **`findings_of_takenFrom`** — the findings of captures taken from a source, whatever the cap:
those of all captures and no others, each once, by line and column of the captures they are of, and
as many as there are different names, lines, columns and snippets.  For a finding tells these four
of any capture with a name without blanks, and line and column tell the byte of the source: what
stands twice in a source has two findings. -/
theorem findings_of_takenFrom (h : TakenFrom source captures) (limit : Int) :
    let listed := (report captures limit).findings
    (∀ f, f ∈ listed ↔ ∃ c ∈ captures, c.finding = f) ∧
      listed.Nodup ∧
      listed.Pairwise (fun f g => ∀ c ∈ captures, ∀ d ∈ captures,
        c.finding = f → d.finding = g → c.spot ≤ d.spot) ∧
      listed.length = (captures.map shown).toFinset.card ∧
      (∀ c d : Capture, c.Unspaced → d.Unspaced → (c.finding = d.finding ↔ c.shown = d.shown)) ∧
      ∀ c ∈ captures, ∀ d ∈ captures, c.start ≤ source.length → d.start ≤ source.length →
        c.start ≠ d.start → c.finding ≠ d.finding := by
  intro listed
  refine ⟨?complete, ?once, ?ordered, ?count, ?injective, ?apart⟩
  case complete => exact fun f => h.mem_findings_iff
  case once => exact nodup_distinct _
  case ordered => exact h.pairwise_findings
  case count => exact h.length_findings
  case injective => exact fun c d hc hd => Capture.finding_eq_iff hc hd
  case apart =>
    intro c hc d hd hcend hdend hne heq
    exact hne ((h.located c hc).start_eq (h.located d hd) hcend hdend (h.spot_eq hc hd heq))

/-- Two lines of shell, each with the comment that the other would have in a finding. -/
def twoLines : Text.Octets := Text.encode "rm a # at 2:1: b\nrm b # at 1:1: a"

/-- The deletions of `twoLines`, the second one found twice. -/
def twoDeletions : List Capture :=
  [⟨"danger.fsdelete", 17, 33, 2, 1, "rm b # at 1:1: a"⟩,
    ⟨"danger.fsdelete", 0, 16, 1, 1, "rm a # at 2:1: b"⟩,
    ⟨"danger.fsdelete", 17, 33, 2, 1, "rm b # at 1:1: a"⟩]

/-- Two of the three captures have a finding of their own. -/
theorem length_findings_twoDeletions :
    TakenFrom twoLines twoDeletions ∧ (report twoDeletions).findings.length = 2 := by
  have htaken : TakenFrom twoLines twoDeletions :=
    { located := by decide, unspaced := by decide, snippet := by decide }
  refine ⟨htaken, ?_⟩
  rw [(findings_of_takenFrom htaken 100).2.2.2.1]
  decide

end Score

end HookAudit
