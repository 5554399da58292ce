import AeroXProtect.Playback.Timeline
import Mathlib.Data.Prod.Lex
import Mathlib.Data.Rat.Cast.Order
import Mathlib.Tactic.Linarith

/-!
# Gaps in the recording

`computeGaps` lists what the segments of a camera leave open between two instants, for the import
from the camera's own card. It clips the segments to the window, sorts and merges them and sweeps
over the result; `buildTimeline` sweeps over ranges that it has merged by another rule.
`gaps_exact` compares both with the same definition: the longest intervals of the window without a
recorded instant. A playable segment ends after it starts (`Segments.Proper`): the indexer marks one
without a duration as corrupt, and the card's clips are checked when they are read.
-/

open Lib Lib.Interval

namespace AeroXProtect

/-- Source: `MIN_GAP_SECONDS` (`server/service/edge_recording.py:23`). -/
def minGapSeconds : Rat := 2

/-- Source: `_merge` (`server/service/edge_recording.py:26`). -/
def mergeIntervals (intervals : List (Int × Int)) : List (Int × Int) :=
  merge (fun e i => decide (i.1 ≤ e)) Prod.fst Prod.snd (orderBy toLex intervals)

/-- Source: `compute_gaps` (`server/service/edge_recording.py:37`). -/
def computeGaps (t : Segments) (cameraId : Nat) (start stop : Int) (minGapS : Rat) :
    List (Int × Int) :=
  if stop ≤ start then []
  else
    let segs := t.getRange cameraId start stop (some .main)
    let covered := mergeIntervals (segs.map fun g => (max g.startTs start, min g.endTs stop))
    (gaps start stop covered).filter fun x => decide (minGapS ≤ totalSeconds (x.2 - x.1))

/-- Every playable segment ends after it starts. -/
def Segments.Proper (t : Segments) : Prop := ∀ g ∈ t, g.corrupt = false → g.startTs < g.endTs

/-- An instant of a window that a segment of the camera covers. -/
def Segments.RecordedAt (t : Segments) (cameraId : Nat) (start stop : Int) (ts : Int) : Prop :=
  ∃ g ∈ t.getRange cameraId start stop (some .main), Covers g.span ts

section
variable {intervals : List (Int × Int)} {t : Segments} {cameraId : Nat} {start stop : Int}

theorem sorted_toLex (l : List (Int × Int)) : (orderBy toLex l).Pairwise fun i j => i.1 ≤ j.1 := by
  refine (pairwise_orderBy _ l).imp fun h => ?_
  rcases Prod.Lex.toLex_le_toLex.1 h with h | h
  · exact h.le
  · exact h.1.le

theorem sorted_mergeIntervals (l : List (Int × Int)) :
    (mergeIntervals l).Pairwise fun i j => i.1 ≤ j.1 := sorted_merge (sorted_toLex l)

/-- Merged intervals cover what the intervals cover. -/
theorem covered_mergeIntervals {ts : Int} :
    Covered (mergeIntervals intervals) ts ↔ Covered intervals ts := by
  rw [mergeIntervals, covered_merge_iff (fun _ _ h => of_decide_eq_true h) (sorted_toLex _)]
  simp only [mem_orderBy, Prod.mk.eta]
  rfl

/-- Within the window, clipping changes no instant. -/
theorem covered_clipped {ts : Int} (h₁ : start ≤ ts) (h₂ : ts < stop) :
    Covered (mergeIntervals ((t.getRange cameraId start stop (some .main)).map fun g =>
      (max g.startTs start, min g.endTs stop))) ts ↔ t.RecordedAt cameraId start stop ts := by
  rw [covered_mergeIntervals]
  constructor
  · rintro ⟨i, hi, hcov₁, hcov₂⟩
    obtain ⟨g, hg, rfl⟩ := List.mem_map.1 hi
    exact ⟨g, hg, (le_max_left _ _).trans hcov₁, hcov₂.trans_le (min_le_left _ _)⟩
  · rintro ⟨g, hg, hcov₁, hcov₂⟩
    exact ⟨_, List.mem_map.2 ⟨g, hg, rfl⟩, max_le hcov₁ h₁, lt_min hcov₂ h₂⟩

/-- The merged intervals of a window are not empty and begin within it. -/
theorem mergeIntervals_bounds (hproper : t.Proper) (hlt : start < stop) {r : Int × Int}
    (h : r ∈ mergeIntervals ((t.getRange cameraId start stop (some .main)).map fun g =>
      (max g.startTs start, min g.endTs stop))) : r.1 < r.2 ∧ r.1 ≤ stop := by
  have hitem : ∀ i ∈ orderBy toLex ((t.getRange cameraId start stop (some .main)).map fun g =>
      (max g.startTs start, min g.endTs stop)), i.1 < i.2 ∧ i.1 ≤ stop := by
    intro i hi
    obtain ⟨g, hg, rfl⟩ := List.mem_map.1 (mem_orderBy.1 hi)
    obtain ⟨hmem, hrec, hstart, hend⟩ := Segments.mem_getRange_main.1 hg
    have hpos := hproper g hmem hrec.sound
    dsimp only
    omega
  refine ⟨proper_merge (fun i hi => (hitem i hi).1) h, ?_⟩
  obtain ⟨⟨i, hi, heq⟩, -⟩ := ends_of_mem_merge h
  exact heq ▸ (hitem i hi).2

/-- The gaps are the maximal intervals without a recorded instant that are long enough. -/
theorem mem_computeGaps_iff (hproper : t.Proper) {minGapS : Rat} {x : Int × Int} :
    x ∈ computeGaps t cameraId start stop minGapS ↔
      MaximalFree (t.RecordedAt cameraId start stop) start stop x.1 x.2 ∧
        minGapS ≤ totalSeconds (x.2 - x.1) := by
  unfold computeGaps
  split
  · next hempty =>
    refine iff_of_false nofun fun h => ?_
    have hlt := h.1.lt
    have hlo := h.1.lo_le
    have hhi := h.1.le_hi
    omega
  · next hlt =>
    rw [List.mem_filter, decide_eq_true_iff, mem_gaps_iff (sorted_mergeIntervals _)
      (fun r hr => (mergeIntervals_bounds hproper (not_le.1 hlt) hr).1)
      (fun r hr => (mergeIntervals_bounds hproper (not_le.1 hlt) hr).2),
      MaximalFree.congr fun ts => covered_clipped]

theorem pairwise_computeGaps (hproper : t.Proper) (minGapS : Rat) :
    (computeGaps t cameraId start stop minGapS).Pairwise fun x y => x.2 < y.1 := by
  unfold computeGaps
  split
  · exact .nil
  · next hlt =>
    exact (pairwise_gaps (fun r hr => (mergeIntervals_bounds hproper (not_le.1 hlt) hr).1)
      fun r hr => (mergeIntervals_bounds hproper (not_le.1 hlt) hr).2).filter _

/-- A long enough interval of the window without a recorded instant lies in a gap. -/
theorem exists_gap_of_unrecorded (hproper : t.Proper) {minGapS : Rat} {a b : Int} (hlt : a < b)
    (hlo : start ≤ a) (hhi : b ≤ stop) (hfree : Free (t.RecordedAt cameraId start stop) a b)
    (hlong : minGapS ≤ totalSeconds (b - a)) :
    ∃ x ∈ computeGaps t cameraId start stop minGapS, x.1 ≤ a ∧ b ≤ x.2 := by
  have hwindow : start < stop := by omega
  obtain ⟨x, hx, h₁, h₂⟩ := exists_gap_of_free (sorted_mergeIntervals _)
    (fun r hr => (mergeIntervals_bounds hproper hwindow hr).1)
    (fun r hr => (mergeIntervals_bounds hproper hwindow hr).2) hlt hlo hhi fun ts ht ht' hcov =>
      hfree ts ht ht' ((covered_clipped (hlo.trans ht) (ht'.trans_le hhi)).1 hcov)
  refine ⟨x, ?_, h₁, h₂⟩
  rw [computeGaps, if_neg (not_le.2 hwindow)]
  refine List.mem_filter.2 ⟨hx, decide_eq_true (hlong.trans ?_)⟩
  have hle : ((b - a : Int) : Rat) ≤ ((x.2 - x.1 : Int) : Rat) := by exact_mod_cast by omega
  rw [totalSeconds, totalSeconds]
  linarith

/-- A gap of the timeline is a maximal interval without a recorded instant. -/
theorem maximalFree_of_timeline (hproper : t.Proper) {durationMs : Segment → Int} {x : Int × Int}
    (h : x ∈ (buildTimeline durationMs t cameraId start stop).gaps) :
    MaximalFree (t.RecordedAt cameraId start stop) start stop x.1 x.2 := by
  obtain ⟨hlo, hlt, hhi⟩ := bounds_of_mem_gaps (fun _ => buildTimeline_before _ _ _ _ _) h
  obtain ⟨hleft, hright⟩ := ends_of_mem_gaps h
  have hexact := timeline_exact durationMs t cameraId start stop
  refine maximalFree_of_ends hlt hlo hhi ?_ ?_ ?_
  · rintro ts h₁ h₂ ⟨g, hg, hcov⟩
    obtain ⟨hmem, hrec, -⟩ := Segments.mem_getRange_main.1 hg
    exact hexact.silent x h g hmem hrec ts ⟨h₁, h₂⟩ hcov
  · refine hleft.imp_right ?_
    rintro ⟨r, hr, heq⟩
    obtain ⟨-, g, hg, hend⟩ := buildTimeline_ends durationMs t cameraId start stop hr
    obtain ⟨hmem, hrec, -⟩ := Segments.mem_getRange_main.1 hg
    have hpos := hproper g hmem hrec.sound
    rw [heq, hend]
    exact ⟨g.startTs, hpos, fun ts h₁ h₂ => ⟨g, hg, h₁, h₂⟩⟩
  · refine hright.imp_right ?_
    rintro ⟨r, hr, heq⟩
    obtain ⟨⟨g, hg, hstart⟩, -⟩ := buildTimeline_ends durationMs t cameraId start stop hr
    obtain ⟨hmem, hrec, -⟩ := Segments.mem_getRange_main.1 hg
    rw [heq, hstart]
    exact ⟨g, hg, le_refl _, hproper g hmem hrec.sound⟩

end

/-- The gaps, and the gaps of the timeline among them. -/
theorem gaps_exact (t : Segments) (hproper : t.Proper) (cameraId : Nat) (start stop : Int) :
    (∀ minGapS, (∀ a b, (a, b) ∈ computeGaps t cameraId start stop minGapS ↔
        MaximalFree (t.RecordedAt cameraId start stop) start stop a b ∧
          minGapS ≤ totalSeconds (b - a)) ∧
      (computeGaps t cameraId start stop minGapS).Pairwise fun x y => x.2 < y.1) ∧
    ∀ durationMs, ∀ x ∈ (buildTimeline durationMs t cameraId start stop).gaps,
      2 ≤ totalSeconds (x.2 - x.1) → x ∈ computeGaps t cameraId start stop minGapSeconds :=
  ⟨fun minGapS => ⟨fun _ _ => mem_computeGaps_iff hproper, pairwise_computeGaps hproper minGapS⟩,
    fun _ _ hx hlong => (mem_computeGaps_iff hproper).2 ⟨maximalFree_of_timeline hproper hx, hlong⟩⟩

namespace GapsFixture

/-- Two nested segments, one that touches them, and one after a hole. -/
def segments : Segments where
  rows :=
    [⟨1, 1, 1, "1/a.ts", 0, 40000000, 8, .main, false⟩,
      ⟨2, 1, 1, "1/b.ts", 10000000, 20000000, 8, .main, false⟩,
      ⟨3, 1, 1, "1/c.ts", 40000000, 50000000, 8, .main, false⟩,
      ⟨4, 1, 1, "1/d.ts", 90000000, 120000000, 8, .main, false⟩]
  nodup := by decide

theorem proper_segments : segments.Proper := by
  have h : ∀ g ∈ segments, g.corrupt = false → g.startTs < g.endTs := by decide
  exact h

end GapsFixture

open GapsFixture in
/-- The hole of the timeline is a gap. -/
theorem gaps_exact_fixture :
    (50000000, 90000000) ∈ computeGaps segments 1 0 100000000 minGapSeconds :=
  (gaps_exact segments proper_segments 1 0 100000000).2 (fun _ => 10000) _
    (by decide +kernel) (by decide +kernel)

end AeroXProtect
