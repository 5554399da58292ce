import AeroXProtect.Storage.Tables
import AeroXProtect.Lib.Clock
import AeroXProtect.Lib.Interval

/-!
# The timeline of a camera

`buildTimeline` answers the scrub bar: the segments of a window, merged into ranges across holes
that are short for the segments around them, and the gaps between the ranges. What the answer means
is `Timeline.Exact`, and `timeline_exact` says that every answer is so, for every window and every
table. Instants are microseconds, and the duration column of a segment, which nothing else reads, is
the argument `durationMs`. The answer goes out in milliseconds, which is what the tables hold.
-/

open Lib Lib.Interval

namespace AeroXProtect

/-- A playable segment of the main stream of a camera. -/
structure Segment.Recorded (cameraId : Nat) (g : Segment) : Prop where
  camera : g.cameraId = cameraId
  sound : g.corrupt = false
  main : g.streamRole = .main

/-- The segment as an interval. -/
def Segment.span (g : Segment) : Int × Int := (g.startTs, g.endTs)

/-- The segments of a range that playback sees. -/
theorem Segments.mem_getRange_main {t : Segments} {cameraId : Nat} {start stop : Int}
    {g : Segment} :
    g ∈ t.getRange cameraId start stop (some .main) ↔
      g ∈ t ∧ g.Recorded cameraId ∧ g.startTs < stop ∧ start < g.endTs := by
  simp only [getRange, mem_orderBy, List.mem_filter, Bool.and_eq_true, decide_eq_true_eq,
    Table.mem_rows, Bool.not_eq_true']
  constructor
  · rintro ⟨hmem, ⟨⟨⟨hcam, hsound⟩, hlt⟩, hgt⟩, hmain⟩
    exact ⟨hmem, ⟨hcam, hsound, hmain⟩, hlt, hgt⟩
  · rintro ⟨hmem, ⟨hcam, hsound, hmain⟩, hlt, hgt⟩
    exact ⟨hmem, ⟨⟨⟨hcam, hsound⟩, hlt⟩, hgt⟩, hmain⟩

theorem Segments.nodup_getRange (t : Segments) (cameraId : Nat) (start stop : Int)
    (role : Option StreamRole) :
    ((t.getRange cameraId start stop role).map fun g => g.id).Nodup :=
  t.nodup_map_orderBy _ _

theorem Segments.pairwise_getRange (t : Segments) (cameraId : Nat) (start stop : Int)
    (role : Option StreamRole) :
    (t.getRange cameraId start stop role).Pairwise fun g g' => g.startTs ≤ g'.startTs :=
  pairwise_orderBy _ _

/-- Source: `GAP_MERGE_FACTOR` (`server/service/playback_planner.py:7`). -/
def gapMergeFactor : Int := 2

/-- How long a hole may be, in microseconds, before a segment of this duration. -/
def segGapLimit (durationMs : Int) : Int :=
  gapMergeFactor * max (seconds 1) ((if durationMs = 0 then 10000 else durationMs) * 1000)

/-- What `build_timeline` answers. -/
structure Timeline where
  ranges : List (Int × Int)
  gaps : List (Int × Int)
  deriving DecidableEq, Repr

/-- Source: `build_timeline` (`server/service/playback_planner.py:10`). -/
def buildTimeline (durationMs : Segment → Int) (t : Segments) (cameraId : Nat) (start stop : Int) :
    Timeline :=
  let segments := t.getRange cameraId start stop (some .main)
  let ranges := merge (fun e g => decide (g.startTs - e ≤ segGapLimit (durationMs g)))
    Segment.startTs Segment.endTs segments
  ⟨ranges, gaps start stop ranges⟩

/-- What a timeline says about the recorded segments of a camera in a window. -/
structure Timeline.Exact (t : Segments) (cameraId : Nat) (start stop : Int) (tl : Timeline) :
    Prop where
  ordered : tl.ranges.Pairwise fun r r' => r.1 ≤ r'.1
  disjoint : tl.ranges.Pairwise fun r r' => r.2 < r'.1
  inside : ∀ g ∈ t, g.Recorded cameraId → g.startTs < stop → start < g.endTs →
    g.startTs ≤ g.endTs → ∃! r, r ∈ tl.ranges ∧ r.1 ≤ g.startTs ∧ g.endTs ≤ r.2
  boundaries : ∀ r ∈ tl.ranges, (∃ g ∈ t, g.Recorded cameraId ∧ r.1 = g.startTs) ∧
    ∃ g ∈ t, g.Recorded cameraId ∧ r.2 = g.endTs
  apart : ∀ x ∈ tl.gaps, ∀ r ∈ tl.ranges, ∀ ts, Covers x ts → ¬ Covers r ts
  covers : ∀ ts, Covered tl.gaps ts ∨ (Covered tl.ranges ts ∧ start ≤ ts ∧ ts < stop) ↔
    start ≤ ts ∧ ts < stop
  silent : ∀ x ∈ tl.gaps, ∀ g ∈ t, g.Recorded cameraId → ∀ ts, Covers x ts → ¬ Covers g.span ts

section
variable (durationMs : Segment → Int) (t : Segments) (cameraId : Nat) (start stop : Int)

theorem segGapLimit_pos (d : Int) : 0 < segGapLimit d := by
  unfold segGapLimit gapMergeFactor seconds
  omega

theorem buildTimeline_separated :
    (buildTimeline durationMs t cameraId start stop).ranges.Pairwise fun r r' => r.2 < r'.1 := by
  refine pairwise_merge (fun e g h => ?_) (t.pairwise_getRange ..)
  have hpos := segGapLimit_pos (durationMs g)
  simp only [decide_eq_false_iff_not] at h
  omega

theorem buildTimeline_sorted :
    (buildTimeline durationMs t cameraId start stop).ranges.Pairwise fun r r' => r.1 ≤ r'.1 :=
  sorted_merge (t.pairwise_getRange ..)

/-- The ends of a range are ends of segments of the window. -/
theorem buildTimeline_ends {r : Int × Int}
    (h : r ∈ (buildTimeline durationMs t cameraId start stop).ranges) :
    (∃ g ∈ t.getRange cameraId start stop (some .main), r.1 = g.startTs) ∧
      ∃ g ∈ t.getRange cameraId start stop (some .main), r.2 = g.endTs :=
  ends_of_mem_merge h

/-- A segment of the window lies in a range. -/
theorem buildTimeline_inside {g : Segment}
    (h : g ∈ t.getRange cameraId start stop (some .main)) :
    ∃ r ∈ (buildTimeline durationMs t cameraId start stop).ranges,
      r.1 ≤ g.startTs ∧ g.endTs ≤ r.2 :=
  exists_merge (t.pairwise_getRange ..) h

/-- Every range begins before the end of the window. -/
theorem buildTimeline_before {r : Int × Int}
    (h : r ∈ (buildTimeline durationMs t cameraId start stop).ranges) : r.1 ≤ stop := by
  obtain ⟨⟨g, hg, heq⟩, -⟩ := buildTimeline_ends durationMs t cameraId start stop h
  rw [heq]
  exact (Segments.mem_getRange_main.1 hg).2.2.1.le

/-- The instants in the gaps are those of the window in no range. -/
theorem buildTimeline_gaps (ts : Int) :
    Covered (buildTimeline durationMs t cameraId start stop).gaps ts ↔ start ≤ ts ∧ ts < stop ∧
      ¬ Covered (buildTimeline durationMs t cameraId start stop).ranges ts :=
  covered_gaps_iff (buildTimeline_sorted ..) fun _ hr => buildTimeline_before _ _ _ _ _ hr

/-- Every timeline is exact. -/
theorem timeline_exact :
    (buildTimeline durationMs t cameraId start stop).Exact t cameraId start stop where
  ordered := buildTimeline_sorted ..
  disjoint := buildTimeline_separated ..
  inside := by
    intro g hg hrec hlt hgt hproper
    obtain ⟨r, hr, h₁, h₂⟩ := buildTimeline_inside durationMs t cameraId start stop
      (Segments.mem_getRange_main.2 ⟨hg, hrec, hlt, hgt⟩)
    refine ⟨r, ⟨hr, h₁, h₂⟩, ?_⟩
    rintro r' ⟨hr', h₁', h₂'⟩
    by_contra hne
    have hapart := apart_of_ne (buildTimeline_separated durationMs t cameraId start stop) hr' hr hne
    omega
  boundaries := by
    intro r hr
    obtain ⟨⟨g, hg, heq⟩, g', hg', heq'⟩ := buildTimeline_ends durationMs t cameraId start stop hr
    obtain ⟨hmem, hrec, -⟩ := Segments.mem_getRange_main.1 hg
    obtain ⟨hmem', hrec', -⟩ := Segments.mem_getRange_main.1 hg'
    exact ⟨⟨g, hmem, hrec, heq⟩, g', hmem', hrec', heq'⟩
  apart := by
    intro x hx r hr ts hin hcov
    exact ((buildTimeline_gaps durationMs t cameraId start stop ts).1 ⟨x, hx, hin⟩).2.2
      ⟨r, hr, hcov⟩
  covers := by
    intro ts
    rw [buildTimeline_gaps]
    tauto
  silent := by
    intro x hx g hg hrec ts hin hcov
    obtain ⟨h₁, h₂, hno⟩ := (buildTimeline_gaps durationMs t cameraId start stop ts).1 ⟨x, hx, hin⟩
    obtain ⟨r, hr, hr₁, hr₂⟩ := buildTimeline_inside durationMs t cameraId start stop
      (Segments.mem_getRange_main.2 ⟨hg, hrec, hcov.1.trans_lt h₂, h₁.trans_lt hcov.2⟩)
    exact hno ⟨r, hr, hr₁.trans hcov.1, hcov.2.trans_le hr₂⟩

end

end AeroXProtect
