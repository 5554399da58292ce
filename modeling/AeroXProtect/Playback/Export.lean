import AeroXProtect.Playback.Timeline
import Mathlib.Algebra.Order.Field.Rat
import Mathlib.Data.Rat.Cast.Order
import Mathlib.Data.Set.Basic
import Mathlib.Tactic.Linarith

/-!
# Trim points of an export

An export concatenates the segments of a window whose files are there and cuts the result at two
trim points. The concatenation has no holes, so the loop over the segments maps the window to media
time: `exportTrim` adds up the durations and looks at where the window begins in the first segment
and where it ends in the last one. `played` is what the concatenation shows between two points of
media time, and `export_trim_exact` says that between the trim points it shows the footage of the
window and nothing else. Times are exact.
-/

open Lib

namespace AeroXProtect

/-- The columns of an export job that decide what is cut. -/
structure ExportJob where
  cameraId : Nat
  startTs : Int
  endTs : Int
  deriving DecidableEq, Repr

/-- `max(0.0, (seg.end_ts - seg.start_ts).total_seconds())` -/
def Segment.duration (g : Segment) : Rat := max 0 (totalSeconds (g.endTs - g.startTs))

/-- The variables of the loop over the included segments. -/
structure Trim where
  acc : Rat
  startTrim : Option Rat
  endTrim : Rat
  deriving DecidableEq, Repr

namespace Trim

/-- One segment of the loop. -/
def step (job : ExportJob) (x : Trim) (g : Segment) : Trim where
  acc := x.acc + g.duration
  startTrim :=
    if x.startTrim = none ∧ job.startTs < g.endTs then
      some (x.acc + max 0 (totalSeconds (job.startTs - g.startTs)))
    else x.startTrim
  endTrim :=
    if g.startTs < job.endTs then
      x.acc + min g.duration (totalSeconds (job.endTs - g.startTs))
    else x.endTrim

/-- The loop. -/
def run (job : ExportJob) (included : List Segment) : Trim := included.foldl (step job) ⟨0, none, 0⟩

end Trim

/-- What the export is cut from, and where. -/
structure ExportPlan where
  included : List Segment
  startTrim : Rat
  endTrim : Rat
  totalSeconds : Rat
  deriving DecidableEq, Repr

/-- The part of an export before the encoder is called. `disk` is the disk that the export is
written to and `onDisk` says whether the disk of a segment is known and its file is there and not
empty. Source: `run_export_job` (`server/task/list/transcode.py:49`). -/
def exportPlan (t : Segments) (disk : Option Nat) (onDisk : Segment → Bool) (job : ExportJob) :
    Except String ExportPlan :=
  let segments := t.getRange job.cameraId job.startTs job.endTs (some .main)
  if segments.isEmpty then .error "no_segments"
  else if disk.isNone then .error "no_output_disk"
  else
    let included := segments.filter onDisk
    if included.isEmpty then .error "no_segments_on_disk"
    else
      let trim := Trim.run job included
      let startTrim := trim.startTrim.getD 0
      .ok ⟨included, startTrim, trim.endTrim, max 1 (trim.endTrim - startTrim)⟩

/-! ## Media time -/

/-- The length of the concatenation of segments. -/
def mediaLength (included : List Segment) : Rat := (included.map Segment.duration).sum

/-- Where an instant of a segment is in the concatenation, after the segments before it. -/
def mediaTime (before : List Segment) (g : Segment) (ts : Rat) : Rat :=
  mediaLength before + (ts - g.startTs) / 1000000

/-- The instant is in the segment. -/
def Segment.Shows (g : Segment) (ts : Rat) : Prop := (g.startTs : Rat) ≤ ts ∧ ts ≤ g.endTs

/-- The footage between two points of the concatenation: segments with an instant of each. -/
def played (included : List Segment) (a b : Rat) : Set (Segment × Rat) :=
  {x | ∃ before after, included = before ++ x.1 :: after ∧ x.1.Shows x.2 ∧
    a ≤ mediaTime before x.1 x.2 ∧ mediaTime before x.1 x.2 ≤ b}

/-- The footage of segments between two instants. -/
def footageOf (included : List Segment) (start stop : Int) : Set (Segment × Rat) :=
  {x | x.1 ∈ included ∧ x.1.Shows x.2 ∧ (start : Rat) ≤ x.2 ∧ x.2 ≤ stop}

section
variable {job : ExportJob} {g : Segment} {included before after : List Segment} {x : Trim}

theorem Segment.duration_nonneg (g : Segment) : 0 ≤ g.duration := le_max_left _ _

theorem Segment.le_duration (g : Segment) :
    ((g.endTs : Rat) - g.startTs) / 1000000 ≤ g.duration := by
  have h : totalSeconds (g.endTs - g.startTs) ≤ g.duration := le_max_right _ _
  simpa [totalSeconds] using h

theorem mediaLength_append (l l' : List Segment) :
    mediaLength (l ++ l') = mediaLength l + mediaLength l' := by
  simp [mediaLength]

theorem mediaLength_cons (g : Segment) (l : List Segment) :
    mediaLength (g :: l) = g.duration + mediaLength l := by
  simp [mediaLength]

theorem mediaLength_nonneg (l : List Segment) : 0 ≤ mediaLength l := by
  refine List.sum_nonneg fun d hd => ?_
  obtain ⟨g, -, rfl⟩ := List.mem_map.1 hd
  exact g.duration_nonneg

/-! ## The loop -/

theorem Trim.acc_run (job : ExportJob) (included : List Segment) :
    (run job included).acc = mediaLength included := by
  have key : ∀ (l : List Segment) (x : Trim),
      (l.foldl (step job) x).acc = x.acc + mediaLength l := by
    intro l
    induction l with
    | nil => simp [mediaLength]
    | cons g l ih =>
      intro x
      rw [List.foldl_cons, ih, mediaLength_cons]
      exact add_assoc _ _ _
  rw [run, key, zero_add]

/-- The start point is where the window begins in the first segment. -/
theorem Trim.startTrim_run (h : job.startTs < g.endTs) :
    (run job (g :: after)).startTrim = some (max 0 (totalSeconds (job.startTs - g.startTs))) := by
  have key : ∀ (l : List Segment) (x : Trim) (q : Rat), x.startTrim = some q →
      (l.foldl (step job) x).startTrim = some q := by
    intro l
    induction l with
    | nil => exact fun _ _ hx => hx
    | cons g l ih =>
      intro x q hx
      refine ih _ _ ?_
      simp [step, hx]
  rw [run, List.foldl_cons]
  refine key _ _ _ ?_
  simp [step, h]

/-- The end point is where the window ends in the last segment. -/
theorem Trim.endTrim_run (h : g.startTs < job.endTs) :
    (run job (before ++ [g])).endTrim =
      mediaLength before + min g.duration (totalSeconds (job.endTs - g.startTs)) := by
  have hacc := acc_run job before
  rw [run] at hacc
  rw [run, List.foldl_append, List.foldl_cons, List.foldl_nil, step, if_pos h, hacc]

end

/-! ## The trim points -/

/-- Segments of a window that follow one another. -/
structure InWindow (job : ExportJob) (included : List Segment) : Prop where
  apart : included.Pairwise fun g g' => g.endTs ≤ g'.startTs
  starts : ∀ g ∈ included, g.startTs < job.endTs
  ends : ∀ g ∈ included, job.startTs < g.endTs

section
variable {job : ExportJob} {g : Segment} {included before after : List Segment} {ts : Rat}

/-- The start point is within the first segment. -/
theorem startTrim_le (h : job.startTs < g.endTs) :
    max 0 (totalSeconds (job.startTs - g.startTs)) ≤ g.duration := by
  refine max_le g.duration_nonneg (le_trans ?_ g.le_duration)
  have hlt : (job.startTs : Rat) < g.endTs := by exact_mod_cast h
  rw [totalSeconds]
  push_cast
  linarith

theorem endTrim_nonneg (h : g.startTs < job.endTs) :
    0 ≤ min g.duration (totalSeconds (job.endTs - g.startTs)) := by
  have hlt : (g.startTs : Rat) < job.endTs := by exact_mod_cast h
  refine le_min g.duration_nonneg ?_
  rw [totalSeconds]
  push_cast
  linarith

/-- Playback has reached the start point when the window has begun. -/
theorem startTrim_le_mediaTime (h : InWindow job (before ++ g :: after)) (hshows : g.Shows ts) :
    ((Trim.run job (before ++ g :: after)).startTrim.getD 0 ≤ mediaTime before g ts) ↔
      (job.startTs : Rat) ≤ ts := by
  have hstart := hshows.1
  cases before with
  | nil =>
    rw [List.nil_append, Trim.startTrim_run (h.ends g (by simp)), Option.getD_some, mediaTime]
    simp only [totalSeconds, mediaLength, List.map_nil, List.sum_nil, zero_add, max_le_iff]
    push_cast
    constructor
    · intro hle
      linarith [hle.2]
    · intro hle
      constructor <;> linarith
  | cons f before =>
    have hf := h.ends f (by simp)
    have hfg : f.endTs ≤ g.startTs := (List.pairwise_cons.1 h.apart).1 g (by simp)
    have hbegun : (job.startTs : Rat) < g.startTs := by exact_mod_cast hf.trans_le hfg
    rw [List.cons_append, Trim.startTrim_run hf, Option.getD_some, mediaTime, mediaLength_cons]
    have hle := startTrim_le hf
    have hrest := mediaLength_nonneg before
    exact iff_of_true (by linarith) (by linarith)

/-- Playback has not passed the end point when the window has not ended. -/
theorem mediaTime_le_endTrim (h : InWindow job (before ++ g :: after)) (hshows : g.Shows ts) :
    (mediaTime before g ts ≤ (Trim.run job (before ++ g :: after)).endTrim) ↔ ts ≤ job.endTs := by
  have hend := hshows.2
  have hdur := g.le_duration
  rcases List.eq_nil_or_concat after with rfl | ⟨mid, last, rfl⟩
  · rw [Trim.endTrim_run (h.starts g (by simp)), mediaTime, add_le_add_iff_left, le_min_iff,
      totalSeconds]
    push_cast
    constructor
    · intro hle
      linarith [hle.2]
    · intro hle
      constructor <;> linarith
  · rw [List.concat_eq_append, ← List.cons_append, ← List.append_assoc] at h ⊢
    have hlast := h.starts last (by simp)
    have hgl : g.endTs ≤ last.startTs :=
      (List.pairwise_append.1 h.apart).2.2 g (by simp) last (by simp)
    have hrunning : (g.endTs : Rat) < job.endTs := by exact_mod_cast hgl.trans_lt hlast
    rw [Trim.endTrim_run hlast, mediaTime, mediaLength_append, mediaLength_cons]
    have hmin := endTrim_nonneg hlast
    have hmid := mediaLength_nonneg mid
    exact iff_of_true (by linarith) (by linarith)

theorem startTrim_nonneg (h : InWindow job included) :
    0 ≤ (Trim.run job included).startTrim.getD 0 := by
  cases included with
  | nil => exact le_refl _
  | cons g l =>
    rw [Trim.startTrim_run (h.ends g (by simp)), Option.getD_some]
    exact le_max_left _ _

theorem startTrim_le_endTrim (hwindow : job.startTs < job.endTs) (h : InWindow job included) :
    (Trim.run job included).startTrim.getD 0 ≤ (Trim.run job included).endTrim := by
  rcases List.eq_nil_or_concat included with rfl | ⟨before, last, rfl⟩
  · exact le_refl _
  · rw [List.concat_eq_append] at h ⊢
    have hstarts := h.starts last (by simp)
    rw [Trim.endTrim_run hstarts]
    cases before with
    | nil =>
      have hends := h.ends last (by simp)
      have hlt : (job.startTs : Rat) < job.endTs := by exact_mod_cast hwindow
      have hmin := endTrim_nonneg hstarts
      rw [List.nil_append, Trim.startTrim_run hends, Option.getD_some]
      simp only [mediaLength, List.map_nil, List.sum_nil, zero_add]
      refine le_min (startTrim_le hends) (max_le (hmin.trans (min_le_right _ _)) ?_)
      simp only [totalSeconds]
      push_cast
      linarith
    | cons f before =>
      have hf := h.ends f (by simp)
      rw [List.cons_append, Trim.startTrim_run hf, Option.getD_some, mediaLength_cons]
      have hle := startTrim_le hf
      have hmin := endTrim_nonneg hstarts
      have hrest := mediaLength_nonneg before
      linarith

theorem endTrim_le (h : InWindow job included) :
    (Trim.run job included).endTrim ≤ mediaLength included := by
  rcases List.eq_nil_or_concat included with rfl | ⟨before, last, rfl⟩
  · exact le_refl _
  · rw [List.concat_eq_append] at h ⊢
    rw [Trim.endTrim_run (h.starts last (by simp)), mediaLength_append, mediaLength_cons]
    have hmin := min_le_left last.duration (totalSeconds (job.endTs - last.startTs))
    have hnil : mediaLength [] = 0 := rfl
    linarith

/-- Between the trim points, the concatenation shows the footage of the window. -/
theorem played_eq_footageOf (h : InWindow job included) :
    played included ((Trim.run job included).startTrim.getD 0) (Trim.run job included).endTrim =
      footageOf included job.startTs job.endTs := by
  ext ⟨g, ts⟩
  constructor
  · rintro ⟨before, after, rfl, hshows, h₁, h₂⟩
    exact ⟨by simp, hshows, (startTrim_le_mediaTime h hshows).1 h₁,
      (mediaTime_le_endTrim h hshows).1 h₂⟩
  · rintro ⟨hmem, hshows, h₁, h₂⟩
    obtain ⟨before, after, rfl⟩ := List.append_of_mem hmem
    exact ⟨before, after, rfl, hshows, (startTrim_le_mediaTime h hshows).2 h₁,
      (mediaTime_le_endTrim h hshows).2 h₂⟩

end

/-- The plan of a window with a file on disk. -/
theorem exportPlan_eq (t : Segments) (disk : Nat) (onDisk : Segment → Bool) (job : ExportJob)
    {g : Segment} (hg : g ∈ t.getRange job.cameraId job.startTs job.endTs (some .main))
    (hon : onDisk g = true) :
    ∃ plan, exportPlan t (some disk) onDisk job = .ok plan ∧
      plan.included = (t.getRange job.cameraId job.startTs job.endTs (some .main)).filter onDisk ∧
      plan.startTrim = (Trim.run job plan.included).startTrim.getD 0 ∧
      plan.endTrim = (Trim.run job plan.included).endTrim := by
  have hincluded := List.mem_filter.2 ⟨hg, hon⟩
  unfold exportPlan
  generalize t.getRange job.cameraId job.startTs job.endTs (some .main) = segments at *
  have hsegs : segments.isEmpty = false := by simpa using List.ne_nil_of_mem hg
  have hfiles : (segments.filter onDisk).isEmpty = false := by
    simpa using List.ne_nil_of_mem hincluded
  simp only [hsegs, hfiles, Option.isNone_some, Bool.false_eq_true, if_false]
  exact ⟨_, rfl, rfl, rfl, rfl⟩

/-- The export of a window with a file on disk is cut to the footage of the window. -/
theorem export_trim_exact (t : Segments) (disk : Nat) (onDisk : Segment → Bool) (job : ExportJob)
    (hwindow : job.startTs < job.endTs)
    (hapart : (t.getRange job.cameraId job.startTs job.endTs (some .main)).Pairwise fun g g' =>
      g.endTs ≤ g'.startTs)
    (hfile : ∃ g ∈ t.getRange job.cameraId job.startTs job.endTs (some .main), onDisk g = true) :
    ∃ plan, exportPlan t (some disk) onDisk job = .ok plan ∧
      plan.included =
        (t.getRange job.cameraId job.startTs job.endTs (some .main)).filter onDisk ∧
      played plan.included plan.startTrim plan.endTrim =
        footageOf plan.included job.startTs job.endTs ∧
      0 ≤ plan.startTrim ∧ plan.startTrim ≤ plan.endTrim ∧
      plan.endTrim ≤ mediaLength plan.included := by
  obtain ⟨g, hg, hon⟩ := hfile
  obtain ⟨plan, hplan, hincluded, hstart, hend⟩ := exportPlan_eq t disk onDisk job hg hon
  have hin : InWindow job plan.included := by
    rw [hincluded]
    refine ⟨hapart.filter _, fun g hg => ?_, fun g hg => ?_⟩
    · exact (Segments.mem_getRange_main.1 (List.mem_filter.1 hg).1).2.2.1
    · exact (Segments.mem_getRange_main.1 (List.mem_filter.1 hg).1).2.2.2
  refine ⟨plan, hplan, hincluded, ?_, ?_, ?_, ?_⟩
  · rw [hstart, hend]
    exact played_eq_footageOf hin
  · rw [hstart]
    exact startTrim_nonneg hin
  · rw [hstart, hend]
    exact startTrim_le_endTrim hwindow hin
  · rw [hend]
    exact endTrim_le hin

namespace ExportFixture

def segments : Segments where
  rows :=
    [⟨1, 1, 1, "1/a.ts", 0, 10000000, 8, .main, false⟩,
      ⟨2, 1, 1, "1/b.ts", 10000000, 20000000, 8, .main, false⟩,
      ⟨3, 1, 1, "1/c.ts", 35000000, 45000000, 8, .main, false⟩]
  nodup := by decide

def job : ExportJob := ⟨1, 4000000, 40000000⟩

end ExportFixture

open ExportFixture in
/-- A window over a hole, with one of three files gone. -/
theorem export_trim_exact_fixture :
    ∃ plan, exportPlan segments (some 1) (fun g => decide (g.id ≠ 2)) job = .ok plan ∧
      plan.included = (segments.getRange 1 4000000 40000000 (some .main)).filter
        (fun g => decide (g.id ≠ 2)) ∧
      played plan.included plan.startTrim plan.endTrim = footageOf plan.included 4000000 40000000 ∧
      0 ≤ plan.startTrim ∧ plan.startTrim ≤ plan.endTrim ∧
      plan.endTrim ≤ mediaLength plan.included :=
  export_trim_exact segments 1 (fun g => decide (g.id ≠ 2)) job (by decide) (by decide) (by decide)

end AeroXProtect
