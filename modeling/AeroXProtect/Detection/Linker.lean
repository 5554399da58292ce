import AeroXProtect.Playback.PointLookup
import AeroXProtect.Lib.Decoded
import AeroXProtect.Lib.Drain

/-!
# Detections and their segments

A detection is linked to the segment that shows it when it is ingested; where the segment was
indexed later, the linker fills the link in. `backfill` takes a window of the oldest detections
without a segment.
-/

open Lib Lib.Interval

namespace AeroXProtect

/-- A row of `detections`. -/
structure Detection where
  id : Nat
  cameraId : Nat
  ts : Int
  label : String
  confidence : Int
  trackId : Option Int
  bbox : List Double
  segmentId : Option Nat
  deriving DecidableEq, Repr

abbrev Detections := Table Detection.id

namespace Detections

/-- The detections without a segment, by time. -/
def unlinked (t : Detections) : List Detection :=
  orderBy Detection.ts (t.rows.filter fun d => d.segmentId.isNone)

/-- Source: `Detection.backfill_candidates` (`server/model/detection.py:101`). -/
def backfillCandidates (t : Detections) (limit : Nat) : List Detection := t.unlinked.take limit

/-- Source: `Detection.link_segment` (`server/model/detection.py:105`). -/
def linkSegment (t : Detections) (ids : List Nat) (segmentId : Nat) : Detections :=
  t.modify (fun d => decide (d.id ∈ ids)) fun d => { d with segmentId := some segmentId }

/-- The detections after an attempt to link one, and whether it was linked. Source: `link_one`
(`server/service/segment_linker.py:11`). -/
def linkOne (segments : Segments) (t : Detections) (d : Detection) : Detections × Bool :=
  match segments.getAt d.cameraId d.ts with
  | none => (t, false)
  | some seg => (t.linkSegment [d.id] seg.id, true)

/-- One turn of the loop, with the number of detections linked so far. -/
def linkNext (segments : Segments) (x : Detections × Nat) (d : Detection) : Detections × Nat :=
  match x.1.linkOne segments d with
  | (t, true) => (t, x.2 + 1)
  | (t, false) => (t, x.2)

/-- Source: `backfill` (`server/service/segment_linker.py:19`). -/
def backfill (segments : Segments) (limit : Nat) (t : Detections) : Detections × Nat :=
  (t.backfillCandidates limit).foldl (linkNext segments) (t, 0)

/-- A segment of its camera covers the time of the detection. -/
def isCovered (segments : Segments) (d : Detection) : Bool :=
  (segments.getAt d.cameraId d.ts).isSome

/-- No detection without a segment is covered by one. -/
def Settled (segments : Segments) (t : Detections) : Prop :=
  ∀ d ∈ t, d.segmentId = none → ∀ g ∈ segments, g.cameraId = d.cameraId → ¬ Covers g.span d.ts

section
variable {segments : Segments} {t : Detections} {limit : Nat}

/-- Where nothing is covered, nothing changes; otherwise something is linked. -/
theorem foldl_linkNext (segments : Segments) (l : List Detection) (x : Detections × Nat) :
    (l.foldl (linkNext segments) x).2 = x.2 + l.countP (isCovered segments) ∧
      ((∀ d ∈ l, isCovered segments d = false) → l.foldl (linkNext segments) x = x) := by
  induction l generalizing x with
  | nil => exact ⟨rfl, fun _ => rfl⟩
  | cons d l ih =>
    rw [List.foldl_cons, List.countP_cons, List.forall_mem_cons]
    have hcovered : isCovered segments d = (segments.getAt d.cameraId d.ts).isSome := rfl
    cases hat : segments.getAt d.cameraId d.ts with
    | none =>
      rw [hat] at hcovered
      have hnext : linkNext segments x d = x := by
        unfold linkNext linkOne
        rw [hat]
      rw [hnext, hcovered]
      exact ⟨(ih x).1, fun h => (ih x).2 h.2⟩
    | some seg =>
      rw [hat] at hcovered
      have hnext : (linkNext segments x d).2 = x.2 + 1 := by
        unfold linkNext linkOne
        rw [hat]
      rw [(ih _).1, hnext, hcovered]
      refine ⟨by simp; omega, fun h => ?_⟩
      cases h.1

/-- **The linker**: that a run which links nothing has nothing to link holds exactly if a covered
detection, where there is one, is within the window. -/
theorem backfill_settles_iff :
    ((t.backfill segments limit).2 = 0 → Settled segments (t.backfill segments limit).1) ↔
      (¬ Settled segments t → Lib.InWindow (isCovered segments) limit t.unlinked) := by
  obtain ⟨hcount, hsame⟩ := foldl_linkNext segments (t.backfillCandidates limit) (t, 0)
  rw [Nat.zero_add] at hcount
  rw [← exists_mem_take_iff]
  have hzero : (t.backfill segments limit).2 = 0 ↔
      ∀ d ∈ t.backfillCandidates limit, isCovered segments d = false := by
    rw [backfill, hcount, List.countP_eq_zero]
    simp only [Bool.not_eq_true]
  rw [hzero]
  constructor
  · intro h hnot
    by_contra hno
    have hall : ∀ d ∈ t.backfillCandidates limit, isCovered segments d = false := by
      intro d hd
      rw [← Bool.not_eq_true]
      exact fun hcov => hno ⟨d, hd, hcov⟩
    have hsettled := h hall
    rw [backfill, hsame hall] at hsettled
    exact hnot hsettled
  · intro h hall
    rw [backfill, hsame hall]
    by_contra hnot
    obtain ⟨d, hd, hcov⟩ := h hnot
    rw [hall d hd] at hcov
    cases hcov

end

end Detections

end AeroXProtect
