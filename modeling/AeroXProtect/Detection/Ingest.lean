import AeroXProtect.Scheduler.Stability
import AeroXProtect.Lib.Json
import AeroXProtect.Lib.Run

/-!
# Ingestion of detection reports

A detector node posts batches of detections; the server checks each report against the assignment
of its camera (`validate`: the camera must be assigned to the posting node, and an epoch that comes
with the report, or with the batch, must be the epoch of the assignment), stores the accepted ones
and notes the time of the report in the assignment row (`markReport`). `Detect` puts the ingestion
next to everything else that writes assignment rows: the rebalances, the reassignment of a node's
cameras and the pin of a camera to a node. Its `issued` is not in the program: it lists the
assignments that were handed out, newest first, so that a report can be compared with the assignment
it was made under.

A report is a decoded JSON value. What becomes of an accepted report (`_build_row` and the triggers)
is left open: `builds` says which reports have a known label.
-/

open Lib

namespace AeroXProtect

namespace Assignments

/-- What a report makes of the camera's row: the first one claims the assignment. -/
def reported (now : Int) (a : Assignment) : Assignment :=
  if a.state = .pending then
    { a with lastReportTs := some now, state := .active, claimedAt := some now }
  else { a with lastReportTs := some now }

theorem cameraId_reported (now : Int) (a : Assignment) :
    (reported now a).cameraId = a.cameraId := by
  unfold reported; split <;> rfl

/-- Source: `DetectionAssignment.mark_report` (`server/model/detection_assignment.py:78`),
`EncodeAssignment.mark_report`. -/
def markReport (t : Assignments) (cameraId : Nat) (now : Int) : Assignments :=
  t.modify (fun a => decide (a.cameraId = cameraId)) (reported now) (cameraId_reported now)

/-- The rows of a node get a new state. Source: the loop of `reassign`
(`server/service/ai_scheduler.py:115`, `encode_scheduler.py:158`). -/
def setNodeState (t : Assignments) (nodeId : Nat) (state : AssignState) : Assignments :=
  t.modify (fun a => decide (a.nodeId = nodeId)) fun a => { a with state }

end Assignments

/-! ## Validation -/

/-- Why a report is rejected. -/
inductive Reason
  | missingCamera | badCameraId | notAssigned | staleEpoch | badBbox | unknownLabel
  deriving DecidableEq, Repr

/-- The text of the rejection. -/
def Reason.text : Reason → String
  | .missingCamera => "missing_camera"
  | .badCameraId => "bad_camera_id"
  | .notAssigned => "not_assigned"
  | .staleEpoch => "stale_epoch"
  | .badBbox => "bad_bbox"
  | .unknownLabel => "unknown_label"

/-- The epoch a report carries: its own, else the one the batch gives for its camera. `null` is no
epoch. -/
def repEpoch (rep epochMap : Json) (cam : Int) : Option Json := do
  let e ← rep.get? "epoch"
  if e = .null then epochMap.get? (toString cam) else some e

/-- The epoch check: no epoch passes, an epoch must be that of the assignment. -/
def epochMatches (e : Json) (epoch : Nat) : Option Bool :=
  if e = .null then some true else e.toInt?.map fun n => n == (epoch : Int)

/-- `DetectionAssignment.get_for_camera` (`server/model/detection_assignment.py:32`) for an integer
that a report gives as its camera. -/
def Assignments.getForCamera (rows : Assignments) (cam : Int) : Option Assignment :=
  if cam < 0 then none else rows.get? cam.toNat

/-- The check of a report for the camera `cam`: its assignment, its epoch and its box. -/
def validateFor (rows : Assignments) (node : Nat) (epochMap rep : Json) (cam : Int) :
    Option (Option Reason) :=
  match rows.getForCamera cam with
  | none => some (some .notAssigned)
  | some a =>
    if a.nodeId ≠ node then some (some .notAssigned)
    else do
      let e ← repEpoch rep epochMap cam
      let current ← epochMatches e a.epoch
      if current then
        match ← rep.get? "bbox" with
        | .arr l => some (if l.length = 4 then none else some .badBbox)
        | _ => some (some .badBbox)
      else some (some .staleEpoch)

/-- The check of one report; `none` is a raised exception, `some none` an accepted report. Source:
`_validate` (`server/service/detection_ingest.py:72`); `assign_cache` only remembers lookups of rows
that do not change during the loop. -/
def validate (rows : Assignments) (node : Nat) (epochMap rep : Json) : Option (Option Reason) := do
  let camId ← rep.get? "camera_id"
  if camId.truthy then
    match camId.toInt? with
    | none => some (some .badCameraId)
    | some cam => validateFor rows node epochMap rep cam
  else some (some .missingCamera)

/-- The camera of a report that passed the check. -/
def cameraOf (rep : Json) : Option Nat :=
  (rep.get? "camera_id").bind fun c => c.toInt?.map Int.toNat

/-- What a batch leads to: the indices of the rejected reports with their reasons, and the accepted
reports. -/
structure IngestResult where
  rejected : List (Nat × String)
  accepted : List Json
  deriving DecidableEq, Repr

/-- `MAX_BATCH`. -/
def maxBatch : Nat := 2000

/-- The loop of `ingest_batch` over the reports with their indices. An exception in one report ends
the request before anything is stored. -/
def ingestLoop (builds : Json → Bool) (rows : Assignments) (node : Nat) (epochMap : Json) :
    List (Json × Nat) → Option IngestResult
  | [] => some ⟨[], []⟩
  | (rep, idx) :: rest => do
    let reason ← validate rows node epochMap rep
    let r ← ingestLoop builds rows node epochMap rest
    match reason with
    | some reason => return { r with rejected := (idx, reason.text) :: r.rejected }
    | none =>
      if builds rep then return { r with accepted := rep :: r.accepted }
      else return { r with rejected := (idx, Reason.unknownLabel.text) :: r.rejected }

/-- Source: `ingest_batch` (`server/service/detection_ingest.py:22`): the rows afterwards and the
result, if no report raises. -/
def ingestBatch (builds : Json → Bool) (rows : Assignments) (node : Nat) (batch : List Json)
    (epochMap : Json) (now : Int) : Option (Assignments × IngestResult) := do
  let r ← ingestLoop builds rows node (epochMap.or .empty) (batch.take maxBatch).zipIdx
  let cams := (r.accepted.filterMap cameraOf).dedup
  return (cams.foldl (fun t c => t.markReport c now) rows, r)

/-! ## Everything that writes assignment rows -/

/-- An assignment that was handed out: the camera, the node and the epoch. -/
structure Issue where
  cameraId : Nat
  nodeId : Nat
  epoch : Nat
  deriving DecidableEq, Repr

def Assignment.issue (a : Assignment) : Issue := ⟨a.cameraId, a.nodeId, a.epoch⟩

section
variable {t : Assignments}

/-- The assignment of a camera, read off the list of assignments. -/
theorem issue_get? (t : Assignments) (c : Nat) :
    (t.get? c).map Assignment.issue =
      (t.rows.map Assignment.issue).find? fun i => decide (i.cameraId = c) := by
  rw [List.find?_map]
  rfl

/-- An update that leaves camera, node and epoch alone leaves the assignments alone. -/
theorem issues_modify {p : Assignment → Bool} {f : Assignment → Assignment}
    {hf : ∀ a, (f a).cameraId = a.cameraId} (h : ∀ a, (f a).issue = a.issue) :
    (t.modify p f hf).rows.map Assignment.issue = t.rows.map Assignment.issue := by
  show (t.rows.map _).map _ = _
  rw [List.map_map]
  refine List.map_congr_left fun a _ => ?_
  show (if p a then f a else a).issue = a.issue
  split
  · exact h a
  · rfl

theorem issues_setNodeState (node : Nat) (st : AssignState) :
    (t.setNodeState node st).rows.map Assignment.issue = t.rows.map Assignment.issue :=
  issues_modify fun _ => rfl

theorem issues_markReport (cam : Nat) (now : Int) :
    (t.markReport cam now).rows.map Assignment.issue = t.rows.map Assignment.issue :=
  issues_modify fun a => by unfold Assignments.reported; split <;> rfl

/-- Noting the reports of a batch leaves the assignments alone. -/
theorem issues_markReports (cams : List Nat) (t : Assignments) (now : Int) :
    (cams.foldl (fun t c => t.markReport c now) t).rows.map Assignment.issue =
      t.rows.map Assignment.issue := by
  induction cams generalizing t with
  | nil => rfl
  | cons cam cams ih => rw [List.foldl_cons, ih, issues_markReport]

end

/-- The assignments that are in `after` and not in `before`. -/
def newIssues (before after : Assignments) : List Issue :=
  (after.rows.filter fun b =>
    (before.get? b.cameraId).map Assignment.issue != some b.issue).map Assignment.issue

/-- The AI scheduler with the log of the assignments it has handed out, newest first. -/
structure Detect where
  sched : AiSched
  issued : List Issue

/-- What may happen: an edit of cameras, settings or nodes (heartbeats and the health sweep
included), a rebalance, the reassignment of a node's cameras, the pin of a camera to a node, a
change of Redis' availability, and a batch of reports. -/
inductive DetectAct
  | configure (cameras : Cameras) (settings : List AiSettings) (nodes : Table AiNode.id)
  | rebalance
  | reassign (node : Nat)
  | pin (camera node : Nat)
  | redis (up : Bool)
  | report (node : Nat) (batch : List Json) (epochMap : Json) (now : Int)

namespace AiSched

/-- Source: `touch` (`server/service/ai_scheduler.py:35`). -/
def touch (s : AiSched) : AiSched := { s with store := s.store.bumpEtag }

/-- Source: `reassign` (`server/service/ai_scheduler.py:115`). -/
def reassign (s : AiSched) (node : Nat) : AiSched :=
  { s with rows := s.rows.setNodeState node .reassigning }.rebalance.1

/-- Source: `AiAssignmentController.pin` (`server/controller/ai_assignment.py:24`), after its checks
that the camera and the node exist. -/
def pin (s : AiSched) (camera node : Nat) : AiSched :=
  { s with rows := s.rows.assign camera node .pending }.touch

end AiSched

namespace Detect

/-- What an action does to the program's state. -/
def act (builds : Json → Bool) (s : AiSched) : DetectAct → AiSched
  | .configure cameras settings nodes => { s with cameras, settings, nodes }
  | .rebalance => s.rebalance.1
  | .reassign node => s.reassign node
  | .pin camera node => s.pin camera node
  | .redis up => { s with store := { s.store with redisUp := up } }
  | .report node batch epochMap now =>
    match ingestBatch builds s.rows node batch epochMap now with
    | none => s
    | some (rows, _) => { s with rows }

/-- A batch of reports leaves the assignments alone. -/
theorem issues_report (builds : Json → Bool) (s : AiSched) (node : Nat) (batch : List Json)
    (epochMap : Json) (now : Int) :
    (act builds s (.report node batch epochMap now)).rows.rows.map Assignment.issue =
      s.rows.rows.map Assignment.issue := by
  simp only [act]
  cases hi : ingestBatch builds s.rows node batch epochMap now with
  | none => rfl
  | some r =>
    obtain ⟨res, -, hres⟩ := Option.bind_eq_some_iff.1 hi
    cases hres
    exact issues_markReports _ _ _

/-- One action, with the log of what it hands out. -/
def step (builds : Json → Bool) (s : Detect) (a : DetectAct) : Detect :=
  let sched := act builds s.sched a
  ⟨sched, newIssues s.sched.rows sched.rows ++ s.issued⟩

end Detect

end AeroXProtect
