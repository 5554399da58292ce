import AeroXProtect.Camera

/-!
# Distribution of cameras over nodes

The two schedulers of the server: `ai_scheduler` distributes the cameras whose detection is enabled
over the AI nodes, `encode_scheduler` the watched cameras that need a transcode over the encoder
nodes. Both read the assignment rows, plan a node for every camera (a camera first keeps its node
while that node has room, the others go to the node with the most room left), write the rows back
and drop the rows of cameras that need no work. The passes are written once (`makePlan`,
`writeBack`, `dropStale`); the two `rebalance` functions differ in the node table, in which rows
they re-issue, and in what they do after a change.

A Python dictionary is a function into `Option`; the load counters are a function that starts at
`0`. Columns that neither scheduler reads (`model`, `target_fps`, names, heartbeats) are left out.
-/

open Lib

namespace AeroXProtect

/-! ## Assignment rows -/

/-- The states of an assignment row. Source: `server/model/detection_assignment.py:11`. -/
inductive AssignState
  | pending | active | reassigning | paused
  deriving DecidableEq, Repr

/-- A row of `detection_assignments` or `encode_assignments`. -/
structure Assignment where
  cameraId : Nat
  nodeId : Nat
  state : AssignState
  claimedAt : Option Int
  lastReportTs : Option Int
  epoch : Nat
  deriving DecidableEq, Repr

/-- An assignment table, with its unique constraint on `camera_id`. -/
abbrev Assignments := Table Assignment.cameraId

namespace Assignments

/-- The rows by camera. Source: `DetectionAssignment.all_rows`. -/
def allRows (t : Assignments) : List Assignment := orderBy Assignment.cameraId t.rows

/-- What `assign` makes of the camera's row: the epoch goes up, and the claim is dropped, when the
node changes. -/
def reissue (nodeId : Nat) (state : AssignState) (a : Assignment) : Assignment :=
  if a.nodeId ≠ nodeId then
    { a with epoch := a.epoch + 1, claimedAt := none, nodeId := nodeId, state := state }
  else { a with nodeId := nodeId, state := state }

theorem cameraId_reissue (nodeId : Nat) (state : AssignState) (a : Assignment) :
    (reissue nodeId state a).cameraId = a.cameraId := by
  unfold reissue; split <;> rfl

theorem nodeId_reissue (nodeId : Nat) (state : AssignState) (a : Assignment) :
    (reissue nodeId state a).nodeId = nodeId := by
  unfold reissue; split <;> rfl

/-- Create or repoint a camera's row. Source: `DetectionAssignment.assign`
(`server/model/detection_assignment.py:48`), `EncodeAssignment.assign`. -/
def assign (t : Assignments) (cameraId nodeId : Nat) (state : AssignState) : Assignments :=
  match t.get? cameraId with
  | none =>
    t.insert
      { cameraId, nodeId, state, claimedAt := none, lastReportTs := none, epoch := 1 }
  | some _ =>
    t.modify (fun a => decide (a.cameraId = cameraId)) (reissue nodeId state)
      (cameraId_reissue nodeId state)

/-- Source: `DetectionAssignment.remove_for_camera`
(`server/model/detection_assignment.py:89`). -/
def removeForCamera (t : Assignments) (cameraId : Nat) : Assignments :=
  t.delete fun a => decide (a.cameraId = cameraId)

/-- The node a camera's row points to. -/
def nodeOf (t : Assignments) (cameraId : Nat) : Option Nat :=
  (t.get? cameraId).map Assignment.nodeId

/-- The row `assign` creates for a camera that has none. -/
def firstRow (cameraId nodeId : Nat) (state : AssignState) : Assignment :=
  { cameraId, nodeId, state, claimedAt := none, lastReportTs := none, epoch := 1 }

/-- `assign` changes the row of one camera: it creates the row, or issues it again. -/
theorem get?_assign (t : Assignments) (c n : Nat) (st : AssignState) (c' : Nat) :
    (t.assign c n st).get? c' =
      if c' = c then
        match t.get? c with
        | none => some (firstRow c n st)
        | some a => some (reissue n st a)
      else t.get? c' := by
  unfold assign
  split
  · next h => rw [Table.get?_insert (by simpa using h)]; rfl
  · next a h =>
    rw [Table.get?_modify]
    split
    · next hc => subst hc; simp [h]
    · rfl

end Assignments

/-! ## Nodes -/

/-- The status of a node. Source: `server/model/ai_node.py:16`. -/
inductive NodeStatus
  | online | degraded | offline | draining | disabled
  deriving DecidableEq, Repr

/-- A row of `ai_nodes`. -/
structure AiNode where
  id : Nat
  status : NodeStatus
  enabled : Bool
  gpu : Bool
  capacity : Int
  assignedCount : Int
  deletedAt : Option Int
  deriving DecidableEq, Repr

/-- A row of `encoding_nodes`. -/
structure EncodingNode where
  id : Nat
  status : NodeStatus
  enabled : Bool
  maxSessions : Int
  assignedCount : Int
  deletedAt : Option Int
  deriving DecidableEq, Repr

/-- What the planning passes read of a node: its id and how many cameras it takes. -/
structure Slot where
  id : Nat
  capacity : Int
  deriving DecidableEq, Repr

/-- `max(0, n.capacity)`. -/
def Slot.cap (n : Slot) : Nat := n.capacity.toNat

/-- The nodes eligible for an assignment, GPU nodes first, then by capacity. Source:
`AiNode.schedulable` (`server/model/ai_node.py:60`). -/
def AiNode.schedulable (t : Table AiNode.id) : List AiNode :=
  orderBy (fun n => if n.gpu then 0 else 1)
    (orderBy (fun n => -n.capacity)
      (t.rows.filter fun n =>
        n.deletedAt.isNone && n.enabled && decide (n.status = .online)))

/-- Source: `EncodingNode.schedulable` (`server/model/encoding_node.py`). -/
def EncodingNode.schedulable (t : Table EncodingNode.id) : List EncodingNode :=
  orderBy (fun n => -n.maxSessions)
    (t.rows.filter fun n =>
      n.deletedAt.isNone && n.enabled && decide (n.status = .online))

def AiNode.slot (n : AiNode) : Slot := ⟨n.id, n.capacity⟩

def EncodingNode.slot (n : EncodingNode) : Slot := ⟨n.id, n.maxSessions⟩

/-! ## Planning -/

/-- The planned node of each camera, the number of cameras planned on each node, and the cameras
that found no node. -/
structure Plan where
  node : Nat → Option Nat
  load : Nat → Nat
  pending : List Nat

namespace Plan

def empty : Plan := ⟨fun _ => none, fun _ => 0, []⟩

/-- `plan[cam] = nid; load[nid] += 1`. -/
def put (p : Plan) (cam nid : Nat) : Plan :=
  { p with
    node := fun c => if c = cam then some nid else p.node c
    load := fun n => if n = nid then p.load n + 1 else p.load n }

end Plan

section
variable (nodes : List Slot)

/-- `cap.get(nid)` of `cap = {n.id: max(0, n.capacity) for n in nodes}`. -/
def capOf (nid : Nat) : Option Nat := (nodes.find? fun n => decide (n.id = nid)).map Slot.cap

/-- The node with the most remaining capacity, the first one on a tie, if any has some left.
Source: `_pick` (`server/service/ai_scheduler.py:96`, `encode_scheduler.py:139`). -/
def pick (load : Nat → Nat) : Option Nat :=
  (nodes.foldl (fun (best : Option Nat × Int) n =>
    let rem := (n.cap : Int) - load n.id
    if rem > best.2 then (some n.id, rem) else best) (none, 0)).1

/-- First pass, one camera: keep the current node if it is schedulable with spare capacity. -/
def keepStep (existing : Nat → Option Assignment) (p : Plan) (cam : Nat) : Plan :=
  match existing cam with
  | none => p
  | some a =>
    match capOf nodes a.nodeId with
    | none => p
    | some c => if p.load a.nodeId < c then p.put cam a.nodeId else p

/-- Second pass, one camera: place it on the picked node, or leave it pending. -/
def placeStep (p : Plan) (cam : Nat) : Plan :=
  if (p.node cam).isSome then p
  else
    match pick nodes p.load with
    | none => { p with pending := p.pending ++ [cam] }
    | some nid => p.put cam nid

/-- The two planning passes over the cameras that need work. -/
def makePlan (existing : Nat → Option Assignment) (cams : List Nat) : Plan :=
  cams.foldl (placeStep nodes) (cams.foldl (keepStep nodes existing) Plan.empty)

end

/-! ## Writing back -/

/-- Write-back of one camera: its row is removed when it has no planned node, left alone when it
already points to the planned node and need not be re-issued (`unchanged`), and assigned otherwise.
The second component collects the changed cameras. -/
def writeStep (unchanged : Assignment → Bool) (existing : Nat → Option Assignment)
    (plan : Nat → Option Nat) (st : Assignments × List Nat) (cam : Nat) : Assignments × List Nat :=
  match plan cam with
  | none =>
    if (existing cam).isSome then (st.1.removeForCamera cam, st.2 ++ [cam]) else st
  | some nid =>
    match existing cam with
    | none => (st.1.assign cam nid .pending, st.2 ++ [cam])
    | some a =>
      if a.nodeId = nid && unchanged a then st
      else (st.1.assign cam nid .pending, st.2 ++ [cam])

/-- The write-back pass. -/
def writeBack (unchanged : Assignment → Bool) (existing : Nat → Option Assignment)
    (plan : Nat → Option Nat) (cams : List Nat) (st : Assignments × List Nat) :
    Assignments × List Nat :=
  cams.foldl (writeStep unchanged existing plan) st

/-- The drop pass: the rows of cameras that need no work go. -/
def dropStale (cams : List Nat) (stale : List Nat) (st : Assignments × List Nat) :
    Assignments × List Nat :=
  stale.foldl (fun st cam =>
    if cam ∈ cams then st else (st.1.removeForCamera cam, st.2 ++ [cam])) st

/-- The rows and the changed cameras after all passes. -/
def rewrite (unchanged : Assignment → Bool) (nodes : List Slot) (cams : List Nat)
    (rows : Assignments) : Assignments × List Nat :=
  let existing := rows.get?
  dropStale cams (rows.allRows.map Assignment.cameraId)
    (writeBack unchanged existing (makePlan nodes existing cams).node cams (rows, []))

/-- What `rebalance` returns. -/
structure Summary where
  assigned : Nat
  pending : List String
  pendingCount : Nat
  changed : Nat
  etag : String
  deriving DecidableEq, Repr

/-- The etag counter in Redis, and whether Redis answers. -/
structure EtagStore where
  etag : Option Nat
  redisUp : Bool
  deriving DecidableEq, Repr

/-- Source: `current_etag` (`server/service/ai_scheduler.py:21`). -/
def EtagStore.currentEtag (e : EtagStore) : String :=
  if e.redisUp then
    match e.etag with
    | some n => toString n
    | none => "0"
  else "0"

/-- Source: `_bump_etag` (`server/service/ai_scheduler.py:28`); an error is swallowed. -/
def EtagStore.bumpEtag (e : EtagStore) : EtagStore :=
  if e.redisUp then { e with etag := some (e.etag.getD 0 + 1) } else e

/-- The returned summary. -/
def summarize (cams : List Nat) (plan : Plan) (changed : Nat) (e : EtagStore) : Summary :=
  { assigned := cams.length - plan.pending.length
    pending := plan.pending.map toString
    pendingCount := plan.pending.length
    changed
    etag := e.currentEtag }

/-! ## The AI scheduler -/

/-- A row of `ai_settings`; `cameraId = none` is the global row. -/
structure AiSettings where
  cameraId : Option Nat
  detectionEnabled : Bool
  deriving DecidableEq, Repr

/-- What `ai_scheduler` reads and writes. -/
structure AiSched where
  cameras : Cameras
  settings : List AiSettings
  nodes : Table AiNode.id
  rows : Assignments
  store : EtagStore

namespace AiSched

/-- `effective_settings(cam)['detection_enabled']`: the camera's row, else the global row, which is
created with detection enabled when it is missing. Source: `effective_settings`
(`server/service/ai_config_resolver.py:16`). -/
def detectionEnabled (s : AiSched) (cam : Nat) : Bool :=
  match s.settings.find? fun r => decide (r.cameraId = some cam) with
  | some r => r.detectionEnabled
  | none =>
    match s.settings.find? fun r => decide (r.cameraId = none) with
    | some g => g.detectionEnabled
    | none => true

/-- Source: `enabled_camera_ids` (`server/service/ai_config_resolver.py:26`). -/
def enabledCameraIds (s : AiSched) : List Nat :=
  (s.cameras.getAllEnabled.filter fun c => s.detectionEnabled c.id).map Camera.id

/-- `n.update(assigned_count=load[n.id])` for the schedulable nodes whose count differs. -/
def updateCounts (nodes : Table AiNode.id) (pool : List AiNode) (load : Nat → Nat) :
    Table AiNode.id :=
  nodes.modify (fun n => decide (n.id ∈ pool.map AiNode.id ∧ n.assignedCount ≠ load n.id))
    fun n => { n with assignedCount := load n.id }

/-- Source: `rebalance` (`server/service/ai_scheduler.py:40`). -/
def rebalance (s : AiSched) : AiSched × Summary :=
  let cams := s.enabledCameraIds
  let pool := AiNode.schedulable s.nodes
  let plan := makePlan (pool.map AiNode.slot) s.rows.get? cams
  let (rows, changed) := rewrite (fun _ => true) (pool.map AiNode.slot) cams s.rows
  let store := if changed.isEmpty then s.store else s.store.bumpEtag
  ({ s with rows, store, nodes := updateCounts s.nodes pool plan.load },
    summarize cams plan changed.length store)

end AiSched

/-! ## The encoder scheduler -/

/-- What `encode_scheduler` reads and writes. `needsEncode` says of a camera whether its default
live stream needs a transcode and has a viewer (`_cameras_needing_encode`); `resynced` lists the
cameras whose go2rtc source was pushed again. -/
structure EncodeSched where
  cameras : Cameras
  needsEncode : Camera → Bool
  flagOn : Bool
  nodes : Table EncodingNode.id
  rows : Assignments
  store : EtagStore
  resynced : List Nat

namespace EncodeSched

/-- Source: `_cameras_needing_encode` (`server/service/encode_scheduler.py:50`). -/
def camerasNeedingEncode (s : EncodeSched) : List Nat :=
  (s.cameras.getAllEnabled.filter s.needsEncode).map Camera.id

/-- `n.update(assigned_count=load[n.id])` for the schedulable nodes whose count differs. -/
def updateCounts (nodes : Table EncodingNode.id) (pool : List EncodingNode)
    (load : Nat → Nat) : Table EncodingNode.id :=
  nodes.modify (fun n => decide (n.id ∈ pool.map EncodingNode.id ∧ n.assignedCount ≠ load n.id))
    fun n => { n with assignedCount := load n.id }

/-- The flag-off branch of `rebalance`: every row goes, every camera of a row is synced again. -/
def rebalanceOff (s : EncodeSched) : EncodeSched × Summary :=
  let cams := s.rows.allRows.map Assignment.cameraId
  let store := if cams.isEmpty then s.store else s.store.bumpEtag
  ({ s with
      rows := cams.foldl Assignments.removeForCamera s.rows
      store
      resynced := s.resynced ++ cams },
    { assigned := 0, pending := [], pendingCount := 0, changed := cams.length,
      etag := store.currentEtag })

/-- Source: `rebalance` (`server/service/encode_scheduler.py:68`). -/
def rebalance (s : EncodeSched) : EncodeSched × Summary :=
  if s.flagOn then
    let cams := s.camerasNeedingEncode
    let pool := EncodingNode.schedulable s.nodes
    let plan := makePlan (pool.map EncodingNode.slot) s.rows.get? cams
    let (rows, changed) :=
      rewrite (fun a => decide (a.state ≠ .reassigning)) (pool.map EncodingNode.slot) cams s.rows
    let store := if changed.isEmpty then s.store else s.store.bumpEtag
    ({ s with
        rows, store
        nodes := updateCounts s.nodes pool plan.load
        resynced := s.resynced ++ changed },
      summarize cams plan changed.length store)
  else s.rebalanceOff

end EncodeSched

end AeroXProtect
