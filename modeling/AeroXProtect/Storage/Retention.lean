import AeroXProtect.Storage.Tables

/-!
# The retention engine

One execution of `run_retention`: the days pass, the capacity pass and the disk watchdog, in this
order, each over the tables the one before it left. The engine reads the clock once per execution
here; the code reads it at each query, so an in-progress recording protects up to that instant. What
the operating system answers about a disk is a parameter (`Env.diskUsage`). The unlinked files are
not modelled: `delete_segment` removes the row whatever the unlink answers.
-/

open Lib

namespace AeroXProtect

/-! ## Tables and environment -/

/-- What `publish_reconcile` sent: the camera and the reason. -/
abbrev ReconcileMsg := Nat × String

/-- The tables the engine reads and writes, and the messages it published. -/
structure Engine where
  cameras : Cameras
  policies : StoragePolicies
  recordings : Recordings
  segments : Segments
  disks : Disks
  reconciled : List ReconcileMsg

/-- The world of one execution: the clock, `HARD_MARGIN` and `shutil.disk_usage` (the total and the
free bytes of a disk that holds the given segments; `none` for an `OSError`). -/
structure Env where
  now : Int
  hardMargin : Int
  diskUsage : Disk → Segments → Option (Int × Int)

/-- What `run_retention` returns. -/
structure RetentionSummary where
  deletedDays : Nat
  deletedCapacity : Nat
  deletedDiskfree : Nat
  warnings : List String
  deriving DecidableEq, Repr

/-- The state of one execution: the tables and the summary so far. -/
structure Exec where
  engine : Engine
  summary : RetentionSummary

namespace Exec

def addDays (x : Exec) (n : Nat) : Exec :=
  { x with summary := { x.summary with deletedDays := x.summary.deletedDays + n } }

def addCapacity (x : Exec) (n : Nat) : Exec :=
  { x with summary := { x.summary with deletedCapacity := x.summary.deletedCapacity + n } }

def addDiskfree (x : Exec) (n : Nat) : Exec :=
  { x with summary := { x.summary with deletedDiskfree := x.summary.deletedDiskfree + n } }

def warn (x : Exec) (w : String) : Exec :=
  { x with summary := { x.summary with warnings := x.summary.warnings ++ [w] } }

end Exec

/-! ## Eviction -/

/-- Source: `_overlaps` (`server/service/retention_engine.py:21`). -/
def overlaps (seg : Segment) (intervals : List (Int × Int)) : Bool :=
  intervals.any fun i => decide (seg.startTs < i.2) && decide (seg.endTs > i.1)

namespace Engine

/-- Remove the row of a segment. Source: `delete_segment`
(`server/service/retention_engine.py:28`). -/
def deleteSegment (s : Engine) (seg : Segment) : Engine :=
  { s with segments := s.segments.delete fun r => decide (r.id = seg.id) }

/-- `delete_segment` on each segment a loop selects. -/
def deleteSegments (s : Engine) (segs : List Segment) : Engine := segs.foldl deleteSegment s

/-- Whether a segment overlaps a protected interval of its camera. -/
def isProtected (s : Engine) (now : Int) (seg : Segment) : Bool :=
  overlaps seg (s.recordings.getProtectedIntervals seg.cameraId now)

/-- The enabled cameras with the policy each of them is under. Source: `_effective_policies`
(`server/service/retention_engine.py:60`). -/
def effectivePolicies (s : Engine) : List (Nat × StoragePolicy) :=
  s.cameras.getAllEnabled.filterMap fun c => (s.policies.getForCamera c.id).map fun p => (c.id, p)

/-! ## The days pass -/

/-- The segments the days pass deletes for a camera: of the 2000 oldest that ended before the
cutoff, those outside every protected interval. -/
def daysVictims (s : Engine) (env : Env) (camId : Nat) (retentionDays : Int) : List Segment :=
  (s.segments.olderThan camId (env.now - days retentionDays) 2000).filter fun seg =>
    !overlaps seg (s.recordings.getProtectedIntervals camId env.now)

end Engine

/-- The days pass for one camera. Source: `run_retention`
(`server/service/retention_engine.py:76`). -/
def daysCamera (env : Env) (x : Exec) (cp : Nat × StoragePolicy) : Exec :=
  match cp.2.retentionDays with
  | none => x
  | some d =>
    if d = 0 then x
    else
      let victims := x.engine.daysVictims env cp.1 d
      { x with engine := x.engine.deleteSegments victims }.addDays victims.length

/-- The days pass. -/
def daysPass (env : Env) (x : Exec) : Exec :=
  x.engine.effectivePolicies.foldl (daysCamera env) x

/-! ## The capacity pass -/

namespace Engine

/-- The unprotected segments the first round of the eviction loop deletes. -/
def roundOne (s : Engine) (env : Env) (camId : Nat) (used maxBytes : Int) : List Segment :=
  drain Segment.size (fun seg => overlaps seg (s.recordings.getProtectedIntervals camId env.now))
    (used - maxBytes) (s.segments.oldestForCamera camId 5000)

/-- The segments the second round deletes, protected or not: those the first round left, while the
camera is over its limit. -/
def roundTwo (s : Engine) (camId : Nat) (used maxBytes : Int) (deleted : List Segment) :
    List Segment :=
  drain Segment.size (fun seg => decide (seg.id ∈ deleted.map Segment.id)) (used - maxBytes)
    (s.segments.oldestForCamera camId 5000)

/-- Both rounds. Source: `run_retention`, the `OVER_DELETE_OLDEST` branch
(`server/service/retention_engine.py:95`). -/
def capacityVictims (s : Engine) (env : Env) (camId : Nat) (maxBytes : Int) : List Segment :=
  let used := s.segments.totalSizeForCamera camId
  let one := s.roundOne env camId used maxBytes
  let used' := used - total Segment.size one
  if used' ≤ maxBytes then one else one ++ s.roundTwo camId used' maxBytes one

/-- Stop the recorder of a camera: a camera under the global policy first gets a copy of its own.
Source: `run_retention`, the `OVER_STOP` branch (`server/service/retention_engine.py:119`). -/
def stopRecording (s : Engine) (camId : Nat) (pol : StoragePolicy) : Engine :=
  let policies :=
    match s.policies.getRawForCamera camId with
    | some row =>
      s.policies.modify (fun p => decide (p.id = row.id)) fun p => { p with recordMode := .off }
    | none =>
      s.policies.insert { pol with
        id := s.policies.freshKey, cameraId := some camId, recordMode := .off, deletedAt := none }
  { s with policies, reconciled := s.reconciled ++ [(camId, "mode_change")] }

end Engine

/-- The capacity pass for one camera. Source: `run_retention`
(`server/service/retention_engine.py:88`). -/
def capacityCamera (env : Env) (x : Exec) (cp : Nat × StoragePolicy) : Exec :=
  match cp.2.retentionMaxBytes with
  | none => x
  | some maxBytes =>
    if maxBytes = 0 ∨ x.engine.segments.totalSizeForCamera cp.1 ≤ maxBytes then x
    else
      match cp.2.overCapacityPolicy with
      | .deleteOldest =>
        let victims := x.engine.capacityVictims env cp.1 maxBytes
        { x with engine := x.engine.deleteSegments victims }.addCapacity victims.length
      | .stopRecording =>
        { x with engine := x.engine.stopRecording cp.1 cp.2 }.warn
          ("capacity_full_stopped:" ++ toString cp.1)
      | .warnOnly => x.warn ("capacity_exceeded:" ++ toString cp.1)

/-- The capacity pass. -/
def capacityPass (env : Env) (x : Exec) : Exec :=
  x.engine.effectivePolicies.foldl (capacityCamera env) x

/-! ## The disk watchdog -/

/-- The row after `Disk.refresh_usage` (`server/model/disk.py:70`). -/
def Disk.refreshUsage (env : Env) (segments : Segments) (d : Disk) : Disk :=
  match env.diskUsage d segments with
  | some (total, free) =>
    { d with totalBytes := total, freeBytes := free, status := .online, lastSeenAt := some env.now }
  | none => { d with status := .offline }

@[simp] theorem Disk.refreshUsage_id (env : Env) (segments : Segments) (d : Disk) :
    (d.refreshUsage env segments).id = d.id := by
  unfold Disk.refreshUsage; split <;> rfl

namespace Engine

/-- Source: `disks_needing_rotation` (`server/service/storage_manager.py:61`). -/
def disksNeedingRotation (s : Engine) (softMargin : Int) : List Disk :=
  (s.disks.getWritable [.cache, .record]).filter fun d =>
    decide (d.freeBytes ≤ d.reservedFreeBytes + softMargin)

/-- The segments the watchdog deletes from a disk: of its 2000 oldest, the unprotected ones, until
the estimate of the free space reaches the target. -/
def freeSpaceVictims (s : Engine) (env : Env) (d : Disk) (targetFreeBytes : Int) : List Segment :=
  drain Segment.size (s.isProtected env.now) (targetFreeBytes - d.freeBytes)
    (s.segments.oldestOnDisk d.id 2000)

/-- Source: `free_space` (`server/service/retention_engine.py:41`). -/
def freeSpace (s : Engine) (env : Env) (d : Disk) (targetFreeBytes : Int) : Engine :=
  let s' := s.deleteSegments (s.freeSpaceVictims env d targetFreeBytes)
  { s' with
    disks := s'.disks.modify (fun r => decide (r.id = d.id)) (Disk.refreshUsage env s'.segments)
      (Disk.refreshUsage_id env s'.segments) }

end Engine

/-- The free space a disk is rotated to. -/
def Env.rotationTarget (env : Env) (d : Disk) : Int := d.reservedFreeBytes + env.hardMargin

/-- The watchdog on one disk. Source: `run_retention` (`server/service/retention_engine.py:140`). -/
def rotateDisk (env : Env) (x : Exec) (d : Disk) : Exec :=
  let target := env.rotationTarget d
  let freed := (x.engine.freeSpaceVictims env d target).length
  let s := x.engine.freeSpace env d target
  let d' := d.refreshUsage env s.segments
  let x' := { x with engine := s }.addDiskfree freed
  if freed = 0 ∧ d'.freeBytes ≤ d'.reservedFreeBytes then
    x'.warn ("no_evictable_space:" ++ d.name)
  else x'

/-- The disk watchdog. -/
def diskPass (env : Env) (x : Exec) : Exec :=
  (x.engine.disksNeedingRotation 0).foldl (rotateDisk env) x

/-! ## One execution -/

/-- The start of an execution. -/
def Engine.begin (s : Engine) : Exec := ⟨s, ⟨0, 0, 0, []⟩⟩

@[simp] theorem Engine.begin_engine (s : Engine) : s.begin.engine = s := rfl

/-- Source: `run_retention` (`server/service/retention_engine.py:69`). -/
def runRetention (s : Engine) (env : Env) : Exec :=
  diskPass env (capacityPass env (daysPass env s.begin))

/-- The tables an execution leaves. -/
def Engine.retain (s : Engine) (env : Env) : Engine := (runRetention s env).engine

end AeroXProtect
