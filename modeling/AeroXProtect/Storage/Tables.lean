import AeroXProtect.Camera
import AeroXProtect.Lib.Drain

/-!
# Storage policies, recordings, segments and disks

The tables of the recording index and the queries the services run on them. A recording is a logical
interval that protects the footage under it (`Recordings.getProtectedIntervals`); a segment is one
recorded file. Rows are soft-deleted through `deletedAt`, except segments, which are removed.
Columns that no modelled query or service reads (codecs, resolutions, audit columns) are left out.
-/

open Lib

namespace AeroXProtect

/-! ## Storage policies -/

/-- What happens when a camera is over its byte limit. Source: `server/model/storage_policy.py:14`.
-/
inductive OverCapacity
  | deleteOldest | stopRecording | warnOnly
  deriving DecidableEq, Repr

inductive RecordMode
  | off | continuous
  deriving DecidableEq, Repr

inductive BalanceStrategy
  | leastUsed | perCamera | roundRobin
  deriving DecidableEq, Repr

/-- A row of `storage_policies`; `cameraId = none` is the global fallback. -/
structure StoragePolicy where
  id : Nat
  cameraId : Option Nat
  segmentSeconds : Int
  container : String
  recordMode : RecordMode
  balanceStrategy : BalanceStrategy
  pinnedDiskId : Option Nat
  retentionDays : Option Int
  retentionMaxBytes : Option Int
  overCapacityPolicy : OverCapacity
  cacheBufferSeconds : Int
  eventRetentionDays : Option Int
  deletedAt : Option Int
  deriving DecidableEq, Repr

abbrev StoragePolicies := Table StoragePolicy.id

namespace StoragePolicies

/-- Source: `StoragePolicy.get_global` (`server/model/storage_policy.py:36`). -/
def getGlobal (t : StoragePolicies) : Option StoragePolicy :=
  t.rows.find? fun p => p.cameraId.isNone && p.deletedAt.isNone

/-- Source: `StoragePolicy.get_raw_for_camera` (`server/model/storage_policy.py:46`). -/
def getRawForCamera (t : StoragePolicies) (cameraId : Nat) : Option StoragePolicy :=
  t.rows.find? fun p => decide (p.cameraId = some cameraId) && p.deletedAt.isNone

/-- The camera's policy, falling back to the global one. Source: `StoragePolicy.get_for_camera`
(`server/model/storage_policy.py:40`). -/
def getForCamera (t : StoragePolicies) (cameraId : Nat) : Option StoragePolicy :=
  (t.getRawForCamera cameraId).or t.getGlobal

end StoragePolicies

/-! ## Recordings -/

inductive RecordingReason
  | continuous | manual | event | schedule | edge
  deriving DecidableEq, Repr

/-- The retention class; `other` is a class a client wrote into the row by hand. -/
inductive RetentionClass
  | classDefault | classProtected | classEvent
  | other (name : String)
  deriving DecidableEq, Repr

/-- A row of `recordings`; `endTs = none` is a recording in progress. -/
structure Recording where
  id : Nat
  cameraId : Nat
  reason : RecordingReason
  retentionClass : RetentionClass
  startTs : Int
  endTs : Option Int
  note : Option String
  deletedAt : Option Int
  deriving DecidableEq, Repr

/-- Whether the class is one of `PROTECTED_CLASSES`. -/
def RetentionClass.isProtected : RetentionClass → Bool
  | .classProtected | .classEvent => true
  | .classDefault | .other _ => false

abbrev Recordings := Table Recording.id

namespace Recordings

/-- The intervals of the protected recordings of a camera, up to `now` for one in progress. Source:
`Recording.get_protected_intervals` (`server/model/recording.py:45`). -/
def getProtectedIntervals (t : Recordings) (cameraId : Nat) (now : Int) :
    List (Int × Int) :=
  (t.rows.filter fun r =>
    decide (r.cameraId = cameraId) && r.retentionClass.isProtected && r.deletedAt.isNone).map
    fun r => (r.startTs, r.endTs.getD now)

/-- Lock or unlock a recording. Source: `Recording.set_protected`
(`server/model/recording.py:72`). -/
def setProtected (t : Recordings) (id : Nat) (isProtected : Bool) : Recordings :=
  t.modify (fun r => decide (r.id = id)) fun r =>
    { r with retentionClass := if isProtected then .classProtected else .classDefault }

/-- Whether a row is a live recording of the camera and reason that overlaps the interval. -/
def overlapping (cameraId : Nat) (start stop : Int) (reason : RecordingReason)
    (r : Recording) : Bool :=
  decide (r.cameraId = cameraId) && decide (r.reason = reason) && r.deletedAt.isNone &&
    decide (r.startTs < stop) &&
    match r.endTs with
    | none => true
    | some e => decide (e > start)

/-- The earliest overlapping recording. Source: `Recording.find_overlapping`
(`server/model/recording.py:79`). -/
def findOverlapping (t : Recordings) (cameraId : Nat) (start stop : Int)
    (reason : RecordingReason) : Option Recording :=
  (orderBy Recording.startTs (t.rows.filter (overlapping cameraId start stop reason))).head?

/-- The row after `extend`. -/
def extended (start stop : Int) (r : Recording) : Recording :=
  { r with
    startTs := if start < r.startTs then start else r.startTs
    endTs :=
      match r.endTs with
      | none => some stop
      | some e => if stop > e then some stop else some e }

/-- Source: `Recording.extend` (`server/model/recording.py:86`). -/
def extend (t : Recordings) (id : Nat) (start stop : Int) : Recordings :=
  t.modify (fun r => decide (r.id = id)) (extended start stop)

/-- Source: `Recording.create` (`server/model/recording.py:95`). -/
def create (t : Recordings) (cameraId : Nat) (reason : RecordingReason)
    (retentionClass : RetentionClass) (startTs : Int) (endTs : Option Int)
    (note : Option String) : Recordings :=
  t.insert
    { id := t.freshKey, cameraId, reason, retentionClass, startTs, endTs, note, deletedAt := none }

end Recordings

/-- The recording covers the interval from `start` to `stop`. -/
def Recording.Covers (r : Recording) (start stop : Int) : Prop :=
  r.startTs ≤ start ∧ ∃ e, r.endTs = some e ∧ stop ≤ e

/-- An extended recording covers what it was extended to. -/
theorem Recording.covers_extended (r : Recording) (start stop : Int) :
    (Recordings.extended start stop r).Covers start stop := by
  unfold Recordings.extended Covers
  refine ⟨by simp only; split <;> omega, ?_⟩
  cases r.endTs with
  | none => exact ⟨stop, rfl, le_refl _⟩
  | some e =>
    simp only
    split
    · exact ⟨stop, rfl, le_refl _⟩
    · exact ⟨e, rfl, by omega⟩

/-- Extending a recording keeps what it covered. -/
theorem Recording.Covers.extended {r : Recording} {s e : Int} (h : r.Covers s e)
    (start stop : Int) : (Recordings.extended start stop r).Covers s e := by
  obtain ⟨h1, e', h2, h3⟩ := h
  unfold Recordings.extended Covers
  refine ⟨by simp only; split <;> omega, ?_⟩
  rw [h2]
  simp only
  split
  · exact ⟨stop, rfl, by omega⟩
  · exact ⟨e', rfl, h3⟩

/-! ## Segments -/

inductive StreamRole
  | main | sub
  deriving DecidableEq, Repr

/-- A row of `segments`: one recorded file. -/
structure Segment where
  id : Nat
  cameraId : Nat
  diskId : Nat
  relPath : String
  startTs : Int
  endTs : Int
  sizeBytes : Nat
  streamRole : StreamRole
  corrupt : Bool
  deriving DecidableEq, Repr

/-- `seg.size_bytes or 0`. -/
def Segment.size (seg : Segment) : Int := seg.sizeBytes

theorem Segment.size_nonneg (seg : Segment) : 0 ≤ seg.size := Int.natCast_nonneg _

abbrev Segments := Table Segment.id

namespace Segments

/-- The playable segments of a stream that overlap an interval, by start. Source:
`Segment.get_range` (`server/model/segment.py:49`). -/
def getRange (t : Segments) (cameraId : Nat) (start stop : Int)
    (streamRole : Option StreamRole) : List Segment :=
  orderBy Segment.startTs (t.rows.filter fun s =>
    decide (s.cameraId = cameraId) && !s.corrupt && decide (s.startTs < stop) &&
      decide (s.endTs > start) &&
      match streamRole with
      | none => true
      | some r => decide (s.streamRole = r))

/-- The segment at an instant: of those that contain it the one that starts last. Source:
`Segment.get_at` (`server/model/segment.py:64`). -/
def getAt (t : Segments) (cameraId : Nat) (ts : Int) : Option Segment :=
  (orderBy (fun s => -s.startTs) (t.rows.filter fun s =>
    decide (s.cameraId = cameraId) && decide (s.startTs ≤ ts) && decide (s.endTs > ts))).head?

/-- Source: `Segment.oldest_for_camera` (`server/model/segment.py:69`). -/
def oldestForCamera (t : Segments) (cameraId : Nat) (limit : Nat) : List Segment :=
  (orderBy Segment.startTs (t.rows.filter fun s => decide (s.cameraId = cameraId))).take limit

/-- The segments of a camera that ended before the cutoff, by start. -/
def before (t : Segments) (cameraId : Nat) (cutoff : Int) : List Segment :=
  orderBy Segment.startTs
    (t.rows.filter fun s => decide (s.cameraId = cameraId) && decide (s.endTs < cutoff))

/-- Source: `Segment.older_than` (`server/model/segment.py:73`). -/
def olderThan (t : Segments) (cameraId : Nat) (cutoff : Int) (limit : Nat) : List Segment :=
  (t.before cameraId cutoff).take limit

/-- The segments on a disk, by start. -/
def onDisk (t : Segments) (diskId : Nat) : List Segment :=
  orderBy Segment.startTs (t.rows.filter fun s => decide (s.diskId = diskId))

/-- Source: `Segment.oldest_on_disk` (`server/model/segment.py:78`). -/
def oldestOnDisk (t : Segments) (diskId : Nat) (limit : Nat) : List Segment :=
  (t.onDisk diskId).take limit

/-- Source: `Segment.total_size_for_camera` (`server/model/segment.py:82`). -/
def totalSizeForCamera (t : Segments) (cameraId : Nat) : Int :=
  total Segment.size (t.rows.filter fun s => decide (s.cameraId = cameraId))

end Segments

/-! ## Disks -/

inductive DiskRole
  | system | cache | record
  deriving DecidableEq, Repr

inductive DiskStatus
  | online | offline | readonly | error
  deriving DecidableEq, Repr

/-- A row of `disks`. -/
structure Disk where
  id : Nat
  name : String
  role : DiskRole
  enabled : Bool
  reservedFreeBytes : Int
  totalBytes : Int
  freeBytes : Int
  weight : Int
  status : DiskStatus
  lastSeenAt : Option Int
  deletedAt : Option Int
  deriving DecidableEq, Repr

abbrev Disks := Table Disk.id

/-- The condition of `Disk.get_writable` (`server/model/disk.py:64`). -/
def Disk.isWritable (roles : List DiskRole) (d : Disk) : Bool :=
  d.deletedAt.isNone && d.enabled && decide (d.status = .online) && decide (d.role ∈ roles)

def Disks.getWritable (t : Disks) (roles : List DiskRole) : List Disk :=
  t.rows.filter (Disk.isWritable roles)

end AeroXProtect
