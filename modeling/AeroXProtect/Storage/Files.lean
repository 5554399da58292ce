import AeroXProtect.Storage.Passes
import AeroXProtect.Storage.Policies
import AeroXProtect.Lib.Calendar
import AeroXProtect.Lib.Run
import Mathlib.Data.String.Basic

/-!
# The recorded files

The files on the disks beside the index of segments. `delete_segment` unlinks the file and then
removes the row, whatever the unlink answers; the scan of a camera's directory adds rows for the
settled files that have none. `sweepFiles` runs a pass of the retention engine with the files, and
`retainFiles_exec` says that the tables go through the passes of `runRetention`.

`delete_agrees_iff` says when a deletion leaves no file behind, when it frees what `free_space`
counts for it, when a scan leaves no settled file of its directory without a row, and that a run of
such deletions and scans leaves no recorded file without a row. A file counts as recorded
(`Archive.settled`) from the first scan on that finds it settled in its directory, whether it gets a
row there or not, and no longer once the recorder has written a file in its place.
-/

open Lib

namespace AeroXProtect

/-! ## File names -/

/-- `n` decimal digits at the front. -/
def digitsOf (n : Nat) (cs : List Char) : Option (List Char × List Char) :=
  if (cs.take n).length = n ∧ (cs.take n).all Char.isDigit then some (cs.take n, cs.drop n)
  else none

def numberOf (ds : List Char) : Nat := ds.foldl (fun n c => 10 * n + (c.toNat - '0'.toNat)) 0

/-- The date and the time in a name, when it matches from the front to the end. -/
def matchName (cs : List Char) : Option (List Char × List Char) := do
  guard (cs.take 4 = "seg-".toList)
  let (date, rest) ← digitsOf 8 (cs.drop 4)
  guard (rest.head? = some '-')
  let (time, ext) ← digitsOf 6 rest.tail
  guard (ext ∈ [".mp4".toList, ".ts".toList, ".mp4\n".toList, ".ts\n".toList])
  return (date, time)

/-- `_NAME_RE.search`: `seg-(\d{8})-(\d{6})\.(mp4|ts)$`. -/
def searchName (filename : String) : Option (List Char × List Char) :=
  filename.toList.tails.findSome? matchName

/-- Source: `parse_start_ts` (`server/service/segment_indexer.py:23`); the digits are read by
`strptime`, which refuses a date or a time of day that does not exist. -/
def parseStartTs (filename : String) : Option Int := do
  let (date, time) ← searchName filename
  let year := numberOf (date.take 4)
  let month := numberOf ((date.drop 4).take 2)
  let day := numberOf (date.drop 6)
  let hour := numberOf (time.take 2)
  let minute := numberOf ((time.drop 2).take 2)
  let second := numberOf (time.drop 4)
  guard (1 ≤ year ∧ 1 ≤ month ∧ month ≤ 12 ∧ 1 ≤ day ∧ day ≤ daysInMonth year month)
  guard (hour < 24 ∧ minute < 60 ∧ second < 60)
  return days (dayNumber year month day) + seconds (3600 * hour + 60 * minute + second)

example : parseStartTs "seg-20240301-000001.mp4" = some (seconds 1709251201) := by decide +kernel
example : parseStartTs "seg-20230229-000000.mp4" = none := by decide +kernel

/-! ## Files -/

/-- The path of a file below the mount path of its disk. -/
def relPathOf (cameraId : Nat) (subdir filename : String) : String :=
  if subdir = "" then toString cameraId ++ "/" ++ filename
  else toString cameraId ++ "/" ++ subdir ++ "/" ++ filename

/-- A file in the directory of a camera, or in a subdirectory of it. -/
structure StoredFile where
  diskId : Nat
  cameraId : Nat
  subdir : String
  filename : String
  sizeBytes : Nat
  mtime : Int
  deriving DecidableEq, Repr

/-- A disk and a path on it. -/
abbrev FileKey := Nat × String

def StoredFile.key (f : StoredFile) : FileKey :=
  (f.diskId, relPathOf f.cameraId f.subdir f.filename)

/-- `storage_manager.abs_path` of a row. -/
def Segment.fileKey (seg : Segment) : FileKey := (seg.diskId, seg.relPath)

abbrev Files := Table StoredFile.key

def StoredFile.size (f : StoredFile) : Int := f.sizeBytes

theorem StoredFile.size_nonneg (f : StoredFile) : 0 ≤ f.size := Int.natCast_nonneg _

/-- The bytes the files take. -/
def Files.bytes (t : Files) : Int := total StoredFile.size t.rows

/-- The index of segments and the files. -/
structure SegmentStore where
  segments : Segments
  files : Files

/-! ## Deleting a segment -/

/-- Source: `Disk.get_all` (`server/model/disk.py:60`), without its order. -/
def Disks.getAll (t : Disks) : List Disk := t.rows.filter fun d => d.deletedAt.isNone

/-- What a deletion meets: the disks of `disk_map`, and the rows for whose file `os.unlink` raises
an `OSError` other than `FileNotFoundError`. -/
structure Unlink where
  diskMap : Nat → Bool
  refuses : Segment → Bool

namespace SegmentStore

/-- Source: `delete_segment` (`server/service/retention_engine.py:28`). -/
def deleteSegment (u : Unlink) (r : SegmentStore) (seg : Segment) : SegmentStore where
  segments := r.segments.delete fun g => decide (g.id = seg.id)
  files :=
    if u.diskMap seg.diskId && !u.refuses seg then
      r.files.delete fun f => decide (f.key = seg.fileKey)
    else r.files

/-- The states in which a loop deletes its segments, with the segment it deletes there. -/
def deletions (u : Unlink) : SegmentStore → List Segment → List (SegmentStore × Segment)
  | _, [] => []
  | r, seg :: segs => (r, seg) :: deletions u (r.deleteSegment u seg) segs

/-- Every file under one of the keys has a row. -/
def Covers (r : SegmentStore) (keys : List FileKey) : Prop :=
  ∀ f ∈ r.files, f.key ∈ keys → ∃ g ∈ r.segments, g.fileKey = f.key

/-- The file of the row is there. -/
def HasFile (r : SegmentStore) (seg : Segment) : Prop := ∃ f ∈ r.files, f.key = seg.fileKey

/-- The condition: the disk is in the map and the unlink is not refused, or there is no file. -/
def UnlinksFile (u : Unlink) (r : SegmentStore) (seg : Segment) : Prop :=
  (u.diskMap seg.diskId = true ∧ u.refuses seg = false) ∨ ¬ r.HasFile seg

/-- The condition for the bytes: they are none, or the disk is in the map, the unlink is not
refused and the file is there, no smaller than the row says. -/
def FreesSize (u : Unlink) (r : SegmentStore) (seg : Segment) : Prop :=
  seg.sizeBytes = 0 ∨ u.diskMap seg.diskId = true ∧ u.refuses seg = false ∧
    ∃ f ∈ r.files, f.key = seg.fileKey ∧ seg.sizeBytes ≤ f.sizeBytes

end SegmentStore

/-! ## The passes with the files -/

/-- An execution of the engine with the files. -/
structure FileExec where
  exec : Exec
  files : Files

namespace FileExec

def recorded (x : FileExec) : SegmentStore := ⟨x.exec.engine.segments, x.files⟩

end FileExec

section
variable {α : Type}

/-- A step `f` of a pass that calls `delete_segment` on the segments `victims` selects. -/
def sweepFiles (u : Unlink) (f : Exec → α → Exec) (victims : Engine → α → List Segment)
    (x : FileExec) (a : α) : FileExec where
  exec := f x.exec a
  files := ((victims x.exec.engine a).foldl (SegmentStore.deleteSegment u) x.recorded).files

end

/-- What the deletions of an execution meet; `disk_map` is read when it begins. -/
def Engine.unlink (s : Engine) (refuses : Segment → Bool) : Unlink where
  diskMap := fun id => s.disks.getAll.any fun d => decide (d.id = id)
  refuses := refuses

/-- The days pass with the files. -/
def daysFiles (u : Unlink) (env : Env) (x : FileExec) : FileExec :=
  x.exec.engine.effectivePolicies.foldl
    (sweepFiles u (daysCamera env) fun s a => s.expired env a.1 a.2) x

/-- The capacity pass with the files. -/
def capacityFiles (u : Unlink) (env : Env) (x : FileExec) : FileExec :=
  x.exec.engine.effectivePolicies.foldl
    (sweepFiles u (capacityCamera env) fun s a => s.overflow env a.1 a.2) x

/-- The disk watchdog with the files. -/
def diskFiles (u : Unlink) (env : Env) (x : FileExec) : FileExec :=
  (x.exec.engine.disksNeedingRotation 0).foldl
    (sweepFiles u (rotateDisk env) fun s d => s.freeSpaceVictims env d (env.rotationTarget d)) x

/-- The execution with the files; `refuses` says for which rows the unlink is refused. Source:
`run_retention` (`server/service/retention_engine.py:69`). -/
def retainFiles (s : Engine) (files : Files) (env : Env) (refuses : Segment → Bool) : FileExec :=
  let u := s.unlink refuses
  diskFiles u env (capacityFiles u env (daysFiles u env ⟨s.begin, files⟩))

/-! ## Indexing a directory -/

/-- One call of the indexer: the directory, how it is read, and what the system answers.
`durationMs` is the duration `ffmpeg.probe` reports, 0 for none. -/
structure Scan where
  cameraId : Nat
  diskId : Nat
  container : String
  subdir : String
  streamRole : StreamRole
  includeNewest : Bool
  now : Int
  listable : Bool
  statFails : StoredFile → Bool
  durationMs : StoredFile → Int

/-- Source: `segment_ext` (`server/service/ffmpeg.py:127`). -/
def segmentExt (container : String) : String := if container = "mpegts" then "ts" else "mp4"

/-- Source: `Segment.exists_rel_path` (`server/model/segment.py:44`). -/
def Segments.existsRelPath (t : Segments) (cameraId : Nat) (relPath : String) : Bool :=
  t.rows.any fun g => decide (g.cameraId = cameraId) && decide (g.relPath = relPath)

namespace Scan

/-- The files of the directory with a name for a segment of the container, without an order. -/
def listing (c : Scan) (files : Files) : List StoredFile :=
  files.rows.filter fun f =>
    decide (f.diskId = c.diskId) && decide (f.cameraId = c.cameraId) &&
      decide (f.subdir = c.subdir) && f.filename.endsWith ("." ++ segmentExt c.container) &&
      (searchName f.filename).isSome

/-- The files of the directory that are looked at, by name: all but the newest, unless this is the
flush after the recorder has exited. -/
def candidates (c : Scan) (files : Files) : List StoredFile :=
  let listed := if c.listable then orderBy StoredFile.filename (c.listing files) else []
  if c.includeNewest then listed else listed.dropLast

/-- The row for a file. -/
def row (c : Scan) (segments : Segments) (f : StoredFile) (startTs : Int) : Segment where
  id := segments.freshKey
  cameraId := c.cameraId
  diskId := c.diskId
  relPath := relPathOf c.cameraId c.subdir f.filename
  startTs := startTs
  endTs := startTs + c.durationMs f * 1000
  sizeBytes := f.sizeBytes
  streamRole := c.streamRole
  corrupt := decide (f.sizeBytes = 0) || decide (c.durationMs f = 0)

/-- One turn of the loop, on the index and the number of rows inserted. -/
def indexFile (c : Scan) (x : Segments × Nat) (f : StoredFile) : Segments × Nat :=
  if x.1.existsRelPath c.cameraId (relPathOf c.cameraId c.subdir f.filename) then x
  else if c.statFails f then x
  else if !c.includeNewest && decide (f.mtime > c.now - seconds 3) then x
  else
    match parseStartTs f.filename with
    | none => x
    | some startTs =>
      let row := c.row x.1 f startTs
      (x.1.insert row, if row.corrupt then x.2 else x.2 + 1)

/-- Source: `index_camera_dir` (`server/service/segment_indexer.py:34`). -/
def indexCameraDir (c : Scan) (r : SegmentStore) : SegmentStore × Nat :=
  let x := (c.candidates r.files).foldl c.indexFile (r.segments, 0)
  (⟨x.1, r.files⟩, x.2)

/-- The recorder has left the file alone for long enough, or has exited. -/
def settles (c : Scan) (f : StoredFile) : Bool :=
  c.includeNewest || decide (f.mtime ≤ c.now - seconds 3)

/-- The files of the directory that have settled, whether the directory can be listed or not. -/
def settled (c : Scan) (files : Files) : List StoredFile :=
  ({ c with listable := true }.candidates files).filter c.settles

/-- The condition for a scan: a settled file has a row of its own; or the directory can be listed,
the file and its name can be read, and no row of the camera has its path. -/
def Takes (c : Scan) (r : SegmentStore) (f : StoredFile) : Prop :=
  (∃ g ∈ r.segments, g.fileKey = f.key) ∨
    c.listable = true ∧ c.statFails f = false ∧ (parseStartTs f.filename).isSome = true ∧
      r.segments.existsRelPath c.cameraId (relPathOf c.cameraId c.subdir f.filename) = false

instance (c : Scan) (r : SegmentStore) (f : StoredFile) : Decidable (c.Takes r f) :=
  inferInstanceAs (Decidable ((∃ g ∈ r.segments, g.fileKey = f.key) ∨ _))

end Scan

/-! ## Runs -/

/-- The tables, the files, and the recorded files: those that a scan has found settled. -/
structure Archive where
  engine : Engine
  files : Files
  settled : List FileKey

/-- What happens to the archive: an execution of the engine, a call of the indexer, the recorder
writing a file, and the other processes writing the other tables. -/
inductive ArchiveAct
  | retention (env : Env) (refuses : Segment → Bool)
  | scan (c : Scan)
  | record (f : StoredFile)
  | tables (e : Engine)

namespace Archive

def recorded (s : Archive) : SegmentStore := ⟨s.engine.segments, s.files⟩

/-- A file written in place of another one. -/
def write (files : Files) (f : StoredFile) : Files :=
  (files.delete fun g => decide (g.key = f.key)).insert f

def step (s : Archive) : ArchiveAct → Archive
  | .retention env refuses =>
    let x := retainFiles s.engine s.files env refuses
    { s with engine := x.exec.engine, files := x.files }
  | .scan c =>
    let segments := (c.indexCameraDir s.recorded).1.segments
    { s with
      engine := { s.engine with segments }
      settled := s.settled ++ (c.settled s.files).map StoredFile.key }
  | .record f =>
    { s with files := write s.files f, settled := s.settled.filter fun k => decide (k ≠ f.key) }
  | .tables e => { s with engine := { e with segments := s.engine.segments } }

/-- Every recorded file that is on a disk has a row. -/
def Agrees (s : Archive) : Prop := s.recorded.Covers s.settled

/-- The condition of a run: every row an execution of the engine removes is one whose file the
deletion unlinks, or that has no file, and a scan takes every settled file of its directory. -/
def Clean (s : Archive) : ArchiveAct → Prop
  | .retention env refuses => ∀ g ∈ s.engine.segments, g ∉ (s.engine.retain env).segments →
      SegmentStore.UnlinksFile (s.engine.unlink refuses) s.recorded g
  | .scan c => ∀ f ∈ c.settled s.files, c.Takes s.recorded f
  | .record _ | .tables _ => True

/-- The archive before a run: the files of the rows count as recorded. -/
def start (engine : Engine) (files : Files) : Archive :=
  ⟨engine, files, engine.segments.rows.map Segment.fileKey⟩

end Archive

/-! ## What a deletion leaves -/

namespace SegmentStore

section
variable {u : Unlink} {r r' : SegmentStore} {seg : Segment} {segs : List Segment}
  {keys : List FileKey}

theorem mem_deleteSegment_files {f : StoredFile} :
    f ∈ (r.deleteSegment u seg).files ↔ f ∈ r.files ∧
      ¬ (u.diskMap seg.diskId = true ∧ u.refuses seg = false ∧ f.key = seg.fileKey) := by
  unfold deleteSegment
  split
  · next h =>
    rw [Bool.and_eq_true, Bool.not_eq_true'] at h
    rw [Table.mem_delete]
    simp [h.1, h.2]
  · next h =>
    rw [Bool.and_eq_true, Bool.not_eq_true'] at h
    exact (and_iff_left fun hno => h ⟨hno.1, hno.2.1⟩).symm

/-- A deletion leaves no file behind exactly when it unlinks the file or finds none. -/
theorem not_hasFile_deleteSegment_iff :
    ¬ (r.deleteSegment u seg).HasFile seg ↔ r.UnlinksFile u seg := by
  unfold HasFile UnlinksFile HasFile
  simp only [mem_deleteSegment_files]
  constructor
  · intro h
    by_contra hno
    rw [not_or, not_not] at hno
    obtain ⟨hmap, f, hf, hkey⟩ := hno
    exact h ⟨f, ⟨hf, fun hu => hmap ⟨hu.1, hu.2.1⟩⟩, hkey⟩
  · rintro (⟨hmap, href⟩ | hnone) ⟨f, ⟨hf, hno⟩, hkey⟩
    · exact hno ⟨hmap, href, hkey⟩
    · exact hnone ⟨f, hf, hkey⟩

/-- Where there are fewer files, a deletion that left none behind leaves none behind. -/
theorem UnlinksFile.mono (h : r.UnlinksFile u seg) (hsub : ∀ f ∈ r'.files, f ∈ r.files) :
    r'.UnlinksFile u seg :=
  h.imp id fun hnone hf => hnone (hf.imp fun _ hf => ⟨hsub _ hf.1, hf.2⟩)

/-- A deletion that leaves no file behind keeps the files under `keys` covered by rows. -/
theorem Covers.deleteSegment (h : r.Covers keys) (hu : r.UnlinksFile u seg)
    (hseg : ∀ g ∈ r.segments, g.id = seg.id → g = seg) :
    (r.deleteSegment u seg).Covers keys := by
  intro f hf hk
  obtain ⟨g, hg, hkey⟩ := h f (mem_deleteSegment_files.1 hf).1 hk
  refine ⟨g, Table.mem_delete.2 ⟨hg, decide_eq_false fun hid => ?_⟩, hkey⟩
  rw [hseg g hg hid] at hkey
  exact not_hasFile_deleteSegment_iff.2 hu ⟨f, hf, hkey.symm⟩

theorem mem_foldl_deleteSegment_files {f : StoredFile}
    (h : f ∈ (segs.foldl (deleteSegment u) r).files) : f ∈ r.files := by
  induction segs generalizing r with
  | nil => exact h
  | cons seg segs ih => exact (mem_deleteSegment_files.1 (ih h)).1

/-- So does a loop of such deletions, over rows of a table. -/
theorem Covers.foldl (h : r.Covers keys) (hu : ∀ g ∈ segs, r.UnlinksFile u g) {t : Segments}
    (hsegs : ∀ g ∈ segs, g ∈ t) (hr : ∀ g ∈ r.segments, g ∈ t) :
    (segs.foldl (SegmentStore.deleteSegment u) r).Covers keys := by
  induction segs generalizing r with
  | nil => exact h
  | cons seg segs ih =>
    have hseg : ∀ g ∈ r.segments, g.id = seg.id → g = seg := fun g hg hid =>
      Table.eq_of_key_eq (hr g hg) (hsegs seg (.head _)) hid
    refine ih (h.deleteSegment (hu seg (.head _)) hseg) (fun g hg => ?_)
      (fun g hg => hsegs g (.tail _ hg)) fun g hg => hr g (Table.mem_delete.1 hg).1
    exact (hu g (.tail _ hg)).mono fun f hf => (mem_deleteSegment_files.1 hf).1

/-- The rows a loop of deletions leaves are those it leaves in the tables of the engine. -/
theorem foldl_deleteSegment_segments {s : Engine} (h : r.segments = s.segments) :
    (segs.foldl (deleteSegment u) r).segments = (s.deleteSegments segs).segments := by
  induction segs generalizing r s with
  | nil => exact h
  | cons seg segs ih => exact ih (s := s.deleteSegment seg) (by rw [deleteSegment, h]; rfl)

end

end SegmentStore

/-! ## The passes -/

section
variable {α : Type} {u : Unlink} {f : Exec → α → Exec} {victims : Engine → α → List Segment}
  {x : FileExec} {l : List α} {keys : List FileKey}

/-- A step of a pass calls `delete_segment` on its victims, for the index and for the files. -/
theorem sweepFiles_recorded (h : IsSweep f victims) (a : α) :
    (sweepFiles u f victims x a).recorded =
      (victims x.exec.engine a).foldl (SegmentStore.deleteSegment u) x.recorded := by
  unfold sweepFiles FileExec.recorded
  dsimp only
  rw [h.segments, ← SegmentStore.foldl_deleteSegment_segments (u := u) (r := x.recorded) rfl]
  rfl

/-- The tables go through the pass as if there were no files. -/
theorem foldl_sweepFiles_exec : (l.foldl (sweepFiles u f victims) x).exec = l.foldl f x.exec := by
  induction l generalizing x with
  | nil => rfl
  | cons a l ih => rw [List.foldl_cons, ih]; rfl

theorem mem_foldl_sweepFiles {g : StoredFile} (h : g ∈ (l.foldl (sweepFiles u f victims) x).files) :
    g ∈ x.files := by
  induction l generalizing x with
  | nil => exact h
  | cons a l ih => exact SegmentStore.mem_foldl_deleteSegment_files (ih h)

/-- A pass whose deletions leave no file behind keeps the files under `keys` covered. -/
theorem SegmentStore.Covers.sweep (h : IsSweep f victims) (hcov : x.recorded.Covers keys)
    (hu : ∀ g ∈ x.exec.engine.segments, g ∉ (l.foldl f x.exec).engine.segments →
      x.recorded.UnlinksFile u g) :
    (l.foldl (sweepFiles u f victims) x).recorded.Covers keys := by
  induction l generalizing x with
  | nil => exact hcov
  | cons a l ih =>
    have hsub : ∀ g ∈ (f x.exec a).engine.segments, g ∈ x.exec.engine.segments := fun g hg =>
      (h.sublist x.exec a).subset hg
    refine ih (x := sweepFiles u f victims x a) ?_ fun g hg hno => ?_
    · rw [sweepFiles_recorded h]
      refine hcov.foldl (fun g hg => hu g (h.sub _ _ g hg) fun hlast => ?_) (h.sub _ _)
        fun g hg => hg
      have hstep := (h.foldl_sublist (x := f x.exec a) l).subset hlast
      rw [Table.mem_rows, h.segments, Engine.mem_deleteSegments (h.sub _ _)] at hstep
      exact hstep.2 hg
    · refine (hu g (hsub g hg) hno).mono fun f' hf' => ?_
      exact SegmentStore.mem_foldl_deleteSegment_files hf'

end

section
variable {u : Unlink} {env : Env} {x : FileExec} {keys : List FileKey}

@[simp] theorem daysFiles_exec : (daysFiles u env x).exec = daysPass env x.exec :=
  foldl_sweepFiles_exec

@[simp] theorem capacityFiles_exec : (capacityFiles u env x).exec = capacityPass env x.exec :=
  foldl_sweepFiles_exec

@[simp] theorem diskFiles_exec : (diskFiles u env x).exec = diskPass env x.exec :=
  foldl_sweepFiles_exec

theorem SegmentStore.Covers.daysFiles (h : x.recorded.Covers keys)
    (hu : ∀ g ∈ x.exec.engine.segments, g ∉ (daysPass env x.exec).engine.segments →
      x.recorded.UnlinksFile u g) : (daysFiles u env x).recorded.Covers keys :=
  SegmentStore.Covers.sweep isCameraSweep_days.toIsSweep h hu

theorem SegmentStore.Covers.capacityFiles (h : x.recorded.Covers keys)
    (hu : ∀ g ∈ x.exec.engine.segments, g ∉ (capacityPass env x.exec).engine.segments →
      x.recorded.UnlinksFile u g) : (capacityFiles u env x).recorded.Covers keys :=
  SegmentStore.Covers.sweep isCameraSweep_capacity.toIsSweep h hu

theorem SegmentStore.Covers.diskFiles (h : x.recorded.Covers keys)
    (hu : ∀ g ∈ x.exec.engine.segments, g ∉ (diskPass env x.exec).engine.segments →
      x.recorded.UnlinksFile u g) : (diskFiles u env x).recorded.Covers keys :=
  SegmentStore.Covers.sweep isSweep_disk h hu

end

/-- The tables go through an execution as if there were no files. -/
theorem retainFiles_exec (s : Engine) (files : Files) (env : Env) (refuses : Segment → Bool) :
    (retainFiles s files env refuses).exec = runRetention s env := by
  rw [retainFiles, diskFiles_exec, capacityFiles_exec, daysFiles_exec, runRetention]

/-- An execution whose deletions leave no file behind keeps the files under `keys` covered. -/
theorem SegmentStore.Covers.retainFiles {s : Engine} {files : Files} {env : Env}
    {refuses : Segment → Bool} {keys : List FileKey}
    (hcov : SegmentStore.Covers ⟨s.segments, files⟩ keys)
    (hu : ∀ g ∈ s.segments, g ∉ (s.retain env).segments →
      SegmentStore.UnlinksFile (s.unlink refuses) ⟨s.segments, files⟩ g) :
    (AeroXProtect.retainFiles s files env refuses).recorded.Covers keys := by
  -- the rows and the files only get fewer from pass to pass
  have hdays : ∀ g ∈ (daysPass env s.begin).engine.segments, g ∈ s.segments := fun g hg =>
    (isCameraSweep_days.foldl_sublist s.effectivePolicies).subset hg
  have hcap : ∀ g ∈ (capacityPass env (daysPass env s.begin)).engine.segments,
      g ∈ (daysPass env s.begin).engine.segments := fun g hg =>
    (isCameraSweep_capacity.foldl_sublist _).subset hg
  have hdisk : ∀ g ∈ (s.retain env).segments,
      g ∈ (capacityPass env (daysPass env s.begin)).engine.segments := fun g hg =>
    (isSweep_disk.foldl_sublist _).subset hg
  have hafterDays : (AeroXProtect.daysFiles (s.unlink refuses) env
      ⟨s.begin, files⟩).recorded.Covers keys := by
    have hbegin : SegmentStore.Covers (FileExec.recorded ⟨s.begin, files⟩) keys := hcov
    exact hbegin.daysFiles fun g hg hno => hu g hg fun hlast => hno (hcap g (hdisk g hlast))
  have hafterCap : (AeroXProtect.capacityFiles (s.unlink refuses) env
      (AeroXProtect.daysFiles (s.unlink refuses) env ⟨s.begin, files⟩)).recorded.Covers keys := by
    refine hafterDays.capacityFiles fun g hg hno => ?_
    rw [daysFiles_exec] at hg hno
    refine (hu g (hdays g hg) fun hlast => hno (hdisk g hlast)).mono fun f hf => ?_
    exact mem_foldl_sweepFiles hf
  refine hafterCap.diskFiles fun g hg hno => ?_
  rw [capacityFiles_exec, daysFiles_exec] at hg hno
  refine (hu g (hdays g (hcap g hg)) hno).mono fun f hf => ?_
  exact mem_foldl_sweepFiles (mem_foldl_sweepFiles hf)

/-! ## Runs -/

namespace Scan

section
variable {c : Scan} {r : SegmentStore} {files : Files} {x : Segments × Nat} {f : StoredFile}
  {g : Segment} {l : List StoredFile}

/-- What the indexer does with a file: nothing, or it inserts the row. -/
theorem indexFile_cases (c : Scan) (x : Segments × Nat) (f : StoredFile) :
    (c.indexFile x f).1 = x.1 ∨
    ∃ startTs, parseStartTs f.filename = some startTs ∧
      x.1.existsRelPath c.cameraId (relPathOf c.cameraId c.subdir f.filename) = false ∧
      c.statFails f = false ∧ (c.indexFile x f).1 = x.1.insert (c.row x.1 f startTs) := by
  unfold indexFile
  split
  · exact .inl rfl
  · next hno =>
    split
    · exact .inl rfl
    · next hstat =>
      split
      · exact .inl rfl
      · split
        · exact .inl rfl
        · next startTs hts =>
          exact .inr ⟨startTs, hts, Bool.eq_false_iff.2 hno, Bool.eq_false_iff.2 hstat, rfl⟩

theorem mem_insert_row (c : Scan) (t : Segments) (f : StoredFile) (startTs : Int) :
    g ∈ t.insert (c.row t f startTs) ↔ g ∈ t ∨ g = c.row t f startTs :=
  Table.mem_insert fun x hx => Table.ne_freshKey t x hx

/-- The indexer removes no row. -/
theorem mem_indexFile (hg : g ∈ x.1) : g ∈ (c.indexFile x f).1 := by
  rcases indexFile_cases c x f with heq | ⟨startTs, -, -, -, heq⟩ <;> rw [heq]
  · exact hg
  · exact (mem_insert_row ..).2 (.inl hg)

theorem mem_foldl_indexFile (hg : g ∈ x.1) : g ∈ (l.foldl c.indexFile x).1 := by
  induction l generalizing x with
  | nil => exact hg
  | cons f l ih => exact ih (mem_indexFile hg)

/-- What the rows of the indexer keep is kept by a scan. -/
theorem indexCameraDir_induct {P : Segments → Prop} (c : Scan) (r : SegmentStore)
    (h : P r.segments) (hrow : ∀ t f startTs, P t → P (t.insert (c.row t f startTs))) :
    P (c.indexCameraDir r).1.segments := by
  have hfold : ∀ (l : List StoredFile) (x : Segments × Nat), P x.1 →
      P (l.foldl c.indexFile x).1 := by
    intro l
    induction l with
    | nil => exact fun x hx => hx
    | cons f l ih =>
      intro x hx
      refine ih _ ?_
      rcases indexFile_cases c x f with heq | ⟨startTs, -, -, -, heq⟩ <;> rw [heq]
      · exact hx
      · exact hrow x.1 f startTs hx
  exact hfold _ _ h

theorem mem_indexCameraDir (c : Scan) (r : SegmentStore) (hg : g ∈ r.segments) :
    g ∈ (c.indexCameraDir r).1.segments :=
  mem_foldl_indexFile hg

/-- A settled file that can be read and whose path is on no row gets its row. -/
theorem indexFile_eq_insert (hsettles : c.settles f = true) (hstat : c.statFails f = false)
    {startTs : Int} (hts : parseStartTs f.filename = some startTs)
    (hno : x.1.existsRelPath c.cameraId (relPathOf c.cameraId c.subdir f.filename) = false) :
    (c.indexFile x f).1 = x.1.insert (c.row x.1 f startTs) := by
  have hnew : (!c.includeNewest && decide (f.mtime > c.now - seconds 3)) = false := by
    unfold settles at hsettles
    cases hinclude : c.includeNewest with
    | true => rfl
    | false =>
      rw [hinclude, Bool.false_or, decide_eq_true_eq] at hsettles
      simpa using hsettles
  unfold indexFile
  rw [hno, hstat, hnew, hts]
  rfl

/-- No row of the camera has the path of a file if none had it before and no other file of the same
path was indexed. -/
theorem existsRelPath_indexFile {p : String}
    (hno : x.1.existsRelPath c.cameraId p = false)
    (hne : relPathOf c.cameraId c.subdir f.filename ≠ p) :
    (c.indexFile x f).1.existsRelPath c.cameraId p = false := by
  rcases indexFile_cases c x f with heq | ⟨startTs, -, -, -, heq⟩ <;> rw [heq]
  · exact hno
  · refine List.any_eq_false.2 fun g hg => ?_
    rcases (mem_insert_row ..).1 hg with hg | rfl
    · exact List.any_eq_false.1 hno g hg
    · have hpath : (c.row x.1 f startTs).relPath ≠ p := hne
      simp [hpath]

/-- The file gets its row in its turn. -/
theorem exists_row_foldl (hf : f ∈ l)
    (hkey : f.key = (c.diskId, relPathOf c.cameraId c.subdir f.filename))
    (hpaths : ∀ f' ∈ l, relPathOf c.cameraId c.subdir f'.filename =
      relPathOf c.cameraId c.subdir f.filename → f' = f)
    (hsettles : c.settles f = true) (hstat : c.statFails f = false)
    (hts : (parseStartTs f.filename).isSome = true)
    (hno : x.1.existsRelPath c.cameraId (relPathOf c.cameraId c.subdir f.filename) = false) :
    ∃ g ∈ (l.foldl c.indexFile x).1, g.fileKey = f.key := by
  induction l generalizing x with
  | nil => cases hf
  | cons f' l ih =>
    by_cases hpath : relPathOf c.cameraId c.subdir f'.filename =
        relPathOf c.cameraId c.subdir f.filename
    · obtain rfl := hpaths f' (.head _) hpath
      obtain ⟨startTs, hts⟩ := Option.isSome_iff_exists.1 hts
      have hrow : c.row x.1 f' startTs ∈ (c.indexFile x f').1 := by
        rw [indexFile_eq_insert hsettles hstat hts hno]
        exact (mem_insert_row ..).2 (.inr rfl)
      exact ⟨c.row x.1 f' startTs, mem_foldl_indexFile (x := c.indexFile x f') hrow, hkey.symm⟩
    · have hmem : f ∈ l := (List.mem_cons.1 hf).resolve_left fun heq => hpath (heq ▸ rfl)
      exact ih hmem (fun f₁ hf₁ => hpaths f₁ (.tail _ hf₁)) (existsRelPath_indexFile hno hpath)

/-- A row after some files was there before, or is that of one of the files. -/
theorem of_mem_foldl_indexFile (hg : g ∈ (l.foldl c.indexFile x).1) : g ∈ x.1 ∨
    ∃ f ∈ l, g.fileKey = (c.diskId, relPathOf c.cameraId c.subdir f.filename) ∧
      c.statFails f = false ∧ (parseStartTs f.filename).isSome = true ∧
      x.1.existsRelPath c.cameraId (relPathOf c.cameraId c.subdir f.filename) = false := by
  induction l generalizing x with
  | nil => exact .inl hg
  | cons f' l ih =>
    rcases ih hg with hg | ⟨f, hf, hkey, hstat, hts, hno⟩
    · rcases indexFile_cases c x f' with heq | ⟨startTs, hts, hno, hstat, heq⟩ <;> rw [heq] at hg
      · exact .inl hg
      · refine ((mem_insert_row ..).1 hg).imp_right fun hrow => ⟨f', .head _, ?_, hstat,
          by rw [hts]; rfl, hno⟩
        rw [hrow]
        rfl
    · refine .inr ⟨f, .tail _ hf, hkey, hstat, hts, List.any_eq_false.2 fun y hy => ?_⟩
      exact List.any_eq_false.1 hno y (mem_indexFile hy)

/-- What a scan looks at. -/
structure Listed (c : Scan) (files : Files) (f : StoredFile) : Prop where
  mem : f ∈ files
  disk : f.diskId = c.diskId
  camera : f.cameraId = c.cameraId
  subdir : f.subdir = c.subdir
  ext : f.filename.endsWith ("." ++ segmentExt c.container) = true
  name : (searchName f.filename).isSome = true

theorem mem_listing : f ∈ c.listing files ↔ c.Listed files f := by
  simp only [listing, List.mem_filter, Bool.and_eq_true, decide_eq_true_eq, Table.mem_rows]
  constructor
  · rintro ⟨h, ⟨⟨⟨h₁, h₂⟩, h₃⟩, h₄⟩, h₅⟩
    exact ⟨h, h₁, h₂, h₃, h₄, h₅⟩
  · intro h
    exact ⟨h.mem, ⟨⟨⟨h.disk, h.camera⟩, h.subdir⟩, h.ext⟩, h.name⟩

theorem candidates_eq (c : Scan) (files : Files) : c.candidates files =
    if c.includeNewest then if c.listable then orderBy StoredFile.filename (c.listing files) else []
    else (if c.listable then orderBy StoredFile.filename (c.listing files) else []).dropLast := rfl

theorem listed_of_mem_candidates (h : f ∈ c.candidates files) : c.Listed files f := by
  have hmem : f ∈ if c.listable then orderBy StoredFile.filename (c.listing files) else [] := by
    rw [candidates_eq] at h
    split at h
    · exact h
    · exact (List.dropLast_sublist _).subset h
  split at hmem
  · exact mem_listing.1 (mem_orderBy.1 hmem)
  · cases hmem

/-- The key of a file that is looked at. -/
theorem Listed.key (h : c.Listed files f) :
    f.key = (c.diskId, relPathOf c.cameraId c.subdir f.filename) := by
  rw [StoredFile.key, h.disk, h.camera, h.subdir]

/-- **A scan leaves no settled file of its directory without a row exactly if it takes them.** -/
theorem covers_iff (c : Scan) (r : SegmentStore) :
    (∀ f ∈ c.settled r.files, ∃ g ∈ (c.indexCameraDir r).1.segments, g.fileKey = f.key) ↔
      ∀ f ∈ c.settled r.files, c.Takes r f := by
  refine forall₂_congr fun f hf => ?_
  obtain ⟨hcand, hsettles⟩ := List.mem_filter.1 hf
  have hlisted := listed_of_mem_candidates hcand
  have hmem : f ∈ r.files := hlisted.mem
  have hkey := hlisted.key
  have heq : ∀ f' ∈ c.candidates r.files, relPathOf c.cameraId c.subdir f'.filename =
      relPathOf c.cameraId c.subdir f.filename → f' = f := by
    intro f' hf' hpath
    have hlisted' := listed_of_mem_candidates hf'
    exact Table.eq_of_key_eq hlisted'.mem hmem (by rw [hlisted'.key, hkey, hpath])
  constructor
  · rintro ⟨g, hg, hgkey⟩
    rcases of_mem_foldl_indexFile hg with hg | ⟨f', hf', hkey', hstat, hts, hno⟩
    · exact .inl ⟨g, hg, hgkey⟩
    · have hpath : relPathOf c.cameraId c.subdir f'.filename =
          relPathOf c.cameraId c.subdir f.filename :=
        congrArg Prod.snd (hkey'.symm.trans (hgkey.trans hkey))
      obtain rfl := heq f' hf' hpath
      refine .inr ⟨?_, hstat, hts, hno⟩
      by_contra hlist
      unfold candidates at hf'
      simp [hlist] at hf'
  · rintro (⟨g, hg, hgkey⟩ | ⟨hlist, hstat, hts, hno⟩)
    · exact ⟨g, c.mem_indexCameraDir r hg, hgkey⟩
    · have hself : { c with listable := true } = c := by rw [← hlist]
      rw [hself] at hcand
      exact exists_row_foldl hcand hkey heq hsettles hstat hts hno

end

end Scan

namespace Archive

theorem agrees_start (engine : Engine) (files : Files) : (start engine files).Agrees := by
  intro f _ hk
  obtain ⟨g, hg, hkey⟩ := List.mem_map.1 hk
  exact ⟨g, hg, hkey⟩

/-- One step under the condition keeps the agreement. -/
theorem Agrees.step {s : Archive} (h : s.Agrees) (a : ArchiveAct) (ha : s.Clean a) :
    (s.step a).Agrees := by
  cases a with
  | retention env refuses =>
    have hcov : SegmentStore.Covers ⟨s.engine.segments, s.files⟩ s.settled := h
    have hret : (retainFiles s.engine s.files env refuses).recorded.Covers s.settled :=
      hcov.retainFiles ha
    simpa only [Agrees, Archive.step, Archive.recorded, FileExec.recorded] using hret
  | scan c =>
    intro f hf hk
    rcases List.mem_append.1 hk with hk | hk
    · obtain ⟨g, hg, hkey⟩ := h f hf hk
      exact ⟨g, c.mem_indexCameraDir _ hg, hkey⟩
    · obtain ⟨f', hf', hkey'⟩ := List.mem_map.1 hk
      obtain ⟨g, hg, hkey⟩ := (c.covers_iff s.recorded).2 ha f' hf'
      exact ⟨g, hg, hkey.trans hkey'⟩
  | record f' =>
    intro f hf hk
    obtain ⟨hk, hne⟩ := List.mem_filter.1 hk
    rcases Table.mem_or_eq_of_mem_insert hf with hf | rfl
    · exact h f (Table.mem_delete.1 hf).1 hk
    · simp at hne
  | tables e => exact h

end Archive

/-! ## The bytes -/

/-- The bytes after the file of a key is gone. -/
theorem Files.bytes_delete (t : Files) (k : FileKey) :
    Files.bytes (t.delete fun f => decide (f.key = k)) =
      t.bytes - ((t.get? k).map StoredFile.size).getD 0 := by
  have hrows : ∀ l : List StoredFile, (l.map StoredFile.key).Nodup →
      total StoredFile.size (l.filter fun f => !decide (f.key = k)) =
        total StoredFile.size l -
          ((l.find? fun f => decide (f.key = k)).map StoredFile.size).getD 0 := by
    intro l
    induction l with
    | nil => intro _; rfl
    | cons f l ih =>
      intro hnd
      rw [List.map_cons, List.nodup_cons] at hnd
      by_cases hf : f.key = k
      · have hrest : l.filter (fun f => !decide (f.key = k)) = l := by
          refine List.filter_eq_self.2 fun g hg => ?_
          have : g.key ≠ k := fun hgk => hnd.1 (List.mem_map.2 ⟨g, hg, hgk.trans hf.symm⟩)
          simpa using this
        simp [hf, hrest]
      · have := ih hnd.2
        simp only [List.filter_cons, List.find?_cons, hf, decide_false, Bool.not_false, if_true,
          total_cons]
        omega
  exact hrows t.rows t.nodup

/-- A deletion frees what its row says exactly under `FreesSize`. -/
theorem SegmentStore.size_le_freed_iff (u : Unlink) (r : SegmentStore) (seg : Segment) :
    seg.size ≤ r.files.bytes - (r.deleteSegment u seg).files.bytes ↔ r.FreesSize u seg := by
  unfold Segment.size FreesSize deleteSegment
  dsimp only
  cases hu : u.diskMap seg.diskId && !u.refuses seg with
  | false =>
    rw [Bool.and_eq_false_iff, Bool.not_eq_false'] at hu
    have hno : ¬ (u.diskMap seg.diskId = true ∧ u.refuses seg = false) := by grind
    simp only [Bool.false_eq_true, if_false]
    constructor
    · intro h
      exact .inl (by omega)
    · rintro (h | h)
      · omega
      · exact absurd ⟨h.1, h.2.1⟩ hno
  | true =>
    rw [Bool.and_eq_true, Bool.not_eq_true'] at hu
    simp only [if_true, Files.bytes_delete, hu.1, hu.2, true_and]
    cases hg : r.files.get? seg.fileKey with
    | none =>
      have hnone : ¬ ∃ f ∈ r.files, f.key = seg.fileKey ∧ seg.sizeBytes ≤ f.sizeBytes := by
        rintro ⟨f, hf, hk, -⟩
        exact Table.get?_eq_none.1 hg f hf hk
      rw [or_iff_left hnone, Option.map_none, Option.getD_none]
      omega
    | some f =>
      obtain ⟨hf, hk⟩ := Table.get?_eq_some.1 hg
      have hsome : (∃ f ∈ r.files, f.key = seg.fileKey ∧ seg.sizeBytes ≤ f.sizeBytes) ↔
          seg.sizeBytes ≤ f.sizeBytes := by
        constructor
        · rintro ⟨f', hf', hk', hle⟩
          rwa [Table.eq_of_key_eq hf hf' (hk.trans hk'.symm)]
        · exact fun hle => ⟨f, hf, hk, hle⟩
      rw [hsome, Option.map_some, Option.getD_some, StoredFile.size]
      omega

/-- A loop of deletions each of which frees what its row says frees what it counts. -/
theorem SegmentStore.total_le_freed (u : Unlink) (r : SegmentStore) (segs : List Segment)
    (h : ∀ d ∈ r.deletions u segs, d.1.FreesSize u d.2) :
    total Segment.size segs ≤ r.files.bytes - (segs.foldl (deleteSegment u) r).files.bytes := by
  induction segs generalizing r with
  | nil => simp
  | cons seg segs ih =>
    have hfirst := (r.size_le_freed_iff u seg).2 (h _ (.head _))
    have hrest := ih (r.deleteSegment u seg) fun d hd => h d (.tail _ hd)
    rw [total_cons, List.foldl_cons]
    omega

/-! ## The index and the files -/

/-- The free space `free_space` believes a disk to have once its loop ends. -/
def Engine.estimatedFree (s : Engine) (env : Env) (d : Disk) (targetFreeBytes : Int) : Int :=
  d.freeBytes + total Segment.size (s.freeSpaceVictims env d targetFreeBytes)

/-- **A deletion always removes the row: it leaves no file behind exactly under `UnlinksFile`, and
frees what `free_space` counts for it exactly under `FreesSize`.** A `free_space` whose deletions
all do counts nothing that was not freed; a scan leaves no settled file of its directory without a
row exactly if it takes them all; and a run under the conditions leaves no recorded file without a
row. -/
theorem delete_agrees_iff (u : Unlink) (engine : Engine) (files : Files) :
    (∀ (r : SegmentStore) (seg : Segment),
      (∀ g ∈ (r.deleteSegment u seg).segments, g.id ≠ seg.id) ∧
      (¬ (r.deleteSegment u seg).HasFile seg ↔ r.UnlinksFile u seg) ∧
      (seg.size ≤ r.files.bytes - (r.deleteSegment u seg).files.bytes ↔ r.FreesSize u seg)) ∧
    (∀ (env : Env) (d : Disk) (target : Int),
      let victims := engine.freeSpaceVictims env d target
      let r : SegmentStore := ⟨engine.segments, files⟩
      (∀ x ∈ r.deletions u victims, x.1.FreesSize u x.2) →
        engine.estimatedFree env d target - d.freeBytes ≤
          files.bytes - (victims.foldl (SegmentStore.deleteSegment u) r).files.bytes) ∧
    (∀ (c : Scan) (r : SegmentStore),
      (∀ f ∈ c.settled r.files, ∃ g ∈ (c.indexCameraDir r).1.segments, g.fileKey = f.key) ↔
        ∀ f ∈ c.settled r.files, c.Takes r f) ∧
    ∀ as t, Run Archive.step Archive.Clean (Archive.start engine files) as t → t.Agrees := by
  refine ⟨fun r seg => ⟨fun g hg hid => ?_, SegmentStore.not_hasFile_deleteSegment_iff,
    r.size_le_freed_iff u seg⟩, fun env d target => ?_, Scan.covers_iff, fun as t hrun => ?_⟩
  · have hgone := (Table.mem_delete.1 hg).2
    simp [hid] at hgone
  · intro victims r hfree
    have hfreed : total Segment.size (engine.freeSpaceVictims env d target) ≤
        files.bytes - (victims.foldl (SegmentStore.deleteSegment u) r).files.bytes :=
      r.total_le_freed u victims hfree
    rw [Engine.estimatedFree]
    omega
  · exact hrun.invariant (fun s a hs ha => hs.step a ha) (Archive.agrees_start engine files)

/-! ## A file that cannot be unlinked -/

namespace FilesFixture

def policy : StoragePolicy :=
  { StoragePolicy.new 401 none with retentionDays := some 1, recordMode := .continuous }

def disk : Disk where
  id := 44
  name := "bay-4"
  role := .record
  enabled := true
  reservedFreeBytes := 10
  totalBytes := 1000
  freeBytes := 20
  weight := 100
  status := .online
  lastSeenAt := none
  deletedAt := none

def file : StoredFile := ⟨44, 41, "", "seg-20240301-000000.mp4", 100, 0⟩

def footage : Segment :=
  ⟨402, 41, 44, "41/seg-20240301-000000.mp4", seconds 1709251200, seconds 1709251210, 100, .main,
    false⟩

def engine : Engine where
  cameras := ⟨[⟨41, "cam-41", "Yard", true, none⟩], List.nodup_singleton _⟩
  policies := ⟨[policy], List.nodup_singleton _⟩
  recordings := ∅
  segments := ⟨[footage], List.nodup_singleton _⟩
  disks := ⟨[disk], List.nodup_singleton _⟩
  reconciled := []

def files : Files := ⟨[file], List.nodup_singleton _⟩

/-- Ten days after the recording. -/
def env : Env := ⟨seconds 1709251200 + days 10, 50, fun _ _ => none⟩

/-- An execution in which the disk takes writes, or takes none (`EROFS`). -/
def retention (refused : Bool) : ArchiveAct := .retention env fun _ => refused

def archive : Archive := Archive.start engine files

/-- A segment of ten days later. -/
def next : StoredFile := { file with filename := "seg-20240311-000000.mp4" }

/-- A segment of the same second on another disk. -/
def twin : StoredFile := { file with diskId := 45 }

/-- The flush of the directory on that disk. -/
def flush : Scan where
  cameraId := 41
  diskId := 45
  container := "mp4"
  subdir := ""
  streamRole := .main
  includeNewest := true
  now := seconds 1709251300
  listable := true
  statFails := fun _ => false
  durationMs := fun _ => 10000

def twins : Archive := Archive.start engine ⟨[file, twin], by decide⟩

end FilesFixture

section
open FilesFixture

/-- On a disk that takes no writes the row goes and the file stays, without a row, and a loop of
`free_space` counts its hundred bytes. And a file whose path has a row for another disk gets
none. -/
theorem unlinked_not :
    (archive.step (retention true)).engine.segments.rows = [] ∧
    file ∈ (archive.step (retention true)).files ∧
    ¬ (archive.step (retention true)).Agrees ∧
    engine.estimatedFree env disk 60 - disk.freeBytes = 100 ∧
    files.bytes - (((engine.freeSpaceVictims env disk 60).foldl (SegmentStore.deleteSegment
      (engine.unlink fun _ => true)) archive.recorded).files.bytes) = 0 ∧
    ¬ (twins.step (.scan flush)).Agrees := by
  have hrows : (archive.step (retention true)).engine.segments.rows = [] := by decide +kernel
  have hfile : file ∈ (archive.step (retention true)).files := by decide +kernel
  refine ⟨hrows, hfile, fun h => ?_, by decide +kernel, by decide +kernel, fun h => ?_⟩
  · obtain ⟨g, hg, -⟩ := h file hfile (by decide +kernel)
    have hmem : g ∈ (archive.step (retention true)).engine.segments.rows := hg
    rw [hrows] at hmem
    cases hmem
  · obtain ⟨g, hg, hkey⟩ := h twin (.tail _ (.head _)) (by decide +kernel)
    have hsame : (twins.step (.scan flush)).engine.segments.rows = [footage] := by decide +kernel
    have hmem : g ∈ (twins.step (.scan flush)).engine.segments.rows := hg
    rw [hsame] at hmem
    obtain rfl := List.mem_singleton.1 hmem
    revert hkey
    decide

/-- A file is recorded and taken up by a scan, and an execution on a disk that takes writes removes
the old one. -/
theorem delete_agrees_iff_fixture :
    let t := [.record next, .scan { flush with diskId := 44 }, retention false].foldl
      Archive.step archive
    t.engine.segments.rows.map Segment.fileKey = [next.key] ∧ t.files.rows = [next] ∧ t.Agrees := by
  have hrows : (([.record next, .scan { flush with diskId := 44 }].foldl Archive.step
      archive).engine.segments.rows.all fun g => decide (g.diskId = 44)) = true := by
    decide +kernel
  have htakes : ∀ f ∈ ({ flush with diskId := 44 } : Scan).settled
      (archive.step (.record next)).files,
      ({ flush with diskId := 44 } : Scan).Takes (archive.step (.record next)).recorded f := by
    decide +kernel
  refine ⟨by decide +kernel, by decide +kernel, ?_⟩
  refine (delete_agrees_iff (engine.unlink fun _ => false) engine files).2.2.2
    [.record next, .scan { flush with diskId := 44 }, retention false] _
    (.cons trivial (.cons htakes (.cons (fun g hg _ => ?_) .nil)))
  have hdisk : g.diskId = 44 := of_decide_eq_true (List.all_eq_true.1 hrows g hg)
  refine .inl ⟨?_, rfl⟩
  rw [hdisk]
  decide +kernel

end

end AeroXProtect
