import AeroXProtect.Storage.Headroom
import AeroXProtect.Storage.Files
import Mathlib.Logic.Function.Basic

/-!
# Moving segments between disks

The segments with their tier, and what a move does to a row and to the files. The recorder writes to
a cache disk, if there is one, and the promotion moves what has settled to a record disk; a disk
that is to be removed is evacuated. The files are a map from a place to what is there, of any kind.
`shutil.move` is left to the system: `MoveOutcome` says whether it raises an `OSError`, and what it
then leaves at the destination. A file that is not there cannot be moved.
-/

open Lib

namespace AeroXProtect

inductive StorageTier
  | cache | record
  deriving DecidableEq, Repr

/-- A row of `segments` with its tier. -/
structure TieredSegment extends Segment where
  storageTier : StorageTier
  deriving DecidableEq, Repr

abbrev TieredSegments := Table fun seg : TieredSegment => seg.id

namespace TieredSegments

/-- The segments on a disk, by start. -/
def onDisk (t : TieredSegments) (diskId : Nat) : List TieredSegment :=
  orderBy (fun seg => seg.startTs) (t.rows.filter fun seg => decide (seg.diskId = diskId))

/-- Source: `Segment.oldest_on_disk` (`server/model/segment.py:78`). -/
def oldestOnDisk (t : TieredSegments) (diskId : Nat) (limit : Nat) : List TieredSegment :=
  (t.onDisk diskId).take limit

/-- The index that the other services read. -/
def index (t : TieredSegments) : Segments where
  rows := t.rows.map TieredSegment.toSegment
  nodup := by
    rw [List.map_map]
    exact t.nodup

theorem map_oldestOnDisk (t : TieredSegments) (diskId limit : Nat) :
    (t.oldestOnDisk diskId limit).map TieredSegment.toSegment =
      t.index.oldestOnDisk diskId limit := by
  unfold oldestOnDisk onDisk Segments.oldestOnDisk Segments.onDisk orderBy index
  rw [List.map_take]
  congr 1
  dsimp only
  rw [List.filter_map]
  exact List.map_insertionSort _ _ TieredSegment.toSegment _ fun _ _ _ _ => Iff.rfl

theorem mem_onDisk {t : TieredSegments} {diskId : Nat} {seg : TieredSegment} :
    seg ∈ t.onDisk diskId ↔ seg ∈ t ∧ seg.diskId = diskId := by
  unfold onDisk
  simp

theorem nodup_onDisk (t : TieredSegments) (diskId : Nat) :
    ((t.onDisk diskId).map fun seg => seg.id).Nodup :=
  t.nodup_map_orderBy _ _

end TieredSegments

/-! ## Moving a file -/

section
variable {β : Type}

/-- What a call of `shutil.move` ends with, for a file that is there. -/
inductive MoveOutcome (β : Type)
  | moves
  | raises (leaves : Option β → Option β)

/-- The files after a call of `shutil.move`, and whether it returns. -/
def moveFile (outcome : MoveOutcome β) (files : FileKey → Option β) (src dst : FileKey) :
    (FileKey → Option β) × Bool :=
  match outcome, files src with
  | .moves, some file =>
    (Function.update (Function.update files src none) dst (some file), true)
  | .moves, none => (files, false)
  | .raises leaves, _ => (Function.update files dst (leaves (files dst)), false)

/-- The row of a segment that was moved to a disk. -/
def TieredSegment.movedTo (dst : Disk) (seg : TieredSegment) : TieredSegment :=
  { seg with diskId := dst.id, storageTier := .record }

/-- The rows and the files after an attempt to move a segment, and whether it returns. Source:
`_move_segment` (`server/task/list/segment_sweep.py:17`). -/
def moveSegment (outcome : MoveOutcome β) (rows : TieredSegments) (files : FileKey → Option β)
    (seg : TieredSegment) (src dst : Disk) : TieredSegments × (FileKey → Option β) × Bool :=
  match moveFile outcome files (src.id, seg.relPath) (dst.id, seg.relPath) with
  | (files, true) => (rows.modify (fun r => decide (r.id = seg.id)) (.movedTo dst), files, true)
  | (files, false) => (rows, files, false)

/-- Only the source and the destination are touched; what is moved is at the destination afterwards,
and an attempt that raises leaves it where it is. -/
theorem moveFile_spec (outcome : MoveOutcome β) (files : FileKey → Option β) {src dst : FileKey}
    (hne : src ≠ dst) :
    (∀ k, k ≠ src → k ≠ dst → (moveFile outcome files src dst).1 k = files k) ∧
      if (moveFile outcome files src dst).2 then
        (moveFile outcome files src dst).1 dst = files src ∧ (files src).isSome
      else (moveFile outcome files src dst).1 src = files src := by
  unfold moveFile
  cases outcome with
  | moves =>
    cases hsrc : files src with
    | none => exact ⟨fun k _ _ => rfl, hsrc⟩
    | some file =>
      refine ⟨fun k hksrc hkdst => ?_, Function.update_self .., rfl⟩
      exact (Function.update_of_ne hkdst ..).trans (Function.update_of_ne hksrc ..)
  | raises leaves =>
    exact ⟨fun k _ hkdst => Function.update_of_ne hkdst .., Function.update_of_ne hne ..⟩

/-- Whether a call returns depends on the file alone. -/
theorem moveFile_snd_congr {outcome : MoveOutcome β} {files files' : FileKey → Option β}
    {src dst : FileKey} (h : files src = files' src) :
    (moveFile outcome files src dst).2 = (moveFile outcome files' src dst).2 := by
  unfold moveFile
  rw [h]
  cases outcome with
  | moves => cases files' src <;> rfl
  | raises leaves => rfl

/-- A call that raises touches nothing but the destination. -/
theorem moveFile_of_raises {outcome : MoveOutcome β} {files : FileKey → Option β}
    {src dst k : FileKey} (hne : src ≠ dst) (hraises : (moveFile outcome files src dst).2 = false)
    (hk : k ≠ dst) : (moveFile outcome files src dst).1 k = files k := by
  obtain ⟨hothers, hspec⟩ := moveFile_spec outcome files hne
  rw [hraises, if_neg Bool.false_ne_true] at hspec
  by_cases hsrc : k = src
  · rw [hsrc]
    exact hspec
  · exact hothers k hsrc hk

end

end AeroXProtect
