import AeroXProtect.Storage.Tiers
import Mathlib.Data.Finset.Card

/-!
# Evacuating a disk

`evacuate_disk` asks for the oldest segments of the disk, 200 more than have failed so far, passes
over the failed ones and attempts to move the others, until there is none. The answers of the system
are arbitrary: `env` gives the outcome of every attempt. `evacuate_exact` says what has become of
the rows and the files when there is a disk to move to; without one, nothing is attempted.
-/

open Lib

namespace AeroXProtect

/-- The state of the loop, and the ids of the segments it has attempted to move, the last one first.
-/
structure Evacuation (β : Type) where
  rows : TieredSegments
  files : FileKey → Option β
  moved : Nat
  failedIds : Finset Nat
  attempted : List Nat

/-- What the task returns. -/
inductive EvacuateResult
  | done (moved failed : Nat)
  | noTargets
  | notFound
  deriving DecidableEq, Repr

/-- The disks to move to. -/
def Disks.targets (t : Disks) (diskId : Nat) : List Disk :=
  (t.getWritable [.cache, .record]).filter fun d => decide (d.id ≠ diskId)

namespace Evacuation

section
variable {β : Type}

/-- The segments of one round. -/
def batch (diskId : Nat) (x : Evacuation β) : List TieredSegment :=
  (x.rows.oldestOnDisk diskId (200 + x.failedIds.card)).filter fun seg =>
    decide (seg.id ∉ x.failedIds)

/-- One turn of the inner loop. -/
def attempt (env : Nat → TieredSegment → MoveOutcome β) (src dst : Disk) (x : Evacuation β)
    (seg : TieredSegment) : Evacuation β :=
  match moveSegment (env x.attempted.length seg) x.rows x.files seg src dst with
  | (rows, files, true) =>
    { x with rows, files, moved := x.moved + 1, attempted := seg.id :: x.attempted }
  | (rows, files, false) =>
    { x with rows, files, failedIds := insert seg.id x.failedIds,
             attempted := seg.id :: x.attempted }

end

end Evacuation

/-- Source: `evacuate_disk` (`server/task/list/segment_sweep.py:73`); `none` when the loop is not
over after `fuel` rounds. -/
def evacuateDisk {β : Type} (env : Nat → TieredSegment → MoveOutcome β) (disks : Disks)
    (diskId : Nat) (fuel : Nat) (rows : TieredSegments) (files : FileKey → Option β) :
    Option (Evacuation β × EvacuateResult) :=
  let start : Evacuation β := ⟨rows, files, 0, ∅, []⟩
  match maxBy Disk.usableFreeBytes (disks.targets diskId) with
  | none => some (start, .noTargets)
  | some dst =>
    match disks.get? diskId with
    | none => some (start, .notFound)
    | some src =>
      (rounds (Evacuation.batch diskId) (Evacuation.attempt env src dst) fuel start).map fun x =>
        (x, .done x.moved x.failedIds.card)

/-! ## What holds between the attempts -/

namespace Evacuation

section
variable {β : Type} {t : TieredSegments} {files : FileKey → Option β} {src dst : Disk}
  {x : Evacuation β} {seg : TieredSegment} {env : Nat → TieredSegment → MoveOutcome β}

/-- The segment was moved. -/
def isMoved (x : Evacuation β) (seg : TieredSegment) : Bool :=
  decide (seg.id ∈ x.attempted) && !decide (seg.id ∈ x.failedIds)

/-- What has become of a row. -/
def current (dst : Disk) (x : Evacuation β) (seg : TieredSegment) : TieredSegment :=
  if x.isMoved seg then seg.movedTo dst else seg

/-- No other segment of the disk has the path of the segment. -/
def Alone (t : TieredSegments) (diskId : Nat) (seg : TieredSegment) : Prop :=
  ∀ r ∈ t, r.diskId = diskId → r.relPath = seg.relPath → r = seg

/-- What holds between the attempts. -/
structure Inv (t : TieredSegments) (files : FileKey → Option β) (src dst : Disk)
    (x : Evacuation β) : Prop where
  rows : x.rows.rows = t.rows.map (x.current dst)
  nodup : x.attempted.Nodup
  onDisk : ∀ i ∈ x.attempted, ∃ seg : TieredSegment, seg ∈ t ∧ seg.diskId = src.id ∧ seg.id = i
  failed : ∀ i ∈ x.failedIds, i ∈ x.attempted
  count : x.moved + x.failedIds.card = x.attempted.length
  places : ∀ seg ∈ t, Alone t src.id seg → ∀ file, files seg.fileKey = some file →
    x.files (x.current dst seg).fileKey = some file

theorem inv_start : Inv t files src dst ⟨t, files, 0, ∅, []⟩ where
  rows := (List.map_id t.rows).symm
  nodup := List.nodup_nil
  onDisk _ h := absurd h List.not_mem_nil
  failed _ h := absurd h (Finset.notMem_empty _)
  count := rfl
  places _ _ _ _ h := h

/-- A segment is on the disk and has not failed when it has not been attempted. -/
theorem Inv.pending_iff (h : Inv t files src dst x) (hne : dst.id ≠ src.id) :
    (seg ∈ x.rows.onDisk src.id ∧ seg.id ∉ x.failedIds) ↔
      seg ∈ t.onDisk src.id ∧ seg.id ∉ x.attempted := by
  have hmem : seg ∈ x.rows ↔ ∃ r ∈ t, x.current dst r = seg := by
    rw [← Table.mem_rows, h.rows, List.mem_map]
    rfl
  rw [TieredSegments.mem_onDisk, TieredSegments.mem_onDisk, hmem]
  constructor
  · rintro ⟨⟨⟨r, hr, rfl⟩, hdisk⟩, hfailed⟩
    unfold current at hdisk hfailed ⊢
    split at hdisk
    · exact absurd hdisk hne
    · next hmoved =>
      rw [if_neg hmoved] at hfailed ⊢
      refine ⟨⟨hr, hdisk⟩, fun hattempted => hmoved ?_⟩
      rw [isMoved, Bool.and_eq_true, Bool.not_eq_true', decide_eq_true_eq, decide_eq_false_iff_not]
      exact ⟨hattempted, hfailed⟩
  · rintro ⟨⟨hseg, hdisk⟩, hattempted⟩
    refine ⟨⟨⟨seg, hseg, if_neg ?_⟩, hdisk⟩, fun hfailed => hattempted (h.failed _ hfailed)⟩
    simp [isMoved, hattempted]

/-- What an attempt to move a segment can do: the segment is moved with its file, or counts as
failed and its file stays. -/
structure Tried (src dst : Disk) (x : Evacuation β) (seg : TieredSegment) (y : Evacuation β) :
    Prop where
  attempted : y.attempted = seg.id :: x.attempted
  others : ∀ k, k ≠ (src.id, seg.relPath) → k ≠ (dst.id, seg.relPath) → y.files k = x.files k
  outcome :
    (y.rows = x.rows.modify (fun r => decide (r.id = seg.id)) (.movedTo dst) ∧
      y.moved = x.moved + 1 ∧ y.failedIds = x.failedIds ∧
      y.files (dst.id, seg.relPath) = x.files (src.id, seg.relPath)) ∨
    (y.rows = x.rows ∧ y.moved = x.moved ∧ y.failedIds = insert seg.id x.failedIds ∧
      y.files (src.id, seg.relPath) = x.files (src.id, seg.relPath))

theorem tried_attempt (env : Nat → TieredSegment → MoveOutcome β) (x : Evacuation β)
    (seg : TieredSegment) (hne : dst.id ≠ src.id) :
    Tried src dst x seg (x.attempt env src dst seg) := by
  have hkey : (src.id, seg.relPath) ≠ (dst.id, seg.relPath) := fun h => hne (Prod.mk.inj h).1.symm
  have hspec := moveFile_spec (env x.attempted.length seg) x.files hkey
  unfold attempt moveSegment
  cases hmove : moveFile (env x.attempted.length seg) x.files (src.id, seg.relPath)
      (dst.id, seg.relPath) with
  | mk files returned =>
    rw [hmove] at hspec
    cases returned with
    | true => exact ⟨rfl, hspec.1, .inl ⟨rfl, rfl, rfl, hspec.2.1⟩⟩
    | false => exact ⟨rfl, hspec.1, .inr ⟨rfl, rfl, rfl, hspec.2⟩⟩

section
variable {y : Evacuation β} {r : TieredSegment}

/-- What an attempt makes of the other segments. -/
theorem Tried.current_of_ne (hy : Tried src dst x seg y) (hne : r.id ≠ seg.id) :
    y.current dst r = x.current dst r := by
  have hsame : y.isMoved r = x.isMoved r := by
    unfold isMoved
    rw [hy.attempted]
    rcases hy.outcome with ⟨-, -, hfailed, -⟩ | ⟨-, -, hfailed, -⟩ <;> rw [hfailed] <;> simp [hne]
  rw [current, current, hsame]

/-- What it makes of its own. -/
theorem Tried.current_self (hy : Tried src dst x seg y) :
    y.current dst seg = if seg.id ∈ y.failedIds then seg else seg.movedTo dst := by
  unfold current isMoved
  rw [hy.attempted]
  by_cases hfailed : seg.id ∈ y.failedIds <;> simp [hfailed]

theorem current_of_new (hnew : seg.id ∉ x.attempted) : x.current dst seg = seg :=
  if_neg (by simp [isMoved, hnew])

@[simp] theorem relPath_current : (x.current dst seg).relPath = seg.relPath := by
  unfold current
  split <;> rfl

@[simp] theorem id_current : (x.current dst seg).id = seg.id := by
  unfold current
  split <;> rfl

theorem Inv.not_failed (h : Inv t files src dst x) (hnew : seg.id ∉ x.attempted) :
    seg.id ∉ x.failedIds := fun hfailed => hnew (h.failed _ hfailed)

/-- The rows after an attempt on a segment that has not been attempted. -/
theorem Inv.rows_tried (h : Inv t files src dst x) (hy : Tried src dst x seg y) (hseg : seg ∈ t)
    (hnew : seg.id ∉ x.attempted) : y.rows.rows = t.rows.map (y.current dst) := by
  have hnotFailed := h.not_failed hnew
  have hself := hy.current_self
  rcases hy.outcome with ⟨hrows, -, hfailed, -⟩ | ⟨hrows, -, hfailed, -⟩
  · rw [hfailed, if_neg hnotFailed] at hself
    rw [hrows]
    change x.rows.rows.map _ = _
    rw [h.rows, List.map_map]
    refine List.map_congr_left fun r hr => ?_
    by_cases hid : r.id = seg.id
    · obtain rfl : r = seg := Table.eq_of_key_eq hr hseg hid
      rw [Function.comp_apply, current_of_new hnew, hself]
      exact if_pos (by simp)
    · rw [Function.comp_apply, hy.current_of_ne hid]
      exact if_neg (by simpa using hid)
  · rw [hfailed, if_pos (Finset.mem_insert_self ..)] at hself
    rw [hrows, h.rows]
    refine List.map_congr_left fun r hr => ?_
    by_cases hid : r.id = seg.id
    · obtain rfl : r = seg := Table.eq_of_key_eq hr hseg hid
      rw [current_of_new hnew, hself]
    · exact (hy.current_of_ne hid).symm

/-- The places after such an attempt: the file of another segment has another path. -/
theorem Inv.places_tried (h : Inv t files src dst x) (hy : Tried src dst x seg y) (hseg : seg ∈ t)
    (hdisk : seg.diskId = src.id) (hnew : seg.id ∉ x.attempted) (hr : r ∈ t)
    (halone : Alone t src.id r) {file : β} (hfile : files r.fileKey = some file) :
    y.files (y.current dst r).fileKey = some file := by
  have hbefore := h.places r hr halone file hfile
  by_cases hid : r.id = seg.id
  · obtain rfl : r = seg := Table.eq_of_key_eq hr hseg hid
    have hkey : r.fileKey = (src.id, r.relPath) := congrArg (·, r.relPath) hdisk
    rw [current_of_new hnew, hkey] at hbefore
    rw [hy.current_self]
    rcases hy.outcome with ⟨-, -, hfailed, hdst⟩ | ⟨-, -, hfailed, hsrc⟩
    · rw [hfailed, if_neg (h.not_failed hnew)]
      exact hdst.trans hbefore
    · rw [hfailed, if_pos (Finset.mem_insert_self ..), hkey]
      exact hsrc.trans hbefore
  · have hpath : (x.current dst r).relPath ≠ seg.relPath := by
      rw [relPath_current]
      intro heq
      exact hid (halone seg hseg hdisk heq.symm ▸ rfl)
    rw [hy.current_of_ne hid]
    exact (hy.others _ (fun hk => hpath (Prod.mk.inj hk).2)
      fun hk => hpath (Prod.mk.inj hk).2).trans hbefore

/-- **An attempt** on a segment of the disk that has not been attempted. -/
theorem Inv.tried (h : Inv t files src dst x) (hy : Tried src dst x seg y) (hseg : seg ∈ t)
    (hdisk : seg.diskId = src.id) (hnew : seg.id ∉ x.attempted) : Inv t files src dst y where
  rows := h.rows_tried hy hseg hnew
  nodup := by
    rw [hy.attempted]
    exact List.nodup_cons.2 ⟨hnew, h.nodup⟩
  onDisk := by
    rw [hy.attempted]
    exact List.forall_mem_cons.2 ⟨⟨seg, hseg, hdisk, rfl⟩, h.onDisk⟩
  failed := by
    intro i hi
    rw [hy.attempted]
    rcases hy.outcome with ⟨-, -, hfailed, -⟩ | ⟨-, -, hfailed, -⟩
    · exact .tail _ (h.failed i (hfailed ▸ hi))
    · rcases Finset.mem_insert.1 (hfailed ▸ hi) with rfl | hi
      · exact .head _
      · exact .tail _ (h.failed i hi)
  count := by
    have hcount := h.count
    rw [hy.attempted, List.length_cons]
    rcases hy.outcome with ⟨-, hmoved, hfailed, -⟩ | ⟨-, hmoved, hfailed, -⟩
    · rw [hmoved, hfailed]
      omega
    · rw [hmoved, hfailed, Finset.card_insert_of_notMem (h.not_failed hnew)]
      omega
  places := fun _ hr halone _ hfile => h.places_tried hy hseg hdisk hnew hr halone hfile

end

/-! ## Rounds -/

/-- A round attempts its segments. -/
theorem Inv.foldl_attempt (env : Nat → TieredSegment → MoveOutcome β) (hne : dst.id ≠ src.id)
    {l : List TieredSegment} (h : Inv t files src dst x) (hnodup : (l.map fun seg => seg.id).Nodup)
    (hl : ∀ seg ∈ l, seg ∈ t.onDisk src.id ∧ seg.id ∉ x.attempted) :
    Inv t files src dst (l.foldl (attempt env src dst) x) ∧
      (l.foldl (attempt env src dst) x).attempted.length = l.length + x.attempted.length := by
  induction l generalizing x with
  | nil => exact ⟨h, (Nat.zero_add _).symm⟩
  | cons seg l ih =>
    obtain ⟨hon, hnew⟩ := hl seg (.head _)
    obtain ⟨hseg, hdisk⟩ := TieredSegments.mem_onDisk.1 hon
    rw [List.map_cons, List.nodup_cons] at hnodup
    have hy := tried_attempt env x seg hne
    have hrest : ∀ r ∈ l, r ∈ t.onDisk src.id ∧
        r.id ∉ (x.attempt env src dst seg).attempted := by
      intro r hr
      obtain ⟨hron, hrnew⟩ := hl r (.tail _ hr)
      rw [hy.attempted, List.mem_cons, not_or]
      refine ⟨hron, fun hid => hnodup.1 ?_, hrnew⟩
      exact hid ▸ List.mem_map_of_mem hr
    obtain ⟨hinv, hlength⟩ := ih (h.tried hy hseg hdisk hnew) hnodup.2 hrest
    refine ⟨hinv, hlength.trans ?_⟩
    rw [hy.attempted, List.length_cons, List.length_cons]
    omega

theorem mem_batch {diskId : Nat} (hseg : seg ∈ x.batch diskId) :
    seg ∈ x.rows.onDisk diskId ∧ seg.id ∉ x.failedIds := by
  obtain ⟨htake, hfailed⟩ := List.mem_filter.1 hseg
  exact ⟨List.mem_of_mem_take htake, of_decide_eq_true hfailed⟩

theorem nodup_batch (diskId : Nat) (x : Evacuation β) :
    ((x.batch diskId).map fun seg => seg.id).Nodup :=
  ((List.filter_sublist.trans (List.take_sublist ..)).map _).nodup (x.rows.nodup_onDisk diskId)

/-- **The window grows with the failures**, so it holds a segment that has not failed if there is
one. -/
theorem batch_ne_nil {diskId : Nat} (hseg : seg ∈ x.rows.onDisk diskId)
    (hfailed : seg.id ∉ x.failedIds) : x.batch diskId ≠ [] := by
  obtain ⟨pre, post, hsplit⟩ := List.append_of_mem hseg
  have hfew : (pre.filter fun r => !decide (r.id ∉ x.failedIds)).length <
      200 + x.failedIds.card := by
    have hnodup := x.rows.nodup_onDisk diskId
    rw [hsplit, List.map_append] at hnodup
    have hids : ((pre.filter fun r => !decide (r.id ∉ x.failedIds)).map fun r => r.id).Nodup :=
      (List.filter_sublist.map _).nodup hnodup.of_append_left
    have hsub : ((pre.filter fun r => !decide (r.id ∉ x.failedIds)).map
        fun r => r.id).toFinset ⊆ x.failedIds := by
      intro i hi
      obtain ⟨r, hr, rfl⟩ := List.mem_map.1 (List.mem_toFinset.1 hi)
      simpa using (List.mem_filter.1 hr).2
    have hle := Finset.card_le_card hsub
    rw [List.toFinset_card_of_nodup hids, List.length_map] at hle
    omega
  obtain ⟨r, hr, hnot⟩ := exists_mem_take (p := fun r => decide (r.id ∉ x.failedIds)) hsplit
    (decide_eq_true hfailed) hfew
  exact List.ne_nil_of_mem (List.mem_filter.2 ⟨hr, hnot⟩)

theorem Inv.length_attempted_le (h : Inv t files src dst x) :
    x.attempted.length ≤ (t.onDisk src.id).length := by
  refine le_of_le_of_eq (h.nodup.length_le_of_subset fun i hi => ?_)
    (List.length_map fun seg : TieredSegment => seg.id)
  obtain ⟨seg, hseg, hdisk, rfl⟩ := h.onDisk i hi
  exact List.mem_map_of_mem (TieredSegments.mem_onDisk.2 ⟨hseg, hdisk⟩)

/-- Every round attempts something. -/
theorem Inv.round (env : Nat → TieredSegment → MoveOutcome β) (h : Inv t files src dst x)
    (hne : dst.id ≠ src.id) (hbatch : x.batch src.id ≠ []) :
    Inv t files src dst ((x.batch src.id).foldl (attempt env src dst) x) ∧
      (t.onDisk src.id).length -
          ((x.batch src.id).foldl (attempt env src dst) x).attempted.length <
        (t.onDisk src.id).length - x.attempted.length := by
  obtain ⟨hinv, hlength⟩ := h.foldl_attempt env hne (nodup_batch src.id x)
    fun seg hseg => (h.pending_iff hne).1 (mem_batch hseg)
  have hpos := List.length_pos_iff.2 hbatch
  have hle := hinv.length_attempted_le
  exact ⟨hinv, by omega⟩

/-- When there is nothing to ask for, every segment of the disk has been attempted. -/
theorem Inv.mem_attempted_iff (h : Inv t files src dst x) (hne : dst.id ≠ src.id)
    (hbatch : x.batch src.id = []) (hseg : seg ∈ t) :
    seg.id ∈ x.attempted ↔ seg.diskId = src.id := by
  constructor
  · intro hattempted
    obtain ⟨r, hr, hdisk, hid⟩ := h.onDisk _ hattempted
    rwa [← Table.eq_of_key_eq hr hseg hid]
  · intro hdisk
    by_contra hnew
    obtain ⟨hon, hfailed⟩ := (h.pending_iff hne).2
      ⟨TieredSegments.mem_onDisk.2 ⟨hseg, hdisk⟩, hnew⟩
    exact batch_ne_nil hon hfailed hbatch

/-- What has become of the table and of the files: every segment of the disk was attempted once and
is on a target, unless it has failed; the other rows are as they were; and whoever's file was at its
place has it there now, if no other segment of the disk has its path. -/
structure Evacuated (disks : Disks) (diskId : Nat) (t : TieredSegments) (files : FileKey → Option β)
    (x : Evacuation β) : Prop where
  once : x.attempted.Perm ((t.onDisk diskId).map fun seg => seg.id)
  count : x.moved + x.failedIds.card = (t.onDisk diskId).length
  rows : ∃ dst ∈ disks.targets diskId, x.rows.rows = t.rows.map fun seg =>
    if seg.diskId = diskId ∧ seg.id ∉ x.failedIds then seg.movedTo dst else seg
  places : ∀ seg ∈ t, Alone t diskId seg → ∀ file, files seg.fileKey = some file →
    ∀ r ∈ x.rows, r.id = seg.id → x.files r.fileKey = some file

theorem Inv.evacuated {disks : Disks} (h : Inv t files src dst x) (hne : dst.id ≠ src.id)
    (hdst : dst ∈ disks.targets src.id) (hbatch : x.batch src.id = []) :
    Evacuated disks src.id t files x := by
  have hall {seg : TieredSegment} (hseg : seg ∈ t) :
      seg.id ∈ x.attempted ↔ seg.diskId = src.id := h.mem_attempted_iff hne hbatch hseg
  have honce : x.attempted.Perm ((t.onDisk src.id).map fun seg => seg.id) := by
    refine (List.perm_ext_iff_of_nodup h.nodup (t.nodup_onDisk src.id)).2 fun i => ?_
    constructor
    · intro hi
      obtain ⟨seg, hseg, hdisk, rfl⟩ := h.onDisk i hi
      exact List.mem_map_of_mem (TieredSegments.mem_onDisk.2 ⟨hseg, hdisk⟩)
    · intro hi
      obtain ⟨seg, hon, rfl⟩ := List.mem_map.1 hi
      obtain ⟨hseg, hdisk⟩ := TieredSegments.mem_onDisk.1 hon
      exact (hall hseg).2 hdisk
  refine ⟨honce, ?_, ⟨dst, hdst, ?_⟩, ?_⟩
  · rw [h.count, honce.length_eq, List.length_map]
  · rw [h.rows]
    refine List.map_congr_left fun seg hseg => ?_
    unfold current isMoved
    simp only [Bool.and_eq_true, decide_eq_true_eq, Bool.not_eq_true', decide_eq_false_iff_not,
      hall hseg]
  · intro seg hseg halone file hfile r hr hid
    rw [← Table.mem_rows, h.rows] at hr
    obtain ⟨r', hr', rfl⟩ := List.mem_map.1 hr
    rw [id_current] at hid
    obtain rfl : r' = seg := Table.eq_of_key_eq hr' hseg hid
    exact h.places r' hseg halone file hfile

end

end Evacuation

/-- **An evacuation is exact.** For every table, every disks and whatever the system answers, the
task comes to an end, after no more questions than there are segments on the disk and one. Without a
disk to move to, or without a row for the disk, it has attempted nothing; otherwise it has attempted
every segment of the disk once, and the numbers, the rows and the places are right. -/
theorem evacuate_exact {β : Type} (env : Nat → TieredSegment → MoveOutcome β) (disks : Disks)
    (diskId : Nat) (t : TieredSegments) (files : FileKey → Option β) :
    ∃ x result, (∀ fuel, (t.onDisk diskId).length < fuel →
        evacuateDisk env disks diskId fuel t files = some (x, result)) ∧
      if disks.targets diskId = [] then x = ⟨t, files, 0, ∅, []⟩ ∧ result = .noTargets
      else if disks.get? diskId = none then x = ⟨t, files, 0, ∅, []⟩ ∧ result = .notFound
      else result = .done x.moved x.failedIds.card ∧
        Evacuation.Evacuated disks diskId t files x := by
  unfold evacuateDisk
  cases hdst : maxBy Disk.usableFreeBytes (disks.targets diskId) with
  | none =>
    refine ⟨_, _, fun _ _ => rfl, ?_⟩
    rw [if_pos (List.argmax_eq_none.1 hdst)]
    exact ⟨rfl, rfl⟩
  | some dst =>
    have hmem : dst ∈ disks.targets diskId := List.argmax_mem hdst
    cases hsrc : disks.get? diskId with
    | none =>
      refine ⟨_, _, fun _ _ => rfl, ?_⟩
      rw [if_neg (List.ne_nil_of_mem hmem), if_pos rfl]
      exact ⟨rfl, rfl⟩
    | some src =>
      obtain ⟨-, rfl⟩ := Table.get?_eq_some.1 hsrc
      have hne : dst.id ≠ src.id := of_decide_eq_true (List.mem_filter.1 hmem).2
      have hstart : Evacuation.Inv t files src dst ⟨t, files, 0, ∅, []⟩ := Evacuation.inv_start
      obtain ⟨x, hx, hinv, hbatch⟩ := exists_rounds
        (fun x => (t.onDisk src.id).length - x.attempted.length)
        (fun x h hbatch => h.round env hne hbatch) hstart
      refine ⟨x, .done x.moved x.failedIds.card, fun fuel hfuel => ?_, ?_⟩
      · simp only [hx fuel hfuel, Option.map_some]
      · rw [if_neg (List.ne_nil_of_mem hmem), if_neg (Option.some_ne_none src)]
        exact ⟨rfl, hinv.evacuated hne hmem hbatch⟩

namespace EvacuateFixture

def disk (i : Nat) : Disk := ⟨i, "disk", .record, true, 0, 1000, 500, 100, .online, none, none⟩

/-- A segment on disk 1. -/
def segment (i : Nat) : TieredSegment := ⟨⟨i, 1, 1, "1/a.mp4", i, i + 1, 8, .main, false⟩, .cache⟩

/-- One disk, and two disks. -/
def oneDisk : Disks := ⟨[disk 1], by decide⟩

def twoDisks : Disks := ⟨[disk 1, disk 2], by decide⟩

/-- Two rows for one file. -/
def rows : TieredSegments := ⟨[segment 1, segment 2], by decide⟩

def files (k : FileKey) : Option Unit := if k = (1, "1/a.mp4") then some () else none

end EvacuateFixture

open EvacuateFixture in
/-- Without a target no segment is attempted; and of two rows for one file the second one has lost
it when the first one has been moved. -/
theorem not_evacuate_exact :
    (¬ ∀ (disks : Disks) (diskId : Nat) (t : TieredSegments) (files : FileKey → Option Unit)
      (fuel : Nat) (x : Evacuation Unit) (result : EvacuateResult),
      evacuateDisk (fun _ _ => .moves) disks diskId fuel t files = some (x, result) →
      x.attempted.Perm ((t.onDisk diskId).map fun seg => seg.id)) ∧
    ¬ ∀ (disks : Disks) (diskId : Nat) (t : TieredSegments) (files : FileKey → Option Unit)
      (fuel : Nat) (x : Evacuation Unit) (result : EvacuateResult),
      disks.targets diskId ≠ [] →
      evacuateDisk (fun _ _ => .moves) disks diskId fuel t files = some (x, result) →
      ∀ seg ∈ t, ∀ file, files seg.fileKey = some file →
        ∀ r ∈ x.rows, r.id = seg.id → x.files r.fileKey = some file := by
  constructor
  · intro h
    have hperm := h oneDisk 1 rows files 1 _ _ rfl
    exact absurd hperm.length_eq (by decide)
  · intro h
    have hsome : (evacuateDisk (fun _ _ => .moves) twoDisks 1 2 rows files).isSome = true := by
      decide +kernel
    obtain ⟨⟨x, result⟩, hx⟩ := Option.isSome_iff_exists.1 hsome
    have hrows : (evacuateDisk (fun _ _ => .moves) twoDisks 1 2 rows files).map
        (fun p => p.1.rows.rows) = some [(segment 1).movedTo (disk 2), segment 2] := by
      decide +kernel
    have hfile : (evacuateDisk (fun _ _ => .moves) twoDisks 1 2 rows files).map
        (fun p => p.1.files (1, "1/a.mp4")) = some none := by
      decide +kernel
    rw [hx, Option.map_some, Option.some.injEq] at hrows hfile
    have hmem : segment 2 ∈ x.rows.rows := by
      rw [hrows]
      exact .tail _ (.head _)
    have hplace := h twoDisks 1 rows files 2 x result (by decide) hx (segment 2) (.tail _ (.head _))
      () (by decide) (segment 2) hmem rfl
    cases hfile.symm.trans hplace

end AeroXProtect
