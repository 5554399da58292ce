import AeroXProtect.Storage.Tiers
import AeroXProtect.Detection.Linker

/-!
# Sweeps

`sweep` promotes the segments of the cache tier that have settled, 500 of them at a time: from a
cache or system disk to the record disk with the most usable space, and in place on a record disk.
The window is chosen before a segment is looked at, so the segments that cannot be promoted (their
disk is gone, or their file cannot be moved) stay in it, and with 500 of them nothing else is
promoted. The linker of detections has the same shape. `sweeps_settle_iff` says when a run that has
done nothing has nothing to do.
-/

open Lib

namespace AeroXProtect

/-- The segments of the cache tier that ended before the cutoff, by start. -/
def TieredSegments.settled (t : TieredSegments) (cutoff : Int) : List TieredSegment :=
  orderBy (fun seg => seg.startTs)
    (t.rows.filter fun seg => decide (seg.storageTier = .cache) && decide (seg.endTs < cutoff))

/-- Source: `Segment.cache_tier_older_than` (`server/model/segment.py:93`). -/
def TieredSegments.cacheTierOlderThan (t : TieredSegments) (cutoff : Int) (limit : Nat) :
    List TieredSegment := (t.settled cutoff).take limit

/-- The buffer of the cache in seconds; one of 0 counts as the default. -/
def StoragePolicies.cacheBuffer (t : StoragePolicies) : Int :=
  match t.getGlobal with
  | none => 60
  | some p => if p.cacheBufferSeconds = 0 then 60 else p.cacheBufferSeconds

/-- The rows, the files, and the numbers a sweep returns. -/
structure Swept (β : Type) where
  rows : TieredSegments
  files : FileKey → Option β
  promoted : Nat
  orphans : Nat

namespace Swept

section
variable {β : Type} (env : TieredSegment → Disk → MoveOutcome β)

/-- The row is promoted where it is. -/
def promoteInPlace (x : Swept β) (seg : TieredSegment) : Swept β :=
  { x with
    rows := x.rows.modify (fun r => decide (r.id = seg.id)) fun r =>
      { r with storageTier := .record } }

/-- One turn of the loop; `env` is what the system answers to a move in this run. -/
def promote (disks : Disks) (dst : Option Disk) (x : Swept β) (seg : TieredSegment) : Swept β :=
  match disks.getAll.find? fun d => decide (d.id = seg.diskId), dst with
  | none, _ => x
  | some src, some dst =>
    if src.role ≠ .record then
      match moveSegment (env seg dst) x.rows x.files seg src dst with
      | (rows, files, true) => { x with rows, files, promoted := x.promoted + 1 }
      | (rows, files, false) => { x with rows, files }
    else x.promoteInPlace seg
  | some _, none => x.promoteInPlace seg

/-- The rows of disks that are not known any more, of which 2000 at most, are deleted. -/
def prune (disks : Disks) (x : Swept β) : Swept β :=
  let known := disks.rows.map Disk.id
  if known.isEmpty then x
  else
    let orphans := (x.rows.rows.filter fun seg => decide (seg.diskId ∉ known)).take 2000
    { x with
      rows := x.rows.delete fun r => decide (r.id ∈ orphans.map fun seg => seg.id)
      orphans := orphans.length }

end

end Swept

/-- The record disk that is promoted to. -/
def Disks.recordDisk (t : Disks) : Option Disk :=
  maxBy Disk.usableFreeBytes (t.getWritable [.record])

/-- Source: `sweep` (`server/task/list/segment_sweep.py:29`). -/
def sweep {β : Type} (env : TieredSegment → Disk → MoveOutcome β) (policies : StoragePolicies)
    (disks : Disks) (now : Int) (rows : TieredSegments) (files : FileKey → Option β) : Swept β :=
  let cutoff := now - seconds policies.cacheBuffer
  ((rows.cacheTierOlderThan cutoff 500).foldl (Swept.promote env disks disks.recordDisk)
    ⟨rows, files, 0, 0⟩).prune disks

/-! ## What can be promoted -/

section
variable {β : Type} (env : TieredSegment → Disk → MoveOutcome β)

/-- The system moves the file of the segment from one disk to the other. -/
def canMove (files : FileKey → Option β) (seg : TieredSegment) (src dst : Disk) : Bool :=
  (moveFile (env seg dst) files (src.id, seg.relPath) (dst.id, seg.relPath)).2

/-- The disk of the segment, if it is live and no record disk. -/
def Disks.sourceOf (t : Disks) (seg : TieredSegment) : Option Disk :=
  (t.getAll.find? fun d => decide (d.id = seg.diskId)).filter fun d => decide (d.role ≠ .record)

/-- The segment can be moved from a live disk that is no record disk to the disk. -/
def canPromote (disks : Disks) (files : FileKey → Option β) (dst : Disk) (seg : TieredSegment) :
    Bool := (disks.sourceOf seg).any fun src => canMove env files seg src dst

/-- No settled segment of the cache tier on a live disk that is no record disk can be moved to a
writable record disk. -/
def Promoted (disks : Disks) (cutoff : Int) (rows : TieredSegments) (files : FileKey → Option β) :
    Prop :=
  ∀ seg ∈ rows, seg.storageTier = .cache → seg.endTs < cutoff →
    ∀ dst ∈ disks.getWritable [.record], canPromote env disks files dst seg = false

end

section
variable {β : Type} {env : TieredSegment → Disk → MoveOutcome β} {disks : Disks} {dst : Disk}
  {rows : TieredSegments} {files files' : FileKey → Option β} {seg : TieredSegment} {x : Swept β}

theorem Disks.sourceOf_eq_some {src : Disk} (h : disks.sourceOf seg = some src) :
    src ∈ disks ∧ src.id = seg.diskId ∧ src.role ≠ .record ∧
      disks.getAll.find? (fun d => decide (d.id = seg.diskId)) = some src := by
  obtain ⟨hfind, hrole⟩ := Option.filter_eq_some_iff.1 h
  have hid := List.find?_some hfind
  exact ⟨(List.mem_filter.1 (List.mem_of_find?_eq_some hfind)).1, of_decide_eq_true hid,
    of_decide_eq_true hrole, hfind⟩

theorem Disks.mem_recordDisk (h : disks.recordDisk = some dst) :
    dst ∈ disks.getWritable [.record] :=
  List.argmax_mem h

theorem Disks.role_of_mem_getWritable (h : dst ∈ disks.getWritable [.record]) :
    dst ∈ disks ∧ dst.role = .record := by
  obtain ⟨hmem, hwritable⟩ := List.mem_filter.1 h
  simp only [Disk.isWritable, Bool.and_eq_true, decide_eq_true_eq, List.mem_singleton] at hwritable
  exact ⟨hmem, hwritable.2⟩

/-- A source is no record disk. -/
theorem Disks.sourceOf_id_ne {src : Disk} (h : disks.sourceOf seg = some src)
    (hdst : dst ∈ disks.getWritable [.record]) : src.id ≠ dst.id := by
  obtain ⟨hsrc, -, hrole, -⟩ := sourceOf_eq_some h
  obtain ⟨hmem, hrecord⟩ := role_of_mem_getWritable hdst
  exact fun hid => hrole (Table.eq_of_key_eq hsrc hmem hid ▸ hrecord)

/-- Whether a segment can be promoted depends on the files that are not on a record disk. -/
theorem canPromote_congr (hdst : dst ∈ disks.getWritable [.record])
    (h : ∀ k : FileKey, k.1 ≠ dst.id → files' k = files k) (d : Disk) :
    canPromote env disks files' d seg = canPromote env disks files d seg := by
  unfold canPromote canMove
  cases hsrc : disks.sourceOf seg with
  | none => rfl
  | some src => exact moveFile_snd_congr (h _ (Disks.sourceOf_id_ne hsrc hdst))

namespace Swept

/-- Nothing was promoted to the disk so far: the files elsewhere and the rows with a source are as
they were. -/
structure Idle (disks : Disks) (dst : Disk) (rows : TieredSegments) (files : FileKey → Option β)
    (x : Swept β) : Prop where
  promoted : x.promoted = 0
  files : ∀ k : FileKey, k.1 ≠ dst.id → x.files k = files k
  rows : ∀ seg, (disks.sourceOf seg).isSome → (seg ∈ x.rows ↔ seg ∈ rows)

/-- A promotion in place changes rows without a source. -/
theorem Idle.promoteInPlace (h : Idle disks dst rows files x) (hseg : seg ∈ rows)
    (hsrc : disks.sourceOf seg = none) : Idle disks dst rows files (x.promoteInPlace seg) where
  promoted := h.promoted
  files := h.files
  rows := by
    have hnot (r : TieredSegment) (hr : r ∈ x.rows) (hid : r.id = seg.id) :
        disks.sourceOf r = none := by
      by_contra hsome
      have hr' := (h.rows r (Option.isSome_iff_ne_none.2 hsome)).1 hr
      rw [Table.eq_of_key_eq hr' hseg hid] at hsome
      exact hsome hsrc
    intro r hr
    rw [← h.rows r hr, Swept.promoteInPlace, Table.mem_modify]
    constructor
    · rintro ⟨r', hr', rfl⟩
      split at hr
      · next hid =>
        have hnone := hnot r' hr' (of_decide_eq_true hid)
        exact absurd hr (by rw [Bool.not_eq_true, Option.isSome_eq_false_iff,
          Option.isNone_iff_eq_none]; exact hnone)
      · next hid =>
        rw [if_neg hid]
        exact hr'
    · intro hr'
      refine ⟨r, hr', (if_neg fun hid => ?_).symm⟩
      rw [hnot r hr' (of_decide_eq_true hid)] at hr
      cases hr

/-- **One turn**: it promotes the segment to the disk if that is possible. -/
theorem Idle.promote (env : TieredSegment → Disk → MoveOutcome β)
    (h : Idle disks dst rows files x) (hdst : dst ∈ disks.getWritable [.record])
    (hseg : seg ∈ rows) :
    if canPromote env disks files dst seg then 0 < (x.promote env disks (some dst) seg).promoted
    else Idle disks dst rows files (x.promote env disks (some dst) seg) := by
  rw [← canPromote_congr hdst h.files]
  unfold canPromote
  cases hsrc : disks.sourceOf seg with
  | none =>
    rw [Option.any_none, if_neg Bool.false_ne_true]
    unfold Swept.promote
    cases hfind : disks.getAll.find? fun d => decide (d.id = seg.diskId) with
    | none => exact h
    | some src =>
      have hrole : ¬ src.role ≠ .record := by
        unfold Disks.sourceOf at hsrc
        rw [hfind] at hsrc
        intro hrole
        rw [Option.filter_some, if_pos (decide_eq_true hrole)] at hsrc
        cases hsrc
      simp only [if_neg hrole]
      exact h.promoteInPlace hseg hsrc
  | some src =>
    obtain ⟨-, -, hrole, hfind⟩ := Disks.sourceOf_eq_some hsrc
    have hid := Disks.sourceOf_id_ne hsrc hdst
    have hkey : (src.id, seg.relPath) ≠ (dst.id, seg.relPath) := fun heq => hid (Prod.mk.inj heq).1
    rw [Option.any_some]
    unfold Swept.promote canMove moveSegment
    rw [hfind]
    simp only [if_pos hrole]
    cases hmove : moveFile (env seg dst) x.files (src.id, seg.relPath) (dst.id, seg.relPath) with
    | mk moved returned =>
      cases returned with
      | true => exact Nat.succ_pos _
      | false =>
        refine ⟨h.promoted, fun k hk => ?_, h.rows⟩
        have hsame := moveFile_of_raises hkey (by rw [hmove]) fun heq => hk (congrArg Prod.fst heq)
        rw [hmove] at hsame
        exact hsame.trans (h.files k hk)

theorem promoted_le_promote (d : Option Disk) (x : Swept β) (seg : TieredSegment) :
    x.promoted ≤ (x.promote env disks d seg).promoted := by
  unfold promote promoteInPlace
  split
  · exact le_rfl
  · split
    · split
      · exact Nat.le_succ _
      · exact le_rfl
    · exact le_rfl
  · exact le_rfl

theorem promoted_le_foldl (d : Option Disk) (l : List TieredSegment) (x : Swept β) :
    x.promoted ≤ (l.foldl (promote env disks d) x).promoted :=
  List.foldlRecOn (motive := fun y : Swept β => x.promoted ≤ y.promoted) _ _ le_rfl
    fun y h seg _ => h.trans (promoted_le_promote d y seg)

/-- **The loop**: it promotes something exactly if one of its segments can be promoted. -/
theorem Idle.foldl (env : TieredSegment → Disk → MoveOutcome β)
    (h : Idle disks dst rows files x) (hdst : dst ∈ disks.getWritable [.record])
    {l : List TieredSegment} (hl : ∀ seg ∈ l, seg ∈ rows) :
    if l.any (canPromote env disks files dst) then
      0 < (l.foldl (Swept.promote env disks (some dst)) x).promoted
    else Idle disks dst rows files (l.foldl (Swept.promote env disks (some dst)) x) := by
  induction l generalizing x with
  | nil => exact h
  | cons seg l ih =>
    have hstep := h.promote env hdst (hl seg (.head _))
    rw [List.any_cons, List.foldl_cons]
    cases hcan : canPromote env disks files dst seg with
    | true =>
      rw [hcan, if_pos rfl] at hstep
      exact hstep.trans_le (promoted_le_foldl _ l _)
    | false =>
      rw [hcan, if_neg Bool.false_ne_true] at hstep
      exact ih hstep fun r hr => hl r (.tail _ hr)

@[simp] theorem promoted_prune : (x.prune disks).promoted = x.promoted := by
  unfold prune
  dsimp only
  split <;> rfl

@[simp] theorem files_prune : (x.prune disks).files = x.files := by
  unfold prune
  dsimp only
  split <;> rfl

/-- A row with a source is no orphan. -/
theorem mem_prune (hsrc : (disks.sourceOf seg).isSome) :
    seg ∈ (x.prune disks).rows ↔ seg ∈ x.rows := by
  unfold prune
  dsimp only
  split
  · rfl
  · rw [Table.mem_delete]
    refine and_iff_left_of_imp fun hmem => ?_
    rw [decide_eq_false_iff_not]
    intro hid
    obtain ⟨r, hr, hrid⟩ := List.mem_map.1 hid
    obtain ⟨hr', horphan⟩ := List.mem_filter.1 (List.mem_of_mem_take hr)
    obtain rfl : r = seg := Table.eq_of_key_eq hr' hmem hrid
    obtain ⟨src, hsrc⟩ := Option.isSome_iff_exists.1 hsrc
    obtain ⟨hdisk, hdiskId, -⟩ := Disks.sourceOf_eq_some hsrc
    exact of_decide_eq_true horphan (hdiskId ▸ List.mem_map_of_mem hdisk)

/-- A run that promotes nothing leaves what could be promoted. -/
theorem Idle.promoted_iff (h : Idle disks dst rows files x)
    (hdst : dst ∈ disks.getWritable [.record]) (cutoff : Int) :
    Promoted env disks cutoff (x.prune disks).rows (x.prune disks).files ↔
      Promoted env disks cutoff rows files := by
  have hmem {r : TieredSegment} {d : Disk} (hr : canPromote env disks files d r = true) :
      r ∈ (x.prune disks).rows ↔ r ∈ rows := by
    have hsome : (disks.sourceOf r).isSome := by
      unfold canPromote at hr
      cases hsrc : disks.sourceOf r with
      | none => rw [hsrc] at hr; cases hr
      | some src => rfl
    rw [mem_prune hsome, h.rows r hsome]
  unfold Promoted
  simp only [files_prune, canPromote_congr hdst h.files]
  constructor
  · intro hall r hr htier hend d hd
    by_contra hcan
    rw [Bool.not_eq_false] at hcan
    rw [hall r ((hmem hcan).2 hr) htier hend d hd] at hcan
    cases hcan
  · intro hall r hr htier hend d hd
    by_contra hcan
    rw [Bool.not_eq_false] at hcan
    rw [hall r ((hmem hcan).1 hr) htier hend d hd] at hcan
    cases hcan

end Swept

/-- **The sweep**: that a run which promotes nothing leaves nothing to promote holds exactly if,
where there is something to promote, a segment that the record disk takes is within the window. -/
theorem sweep_settles_iff (env : TieredSegment → Disk → MoveOutcome β)
    (policies : StoragePolicies) (disks : Disks) (now : Int) (rows : TieredSegments)
    (files : FileKey → Option β) :
    ((sweep env policies disks now rows files).promoted = 0 →
        Promoted env disks (now - seconds policies.cacheBuffer)
          (sweep env policies disks now rows files).rows
          (sweep env policies disks now rows files).files) ↔
      (¬ Promoted env disks (now - seconds policies.cacheBuffer) rows files →
        ∃ dst, disks.recordDisk = some dst ∧ Lib.InWindow (canPromote env disks files dst) 500
          (rows.settled (now - seconds policies.cacheBuffer))) := by
  unfold sweep
  dsimp only
  generalize now - seconds policies.cacheBuffer = cutoff
  cases hdst : disks.recordDisk with
  | none =>
    have hnil : disks.getWritable [.record] = [] := List.argmax_eq_none.1 hdst
    have hall (rows : TieredSegments) (files : FileKey → Option β) :
        Promoted env disks cutoff rows files := by
      intro seg _ _ _ d hd
      rw [hnil] at hd
      cases hd
    exact iff_of_true (fun _ => hall _ _) fun hnot => absurd (hall rows files) hnot
  | some dst =>
    have hmem := Disks.mem_recordDisk hdst
    have hstart : Swept.Idle disks dst rows files (⟨rows, files, 0, 0⟩ : Swept β) :=
      ⟨rfl, fun _ _ => rfl, fun _ _ => Iff.rfl⟩
    have hwindow : ∀ seg ∈ rows.cacheTierOlderThan cutoff 500, seg ∈ rows := by
      intro seg hseg
      have hsettled := List.mem_of_mem_take hseg
      unfold TieredSegments.settled at hsettled
      exact (List.mem_filter.1 (mem_orderBy.1 hsettled)).1
    have hfold := hstart.foldl env hmem hwindow
    have hex : (∃ dst', some dst = some dst' ∧ Lib.InWindow (canPromote env disks files dst') 500
        (rows.settled cutoff)) ↔
        (rows.cacheTierOlderThan cutoff 500).any (canPromote env disks files dst) = true := by
      simp only [Option.some.injEq, exists_eq_left', ← exists_mem_take_iff, List.any_eq_true]
      rfl
    rw [hex, Swept.promoted_prune]
    split at hfold
    · next hsome => exact iff_of_true (fun hzero => absurd hzero hfold.ne') fun _ => hsome
    · next hnone =>
      rw [hfold.promoted_iff hmem, hfold.promoted]
      rw [imp_iff_right rfl, iff_false_intro hnone, imp_false, not_not]

end

/-- **Sweeps that starve.** For every table: that a sweep which promotes nothing leaves nothing to
promote, and that a run of the linker which links nothing leaves nothing to link, hold each exactly
if, where there is something to do, some of it is within the window of the job. -/
theorem sweeps_settle_iff {β : Type} (env : TieredSegment → Disk → MoveOutcome β)
    (policies : StoragePolicies) (disks : Disks) (now : Int) (rows : TieredSegments)
    (files : FileKey → Option β) (segments : Segments) (limit : Nat) (detections : Detections) :
    (((sweep env policies disks now rows files).promoted = 0 →
        Promoted env disks (now - seconds policies.cacheBuffer)
          (sweep env policies disks now rows files).rows
          (sweep env policies disks now rows files).files) ↔
      (¬ Promoted env disks (now - seconds policies.cacheBuffer) rows files →
        ∃ dst, disks.recordDisk = some dst ∧ Lib.InWindow (canPromote env disks files dst) 500
          (rows.settled (now - seconds policies.cacheBuffer)))) ∧
    (((detections.backfill segments limit).2 = 0 →
        Detections.Settled segments (detections.backfill segments limit).1) ↔
      (¬ Detections.Settled segments detections →
        Lib.InWindow (Detections.isCovered segments) limit detections.unlinked)) :=
  ⟨sweep_settles_iff env policies disks now rows files, Detections.backfill_settles_iff⟩

namespace SweepFixture

def disk (i : Nat) (role : DiskRole) (deletedAt : Option Int) : Disk :=
  ⟨i, "disk", role, true, 0, 1000, 500, 100, .online, none, deletedAt⟩

/-- A cache disk, a record disk and a cache disk that was unregistered. -/
def disks : Disks := ⟨[disk 1 .cache none, disk 2 .record none, disk 3 .cache (some 0)], by decide⟩

/-- The first 500 segments are on the disk that was unregistered. -/
def segment (i : Nat) : TieredSegment :=
  ⟨⟨i, 1, if i < 500 then 3 else 1, "1/a.mp4", i, i + 1, 8, .main, false⟩, .cache⟩

def rows : TieredSegments where
  rows := (List.range 501).map segment
  nodup := by
    rw [List.map_map]
    exact (List.map_id (List.range 501)).symm ▸ List.nodup_range

def files (k : FileKey) : Option Unit := if k = (1, "1/a.mp4") then some () else none

/-- A minute and a second after the epoch. -/
def now : Int := seconds 61

/-- The first 500 detections were made before the camera recorded. -/
def detection (i : Nat) : Detection := ⟨i, 1, i, "person", 90, none, [], none⟩

def detections : Detections where
  rows := (List.range 501).map detection
  nodup := by
    rw [List.map_map]
    exact (List.map_id (List.range 501)).symm ▸ List.nodup_range

def segments : Segments := ⟨[⟨1, 1, 1, "1/a.mp4", 500, 600, 8, .main, false⟩], by decide⟩

end SweepFixture

open SweepFixture in
/-- 500 rows that cannot be processed hide one that can. -/
theorem sweeps_starve :
    (¬ ∀ (env : TieredSegment → Disk → MoveOutcome Unit) (policies : StoragePolicies)
      (disks : Disks) (now : Int) (rows : TieredSegments) (files : FileKey → Option Unit),
      (sweep env policies disks now rows files).promoted = 0 →
      Promoted env disks (now - seconds policies.cacheBuffer)
        (sweep env policies disks now rows files).rows
        (sweep env policies disks now rows files).files) ∧
    ¬ ∀ (segments : Segments) (limit : Nat) (detections : Detections),
      (detections.backfill segments limit).2 = 0 →
      Detections.Settled segments (detections.backfill segments limit).1 := by
  constructor
  · intro h
    have hpromoted : (sweep (fun _ _ => .moves) ∅ disks now rows files).promoted = 0 := by
      decide +kernel
    have hall := h (fun _ _ => .moves) ∅ disks now rows files hpromoted
    have hmem : segment 500 ∈ (sweep (fun _ _ => .moves) ∅ disks now rows files).rows.rows := by
      decide +kernel
    have hcan : canPromote (fun _ _ => .moves) disks
        (sweep (fun _ _ => .moves) ∅ disks now rows files).files (disk 2 .record none)
        (segment 500) = true := by
      decide +kernel
    rw [hall (segment 500) hmem rfl (by decide) (disk 2 .record none) (by decide)] at hcan
    cases hcan
  · intro h
    have hlinked : (detections.backfill segments 500).2 = 0 := by decide +kernel
    have hall := h segments 500 detections hlinked
    have hmem : detection 500 ∈ (detections.backfill segments 500).1.rows := by decide +kernel
    exact hall (detection 500) hmem rfl _ (.head _) rfl ⟨by decide, by decide⟩

end AeroXProtect
