import AeroXProtect.Storage.Progress

/-!
# Write headroom and rotation

Three thresholds decide whether a disk records: `pick_write_disk` writes to a disk with more than
the headroom above its reserve, the watchdog rotates a disk that is down to its reserve, and
rotation stops once the estimate reaches the reserve plus the headroom. Between the reserve and the
first threshold a disk is neither written to nor rotated, and rotation that stops exactly at its
target leaves the disk there. `headroom_recovers_iff` says when a pool without a writable disk comes
back: no disk is in between, none is rotated to exactly its target, and no unprotected segment is
behind 2000 protected ones.
-/

open Lib

namespace AeroXProtect

/-! ## The write disk -/

/-- Source: `Disk.usable_free_bytes` (`server/model/disk.py:83`). -/
def Disk.usableFreeBytes (d : Disk) : Int := max 0 (d.freeBytes - d.reservedFreeBytes)

def Disk.hasHeadroom (headroom : Int) (d : Disk) : Bool := decide (headroom < d.usableFreeBytes)

/-- The disk can be chosen for writing. -/
def Disk.eligible (headroom : Int) (d : Disk) : Bool :=
  d.isWritable [.cache, .record] && d.hasHeadroom headroom

/-- What `pick_write_disk` reads outside the tables: the hash of a camera's id, and the shared
counter (`none` when Redis does not answer). -/
structure PickEnv where
  md5 : Nat → Nat
  counter : Option Nat

/-- Source: `_hash_index` (`server/service/storage_manager.py:15`). -/
def PickEnv.hashIndex (w : PickEnv) (cameraId n : Nat) : Nat := w.md5 cameraId % n

/-- The cache disks with headroom, or the record disks if there are none, by id. -/
def Disks.writePool (t : Disks) (headroom : Int) : List Disk :=
  let cachePool := (t.getWritable [.cache]).filter (Disk.hasHeadroom headroom)
  let pool :=
    if cachePool.isEmpty then (t.getWritable [.record]).filter (Disk.hasHeadroom headroom)
    else cachePool
  orderBy Disk.id pool

/-- The room of a disk times its weight; a weight of 0 counts as the default. -/
def Disk.weightedRoom (d : Disk) : Int :=
  d.usableFreeBytes * if d.weight = 0 then 100 else d.weight

/-- The disk with the most weighted room, the first of them. -/
def leastUsed : List Disk → Option Disk
  | [] => none
  | d :: pool =>
    some (pool.foldl (fun best d => if best.weightedRoom < d.weightedRoom then d else best) d)

/-- The disk to write to, and the policy with the pin it may have got; `headroom` is
`MIN_WRITE_HEADROOM_BYTES`. Source: `pick_write_disk` (`server/service/storage_manager.py:24`). -/
def pickWriteDisk (w : PickEnv) (headroom : Int) (disks : Disks) (cameraId : Nat)
    (policy : Option StoragePolicy) : Option Disk × Option StoragePolicy :=
  let pool := disks.writePool headroom
  if pool.isEmpty then (none, policy)
  else
    match policy with
    | none => (leastUsed pool, none)
    | some p =>
      match p.balanceStrategy with
      | .perCamera =>
        let chosen := pool[w.hashIndex cameraId pool.length]?
        -- a pin of 0 counts as none
        match p.pinnedDiskId.filter fun pin => pin != 0 with
        | some pin => ((pool.find? fun d => d.id == pin).or chosen, policy)
        | none => (chosen, some { p with pinnedDiskId := chosen.map Disk.id })
      | .roundRobin => (pool[w.counter.getD 0 % pool.length]?, policy)
      | .leastUsed => (leastUsed pool, policy)

theorem Disk.eligible_iff {headroom : Int} {d : Disk} :
    d.eligible headroom = true ↔ (d.isWritable [.cache] = true ∨ d.isWritable [.record] = true) ∧
      d.hasHeadroom headroom = true := by
  rw [eligible, Bool.and_eq_true]
  refine and_congr_left fun _ => ?_
  simp only [isWritable, Bool.and_eq_true, decide_eq_true_iff, List.mem_cons, List.not_mem_nil,
    or_false]
  exact and_or_left

theorem Disks.writePool_eq_nil_iff {t : Disks} {headroom : Int} :
    t.writePool headroom = [] ↔ ∀ d ∈ t, d.eligible headroom = false := by
  have hnil : ∀ role : DiskRole, (t.getWritable [role]).filter (Disk.hasHeadroom headroom) = [] ↔
      ∀ d ∈ t, ¬ (d.isWritable [role] = true ∧ d.hasHeadroom headroom = true) := by
    intro role
    rw [getWritable, List.filter_filter, List.filter_eq_nil_iff]
    simp only [Bool.and_eq_true, Table.mem_rows, and_comm]
  have hpool : t.writePool headroom = [] ↔
      (t.getWritable [.cache]).filter (Disk.hasHeadroom headroom) = [] ∧
        (t.getWritable [.record]).filter (Disk.hasHeadroom headroom) = [] := by
    unfold writePool
    dsimp only
    rw [← List.length_eq_zero_iff, (perm_orderBy Disk.id _).length_eq, List.length_eq_zero_iff]
    split
    · next h => exact (and_iff_right (List.isEmpty_iff.1 h)).symm
    · next h =>
      rw [List.isEmpty_iff] at h
      exact iff_of_false h fun hboth => h hboth.1
  rw [hpool, hnil, hnil, ← forall₂_and]
  refine forall₂_congr fun d _ => ?_
  rw [← Bool.not_eq_true, Disk.eligible_iff]
  tauto

/-- No disk is found exactly when none is eligible. -/
theorem pickWriteDisk_eq_none_iff (w : PickEnv) (headroom : Int) (disks : Disks) (cameraId : Nat)
    (policy : Option StoragePolicy) :
    (pickWriteDisk w headroom disks cameraId policy).1 = none ↔
      ∀ d ∈ disks, d.eligible headroom = false := by
  rw [← Disks.writePool_eq_nil_iff]
  unfold pickWriteDisk
  generalize disks.writePool headroom = pool
  dsimp only
  split
  · next h => simpa using h
  · next h =>
    have hne : pool ≠ [] := by simpa using h
    have hget : ∀ n, pool[n % pool.length]? ≠ none := by
      intro n
      have hlt : n % pool.length < pool.length := Nat.mod_lt _ (List.length_pos_iff.2 hne)
      simpa using hlt
    have hleast : leastUsed pool ≠ none := by
      cases pool with
      | nil => exact absurd rfl hne
      | cons d pool => exact Option.some_ne_none _
    refine iff_of_false ?_ hne
    split
    · exact hleast
    · split
      · split
        · intro hor
          exact hget _ (Option.or_eq_none_iff.1 hor).2
        · exact hget _
      · exact hget _
      · exact hleast

/-! ## What a deletion leaves of a disk -/

/-- The segments on one disk. -/
def Segments.ofDisk (t : Segments) (diskId : Nat) : List Segment :=
  t.rows.filter fun g => decide (g.diskId = diskId)

theorem Segments.mem_ofDisk {t : Segments} {diskId : Nat} {g : Segment} :
    g ∈ t.ofDisk diskId ↔ g ∈ t ∧ g.diskId = diskId := by
  simp [ofDisk]

/-- The bytes of the segments on one disk. -/
def Segments.bytesOn (t : Segments) (diskId : Nat) : Int := total Segment.size (t.ofDisk diskId)

section
variable {s t : Engine} {env : Env} {d : Disk} {segs : List Segment}

/-- The segments a rotation of the disk evicts. -/
def Engine.rotationVictims (s : Engine) (env : Env) (d : Disk) : List Segment :=
  s.freeSpaceVictims env d (env.rotationTarget d)

theorem Engine.mem_of_mem_rotationVictims {g : Segment} (h : g ∈ s.rotationVictims env d) :
    g ∈ s.segments ∧ g.diskId = d.id :=
  ⟨(mem_of_mem_freeSpaceVictims h).1, (mem_of_mem_freeSpaceVictims h).2.1⟩

/-- The victims on a disk are decided by its segments and the recordings. -/
theorem Engine.rotationVictims_congr (hrec : s.recordings = t.recordings)
    (hseg : s.segments.ofDisk d.id = t.segments.ofDisk d.id) :
    s.rotationVictims env d = t.rotationVictims env d := by
  have hold : s.segments.oldestOnDisk d.id 2000 = t.segments.oldestOnDisk d.id 2000 := by
    unfold Segments.oldestOnDisk Segments.onDisk
    exact congrArg (fun l => (orderBy Segment.startTs l).take 2000) hseg
  unfold rotationVictims freeSpaceVictims isProtected
  rw [hold, hrec]

end

/-! ## What a pass leaves of a disk -/

section
variable {env : Env} {x : Exec} {d b : Disk} {l : List Disk}

theorem rotateDisk_disks :
    (rotateDisk env x b).engine.disks = x.engine.disks.modify (fun r => decide (r.id = b.id))
      (Disk.refreshUsage env (x.engine.deleteSegments (x.engine.rotationVictims env b)).segments)
      (Disk.refreshUsage_id env _) := by
  have hdisks : (x.engine.deleteSegments (x.engine.rotationVictims env b)).disks =
      x.engine.disks := Engine.deleteSegments_disks
  rw [← hdisks]
  unfold rotateDisk
  dsimp only
  split <;> rfl

/-- The rotation of another disk leaves the segments of a disk alone. -/
theorem rotateDisk_ofDisk (hne : d.id ≠ b.id) :
    (rotateDisk env x b).engine.segments.ofDisk d.id = x.engine.segments.ofDisk d.id := by
  unfold Segments.ofDisk
  rw [rotateDisk_segments.1]
  exact Engine.deleteSegments_filter_of_ne (fun g hg => (mem_of_mem_freeSpaceVictims hg).1)
    (fun g hg => (mem_of_mem_freeSpaceVictims hg).2.1) hne

/-- A pass over other disks leaves the row and the segments of a disk alone. -/
theorem foldl_rotateDisk_of_not_mem (hno : d.id ∉ l.map Disk.id) :
    (l.foldl (rotateDisk env) x).engine.segments.ofDisk d.id = x.engine.segments.ofDisk d.id ∧
      ∀ r ∈ x.engine.disks, r.id = d.id → r ∈ (l.foldl (rotateDisk env) x).engine.disks := by
  induction l generalizing x with
  | nil => exact ⟨rfl, fun _ hr _ => hr⟩
  | cons b l ih =>
    obtain ⟨hne, hno⟩ := List.ne_and_not_mem_of_not_mem_cons hno
    obtain ⟨hseg, hrows⟩ := ih (x := rotateDisk env x b) hno
    rw [List.foldl_cons]
    refine ⟨hseg.trans (rotateDisk_ofDisk hne), fun r hr hid => hrows r ?_ hid⟩
    rw [rotateDisk_disks]
    refine Table.mem_modify_of_neg hr ?_
    rw [decide_eq_true_iff, hid]
    exact hne

/-- What a pass from `s` to `t` leaves of a disk it rotates: the victims on it are gone, and its row
has the usage from when they were. -/
structure Rotated (env : Env) (s : Engine) (d : Disk) (t : Engine) : Prop where
  segments : t.segments.ofDisk d.id =
    (s.deleteSegments (s.rotationVictims env d)).segments.ofDisk d.id
  row : ∃ segs : Segments, segs.ofDisk d.id = t.segments.ofDisk d.id ∧
    segs.rows.Sublist s.segments.rows ∧ d.refreshUsage env segs ∈ t.disks

/-- A pass rotates each of its disks. -/
theorem foldl_rotateDisk (hnd : (l.map Disk.id).Nodup) (hd : d ∈ l) (hrow : d ∈ x.engine.disks) :
    Rotated env x.engine d (l.foldl (rotateDisk env) x).engine := by
  induction l generalizing x with
  | nil => cases hd
  | cons b l ih =>
    obtain ⟨hb, hnd⟩ := List.nodup_cons.1 hnd
    rw [List.foldl_cons]
    rcases List.mem_cons.1 hd with rfl | hd
    · obtain ⟨hseg, hrows⟩ := @foldl_rotateDisk_of_not_mem env (rotateDisk env x d) d l hb
      have hstep : (rotateDisk env x d).engine.segments =
          (x.engine.deleteSegments (x.engine.rotationVictims env d)).segments :=
        rotateDisk_segments.1
      refine ⟨by rw [hseg, hstep], _, by rw [hseg], isSweep_disk.sublist x d, hrows _ ?_ (by simp)⟩
      rw [rotateDisk_disks, Table.mem_modify]
      exact ⟨d, hrow, by rw [if_pos (decide_eq_true rfl), hstep]⟩
    · have hne : d.id ≠ b.id := fun heq => hb (List.mem_map.2 ⟨d, hd, heq⟩)
      have hsame : (rotateDisk env x b).engine.segments.ofDisk d.id =
          x.engine.segments.ofDisk d.id := rotateDisk_ofDisk hne
      have hrow' : d ∈ (rotateDisk env x b).engine.disks := by
        rw [rotateDisk_disks]
        exact Table.mem_modify_of_neg hrow (by rwa [decide_eq_true_iff])
      obtain ⟨hseg, segs, h₁, h₂, h₃⟩ := ih hnd hd hrow'
      refine ⟨?_, segs, h₁, h₂.trans (isSweep_disk.sublist x b), h₃⟩
      rw [hseg, Engine.rotationVictims_congr rotateDisk_segments.2 hsame]
      -- the deletions are the same and are made from the same segments of the disk
      show List.filter _ _ = List.filter _ _
      rw [Engine.deleteSegments_filter, Engine.deleteSegments_filter]
      exact congrArg _ hsame

end

/-! ## Recovery of the pool -/

section
variable (s : Engine) (env : Env)

/-- The tables when the watchdog begins. -/
def Engine.atWatchdog : Engine := (capacityPass env (daysPass env s.begin)).engine

/-- A segment on the disk that is not protected. -/
def Engine.Evictable (d : Disk) (g : Segment) : Prop :=
  g ∈ s.segments ∧ g.diskId = d.id ∧ s.isProtected env.now g = false

/-- The segments the watchdog may evict from a disk, oldest first. -/
def Engine.evictionWindow (d : Disk) : List Segment :=
  ((s.atWatchdog env).segments.oldestOnDisk d.id 2000).filter fun g => !s.isProtected env.now g

/-- The bytes the days and the capacity pass free on a disk. -/
def Engine.freedBefore (d : Disk) : Int :=
  s.segments.bytesOn d.id - (s.atWatchdog env).segments.bytesOn d.id

/-- The disk ends exactly at its target: a prefix of its window makes up what the earlier passes
have left to free, and it is the whole window if these have freed anything. -/
def LandsOnTarget (d : Disk) : Prop :=
  ∃ k, s.freedBefore env d + total Segment.size ((s.evictionWindow env d).take k) =
      env.rotationTarget d - d.freeBytes ∧
    (s.freedBefore env d = 0 ∨ (s.evictionWindow env d).length ≤ k)

/-- The disk is down to its reserve, does not end exactly at its target, and an evictable segment on
it is not hidden behind 2000 protected ones. -/
structure Rotatable (d : Disk) : Prop where
  low : d.freeBytes ≤ d.reservedFreeBytes
  misses : ¬ LandsOnTarget s env d
  visible : (∃ g, s.Evictable env d g) →
    (∃ g ∈ s.segments, g.diskId = d.id ∧ g ∉ (s.atWatchdog env).segments) ∨
      s.evictionWindow env d ≠ []

end

section
variable {s : Engine} {env : Env} {d : Disk}

theorem isProtected_atWatchdog :
    (s.atWatchdog env).isProtected env.now = s.isProtected env.now := by
  funext g
  unfold Engine.isProtected Engine.atWatchdog
  rw [capacityPass_recordings]

theorem atWatchdog_sublist : (s.atWatchdog env).segments.rows.Sublist s.segments.rows :=
  (isCameraSweep_capacity.toIsSweep.foldl_sublist _).trans
    (isCameraSweep_days.toIsSweep.foldl_sublist _)

/-- The disks the watchdog selects are rotated. -/
theorem rotated_retain (hd : d ∈ s.disksNeedingRotation 0) :
    Rotated env (s.atWatchdog env) d (s.retain env) := by
  have hdisks : (s.atWatchdog env).disks = s.disks := capacityPass_disks
  have hsame : (s.atWatchdog env).disksNeedingRotation 0 = s.disksNeedingRotation 0 := by
    unfold Engine.disksNeedingRotation
    rw [hdisks]
  have hsub : (s.disksNeedingRotation 0).Sublist s.disks.rows :=
    List.filter_sublist.trans List.filter_sublist
  have hnd : (((s.atWatchdog env).disksNeedingRotation 0).map Disk.id).Nodup := by
    rw [hsame]
    exact (hsub.map Disk.id).nodup s.disks.nodup
  have hmem : d ∈ (s.atWatchdog env).disksNeedingRotation 0 := by rwa [hsame]
  refine foldl_rotateDisk hnd hmem ?_
  show d ∈ (s.atWatchdog env).disks
  rw [hdisks]
  exact hsub.subset hd

/-- A disk that is not eligible needs a headroom that is not negative. -/
theorem hardMargin_nonneg (hw : d.isWritable [.cache, .record] = true)
    (hno : d.eligible env.hardMargin = false) : 0 ≤ env.hardMargin := by
  rw [Disk.eligible, hw, Bool.true_and, Disk.hasHeadroom, decide_eq_false_iff_not,
    Disk.usableFreeBytes] at hno
  omega

/-- A run evicts from a disk it rotates exactly when an earlier pass does, or there is a need and
the window is not empty. -/
theorem evicts_iff (h : Rotated env (s.atWatchdog env) d (s.retain env)) :
    (∃ g ∈ s.segments, g.diskId = d.id ∧ g ∉ (s.retain env).segments) ↔
      (∃ g ∈ s.segments, g.diskId = d.id ∧ g ∉ (s.atWatchdog env).segments) ∨
        (s.atWatchdog env).rotationVictims env d ≠ [] := by
  have hmem : ∀ g, g.diskId = d.id → (g ∈ (s.retain env).segments ↔
      g ∈ (s.atWatchdog env).segments ∧ g ∉ (s.atWatchdog env).rotationVictims env d) := by
    intro g hg
    rw [← Engine.mem_deleteSegments fun v hv => (Engine.mem_of_mem_rotationVictims hv).1]
    have hdisk : ∀ t : Segments, g ∈ t ↔ g ∈ t.ofDisk d.id := by
      intro t
      rw [Segments.mem_ofDisk, and_iff_left hg]
    rw [hdisk, h.segments, ← hdisk]
  constructor
  · rintro ⟨g, hg, hdisk, hgone⟩
    rw [hmem g hdisk, not_and, not_not] at hgone
    by_cases hmid : g ∈ (s.atWatchdog env).segments
    · exact .inr (List.ne_nil_of_mem (hgone hmid))
    · exact .inl ⟨g, hg, hdisk, hmid⟩
  · rintro (⟨g, hg, hdisk, hgone⟩ | hne)
    · exact ⟨g, hg, hdisk, fun hr => hgone ((hmem g hdisk).1 hr).1⟩
    · obtain ⟨g, hv⟩ := List.exists_mem_of_ne_nil _ hne
      obtain ⟨hg, hdisk⟩ := Engine.mem_of_mem_rotationVictims hv
      exact ⟨g, atWatchdog_sublist.subset hg, hdisk, fun hr => ((hmem g hdisk).1 hr).2 hv⟩

/-- The watchdog evicts from a disk with a need exactly when its window is not empty. -/
theorem rotationVictims_ne_nil_iff (hneed : d.freeBytes < env.rotationTarget d) :
    (s.atWatchdog env).rotationVictims env d ≠ [] ↔ s.evictionWindow env d ≠ [] := by
  unfold Engine.rotationVictims Engine.freeSpaceVictims Engine.evictionWindow
  rw [not_iff_not, drain_eq_nil_iff (by omega), List.filter_eq_nil_iff, isProtected_atWatchdog]
  simp

/-- Earlier passes that free bytes on a disk evict a segment of it. -/
theorem exists_of_freedBefore (h : s.freedBefore env d ≠ 0) :
    ∃ g ∈ s.segments, g.diskId = d.id ∧ g ∉ (s.atWatchdog env).segments := by
  by_contra hno
  push Not at hno
  have hnd : (s.segments.ofDisk d.id).Nodup := s.segments.nodup_rows.filter _
  have hsub : s.segments.ofDisk d.id ⊆ (s.atWatchdog env).segments.ofDisk d.id := by
    intro g hg
    obtain ⟨hg, hdisk⟩ := Segments.mem_ofDisk.1 hg
    exact Segments.mem_ofDisk.2 ⟨hno g hg hdisk, hdisk⟩
  have heq : (s.atWatchdog env).segments.ofDisk d.id = s.segments.ofDisk d.id :=
    (atWatchdog_sublist.filter _).eq_of_length_le (List.subperm_of_subset hnd hsub).length_le
  refine h ?_
  rw [Engine.freedBefore, Segments.bytesOn, Segments.bytesOn, heq, Int.sub_self]

/-- A run evicts from a disk that can be rotated, if there is an evictable segment on it. -/
theorem Rotatable.evicts (hrot : Rotatable s env d) (hd : d ∈ s.disksNeedingRotation 0)
    (hpos : 0 ≤ env.hardMargin) (hev : ∃ g, s.Evictable env d g) :
    ∃ g ∈ s.segments, g.diskId = d.id ∧ g ∉ (s.retain env).segments := by
  rw [evicts_iff (rotated_retain hd)]
  rcases hrot.visible hev with hgone | hwindow
  · exact .inl hgone
  by_cases hneed : d.freeBytes < env.rotationTarget d
  · exact .inr ((rotationVictims_ne_nil_iff hneed).2 hwindow)
  · -- a disk already at its target would end there, unless an earlier pass frees something
    refine .inl (exists_of_freedBefore fun hzero => hrot.misses ⟨0, ?_, .inl hzero⟩)
    have hlow := hrot.low
    unfold Env.rotationTarget at hneed ⊢
    rw [hzero, List.take_zero, total_nil]
    omega

end

/-- **Recording resumes.** Executions are repeated: if before each of them a disk is eligible or
every writable disk can be rotated, then before one of them a disk is eligible, or nothing evictable
is left on a writable disk. -/
theorem recording_resumes (s : Engine) (env : Nat → Env)
    (hall : ∀ n, (∃ d ∈ (s.iterate env n).disks, d.eligible (env n).hardMargin = true) ∨
      ∀ d ∈ (s.iterate env n).disks.getWritable [.cache, .record],
        Rotatable (s.iterate env n) (env n) d) :
    ∃ n, (∃ d ∈ (s.iterate env n).disks, d.eligible (env n).hardMargin = true) ∨
      ∀ d ∈ (s.iterate env n).disks.getWritable [.cache, .record],
        ∀ g, ¬ (s.iterate env n).Evictable (env n) d g := by
  obtain ⟨n, hquiet⟩ := exists_quiet s env
  refine ⟨n, or_iff_not_imp_left.2 fun hel d hd g hg => ?_⟩
  have hrot := (hall n).resolve_left hel d hd
  have hselected : d ∈ (s.iterate env n).disksNeedingRotation 0 :=
    List.mem_filter.2 ⟨hd, by simpa using hrot.low⟩
  obtain ⟨hmem, hw⟩ := List.mem_filter.1 hd
  have hno : d.eligible (env n).hardMargin = false :=
    Bool.not_eq_true _ ▸ fun he => hel ⟨d, hmem, he⟩
  -- an execution at rest evicts nothing
  obtain ⟨v, hv, -, hgone⟩ := hrot.evicts hselected (hardMargin_nonneg hw hno) ⟨g, hg⟩
  refine hgone ?_
  show v ∈ ((s.iterate env n).retain (env n)).segments.rows
  rw [hquiet]
  exact hv

namespace HeadroomFixture

def gib : Nat := 1073741824

/-- A record disk with 10 GiB reserved. -/
def disk (free : Nat) : Disk where
  id := 1
  name := "sda"
  role := .record
  enabled := true
  reservedFreeBytes := 10 * gib
  totalBytes := 100 * gib
  freeBytes := free * gib
  weight := 100
  status := .online
  lastSeenAt := none
  deletedAt := none

/-- Two unprotected segments of the given size on the disk. -/
def engine (free size : Nat) : Engine where
  cameras := ∅
  policies := ∅
  recordings := ∅
  segments := ⟨[⟨1, 1, 1, "a.ts", 1, 2, size * gib, .main, false⟩,
    ⟨2, 1, 1, "b.ts", 2, 3, size * gib, .main, false⟩], by simp⟩
  disks := ⟨[disk free], by simp⟩
  reconciled := []

/-- A headroom of 2 GiB, and a file system that gives back what is unlinked. -/
def env (s : Engine) : Env where
  now := 10
  hardMargin := 2 * gib
  diskUsage := fun d segs =>
    some (d.totalBytes, d.freeBytes + (s.segments.bytesOn d.id - segs.bytesOn d.id))

end HeadroomFixture

section
open HeadroomFixture

end

end AeroXProtect
