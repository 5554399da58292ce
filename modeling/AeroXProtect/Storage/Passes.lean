import AeroXProtect.Storage.Retention

/-!
# What the passes of the retention engine do

Every step of every pass deletes a list of segments and nothing else that another step reads: the
recordings and the cameras stay, the segments of another camera stay (`daysCamera_segments`,
`capacityCamera_segments`, `rotateDisk_segments`). `foldl_ofCamera` reads a pass over all cameras
off its step for one camera; `foldl_fixed` splits a pass that deletes nothing into steps that delete
nothing.
-/

open Lib

namespace AeroXProtect

/-! ## Deletions -/

/-- The segments of one camera. -/
def Segments.ofCamera (t : Segments) (camId : Nat) : List Segment :=
  t.rows.filter fun seg => decide (seg.cameraId = camId)

theorem Segments.mem_ofCamera {t : Segments} {camId : Nat} {g : Segment} :
    g ∈ t.ofCamera camId ↔ g ∈ t ∧ g.cameraId = camId := by
  simp [ofCamera]

section
variable {s : Engine} {segs : List Segment}

/-- Deleting segments changes only the segments. -/
theorem Engine.deleteSegments_eq :
    s.deleteSegments segs = { s with
      segments := s.segments.delete fun r => decide (r.id ∈ segs.map Segment.id) } := by
  induction segs generalizing s with
  | nil => simp [deleteSegments, Table.delete]
  | cons g segs ih =>
    have : (s.deleteSegments (g :: segs)) = (s.deleteSegment g).deleteSegments segs := rfl
    rw [this, ih]
    simp only [deleteSegment, Table.delete, List.filter_filter, Engine.mk.injEq, Table.mk.injEq,
      true_and, and_true]
    refine List.filter_congr fun r _ => ?_
    by_cases h : r.id = g.id <;> simp [h]

@[simp] theorem Engine.deleteSegments_recordings :
    (s.deleteSegments segs).recordings = s.recordings := by rw [deleteSegments_eq]

@[simp] theorem Engine.deleteSegments_cameras :
    (s.deleteSegments segs).cameras = s.cameras := by rw [deleteSegments_eq]

@[simp] theorem Engine.deleteSegments_policies :
    (s.deleteSegments segs).policies = s.policies := by rw [deleteSegments_eq]

@[simp] theorem Engine.deleteSegments_disks :
    (s.deleteSegments segs).disks = s.disks := by rw [deleteSegments_eq]

@[simp] theorem Engine.deleteSegments_reconciled :
    (s.deleteSegments segs).reconciled = s.reconciled := by rw [deleteSegments_eq]

/-- The rows a deletion leaves. -/
theorem Engine.deleteSegments_rows :
    (s.deleteSegments segs).segments.rows =
      s.segments.rows.filter fun r => !decide (r.id ∈ segs.map Segment.id) := by
  rw [deleteSegments_eq]; rfl

/-- A segment of the table stays exactly when it is not one of those deleted. -/
theorem Engine.mem_deleteSegments (hsub : ∀ g ∈ segs, g ∈ s.segments) {g : Segment} :
    g ∈ (s.deleteSegments segs).segments ↔ g ∈ s.segments ∧ g ∉ segs := by
  rw [deleteSegments_eq, Table.mem_delete]
  refine and_congr_right fun hg => ?_
  rw [decide_eq_false_iff_not, not_iff_not, List.mem_map]
  constructor
  · rintro ⟨v, hv, hid⟩
    rwa [← Table.eq_of_key_eq (hsub v hv) hg hid]
  · exact fun h => ⟨g, h, rfl⟩

/-- The segments with a property that a deletion leaves. -/
theorem Engine.deleteSegments_filter (p : Segment → Bool) :
    (s.deleteSegments segs).segments.rows.filter p =
      (s.segments.rows.filter p).filter fun r => !decide (r.id ∈ segs.map Segment.id) := by
  rw [deleteSegments_rows, List.filter_filter, List.filter_filter]
  simp only [Bool.and_comm]

/-- Deleting segments with a property takes their bytes from those with the property. -/
theorem Engine.total_deleteSegments_filter {p : Segment → Bool} (hnd : segs.Nodup)
    (hsub : ∀ g ∈ segs, g ∈ s.segments ∧ p g = true) :
    total Segment.size ((s.deleteSegments segs).segments.rows.filter p) =
      total Segment.size (s.segments.rows.filter p) - total Segment.size segs := by
  have hperm : ((s.segments.rows.filter p).filter fun g => decide (g.id ∈ segs.map Segment.id)).Perm
      segs := by
    have hnd' : (s.segments.rows.filter p).Nodup := s.segments.nodup_rows.filter _
    refine (List.perm_ext_iff_of_nodup (hnd'.filter _) hnd).2 fun g => ?_
    rw [List.mem_filter, List.mem_filter, decide_eq_true_iff]
    constructor
    · rintro ⟨⟨hg, -⟩, hid⟩
      obtain ⟨v, hv, hvid⟩ := List.mem_map.1 hid
      rwa [← Table.eq_of_key_eq (hsub v hv).1 hg hvid]
    · exact fun hg => ⟨hsub g hg, List.mem_map_of_mem hg⟩
  have hsplit := (List.filter_append_perm (fun g => decide (g.id ∈ segs.map Segment.id))
    (s.segments.rows.filter p)).map Segment.size
  have hsum := hsplit.sum_eq
  rw [List.map_append, List.sum_append, (hperm.map Segment.size).sum_eq] at hsum
  unfold total
  rw [deleteSegments_filter]
  omega

/-- The segments with a value of a column stay when the deleted ones have another value. -/
theorem Engine.deleteSegments_filter_of_ne (hsub : ∀ g ∈ segs, g ∈ s.segments)
    {column : Segment → Nat} {a b : Nat} (ha : ∀ g ∈ segs, column g = a) (hne : b ≠ a) :
    (s.deleteSegments segs).segments.rows.filter (fun g => decide (column g = b)) =
      s.segments.rows.filter fun g => decide (column g = b) := by
  rw [deleteSegments_rows, List.filter_filter]
  refine List.filter_congr fun r hr => ?_
  by_cases hb : column r = b
  · have hno : r.id ∉ segs.map Segment.id := by
      rintro hid
      obtain ⟨v, hv, hvid⟩ := List.mem_map.1 hid
      rw [← Table.eq_of_key_eq (hsub v hv) hr hvid, ha v hv] at hb
      exact hne hb.symm
    simp [hb, hno]
  · simp [hb]

/-- The segments of a camera that a deletion leaves. -/
theorem Engine.deleteSegments_ofCamera {c : Nat} :
    (s.deleteSegments segs).segments.ofCamera c =
      (s.segments.ofCamera c).filter fun r => !decide (r.id ∈ segs.map Segment.id) :=
  deleteSegments_filter _

/-- The segments of a camera stay when the deleted ones are of another camera. -/
theorem Engine.deleteSegments_ofCamera_of_ne (hsub : ∀ g ∈ segs, g ∈ s.segments) {camId c : Nat}
    (hcam : ∀ g ∈ segs, g.cameraId = camId) (hne : c ≠ camId) :
    (s.deleteSegments segs).segments.ofCamera c = s.segments.ofCamera c :=
  deleteSegments_filter_of_ne hsub hcam hne

end

/-! ## The queries -/

section
variable {t : Segments} {camId : Nat}

theorem Segments.oldestForCamera_eq (limit : Nat) :
    t.oldestForCamera camId limit = (orderBy Segment.startTs (t.ofCamera camId)).take limit := rfl

theorem Segments.before_eq (cutoff : Int) :
    t.before camId cutoff =
      orderBy Segment.startTs ((t.ofCamera camId).filter fun g => decide (g.endTs < cutoff)) := by
  unfold before ofCamera
  rw [List.filter_filter]
  simp only [Bool.and_comm]

theorem Segments.totalSizeForCamera_eq :
    t.totalSizeForCamera camId = total Segment.size (t.ofCamera camId) := rfl

theorem total_orderBy (l : List Segment) :
    total Segment.size (orderBy Segment.startTs l) = total Segment.size l :=
  ((perm_orderBy Segment.startTs l).map Segment.size).sum_eq

theorem Segments.mem_of_mem_olderThan {cutoff : Int} {limit : Nat} {g : Segment}
    (h : g ∈ t.olderThan camId cutoff limit) : g ∈ t ∧ g.cameraId = camId := by
  have hb := List.mem_of_mem_take h
  rw [before_eq, mem_orderBy] at hb
  exact mem_ofCamera.1 (List.mem_filter.1 hb).1

theorem Segments.mem_of_mem_oldestForCamera {limit : Nat} {g : Segment}
    (h : g ∈ t.oldestForCamera camId limit) : g ∈ t ∧ g.cameraId = camId := by
  have hb := List.mem_of_mem_take h
  exact mem_ofCamera.1 (mem_orderBy.1 hb)

theorem Segments.nodup_oldestForCamera (t : Segments) (camId limit : Nat) :
    (t.oldestForCamera camId limit).Nodup :=
  (t.nodup_orderBy _ _).sublist (List.take_sublist _ _)

theorem Segments.mem_of_mem_oldestOnDisk {diskId limit : Nat} {g : Segment}
    (h : g ∈ t.oldestOnDisk diskId limit) : g ∈ t ∧ g.diskId = diskId := by
  have hb := List.mem_of_mem_take h
  unfold onDisk at hb
  simpa using hb

end

/-! ## The steps -/

/-- The segments the days pass deletes for a camera under a policy. -/
def Engine.expired (s : Engine) (env : Env) (camId : Nat) (pol : StoragePolicy) : List Segment :=
  match pol.retentionDays with
  | none => []
  | some d => if d = 0 then [] else s.daysVictims env camId d

/-- The segments the capacity pass deletes for a camera under a policy. -/
def Engine.overflow (s : Engine) (env : Env) (camId : Nat) (pol : StoragePolicy) : List Segment :=
  match pol.retentionMaxBytes with
  | none => []
  | some m =>
    if m = 0 ∨ s.segments.totalSizeForCamera camId ≤ m ∨ pol.overCapacityPolicy ≠ .deleteOldest
    then [] else s.capacityVictims env camId m

section
variable {env : Env} {x : Exec} {camId : Nat} {pol : StoragePolicy} {s : Engine}

theorem mem_of_mem_expired {g : Segment} (h : g ∈ s.expired env camId pol) :
    g ∈ s.segments ∧ g.cameraId = camId ∧ s.isProtected env.now g = false := by
  unfold Engine.expired at h
  split at h
  · cases h
  · split at h
    · cases h
    · obtain ⟨hw, hp⟩ := List.mem_filter.1 h
      obtain ⟨hg, rfl⟩ := Segments.mem_of_mem_olderThan hw
      exact ⟨hg, rfl, by simpa [Engine.isProtected] using hp⟩

/-- The unprotected segments of the window that the eviction loop deletes. -/
def Engine.unprotectedVictims (s : Engine) (env : Env) (camId : Nat) (m : Int) : List Segment :=
  drain Segment.size (s.isProtected env.now) (s.segments.totalSizeForCamera camId - m)
    (s.segments.oldestForCamera camId 5000)

/-- The protected segments of the window that it deletes behind them. -/
def Engine.protectedVictims (s : Engine) (env : Env) (camId : Nat) (m : Int) : List Segment :=
  drain Segment.size (fun g => !s.isProtected env.now g)
    (s.segments.totalSizeForCamera camId -
      total Segment.size (s.unprotectedVictims env camId m) - m)
    (s.segments.oldestForCamera camId 5000)

/-- The second round finds only protected segments: when it is needed, the first one has taken all
the others of the window. -/
theorem capacityVictims_eq {m : Int} : s.capacityVictims env camId m =
    s.unprotectedVictims env camId m ++ s.protectedVictims env camId m := by
  have hmem : ∀ y ∈ s.segments.oldestForCamera camId 5000, y ∈ s.segments ∧ y.cameraId = camId :=
    fun y hy => Segments.mem_of_mem_oldestForCamera hy
  have hone : s.roundOne env camId (s.segments.totalSizeForCamera camId) m =
      s.unprotectedVictims env camId m :=
    drain_congr fun y hy => by rw [Engine.isProtected, (hmem y hy).2]
  unfold Engine.capacityVictims
  dsimp only
  rw [hone]
  split
  · next hle =>
    rw [Engine.protectedVictims, drain_of_nonpos (by omega), List.append_nil]
  · next hlt =>
    congr 1
    refine drain_congr fun y hy => ?_
    have hall : s.unprotectedVictims env camId m = (s.segments.oldestForCamera camId 5000).filter
        fun y => !s.isProtected env.now y := by
      unfold Engine.unprotectedVictims at hlt ⊢
      exact drain_eq_filter_of_lt (by omega)
    rw [← Bool.coe_iff_coe, decide_eq_true_iff, List.mem_map, hall]
    constructor
    · rintro ⟨v, hv, hid⟩
      obtain ⟨hv, hprot⟩ := List.mem_filter.1 hv
      rwa [← Table.eq_of_key_eq (hmem v hv).1 (hmem y hy).1 hid]
    · exact fun h => ⟨y, List.mem_filter.2 ⟨hy, h⟩, rfl⟩

/-- Both rounds of the eviction loop look at the same window. -/
theorem mem_window_of_mem_capacityVictims {m : Int} {g : Segment}
    (h : g ∈ s.capacityVictims env camId m) : g ∈ s.segments.oldestForCamera camId 5000 := by
  rw [capacityVictims_eq] at h
  rcases List.mem_append.1 h with h | h
  · exact (mem_of_mem_drain h).1
  · exact (mem_of_mem_drain h).1

theorem mem_overflow_iff {g : Segment} :
    g ∈ s.overflow env camId pol ↔ ∃ m, pol.retentionMaxBytes = some m ∧ m ≠ 0 ∧
      m < s.segments.totalSizeForCamera camId ∧ pol.overCapacityPolicy = .deleteOldest ∧
      g ∈ s.capacityVictims env camId m := by
  unfold Engine.overflow
  cases pol.retentionMaxBytes with
  | none => simp
  | some m =>
    simp only [Option.some.injEq, exists_eq_left']
    split
    · next h =>
      refine iff_of_false List.not_mem_nil ?_
      rintro ⟨h1, h2, h3, -⟩
      rcases h with h | h | h
      · exact h1 h
      · omega
      · exact h h3
    · next h =>
      rw [not_or, not_or, not_not] at h
      exact ⟨fun hg => ⟨h.1, by omega, h.2.2, hg⟩, fun hg => hg.2.2.2⟩

theorem mem_of_mem_overflow {g : Segment} (h : g ∈ s.overflow env camId pol) :
    g ∈ s.segments ∧ g.cameraId = camId := by
  obtain ⟨m, -, -, -, -, hg⟩ := mem_overflow_iff.1 h
  exact Segments.mem_of_mem_oldestForCamera (mem_window_of_mem_capacityVictims hg)

/-- A step of the days pass deletes the expired segments of its camera. -/
theorem daysCamera_engine :
    (daysCamera env x (camId, pol)).engine =
      x.engine.deleteSegments (x.engine.expired env camId pol) := by
  unfold daysCamera Engine.expired
  cases pol.retentionDays with
  | none => rfl
  | some d =>
    simp only
    split
    · rfl
    · rfl

/-- A step of the capacity pass deletes the overflow of its camera and leaves the recordings. -/
theorem capacityCamera_segments :
    (capacityCamera env x (camId, pol)).engine.segments =
        (x.engine.deleteSegments (x.engine.overflow env camId pol)).segments ∧
      (capacityCamera env x (camId, pol)).engine.recordings = x.engine.recordings ∧
      (capacityCamera env x (camId, pol)).engine.disks = x.engine.disks := by
  unfold capacityCamera Engine.overflow
  cases pol.retentionMaxBytes with
  | none => exact ⟨rfl, rfl, rfl⟩
  | some m =>
    simp only
    by_cases h : m = 0 ∨ x.engine.segments.totalSizeForCamera camId ≤ m
    · rw [if_pos h, if_pos (by tauto)]
      exact ⟨rfl, rfl, rfl⟩
    · rw [if_neg h]
      cases hp : pol.overCapacityPolicy with
      | deleteOldest =>
        rw [if_neg (by tauto)]
        exact ⟨rfl, Engine.deleteSegments_recordings, Engine.deleteSegments_disks⟩
      | stopRecording =>
        rw [if_pos (by simp)]
        exact ⟨rfl, rfl, rfl⟩
      | warnOnly =>
        rw [if_pos (by simp)]
        exact ⟨rfl, rfl, rfl⟩

/-- A step of the watchdog deletes the victims on its disk and leaves the recordings. -/
theorem rotateDisk_segments {d : Disk} :
    (rotateDisk env x d).engine.segments =
        (x.engine.deleteSegments
          (x.engine.freeSpaceVictims env d (env.rotationTarget d))).segments ∧
      (rotateDisk env x d).engine.recordings = x.engine.recordings := by
  unfold rotateDisk
  simp only
  split <;> exact ⟨rfl, Engine.deleteSegments_recordings⟩

theorem mem_of_mem_freeSpaceVictims {d : Disk} {target : Int} {g : Segment}
    (h : g ∈ s.freeSpaceVictims env d target) :
    g ∈ s.segments ∧ g.diskId = d.id ∧ s.isProtected env.now g = false := by
  obtain ⟨hw, hp⟩ := mem_of_mem_drain h
  obtain ⟨hg, hd⟩ := Segments.mem_of_mem_oldestOnDisk hw
  exact ⟨hg, hd, hp⟩

end

/-! ## Passes -/

/-- The step `f` of a pass deletes the segments `victims` selects, which are segments of the table,
and leaves the recordings alone. -/
structure IsSweep {α : Type} (f : Exec → α → Exec) (victims : Engine → α → List Segment) :
    Prop where
  segments : ∀ x a, (f x a).engine.segments =
    (x.engine.deleteSegments (victims x.engine a)).segments
  recordings : ∀ x a, (f x a).engine.recordings = x.engine.recordings
  sub : ∀ s a, ∀ g ∈ victims s a, g ∈ s.segments

/-- A sweep whose step for a camera reads and deletes segments of that camera only. -/
structure IsCameraSweep (f : Exec → Nat × StoragePolicy → Exec)
    (victims : Engine → Nat × StoragePolicy → List Segment) : Prop extends IsSweep f victims where
  camera : ∀ s a, ∀ g ∈ victims s a, g.cameraId = a.1
  reads : ∀ s t a, s.recordings = t.recordings →
    s.segments.ofCamera a.1 = t.segments.ofCamera a.1 → victims s a = victims t a

section
variable {env : Env}

theorem isCameraSweep_days : IsCameraSweep (daysCamera env) fun s a => s.expired env a.1 a.2 where
  segments := fun x a => by rw [daysCamera_engine]
  recordings := fun x a => by rw [daysCamera_engine, Engine.deleteSegments_recordings]
  sub := fun _ _ _ hg => (mem_of_mem_expired hg).1
  camera := fun _ _ _ hg => (mem_of_mem_expired hg).2.1
  reads := fun s t a hrec hseg => by
    simp only [Engine.expired, Engine.daysVictims, Segments.olderThan, Segments.before_eq, hrec,
      hseg]

theorem isCameraSweep_capacity :
    IsCameraSweep (capacityCamera env) fun s a => s.overflow env a.1 a.2 where
  segments := fun _ _ => capacityCamera_segments.1
  recordings := fun _ _ => capacityCamera_segments.2.1
  sub := fun _ _ _ hg => (mem_of_mem_overflow hg).1
  camera := fun _ _ _ hg => (mem_of_mem_overflow hg).2
  reads := fun s t a hrec hseg => by
    have htotal : s.segments.totalSizeForCamera a.1 = t.segments.totalSizeForCamera a.1 := by
      rw [Segments.totalSizeForCamera_eq, hseg, Segments.totalSizeForCamera_eq]
    have hvictims : s.capacityVictims env a.1 = t.capacityVictims env a.1 := by
      unfold Engine.capacityVictims Engine.roundOne Engine.roundTwo
      rw [htotal, hrec, Segments.oldestForCamera_eq, hseg, Segments.oldestForCamera_eq]
    unfold Engine.overflow
    rw [htotal, hvictims]

theorem isSweep_disk :
    IsSweep (rotateDisk env) fun s d => s.freeSpaceVictims env d (env.rotationTarget d) where
  segments := fun _ _ => rotateDisk_segments.1
  recordings := fun _ _ => rotateDisk_segments.2
  sub := fun _ _ _ hg => (mem_of_mem_freeSpaceVictims hg).1

end

section
variable {α : Type} {f : Exec → α → Exec} {victims : Engine → α → List Segment} {x : Exec}

theorem IsSweep.sublist (h : IsSweep f victims) (x : Exec) (a : α) :
    (f x a).engine.segments.rows.Sublist x.engine.segments.rows := by
  rw [h.segments, Engine.deleteSegments_rows]
  exact List.filter_sublist

/-- A pass keeps the recordings. -/
theorem IsSweep.foldl_recordings (h : IsSweep f victims) (l : List α) :
    (l.foldl f x).engine.recordings = x.engine.recordings := by
  induction l generalizing x with
  | nil => rfl
  | cons a l ih => rw [List.foldl_cons, ih, h.recordings]

/-- A pass only removes segments. -/
theorem IsSweep.foldl_sublist (h : IsSweep f victims) (l : List α) :
    (l.foldl f x).engine.segments.rows.Sublist x.engine.segments.rows := by
  induction l generalizing x with
  | nil => exact .refl _
  | cons a l ih => exact (ih (x := f x a)).trans (h.sublist x a)

/-- A segment that no step of the pass may select stays. -/
theorem IsSweep.mem_foldl (h : IsSweep f victims) {g : Segment} {l : List α}
    (hg : g ∈ x.engine.segments)
    (hno : ∀ a ∈ l, ∀ s : Engine, s.recordings = x.engine.recordings → g ∉ victims s a) :
    g ∈ (l.foldl f x).engine.segments := by
  induction l generalizing x with
  | nil => exact hg
  | cons a l ih =>
    rw [List.foldl_cons]
    refine ih ?_ fun b hb s hs => hno b (.tail _ hb) s (hs.trans (h.recordings x a))
    rw [h.segments, Engine.mem_deleteSegments (h.sub _ _)]
    exact ⟨hg, hno a (.head _) _ rfl⟩

end

section
variable {f : Exec → Nat × StoragePolicy → Exec}
  {victims : Engine → Nat × StoragePolicy → List Segment} {x : Exec}

/-- A pass leaves the segments of a camera it does not visit. -/
theorem IsCameraSweep.foldl_ofCamera_of_not_mem (h : IsCameraSweep f victims) {c : Nat}
    {l : List (Nat × StoragePolicy)} (hc : c ∉ l.map Prod.fst) :
    (l.foldl f x).engine.segments.ofCamera c = x.engine.segments.ofCamera c := by
  induction l generalizing x with
  | nil => rfl
  | cons a l ih =>
    obtain ⟨hne, hc⟩ := List.ne_and_not_mem_of_not_mem_cons hc
    rw [List.foldl_cons, ih hc, h.segments]
    exact Engine.deleteSegments_ofCamera_of_ne (h.sub _ _) (h.camera _ _) hne

/-- A pass leaves of a camera it visits what the step for that camera leaves. -/
theorem IsCameraSweep.foldl_ofCamera (h : IsCameraSweep f victims)
    {l : List (Nat × StoragePolicy)} (hnd : (l.map Prod.fst).Nodup) {a : Nat × StoragePolicy}
    (ha : a ∈ l) :
    (l.foldl f x).engine.segments.ofCamera a.1 =
      (x.engine.segments.ofCamera a.1).filter fun r =>
        !decide (r.id ∈ (victims x.engine a).map Segment.id) := by
  induction l generalizing x with
  | nil => cases ha
  | cons b l ih =>
    obtain ⟨hb, hnd⟩ := List.nodup_cons.1 hnd
    rw [List.foldl_cons]
    rcases List.mem_cons.1 ha with rfl | ha
    · rw [h.foldl_ofCamera_of_not_mem hb, h.segments, Engine.deleteSegments_ofCamera]
    · have hne : a.1 ≠ b.1 := fun heq => hb (List.mem_map.2 ⟨a, ha, heq⟩)
      have hsame : (f x b).engine.segments.ofCamera a.1 = x.engine.segments.ofCamera a.1 := by
        rw [h.segments]
        exact Engine.deleteSegments_ofCamera_of_ne (h.sub _ _) (h.camera _ _) hne
      rw [ih hnd ha, hsame, h.reads _ _ a (h.recordings x b) hsame]

end

/-! ## The policies in effect -/

theorem Engine.nodup_effectivePolicies (s : Engine) :
    (s.effectivePolicies.map Prod.fst).Nodup := by
  have hsub : (s.effectivePolicies.map Prod.fst).Sublist
      (s.cameras.getAllEnabled.map Camera.id) := by
    unfold effectivePolicies
    rw [List.map_filterMap]
    induction s.cameras.getAllEnabled with
    | nil => exact .slnil
    | cons c l ih =>
      cases hp : s.policies.getForCamera c.id with
      | none => simpa [hp] using ih.cons _
      | some p => simpa [hp] using ih
  exact (hsub.trans (List.filter_sublist.map Camera.id)).nodup s.cameras.nodup

/-- The days pass leaves the policies in effect as they are. -/
theorem daysPass_effectivePolicies (env : Env) (x : Exec) :
    (daysPass env x).engine.effectivePolicies = x.engine.effectivePolicies := by
  have key : ∀ (l : List (Nat × StoragePolicy)) (x : Exec),
      (l.foldl (daysCamera env) x).engine.cameras = x.engine.cameras ∧
        (l.foldl (daysCamera env) x).engine.policies = x.engine.policies := by
    intro l
    induction l with
    | nil => exact fun _ => ⟨rfl, rfl⟩
    | cons a l ih =>
      intro x
      obtain ⟨h1, h2⟩ := ih (daysCamera env x a)
      rw [List.foldl_cons, h1, h2, daysCamera_engine]
      exact ⟨Engine.deleteSegments_cameras, Engine.deleteSegments_policies⟩
  obtain ⟨h1, h2⟩ := key x.engine.effectivePolicies x
  unfold Engine.effectivePolicies
  rw [daysPass, h1, h2]

/-! ## One execution -/

section
variable (s : Engine) (env : Env)

theorem daysPass_recordings : (daysPass env s.begin).engine.recordings = s.recordings :=
  isCameraSweep_days.toIsSweep.foldl_recordings _

theorem capacityPass_recordings :
    (capacityPass env (daysPass env s.begin)).engine.recordings = s.recordings :=
  (isCameraSweep_capacity.toIsSweep.foldl_recordings _).trans (daysPass_recordings s env)

theorem Engine.retain_recordings : (s.retain env).recordings = s.recordings :=
  (isSweep_disk.foldl_recordings _).trans (capacityPass_recordings s env)

/-- An execution only removes segments. -/
theorem Engine.retain_sublist : (s.retain env).segments.rows.Sublist s.segments.rows :=
  (isSweep_disk.foldl_sublist _).trans
    ((isCameraSweep_capacity.toIsSweep.foldl_sublist _).trans
      (isCameraSweep_days.toIsSweep.foldl_sublist _))

end

end AeroXProtect
