import AeroXProtect.Storage.Passes
import AeroXProtect.Lib.Run

/-!
# The retention lock

A user locks a recording through `set_protected`, and the footage under it is exempt from cleanup.
The days pass and the disk watchdog honour the lock. The capacity pass honours it only while the
unprotected segments it looks at bring the camera under its limit: its second round deletes whatever
is oldest. `LockSafe` is the condition on the tables before an execution under which that round does
not reach a locked segment, and `locked_segments_survive` says that it is the exact one.
-/

open Lib

namespace AeroXProtect

/-- The segment overlaps a recording of its camera that the user locked. -/
def Engine.Locked (s : Engine) (now : Int) (g : Segment) : Prop :=
  ∃ r ∈ s.recordings, r.retentionClass = .classProtected ∧ r.deletedAt = none ∧
    r.cameraId = g.cameraId ∧ g.startTs < r.endTs.getD now ∧ r.startTs < g.endTs

instance (s : Engine) (now : Int) (g : Segment) : Decidable (s.Locked now g) :=
  inferInstanceAs (Decidable (∃ r ∈ s.recordings, _))

/-- The segments of a camera that have not expired, by start. -/
def Engine.unexpired (s : Engine) (env : Env) (a : Nat × StoragePolicy) : List Segment :=
  orderBy Segment.startTs ((s.segments.ofCamera a.1).filter fun g =>
    !decide (g.id ∈ (s.expired env a.1 a.2).map Segment.id))

/-- No camera with a delete-oldest limit is over it by more than the eviction loop can remove before
it comes to a locked segment: the unprotected ones among the 5000 oldest, and the protected ones
before it. -/
def Engine.LockSafe (s : Engine) (env : Env) : Prop :=
  ∀ a ∈ s.effectivePolicies, ∀ maxBytes, a.2.retentionMaxBytes = some maxBytes → maxBytes ≠ 0 →
    a.2.overCapacityPolicy = .deleteOldest →
    ∀ pre g post, (s.unexpired env a).take 5000 = pre ++ g :: post → s.Locked env.now g →
      total Segment.size (s.unexpired env a) -
          total Segment.size
            (((s.unexpired env a).take 5000).filter fun y => !s.isProtected env.now y) -
          total Segment.size (pre.filter (s.isProtected env.now)) ≤ maxBytes

section
variable {s t : Engine} {env : Env} {now now' : Int} {g : Segment}

/-- A locked segment is protected. -/
theorem Engine.Locked.isProtected (h : s.Locked now g) : s.isProtected now g = true := by
  obtain ⟨r, hr, hclass, hdel, hcam, hstart, hend⟩ := h
  unfold Engine.isProtected overlaps Recordings.getProtectedIntervals
  rw [List.any_map, List.any_eq_true]
  refine ⟨r, List.mem_filter.2 ⟨hr, ?_⟩, ?_⟩
  · simp [hcam, hclass, hdel, RetentionClass.isProtected]
  · simp [hstart, hend]

/-- A lock does not wear off with time. -/
theorem Engine.Locked.mono (h : s.Locked now g) (hle : now ≤ now') : s.Locked now' g := by
  obtain ⟨r, hr, hclass, hdel, hcam, hstart, hend⟩ := h
  refine ⟨r, hr, hclass, hdel, hcam, ?_, hend⟩
  cases hr : r.endTs with
  | none => rw [hr] at hstart; exact lt_of_lt_of_le hstart hle
  | some e => rw [hr] at hstart; exact hstart

theorem Engine.Locked.congr (h : s.Locked now g) (hrec : t.recordings = s.recordings) :
    t.Locked now g := by
  unfold Engine.Locked
  rw [hrec]
  exact h

/-! ## The eviction loop -/

/-- The eviction loop takes a protected segment of its window exactly when the unprotected segments
of the window and the protected ones before it are not enough. -/
theorem mem_capacityVictims_iff {camId : Nat} {maxBytes : Int} {pre post : List Segment}
    (hw : s.segments.oldestForCamera camId 5000 = pre ++ g :: post)
    (hprot : s.isProtected env.now g = true) :
    g ∈ s.capacityVictims env camId maxBytes ↔
      maxBytes < s.segments.totalSizeForCamera camId -
        total Segment.size ((s.segments.oldestForCamera camId 5000).filter fun y =>
          !s.isProtected env.now y) -
        total Segment.size (pre.filter (s.isProtected env.now)) := by
  have hgpre : g ∉ pre := fun h => by
    have hnd := s.segments.nodup_oldestForCamera camId 5000
    rw [hw, List.nodup_append] at hnd
    exact hnd.2.2 g h g (.head _) rfl
  have hone : g ∉ s.unprotectedVictims env camId maxBytes := fun h => by
    rw [(mem_of_mem_drain h).2] at hprot
    cases hprot
  have hpre : (pre.filter fun y => !!s.isProtected env.now y) =
      pre.filter (s.isProtected env.now) := by simp only [Bool.not_not]
  have hpos := total_nonneg Segment.size_nonneg (pre.filter (s.isProtected env.now))
  have hle : total Segment.size (s.unprotectedVictims env camId maxBytes) ≤ _ :=
    total_le_of_sublist Segment.size_nonneg drain_sublist
  rw [capacityVictims_eq, List.mem_append, or_iff_right hone, Engine.protectedVictims, hw,
    mem_drain_iff Segment.size_nonneg hgpre (by rw [hprot]; rfl), hpre, ← hw]
  constructor
  · intro hneed
    -- the first round took all it may take
    have hall : s.unprotectedVictims env camId maxBytes =
        (s.segments.oldestForCamera camId 5000).filter fun y => !s.isProtected env.now y := by
      unfold Engine.unprotectedVictims at hneed ⊢
      exact drain_eq_filter_of_lt (by omega)
    rw [hall] at hneed
    omega
  · intro hneed
    omega

/-! ## One execution -/

/-- What the days pass leaves of a camera, by start. -/
theorem daysPass_oldestForCamera (env : Env) {a : Nat × StoragePolicy}
    (ha : a ∈ s.effectivePolicies) :
    orderBy Segment.startTs ((daysPass env s.begin).engine.segments.ofCamera a.1) =
      s.unexpired env a := by
  rw [daysPass, Engine.begin_engine, isCameraSweep_days.foldl_ofCamera s.nodup_effectivePolicies ha]
  rfl

theorem isProtected_congr (hrec : t.recordings = s.recordings) :
    t.isProtected now = s.isProtected now := by
  funext y
  rw [Engine.isProtected, Engine.isProtected, hrec]

/-- A protected segment stays exactly when the capacity pass does not select it. -/
theorem mem_retain_iff (hg : g ∈ s.segments) (hprot : s.isProtected env.now g = true) :
    g ∈ (s.retain env).segments ↔
      ∀ a ∈ s.effectivePolicies, g ∉ (daysPass env s.begin).engine.overflow env a.1 a.2 := by
  have hdays : g ∈ (daysPass env s.begin).engine.segments := by
    refine isCameraSweep_days.mem_foldl hg fun a _ s' hs' hv => ?_
    have := (mem_of_mem_expired hv).2.2
    rw [isProtected_congr (hs'.trans rfl : s'.recordings = s.recordings), hprot] at this
    cases this
  have heff : (daysPass env s.begin).engine.effectivePolicies = s.effectivePolicies :=
    daysPass_effectivePolicies env s.begin
  have hdisk : g ∈ (s.retain env).segments ↔
      g ∈ (capacityPass env (daysPass env s.begin)).engine.segments := by
    refine ⟨fun h => (isSweep_disk.foldl_sublist _).subset h, fun h => ?_⟩
    refine isSweep_disk.mem_foldl h fun d _ s' hs' hv => ?_
    have := (mem_of_mem_freeSpaceVictims hv).2.2
    rw [isProtected_congr (hs'.trans (capacityPass_recordings s env)), hprot] at this
    cases this
  rw [hdisk, capacityPass, heff]
  constructor
  · intro h a ha hv
    have hcam := (mem_of_mem_overflow hv).2
    have hmem := Segments.mem_ofCamera.2 ⟨h, hcam⟩
    rw [isCameraSweep_capacity.foldl_ofCamera s.nodup_effectivePolicies ha] at hmem
    have := (List.mem_filter.1 hmem).2
    rw [Bool.not_eq_true', decide_eq_false_iff_not] at this
    exact this (List.mem_map_of_mem hv)
  · intro h
    by_cases hc : g.cameraId ∈ s.effectivePolicies.map Prod.fst
    · obtain ⟨a, ha, hcam⟩ := List.mem_map.1 hc
      have hmem : g ∈ (s.effectivePolicies.foldl (capacityCamera env)
          (daysPass env s.begin)).engine.segments.ofCamera a.1 := by
        rw [isCameraSweep_capacity.foldl_ofCamera s.nodup_effectivePolicies ha]
        refine List.mem_filter.2 ⟨Segments.mem_ofCamera.2 ⟨hdays, hcam.symm⟩, ?_⟩
        rw [Bool.not_eq_true', decide_eq_false_iff_not, List.mem_map]
        rintro ⟨v, hv, hid⟩
        rw [Table.eq_of_key_eq (mem_of_mem_overflow hv).1 hdays hid] at hv
        exact h a ha hv
      exact (Segments.mem_ofCamera.1 hmem).1
    · have hsame := (isCameraSweep_capacity :
        IsCameraSweep (capacityCamera env) _).foldl_ofCamera_of_not_mem
        (x := daysPass env s.begin) hc
      exact (Segments.mem_ofCamera.1 (hsame ▸ Segments.mem_ofCamera.2 ⟨hdays, rfl⟩)).1

/-- The capacity pass selects no locked segment exactly when the tables are lock-safe. -/
theorem lockSafe_iff_overflow :
    s.LockSafe env ↔ ∀ a ∈ s.effectivePolicies, ∀ g, s.Locked env.now g →
      g ∉ (daysPass env s.begin).engine.overflow env a.1 a.2 := by
  have hrec : (daysPass env s.begin).engine.recordings = s.recordings := daysPass_recordings s env
  constructor
  · intro hsafe a ha g hl hv
    have hprot : (daysPass env s.begin).engine.isProtected env.now g = true := by
      rw [isProtected_congr hrec]; exact hl.isProtected
    obtain ⟨m, hm, hm0, -, hpol, hvict⟩ := mem_overflow_iff.1 hv
    obtain ⟨pre, post, hw⟩ := List.append_of_mem (mem_window_of_mem_capacityVictims hvict)
    rw [mem_capacityVictims_iff hw hprot, isProtected_congr hrec] at hvict
    have hold := daysPass_oldestForCamera env ha
    rw [Segments.oldestForCamera_eq, hold] at hw hvict
    have := hsafe a ha m hm hm0 hpol pre g post hw hl
    rw [Segments.totalSizeForCamera_eq, ← total_orderBy, hold] at hvict
    omega
  · intro h a ha m hm hm0 hpol pre g post hw hl
    have hprot : (daysPass env s.begin).engine.isProtected env.now g = true := by
      rw [isProtected_congr hrec]; exact hl.isProtected
    have hold := daysPass_oldestForCamera env ha
    have hno := h a ha g hl
    rw [mem_overflow_iff] at hno
    by_contra hlt
    refine hno ⟨m, hm, hm0, ?_, hpol, ?_⟩
    · rw [Segments.totalSizeForCamera_eq, ← total_orderBy, hold]
      have h1 := total_nonneg Segment.size_nonneg
        (((s.unexpired env a).take 5000).filter fun y => !s.isProtected env.now y)
      have h2 := total_nonneg Segment.size_nonneg (pre.filter (s.isProtected env.now))
      omega
    · have hwindow : (daysPass env s.begin).engine.segments.oldestForCamera a.1 5000 =
          pre ++ g :: post := by rw [Segments.oldestForCamera_eq, hold, hw]
      rw [mem_capacityVictims_iff hwindow hprot, isProtected_congr hrec,
        Segments.totalSizeForCamera_eq, ← total_orderBy, Segments.oldestForCamera_eq, hold]
      omega

/-- An execution keeps every locked segment exactly when the tables before it are lock-safe. -/
theorem retain_keeps_locked_iff :
    (∀ g ∈ s.segments, s.Locked env.now g → g ∈ (s.retain env).segments) ↔ s.LockSafe env := by
  rw [lockSafe_iff_overflow]
  constructor
  · intro h a ha g hl hv
    have hg : g ∈ s.segments :=
      (isCameraSweep_days.toIsSweep.foldl_sublist _).subset (mem_of_mem_overflow hv).1
    exact (mem_retain_iff hg hl.isProtected).1 (h g hg hl) a ha hv
  · intro h g hg hl
    exact (mem_retain_iff hg hl.isProtected).2 fun a ha => h a ha g hl

end

/-! ## Every sequence of executions -/

/-- **The retention lock**. One execution keeps the locked segments exactly when the tables before
it are lock-safe; and in every sequence of executions that start from lock-safe tables, at clocks
not before `now`, no segment that was locked at `now` is ever deleted. -/
theorem locked_segments_survive (s : Engine) :
    (∀ env, (∀ g ∈ s.segments, s.Locked env.now g → g ∈ (s.retain env).segments) ↔
      s.LockSafe env) ∧
    ∀ now envs t, Run Engine.retain (fun s env => now ≤ env.now ∧ s.LockSafe env) s envs t →
      ∀ g ∈ s.segments, s.Locked now g → g ∈ t.segments ∧ t.Locked now g := by
  refine ⟨fun env => retain_keeps_locked_iff, fun now envs t h g hg hl => ?_⟩
  refine h.invariant (I := fun s => g ∈ s.segments ∧ s.Locked now g) ?_ ⟨hg, hl⟩
  rintro s env ⟨hg, hl⟩ ⟨hle, hsafe⟩
  exact ⟨retain_keeps_locked_iff.2 hsafe g hg (hl.mono hle),
    hl.congr (s.retain_recordings env)⟩

namespace LockFixture

def camera : Camera := ⟨1, "c1", "Door", true, none⟩

/-- A limit of ten bytes. -/
def policy : StoragePolicy :=
  { id := 1, cameraId := some 1, segmentSeconds := 60, container := "mp4",
    recordMode := .continuous, balanceStrategy := .leastUsed, pinnedDiskId := none,
    retentionDays := none, retentionMaxBytes := some 10, overCapacityPolicy := .deleteOldest,
    cacheBufferSeconds := 60, eventRetentionDays := none, deletedAt := none }

def recording : Recording := ⟨1, 1, .manual, .classDefault, 100, some 200, none, none⟩

def segment (id : Nat) (start : Int) (size : Nat) : Segment :=
  ⟨id, 1, 1, "seg.mp4", start, start + 100, size, .main, false⟩

/-- A camera with an older segment of eight bytes and a segment under a recording that the user
locked. -/
def engine (lockedSize : Nat) : Engine where
  cameras := ⟨[camera], by decide⟩
  policies := ⟨[policy], by decide⟩
  recordings := Recordings.setProtected ⟨[recording], by decide⟩ 1 true
  segments := ⟨[segment 1 0 8, segment 2 100 lockedSize], by simp [segment]⟩
  disks := ∅
  reconciled := []

def env : Env := ⟨1000, 0, fun _ _ => none⟩

end LockFixture

/-- Two executions on a camera of fourteen bytes: the first deletes the older segment, and the
locked one survives both. -/
theorem locked_segments_survive_fixture :
    LockFixture.segment 1 0 8 ∉ ((LockFixture.engine 6).retain LockFixture.env).segments ∧
      LockFixture.segment 2 100 6 ∈
        (((LockFixture.engine 6).retain LockFixture.env).retain LockFixture.env).segments := by
  refine ⟨by decide +kernel, ?_⟩
  have hrun : Run Engine.retain (fun s env => 1000 ≤ env.now ∧ s.LockSafe env)
      (LockFixture.engine 6) [LockFixture.env, LockFixture.env] _ :=
    .cons ⟨le_refl _, ((locked_segments_survive _).1 _).1 (by decide +kernel)⟩
      (.cons ⟨le_refl _, ((locked_segments_survive _).1 _).1 (by decide +kernel)⟩ .nil)
  exact ((locked_segments_survive _).2 1000 _ _ hrun _ (by decide) (by decide)).1

/-- A camera whose locked segment alone exceeds its limit loses it. -/
theorem locked_segment_deleted :
    ¬ (∀ g ∈ (LockFixture.engine 20).segments,
      (LockFixture.engine 20).Locked LockFixture.env.now g →
        g ∈ ((LockFixture.engine 20).retain LockFixture.env).segments) := by
  decide +kernel

end AeroXProtect
