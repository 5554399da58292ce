import AeroXProtect.Event.Tables
import AeroXProtect.Storage.Passes
import AeroXProtect.Storage.Policies
import AeroXProtect.Lib.Run
import Mathlib.Data.List.Dedup

/-!
# The cameras to record

`RecorderSupervisor._desired_cameras` decides which cameras have a recorder: every enabled one that
an open recording forces on or the weekly schedule does not switch off. It does not read the mode of
the storage policy, which is where `run_retention` writes that it has stopped a camera.

A run is made of executions of the retention engine, policy edits, and writes of the other tables by
the other processes; `RecorderWorld.stopped` is the set of cameras the engine has stopped and nobody
has switched on since. `stop_honoured_iff` says that the decision stays in the policy table, when it
takes effect, and that it never concerns another camera.
-/

open Lib

namespace AeroXProtect

/-! ## The decision -/

/-- What a reading of the schedules depends on: the clock of the site, and the cameras for which it
raises. -/
structure ScheduleEnv where
  siteLocal : Int → Nat × Int
  raises : Nat → Bool

/-- The recording is in progress, or its window is open. -/
def Recording.isOpen (now : Int) (r : Recording) : Bool :=
  r.deletedAt.isNone && match r.endTs with
    | none => true
    | some e => decide (e > now)

namespace Engine

variable (s : Engine)

/-- The cameras an open recording forces on. -/
def forcedIds (now : Int) : List Nat :=
  (s.recordings.rows.filter (Recording.isOpen now)).map Recording.cameraId

/-- The camera, if it is to be recorded. A schedule that cannot be read does not stop it. -/
def desiredCamera (schedules : Schedules) (w : ScheduleEnv) (now : Int) (cid : Nat) :
    Option Camera :=
  match s.cameras.rows.find? fun c => c.id == cid && c.deletedAt.isNone with
  | none => none
  | some cam =>
    if !cam.isEnabled then none
    else if cid ∈ s.forcedIds now then some cam
    else if !w.raises cid && decide (ScheduleResolver.mode schedules w.siteLocal cid now = .off)
    then none
    else some cam

/-- Source: `_desired_cameras` (`worker/recorder/supervisor.py:142`); the order of the set of ids
is left open. -/
def desiredCameras (schedules : Schedules) (w : ScheduleEnv) (now : Int) : List Camera :=
  (s.cameras.getAllEnabled.map Camera.id ++ s.forcedIds now).dedup.filterMap
    (s.desiredCamera schedules w now)

/-- The camera is among those to record. -/
def IsDesired (schedules : Schedules) (w : ScheduleEnv) (now : Int) (cid : Nat) : Prop :=
  ∃ cam ∈ s.desiredCameras schedules w now, cam.id = cid

/-- The camera is enabled. -/
def IsEnabled (cid : Nat) : Prop := ∃ cam ∈ s.cameras.getAllEnabled, cam.id = cid

/-- A recording of the camera with one of the reasons is open. -/
def HasOpen (now : Int) (reasons : RecordingReason → Prop) (cid : Nat) : Prop :=
  ∃ r ∈ s.recordings, r.cameraId = cid ∧ r.isOpen now = true ∧ reasons r.reason

variable {s} {schedules : Schedules} {w : ScheduleEnv} {now : Int} {cid : Nat}

theorem mem_forcedIds_iff : cid ∈ s.forcedIds now ↔ s.HasOpen now (fun _ => True) cid := by
  unfold forcedIds HasOpen
  simp only [List.mem_map, List.mem_filter, Table.mem_rows]
  constructor
  · rintro ⟨r, ⟨hr, hopen⟩, hcam⟩
    exact ⟨r, hr, hcam, hopen, trivial⟩
  · rintro ⟨r, hr, hcam, hopen, -⟩
    exact ⟨r, ⟨hr, hopen⟩, hcam⟩

/-- The live row of an enabled camera. -/
theorem find?_camera_iff {cam : Camera} :
    (s.cameras.rows.find? fun c => c.id == cid && c.deletedAt.isNone) = some cam ∧
      cam.isEnabled = true ↔ cam ∈ s.cameras.getAllEnabled ∧ cam.id = cid := by
  rw [Table.find?_live_eq_some, Cameras.getAllEnabled, List.mem_filter, Bool.and_eq_true,
    Option.isNone_iff_eq_none, Table.mem_rows]
  tauto

/-- A camera is recorded exactly when it is enabled and forced on, or its schedule cannot be read or
is not off. -/
theorem isDesired_iff :
    s.IsDesired schedules w now cid ↔ s.IsEnabled cid ∧
      (s.HasOpen now (fun _ => True) cid ∨ w.raises cid = true ∨
        ScheduleResolver.mode schedules w.siteLocal cid now ≠ .off) := by
  have hone : ∀ c cam, s.desiredCamera schedules w now c = some cam ↔
      (cam ∈ s.cameras.getAllEnabled ∧ cam.id = c) ∧ (c ∈ s.forcedIds now ∨ w.raises c = true ∨
        ScheduleResolver.mode schedules w.siteLocal c now ≠ .off) := by
    intro c cam
    rw [← find?_camera_iff]
    unfold desiredCamera
    cases hf : s.cameras.rows.find? fun x => x.id == c && x.deletedAt.isNone with
    | none => simp
    | some row =>
      dsimp only
      rw [Option.some_inj]
      cases hen : row.isEnabled with
      | false =>
        simp only [Bool.not_false, if_true, reduceCtorEq, false_iff]
        rintro ⟨⟨rfl, h⟩, -⟩
        rw [hen] at h
        cases h
      | true =>
        simp only [Bool.not_true, Bool.false_eq_true, if_false]
        split
        · next hforced => grind
        · next hforced =>
          split
          · next hoff => grind
          · next hoff => grind
  unfold IsDesired desiredCameras IsEnabled
  constructor
  · rintro ⟨cam, hmem, rfl⟩
    obtain ⟨c, -, hc⟩ := List.mem_filterMap.1 hmem
    obtain ⟨⟨hcam, rfl⟩, hwhy⟩ := (hone _ _).1 hc
    exact ⟨⟨cam, hcam, rfl⟩, hwhy.imp mem_forcedIds_iff.1 id⟩
  · rintro ⟨⟨cam, hcam, rfl⟩, hwhy⟩
    refine ⟨cam, List.mem_filterMap.2 ⟨cam.id, ?_, (hone _ _).2
      ⟨⟨hcam, rfl⟩, hwhy.imp mem_forcedIds_iff.2 id⟩⟩, rfl⟩
    exact List.mem_dedup.2 (List.mem_append_left _ (List.mem_map_of_mem hcam))

end Engine

/-! ## The decision to stop in the policy table -/

namespace StoragePolicies

variable {t t' : StoragePolicies} {cam c : Nat} {row : StoragePolicy}

/-- The camera has a policy of its own whose mode is off. -/
def Stopped (t : StoragePolicies) (c : Nat) : Prop :=
  ∃ row, t.getRawForCamera c = some row ∧ row.recordMode = .off

/-- Writing the row of a camera keeps the stopped cameras stopped, if the row is off or is not the
camera's. -/
theorem Wrote.stopped (h : Wrote t t' cam row) (hoff : c = cam → row.recordMode = .off)
    (hc : t.Stopped c) : t'.Stopped c := by
  rcases eq_or_ne c cam with rfl | hne
  · exact ⟨row, h.raw, hoff rfl⟩
  · obtain ⟨r, hr, hmode⟩ := hc
    exact ⟨r, (h.rawNe c hne).trans hr, hmode⟩

/-- The mode of the row after an edit that does not switch the camera on. -/
theorem recordMode_setFields {p : StoragePolicy} {fields : PolicyFields}
    (hp : p.recordMode = .off) (hf : (fields .recordMode).join ≠ some .continuous) :
    (p.setFields fields).recordMode = .off := by
  have hattr := StoragePolicy.getattr_setFields p fields .recordMode
  cases hm : (fields .recordMode).join with
  | none =>
    rw [hm, Option.none_or] at hattr
    exact (Option.some_inj.1 hattr).trans hp
  | some m =>
    rw [hm, Option.some_or] at hattr
    cases m with
    | off => exact Option.some_inj.1 hattr
    | continuous => exact absurd hm hf

/-- An edit keeps a stopped camera stopped, unless it is an edit of the camera that switches it
on. -/
theorem Stopped.upsertForCamera (hc : t.Stopped c) {cameraId : Option Nat} {fields : PolicyFields}
    (h : cameraId = some c → (fields .recordMode).join ≠ some .continuous) :
    (t.upsertForCamera cameraId fields).1.Stopped c := by
  have hcam : ∀ id, cameraId.filter (fun c => c ≠ 0) = some id → cameraId = some id ∧ id ≠ 0 := by
    intro id hid
    obtain ⟨h1, h2⟩ := Option.filter_eq_some_iff.1 hid
    exact ⟨h1, by simpa using h2⟩
  obtain ⟨own, hown, hoff⟩ := hc
  cases hid : cameraId.filter fun c => c ≠ 0 with
  | some id =>
    obtain ⟨rfl, hne⟩ := hcam id hid
    refine (wrote_upsertForCamera hne fields).stopped (fun heq => ?_) ⟨own, hown, hoff⟩
    subst heq
    exact recordMode_setFields (by rw [baseRow, hown]; exact hoff) (h rfl)
  | none =>
    -- the row of the global policy is not the camera's own, and a new row stands behind it
    refine ⟨own, ?_, hoff⟩
    unfold StoragePolicies.upsertForCamera editedRow
    rw [hid]
    dsimp only
    have hraw : t.rows.find? (fun p => decide (p.cameraId = some c) && p.deletedAt.isNone) =
        some own := hown
    cases hg : t.getGlobal with
    | some g =>
      obtain ⟨hmem, hnone, -⟩ := mem_of_getGlobal hg
      obtain ⟨hmem', hsome, -⟩ := mem_of_getRawForCamera hown
      have hidne : own.id ≠ g.id := fun heq => by
        rw [Table.eq_of_key_eq hmem' hmem heq, hnone] at hsome
        cases hsome
      unfold getRawForCamera
      rw [Table.find?_modify fun p => by rw [p.cameraId_setFields, p.deletedAt_setFields], hraw]
      simp [hidne]
    | none =>
      unfold getRawForCamera
      rw [Table.find?_insert (by simpa [StoragePolicy.new] using t.ne_freshKey), hraw,
        Option.some_or]

end StoragePolicies

/-! ## What an execution of the engine stops -/

/-- From `s` to `t` the engine published the cameras it stopped, and they are stopped in the policy
table, beside those that were. -/
structure Engine.Stops (s t : Engine) (stops : List Nat) : Prop where
  published : t.reconciled = s.reconciled ++ stops.map fun c => (c, "mode_change")
  stopped : ∀ c ∈ stops, t.policies.Stopped c
  kept : ∀ c, s.policies.Stopped c → t.policies.Stopped c

section
variable {s t u : Engine} {x : Exec}

theorem Engine.Stops.of_eq (hpol : t.policies = s.policies) (hrec : t.reconciled = s.reconciled) :
    s.Stops t [] where
  published := by rw [hrec, List.map_nil, List.append_nil]
  stopped := fun c hc => by cases hc
  kept := fun c hc => by rwa [hpol]

theorem Engine.Stops.trans {l l' : List Nat} (h : s.Stops t l) (h' : t.Stops u l') :
    s.Stops u (l ++ l') where
  published := by rw [h'.published, h.published, List.map_append, List.append_assoc]
  stopped := fun c hc => (List.mem_append.1 hc).elim (fun hc => h'.kept c (h.stopped c hc))
    (h'.stopped c)
  kept := fun c hc => h'.kept c (h.kept c hc)

/-- A pass whose steps only stop cameras only stops cameras. -/
theorem Engine.Stops.foldl {α : Type} {f : Exec → α → Exec} {l : List α}
    (h : ∀ (x : Exec), ∀ a ∈ l, ∃ stops, x.engine.Stops (f x a).engine stops) :
    ∃ stops, x.engine.Stops (l.foldl f x).engine stops := by
  induction l generalizing x with
  | nil => exact ⟨[], .of_eq rfl rfl⟩
  | cons a l ih =>
    obtain ⟨l1, h1⟩ := h x a (.head _)
    obtain ⟨l2, h2⟩ := ih (x := f x a) fun x b hb => h x b (.tail _ hb)
    exact ⟨l1 ++ l2, h1.trans h2⟩

theorem daysCamera_stops (env : Env) (x : Exec) (cp : Nat × StoragePolicy) :
    x.engine.Stops (daysCamera env x cp).engine [] := by
  rw [show cp = (cp.1, cp.2) from rfl, daysCamera_engine]
  exact .of_eq Engine.deleteSegments_policies Engine.deleteSegments_reconciled

theorem rotateDisk_stops (env : Env) (x : Exec) (d : Disk) :
    x.engine.Stops (rotateDisk env x d).engine [] := by
  have hfree : x.engine.Stops (x.engine.freeSpace env d (env.rotationTarget d)) [] :=
    .of_eq Engine.deleteSegments_policies Engine.deleteSegments_reconciled
  unfold rotateDisk
  dsimp only
  split
  · exact hfree
  · exact hfree

theorem capacityCamera_stops (env : Env) (x : Exec) (cp : Nat × StoragePolicy) :
    ∃ stops, x.engine.Stops (capacityCamera env x cp).engine stops := by
  unfold capacityCamera
  cases cp.2.retentionMaxBytes with
  | none => exact ⟨[], .of_eq rfl rfl⟩
  | some m =>
    dsimp only
    split
    · exact ⟨[], .of_eq rfl rfl⟩
    · cases cp.2.overCapacityPolicy with
      | deleteOldest =>
        exact ⟨[], .of_eq Engine.deleteSegments_policies Engine.deleteSegments_reconciled⟩
      | stopRecording =>
        obtain ⟨row, hw, hoff, -⟩ := x.engine.wrote_stopRecording cp.1 cp.2
        refine ⟨[cp.1], rfl, fun c hc => ?_, fun c hc => hw.stopped (fun _ => hoff) hc⟩
        obtain rfl := List.mem_singleton.1 hc
        exact ⟨row, hw.raw, hoff⟩
      | warnOnly => exact ⟨[], .of_eq rfl rfl⟩

/-- An execution stops the cameras it publishes. -/
theorem retain_stops (s : Engine) (env : Env) : ∃ stops, s.Stops (s.retain env) stops := by
  obtain ⟨l1, h1⟩ := Engine.Stops.foldl (x := s.begin) (l := s.effectivePolicies)
    fun x cp _ => ⟨[], daysCamera_stops env x cp⟩
  obtain ⟨l2, h2⟩ := Engine.Stops.foldl (x := daysPass env s.begin)
    (l := (daysPass env s.begin).engine.effectivePolicies)
    fun x cp _ => capacityCamera_stops env x cp
  obtain ⟨l3, h3⟩ := Engine.Stops.foldl (x := capacityPass env (daysPass env s.begin))
    (l := (capacityPass env (daysPass env s.begin)).engine.disksNeedingRotation 0)
    fun x d _ => ⟨[], rotateDisk_stops env x d⟩
  exact ⟨_, (h1.trans h2).trans h3⟩

end

/-! ## Runs -/

/-- The tables, and the cameras the engine has stopped and nobody has switched on since. -/
structure RecorderWorld where
  engine : Engine
  stopped : List Nat

/-- What the processes do to the tables; `other` is a write of a table other than the policies. -/
inductive RecorderAct
  | retention (env : Env)
  | setMode (cameraId : Nat) (mode : String)
  | updatePolicy (cameraId : Option Nat) (data : PolicyData)
  | other (cameras : Cameras) (recordings : Recordings) (segments : Segments) (disks : Disks)

/-- The cameras whose recording an execution of the engine stopped: those it published. -/
def Engine.newStops (s t : Engine) : List Nat :=
  (t.reconciled.drop s.reconciled.length).map Prod.fst

namespace RecorderWorld

/-- A camera is switched on. -/
def switchOn (s : RecorderWorld) (cameraId : Nat) : List Nat :=
  s.stopped.filter fun c => decide (c ≠ cameraId)

/-- The cameras that stay stopped when a policy is given a mode. -/
def afterMode (s : RecorderWorld) (cameraId : Option Nat) (mode : Option RecordMode) : List Nat :=
  match cameraId, mode with
  | some c, some .continuous => s.switchOn c
  | _, _ => s.stopped

def step (s : RecorderWorld) : RecorderAct → RecorderWorld
  | .retention env => ⟨s.engine.retain env, s.stopped ++ s.engine.newStops (s.engine.retain env)⟩
  | .setMode cameraId mode =>
    match s.engine.setMode cameraId mode with
    | .error _ => s
    | .ok e => ⟨e, s.afterMode (some cameraId) (RecordMode.parse mode)⟩
  | .updatePolicy cameraId data =>
    match data.fields, s.engine.updatePolicy cameraId data with
    | .ok fields, .ok (e, _, _) => ⟨e, s.afterMode cameraId (fields .recordMode).join⟩
    | _, _ => s
  | .other cameras recordings segments disks =>
    { s with engine := { s.engine with cameras, recordings, segments, disks } }

/-- The tables before a run. -/
def start (engine : Engine) : RecorderWorld := ⟨engine, []⟩

/-- The decision of the engine is in the policy table. -/
def Kept (s : RecorderWorld) : Prop := ∀ c ∈ s.stopped, s.engine.policies.Stopped c

theorem mem_afterMode {s : RecorderWorld} {cameraId : Option Nat} {mode : Option RecordMode}
    {c : Nat} (h : c ∈ s.afterMode cameraId mode) :
    c ∈ s.stopped ∧ (cameraId = some c → mode ≠ some .continuous) := by
  unfold afterMode at h
  split at h
  · obtain ⟨hc, hne⟩ := List.mem_filter.1 h
    refine ⟨hc, fun heq _ => ?_⟩
    simp [Option.some_inj.1 heq] at hne
  · next hno => exact ⟨h, fun heq hmode => hno c heq hmode⟩

/-- One step keeps the decisions in the policy table. -/
theorem Kept.step {s : RecorderWorld} (h : s.Kept) (a : RecorderAct) : (s.step a).Kept := by
  cases a with
  | retention env =>
    obtain ⟨stops, hstops⟩ := retain_stops s.engine env
    intro c hc
    rcases List.mem_append.1 hc with hc | hc
    · exact hstops.kept c (h c hc)
    · refine hstops.stopped c ?_
      rw [Engine.newStops, hstops.published, List.drop_left, List.map_map] at hc
      simpa using hc
  | setMode cameraId mode =>
    cases hm : RecordMode.parse mode with
    | none =>
      simp only [RecorderWorld.step, Engine.setMode, hm]
      exact h
    | some m =>
      simp only [RecorderWorld.step, Engine.setMode, hm]
      intro c hc
      obtain ⟨hstop, hne⟩ := mem_afterMode hc
      refine (h c hstop).upsertForCamera fun heq => ?_
      simpa [PolicyFields.ofMode] using hne heq
  | updatePolicy cameraId data =>
    cases hd : data.fields with
    | error e =>
      simp only [RecorderWorld.step, hd]
      exact h
    | ok fields =>
      obtain ⟨e, warnings, hok, hpol⟩ := s.engine.updatePolicy_eq_ok cameraId hd
      simp only [RecorderWorld.step, hd, hok]
      intro c hc
      obtain ⟨hstop, hne⟩ := mem_afterMode hc
      have hkept := (h c hstop).upsertForCamera hne
      rwa [← hpol] at hkept
  | other cameras recordings segments disks => exact h

end RecorderWorld

/-! ## When a stop takes effect -/

namespace Engine

/-- Manual and event recordings. -/
def isForcing (reason : RecordingReason) : Prop := reason = .manual ∨ reason = .event

/-- The camera is not recorded, unless a manual or an event recording of it is open. -/
def Honoured (s : Engine) (schedules : Schedules) (w : ScheduleEnv) (now : Int) (c : Nat) : Prop :=
  ¬ s.IsDesired schedules w now c ∨ s.HasOpen now isForcing c

/-- The condition: the camera is not enabled, or a manual or an event recording of it is open, or
none of any kind is and the schedule reads off. -/
def StopsAnyway (s : Engine) (schedules : Schedules) (w : ScheduleEnv) (now : Int) (c : Nat) :
    Prop :=
  ¬ s.IsEnabled c ∨ s.HasOpen now isForcing c ∨
    ¬ s.HasOpen now (fun _ => True) c ∧ w.raises c = false ∧
      ScheduleResolver.mode schedules w.siteLocal c now = .off

variable {s t : Engine} {schedules : Schedules} {w : ScheduleEnv} {now : Int} {c : Nat}

theorem honoured_iff : s.Honoured schedules w now c ↔ s.StopsAnyway schedules w now c := by
  unfold Honoured StopsAnyway
  rw [isDesired_iff]
  cases hr : w.raises c <;> tauto

/-- The desired cameras depend on the cameras and the recordings only. -/
theorem desiredCameras_congr (hcam : s.cameras = t.cameras) (hrec : s.recordings = t.recordings) :
    s.desiredCameras schedules w now = t.desiredCameras schedules w now := by
  unfold desiredCameras desiredCamera forcedIds
  rw [hcam, hrec]

end Engine

/-- **In every run a camera the engine has stopped stays off in the policy table until it is
switched on, and the supervisor leaves it out exactly under `StopsAnyway`**, at any instant and
whatever the schedules are by then. A stop changes neither the policy of another camera nor whether
it is recorded. -/
theorem stop_honoured_iff (engine : Engine) (as : List RecorderAct) (t : RecorderWorld)
    (hrun : Run RecorderWorld.step (fun _ _ => True) (RecorderWorld.start engine) as t) :
    (∀ c ∈ t.stopped, t.engine.policies.Stopped c ∧ ∀ schedules w now,
      (t.engine.Honoured schedules w now c ↔ t.engine.StopsAnyway schedules w now c)) ∧
    ∀ cam pol c, c ≠ cam →
      (t.engine.stopRecording cam pol).policies.getForCamera c =
        t.engine.policies.getForCamera c ∧
      ∀ schedules w now, (t.engine.stopRecording cam pol).IsDesired schedules w now c ↔
        t.engine.IsDesired schedules w now c := by
  have hkept : t.Kept := hrun.invariant (fun _ a hs _ => hs.step a) fun c hc => by cases hc
  refine ⟨fun c hc => ⟨hkept c hc, fun _ _ _ => Engine.honoured_iff⟩, fun cam pol c hne => ⟨?_, ?_⟩⟩
  · obtain ⟨row, hw, -⟩ := t.engine.wrote_stopRecording cam pol
    exact hw.getForCamera_ne hne
  · intro schedules w now
    unfold Engine.IsDesired
    rw [Engine.desiredCameras_congr (s := t.engine.stopRecording cam pol) (t := t.engine) rfl rfl]

/-! ## A camera recorded after it was stopped -/

namespace StopFixture

/-- At most ten bytes, then the recording is stopped. -/
def policy : StoragePolicy :=
  { StoragePolicy.new 501 none with
    retentionMaxBytes := some 10, overCapacityPolicy := .stopRecording, recordMode := .continuous }

def segment : Segment := ⟨502, 51, 5, "51/seg-20240401-000000.mp4", 0, 10, 64, .main, false⟩

def engine : Engine where
  cameras := ⟨[⟨51, "cam-51", "Dock", true, none⟩], List.nodup_singleton _⟩
  policies := ⟨[policy], List.nodup_singleton _⟩
  recordings := ∅
  segments := ⟨[segment], List.nodup_singleton _⟩
  disks := ∅
  reconciled := []

def env : Env := ⟨1000, 0, fun _ _ => none⟩

/-- Nothing is scheduled. -/
def scheduleEnv : ScheduleEnv := ⟨fun _ => (0, 0), fun _ => false⟩

def stopped : RecorderWorld := (RecorderWorld.start engine).step (.retention env)

end StopFixture

section
open StopFixture

/-- The execution reports the stop and writes it into the policy of the camera, and the camera is
still to be recorded. -/
theorem stopped_still_desired :
    (runRetention engine env).summary.warnings = ["capacity_full_stopped:51"] ∧
    51 ∈ stopped.stopped ∧
    (stopped.engine.policies.getForCamera 51).map StoragePolicy.recordMode = some .off ∧
    ¬ stopped.engine.Honoured ∅ scheduleEnv 1000 51 := by
  refine ⟨by decide +kernel, by decide +kernel, by decide +kernel, fun h => ?_⟩
  rcases Engine.honoured_iff.1 h with hno | ⟨r, hr, -⟩ | ⟨-, -, hoff⟩
  · exact hno ⟨⟨51, "cam-51", "Dock", true, none⟩, by decide +kernel, rfl⟩
  · have hrec : stopped.engine.recordings = engine.recordings := Engine.retain_recordings engine env
    rw [hrec] at hr
    exact Table.not_mem_empty r hr
  · revert hoff
    decide

/-- A run of one execution, which stops a camera. -/
theorem stop_honoured_iff_fixture :
    51 ∈ stopped.stopped ∧ stopped.engine.policies.Stopped 51 ∧ ∀ schedules w now,
      (stopped.engine.Honoured schedules w now 51 ↔
        stopped.engine.StopsAnyway schedules w now 51) := by
  have hmem : 51 ∈ stopped.stopped := by decide +kernel
  exact ⟨hmem, (stop_honoured_iff engine [.retention env] stopped
    (.cons trivial .nil)).1 51 hmem⟩

end

end AeroXProtect
