import AeroXProtect.Storage.Retention
import AeroXProtect.Auth.Session
import Mathlib.Logic.Function.Basic

/-!
# Reading and editing storage policies

A camera without a row of its own is under the global policy. Two readers resolve this differently:
`run_retention` falls back per row (`StoragePolicies.getForCamera`), the storage page per field
(`Engine.usageOf`). And two writers create the row that switches the source of every field at once:
`upsert_for_camera` fills it with the column defaults, the retention engine with the inherited
values. `displayed_iff` and `edit_exact_iff` say on which tables the difference shows.

The columns an edit can name are the keys of a dictionary (`PolicyFields`): a column may be left
out, given as null, or given a value. Modes, strategies and over-capacity policies outside the
enumerations are left out, and so are the audit columns.
-/

open Lib

namespace AeroXProtect

/-! ## Limits -/

/-- The two limits of a policy, as stored. -/
structure Limits where
  days : Option Int
  maxBytes : Option Int
  deriving DecidableEq, Repr

attribute [ext] Limits

/-- What the passes make of a stored limit: `if not limit: continue`. -/
def inForce (limit : Option Int) : Option Int := limit.filter fun n => n ≠ 0

def StoragePolicy.limits (p : StoragePolicy) : Limits := ⟨p.retentionDays, p.retentionMaxBytes⟩

/-- The limits as the passes read them. -/
def Limits.effective (l : Limits) : Limits := ⟨inForce l.days, inForce l.maxBytes⟩

namespace Engine

variable (s : Engine)

/-- The limits `run_retention` applies to a camera: those of the policy `effectivePolicies` pairs it
with. -/
def appliedLimits (cameraId : Nat) : Limits :=
  ((s.policies.getForCamera cameraId).map StoragePolicy.limits).getD ⟨none, none⟩

/-- A row of the storage page's retention list. -/
structure Usage where
  uuid : String
  name : String
  usedBytes : Int
  limits : Limits
  hasOverride : Bool
  deriving DecidableEq, Repr

/-- The row of one camera. -/
def usageOf (cam : Camera) : Usage :=
  let global := s.policies.getGlobal
  let raw := s.policies.getRawForCamera cam.id
  { uuid := cam.uuid
    name := cam.name
    usedBytes := s.segments.totalSizeForCamera cam.id
    limits :=
      { days := (raw.bind StoragePolicy.retentionDays).or (global.bind StoragePolicy.retentionDays)
        maxBytes := (raw.bind StoragePolicy.retentionMaxBytes).or
          (global.bind StoragePolicy.retentionMaxBytes) }
    hasOverride := raw.isSome }

/-- Source: `camera_usage` (`server/controller/storage.py:117`). -/
def cameraUsage : List Usage := s.cameras.getAllEnabled.map s.usageOf

end Engine

/-! ## The columns of a policy -/

/-- The columns an edit can name: `allowed` in `update_policy`. -/
inductive PolicyKey
  | segmentSeconds | container | recordMode | balanceStrategy | pinnedDiskId | retentionDays
  | retentionMaxBytes | overCapacityPolicy | cacheBufferSeconds | eventRetentionDays
  deriving DecidableEq, Repr

namespace PolicyKey

/-- The values of a column other than null. -/
abbrev Value : PolicyKey → Type
  | segmentSeconds | retentionDays | retentionMaxBytes | cacheBufferSeconds
  | eventRetentionDays => Int
  | container => String
  | recordMode => RecordMode
  | balanceStrategy => BalanceStrategy
  | pinnedDiskId => Nat
  | overCapacityPolicy => OverCapacity

def all : List PolicyKey :=
  [segmentSeconds, container, recordMode, balanceStrategy, pinnedDiskId, retentionDays,
    retentionMaxBytes, overCapacityPolicy, cacheBufferSeconds, eventRetentionDays]

theorem mem_all (k : PolicyKey) : k ∈ all := by cases k <;> decide

end PolicyKey

/-- The dictionary of an edit: `none` for a key that is not in it, `some none` for a null. -/
abbrev PolicyFields := (k : PolicyKey) → Option (Option k.Value)

namespace StoragePolicy

variable (p : StoragePolicy)

/-- The value of a column; the columns that cannot be null always have one. -/
def getattr : (k : PolicyKey) → Option k.Value
  | .segmentSeconds => some p.segmentSeconds
  | .container => some p.container
  | .recordMode => some p.recordMode
  | .balanceStrategy => some p.balanceStrategy
  | .pinnedDiskId => p.pinnedDiskId
  | .retentionDays => p.retentionDays
  | .retentionMaxBytes => p.retentionMaxBytes
  | .overCapacityPolicy => some p.overCapacityPolicy
  | .cacheBufferSeconds => some p.cacheBufferSeconds
  | .eventRetentionDays => p.eventRetentionDays

/-- Write a value other than null. -/
def setattr : (k : PolicyKey) → k.Value → StoragePolicy
  | .segmentSeconds, v => { p with segmentSeconds := v }
  | .container, v => { p with container := v }
  | .recordMode, v => { p with recordMode := v }
  | .balanceStrategy, v => { p with balanceStrategy := v }
  | .pinnedDiskId, v => { p with pinnedDiskId := some v }
  | .retentionDays, v => { p with retentionDays := some v }
  | .retentionMaxBytes, v => { p with retentionMaxBytes := some v }
  | .overCapacityPolicy, v => { p with overCapacityPolicy := v }
  | .cacheBufferSeconds, v => { p with cacheBufferSeconds := v }
  | .eventRetentionDays, v => { p with eventRetentionDays := some v }

/-- One turn of the loop over `fields.items()`: a null is skipped like a key that is not there. -/
def setField (fields : PolicyFields) (row : StoragePolicy) (k : PolicyKey) : StoragePolicy :=
  match (fields k).join with
  | none => row
  | some v => row.setattr k v

/-- The row after the loop. -/
def setFields (fields : PolicyFields) : StoragePolicy := PolicyKey.all.foldl (setField fields) p

/-- A new row: the column defaults. Source: `StoragePolicy`
(`server/model/storage_policy.py:19`). -/
def new (id : Nat) (cameraId : Option Nat) : StoragePolicy where
  id := id
  cameraId := cameraId
  segmentSeconds := 10
  container := "mpegts"
  recordMode := .off
  balanceStrategy := .leastUsed
  pinnedDiskId := none
  retentionDays := none
  retentionMaxBytes := none
  overCapacityPolicy := .deleteOldest
  cacheBufferSeconds := 60
  eventRetentionDays := none
  deletedAt := none

end StoragePolicy

/-! ## Writers -/

namespace StoragePolicies

variable (t : StoragePolicies)

/-- The row an edit of a camera, or of the global policy, is about; a camera id of 0 stands for the
global policy here. -/
def editedRow (cameraId : Option Nat) : Option StoragePolicy :=
  match cameraId.filter fun c => c ≠ 0 with
  | some c => t.getRawForCamera c
  | none => t.getGlobal

end StoragePolicies

theorem StoragePolicy.id_setattr (p : StoragePolicy) (k : PolicyKey) (v : k.Value) :
    (p.setattr k v).id = p.id := by cases k <;> rfl

theorem StoragePolicy.cameraId_setattr (p : StoragePolicy) (k : PolicyKey) (v : k.Value) :
    (p.setattr k v).cameraId = p.cameraId := by cases k <;> rfl

theorem StoragePolicy.deletedAt_setattr (p : StoragePolicy) (k : PolicyKey) (v : k.Value) :
    (p.setattr k v).deletedAt = p.deletedAt := by cases k <;> rfl

/-- What every `setattr` keeps, the loop keeps. -/
theorem StoragePolicy.setFields_keeps {β : Type} {f : StoragePolicy → β}
    (h : ∀ (p : StoragePolicy) (k : PolicyKey) (v : k.Value), f (p.setattr k v) = f p)
    (p : StoragePolicy) (fields : PolicyFields) : f (p.setFields fields) = f p := by
  unfold setFields
  generalize PolicyKey.all = ks
  induction ks generalizing p with
  | nil => rfl
  | cons k ks ih =>
    rw [List.foldl_cons, ih]
    unfold setField
    split
    · rfl
    · exact h _ _ _

@[simp] theorem StoragePolicy.id_setFields (p : StoragePolicy) (fields : PolicyFields) :
    (p.setFields fields).id = p.id := setFields_keeps id_setattr p fields

@[simp] theorem StoragePolicy.cameraId_setFields (p : StoragePolicy) (fields : PolicyFields) :
    (p.setFields fields).cameraId = p.cameraId := setFields_keeps cameraId_setattr p fields

@[simp] theorem StoragePolicy.deletedAt_setFields (p : StoragePolicy) (fields : PolicyFields) :
    (p.setFields fields).deletedAt = p.deletedAt := setFields_keeps deletedAt_setattr p fields

/-- The table and the row after an edit. Source: `StoragePolicy.upsert_for_camera`
(`server/model/storage_policy.py:56`). -/
def StoragePolicies.upsertForCamera (t : StoragePolicies) (cameraId : Option Nat)
    (fields : PolicyFields) : StoragePolicies × StoragePolicy :=
  match t.editedRow cameraId with
  | some row =>
    (t.modify (fun p => decide (p.id = row.id)) (fun p => p.setFields fields)
      fun p => p.id_setFields fields, row.setFields fields)
  | none =>
    let row := (StoragePolicy.new t.freshKey cameraId).setFields fields
    (t.insert row, row)

/-- Source: `RECORD_OFF` and `RECORD_CONTINUOUS` (`server/model/storage_policy.py:7`). -/
def RecordMode.parse : String → Option RecordMode
  | "off" => some .off
  | "continuous" => some .continuous
  | _ => none

/-- The body of a policy update, restricted to the columns an edit can name. -/
structure PolicyData where
  recordMode : Option (Option String)
  others : PolicyFields

/-- The fields of a body, refused for an unknown mode. -/
def PolicyData.fields (data : PolicyData) : Except ApiError PolicyFields :=
  match data.recordMode with
  | none => .ok (Function.update data.others .recordMode none)
  | some none => .ok (Function.update data.others .recordMode (some none))
  | some (some mode) =>
    match RecordMode.parse mode with
    | none => .error (.invalidParameter "invalid record_mode")
    | some m => .ok (Function.update data.others .recordMode (some (some m)))

/-- The fields `set_mode` passes. -/
def PolicyFields.ofMode (mode : RecordMode) : PolicyFields :=
  Function.update (fun _ => none) .recordMode (some (some mode))

namespace Engine

variable (s : Engine)

/-- Source: `check_pool_overcommit` (`server/service/retention_engine.py:150`). -/
def checkPoolOvercommit (proposed : Option Int) : List String :=
  let disks := s.disks.getWritable [.cache, .record]
  let poolTotal := (disks.map Disk.totalBytes).sum
  let reserved := (disks.map Disk.reservedFreeBytes).sum
  let committed := (s.effectivePolicies.map fun cp => cp.2.retentionMaxBytes.getD 0).sum
  if committed + proposed.getD 0 + reserved > poolTotal ∧ poolTotal > 0 then ["pool_overcommit"]
  else []

/-- The tables, the row and the warnings after an update; the row is answered as it is stored.
Source: `update_policy` (`server/controller/storage.py:146`). -/
def updatePolicy (cameraId : Option Nat) (data : PolicyData) :
    Except ApiError (Engine × StoragePolicy × List String) := do
  let fields ← data.fields
  let prevMode := ((s.policies.editedRow cameraId).map StoragePolicy.recordMode).getD .off
  let pol := (s.policies.upsertForCamera cameraId fields).2
  let s' := { s with policies := (s.policies.upsertForCamera cameraId fields).1 }
  let warnings := s'.checkPoolOvercommit (fields .retentionMaxBytes).join
  match cameraId.filter fun c => c ≠ 0 with
  | some c =>
    if pol.recordMode ≠ prevMode then
      .ok ({ s' with reconciled := s'.reconciled ++ [(c, "mode_change")] }, pol, warnings)
    else .ok (s', pol, warnings)
  | none => .ok (s', pol, warnings)

/-- Source: `set_mode` (`server/controller/recording.py:31`). -/
def setMode (cameraId : Nat) (mode : String) : Except ApiError Engine :=
  match RecordMode.parse mode with
  | none => .error (.invalidParameter "mode must be off or continuous")
  | some m =>
    .ok { s with
      policies := (s.policies.upsertForCamera (some cameraId) (.ofMode m)).1
      reconciled := s.reconciled ++ [(cameraId, "mode_change")] }

end Engine

/-! ## What an edit writes -/

namespace StoragePolicy

theorem getattr_setattr_self (p : StoragePolicy) (k : PolicyKey) (v : k.Value) :
    (p.setattr k v).getattr k = some v := by cases k <;> rfl

theorem getattr_setattr_ne (p : StoragePolicy) {k k' : PolicyKey} (v : k.Value) (h : k' ≠ k) :
    (p.setattr k v).getattr k' = p.getattr k' := by
  cases k <;> cases k' <;> first | rfl | exact absurd rfl h

theorem getattr_setField (fields : PolicyFields) (p : StoragePolicy) (k k' : PolicyKey) :
    (setField fields p k).getattr k' =
      if k' = k then (fields k').join.or (p.getattr k') else p.getattr k' := by
  unfold setField
  rcases eq_or_ne k' k with rfl | hk
  · cases (fields k').join with
    | none => simp
    | some v => simpa using getattr_setattr_self p k' v
  · rw [if_neg hk]
    cases (fields k).join with
    | none => rfl
    | some v => exact getattr_setattr_ne p v hk

/-- A column after the loop: the value given, or what the row had. -/
theorem getattr_setFields (p : StoragePolicy) (fields : PolicyFields) (k : PolicyKey) :
    (p.setFields fields).getattr k = (fields k).join.or (p.getattr k) := by
  have hfold : ∀ (ks : List PolicyKey) (p : StoragePolicy),
      (ks.foldl (setField fields) p).getattr k =
        if k ∈ ks then (fields k).join.or (p.getattr k) else p.getattr k := by
    intro ks
    induction ks with
    | nil => intro p; rfl
    | cons k' ks ih =>
      intro p
      rw [List.foldl_cons, ih, getattr_setField]
      rcases eq_or_ne k k' with rfl | hk
      · cases (fields k).join <;> simp
      · simp [hk]
  unfold setFields
  rw [hfold, if_pos (PolicyKey.mem_all k)]

end StoragePolicy

namespace StoragePolicies

variable {t t' : StoragePolicies} {cam : Nat} {row : StoragePolicy}

/-- The table `t'` is `t` with the row of one camera written. -/
structure Wrote (t t' : StoragePolicies) (cam : Nat) (row : StoragePolicy) : Prop where
  raw : t'.getRawForCamera cam = some row
  rawNe : ∀ c, c ≠ cam → t'.getRawForCamera c = t.getRawForCamera c
  global : t'.getGlobal = t.getGlobal

theorem mem_of_getRawForCamera (h : t.getRawForCamera cam = some row) :
    row ∈ t ∧ row.cameraId = some cam ∧ row.deletedAt = none := by
  have hp := List.find?_some h
  rw [Bool.and_eq_true, decide_eq_true_iff, Option.isNone_iff_eq_none] at hp
  exact ⟨List.mem_of_find?_eq_some h, hp.1, hp.2⟩

theorem mem_of_getGlobal (h : t.getGlobal = some row) :
    row ∈ t ∧ row.cameraId = none ∧ row.deletedAt = none := by
  have hp := List.find?_some h
  rw [Bool.and_eq_true, Option.isNone_iff_eq_none, Option.isNone_iff_eq_none] at hp
  exact ⟨List.mem_of_find?_eq_some h, hp.1, hp.2⟩

/-- An update of the row of a camera. -/
theorem Wrote.modify (h : t.getRawForCamera cam = some row) {f : StoragePolicy → StoragePolicy}
    (hid : ∀ p, (f p).id = p.id) (hcam : ∀ p, (f p).cameraId = p.cameraId)
    (hdel : ∀ p, (f p).deletedAt = p.deletedAt) :
    Wrote t (t.modify (fun p => decide (p.id = row.id)) f hid) cam (f row) := by
  obtain ⟨hrow, hrowCam, -⟩ := mem_of_getRawForCamera h
  -- another live row has another id, so it stays
  have hkeep : ∀ (q : StoragePolicy → Bool), (∀ p, q (f p) = q p) → q row = false →
      (t.modify (fun p => decide (p.id = row.id)) f hid).rows.find? q = t.rows.find? q := by
    intro q hq hne
    rw [Table.find?_modify hq]
    cases hf : t.rows.find? q with
    | none => rfl
    | some r =>
      have hr : r.id ≠ row.id := by
        intro heq
        rw [Table.eq_of_key_eq (List.mem_of_find?_eq_some hf) hrow heq] at hf
        rw [List.find?_some hf] at hne
        cases hne
      simp [hr]
  refine ⟨?_, fun c hc => hkeep _ (fun p => by rw [hcam, hdel]) ?_,
    hkeep _ (fun p => by rw [hcam, hdel]) ?_⟩
  · have hq : ∀ p, (decide ((f p).cameraId = some cam) && (f p).deletedAt.isNone) =
        (decide (p.cameraId = some cam) && p.deletedAt.isNone) := fun p => by rw [hcam, hdel]
    have hraw : t.rows.find? (fun p => decide (p.cameraId = some cam) && p.deletedAt.isNone) =
        some row := h
    unfold getRawForCamera
    rw [Table.find?_modify hq, hraw]
    simp
  · simp [hrowCam, Ne.symm hc]
  · simp [hrowCam]

/-- A first row for a camera. -/
theorem Wrote.insert (h : t.getRawForCamera cam = none) (hid : ∀ p ∈ t, p.id ≠ row.id)
    (hcam : row.cameraId = some cam) (hdel : row.deletedAt = none) :
    Wrote t (t.insert row) cam row := by
  have hraw : t.rows.find? (fun p => decide (p.cameraId = some cam) && p.deletedAt.isNone) =
      none := h
  refine ⟨?_, fun c hc => ?_, ?_⟩
  · unfold getRawForCamera
    rw [Table.find?_insert hid, hraw]
    simp [hcam, hdel]
  · unfold getRawForCamera
    rw [Table.find?_insert hid]
    simp [hcam, Ne.symm hc]
  · unfold getGlobal
    rw [Table.find?_insert hid]
    simp [hcam]

/-- The camera is under the row written for it. -/
theorem Wrote.getForCamera (h : Wrote t t' cam row) : t'.getForCamera cam = some row := by
  unfold StoragePolicies.getForCamera
  rw [h.raw, Option.some_or]

/-- The other cameras are under the policies they were under. -/
theorem Wrote.getForCamera_ne (h : Wrote t t' cam row) {c : Nat} (hc : c ≠ cam) :
    t'.getForCamera c = t.getForCamera c := by
  unfold StoragePolicies.getForCamera
  rw [h.rawNe c hc, h.global]

/-- The row an edit of a camera starts from: its own, or a new one. -/
def baseRow (t : StoragePolicies) (cam : Nat) : StoragePolicy :=
  (t.getRawForCamera cam).getD (.new t.freshKey (some cam))

/-- An edit writes the row of the camera, from its own row or from the column defaults. -/
theorem wrote_upsertForCamera (hcam : cam ≠ 0) (fields : PolicyFields) :
    Wrote t (t.upsertForCamera (some cam) fields).1 cam ((t.baseRow cam).setFields fields) := by
  have hrow : t.editedRow (some cam) = t.getRawForCamera cam := by
    simp [editedRow, Option.filter, hcam]
  unfold upsertForCamera baseRow
  rw [hrow]
  cases hraw : t.getRawForCamera cam with
  | some r =>
    exact Wrote.modify hraw (fun p => p.id_setFields fields) (fun p => p.cameraId_setFields fields)
      fun p => p.deletedAt_setFields fields
  | none =>
    refine Wrote.insert hraw ?_ ?_ ?_
    · simpa [StoragePolicy.new] using t.ne_freshKey
    · simp [StoragePolicy.new]
    · simp [StoragePolicy.new]

end StoragePolicies

/-! ## An edit changes what was edited -/

/-- After an edit the camera's effective policy has the given values, a null included, and its
previous values elsewhere, and no other camera's effective policy has changed. -/
structure EditExact (t t' : StoragePolicies) (cam : Nat) (fields : PolicyFields) : Prop where
  edited : ∃ next, t'.getForCamera cam = some next ∧
    (∀ k v, fields k = some v → next.getattr k = v) ∧
    ∀ prev, t.getForCamera cam = some prev → ∀ k, fields k = none → next.getattr k = prev.getattr k
  others : ∀ c, c ≠ cam → t'.getForCamera c = t.getForCamera c

/-- The condition: a null is given only for a column that is null already in the row the edit starts
from, and a camera without a row of its own inherits the column defaults in the columns that are
not given. -/
structure EditFits (t : StoragePolicies) (cam : Nat) (fields : PolicyFields) : Prop where
  cleared : ∀ k, fields k = some none → (t.baseRow cam).getattr k = none
  inherited : t.getRawForCamera cam = none → ∀ g, t.getGlobal = some g →
    ∀ k, fields k = none → g.getattr k = (t.baseRow cam).getattr k

theorem StoragePolicies.editExact_iff {t : StoragePolicies} {cam : Nat} (hcam : cam ≠ 0)
    (fields : PolicyFields) :
    EditExact t (t.upsertForCamera (some cam) fields).1 cam fields ↔ EditFits t cam fields := by
  have hw := StoragePolicies.wrote_upsertForCamera (t := t) hcam fields
  constructor
  · intro h
    obtain ⟨next, hnext, hgiven, hkept⟩ := h.edited
    obtain rfl : (t.baseRow cam).setFields fields = next :=
      Option.some_inj.1 (hw.getForCamera.symm.trans hnext)
    refine ⟨fun k hk => ?_, fun hraw g hg k hk => ?_⟩
    · have hnull := hgiven k none hk
      rwa [StoragePolicy.getattr_setFields, hk, Option.join_some, Option.none_or] at hnull
    · have hprev : t.getForCamera cam = some g := by
        rw [StoragePolicies.getForCamera, hraw, Option.none_or, hg]
      have heq := hkept g hprev k hk
      rwa [StoragePolicy.getattr_setFields, hk, Option.join_none, Option.none_or, eq_comm] at heq
  · intro h
    refine ⟨⟨_, hw.getForCamera, fun k v hk => ?_, fun prev hprev k hk => ?_⟩,
      fun c hc => hw.getForCamera_ne hc⟩
    · rw [StoragePolicy.getattr_setFields, hk, Option.join_some]
      cases v with
      | none => exact h.cleared k hk
      | some v => rfl
    · rw [StoragePolicy.getattr_setFields, hk, Option.join_none, Option.none_or]
      cases hraw : t.getRawForCamera cam with
      | some own =>
        rw [StoragePolicies.getForCamera, hraw, Option.some_or, Option.some_inj] at hprev
        rw [← hprev, baseRow, hraw, Option.getD_some]
      | none =>
        rw [StoragePolicies.getForCamera, hraw, Option.none_or] at hprev
        exact (h.inherited hraw prev hprev k hk).symm

/-- The tables an accepted update leaves. -/
theorem Engine.updatePolicy_eq_ok (s : Engine) (cameraId : Option Nat) {data : PolicyData}
    {fields : PolicyFields} (h : data.fields = .ok fields) :
    ∃ s' warnings, s.updatePolicy cameraId data =
      .ok (s', (s.policies.upsertForCamera cameraId fields).2, warnings) ∧
      s'.policies = (s.policies.upsertForCamera cameraId fields).1 := by
  unfold updatePolicy
  rw [h]
  dsimp only [bind, Except.bind]
  cases cameraId.filter fun c => c ≠ 0 with
  | none => exact ⟨_, _, rfl, rfl⟩
  | some c =>
    dsimp only
    split
    · exact ⟨_, _, rfl, rfl⟩
    · exact ⟨_, _, rfl, rfl⟩

/-- **A policy update or a mode change is exact exactly under `EditFits`**, and whatever it is given
it leaves the effective policies of the other cameras as they are. -/
theorem edit_exact_iff (s : Engine) {cam : Nat} (hcam : cam ≠ 0) :
    (∀ data fields, data.fields = .ok fields → ∃ s' pol warnings,
      s.updatePolicy (some cam) data = .ok (s', pol, warnings) ∧
      (EditExact s.policies s'.policies cam fields ↔ EditFits s.policies cam fields) ∧
      ∀ c, c ≠ cam → s'.policies.getForCamera c = s.policies.getForCamera c) ∧
    ∀ mode m, RecordMode.parse mode = some m → ∃ s', s.setMode cam mode = .ok s' ∧
      (EditExact s.policies s'.policies cam (.ofMode m) ↔ EditFits s.policies cam (.ofMode m)) ∧
      ∀ c, c ≠ cam → s'.policies.getForCamera c = s.policies.getForCamera c := by
  constructor
  · intro data fields hdata
    obtain ⟨s', warnings, hok, hpol⟩ := s.updatePolicy_eq_ok (some cam) hdata
    refine ⟨s', _, warnings, hok, ?_, fun c hc => ?_⟩
    · rw [hpol]
      exact StoragePolicies.editExact_iff hcam fields
    · rw [hpol]
      exact (StoragePolicies.wrote_upsertForCamera hcam fields).getForCamera_ne hc
  · intro mode m hm
    refine ⟨_, by rw [Engine.setMode, hm], StoragePolicies.editExact_iff hcam _, fun c hc => ?_⟩
    exact (StoragePolicies.wrote_upsertForCamera hcam _).getForCamera_ne hc

/-- The sibling writer of `upsertForCamera`: the capacity pass gives a camera it stops a row with
the values of its own row, or of the policy it is under, and the mode off. -/
theorem Engine.wrote_stopRecording (s : Engine) (cam : Nat) (pol : StoragePolicy) :
    ∃ row, StoragePolicies.Wrote s.policies (s.stopRecording cam pol).policies cam row ∧
      row.recordMode = .off ∧ ∀ k, k ≠ .recordMode →
        row.getattr k = ((s.policies.getRawForCamera cam).getD pol).getattr k := by
  unfold stopRecording
  cases hraw : s.policies.getRawForCamera cam with
  | some own =>
    refine ⟨{ own with recordMode := .off }, StoragePolicies.Wrote.modify hraw
      (f := fun p => { p with recordMode := .off }) (fun _ => rfl) (fun _ => rfl) fun _ => rfl, rfl,
      fun k hk => ?_⟩
    cases k <;> first | rfl | exact absurd rfl hk
  | none =>
    refine ⟨_, StoragePolicies.Wrote.insert hraw s.policies.ne_freshKey rfl rfl, rfl,
      fun k hk => ?_⟩
    cases k <;> first | rfl | exact absurd rfl hk

/-! ## The limits shown are the limits applied -/

namespace Engine

variable (s : Engine)

/-- The camera has a row of its own that leaves a limit unset which the global policy sets, as
`reading` reads it. -/
def UnsetUnderGlobal (reading : Option Int → Option Int) (cameraId : Nat) : Prop :=
  ∃ own g, s.policies.getRawForCamera cameraId = some own ∧ s.policies.getGlobal = some g ∧
    (own.retentionDays = none ∧ reading g.retentionDays ≠ none ∨
      own.retentionMaxBytes = none ∧ reading g.retentionMaxBytes ≠ none)

variable {s}

/-- The policy a pass works with holds the limits that apply to the camera. -/
theorem appliedLimits_of_mem {cameraId : Nat} {pol : StoragePolicy}
    (h : (cameraId, pol) ∈ s.effectivePolicies) : s.appliedLimits cameraId = pol.limits := by
  obtain ⟨c, -, hc⟩ := List.mem_filterMap.1 h
  obtain ⟨p, hp, heq⟩ := Option.map_eq_some_iff.1 hc
  obtain ⟨rfl, rfl⟩ := Prod.mk.inj heq
  rw [appliedLimits, hp, Option.map_some, Option.getD_some]

/-- Falling back per field or per row makes a difference exactly when the camera's own row leaves
the limit unset and the global policy sets it. -/
theorem limits_iff (reading : Option Int → Option Int) (hnone : reading none = none)
    (cam : Camera) :
    (reading (s.usageOf cam).limits.days = reading (s.appliedLimits cam.id).days ∧
      reading (s.usageOf cam).limits.maxBytes = reading (s.appliedLimits cam.id).maxBytes) ↔
    ¬ s.UnsetUnderGlobal reading cam.id := by
  unfold usageOf appliedLimits UnsetUnderGlobal StoragePolicies.getForCamera
  cases s.policies.getRawForCamera cam.id with
  | none => cases s.policies.getGlobal <;> simp [StoragePolicy.limits]
  | some own =>
    cases s.policies.getGlobal with
    | none => simp [StoragePolicy.limits]
    | some g =>
      have hfield : ∀ o o' : Option Int,
          reading (o.or o') = reading o ↔ ¬ (o = none ∧ reading o' ≠ none) := by
        intro o o'
        cases o <;> simp [hnone]
      simpa [StoragePolicy.limits] using and_congr (hfield own.retentionDays g.retentionDays)
        (hfield own.retentionMaxBytes g.retentionMaxBytes)

end Engine

/-- The days pass treats two policies alike whose limits it reads alike. -/
theorem daysCamera_congr (env : Env) (x : Exec) (cameraId : Nat) {p q : StoragePolicy}
    (h : p.limits.effective = q.limits.effective) :
    daysCamera env x (cameraId, p) = daysCamera env x (cameraId, q) := by
  have hdays : inForce p.retentionDays = inForce q.retentionDays := congrArg Limits.days h
  have hread : ∀ r : StoragePolicy, daysCamera env x (cameraId, r) =
      (inForce r.retentionDays).elim x fun d =>
        { x with engine := x.engine.deleteSegments (x.engine.daysVictims env cameraId d) }.addDays
          (x.engine.daysVictims env cameraId d).length := by
    intro r
    unfold daysCamera inForce
    cases hr : r.retentionDays with
    | none => simp [Option.filter]
    | some d => by_cases hd : d = 0 <;> simp [Option.filter, hd]
  rw [hread, hread, hdays]

/-- So does the capacity pass, where it does not copy the policy. -/
theorem capacityCamera_congr (env : Env) (x : Exec) (cameraId : Nat) {p q : StoragePolicy}
    (h : p.limits.effective = q.limits.effective)
    (hover : p.overCapacityPolicy = q.overCapacityPolicy)
    (hstop : p.overCapacityPolicy ≠ .stopRecording) :
    capacityCamera env x (cameraId, p) = capacityCamera env x (cameraId, q) := by
  have hmax : inForce p.retentionMaxBytes = inForce q.retentionMaxBytes :=
    congrArg Limits.maxBytes h
  have hskip : ∀ r : StoragePolicy, inForce r.retentionMaxBytes = none →
      capacityCamera env x (cameraId, r) = x := by
    intro r hr
    unfold capacityCamera
    cases hb : r.retentionMaxBytes with
    | none => rfl
    | some b =>
      have hb0 : b = 0 := by simpa [inForce, hb, Option.filter] using hr
      simp [hb0]
  cases hp : inForce p.retentionMaxBytes with
  | none => rw [hskip p hp, hskip q (hmax ▸ hp)]
  | some b =>
    have hstored : ∀ r : StoragePolicy, inForce r.retentionMaxBytes = some b →
        r.retentionMaxBytes = some b := fun r hr => (Option.filter_eq_some_iff.1 hr).1
    unfold capacityCamera
    rw [hstored p hp, hstored q (hmax ▸ hp)]
    dsimp only
    rw [← hover]
    cases hover' : p.overCapacityPolicy with
    | deleteOldest => rfl
    | stopRecording => exact absurd hover' hstop
    | warnOnly => rfl

/-- **Each row of the storage page shows the limits that retention applies to its camera exactly
when the camera has no row of its own that leaves a limit unset which the global policy sets**:
as the passes read limits, where 0 is none, and as they are stored. -/
theorem displayed_iff (s : Engine) :
    List.Forall₂ (fun cam row => row.uuid = cam.uuid ∧
        (row.limits.effective = (s.appliedLimits cam.id).effective ↔
          ¬ s.UnsetUnderGlobal inForce cam.id) ∧
        (row.limits = s.appliedLimits cam.id ↔ ¬ s.UnsetUnderGlobal id cam.id))
      s.cameras.getAllEnabled s.cameraUsage := by
  rw [Engine.cameraUsage, List.forall₂_map_right_iff, List.forall₂_same]
  intro cam _
  refine ⟨rfl, ?_, ?_⟩
  · rw [← Engine.limits_iff inForce rfl cam, Limits.effective, Limits.effective, Limits.mk.injEq]
  · rw [← Engine.limits_iff id rfl cam]
    exact Limits.ext_iff

/-! ## Tables that show the difference -/

namespace PolicyFixture

/-- The global policy keeps two weeks and records. -/
def global : StoragePolicy :=
  { StoragePolicy.new 301 none with retentionDays := some 14, recordMode := .continuous }

/-- Camera 35 has a byte limit of its own. -/
def capped : StoragePolicy :=
  { StoragePolicy.new 302 (some 35) with retentionMaxBytes := some 9000 }

def policies : StoragePolicies := ⟨[global, capped], by decide⟩

def cameras : Cameras := ⟨[⟨35, "cam-35", "Gate", true, none⟩], List.nodup_singleton _⟩

/-- A recording of the first day. -/
def oldSegment : Segment := ⟨901, 35, 4, "c35/old.ts", 0, 10, 100, .main, false⟩

def segments : Segments := ⟨[oldSegment], List.nodup_singleton _⟩

def engine : Engine := ⟨cameras, policies, ∅, segments, ∅, []⟩

def env : Env := ⟨days 40, 0, fun _ _ => none⟩

/-- The body `{"retention_max_bytes": null}`. -/
def uncap : PolicyData :=
  ⟨none, Function.update (fun _ => none) .retentionMaxBytes (some none)⟩

end PolicyFixture

section
open PolicyFixture

/-- The page shows two weeks for a camera under no limit of days: the passes keep its recording of
forty days ago. -/
theorem displayed_but_not_applied :
    engine.cameraUsage.map (fun row => (row.uuid, row.limits)) =
      [("cam-35", ⟨some 14, some 9000⟩)] ∧
    engine.appliedLimits 35 = ⟨none, some 9000⟩ ∧
    oldSegment ∈ (engine.retain env).segments := by decide +kernel

/-- Switching the mode of a camera under the global policy drops the retention it inherited, and
a limit given as null stays. -/
theorem edit_not_exact :
    (∃ s', engine.setMode 36 "continuous" = .ok s' ∧
      ¬ EditExact policies s'.policies 36 (.ofMode .continuous)) ∧
    ∃ fields s' pol warnings, uncap.fields = .ok fields ∧
      engine.updatePolicy (some 35) uncap = .ok (s', pol, warnings) ∧
      ¬ EditExact policies s'.policies 35 fields := by
  refine ⟨⟨_, rfl, fun h => ?_⟩, ⟨_, _, _, _, rfl, rfl, fun h => ?_⟩⟩
  · have hfits := (StoragePolicies.editExact_iff (by decide) _).1 h
    exact absurd (hfits.inherited (by decide) global (by decide) .retentionDays (by decide))
      (by decide)
  · have hfits := (StoragePolicies.editExact_iff (by decide) _).1 h
    exact absurd (hfits.cleared .retentionMaxBytes (by decide)) (by decide)

/-- The mode change of a camera that has a row of its own. -/
theorem edit_exact_iff_fixture :
    ∃ s', engine.setMode 35 "continuous" = .ok s' ∧
      (EditExact policies s'.policies 35 (.ofMode .continuous) ↔
        EditFits policies 35 (.ofMode .continuous)) ∧
      ∀ c, c ≠ 35 → s'.policies.getForCamera c = policies.getForCamera c :=
  (edit_exact_iff engine (show 35 ≠ 0 by decide)).2 "continuous" .continuous rfl

end

end AeroXProtect
