import AeroXProtect.Storage.Policies

/-!
# The overcommit warning

An update of a policy is stored first. Then `check_pool_overcommit` sums the byte limits that are in
force, the new one among them, and adds the limit of the request to the sum once more. So the
warning is about a pool with one camera too many: it is wrong exactly when the limit of the request
makes up the difference (`overcommit_iff_countedOnce`). For a limit of the global policy the sum has
it for every camera without a row of its own.
-/

open Lib

namespace AeroXProtect

namespace Engine

variable (s : Engine)

/-- The bytes of the writable disks. -/
def poolTotal : Int := ((s.disks.getWritable [.cache, .record]).map Disk.totalBytes).sum

/-- The bytes of the writable disks that stay free. -/
def poolReserved : Int := ((s.disks.getWritable [.cache, .record]).map Disk.reservedFreeBytes).sum

/-- The byte limits that apply to the enabled cameras. -/
def committed : Int :=
  (s.cameras.getAllEnabled.map fun cam => (s.appliedLimits cam.id).maxBytes.getD 0).sum

/-- The limits and the reserve are more than a pool that is not empty. -/
def Overcommitted : Prop := s.poolTotal < s.committed + s.poolReserved ∧ 0 < s.poolTotal

instance : Decidable s.Overcommitted :=
  inferInstanceAs (Decidable (s.poolTotal < s.committed + s.poolReserved ∧ 0 < s.poolTotal))

/-- The camera will be under the row that an edit writes: it is the camera of the edit, or the edit
is about the global policy and the camera has no row of its own. -/
def underEdited (cameraId : Option Nat) (cam : Nat) : Bool :=
  match cameraId with
  | some c => decide (cam = c)
  | none => (s.policies.getRawForCamera cam).isNone

/-- The byte limits with the limit of the request at the cameras that will be under it. -/
def committedWith (cameraId : Option Nat) (limit : Int) : Int :=
  (s.cameras.getAllEnabled.map fun cam =>
    if s.underEdited cameraId cam.id then limit else (s.appliedLimits cam.id).maxBytes.getD 0).sum

/-- The limit of the request makes no difference when it is added once more: the pool is empty, or
the sum is over it with one limit less, or it is not with one more. -/
def CountedOnce (cameraId : Option Nat) (limit : Int) : Prop :=
  s.poolTotal ≤ 0 ∨
    s.poolTotal < s.committedWith cameraId limit + s.poolReserved + min 0 limit ∨
    s.committedWith cameraId limit + s.poolReserved + max 0 limit ≤ s.poolTotal

end Engine

namespace StoragePolicies

variable {t : StoragePolicies} {row : StoragePolicy}

/-- An update of the global row. -/
theorem getForCamera_modify_global (h : t.getGlobal = some row) {f : StoragePolicy → StoragePolicy}
    (hid : ∀ p, (f p).id = p.id) (hcam : ∀ p, (f p).cameraId = p.cameraId)
    (hdel : ∀ p, (f p).deletedAt = p.deletedAt) (c : Nat) :
    getForCamera (t.modify (fun p => decide (p.id = row.id)) f hid) c =
      (t.getRawForCamera c).or (some (f row)) := by
  obtain ⟨hrow, hrowCam, -⟩ := mem_of_getGlobal h
  have hraw : getRawForCamera (t.modify (fun p => decide (p.id = row.id)) f hid) c =
      t.getRawForCamera c := by
    have hq : ∀ p, (decide ((f p).cameraId = some c) && (f p).deletedAt.isNone) =
        (decide (p.cameraId = some c) && p.deletedAt.isNone) := fun p => by rw [hcam, hdel]
    unfold getRawForCamera
    rw [Table.find?_modify hq]
    cases hf : t.rows.find? fun p => decide (p.cameraId = some c) && p.deletedAt.isNone with
    | none => rfl
    | some r =>
      obtain ⟨hr, hrCam, -⟩ := mem_of_getRawForCamera hf
      have hne : r.id ≠ row.id := by
        intro heq
        rw [Table.eq_of_key_eq hr hrow heq, hrowCam] at hrCam
        cases hrCam
      simp [hne]
  have hglobal : getGlobal (t.modify (fun p => decide (p.id = row.id)) f hid) = some (f row) := by
    have hq : ∀ p, ((f p).cameraId.isNone && (f p).deletedAt.isNone) =
        (p.cameraId.isNone && p.deletedAt.isNone) := fun p => by rw [hcam, hdel]
    have hfind : t.rows.find? (fun p => p.cameraId.isNone && p.deletedAt.isNone) = some row := h
    unfold getGlobal
    rw [Table.find?_modify hq, hfind]
    simp
  unfold getForCamera
  rw [hraw, hglobal]

/-- A first global row. -/
theorem getForCamera_insert_global (h : t.getGlobal = none) (hid : ∀ p ∈ t, p.id ≠ row.id)
    (hcam : row.cameraId = none) (hdel : row.deletedAt = none) (c : Nat) :
    getForCamera (t.insert row) c = (t.getRawForCamera c).or (some row) := by
  have hfind : t.rows.find? (fun p => p.cameraId.isNone && p.deletedAt.isNone) = none := h
  unfold getForCamera getRawForCamera getGlobal
  rw [Table.find?_insert hid, Table.find?_insert hid, hfind]
  simp [hcam, hdel]

/-- The row an edit of the global policy starts from. -/
def globalRow (t : StoragePolicies) : StoragePolicy :=
  t.getGlobal.getD (.new t.freshKey none)

/-- After an edit of the global policy, the cameras without a row of their own are under it. -/
theorem getForCamera_upsert_global (fields : PolicyFields) (c : Nat) :
    (t.upsertForCamera none fields).1.getForCamera c =
      (t.getRawForCamera c).or (some (t.globalRow.setFields fields)) := by
  have hrow : t.editedRow none = t.getGlobal := rfl
  unfold upsertForCamera globalRow
  rw [hrow]
  cases hglobal : t.getGlobal with
  | some r =>
    exact getForCamera_modify_global hglobal (fun p => p.id_setFields fields)
      (fun p => p.cameraId_setFields fields) (fun p => p.deletedAt_setFields fields) c
  | none =>
    refine getForCamera_insert_global hglobal ?_ ?_ ?_ c
    · simpa [StoragePolicy.new] using t.ne_freshKey
    · simp [StoragePolicy.new]
    · simp [StoragePolicy.new]

end StoragePolicies

namespace Engine

variable {s : Engine} {limit : Int}

/-- The policies in force have the limits that apply; a camera without a policy has none. -/
theorem sum_effectivePolicies (s : Engine) :
    (s.effectivePolicies.map fun cp => cp.2.retentionMaxBytes.getD 0).sum = s.committed := by
  unfold effectivePolicies committed appliedLimits
  induction s.cameras.getAllEnabled with
  | nil => rfl
  | cons cam cams ih =>
    rw [List.filterMap_cons, List.map_cons, List.sum_cons, ← ih]
    cases s.policies.getForCamera cam.id with
    | none => simp
    | some pol => simp [StoragePolicy.limits]

/-- When the check warns. -/
theorem mem_checkPoolOvercommit {proposed : Option Int} :
    "pool_overcommit" ∈ s.checkPoolOvercommit proposed ↔
      s.poolTotal < s.committed + proposed.getD 0 + s.poolReserved ∧ 0 < s.poolTotal := by
  unfold checkPoolOvercommit
  rw [sum_effectivePolicies]
  dsimp only
  split
  · next h => exact iff_of_true (by simp) h
  · next h => exact iff_of_false (by simp) h

/-- The byte limit of a camera after an edit that gives one. -/
theorem maxBytes_upsert {cameraId : Option Nat} (hcamera : cameraId ≠ some 0)
    {fields : PolicyFields} (hlimit : (fields .retentionMaxBytes).join = some limit) {s' : Engine}
    (hs' : s'.policies = (s.policies.upsertForCamera cameraId fields).1) (cam : Nat) :
    (s'.appliedLimits cam).maxBytes.getD 0 =
      if s.underEdited cameraId cam then limit else (s.appliedLimits cam).maxBytes.getD 0 := by
  have hnew : ∀ row : StoragePolicy, (row.setFields fields).retentionMaxBytes = some limit := by
    intro row
    have hcolumn := row.getattr_setFields fields .retentionMaxBytes
    rw [hlimit, Option.some_or] at hcolumn
    exact hcolumn
  unfold appliedLimits underEdited
  rw [hs']
  cases cameraId with
  | none =>
    rw [StoragePolicies.getForCamera_upsert_global]
    unfold StoragePolicies.getForCamera
    cases hraw : s.policies.getRawForCamera cam with
    | none => simp [StoragePolicy.limits, hnew]
    | some own => simp
  | some c =>
    have hwrote := @StoragePolicies.wrote_upsertForCamera s.policies c
      (fun hc => hcamera (congrArg some hc)) fields
    by_cases hcam : cam = c
    · subst hcam
      simp [hwrote.getForCamera, StoragePolicy.limits, hnew]
    · simp [hwrote.getForCamera_ne hcam, hcam]

theorem committed_upsert {cameraId : Option Nat} (hcamera : cameraId ≠ some 0)
    {fields : PolicyFields} (hlimit : (fields .retentionMaxBytes).join = some limit) {s' : Engine}
    (hs' : s'.policies = (s.policies.upsertForCamera cameraId fields).1)
    (hcameras : s'.cameras = s.cameras) : s'.committed = s.committedWith cameraId limit := by
  unfold committed committedWith
  rw [hcameras]
  congr 1
  exact List.map_congr_left fun cam _ => maxBytes_upsert hcamera hlimit hs' cam.id

/-- The tables that an update leaves, and its warnings. -/
theorem updatePolicy_warns (s : Engine) (cameraId : Option Nat) {data : PolicyData}
    {fields : PolicyFields} (h : data.fields = .ok fields) :
    ∃ s' pol, s.updatePolicy cameraId data =
        .ok (s', pol, s'.checkPoolOvercommit (fields .retentionMaxBytes).join) ∧
      s'.policies = (s.policies.upsertForCamera cameraId fields).1 ∧ s'.cameras = s.cameras ∧
      s'.disks = s.disks := by
  unfold updatePolicy
  rw [h]
  dsimp only [bind, Except.bind]
  cases cameraId.filter fun c => c ≠ 0 with
  | none => exact ⟨_, _, rfl, rfl, rfl, rfl⟩
  | some c =>
    dsimp only
    split
    · exact ⟨_, _, rfl, rfl, rfl, rfl⟩
    · exact ⟨_, _, rfl, rfl, rfl, rfl⟩

end Engine

/-- **The overcommit warning.** The response to an update warns exactly when the pool is
overcommitted under the updated policies, if and only if the limit of the request makes no
difference when it is added once more. -/
theorem overcommit_iff_countedOnce (s : Engine) (cameraId : Option Nat)
    (hcamera : cameraId ≠ some 0) (data : PolicyData) (fields : PolicyFields)
    (hfields : data.fields = .ok fields) :
    ∃ s' pol warnings, s.updatePolicy cameraId data = .ok (s', pol, warnings) ∧
      (("pool_overcommit" ∈ warnings ↔ s'.Overcommitted) ↔
        s.CountedOnce cameraId ((fields .retentionMaxBytes).join.getD 0)) := by
  obtain ⟨s', pol, hok, hpolicies, hcameras, hdisks⟩ := s.updatePolicy_warns cameraId hfields
  have htotal : s'.poolTotal = s.poolTotal := by rw [Engine.poolTotal, hdisks, Engine.poolTotal]
  have hreserved : s'.poolReserved = s.poolReserved := by
    rw [Engine.poolReserved, hdisks, Engine.poolReserved]
  refine ⟨s', pol, _, hok, ?_⟩
  rw [Engine.mem_checkPoolOvercommit, Engine.Overcommitted, Engine.CountedOnce, htotal, hreserved]
  cases hlimit : (fields .retentionMaxBytes).join with
  | none =>
    rw [Option.getD_none]
    omega
  | some limit =>
    rw [Option.getD_some, Engine.committed_upsert hcamera hlimit hpolicies hcameras]
    omega

/-! ## A limit that is counted twice -/

namespace OvercommitFixture

/-- A disk of 1000 bytes. -/
def disk : Disk := ⟨701, "rec", .record, true, 0, 1000, 1000, 100, .online, none, none⟩

def engine : Engine := ⟨PolicyFixture.cameras, ∅, ∅, ∅, ⟨[disk], List.nodup_singleton _⟩, []⟩

/-- The body with a byte limit. -/
def cap (limit : Int) : PolicyData :=
  ⟨none, Function.update (fun _ => none) .retentionMaxBytes (some (some limit))⟩

end OvercommitFixture

open OvercommitFixture in
/-- One camera with a limit of 600 bytes in a pool of 1000: a warning, and no overcommitment. -/
theorem overcommit_counted_twice :
    ∃ s' pol warnings, engine.updatePolicy (some 35) (cap 600) = .ok (s', pol, warnings) ∧
      "pool_overcommit" ∈ warnings ∧ ¬ s'.Overcommitted :=
  ⟨_, _, _, rfl, by decide +kernel, by decide +kernel⟩

open OvercommitFixture in
/-- A limit of 500 bytes is counted twice without harm. -/
theorem overcommit_iff_countedOnce_half :
    ∃ s' pol warnings, engine.updatePolicy (some 35) (cap 500) = .ok (s', pol, warnings) ∧
      (("pool_overcommit" ∈ warnings ↔ s'.Overcommitted) ↔ engine.CountedOnce (some 35) 500) :=
  overcommit_iff_countedOnce engine (some 35) (by decide) (cap 500) _ rfl

end AeroXProtect
