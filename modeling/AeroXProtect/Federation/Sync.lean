import AeroXProtect.Lib.Decoded
import AeroXProtect.Lib.Table
import AeroXProtect.Lib.UnitOfWork
import Mathlib.Data.List.Infix
import Mathlib.Data.List.TakeWhile

/-!
# Federation sync

A hub copies the camera list of each member into a cache. `replace_for_member` deletes the cached
cameras and adds the new ones before it has looked at each of them, and what is left of it when an
element of the answer is no object is committed by the handler that notes the error. What a member
answers is a decoded value; the database takes a row or not (`FederationDb`).
`syncMember_enabled` says everything the sync of a member can do, and `federation_law_iff` for which
answers it is all or nothing and a sweep gives each member what its own answer gives.
-/

open Lib

namespace AeroXProtect.Federation

/-! ## Tables -/

inductive MemberStatus
  | unknown | online | offline | error
  deriving DecidableEq, Repr

/-- A row of `federation_members`. -/
structure FederationMember where
  id : Nat
  status : MemberStatus
  lastSyncAt : Option Int
  lastError : Option String
  cameraCount : Nat
  enabled : Bool
  deletedAt : Option Int
  deriving DecidableEq, Repr

abbrev FederationMembers := Table FederationMember.id

/-- A row of `federation_cameras`. -/
structure FederationCamera where
  memberId : Nat
  remoteUuid : String
  name : String
  status : PyValue
  online : Bool
  lastSyncAt : Int

/-- The tables of the federation. -/
structure FederationTables where
  members : FederationMembers
  cameras : List FederationCamera

/-- What the database does with a row of `federation_cameras`: the values it takes, the collation of
the unique key, and the text of its exceptions. -/
structure FederationDb where
  accepts : FederationCamera → Bool
  collate : String → String
  errorText : String

namespace FederationDb

/-- The rows have one value of `uq_fed_cam_member_remote`. -/
def clash (db : FederationDb) (d r : FederationCamera) : Bool :=
  decide (d.memberId = r.memberId ∧ db.collate d.remoteUuid = db.collate r.remoteUuid)

end FederationDb

/-- What waits for a commit: a new camera, or the columns that `mark_sync` has set. -/
inductive FederationWrite
  | insert (row : FederationCamera)
  | mark (id : Nat) (status : MemberStatus) (now : Int) (cameraCount : Option Nat)
      (error : Option String)

/-- The columns that a mark writes. -/
def FederationTables.mark (t : FederationTables) (id : Nat) (status : MemberStatus) (now : Int)
    (cameraCount : Option Nat) (error : Option String) : FederationTables :=
  { t with
    members := t.members.modify (fun m => decide (m.id = id)) fun m =>
      { m with
        status := status, lastSyncAt := some now
        cameraCount := cameraCount.getD m.cameraCount, lastError := error } }

/-- A write of the flush. -/
def flush (db : FederationDb) (t : FederationTables) : FederationWrite → Option FederationTables
  | .insert row =>
    (insertUnique db.accepts db.clash t.cameras row).map fun cameras => { t with cameras }
  | .mark id status now cameraCount error => some (t.mark id status now cameraCount error)

abbrev FederationSession := UnitOfWork FederationTables FederationWrite

namespace FederationTables

/-- Source: `FederationMember.get_by_id` (`server/model/federation_member.py:50`). -/
def getById (t : FederationTables) (id : Nat) : Option FederationMember :=
  t.members.rows.find? fun m => m.id == id && m.deletedAt.isNone

/-- Source: `FederationMember.list_enabled` (`server/model/federation_member.py:59`). -/
def listEnabled (t : FederationTables) : List FederationMember :=
  t.members.rows.filter fun m => m.deletedAt.isNone && m.enabled

/-- The cached cameras of a member. -/
def camerasOf (t : FederationTables) (id : Nat) : List FederationCamera :=
  t.cameras.filter fun r => decide (r.memberId = id)

end FederationTables

/-! ## The sync of a member -/

/-- What `FederationClient.state` raises: a `FederationError`, or another exception. -/
inductive ClientFault
  | federation (text : String)
  | other (text : String)
  deriving DecidableEq, Repr

/-- The answer of a member, and the clock when its cameras are replaced and when it is marked. -/
structure SyncEnv where
  answer : Except ClientFault PyValue
  replacedAt : Int
  markedAt : Int

/-- The report of `sync_member`. -/
inductive SyncReport
  | ok (cameras : Nat)
  | failed (error : String)
  deriving DecidableEq, Repr

def SyncReport.isOk : SyncReport → Bool
  | .ok _ => true
  | .failed _ => false

/-- `type(x).__name__` -/
def typeName : PyValue → String
  | .null => "NoneType"
  | .bool _ => "bool"
  | .int _ => "int"
  | .float _ => "float"
  | .str _ => "str"
  | .list _ => "list"
  | .dict _ => "dict"

/-- The text of the `AttributeError` of `x.get`. -/
def noGet (x : PyValue) : String := "'" ++ typeName x ++ "' object has no attribute 'get'"

/-- `s[:n]` -/
def slice (s : String) (n : Nat) : String := String.ofList (s.toList.take n)

section
variable (rt : Runtime) (db : FederationDb)

/-- The row of an object of the list. -/
def cameraRow (memberId : Nat) (now : Int) (c : PyValue) : FederationCamera where
  memberId := memberId
  remoteUuid := slice (rt.str ((c.field "uuid").or (.str ""))) 64
  name := slice (rt.str ((c.field "name").or (.str ""))) 200
  status := (c.field "status").or .null
  online := (c.field "online").truthy
  lastSyncAt := now

/-- The loop of `replace_for_member`: it raises at the first element that is no object. -/
def addRows (memberId : Nat) (now : Int) :
    List PyValue → FederationSession → FederationSession × Except String Unit
  | [], u => (u, .ok ())
  | c :: cs, u =>
    if c.isDict then addRows memberId now cs (u.add (.insert (cameraRow rt memberId now c)))
    else (u, .error (noGet c))

/-- Source: `FederationCamera.replace_for_member` (`server/model/federation_camera.py:27`); an
exception is its text. -/
def replaceForMember (u : FederationSession) (memberId : Nat) (cameras : List PyValue) (now : Int) :
    FederationSession × Except String Nat :=
  match u.execute fun t =>
      { t with cameras := t.cameras.filter fun r => !decide (r.memberId = memberId) } with
  | (u, false) => (u, .error db.errorText)
  | (u, true) =>
    match addRows rt memberId now cameras u with
    | (u, .error text) => (u, .error text)
    | (u, .ok ()) =>
      match u.commit (flush db) with
      | (u, false) => (u, .error db.errorText)
      | (u, true) => (u, .ok cameras.length)

/-- `error[:500] if error else None` -/
def noted (error : Option String) : Option String :=
  error.bind fun text => if text = "" then none else some (slice text 500)

/-- Source: `FederationMember.mark_sync` (`server/model/federation_member.py:88`); `false` when it
raises. -/
def markSync (u : FederationSession) (id : Nat) (status : MemberStatus) (now : Int)
    (cameraCount : Option Nat) (error : Option String) : FederationSession × Bool :=
  (u.add (.mark id status now cameraCount (noted error))).commit (flush db)

/-- A handler of `sync_member`: the member is marked, and the error reported. -/
def handle (u : FederationSession) (id : Nat) (status : MemberStatus) (now : Int) (text : String) :
    FederationSession × Option SyncReport :=
  match markSync db u id status now none (some text) with
  | (u, true) => (u, some (.failed text))
  | (u, false) => (u, none)

/-- The cameras of a state that has a list of them. -/
def stateCameras (state : PyValue) : Option (List PyValue) :=
  match state.field "cameras" with
  | .list cameras => some cameras
  | _ => none

/-- The `try` of `sync_member`, with its handlers. -/
def pull (u : FederationSession) (id : Nat) (e : SyncEnv) :
    FederationSession × Option SyncReport :=
  match e.answer with
  | .error (.federation text) =>
    let status := if "unreachable".toList <:+: text.toList then .offline else .error
    handle db u id status e.markedAt text
  | .error (.other text) => handle db u id .error e.markedAt text
  | .ok state =>
    match stateCameras state with
    | none =>
      match markSync db u id .error e.markedAt none (some "malformed_state") with
      | (u, true) => (u, some (.failed "malformed_state"))
      | (u, false) => handle db u id .error e.markedAt db.errorText
    | some cameras =>
      match replaceForMember rt db u id cameras e.replacedAt with
      | (u, .error text) => handle db u id .error e.markedAt text
      | (u, .ok count) =>
        match markSync db u id .online e.markedAt (some count) none with
        | (u, true) => (u, some (.ok count))
        | (u, false) => handle db u id .error e.markedAt db.errorText

/-- Source: `sync_member` (`server/service/federation.py:24`); no report when it raises. -/
def syncMember (u : FederationSession) (id : Nat) (e : SyncEnv) :
    FederationSession × Option SyncReport :=
  if !u.active then (u, none)
  else
    match u.seen.getById id with
    | none => (u, some (.failed "not_found"))
    | some m => if !m.enabled then (u, some (.failed "disabled")) else pull rt db u id e

/-- The loop of `sync_all`. -/
def syncEach (env : Nat → SyncEnv) :
    List Nat → FederationSession → FederationSession × Option (List (Nat × SyncReport))
  | [], u => (u, some [])
  | id :: ids, u =>
    match syncMember rt db u id (env id) with
    | (u, none) => (u, none)
    | (u, some r) =>
      match syncEach env ids u with
      | (u, none) => (u, none)
      | (u, some rs) => (u, some ((id, r) :: rs))

/-- What `sync_all` returns. -/
structure SweepReport where
  members : Nat
  synced : Nat
  results : List (Nat × SyncReport)
  deriving DecidableEq, Repr

/-- Source: `sync_all` (`server/service/federation.py:52`); no report when it raises. -/
def syncAll (u : FederationSession) (env : Nat → SyncEnv) :
    FederationSession × Option SweepReport :=
  if !u.active then (u, none)
  else
    let members := u.seen.listEnabled
    match syncEach rt db env (members.map FederationMember.id) u with
    | (u, none) => (u, none)
    | (u, some results) =>
      (u, some ⟨members.length, results.countP fun r => r.2.isOk, results⟩)

end

/-! ## The flush -/

section
variable {rt : Runtime} {db : FederationDb} {t : FederationTables} {id : Nat} {e : SyncEnv}

/-- A member that is synced: it is there and enabled. -/
def FederationTables.isEnabled (t : FederationTables) (id : Nat) : Bool :=
  (t.getById id).any FederationMember.enabled

/-- The tables with other cameras for a member. -/
def FederationTables.replace (t : FederationTables) (id : Nat) (rows : List FederationCamera) :
    List FederationCamera :=
  (t.cameras.filter fun r => !decide (r.memberId = id)) ++ rows

/-- The database takes the rows of a member: each of them, and no two with one uuid. -/
def FederationDb.takes (db : FederationDb) (rows : List FederationCamera) : Bool :=
  rows.all db.accepts &&
    decide (rows.Pairwise fun d r => db.collate d.remoteUuid ≠ db.collate r.remoteUuid)

/-- The rows that are added for a list: those of the objects before the first other element. -/
def addedRows (rt : Runtime) (id : Nat) (now : Int) (cameras : List PyValue) :
    List FederationCamera :=
  (cameras.takeWhile PyValue.isDict).map (cameraRow rt id now)

theorem memberId_of_mem_addedRows {now : Int} {cameras : List PyValue} {r : FederationCamera}
    (h : r ∈ addedRows rt id now cameras) : r.memberId = id := by
  obtain ⟨c, -, rfl⟩ := List.mem_map.1 h
  rfl

/-- A mark changes no column that a lookup of members reads. -/
@[simp] theorem isEnabled_mark (id' : Nat) (now : Int) (status : MemberStatus)
    (count : Option Nat) (error : Option String) :
    (t.mark id status now count error).isEnabled id' = t.isEnabled id' := by
  unfold FederationTables.isEnabled FederationTables.getById FederationTables.mark
  dsimp only
  rw [Table.find?_modify, Option.any_map]
  · congr 1
    funext m
    split <;> rfl
  · exact fun _ => rfl

/-- Rows of a member that has none are inserted exactly if the database takes them. -/
theorem foldlM_flush_insert (rows : List FederationCamera) :
    ∀ t : FederationTables, (∀ r ∈ t.cameras, r.memberId ≠ id) → (∀ r ∈ rows, r.memberId = id) →
      (rows.map FederationWrite.insert).foldlM (flush db) t =
        if db.takes rows then some { t with cameras := t.cameras ++ rows } else none := by
  intro t ht hrows
  have hlift : ∀ (l : List FederationCamera) (t : FederationTables),
      (l.map FederationWrite.insert).foldlM (flush db) t =
        (l.foldlM (insertUnique db.accepts db.clash) t.cameras).map
          fun cameras => { t with cameras } := by
    intro l
    induction l with
    | nil => exact fun t => rfl
    | cons r l ih =>
      intro t
      rw [List.map_cons, List.foldlM_cons, List.foldlM_cons, flush]
      cases insertUnique db.accepts db.clash t.cameras r with
      | none => rfl
      | some cameras => exact ih { t with cameras }
  have hkeys : db.takes rows = true ↔ (∀ r ∈ rows, db.accepts r = true) ∧
      (∀ d ∈ t.cameras, ∀ r ∈ rows, db.clash d r = false) ∧
        rows.Pairwise fun d r => db.clash d r = false := by
    have hpair : (rows.Pairwise fun d r => db.clash d r = false) ↔
        rows.Pairwise fun d r => db.collate d.remoteUuid ≠ db.collate r.remoteUuid := by
      refine List.Pairwise.iff_of_mem fun hd hr => ?_
      simp [FederationDb.clash, hrows _ hd, hrows _ hr]
    have hold : ∀ d ∈ t.cameras, ∀ r ∈ rows, db.clash d r = false := by
      intro d hd r hr
      refine decide_eq_false fun h => ht d hd ?_
      rw [h.1, hrows r hr]
    simp only [FederationDb.takes, Bool.and_eq_true, List.all_eq_true, decide_eq_true_eq, hpair]
    exact ⟨fun h => ⟨h.1, hold, h.2⟩, fun h => ⟨h.1, h.2.2⟩⟩
  rw [hlift]
  cases hfold : rows.foldlM (insertUnique db.accepts db.clash) t.cameras with
  | some cameras =>
    obtain ⟨rfl, hnew⟩ := foldlM_insertUnique.1 hfold
    rw [if_pos (hkeys.2 hnew)]
    rfl
  | none =>
    rw [if_neg]
    · rfl
    · intro htakes
      have := foldlM_insertUnique.2 ⟨rfl, hkeys.1 htakes⟩
      rw [hfold] at this
      cases this

/-! ## One member -/

/-- The session in which the loop of `replace_for_member` has added rows. -/
def staged (t : FederationTables) (id : Nat) (rows : List FederationCamera) : FederationSession :=
  ⟨t, { t with cameras := t.cameras.filter fun r => !decide (r.memberId = id) },
    rows.map .insert, true⟩

variable (rt t id) in
/-- The loop adds the rows of the objects, and raises when there is another element. -/
theorem addRows_eq (now : Int) (cameras : List PyValue) (rows : List FederationCamera) :
    addRows rt id now cameras (staged t id rows) =
      (staged t id (rows ++ addedRows rt id now cameras),
        match cameras.find? fun c => !c.isDict with
        | none => .ok ()
        | some c => .error (noGet c)) := by
  induction cameras generalizing rows with
  | nil => simp [addRows, addedRows]
  | cons c cameras ih =>
    rw [addRows]
    cases hc : c.isDict with
    | false => simp [addedRows, hc]
    | true =>
      have hadd : (staged t id rows).add (.insert (cameraRow rt id now c)) =
          staged t id (rows ++ [cameraRow rt id now c]) := by
        simp [UnitOfWork.add, staged]
      rw [if_pos rfl, hadd, ih]
      simp [addedRows, hc]

/-- What the sync of an enabled member reports, by its answer; nothing when it raises. -/
def verdict (rt : Runtime) (db : FederationDb) (id : Nat) (e : SyncEnv) : Option SyncReport :=
  match e.answer with
  | .error (.federation text) | .error (.other text) => some (.failed text)
  | .ok state =>
    match stateCameras state with
    | none => some (.failed "malformed_state")
    | some cameras =>
      if !db.takes (addedRows rt id e.replacedAt cameras) then none
      else
        match cameras.find? fun c => !c.isDict with
        | none => some (.ok cameras.length)
        | some c => some (.failed (noGet c))

/-- The list of cameras in an answer. -/
def SyncEnv.cameras (e : SyncEnv) : Option (List PyValue) :=
  match e.answer with
  | .ok state => stateCameras state
  | .error _ => none

/-- The cameras in the tables after a sync that reports. -/
def settled (rt : Runtime) (t : FederationTables) (id : Nat) (e : SyncEnv) :
    List FederationCamera :=
  match e.cameras with
  | none => t.cameras
  | some cameras => t.replace id (addedRows rt id e.replacedAt cameras)

/-- A mark in a session without other writes commits. -/
theorem markSync_clean (t : FederationTables) (id : Nat) (status : MemberStatus) (now : Int)
    (count : Option Nat) (error : Option String) :
    markSync db (.clean t) id status now count error =
      (.clean (t.mark id status now count (noted error)), true) :=
  UnitOfWork.commit_of_some rfl

variable (db t) in
/-- The flush of the added rows. -/
theorem flush_staged {rows : List FederationCamera} (hrows : ∀ r ∈ rows, r.memberId = id) :
    (staged t id rows).pending.foldlM (flush db) (staged t id rows).seen =
      if db.takes rows then some { t with cameras := t.replace id rows } else none := by
  refine foldlM_flush_insert rows _ (fun r hr => ?_) hrows
  simpa using (List.mem_filter.1 hr).2

/-- The commit of `replace_for_member`. -/
theorem commit_staged {rows : List FederationCamera} (hrows : ∀ r ∈ rows, r.memberId = id) :
    (staged t id rows).commit (flush db) =
      if db.takes rows then (.clean { t with cameras := t.replace id rows }, true)
      else (⟨t, t, [], false⟩, false) := by
  have hfold := flush_staged db t hrows
  split at hfold
  · next htakes =>
    rw [if_pos htakes]
    exact UnitOfWork.commit_of_some hfold
  · next htakes =>
    rw [if_neg htakes]
    exact UnitOfWork.commit_of_none hfold

/-- The commit of a handler, which has put its mark after the added rows. -/
theorem markSync_staged {rows : List FederationCamera} (hrows : ∀ r ∈ rows, r.memberId = id)
    (status : MemberStatus) (now : Int) (count : Option Nat) (error : Option String) :
    markSync db (staged t id rows) id status now count error =
      if db.takes rows then
        (.clean (({ t with cameras := t.replace id rows } : FederationTables).mark id status now
          count (noted error)), true)
      else (⟨t, t, [], false⟩, false) := by
  have hfold := flush_staged db t hrows
  split at hfold
  · next htakes =>
    rw [if_pos htakes]
    refine UnitOfWork.commit_of_some ?_
    rw [List.foldlM_append, hfold]
    rfl
  · next htakes =>
    rw [if_neg htakes]
    refine UnitOfWork.commit_of_none ?_
    rw [List.foldlM_append, hfold]
    rfl

/-- What `replace_for_member` leaves: with an element that is no object, rows that wait for the next
commit; with rows that the database does not take, a session that has to be rolled back. -/
theorem replaceForMember_clean (cameras : List PyValue) (now : Int) :
    replaceForMember rt db (.clean t) id cameras now =
      match cameras.find? fun c => !c.isDict with
      | some c => (staged t id (addedRows rt id now cameras), .error (noGet c))
      | none =>
        if db.takes (addedRows rt id now cameras) then
          (.clean { t with cameras := t.replace id (addedRows rt id now cameras) },
            .ok cameras.length)
        else (⟨t, t, [], false⟩, .error db.errorText) := by
  have hadd := addRows_eq rt t id now cameras []
  rw [List.nil_append] at hadd
  unfold replaceForMember
  show (match addRows rt id now cameras (staged t id []) with
    | (u, Except.error text) => (u, Except.error text)
    | (u, Except.ok ()) =>
      match u.commit (flush db) with
      | (u, false) => (u, Except.error db.errorText)
      | (u, true) => (u, Except.ok cameras.length)) = _
  rw [hadd]
  cases cameras.find? fun c => !c.isDict with
  | some c => rfl
  | none =>
    dsimp only
    rw [commit_staged fun r => memberId_of_mem_addedRows]
    cases db.takes (addedRows rt id now cameras) with
    | true => rfl
    | false => rfl

variable (db id) in
/-- In a session that has to be rolled back a handler raises. -/
theorem handle_of_inactive {u : FederationSession} (h : u.active = false) (status : MemberStatus)
    (now : Int) (text : String) : ∃ u', handle db u id status now text = (u', none) ∧
      u'.committed = u.committed := by
  refine ⟨u.add (.mark id status now none (noted (some text))), ?_, rfl⟩
  unfold handle markSync
  rw [UnitOfWork.commit_of_inactive (by exact h)]

theorem handle_clean (t : FederationTables) (status : MemberStatus) (now : Int) (text : String) :
    handle db (.clean t) id status now text =
      (.clean (t.mark id status now none (noted (some text))), some (.failed text)) := by
  unfold handle
  rw [markSync_clean]

variable (rt db) in
/-- The sync of an enabled member: what it reports, and what it leaves. -/
theorem syncMember_enabled (h : t.isEnabled id = true) (e : SyncEnv) :
    ∃ u, syncMember rt db (.clean t) id e = (u, verdict rt db id e) ∧
      (verdict rt db id e = none → u.committed = t) ∧
      ∀ r, verdict rt db id e = some r → ∃ t', u = .clean t' ∧ t'.cameras = settled rt t id e ∧
        ∀ id', t'.isEnabled id' = t.isEnabled id' := by
  obtain ⟨m, hm, henabled⟩ : ∃ m, t.getById id = some m ∧ m.enabled = true := by
    simpa [FederationTables.isEnabled, Option.any_eq_true] using h
  have hpull : syncMember rt db (.clean t) id e = pull rt db (.clean t) id e := by
    unfold syncMember
    simp only [UnitOfWork.clean, Bool.not_true, Bool.false_eq_true, if_false, hm, henabled]
  rw [hpull]
  unfold pull
  unfold verdict settled SyncEnv.cameras
  cases e.answer with
  | error fault =>
    cases fault with
    | federation text | other text =>
      dsimp only
      rw [handle_clean]
      exact ⟨_, rfl, nofun, fun r hr => ⟨_, rfl, rfl, fun id' => isEnabled_mark id' ..⟩⟩
  | ok state =>
    dsimp only
    cases stateCameras state with
    | none =>
      dsimp only
      rw [markSync_clean]
      exact ⟨_, rfl, nofun, fun r hr => ⟨_, rfl, rfl, fun id' => isEnabled_mark id' ..⟩⟩
    | some cameras =>
      dsimp only
      rw [replaceForMember_clean]
      have hrows : ∀ r ∈ addedRows rt id e.replacedAt cameras, r.memberId = id :=
        fun r => memberId_of_mem_addedRows
      cases htakes : db.takes (addedRows rt id e.replacedAt cameras) with
      | false =>
        cases hfind : cameras.find? fun c => !c.isDict with
        | some c =>
          dsimp only
          unfold handle
          rw [markSync_staged hrows, htakes]
          exact ⟨_, rfl, fun _ => rfl, nofun⟩
        | none =>
          obtain ⟨u, hu, hcommitted⟩ := handle_of_inactive db id
            (u := ⟨t, t, [], false⟩) rfl .error e.markedAt db.errorText
          exact ⟨u, hu, fun _ => hcommitted, nofun⟩
      | true =>
        cases hfind : cameras.find? fun c => !c.isDict with
        | some c =>
          dsimp only
          unfold handle
          rw [markSync_staged hrows, htakes]
          exact ⟨_, rfl, nofun, fun r hr => ⟨_, rfl, rfl, fun id' => isEnabled_mark id' ..⟩⟩
        | none =>
          dsimp only
          rw [if_pos rfl]
          dsimp only
          rw [markSync_clean]
          exact ⟨_, rfl, nofun, fun r hr => ⟨_, rfl, rfl, fun id' => isEnabled_mark id' ..⟩⟩

variable (rt db) in
/-- Another member is not synced. -/
theorem syncMember_disabled (h : t.isEnabled id = false) (e : SyncEnv) :
    ∃ text, syncMember rt db (.clean t) id e = (.clean t, some (.failed text)) := by
  unfold syncMember
  simp only [UnitOfWork.clean, Bool.not_true, Bool.false_eq_true, if_false]
  cases hm : t.getById id with
  | none => exact ⟨_, rfl⟩
  | some m =>
    have hdisabled : m.enabled = false := by
      simpa [FederationTables.isEnabled, hm] using h
    refine ⟨"disabled", ?_⟩
    simp only [hdisabled, Bool.not_false, if_true]

/-! ## A sweep -/

theorem camerasOf_replace {t' : FederationTables} {rows : List FederationCamera} {id' : Nat}
    (h : t'.cameras = t.replace id rows) (hrows : ∀ r ∈ rows, r.memberId = id) :
    t'.camerasOf id' = if id' = id then rows else t.camerasOf id' := by
  unfold FederationTables.camerasOf
  rw [h, FederationTables.replace, List.filter_append, List.filter_filter]
  split
  · next heq =>
    subst heq
    rw [List.filter_eq_self.2 fun r hr => decide_eq_true (hrows r hr),
      List.filter_eq_nil_iff.2 fun r _ => by simp, List.nil_append]
  · next hne =>
    have hnew : rows.filter (fun r => decide (r.memberId = id')) = [] := by
      refine List.filter_eq_nil_iff.2 fun r hr => ?_
      rw [hrows r hr]
      simpa using Ne.symm hne
    rw [hnew, List.append_nil]
    refine List.filter_congr fun r _ => ?_
    by_cases hr : r.memberId = id' <;> simp [hr, hne]

/-- The cached cameras of a member after its sync. -/
def cached (rt : Runtime) (t : FederationTables) (id : Nat) (e : SyncEnv) :
    List FederationCamera :=
  match e.cameras with
  | none => t.camerasOf id
  | some cameras => addedRows rt id e.replacedAt cameras

/-- The sync of a member changes the cache of no other one. -/
theorem camerasOf_settled {t' : FederationTables} {id' : Nat}
    (h : t'.cameras = settled rt t id e) :
    t'.camerasOf id' = if id' = id then cached rt t id e else t.camerasOf id' := by
  unfold settled cached at *
  cases hcameras : e.cameras with
  | none =>
    rw [hcameras] at h
    unfold FederationTables.camerasOf
    dsimp only at h ⊢
    rw [h]
    split
    · next heq => rw [heq]
    · rfl
  | some cameras =>
    rw [hcameras] at h
    exact camerasOf_replace h fun r => memberId_of_mem_addedRows

variable {env : Nat → SyncEnv} {ids : List Nat}

/-- A sweep over members none of which makes it raise: each is reported as its own answer says. -/
theorem syncEach_eq_some (hids : ids.Nodup) (henabled : ∀ id ∈ ids, t.isEnabled id = true)
    (hverdict : ∀ id ∈ ids, verdict rt db id (env id) ≠ none) :
    ∃ t' rs, syncEach rt db env ids (.clean t) = (.clean t', some rs) ∧
      (∀ id ∈ ids, rs.lookup id = verdict rt db id (env id)) ∧
      ∀ id, t'.camerasOf id = if id ∈ ids then cached rt t id (env id) else t.camerasOf id := by
  induction ids generalizing t with
  | nil => exact ⟨t, [], rfl, nofun, fun id => rfl⟩
  | cons id ids ih =>
    obtain ⟨hid, hids⟩ := List.nodup_cons.1 hids
    rw [List.forall_mem_cons] at henabled hverdict
    obtain ⟨u, hsync, -, hreport⟩ := syncMember_enabled rt db henabled.1 (env id)
    obtain ⟨r, hr⟩ := Option.ne_none_iff_exists'.1 hverdict.1
    obtain ⟨t₁, rfl, hcameras, hsame⟩ := hreport r hr
    obtain ⟨t', rs, hrest, hlookup, hcache⟩ := ih hids
      (fun id' hid' => (hsame id').trans (henabled.2 id' hid')) hverdict.2
    refine ⟨t', (id, r) :: rs, ?_, ?_, fun id' => ?_⟩
    · rw [syncEach, hsync, hr]
      dsimp only
      rw [hrest]
    · rw [List.forall_mem_cons]
      refine ⟨by rw [List.lookup_cons_self, hr], fun id' hid' => ?_⟩
      have hne : id' ≠ id := fun heq => hid (heq ▸ hid')
      rw [List.lookup_cons, beq_false_of_ne hne]
      exact hlookup id' hid'
    · rw [hcache id']
      have hold : id' ≠ id → cached rt t₁ id' (env id') = cached rt t id' (env id') := by
        intro hne
        unfold cached
        cases (env id').cameras with
        | none => exact (camerasOf_settled hcameras).trans (if_neg hne)
        | some _ => rfl
      by_cases heq : id' = id
      · subst heq
        rw [if_neg hid, if_pos List.mem_cons_self, camerasOf_settled hcameras, if_pos rfl]
      · by_cases hmem : id' ∈ ids
        · rw [if_pos hmem, if_pos (.tail _ hmem), hold heq]
        · rw [if_neg hmem, if_neg (by simp [heq, hmem]), camerasOf_settled hcameras, if_neg heq]

/-- A member that makes it raise ends a sweep without a report. -/
theorem syncEach_eq_none (henabled : ∀ id ∈ ids, t.isEnabled id = true)
    (hverdict : ∃ id ∈ ids, verdict rt db id (env id) = none) :
    (syncEach rt db env ids (.clean t)).2 = none := by
  induction ids generalizing t with
  | nil => obtain ⟨id, hid, -⟩ := hverdict; cases hid
  | cons id ids ih =>
    rw [List.forall_mem_cons] at henabled
    obtain ⟨u, hsync, -, hreport⟩ := syncMember_enabled rt db henabled.1 (env id)
    rw [syncEach, hsync]
    cases hr : verdict rt db id (env id) with
    | none => rfl
    | some r =>
      obtain ⟨t₁, rfl, -, hsame⟩ := hreport r hr
      have hrest := ih (t := t₁) (fun id' hid' => (hsame id').trans (henabled.2 id' hid')) (by
        obtain ⟨id', hid', hnone⟩ := hverdict
        rcases List.mem_cons.1 hid' with rfl | hid'
        · rw [hr] at hnone
          cases hnone
        · exact ⟨id', hid', hnone⟩)
      dsimp only
      cases hrs : syncEach rt db env ids (.clean t₁) with
      | mk u rs =>
        rw [hrs] at hrest
        obtain rfl : rs = none := hrest
        rfl

/-- When every member makes it raise, a sweep changes nothing. -/
theorem syncEach_unchanged (henabled : ∀ id ∈ ids, t.isEnabled id = true)
    (hverdict : ∀ id ∈ ids, verdict rt db id (env id) = none) :
    (syncEach rt db env ids (.clean t)).1.committed = t := by
  cases ids with
  | nil => rfl
  | cons id ids =>
    rw [List.forall_mem_cons] at henabled hverdict
    obtain ⟨u, hsync, hcommitted, -⟩ :=
      syncMember_enabled rt db henabled.1 (env id)
    rw [syncEach, hsync, hverdict.1]
    exact hcommitted hverdict.1

/-- The members of a sweep. -/
theorem mem_listEnabled : id ∈ t.listEnabled.map FederationMember.id ↔ t.isEnabled id = true := by
  unfold FederationTables.isEnabled FederationTables.getById FederationTables.listEnabled
  rw [Option.any_eq_true]
  constructor
  · intro h
    obtain ⟨m, hm, rfl⟩ := List.mem_map.1 h
    obtain ⟨hmem, hlive⟩ := List.mem_filter.1 hm
    rw [Bool.and_eq_true] at hlive
    refine ⟨m, Table.find?_live_eq_some.2 ⟨hmem, rfl, ?_⟩, hlive.2⟩
    simpa using hlive.1
  · rintro ⟨m, hm, henabled⟩
    obtain ⟨hmem, hid, hlive⟩ := Table.find?_live_eq_some.1 hm
    refine List.mem_map.2 ⟨m, List.mem_filter.2 ⟨hmem, ?_⟩, hid⟩
    simp [hlive, henabled]

theorem nodup_listEnabled (t : FederationTables) :
    (t.listEnabled.map FederationMember.id).Nodup :=
  t.members.nodup.sublist (List.filter_sublist.map _)

/-! ## The law -/

variable (rt db id) in
theorem verdict_of_none (h : e.cameras = none) :
    ∃ text, verdict rt db id e = some (.failed text) := by
  unfold SyncEnv.cameras at h
  unfold verdict
  cases hanswer : e.answer with
  | error fault => cases fault <;> exact ⟨_, rfl⟩
  | ok state =>
    rw [hanswer] at h
    dsimp only at h ⊢
    rw [h]
    exact ⟨_, rfl⟩

theorem verdict_of_some {cameras : List PyValue} (h : e.cameras = some cameras) :
    verdict rt db id e = if !db.takes (addedRows rt id e.replacedAt cameras) then none
      else
        match cameras.find? fun c => !c.isDict with
        | none => some (.ok cameras.length)
        | some c => some (.failed (noGet c)) := by
  unfold SyncEnv.cameras at h
  unfold verdict
  cases hanswer : e.answer with
  | error fault =>
    rw [hanswer] at h
    cases h
  | ok state =>
    rw [hanswer] at h
    dsimp only at h ⊢
    rw [h]

/-- The sync of a member raises exactly for rows that the database does not take. -/
theorem verdict_eq_none : verdict rt db id e = none ↔ ∃ cameras, e.cameras = some cameras ∧
    db.takes (addedRows rt id e.replacedAt cameras) = false := by
  cases h : e.cameras with
  | none =>
    obtain ⟨text, htext⟩ := verdict_of_none rt db id h
    simp [htext]
  | some cameras =>
    rw [verdict_of_some h]
    cases hfind : cameras.find? fun c => !c.isDict with
    | none => simp
    | some c => simp

end

/-- The report of a member in a sweep. -/
def reportOf (sweep : Option SweepReport) (id : Nat) : Option SyncReport :=
  sweep.bind fun s => s.results.lookup id

/-- Federation sync is all or nothing, and isolated. Without an ok the cached cameras of the member
are those before; with one they are those of the list; and a sweep gives each member the report and
the cache that its own sync gives. -/
structure FederationLaw (rt : Runtime) (db : FederationDb) (t : FederationTables)
    (env : Nat → SyncEnv) : Prop where
  kept : ∀ id, (∀ n, (syncMember rt db (.clean t) id (env id)).2 ≠ some (.ok n)) →
    ∀ row, row ∈ (syncMember rt db (.clean t) id (env id)).1.committed.camerasOf id ↔
      row ∈ t.camerasOf id
  listed : ∀ id n, (syncMember rt db (.clean t) id (env id)).2 = some (.ok n) →
    ∃ cameras, (env id).cameras = some cameras ∧ (∀ c ∈ cameras, c.isDict = true) ∧
      n = cameras.length ∧ (syncMember rt db (.clean t) id (env id)).1.committed.camerasOf id =
        cameras.map (cameraRow rt id (env id).replacedAt)
  reports : ∀ id, t.isEnabled id = true → reportOf (syncAll rt db (.clean t) env).2 id =
    (syncMember rt db (.clean t) id (env id)).2
  caches : ∀ id, (syncAll rt db (.clean t) env).1.committed.camerasOf id =
    (syncMember rt db (.clean t) id (env id)).1.committed.camerasOf id

section
variable {rt : Runtime} {db : FederationDb} {t : FederationTables} {env : Nat → SyncEnv} {id : Nat}

/-- What the sync of a member alone leaves in its cache. -/
theorem camerasOf_syncMember (h : t.isEnabled id = true) :
    (syncMember rt db (.clean t) id (env id)).1.committed.camerasOf id =
      if (verdict rt db id (env id)).isSome then cached rt t id (env id) else t.camerasOf id := by
  obtain ⟨u, hsync, hnone, hsome⟩ := syncMember_enabled rt db h (env id)
  rw [hsync]
  cases hverdict : verdict rt db id (env id) with
  | none => rw [hnone hverdict]; rfl
  | some r =>
    obtain ⟨t', rfl, hcameras, -⟩ := hsome r hverdict
    exact (camerasOf_settled hcameras).trans (if_pos rfl)

theorem report_syncMember (h : t.isEnabled id = true) :
    (syncMember rt db (.clean t) id (env id)).2 = verdict rt db id (env id) := by
  obtain ⟨u, hsync, -⟩ := syncMember_enabled rt db h (env id)
  rw [hsync]

/-- A sweep is over the enabled members. -/
theorem syncAll_eq : syncAll rt db (.clean t) env =
    match syncEach rt db env (t.listEnabled.map FederationMember.id) (.clean t) with
    | (u, none) => (u, none)
    | (u, some results) =>
      (u, some ⟨t.listEnabled.length, results.countP fun r => r.2.isOk, results⟩) := rfl

/-- A sweep that no member makes raise. -/
theorem syncAll_of_reported (h : ∀ id, t.isEnabled id = true → verdict rt db id (env id) ≠ none) :
    (∀ id, t.isEnabled id = true →
      reportOf (syncAll rt db (.clean t) env).2 id = verdict rt db id (env id)) ∧
    ∀ id, (syncAll rt db (.clean t) env).1.committed.camerasOf id =
      if t.isEnabled id then cached rt t id (env id) else t.camerasOf id := by
  obtain ⟨t', rs, hsweep, hlookup, hcache⟩ := syncEach_eq_some (nodup_listEnabled t)
    (fun id hid => mem_listEnabled.1 hid) fun id hid => h id (mem_listEnabled.1 hid)
  rw [syncAll_eq, hsweep]
  refine ⟨fun id hid => hlookup id (mem_listEnabled.2 hid), fun id => (hcache id).trans ?_⟩
  simp only [mem_listEnabled]

/-- A member that makes a sweep raise leaves it without a report. -/
theorem reportOf_of_raised (h : ∃ id, t.isEnabled id = true ∧ verdict rt db id (env id) = none)
    (id : Nat) : reportOf (syncAll rt db (.clean t) env).2 id = none := by
  obtain ⟨id₀, hid₀, hnone⟩ := h
  have hsweep : (syncEach rt db env (t.listEnabled.map FederationMember.id) (.clean t)).2 =
      none := syncEach_eq_none
    (fun id hid => mem_listEnabled.1 hid) ⟨id₀, mem_listEnabled.2 hid₀, hnone⟩
  rw [syncAll_eq]
  cases hrs : syncEach rt db env (t.listEnabled.map FederationMember.id) (.clean t) with
  | mk u rs =>
    rw [hrs] at hsweep
    obtain rfl : rs = none := hsweep
    rfl

/-- A sweep that every member makes raise changes nothing. -/
theorem syncAll_unchanged
    (h : ∀ id, t.isEnabled id = true → verdict rt db id (env id) = none) :
    (syncAll rt db (.clean t) env).1.committed = t := by
  have hsweep : (syncEach rt db env (t.listEnabled.map FederationMember.id)
      (.clean t)).1.committed = t := syncEach_unchanged
    (fun id hid => mem_listEnabled.1 hid) fun id hid => h id (mem_listEnabled.1 hid)
  rw [syncAll_eq]
  cases hrs : syncEach rt db env (t.listEnabled.map FederationMember.id) (.clean t) with
  | mk u rs =>
    rw [hrs] at hsweep
    cases rs with
    | none => exact hsweep
    | some rs => exact hsweep

/-- A list with an element that is no object is not reported as ok. -/
theorem verdict_of_broken {cameras : List PyValue} {e : SyncEnv} (h : e.cameras = some cameras)
    (htakes : db.takes (addedRows rt id e.replacedAt cameras) = true)
    (hbroken : ∃ c ∈ cameras, c.isDict = false) :
    ∃ text, verdict rt db id e = some (.failed text) := by
  rw [verdict_of_some h, htakes]
  cases hfind : cameras.find? fun c => !c.isDict with
  | some c => exact ⟨_, rfl⟩
  | none =>
    obtain ⟨c, hc, hdict⟩ := hbroken
    exact absurd (by simp [hdict]) (List.find?_eq_none.1 hfind c hc)

/-- What a report says about the list. -/
theorem verdict_eq_ok {e : SyncEnv} {n : Nat} (h : verdict rt db id e = some (.ok n)) :
    ∃ cameras, e.cameras = some cameras ∧ (∀ c ∈ cameras, c.isDict = true) ∧
      n = cameras.length := by
  cases hcameras : e.cameras with
  | none =>
    obtain ⟨text, htext⟩ := verdict_of_none rt db id hcameras
    rw [htext] at h
    cases h
  | some cameras =>
    rw [verdict_of_some hcameras] at h
    split at h
    · cases h
    · cases hfind : cameras.find? fun c => !c.isDict with
      | some c =>
        rw [hfind] at h
        cases h
      | none =>
        rw [hfind] at h
        refine ⟨cameras, rfl, fun c hc => ?_, ?_⟩
        · simpa using List.find?_eq_none.1 hfind c hc
        · cases h
          rfl

/-- A list of rows that the database takes is reported as ok, unless it has another element. -/
theorem exists_not_dict {cameras : List PyValue} {e : SyncEnv} (h : e.cameras = some cameras)
    (htakes : db.takes (addedRows rt id e.replacedAt cameras) = true)
    (hnot : ∀ n, verdict rt db id e ≠ some (.ok n)) : ∃ c ∈ cameras, c.isDict = false := by
  cases hfind : cameras.find? fun c => !c.isDict with
  | some c => exact ⟨c, List.mem_of_find?_eq_some hfind, by simpa using List.find?_some hfind⟩
  | none =>
    refine absurd ?_ (hnot cameras.length)
    rw [verdict_of_some h, htakes, hfind]
    rfl

/-- A sync with the report ok: the whole list is cached. -/
theorem listed_syncMember {n : Nat}
    (h : (syncMember rt db (.clean t) id (env id)).2 = some (.ok n)) :
    ∃ cameras, (env id).cameras = some cameras ∧ (∀ c ∈ cameras, c.isDict = true) ∧
      n = cameras.length ∧ (syncMember rt db (.clean t) id (env id)).1.committed.camerasOf id =
        cameras.map (cameraRow rt id (env id).replacedAt) := by
  have hid : t.isEnabled id = true := by
    by_contra hid
    obtain ⟨text, hsync⟩ := syncMember_disabled rt db
      (Bool.eq_false_of_not_eq_true hid) (env id)
    rw [hsync] at h
    cases h
  rw [report_syncMember hid] at h
  obtain ⟨cameras, hcameras, hdict, rfl⟩ := verdict_eq_ok h
  refine ⟨cameras, hcameras, hdict, rfl, ?_⟩
  rw [camerasOf_syncMember hid, h, Option.isSome_some, if_pos rfl]
  unfold cached
  rw [hcameras]
  dsimp only [addedRows]
  rw [List.takeWhile_eq_self_iff.2 hdict]

/-- The cache of a member that is not reported as ok stays as it is, exactly if what was added
before an element that is no object is what was cached. -/
theorem kept_iff : ((∀ n, (syncMember rt db (.clean t) id (env id)).2 ≠ some (.ok n)) →
      ∀ row, row ∈ (syncMember rt db (.clean t) id (env id)).1.committed.camerasOf id ↔
        row ∈ t.camerasOf id) ↔
    (t.isEnabled id = true → ∀ cameras, (env id).cameras = some cameras →
      (∃ c ∈ cameras, c.isDict = false) →
      db.takes (addedRows rt id (env id).replacedAt cameras) = true →
      ∀ row, row ∈ addedRows rt id (env id).replacedAt cameras ↔ row ∈ t.camerasOf id) := by
  cases hid : t.isEnabled id with
  | false =>
    obtain ⟨text, hsync⟩ := syncMember_disabled rt db hid (env id)
    rw [hsync]
    exact ⟨fun _ => nofun, fun _ _ row => Iff.rfl⟩
  | true =>
    rw [camerasOf_syncMember hid, report_syncMember hid]
    constructor
    · intro h _ cameras hcameras hbroken htakes row
      obtain ⟨text, htext⟩ := verdict_of_broken hcameras htakes hbroken
      have hkept := h (by rw [htext]; exact fun n => by simp) row
      rw [htext, Option.isSome_some, if_pos rfl] at hkept
      unfold cached at hkept
      rwa [hcameras] at hkept
    · intro h hnot row
      split
      · next hsome =>
        unfold cached
        cases hcameras : (env id).cameras with
        | none => exact Iff.rfl
        | some cameras =>
          have htakes : db.takes (addedRows rt id (env id).replacedAt cameras) = true := by
            by_contra hfalse
            rw [verdict_eq_none.2 ⟨cameras, hcameras, Bool.eq_false_of_not_eq_true hfalse⟩] at hsome
            cases hsome
          exact h rfl cameras hcameras (exists_not_dict hcameras htakes hnot) htakes row
      · exact Iff.rfl

variable (rt db t env) in
/-- A sweep gives each member what its own sync gives, exactly if the database takes the rows of all
members or of none. -/
theorem sweep_iff : ((∀ id, t.isEnabled id = true →
        reportOf (syncAll rt db (.clean t) env).2 id =
          (syncMember rt db (.clean t) id (env id)).2) ∧
      ∀ id, (syncAll rt db (.clean t) env).1.committed.camerasOf id =
        (syncMember rt db (.clean t) id (env id)).1.committed.camerasOf id) ↔
    (∀ id, t.isEnabled id = true → verdict rt db id (env id) ≠ none) ∨
      ∀ id, t.isEnabled id = true → verdict rt db id (env id) = none := by
  constructor
  · rintro ⟨hreports, -⟩
    by_cases hraised : ∃ id, t.isEnabled id = true ∧ verdict rt db id (env id) = none
    · refine .inr fun id hid => ?_
      rw [← report_syncMember hid, ← hreports id hid]
      exact reportOf_of_raised hraised id
    · exact .inl fun id hid hnone => hraised ⟨id, hid, hnone⟩
  · have halone : ∀ id, (syncMember rt db (.clean t) id (env id)).1.committed.camerasOf id =
        if t.isEnabled id = true ∧ (verdict rt db id (env id)).isSome then
          cached rt t id (env id) else t.camerasOf id := by
      intro id
      cases hid : t.isEnabled id with
      | false =>
        obtain ⟨text, hsync⟩ := syncMember_disabled rt db hid (env id)
        rw [hsync]
        rfl
      | true => simpa using camerasOf_syncMember hid
    rintro (hreported | hraised)
    · obtain ⟨hreports, hcaches⟩ := syncAll_of_reported hreported
      refine ⟨fun id hid => (hreports id hid).trans (report_syncMember hid).symm, fun id => ?_⟩
      rw [hcaches id, halone id]
      cases hid : t.isEnabled id with
      | false => rfl
      | true => rw [if_pos rfl, if_pos ⟨rfl, Option.isSome_iff_ne_none.2 (hreported id hid)⟩]
    · refine ⟨fun id hid => ?_, fun id => ?_⟩
      · rw [report_syncMember hid, hraised id hid]
        exact reportOf_of_raised ⟨id, hid, hraised id hid⟩ id
      · rw [syncAll_unchanged hraised, halone id, if_neg]
        rintro ⟨hid, hsome⟩
        rw [hraised id hid] at hsome
        cases hsome

end

/-- **Federation sync is all or nothing and isolated** exactly if two conditions on the answers of
the enabled members hold: where a list has an element that is no object, the rows of the objects
before it are the cached ones, unless the database does not take them; and it takes the rows of
every member's list, up to such an element, or of none. -/
theorem federation_law_iff (rt : Runtime) (db : FederationDb) (t : FederationTables)
    (env : Nat → SyncEnv) : FederationLaw rt db t env ↔
      (∀ id, t.isEnabled id = true → ∀ cameras, (env id).cameras = some cameras →
        (∃ c ∈ cameras, c.isDict = false) →
        db.takes (addedRows rt id (env id).replacedAt cameras) = true →
        ∀ row, row ∈ addedRows rt id (env id).replacedAt cameras ↔ row ∈ t.camerasOf id) ∧
      ((∀ id, t.isEnabled id = true → ¬ ∃ cameras, (env id).cameras = some cameras ∧
          db.takes (addedRows rt id (env id).replacedAt cameras) = false) ∨
        ∀ id, t.isEnabled id = true → ∃ cameras, (env id).cameras = some cameras ∧
          db.takes (addedRows rt id (env id).replacedAt cameras) = false) := by
  have hsweep := sweep_iff rt db t env
  simp only [ne_eq, verdict_eq_none] at hsweep
  rw [← hsweep]
  constructor
  · exact fun h => ⟨fun id => kept_iff.1 (h.kept id), h.reports, h.caches⟩
  · rintro ⟨hkept, hreports, hcaches⟩
    exact ⟨fun id => kept_iff.2 (hkept id), fun id n => listed_syncMember, hreports, hcaches⟩

/-! ## Two answers of one member -/

namespace SyncFixture

/-- A database that takes every row. -/
def db : FederationDb := ⟨fun _ => true, id, "database error"⟩

def member (id : Nat) : FederationMember := ⟨id, .unknown, none, none, 0, true, none⟩

def camera (uuid : String) : PyValue := .dict [("uuid", .str uuid)]

/-- Two members; a camera of the first one is cached. -/
def tables : FederationTables where
  members := ⟨[member 1, member 2], by decide⟩
  cameras := [cameraRow .ascii 1 0 (camera "u1")]

/-- The first member answers with a list, the second one with a camera. -/
def answers (cameras : List PyValue) (id : Nat) : SyncEnv :=
  ⟨.ok (.dict [("cameras", .list (if id = 1 then cameras else [camera "v1"]))]), 1, 1⟩

end SyncFixture

open SyncFixture in
/-- A list with a camera and a number: the cached camera is lost and the listed one is cached,
without an ok. A list with two objects without a uuid: the sweep raises, and the second member has
no report. -/
theorem federation_sync_partial :
    ¬ FederationLaw .ascii db tables (answers [camera "u2", .int 5]) ∧
      ¬ FederationLaw .ascii db tables (answers [.dict [], .dict []]) := by
  constructor
  · intro h
    have hsame := kept_iff.1 (h.kept 1) rfl [camera "u2", .int 5] rfl ⟨.int 5, by simp, rfl⟩ rfl
    obtain ⟨c, hc, heq⟩ := List.mem_map.1 ((hsame _).2 List.mem_cons_self)
    obtain rfl : c = camera "u2" := List.mem_singleton.1 hc
    exact absurd (congrArg FederationCamera.remoteUuid heq) (by decide)
  · intro h
    have hfirst : verdict .ascii db 1 (answers [.dict [], .dict []] 1) = none := rfl
    have hsecond : verdict .ascii db 2 (answers [.dict [], .dict []] 2) = some (.ok 1) := rfl
    rcases (sweep_iff _ _ _ _).1 ⟨h.reports, h.caches⟩ with hreported | hraised
    · exact hreported 1 rfl hfirst
    · rw [hraised 2 rfl] at hsecond
      cases hsecond

end AeroXProtect.Federation
