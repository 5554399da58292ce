import Mathlib.Data.Finset.Lattice.Fold
import AeroXProtect.Camera.Rows

/-!
# Registering, editing and probing cameras

The calls of the camera controller on the cameras of the database and on go2rtc, whose calls all
succeed. `Registered` is a camera with its streams and the names of its streams in go2rtc: the row,
the rows of `streams` and the names that begin with `cam_<uuid>_`.

The session does not expire what it has loaded when it commits (`expire_on_commit=False`,
`server/model/__init__.py:102`). A camera that `get_by_uuid` has loaded together with its streams
keeps that list of streams while `_replace_streams` writes new ones; only a camera that was just
created loads its streams afterwards. So `update` and `reprobe` remove the names of the old streams
from go2rtc, and put the names of the old streams there again.
-/

open Lib

namespace AeroXProtect.Registration

/-! ## Names in go2rtc -/

/-- What the encoder nodes have to do with a camera: the feature flag `encoding_nodes`, and whether
there is a row for the camera in `encode_assignments`. -/
structure Encode where
  flag : Bool
  row : Bool
  deriving DecidableEq, Repr

/-- Source: `raw_name` (`server/service/encode_config_resolver.py:19`). -/
def rawName (s : StreamRow) : String := s.go2rtcName ++ "_raw"

/-- Source: `enc_name` (`server/service/encode_config_resolver.py:24`). -/
def encName (s : StreamRow) : String := s.go2rtcName ++ "_enc"

/-- Source: `default_live_stream` (`server/service/encode_config_resolver.py:13`). -/
def defaultLiveStream (streams : List StreamRow) : Option StreamRow :=
  streams.find? fun s => s.isDefaultLive && s.enabled

/-- Source: `live_transcode_enabled` (`server/service/go2rtc_sync.py:15`). -/
def liveTranscodeEnabled (camera : CameraRow) (s : StreamRow) : Bool :=
  s.isDefaultLive && (camera.liveTranscode || decide (s.codec = .str "h265"))

/-- There is an assignment that applies to the camera. Source: `assignment_for`
(`server/service/encode_offload.py:35`). -/
def assignmentFor (e : Encode) (camera : CameraRow) (streams : List StreamRow) : Bool :=
  e.flag && (defaultLiveStream streams).any (liveTranscodeEnabled camera) && e.row

/-- The companions to put and to delete. Source: `offload_companions`
(`server/service/go2rtc_sync.py:84`). -/
def offloadCompanions (e : Encode) (camera : CameraRow) (streams : List StreamRow) :
    List String × List String :=
  match defaultLiveStream streams with
  | none => ([], [])
  | some s =>
    if !assignmentFor e camera streams then
      if e.flag then ([], [rawName s, encName s]) else ([], [])
    else ([rawName s], [])

/-- Source: `expected_names` (`server/service/go2rtc_sync.py:111`). -/
def expectedNames (e : Encode) (camera : CameraRow) (streams : List StreamRow) : Finset String :=
  ((streams.filter StreamRow.enabled).map StreamRow.go2rtcName).toFinset ∪
    (offloadCompanions e camera streams).1.toFinset

/-- The names that `sync_camera` puts. -/
def syncPuts (e : Encode) (camera : CameraRow) (streams : List StreamRow) : List String :=
  ((streams.filter fun s => s.enabled && camera.isEnabled).map StreamRow.go2rtcName) ++
    (offloadCompanions e camera streams).1

/-- Source: `sync_camera` (`server/service/go2rtc_sync.py:137`). -/
def syncCamera (e : Encode) (camera : CameraRow) (streams : List StreamRow)
    (names : Finset String) : Finset String :=
  (names ∪ (syncPuts e camera streams).toFinset) \ (offloadCompanions e camera streams).2.toFinset

/-- The names that `remove_camera` deletes. -/
def removeNames (streams : List StreamRow) : List String :=
  streams.flatMap fun s => s.go2rtcName :: if s.isDefaultLive then [rawName s, encName s] else []

/-- Source: `remove_camera` (`server/service/go2rtc_sync.py:154`). -/
def removeCamera (streams : List StreamRow) (names : Finset String) : Finset String :=
  names \ (removeNames streams).toFinset

/-! ## A camera -/

/-- A camera with its streams, and the names it has in go2rtc. -/
structure Registered where
  row : CameraRow
  streams : List StreamRow
  names : Finset String
  deriving DecidableEq

/-- Source: `set_status` (`server/model/camera.py:146`). -/
def setStatus (status : String) (error : Option String) (now : Int) (row : CameraRow) : CameraRow :=
  if status = "online" then { row with status, lastSeenAt := some now, lastError := none }
  else
    match error with
    | some message => { row with
        status
        lastError := if message = "" then row.lastError
          else some (String.ofList (message.toList.take 512)) }
    | none => { row with status }

/-- Pushes the streams that the session has loaded to go2rtc. Source: `_sync_and_set_status`
(`server/controller/camera.py:283`). -/
def syncAndSetStatus (e : Encode) (loaded : List StreamRow) (markOnline : Bool) (now : Int)
    (r : Registered) : Registered :=
  let names := syncCamera e r.row loaded r.names
  if (syncPuts e r.row loaded).isEmpty then
    { r with names, row := setStatus "unknown" none now r.row }
  else if markOnline then { r with names, row := setStatus "online" none now r.row }
  else { r with names }

/-- The part of an edit or a probe after its first commit: the streams are replaced if there are
new ones, and the loaded ones are removed from go2rtc and put there again. -/
def resync (b : Backend) (e : Encode) (streamDicts : Json) (markOnline : Bool) (now : Int)
    (r : Registered) : Registered × Option Failure :=
  match if streamDicts.truthy then replaceStreams b r.row streamDicts else (r.streams, none) with
  | (streams, some f) => ({ r with streams }, some f)
  | (streams, none) =>
    (syncAndSetStatus e r.streams markOnline now
      { r with streams, names := removeCamera r.streams r.names }, none)

/-- The new camera, if its row is committed, and what it ends with when it raises. Source:
`CameraController.create` (`server/controller/camera.py:37`). -/
def createOne (b : Backend) (e : Encode) (dup : Json → String → Int → Bool) (uuid : String)
    (data : Json) (actor : Nat) : Option Registered × Option Failure :=
  match createRow b dup uuid data actor with
  | .error f => (none, some f)
  | .ok row =>
    if b.takesCamera row then
      match replaceStreams b row (createStreams data) with
      | (streams, some f) => (some ⟨row, streams, ∅⟩, some f)
      | (streams, none) => (some (syncAndSetStatus e streams false 0 ⟨row, streams, ∅⟩), none)
    else (none, some .raised)

/-- Source: `CameraController.update` (`server/controller/camera.py:117`), of a camera that is
found. -/
def updateOne (b : Backend) (e : Encode) (data : Json) (actor : Nat) (r : Registered) :
    Registered × Option Failure :=
  match editRow b data actor r.row with
  | .error f => (r, some f)
  | .ok row =>
    if b.takesCamera row then resync b e (data.field "streams") false 0 { r with row }
    else (r, some .raised)

/-- How a probe of a camera ends: its credentials are refused, the driver fails, another exception
is raised, or there is a result. -/
inductive Probe
  | unauthorized
  | failed (message : String)
  | raises
  | found (result : Json)

/-- The row after a probe that has found the camera. -/
def probedRow (result : Json) (actor : Nat) (row : CameraRow) : CameraRow :=
  { row with
    model := (result.field "model").or row.model
    firmware := (result.field "firmware").or row.firmware
    rtspPort := (result.field "detected_rtsp_port").or row.rtspPort
    capabilities := result.field "capabilities"
    ptzSupported := (result.field "ptz_supported").truthy
    audioSupported := (result.field "audio_supported").truthy
    lastUpdatedById := actor }

/-- Source: `CameraController.reprobe` (`server/controller/camera.py:185`), of a camera that is
found. -/
def reprobeOne (b : Backend) (e : Encode) (probe : Probe) (actor : Nat) (now : Int)
    (r : Registered) : Registered × Option Failure :=
  match probe with
  | .unauthorized =>
    ({ r with row := setStatus "unauthorized" (some "reprobe unauthorized") now r.row }, none)
  | .failed message => ({ r with row := setStatus "error" (some message) now r.row }, none)
  | .raises => (r, some .raised)
  | .found result =>
    if (result.field "error").truthy && !(result.field "streams").truthy then
      let message := strOf b (result.field "error")
      ({ r with row := setStatus "error" (some message) now r.row }, none)
    else
      let row := probedRow result actor r.row
      if b.takesCamera row then
        if (result.field "streams").truthy then
          resync b e (result.field "streams") true now { r with row }
        else ({ r with row := setStatus "online" none now row }, none)
      else (r, some .raised)

/-- Source: `CameraController.delete` (`server/controller/camera.py:175`) and `soft_delete`
(`server/model/camera.py:156`), of a camera that is found. -/
def deleteOne (actor : Nat) (now : Int) (r : Registered) : Registered :=
  { row := { r.row with deletedAt := some now, isEnabled := false, lastUpdatedById := actor }
    streams := []
    names := removeCamera r.streams r.names }

/-! ## All cameras -/

/-- The cameras that have been registered, deleted ones included. -/
abbrev Store := List Registered

/-- Source: `find_duplicate` (`server/model/camera.py:120`). -/
def findDuplicate (b : Backend) (s : Store) (serial : Json) (host : String) (channel : Int) :
    Option Registered :=
  let live := s.filter fun r => r.row.deletedAt.isNone
  let bySerial := if serial.truthy then live.find? fun r => b.equals r.row.serial serial else none
  bySerial.orElse fun _ =>
    live.find? fun r => b.equals r.row.host (.str host) && b.equals r.row.channel (.num channel)

/-- The store after a request to register a camera, and what it ends with when it raises. -/
def create (b : Backend) (e : Encode) (uuid : String) (data : Json) (actor : Nat) (s : Store) :
    Store × Option Failure :=
  let (r, failure) := createOne b e (fun serial host channel =>
    (findDuplicate b s serial host channel).isSome) uuid data actor
  (s ++ r.toList, failure)

/-- Source: `get_by_uuid` (`server/model/camera.py:105`). -/
def getByUuid (s : Store) (uuid : String) : Option Registered :=
  s.find? fun r => decide (r.row.uuid = uuid) && r.row.deletedAt.isNone

/-- The camera that `get_by_uuid` finds is replaced. -/
def put (uuid : String) (r : Registered) : Store → Store
  | [] => []
  | r' :: s =>
    if r'.row.uuid = uuid && r'.row.deletedAt.isNone then r :: s else r' :: put uuid r s

/-- The store after a request to edit a camera, and what it ends with when it raises. -/
def update (b : Backend) (e : Encode) (uuid : String) (data : Json) (actor : Nat) (s : Store) :
    Store × Option Failure :=
  match getByUuid s uuid with
  | none => (s, some .notFound)
  | some r =>
    let (r', failure) := updateOne b e data actor r
    (put uuid r' s, failure)

/-! ## Batches -/

/-- What a batch reports for an item: the camera's `uuid`, or the exception. -/
structure ItemResult where
  index : Nat
  host : String
  result : Except Failure String
  deriving Repr

/-- `{**common, **(item or {})}`. -/
def merged (common item : Json) : Except Failure Json :=
  match common, item.or .empty with
  | .obj base, .obj fields =>
    .ok (.obj (fields ++ base.filter fun f => !fields.any fun g => g.1 == f.1))
  | _, _ => .error .raised

/-- The result of an item, by what its request ends with. -/
def outcome (uuid : String) : Option Failure → Except Failure String
  | none => .ok uuid
  | some f => .error f

/-- One item of a batch. -/
def batchItem (b : Backend) (e : Encode) (uuids : Nat → String) (common : Json) (actor : Nat)
    (idx : Nat) (item : Json) (s : Store) : Store × Except Failure ItemResult :=
  match merged common item with
  | .error f => (s, .error f)
  | .ok data =>
    match strippedText (data.field "host") with
    | .error f => (s, .error f)
    | .ok host =>
      let (s', failure) := create b e (uuids idx) data actor s
      (s', .ok ⟨idx, host, outcome (uuids idx) failure⟩)

/-- The items of a batch in turn; an exception outside the `try` ends it. -/
def batchItems (b : Backend) (e : Encode) (uuids : Nat → String) (common : Json) (actor : Nat) :
    Nat → List Json → Store → Store × Except Failure (List ItemResult)
  | _, [], s => (s, .ok [])
  | idx, item :: rest, s =>
    match batchItem b e uuids common actor idx item s with
    | (s', .error f) => (s', .error f)
    | (s', .ok r) =>
      let (s'', results) := batchItems b e uuids common actor (idx + 1) rest s'
      (s'', results.map (r :: ·))

/-- Source: `CameraController.batch_create` (`server/controller/camera.py:85`). -/
def batchCreate (b : Backend) (e : Encode) (uuids : Nat → String) (featureOn : Bool)
    (items common : Json) (actor : Nat) (s : Store) : Store × Except Failure (List ItemResult) :=
  if !featureOn then (s, .error (.invalid "feature_disabled"))
  else
    match items with
    | .arr (item :: rest) =>
      if 100 < (item :: rest).length then (s, .error (.invalid "too many items (max 100)"))
      else batchItems b e uuids (common.or .empty) actor 0 (item :: rest) s
    | _ => (s, .error (.invalid "items required"))

/-! ## What the calls leave -/

/-- A status leaves the other columns. -/
theorem setStatus_eq (status : String) (error : Option String) (now : Int) (row : CameraRow) :
    ∃ lastSeenAt lastError,
      setStatus status error now row = { row with status, lastSeenAt, lastError } := by
  unfold setStatus
  split
  · exact ⟨some now, none, rfl⟩
  · cases error with
    | none => exact ⟨row.lastSeenAt, row.lastError, rfl⟩
    | some message => exact ⟨row.lastSeenAt, _, rfl⟩

/-- A push leaves the streams and all columns but those of the status, and the names it puts. -/
theorem syncAndSetStatus_eq (e : Encode) (loaded : List StreamRow) (markOnline : Bool) (now : Int)
    (r : Registered) : ∃ status lastSeenAt lastError,
      syncAndSetStatus e loaded markOnline now r =
        { r with
          row := { r.row with status, lastSeenAt, lastError }
          names := syncCamera e r.row loaded r.names } := by
  unfold syncAndSetStatus
  dsimp only
  split
  · obtain ⟨lastSeenAt, lastError, heq⟩ := setStatus_eq "unknown" none now r.row
    exact ⟨"unknown", lastSeenAt, lastError, by rw [heq]⟩
  · split
    · obtain ⟨lastSeenAt, lastError, heq⟩ := setStatus_eq "online" none now r.row
      exact ⟨"online", lastSeenAt, lastError, by rw [heq]⟩
    · exact ⟨r.row.status, r.row.lastSeenAt, r.row.lastError, rfl⟩

section
variable (b : Backend) (e : Encode)

/-- The streams of a camera whose stream list is taken. -/
def newRows (camera : CameraRow) (streamDicts : Json) (old : List StreamRow) : List StreamRow :=
  if streamDicts.truthy then markLive (rowsOf b camera streamDicts) else old

/-- After a list that is taken the new streams are there, and go2rtc has been given the old ones;
any other list leaves no streams and does not come to go2rtc. -/
theorem resync_cases (streamDicts : Json) (markOnline : Bool) (now : Int) (r : Registered) :
    (StreamsTaken b r.row streamDicts ∧ resync b e streamDicts markOnline now r =
      (syncAndSetStatus e r.streams markOnline now
        { r with
          streams := newRows b r.row streamDicts r.streams
          names := removeCamera r.streams r.names }, none)) ∨
    (¬ StreamsTaken b r.row streamDicts ∧
      ∃ f, resync b e streamDicts markOnline now r = ({ r with streams := [] }, some f)) := by
  unfold resync newRows
  cases htruthy : streamDicts.truthy with
  | false => exact .inl ⟨fun h => by simp [htruthy] at h, rfl⟩
  | true =>
    rcases replaceStreams_cases b r.row streamDicts with ⟨htaken, heq⟩ | ⟨hnot, f, heq⟩
    · exact .inl ⟨htaken, by simp only [heq, if_true]⟩
    · exact .inr ⟨hnot, f, by simp only [heq, if_true]⟩

/-- A request to register a camera is refused before the row is committed, or the row is there and
the stream list decides about the rest. -/
theorem createOne_cases (dup : Json → String → Int → Bool) (uuid : String) (data : Json)
    (actor : Nat) :
    ((∀ row, createRow b dup uuid data actor = .ok row → b.takesCamera row = false) ∧
      ∃ f, createOne b e dup uuid data actor = (none, some f)) ∨
    ∃ row, createRow b dup uuid data actor = .ok row ∧ b.takesCamera row = true ∧
      (StreamsTaken b row (createStreams data) ∧ createOne b e dup uuid data actor =
          (some (syncAndSetStatus e (markLive (rowsOf b row (createStreams data))) false 0
            ⟨row, markLive (rowsOf b row (createStreams data)), ∅⟩), none) ∨
        ¬ StreamsTaken b row (createStreams data) ∧
          ∃ f, createOne b e dup uuid data actor = (some ⟨row, [], ∅⟩, some f)) := by
  unfold createOne
  cases hrow : createRow b dup uuid data actor with
  | error f => exact .inl ⟨fun row h => by simp at h, f, rfl⟩
  | ok row =>
    dsimp only
    split
    · next htakes =>
      refine .inr ⟨row, rfl, htakes, ?_⟩
      rcases replaceStreams_cases b row (createStreams data) with ⟨htaken, heq⟩ | ⟨hnot, f, heq⟩
      · exact .inl ⟨htaken, by simp only [heq]⟩
      · exact .inr ⟨hnot, f, by simp only [heq]⟩
    · next htakes =>
      refine .inl ⟨fun row' h => ?_, .raised, rfl⟩
      obtain rfl := Except.ok.inj h
      exact Bool.eq_false_iff.2 htakes

/-- An edit is refused before its commit, or the row is committed and the stream list decides about
the rest. -/
theorem updateOne_cases (data : Json) (actor : Nat) (r : Registered) :
    ((∀ row, editRow b data actor r.row = .ok row → b.takesCamera row = false) ∧
      ∃ f, updateOne b e data actor r = (r, some f)) ∨
    ∃ row, editRow b data actor r.row = .ok row ∧ b.takesCamera row = true ∧
      updateOne b e data actor r = resync b e (data.field "streams") false 0 { r with row } := by
  unfold updateOne
  cases hrow : editRow b data actor r.row with
  | error f => exact .inl ⟨fun row h => by simp at h, f, rfl⟩
  | ok row =>
    dsimp only
    split
    · next htakes => exact .inr ⟨row, rfl, htakes, rfl⟩
    · next htakes =>
      refine .inl ⟨fun row' h => ?_, .raised, rfl⟩
      obtain rfl := Except.ok.inj h
      exact Bool.eq_false_iff.2 htakes

end

end AeroXProtect.Registration
