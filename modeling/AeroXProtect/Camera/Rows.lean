import AeroXProtect.Lib.Json
import AeroXProtect.Lib.Script
import AeroXProtect.Lib.Text

/-!
# Camera and stream rows

The rows that a registration writes, and how they are read from the body of a request. A value of
the body is stored as it comes in; what the database takes of it is not decided by the program
(`Backend`). `replaceStreams` deletes a camera's streams in a commit of its own before it looks at
the new list: `replaceStreams_cases` says what is left, the new rows or none.
-/

open Lib

namespace AeroXProtect.Registration

/-- What a request ends with when it raises. -/
inductive Failure
  | invalid (message : String)
  | conflict (message : String)
  | notFound
  | raised
  deriving DecidableEq, Repr

/-- A row of `cameras`. The credentials are in clear, where the table has what `CredentialRow`
holds, the encrypted texts and the id of their key. Source: `server/model/camera.py:31`. -/
structure CameraRow where
  uuid : String
  name : Json
  vendor : Json
  model : Json
  firmware : Json
  serial : Json
  driver : Json
  host : Json
  onvifPort : Json
  httpPort : Json
  rtspPort : Json
  rtspTransport : Option String
  useHttps : Bool
  username : Option String
  password : Option String
  capabilities : Json
  ptzSupported : Bool
  audioSupported : Bool
  twoWayAudio : Bool
  liveTranscode : Bool
  fisheye : Bool
  fisheyeParams : Json
  dualRecording : Bool
  dualRecordStream : Json
  edgeRecording : Bool
  edgeAutoImport : Bool
  aiFeatures : Option (List (String × Bool))
  channel : Json
  status : String
  lastSeenAt : Option Int
  lastError : Option String
  isEnabled : Bool
  createdById : Nat
  lastUpdatedById : Nat
  deletedAt : Option Int
  deriving DecidableEq, Repr

/-- A row of `streams` that is not deleted. Source: `server/model/stream.py:17`. -/
structure StreamRow where
  role : String
  codec : Json
  width : Json
  height : Json
  fps : Json
  bitrateKbps : Json
  audioCodec : Json
  rtspPath : Json
  rtspUrlTemplate : String
  go2rtcName : String
  isDefaultLive : Bool
  isDefaultFull : Bool
  enabled : Bool
  deriving DecidableEq, Repr

/-- What the program leaves to Python and to the database: `s.lower()`, `str(x)` of a value that is
not a text, when two values are equal to the database, and which rows it commits. -/
structure Backend where
  lower : String → String
  text : Json → String
  equals : Json → Json → Bool
  takesCamera : CameraRow → Bool
  takesStreams : List StreamRow → Bool

/-- A database that takes every row, over ASCII texts. -/
def accepting : Backend where
  lower s := String.ofList (s.toList.map Char.toLower)
  text _ := "None"
  equals x y := x = y
  takesCamera _ := true
  takesStreams _ := true

/-! ## Values of a body -/

/-- A value that may have raised. -/
def orRaise {α : Type} : Option α → Except Failure α
  | none => .error .raised
  | some a => .ok a

def require (p : Bool) (f : Failure) : Except Failure Unit := if p then .ok () else .error f

/-- `data.get(key)`. -/
def get (data : Json) (key : String) : Except Failure Json := orRaise (data.get? key)

/-- `(x or '').strip()`. -/
def strippedText (x : Json) : Except Failure String :=
  match x.or (.str "") with
  | .str s => .ok (String.ofList (Lib.strip s.toList))
  | _ => .error .raised

/-- `key in data`. -/
def has (data : Json) (key : String) : Bool := (data.index? key).isSome

/-- `bool(data[key]) if key in data else old`. -/
def flagOr (data : Json) (key : String) (old : Bool) : Bool :=
  if has data key then (data.field key).truthy else old

/-- `data[key] if data.get(key) is not None else old`. -/
def valueOr (data : Json) (key : String) (old : Json) : Json :=
  if data.field key = .null then old else data.field key

/-- `any(ord(ch) < 0x20 for ch in value)`; `none` when `ord` raises. -/
def anyControl : List Json → Option Bool
  | [] => some false
  | .str s :: rest =>
    match s.toList with
    | [c] => if c.toNat < 0x20 then some true else anyControl rest
    | _ => none
  | _ :: _ => none

/-- Source: `_reject_injection` (`server/controller/camera.py:21`). -/
def rejectInjection (value : Json) (field : String) : Except Failure Unit :=
  if !value.truthy then .ok ()
  else
    match value.toSet? with
    | none => .error .raised
    | some items =>
      let message := field ++ " contains invalid characters"
      if items.any (Json.isOneOf ["#", "\r", "\n", "\t", " "]) then .error (.invalid message)
      else
        match anyControl items with
        | none => .error .raised
        | some true => .error (.invalid message)
        | some false => .ok ()

/-- The choice of the transport: `None` is automatic. -/
def transportOf (b : Backend) (x : Json) : Except Failure (Option String) :=
  match x.or (.str "auto") with
  | .str s => .ok (if b.lower s ∈ ["tcp", "udp"] then some (b.lower s) else none)
  | _ => .error .raised

/-- A credential to encrypt; a missing one is left alone. -/
def credentialOr (x : Json) (old : Option String) : Except Failure (Option String) :=
  match x with
  | .null => .ok old
  | .str s => .ok (some s)
  | _ => .error .raised

/-- Source: `set_credentials` (`server/model/camera.py:82`). -/
def setCredentials (username password : Json) (row : CameraRow) : Except Failure CameraRow := do
  let username ← credentialOr username row.username
  let password ← credentialOr password row.password
  .ok { row with username, password }

def aiKeys : List String := ["audio", "smoke", "face", "lpr"]

/-- The AI features of a body over those there were. -/
def mergeAi (features : Json) (old : List (String × Bool)) : List (String × Bool) :=
  aiKeys.filterMap fun k =>
    let given := (features.index? k).map Json.truthy
    ((given.orElse fun _ => old.lookup k)).map fun v => (k, v)

/-! ## The row of a new camera -/

/-- The row of a new camera, without credentials. -/
def newRow (uuid name host : String) (channel : Int) (rtspTransport : Option String) (data : Json)
    (actor : Nat) : CameraRow :=
  let ai := data.field "ai_features"
  { uuid, name := .str name, host := .str host, rtspTransport
    vendor := (data.field "vendor").or (.str "unknown")
    driver := (data.field "driver").or (.str "onvif")
    model := data.field "model"
    firmware := data.field "firmware"
    serial := data.field "serial"
    onvifPort := data.field "onvif_port"
    httpPort := data.field "http_port"
    rtspPort := (data.field "rtsp_port").or (.num 554)
    useHttps := (data.field "use_https").truthy
    channel := .num channel
    capabilities := data.field "capabilities"
    ptzSupported := (data.field "ptz_supported").truthy
    audioSupported := (data.field "audio_supported").truthy
    twoWayAudio := (data.field "two_way_audio").truthy
    aiFeatures := if ai.isObj then some (mergeAi ai []) else none
    username := none, password := none
    liveTranscode := false, fisheye := false, fisheyeParams := .null
    dualRecording := false, dualRecordStream := .null
    edgeRecording := false, edgeAutoImport := false
    status := "unknown", lastSeenAt := none, lastError := none, isEnabled := true
    createdById := actor, lastUpdatedById := actor, deletedAt := none }

/-- The row of a request to register a camera; `dup` says whether there is a camera with the serial
number or the address already. Source: `CameraController.create`
(`server/controller/camera.py:37`). -/
def createRow (b : Backend) (dup : Json → String → Int → Bool) (uuid : String) (data : Json)
    (actor : Nat) : Except Failure CameraRow := do
  let name ← strippedText (← get data "name")
  let host ← strippedText (data.field "host")
  require (name ≠ "" && host ≠ "") (.invalid "name and host are required")
  rejectInjection (.str host) "host"
  let channel ← orRaise ((data.field "channel").or (.num 1)).toInt?
  require (!dup (data.field "serial") host channel)
    (.conflict "camera already registered (serial or host+channel)")
  let rtspTransport ← transportOf b (data.field "rtsp_transport")
  setCredentials (data.field "username") (data.field "password")
    (newRow uuid name host channel rtspTransport data actor)

/-- Source: `_streams_from_caps` (`server/controller/camera.py:304`). -/
def streamsFromCaps (capabilities : Json) : Json :=
  match capabilities.field "streams" with
  | .arr items => .arr items
  | _ => .arr []

/-- The stream list of a request to register a camera. -/
def createStreams (data : Json) : Json :=
  (data.field "streams").or (streamsFromCaps (data.field "capabilities"))

/-! ## The row of a camera that is edited -/

/-- The row with the fields of a request, without its credentials. -/
def editedRow (rtspTransport : Option String) (data : Json) (actor : Nat) (row : CameraRow) :
    CameraRow :=
  let ai := data.field "ai_features"
  { row with
    name := valueOr data "name" row.name
    host := valueOr data "host" row.host
    model := valueOr data "model" row.model
    firmware := valueOr data "firmware" row.firmware
    vendor := valueOr data "vendor" row.vendor
    driver := valueOr data "driver" row.driver
    onvifPort := valueOr data "onvif_port" row.onvifPort
    httpPort := valueOr data "http_port" row.httpPort
    rtspPort := valueOr data "rtsp_port" row.rtspPort
    channel := valueOr data "channel" row.channel
    useHttps := flagOr data "use_https" row.useHttps
    rtspTransport
    isEnabled := flagOr data "is_enabled" row.isEnabled
    liveTranscode := flagOr data "live_transcode" row.liveTranscode
    fisheye := flagOr data "fisheye" row.fisheye
    fisheyeParams := if has data "fisheye_params" then data.field "fisheye_params"
      else row.fisheyeParams
    dualRecording := flagOr data "dual_recording" row.dualRecording
    dualRecordStream := if has data "dual_record_stream" then
        (data.field "dual_record_stream").or .null
      else row.dualRecordStream
    aiFeatures := if ai.isObj then some (mergeAi ai (row.aiFeatures.getD [])) else row.aiFeatures
    edgeRecording := flagOr data "edge_recording" row.edgeRecording
    edgeAutoImport := flagOr data "edge_auto_import" row.edgeAutoImport
    lastUpdatedById := actor }

/-- A host that is given has no forbidden characters. -/
def checkHost (b : Backend) (host : Json) : Except Failure Unit :=
  match host with
  | .null => .ok ()
  | .str s => rejectInjection (.str (String.ofList (Lib.strip s.toList))) "host"
  | x => rejectInjection (.str (String.ofList (Lib.strip (b.text x).toList))) "host"

/-- The transport of a request, if it has one. -/
def transportOr (b : Backend) (data : Json) (old : Option String) :
    Except Failure (Option String) :=
  if has data "rtsp_transport" then transportOf b (data.field "rtsp_transport") else .ok old

/-- The row after the fields of a request are set. Source: `CameraController.update`
(`server/controller/camera.py:117`). -/
def editRow (b : Backend) (data : Json) (actor : Nat) (row : CameraRow) :
    Except Failure CameraRow := do
  checkHost b (← get data "host")
  let rtspTransport ← transportOr b data row.rtspTransport
  let row := editedRow rtspTransport data actor row
  if (data.field "username").truthy || (data.field "password").truthy then
    setCredentials (data.field "username") (data.field "password") row
  else .ok row

/-! ## The streams of a camera -/

/-- Source: `go2rtc_name_for` (`server/model/stream.py:12`). -/
def go2rtcNameFor (uuid role : String) : String := "cam_" ++ uuid ++ "_" ++ role

/-- `str(x)`. -/
def strOf (b : Backend) : Json → String
  | .str s => s
  | x => b.text x

/-- `(sd.get('role') or 'main').lower()`. -/
def readRole (b : Backend) (sd : Json) : Except Failure String :=
  match sd.get? "role" with
  | none => .error .raised
  | some role =>
    match role.or (.str "main") with
    | .str s => .ok (b.lower s)
    | _ => .error .raised

/-- The row of an entry of a stream list. -/
def newStream (b : Backend) (camera : CameraRow) (role : String) (sd : Json) : StreamRow :=
  { role
    codec := sd.field "codec"
    width := sd.field "width"
    height := sd.field "height"
    fps := sd.field "fps"
    bitrateKbps := sd.field "bitrate_kbps"
    audioCodec := sd.field "audio_codec"
    rtspPath := sd.field "rtsp_path"
    rtspUrlTemplate := "rtsp://{user}:{pass}@" ++ strOf b camera.host ++ ":" ++
      strOf b (camera.rtspPort.or (.num 554)) ++ strOf b ((sd.field "rtsp_path").or (.str ""))
    go2rtcName := go2rtcNameFor camera.uuid role
    isDefaultLive := role = "sub"
    isDefaultFull := role = "main"
    enabled := true }

/-- The rows of a stream list: an entry whose role there has been before is passed over. -/
def newStreams (b : Backend) (camera : CameraRow) : List String → List Json →
    Except Failure (List StreamRow)
  | _, [] => .ok []
  | seen, sd :: rest => do
    let role ← readRole b sd
    if role ∈ seen then newStreams b camera seen rest
    else
      rejectInjection ((sd.field "rtsp_path").or (.str "")) "rtsp_path"
      let rows ← newStreams b camera (role :: seen) rest
      .ok (newStream b camera role sd :: rows)

/-- The first stream becomes the one of the grid when there is none for it. -/
def markLive (rows : List StreamRow) : List StreamRow :=
  match rows with
  | [] => []
  | s :: rest =>
    if rows.any StreamRow.isDefaultLive then rows else { s with isDefaultLive := true } :: rest

/-- The streams that are left, and what it ends with when it raises: the old rows are deleted and
committed first, and the new ones are committed together. Source: `_replace_streams`
(`server/controller/camera.py:248`). -/
def replaceStreams (b : Backend) (camera : CameraRow) (streamDicts : Json) :
    List StreamRow × Option Failure :=
  match (streamDicts.or (.arr [])).iter? with
  | none => ([], some .raised)
  | some items =>
    match newStreams b camera [] items with
    | .error e => ([], some e)
    | .ok rows =>
      if rows.isEmpty || b.takesStreams rows then (markLive rows, none) else ([], some .raised)

/-! ## Columns that a request leaves alone -/

section
variable {b : Backend} {data : Json} {actor : Nat} {row row' : CameraRow}

/-- The text that is encrypted for a value, if any. -/
def credentialText : Json → Option String
  | .str s => some s
  | _ => none

theorem credentialOr_eq_ok {x : Json} {old new : Option String} (h : credentialOr x old = .ok new) :
    new = (credentialText x).or old := by
  unfold credentialOr at h
  split at h <;> cases h <;> rfl

theorem setCredentials_eq_ok {username password : Json}
    (h : setCredentials username password row = .ok row') :
    row' = { row with
      username := (credentialText username).or row.username
      password := (credentialText password).or row.password } := by
  obtain ⟨username', husername, h⟩ := bind_eq_ok.1 h
  obtain ⟨password', hpassword, h⟩ := bind_eq_ok.1 h
  rw [← credentialOr_eq_ok husername, ← credentialOr_eq_ok hpassword]
  exact (Except.ok.inj h).symm

/-- The row of a new camera has the values of the request and its credentials; the host has passed
the check as it is stored. -/
theorem createRow_eq_ok {dup : Json → String → Int → Bool} {uuid : String}
    (h : createRow b dup uuid data actor = .ok row) :
    ∃ name host channel rtspTransport, strippedText (data.field "host") = .ok host ∧
      rejectInjection (.str host) "host" = .ok () ∧
      row = { newRow uuid name host channel rtspTransport data actor with
        username := credentialText (data.field "username")
        password := credentialText (data.field "password") } := by
  obtain ⟨_, -, h⟩ := bind_eq_ok.1 h
  obtain ⟨name, -, h⟩ := bind_eq_ok.1 h
  obtain ⟨host, hhost, h⟩ := bind_eq_ok.1 h
  obtain ⟨_, -, h⟩ := bind_eq_ok.1 h
  obtain ⟨⟨⟩, hchecked, h⟩ := bind_eq_ok.1 h
  obtain ⟨channel, -, h⟩ := bind_eq_ok.1 h
  obtain ⟨_, -, h⟩ := bind_eq_ok.1 h
  obtain ⟨rtspTransport, -, h⟩ := bind_eq_ok.1 h
  refine ⟨name, host, channel, rtspTransport, hhost, hchecked, ?_⟩
  rw [setCredentials_eq_ok h]
  simp only [newRow, Option.or_none]

/-- An edit sets the credentials when one of them is not blank. -/
def touches (data : Json) : Bool :=
  (data.field "username").truthy || (data.field "password").truthy

theorem field_of_get {key : String} {x : Json} (h : get data key = .ok x) : data.field key = x := by
  unfold get orRaise at h
  unfold Json.field
  split at h
  · cases h
  · next y hy =>
    rw [hy]
    exact Except.ok.inj h

/-- The row of a request that edits has the values of the request, and its credentials if the
request touches them; a host that is given has been checked. -/
theorem editRow_eq_ok (h : editRow b data actor row = .ok row') :
    checkHost b (data.field "host") = .ok () ∧
    ∃ rtspTransport, row' = { editedRow rtspTransport data actor row with
      username := if touches data then (credentialText (data.field "username")).or row.username
        else row.username
      password := if touches data then (credentialText (data.field "password")).or row.password
        else row.password } := by
  obtain ⟨host, hhost, h⟩ := bind_eq_ok.1 h
  obtain ⟨⟨⟩, hchecked, h⟩ := bind_eq_ok.1 h
  obtain ⟨rtspTransport, -, h⟩ := bind_eq_ok.1 h
  refine ⟨field_of_get hhost ▸ hchecked, rtspTransport, ?_⟩
  dsimp only at h
  unfold touches
  split at h
  · next htouches =>
    rw [setCredentials_eq_ok h, if_pos htouches, if_pos htouches]
    simp only [editedRow]
  · next htouches =>
    obtain rfl := Except.ok.inj h
    rw [if_neg htouches, if_neg htouches]
    simp only [editedRow]

end

/-! ## Which lists are taken -/

section
variable (b : Backend)

/-- The role of an entry. -/
def roleOf (sd : Json) : String :=
  match (sd.field "role").or (.str "main") with
  | .str s => b.lower s
  | _ => ""

/-- An entry can be read: it is an object, and its role is missing or a text. -/
def IsEntry (sd : Json) : Prop :=
  sd.isObj = true ∧ ∃ s, (sd.field "role").or (.str "main") = .str s

/-- The entries of a list that are the first ones of their role. -/
def firstOfRoles : List String → List Json → List Json
  | _, [] => []
  | seen, sd :: rest =>
    if roleOf b sd ∈ seen then firstOfRoles seen rest
    else sd :: firstOfRoles (roleOf b sd :: seen) rest

/-- The rows of the entries that count. -/
def rowsOf (camera : CameraRow) (streamDicts : Json) : List StreamRow :=
  match streamDicts with
  | .arr items => (firstOfRoles b [] items).map fun sd => newStream b camera (roleOf b sd) sd
  | _ => []

/-- The entries of a list can all be read, the paths of those that count have no forbidden
characters, and the database takes their rows. -/
def StreamsTaken (camera : CameraRow) (streamDicts : Json) : Prop :=
  streamDicts.truthy = true → ∃ items, streamDicts = .arr items ∧ (∀ sd ∈ items, IsEntry sd) ∧
    (∀ sd ∈ firstOfRoles b [] items,
      rejectInjection ((sd.field "rtsp_path").or (.str "")) "rtsp_path" = .ok ()) ∧
    b.takesStreams (rowsOf b camera streamDicts) = true

variable {b} {camera : CameraRow} {sd streamDicts : Json} {items : List Json} {seen : List String}
  {rows : List StreamRow}

theorem readRole_eq_ok_iff {role : String} :
    readRole b sd = .ok role ↔ IsEntry sd ∧ role = roleOf b sd := by
  unfold readRole IsEntry roleOf Json.field
  cases hget : sd.get? "role" with
  | none =>
    have hobj : sd.isObj = false := by
      cases sd with
      | obj fields => simp [Json.get?, Json.getD?] at hget
      | _ => rfl
    simp [hobj]
  | some role' =>
    have hobj : sd.isObj = true := by
      cases sd with
      | obj fields => rfl
      | _ => simp [Json.get?, Json.getD?] at hget
    simp only [hobj, true_and, Option.getD_some]
    cases role'.or (.str "main") with
    | str s => simp [eq_comm]
    | _ => simp

/-- When a list is read, and into which rows. -/
theorem newStreams_eq_ok_iff : newStreams b camera seen items = .ok rows ↔
    (∀ sd ∈ items, IsEntry sd) ∧
      (∀ sd ∈ firstOfRoles b seen items,
        rejectInjection ((sd.field "rtsp_path").or (.str "")) "rtsp_path" = .ok ()) ∧
      rows = (firstOfRoles b seen items).map fun sd => newStream b camera (roleOf b sd) sd := by
  induction items generalizing seen rows with
  | nil =>
    refine ⟨fun h => ⟨nofun, nofun, (Except.ok.inj h).symm⟩, fun h => ?_⟩
    exact congrArg Except.ok h.2.2.symm
  | cons sd rest ih =>
    rw [newStreams, bind_eq_ok, List.forall_mem_cons, firstOfRoles]
    constructor
    · rintro ⟨role, hrole, h⟩
      obtain ⟨hentry, rfl⟩ := readRole_eq_ok_iff.1 hrole
      split at h
      · next hseen =>
        obtain ⟨hrest, hpaths, hrows⟩ := ih.1 h
        rw [if_pos hseen]
        exact ⟨⟨hentry, hrest⟩, hpaths, hrows⟩
      · next hseen =>
        obtain ⟨⟨⟩, hpath, h⟩ := bind_eq_ok.1 h
        obtain ⟨tail, htail, h⟩ := bind_eq_ok.1 h
        obtain ⟨hrest, hpaths, rfl⟩ := ih.1 htail
        rw [if_neg hseen]
        exact ⟨⟨hentry, hrest⟩, List.forall_mem_cons.2 ⟨hpath, hpaths⟩, (Except.ok.inj h).symm⟩
    · rintro ⟨⟨hentry, hrest⟩, hpaths, rfl⟩
      refine ⟨roleOf b sd, readRole_eq_ok_iff.2 ⟨hentry, rfl⟩, ?_⟩
      split
      · next hseen =>
        rw [if_pos hseen] at hpaths
        exact ih.2 ⟨hrest, hpaths, rfl⟩
      · next hseen =>
        rw [if_neg hseen] at hpaths
        obtain ⟨hpath, hpaths⟩ := List.forall_mem_cons.1 hpaths
        exact bind_eq_ok.2 ⟨(), hpath, bind_eq_ok.2 ⟨_, ih.2 ⟨hrest, hpaths, rfl⟩, rfl⟩⟩

/-- A list that is not empty has an entry that counts. -/
theorem firstOfRoles_ne_nil (h : items ≠ []) : firstOfRoles b [] items ≠ [] := by
  cases items with
  | nil => exact absurd rfl h
  | cons sd rest => simp [firstOfRoles]

theorem rowsOf_eq_nil (h : streamDicts.truthy = false) : rowsOf b camera streamDicts = [] := by
  cases streamDicts with
  | arr items =>
    have hnil : items = [] := by simpa [Json.truthy] using h
    subst hnil
    rfl
  | _ => rfl

/-- A list with a text first is not read. -/
theorem newStreams_str (b : Backend) (camera : CameraRow) (seen : List String) (text : String)
    (items : List Json) :
    ∃ e, newStreams b camera seen (.str text :: items) = .error e := ⟨.raised, rfl⟩

/-- What is not an array and counts as true cannot be gone through, or has a text first. -/
theorem iter?_cases (h : streamDicts.truthy = true) :
    (∃ items, streamDicts = .arr items ∧ items ≠ []) ∨
      (∀ items, streamDicts ≠ .arr items) ∧
        (streamDicts.iter? = none ∨ ∃ text rest, streamDicts.iter? = some (.str text :: rest)) := by
  cases streamDicts with
  | arr items => exact .inl ⟨items, rfl, by simpa [Json.truthy] using h⟩
  | str text =>
    refine .inr ⟨by simp, .inr ?_⟩
    cases hchars : text.toList with
    | nil => simp [Json.truthy, String.toList_eq_nil_iff.1 hchars] at h
    | cons c cs =>
      exact ⟨c.toString, cs.map fun c => .str c.toString, by simp [Json.iter?, hchars]⟩
  | obj fields =>
    refine .inr ⟨by simp, .inr ?_⟩
    cases fields with
    | nil => simp [Json.truthy] at h
    | cons f fields => exact ⟨_, _, rfl⟩
  | null | bool | num => exact .inr ⟨by simp, .inl rfl⟩

/-- A list that is taken leaves its rows, and any other one leaves none. -/
theorem replaceStreams_cases (b : Backend) (camera : CameraRow) (streamDicts : Json) :
    (StreamsTaken b camera streamDicts ∧
      replaceStreams b camera streamDicts = (markLive (rowsOf b camera streamDicts), none)) ∨
    (¬ StreamsTaken b camera streamDicts ∧
      ∃ f, replaceStreams b camera streamDicts = ([], some f)) := by
  unfold replaceStreams
  cases htruthy : streamDicts.truthy with
  | false =>
    refine .inl ⟨fun h => by simp [htruthy] at h, ?_⟩
    rw [rowsOf_eq_nil htruthy, Json.or, htruthy]
    rfl
  | true =>
    rw [Json.or, if_pos htruthy]
    rcases iter?_cases htruthy with ⟨items, rfl, hne⟩ | ⟨hnot, hiter | ⟨text, rest, hiter⟩⟩
    · dsimp only [Json.iter?]
      cases hnew : newStreams b camera [] items with
      | error e =>
        refine .inr ⟨fun h => ?_, e, rfl⟩
        obtain ⟨_, ⟨⟩, hentries, hpaths, -⟩ := h htruthy
        rw [newStreams_eq_ok_iff.2 ⟨hentries, hpaths, rfl⟩] at hnew
        cases hnew
      | ok rows =>
        obtain ⟨hentries, hpaths, rfl⟩ := newStreams_eq_ok_iff.1 hnew
        have hempty : ((firstOfRoles b [] items).map
            fun sd => newStream b camera (roleOf b sd) sd).isEmpty = false := by
          simp [firstOfRoles_ne_nil hne]
        dsimp only
        rw [hempty, Bool.false_or]
        split
        · next htakes => exact .inl ⟨fun _ => ⟨items, rfl, hentries, hpaths, htakes⟩, rfl⟩
        · next htakes =>
          refine .inr ⟨fun h => ?_, _, rfl⟩
          obtain ⟨_, -, -, -, h⟩ := h htruthy
          exact htakes h
    · refine .inr ⟨fun h => ?_, .raised, by rw [hiter]⟩
      obtain ⟨items, heq, -⟩ := h htruthy
      exact hnot items heq
    · obtain ⟨e, he⟩ := newStreams_str b camera [] text rest
      refine .inr ⟨fun h => ?_, e, by simp only [hiter, he]⟩
      obtain ⟨items, heq, -⟩ := h htruthy
      exact hnot items heq

end

end AeroXProtect.Registration
