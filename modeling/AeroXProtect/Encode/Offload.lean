import AeroXProtect.Detection.Ingest
import AeroXProtect.Scheduler.Placement

/-!
# Offload of the live transcode

An encoder node transcodes a camera's live stream and publishes it as `<name>_enc`. The server picks
the source of the stream the viewers open (`buildSource`): the node's stream when the camera's row
in `encode_assignments` is active and its node is online, the local transcode otherwise. `Offload`
is everything that writes the rows and the nodes: the rebalances, the supervision of the nodes,
their joins and heartbeats and their administration, each request taken as a whole. Its `log` is not
in the program: it lists the assignments that were written and the heartbeats that came in, newest
first, so that the source can be compared with what the node last said (`confirmed`).

A row becomes active when a heartbeat of its node lists the camera, and nothing takes that back when
a later heartbeat does not: a session that dies on the node stays the source of the viewers. The
source is right in the runs where no heartbeat drops a camera whose row is active (`listsActive`).
-/

open Lib

namespace AeroXProtect

namespace Assignments

theorem state_reissue (nodeId : Nat) (state : AssignState) (a : Assignment) :
    (reissue nodeId state a).state = state := by
  unfold reissue; split <;> rfl

/-- The rows after a report: the camera's row is marked. -/
theorem mem_markReport {t : Assignments} {cam : Nat} {now : Int} {a' : Assignment} :
    a' ∈ t.markReport cam now ↔
      ∃ a ∈ t, a' = if a.cameraId = cam then reported now a else a := by
  unfold markReport
  rw [Table.mem_modify]
  simp only [decide_eq_true_eq]

/-- The rows after a change of the state of a node's rows. -/
theorem mem_setNodeState {t : Assignments} {node : Nat} {state : AssignState} {a' : Assignment} :
    a' ∈ t.setNodeState node state ↔
      ∃ a ∈ t, a' = if a.nodeId = node then { a with state } else a := by
  unfold setNodeState
  rw [Table.mem_modify]
  simp only [decide_eq_true_eq]

/-- Removals leave only rows that were there. -/
theorem mem_of_removeAll {t : Assignments} (cams : List Nat) {a : Assignment}
    (ha : a ∈ cams.foldl removeForCamera t) : a ∈ t := by
  induction cams generalizing t with
  | nil => exact ha
  | cons cam cams ih => exact (Table.mem_delete.1 (ih ha)).1

end Assignments

/-! ## The source of a stream -/

/-- A stream of a camera: the columns `go2rtc_sync` reads. -/
structure LiveStream where
  go2rtcName : String
  rtspPath : Option String
  codec : Option String
  isDefaultLive : Bool
  enabled : Bool
  deriving DecidableEq, Repr

/-- A camera with its streams: the columns `go2rtc_sync` reads. The credentials are decrypted. -/
structure LiveCamera where
  id : Nat
  host : String
  rtspPort : Option Nat
  rtspTransport : Option String
  username : Option String
  password : Option String
  liveTranscode : Bool
  streams : List LiveStream
  deriving DecidableEq, Repr

/-- What go2rtc reads a stream from: the stream an encoder node publishes, go2rtc's own transcode of
the camera's stream, or a copy of it. -/
inductive LiveSource
  | node (encName : String)
  | transcode (rtspUrl inputPre : String)
  | copy (rtspUrl inputPre : String)
  deriving DecidableEq, Repr

namespace LiveSource

/-- The source as go2rtc is given it. Source: the returns of `build_source` and `_copy_source`
(`server/service/go2rtc_sync.py:63`, `:48`). -/
def text : LiveSource → String
  | .node encName => "rtsp://127.0.0.1:8554/" ++ encName
  | .transcode rtspUrl inputPre => "ffmpeg:" ++ rtspUrl ++ inputPre ++ "#video=h264#audio=aac"
  | .copy rtspUrl inputPre =>
    if inputPre.isEmpty then rtspUrl ++ "#video=copy#audio=copy"
    else "ffmpeg:" ++ rtspUrl ++ inputPre ++ "#video=copy#audio=copy"

end LiveSource

/-- A byte as `quote` writes it. -/
def quoteByte (b : UInt8) : String :=
  let c := Char.ofNat b.toNat
  if c.isAlphanum || c == '_' || c == '.' || c == '-' || c == '~' then c.toString
  else
    let digit (n : Nat) : String := (Nat.digitChar n).toUpper.toString
    "%" ++ digit (b.toNat / 16) ++ digit (b.toNat % 16)

/-- `urllib.parse.quote(s, safe='')`. -/
def quote (s : String) : String := String.join (s.toUTF8.toList.map quoteByte)

namespace LiveCamera

/-- Source: `live_transcode_enabled` (`server/service/go2rtc_sync.py:15`). -/
def liveTranscodeEnabled (camera : LiveCamera) (stream : LiveStream) : Bool :=
  stream.isDefaultLive && (camera.liveTranscode || stream.codec == some "h265")

/-- The address of a stream with the credentials, and the transport it is read with. Source:
`_source_parts` (`server/service/go2rtc_sync.py:28`). -/
def sourceParts (camera : LiveCamera) (stream : LiveStream) : String × String :=
  let username := camera.username.getD ""
  let cred :=
    if username.isEmpty then ""
    else quote username ++ ":" ++ quote (camera.password.getD "") ++ "@"
  let port := if camera.rtspPort.getD 0 = 0 then 554 else camera.rtspPort.getD 0
  let chosen := camera.rtspTransport.getD ""
  let transport := (if chosen.isEmpty then "auto" else chosen).toLower
  ("rtsp://" ++ cred ++ camera.host ++ ":" ++ toString port ++ stream.rtspPath.getD "",
    if transport == "tcp" || transport == "udp" then "#input=rtsp/" ++ transport else "")

/-- Source: `default_live_stream` (`server/service/encode_config_resolver.py:13`). -/
def defaultLiveStream (camera : LiveCamera) : Option LiveStream :=
  camera.streams.find? fun s => s.isDefaultLive && s.enabled

end LiveCamera

/-- Source: `enc_name` (`server/service/encode_config_resolver.py:24`). -/
def LiveStream.encName (stream : LiveStream) : String := stream.go2rtcName ++ "_enc"

namespace EncodeSched

/-- Source: `EncodingNode.get_by_id` (`server/model/encoding_node.py:43`). -/
def getNode (s : EncodeSched) (node : Nat) : Option EncodingNode :=
  (s.nodes.get? node).filter fun n => n.deletedAt.isNone

/-- Source: `assignment_for` (`server/service/encode_offload.py:35`). -/
def assignmentFor (s : EncodeSched) (camera : LiveCamera) : Option Assignment :=
  if s.flagOn then do
    let stream ← camera.defaultLiveStream
    if camera.liveTranscodeEnabled stream then s.rows.get? camera.id else none
  else none

/-- The name of the stream an online node publishes for the camera. Source: `live_offload_target`
(`server/service/encode_offload.py:51`); the `raw_name` it also returns is not read by
`build_source`. -/
def liveOffloadTarget (s : EncodeSched) (camera : LiveCamera) : Option String := do
  let a ← s.assignmentFor camera
  if a.state = .active then
    let node ← s.getNode a.nodeId
    if node.enabled && node.status == .online then
      camera.defaultLiveStream.map LiveStream.encName
    else none
  else none

/-- Source: `build_source` (`server/service/go2rtc_sync.py:63`). -/
def buildSource (s : EncodeSched) (camera : LiveCamera) (stream : LiveStream) : LiveSource :=
  let (rtspUrl, inputPre) := camera.sourceParts stream
  if camera.liveTranscodeEnabled stream then
    match s.liveOffloadTarget camera with
    | some encName => .node encName
    | none => .transcode rtspUrl inputPre
  else .copy rtspUrl inputPre

/-! ## Sessions, nodes and assignments -/

/-- Source: `reassign` (`server/service/encode_scheduler.py:158`). -/
def reassign (s : EncodeSched) (node : Nat) : EncodeSched :=
  { s with rows := s.rows.setNodeState node .reassigning }.rebalance.1

/-- Source: `kick` (`server/service/encode_scheduler.py:165`). -/
def kick (s : EncodeSched) (camera : Nat) : EncodeSched :=
  if camera = 0 || !s.flagOn then s
  else if (s.rows.get? camera).isSome then s
  else s.rebalance.1

/-- A node's row is rewritten, if the node exists. -/
def editNode (s : EncodeSched) (node : Nat) (f : EncodingNode → EncodingNode)
    (hf : ∀ n, (f n).id = n.id := by intro; rfl) : EncodeSched :=
  { s with nodes := s.nodes.modify (fun n => n.id == node && n.deletedAt.isNone) f hf }

end EncodeSched

/-- The status a heartbeat gives a node: a draining node stays so, `degraded` is taken, everything
else means online. Source: `heartbeat` (`server/service/encode_node_registry.py:54`). -/
def beatStatus (current : NodeStatus) (status : Json) : NodeStatus :=
  if current = .draining then .draining
  else if status = .str "degraded" then .degraded
  else .online

/-- The cameras a heartbeat lists as active: what `int` reads of `active_sessions`. -/
def activeSessions (payload : Json) : List Int :=
  match payload.get? "active_sessions" with
  | none => []
  | some sessions => (((sessions.or (.arr [])).iter?).getD []).filterMap Json.toInt?

/-- A heartbeat of the node lists the camera: its row is marked, if it is the node's. The second
component collects the cameras to sync again. -/
def confirmStep (node : Nat) (now : Int) (st : Assignments × List Nat) (cam : Int) :
    Assignments × List Nat :=
  match st.1.getForCamera cam with
  | none => st
  | some a =>
    if a.nodeId = node then
      (st.1.markReport a.cameraId now,
        if a.state = .active then st.2 else st.2 ++ [a.cameraId])
    else st

/-- What happened, for the comparison with what a node last said: a camera's row was written, or a
heartbeat of a node listed these cameras. -/
inductive OffloadEvent
  | assigned (camera : Nat)
  | beat (node : Nat) (cameras : List Int)
  deriving DecidableEq, Repr

/-- The scheduler's tables, the time of each node's last heartbeat, and the log, newest first. -/
structure Offload where
  sched : EncodeSched
  lastHeartbeatTs : Nat → Option Int
  log : List OffloadEvent

/-- What may happen. `configure` is an edit of cameras, streams or the feature flag and the coming
and going of viewers; the resync of a camera reads `buildSource` and writes none of this. -/
inductive OffloadAct
  | configure (cameras : Cameras) (needsEncode : Camera → Bool) (flagOn : Bool)
  | rebalance
  | kick (camera : Nat)
  | supervise (now : Int)
  | create (node : Nat)
  | join (node : Nat) (maxSessions : Int) (now : Int)
  | heartbeat (node : Nat) (payload : Json) (now : Int)
  | update (node : Nat) (maxSessions : Option Int) (enabled : Option Bool)
  | drain (node : Nat)
  | delete (node : Nat) (now : Int)
  | redis (up : Bool)
  | resync (camera : LiveCamera)

namespace Offload

/-- The rows of `after` that are not in `before`: those that were written. -/
def written (before after : Assignments) : List OffloadEvent :=
  (after.rows.filter fun b => before.get? b.cameraId != some b).map fun b => .assigned b.cameraId

/-- The scheduler has written rows. -/
def wrote (s : Offload) (sched : EncodeSched) : Offload :=
  { s with sched, log := written s.sched.rows sched.rows ++ s.log }

/-- `NODE_STALE_S` in milliseconds. Source: `server/task/list/encode_supervise.py:15`. -/
def nodeStaleMs : Int := 15000

/-- Nodes that have not been heard of go offline, then the cameras are distributed again. Source:
`supervise_encode_nodes` (`server/task/list/encode_supervise.py:19`), `EncodingNode.stale`
(`server/model/encoding_node.py:62`). -/
def supervise (s : Offload) (now : Int) : Offload :=
  let stale (n : EncodingNode) : Bool :=
    n.deletedAt.isNone && (n.status == .online || n.status == .degraded) &&
      (s.lastHeartbeatTs n.id).any fun ts => decide (ts < now - nodeStaleMs)
  let nodes := s.sched.nodes.modify stale fun n => { n with status := .offline }
  s.wrote { s.sched with nodes }.rebalance.1

/-- Source: `join` (`server/service/encode_node_registry.py:18`). -/
def join (s : Offload) (node : Nat) (maxSessions : Int) (now : Int) : Offload :=
  match s.sched.getNode node with
  | none => s
  | some _ =>
    let sched := s.sched.editNode node fun n => { n with maxSessions, status := .online }
    { s with lastHeartbeatTs := fun n => if n = node then some now else s.lastHeartbeatTs n }.wrote
      sched.rebalance.1

/-- The server takes a heartbeat of the node: the node exists, is enabled, and its message is an
object. Source: `encode_node_token_required` (`server/decorator.py:65`); the token itself is taken
to be valid. -/
def takesBeat (s : Offload) (node : Nat) (payload : Json) : Bool :=
  (s.sched.getNode node).any EncodingNode.enabled && (payload.get? "status").isSome

/-- Source: `heartbeat` (`server/service/encode_node_registry.py:54`). -/
def heartbeat (s : Offload) (node : Nat) (payload : Json) (now : Int) : Offload :=
  if s.takesBeat node (payload.or .empty) then
    let payload := payload.or .empty
    let sched := s.sched.editNode node fun n =>
      { n with status := beatStatus n.status ((payload.get? "status").getD .null) }
    let sessions := activeSessions payload
    let (rows, flipped) := sessions.foldl (confirmStep node now) (s.sched.rows, [])
    { sched := { sched with rows, resynced := sched.resynced ++ flipped }
      lastHeartbeatTs := fun n => if n = node then some now else s.lastHeartbeatTs n
      log := .beat node sessions :: s.log }
  else s

/-- Source: `EncodeNodeController.update` (`server/controller/encode_node.py:37`). -/
def update (s : Offload) (node : Nat) (maxSessions : Option Int) (enabled : Option Bool) :
    Offload :=
  let sched := s.sched.editNode node fun n =>
    { n with
      maxSessions := maxSessions.elim n.maxSessions (max 0)
      enabled := enabled.getD n.enabled
      status := if enabled = some false then .draining else n.status }
  if enabled = some false && (s.sched.getNode node).isSome then s.wrote (sched.reassign node)
  else { s with sched }

/-- Source: `EncodeNodeController.drain` (`server/controller/encode_node.py:58`). -/
def drain (s : Offload) (node : Nat) : Offload :=
  if (s.sched.getNode node).isSome then
    s.wrote ((s.sched.editNode node fun n => { n with status := .draining }).reassign node)
  else s

/-- Source: `EncodeNodeController.delete` (`server/controller/encode_node.py:66`). -/
def delete (s : Offload) (node : Nat) (now : Int) : Offload :=
  if (s.sched.getNode node).isSome then
    s.wrote ((s.sched.editNode node fun n =>
      { n with deletedAt := some now, status := .disabled }).reassign node)
  else s

/-- One action. -/
def step (s : Offload) : OffloadAct → Offload
  | .configure cameras needsEncode flagOn => { s with sched := { s.sched with
      cameras, needsEncode, flagOn } }
  | .rebalance => s.wrote s.sched.rebalance.1
  | .kick camera => s.wrote (s.sched.kick camera)
  | .supervise now => s.supervise now
  | .create node => { s with sched := { s.sched with
      nodes := s.sched.nodes.insert ⟨node, .offline, true, 0, 0, none⟩ } }
  | .join node maxSessions now => s.join node maxSessions now
  | .heartbeat node payload now => s.heartbeat node payload now
  | .update node maxSessions enabled => s.update node maxSessions enabled
  | .drain node => s.drain node
  | .delete node now => s.delete node now
  | .redis up => { s with sched := { s.sched with store := { s.sched.store with redisUp := up } } }
  | .resync camera => { s with sched := { s.sched with
      resynced := s.sched.resynced ++ [camera.id] } }

/-! ## What the node last said -/

/-- The latest heartbeat of the node since the camera's row was written listed the camera. -/
def confirmed (camera node : Nat) : List OffloadEvent → Bool
  | [] => false
  | .assigned c :: log => c != camera && confirmed camera node log
  | .beat n cameras :: log =>
    if n = node then cameras.contains (camera : Int) else confirmed camera node log

/-- The node the camera is assigned to is online, and its latest heartbeat since the assignment
listed the camera. -/
def nodeConfirmed (s : Offload) (camera : Nat) : Bool :=
  (s.sched.rows.get? camera).any fun a =>
    ((s.sched.getNode a.nodeId).any fun n => n.status == .online) &&
      confirmed camera a.nodeId s.log

/-- A heartbeat the server takes lists every camera whose row is active on the node: no session that
was confirmed has ended. -/
def listsActive (s : Offload) : OffloadAct → Bool
  | .heartbeat node payload _ =>
    !s.takesBeat node (payload.or .empty) ||
      s.sched.rows.rows.all fun a => !(a.nodeId == node && a.state == .active) ||
        (activeSessions (payload.or .empty)).contains (a.cameraId : Int)
  | _ => true

/-- Every active row is confirmed. -/
def ActiveConfirmed (s : Offload) : Prop :=
  ∀ a ∈ s.sched.rows, a.state = .active → confirmed a.cameraId a.nodeId s.log = true

end Offload

/-! ## Active rows -/

/-- The passes make no row active: every row they write is pending. -/
theorem mem_of_rewrite_active {unchanged : Assignment → Bool} {nodes : List Slot} {cams : List Nat}
    {rows : Assignments} (hnd : cams.Nodup) {a : Assignment}
    (ha : a ∈ (rewrite unchanged nodes cams rows).1) (hact : a.state = .active) : a ∈ rows := by
  have hget := Table.get?_eq_some.2 ⟨ha, rfl⟩
  rw [rewrite_get? hnd] at hget
  split at hget
  · unfold nextRow at hget
    split at hget
    · cases hget
    · rw [← Option.some.inj hget] at hact
      cases hact
    · next n old hplan hold =>
      split at hget
      · obtain rfl := Option.some.inj hget
        exact (Table.get?_eq_some.1 hold).1
      · obtain rfl := Option.some.inj hget
        rw [Assignments.state_reissue] at hact
        cases hact
  · cases hget

namespace EncodeSched

section
variable {s : EncodeSched} {a : Assignment}

theorem mem_of_rebalance_active (ha : a ∈ s.rebalance.1.rows) (hact : a.state = .active) :
    a ∈ s.rows := by
  unfold rebalance at ha
  split at ha
  · exact mem_of_rewrite_active (s.cameras.nodup_getAllEnabled_filter _) ha hact
  · exact Assignments.mem_of_removeAll _ ha

theorem mem_of_reassign_active {node : Nat} (ha : a ∈ (s.reassign node).rows)
    (hact : a.state = .active) : a ∈ s.rows := by
  obtain ⟨r, hr, he⟩ := Assignments.mem_setNodeState.1 (mem_of_rebalance_active ha hact)
  split at he
  · subst he
    cases hact
  · exact he ▸ hr

theorem mem_of_kick_active {camera : Nat} (ha : a ∈ (s.kick camera).rows)
    (hact : a.state = .active) : a ∈ s.rows := by
  unfold kick at ha
  split at ha
  · exact ha
  · split at ha
    · exact ha
    · exact mem_of_rebalance_active ha hact

end

end EncodeSched

section
variable {node : Nat} {now : Int}

/-- A listed camera's row keeps its camera and node, and only the row of the listed camera on this
node changes. -/
theorem mem_confirmStep {st : Assignments × List Nat} {cam : Int} {a' : Assignment}
    (h : a' ∈ (confirmStep node now st cam).1) :
    ∃ a ∈ st.1, a.cameraId = a'.cameraId ∧ a.nodeId = a'.nodeId ∧
      (a' = a ∨ a.nodeId = node ∧ (a.cameraId : Int) = cam) := by
  unfold confirmStep at h
  split at h
  · exact ⟨a', h, rfl, rfl, .inl rfl⟩
  · next b hb =>
    split at h
    · next hnode =>
      obtain ⟨r, hr, he⟩ := Assignments.mem_markReport.1 h
      split at he
      · next hcam =>
        unfold Assignments.getForCamera at hb
        split at hb
        · cases hb
        · next hpos =>
          obtain ⟨hb, hid⟩ := Table.get?_eq_some.1 hb
          obtain rfl := Table.eq_of_key_eq hr hb hcam
          refine ⟨r, hr, ?_, ?_, .inr ⟨hnode, by omega⟩⟩
          · rw [he, Assignments.cameraId_reported]
          · rw [he]
            unfold Assignments.reported
            split <;> rfl
      · exact ⟨r, hr, he ▸ rfl, he ▸ rfl, .inl he⟩
    · exact ⟨a', h, rfl, rfl, .inl rfl⟩

/-- The active rows after a heartbeat were active, or are of listed cameras of the node. -/
theorem active_confirmSteps (sessions : List Int) {st : Assignments × List Nat} {a' : Assignment}
    (h : a' ∈ (sessions.foldl (confirmStep node now) st).1) (hact : a'.state = .active) :
    ∃ a ∈ st.1, a.cameraId = a'.cameraId ∧ a.nodeId = a'.nodeId ∧
      (a.state = .active ∨ a.nodeId = node ∧ (a.cameraId : Int) ∈ sessions) := by
  induction sessions generalizing st with
  | nil => exact ⟨a', h, rfl, rfl, .inl hact⟩
  | cons cam sessions ih =>
    obtain ⟨b, hb, hcam, hnode, hst⟩ := ih h
    obtain ⟨a, ha, hcam', hnode', hsame⟩ := mem_confirmStep hb
    refine ⟨a, ha, hcam'.trans hcam, hnode'.trans hnode, ?_⟩
    rcases hst with hst | ⟨hn, hmem⟩
    · rcases hsame with rfl | ⟨hn, rfl⟩
      · exact .inl hst
      · exact .inr ⟨hn, .head _⟩
    · exact .inr ⟨hnode'.trans hn, .tail _ (hcam' ▸ hmem)⟩

end

namespace Offload

/-- Assignments of other cameras do not matter. -/
theorem confirmed_append {camera node : Nat} {events log : List OffloadEvent}
    (h : ∀ e ∈ events, ∃ c, e = .assigned c ∧ c ≠ camera) :
    confirmed camera node (events ++ log) = confirmed camera node log := by
  induction events with
  | nil => rfl
  | cons e events ih =>
    obtain ⟨c, rfl, hc⟩ := h e (.head _)
    rw [List.cons_append, confirmed, ih fun e he => h e (.tail _ he)]
    simp [hc]

section
variable {s : Offload}

/-- The scheduler writes rows and makes none active. -/
theorem ActiveConfirmed.wrote (h : ActiveConfirmed s) {sched : EncodeSched}
    (hact : ∀ a ∈ sched.rows, a.state = .active → a ∈ s.sched.rows) :
    ActiveConfirmed (s.wrote sched) := by
  intro a ha hst
  have hold := hact a ha hst
  refine (confirmed_append fun e he => ?_).trans (h a hold hst)
  obtain ⟨b, hb, rfl⟩ := List.mem_map.1 he
  obtain ⟨hb, hne⟩ := List.mem_filter.1 hb
  refine ⟨_, rfl, fun hcam => ?_⟩
  -- the written row of this camera would be `a`, which was there before
  obtain rfl := Table.eq_of_key_eq (t := sched.rows) hb ha hcam
  rw [Table.get?_eq_some.2 ⟨hold, rfl⟩] at hne
  simp at hne

/-- A heartbeat that lists the active cameras of its node confirms them again. -/
theorem ActiveConfirmed.heartbeat (h : ActiveConfirmed s) {node : Nat} {payload : Json} {now : Int}
    (hok : s.listsActive (.heartbeat node payload now) = true) :
    ActiveConfirmed (s.heartbeat node payload now) := by
  unfold Offload.heartbeat
  split
  · next htake =>
    intro a' ha' hst
    obtain ⟨a, ha, hcam, hnode, hwas⟩ := active_confirmSteps _ ha' hst
    rw [listsActive, htake, Bool.not_true, Bool.false_or, List.all_eq_true] at hok
    have hlist := hok a ha
    show (if node = a'.nodeId then _ else _) = true
    rw [← hcam, ← hnode]
    split
    · next he =>
      rcases hwas with hwas | ⟨-, hmem⟩
      · simpa [he, hwas] using hlist
      · exact List.contains_iff_mem.2 hmem
    · next hne =>
      rcases hwas with hwas | ⟨hn, -⟩
      · exact h a ha hwas
      · exact absurd hn.symm hne
  · exact h

/-- Every action keeps the active rows confirmed, heartbeats as long as they list them. -/
theorem ActiveConfirmed.step (h : ActiveConfirmed s) {a : OffloadAct}
    (hok : s.listsActive a = true) : ActiveConfirmed (s.step a) := by
  cases a with
  | configure | create | redis | resync => exact h
  | rebalance => exact h.wrote fun _ => EncodeSched.mem_of_rebalance_active
  | kick camera => exact h.wrote fun _ => EncodeSched.mem_of_kick_active
  | supervise now => exact h.wrote fun _ => EncodeSched.mem_of_rebalance_active
  | join node maxSessions now =>
    unfold Offload.step Offload.join
    dsimp only
    split
    · exact h
    · exact ActiveConfirmed.wrote (s := { s with lastHeartbeatTs := _ }) h
        fun _ => EncodeSched.mem_of_rebalance_active
  | heartbeat node payload now => exact h.heartbeat hok
  | update node maxSessions enabled =>
    unfold Offload.step Offload.update
    dsimp only
    split
    · exact h.wrote fun _ => EncodeSched.mem_of_reassign_active
    · exact h
  | drain node =>
    unfold Offload.step Offload.drain
    dsimp only
    split
    · exact h.wrote fun _ => EncodeSched.mem_of_reassign_active
    · exact h
  | delete node now =>
    unfold Offload.step Offload.delete
    dsimp only
    split
    · exact h.wrote fun _ => EncodeSched.mem_of_reassign_active
    · exact h

/-- Where the active rows are confirmed, so is the source. -/
theorem ActiveConfirmed.target (h : ActiveConfirmed s) {camera : LiveCamera} {encName : String}
    (ht : s.sched.liveOffloadTarget camera = some encName) :
    s.nodeConfirmed camera.id = true := by
  obtain ⟨a, ha, ht⟩ := Option.bind_eq_some_iff.1 ht
  have hrow : s.sched.rows.get? camera.id = some a := by
    unfold EncodeSched.assignmentFor at ha
    split at ha
    · obtain ⟨stream, -, ha⟩ := Option.bind_eq_some_iff.1 ha
      split at ha
      · exact ha
      · cases ha
    · cases ha
  split at ht
  · next hact =>
    obtain ⟨n, hn, ht⟩ := Option.bind_eq_some_iff.1 ht
    split at ht
    · next hon =>
      rw [Bool.and_eq_true] at hon
      obtain ⟨hmem, hid⟩ := Table.get?_eq_some.1 hrow
      have hconf := h a hmem hact
      rw [hid] at hconf
      simp [nodeConfirmed, hrow, hn, hon.2, hconf]
    · cases ht
  · cases ht

end

/-- **The node's stream is the source only while the node confirms it.** In every run in which no
heartbeat leaves out a camera whose row is active on its node, and for every camera and stream: the
source is the node's stream only if the node is online and its latest heartbeat since the assignment
listed the camera; otherwise a stream that needs a transcode gets the local one. -/
theorem source_confirmed {s t : Offload} {as : List OffloadAct} (hrows : s.sched.rows = ∅)
    (h : Run step (fun s a => s.listsActive a = true) s as t) (camera : LiveCamera)
    (stream : LiveStream) :
    (∀ encName, t.sched.buildSource camera stream = .node encName →
      t.nodeConfirmed camera.id = true) ∧
    (camera.liveTranscodeEnabled stream = true → t.nodeConfirmed camera.id = false →
      t.sched.buildSource camera stream =
        .transcode (camera.sourceParts stream).1 (camera.sourceParts stream).2) := by
  have hstart : ActiveConfirmed s := by
    intro a ha
    rw [hrows] at ha
    exact absurd ha (Table.not_mem_empty a)
  have hok : ActiveConfirmed t := h.invariant (fun _ _ hi ha => hi.step ha) hstart
  unfold EncodeSched.buildSource
  refine ⟨fun encName hsrc => ?_, fun hneeds hconf => ?_⟩
  · dsimp only at hsrc
    split at hsrc
    · split at hsrc
      · next name ht => exact hok.target ht
      · cases hsrc
    · cases hsrc
  · dsimp only
    rw [if_pos hneeds]
    cases ht : t.sched.liveOffloadTarget camera with
    | none => rfl
    | some name =>
      rw [hok.target ht] at hconf
      cases hconf

namespace Fixture

/-- A camera with an H.265 live stream. -/
def camera : LiveCamera :=
  ⟨1, "10.0.0.9", none, none, none, none, false, [⟨"gate", some "/live", some "h265", true, true⟩]⟩

def stream : LiveStream := ⟨"gate", some "/live", some "h265", true, true⟩

/-- The camera is watched; nothing is assigned yet, node 10 is registered. -/
def start : Offload where
  sched :=
    { cameras := ⟨[⟨1, "e", "door", true, none⟩], List.nodup_singleton _⟩
      needsEncode := fun _ => true
      flagOn := true
      nodes := ⟨[⟨10, .offline, true, 0, 0, none⟩], List.nodup_singleton _⟩
      rows := ∅
      store := ⟨none, true⟩
      resynced := [] }
  lastHeartbeatTs := fun _ => none
  log := []

/-- A heartbeat with these sessions. -/
def payload (sessions : List Nat) : Json :=
  .obj [("active_sessions", .arr (sessions.map fun c => .num (c : Int))), ("status", .str "online")]

/-- The node joins, gets the camera and confirms its session. -/
def confirms : List OffloadAct := [.join 10 4 0, .heartbeat 10 (payload [1]) 5000]

/-- Then the session ends on the node. -/
def ends : List OffloadAct := confirms ++ [.heartbeat 10 (payload []) 10000]

end Fixture

/-- A confirmed session is the source, and the node is online with a heartbeat that lists it. -/
theorem source_confirmed_join :
    let t := Fixture.confirms.foldl step Fixture.start
    Run step (fun s a => s.listsActive a = true) Fixture.start Fixture.confirms t ∧
      t.sched.buildSource Fixture.camera Fixture.stream = .node "gate_enc" ∧
      t.nodeConfirmed 1 = true :=
  have hrun : Run step (fun s a => s.listsActive a = true) Fixture.start Fixture.confirms _ :=
    Run.of_admits (by decide)
  have hsrc : (Fixture.confirms.foldl step Fixture.start).sched.buildSource Fixture.camera
      Fixture.stream = .node "gate_enc" := by decide
  ⟨hrun, hsrc, (source_confirmed rfl hrun Fixture.camera Fixture.stream).1 _ hsrc⟩

/-- A session that ends stays the source: the row stays active when the node's heartbeat no longer
lists the camera. -/
theorem dead_session_stays_source :
    let t := Fixture.ends.foldl step Fixture.start
    t.sched.buildSource Fixture.camera Fixture.stream = .node "gate_enc" ∧
      t.nodeConfirmed 1 = false ∧ t.log.head? = some (.beat 10 []) := by
  decide

end Offload

end AeroXProtect
