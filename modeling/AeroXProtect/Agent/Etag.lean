import AeroXProtect.Agent.Poll
import AeroXProtect.Detection.Ingest

/-!
# The etag of the assignment protocol

Server and detector node agree on the node's assignments through an etag: the server bumps a counter
whenever an assignment row changes or the settings, the zones or the triggers are edited, and
answers a poll with `304` when the node shows the current value. The specs are also made of the
streams, whose edits do not bump the counter; they are no action here. `AiProtocol` is the server,
the agent and the answer that is on its way between them; the agent waits for its answer while the
server goes on.

`EtagOk` is the agreement: an etag the agent holds, or that is on its way to it, is a value the
counter has had, and where it is the current value the specs that go with it are those assigned now.
A step of the server keeps it because the counter only grows, and grows whenever the specs change
(`Advances`). It is lost in three ways, which the guard `AiProtocol.admitted` excludes: the answer
to a join brings an etag and no specs, an error body makes the agent stop everything and keep its
etag, and without Redis the counter does not move.
-/

open Lib

namespace AeroXProtect

/-! ## The server -/

/-- What a job spec holds besides the camera and the epoch, from the settings, the stream, the zones
and the triggers of the camera. -/
structure JobConfig where
  go2rtcName : String
  model : String
  imgsz : Nat
  targetFps : Nat
  minConfidence : Nat
  labels : List String
  includeZones : List Json
  ignoreZones : List Json
  clipEnabled : Bool
  liveOverlay : Bool
  sampleIntervalMs : Nat
  rtspUrl : String

/-- The work order for one camera. Source: `camera_job_spec`
(`server/service/ai_config_resolver.py:43`). -/
def jobSpec (cameraId epoch : Nat) (c : JobConfig) : Json :=
  .obj [("camera_id", .num cameraId), ("clip_enabled", .bool c.clipEnabled),
    ("epoch", .num epoch), ("go2rtc_name", .str c.go2rtcName), ("imgsz", .num c.imgsz),
    ("labels", .arr (c.labels.map Json.str)), ("live_overlay", .bool c.liveOverlay),
    ("min_confidence", .num c.minConfidence), ("model", .str c.model), ("rtsp_url", .str c.rtspUrl),
    ("sample_interval_ms", .num c.sampleIntervalMs), ("target_fps", .num c.targetFps),
    ("zones", .obj [("ignore", .arr c.ignoreZones), ("include", .arr c.includeZones)])]

/-- The server's side: the scheduler, and the configuration of each camera that can be run (none for
a camera that is gone, has no stream, or has detection switched off). -/
structure AiServer where
  sched : AiSched
  configs : Nat → Option JobConfig

namespace AiServer

/-- The current etag. -/
def etag (s : AiServer) : Json := .str s.sched.store.currentEtag

/-- Source: `assignments_for_node` (`server/service/ai_scheduler.py:105`). -/
def assignmentsForNode (s : AiServer) (node : Nat) : List Json :=
  (s.sched.rows.rows.filter fun a => a.nodeId == node).filterMap fun a =>
    (s.configs a.cameraId).map (jobSpec a.cameraId a.epoch)

/-- `ResponseBuilder.success`; its `time` is for display and left out. -/
def success (data : Json) : Answer :=
  .response 200 (some (.obj [("data", data), ("status", .str "success")]))

/-- The body of an error (`server/view/response.py:20`), or of something that is not JSON. -/
def error (status : Nat) (message : Option String) : Answer :=
  .response status (message.map fun m => .obj [("message", .str m), ("status", .str "error")])

/-- The answer to a poll with this `If-None-Match`. Source: `assignments`
(`server/view/api/ai_ingest.py:43`). -/
def assignments (s : AiServer) (node : Nat) (ifNoneMatch : Json) : Answer :=
  if ifNoneMatch = s.etag then .response 304 none
  else success (.obj [("etag", s.etag), ("items", .arr (s.assignmentsForNode node))])

/-- A node joins: its row is updated (`nodes` is the table afterwards) and the cameras are
distributed again. Source: `join` (`server/service/ai_node_registry.py:15`). -/
def join (s : AiServer) (nodes : Table AiNode.id) : AiServer :=
  { s with sched := { s.sched with nodes }.rebalance.1 }

def joinAnswer (s : AiServer) (node : Nat) : Answer :=
  success (.obj [("assignments_etag", s.etag), ("heartbeat_interval_s", .num 5),
    ("node_id", .str (toString node)), ("node_token", .str "token")])

/-- The answer to a heartbeat. Source: `heartbeat` (`server/service/ai_node_registry.py:51`). -/
def heartbeatAnswer (s : AiServer) : Answer :=
  success (.obj [("assignments_etag", s.etag), ("ok", .bool true)])

end AiServer

/-! ## The agent's other messages -/

namespace NodeAgent

/-- A process that has just started. -/
def fresh : NodeAgent := ⟨.null, ∅⟩

/-- Source: `NodeAgent.join` (`worker/detector/node_agent.py:46`), from the answer on. -/
def join (self : NodeAgent) (answer : Answer) : NodeAgent :=
  match answer.data.bind (·.get? "assignments_etag") with
  | none => self
  | some etag => { self with etag }

/-- The heartbeat of the supervisor loop: another etag than the stored one makes the agent fetch
again. Source: `NodeAgent.heartbeat` and `NodeAgent.run`
(`worker/detector/node_agent.py:70`, `:136`). -/
def heartbeat (self : NodeAgent) (answer : Answer) : NodeAgent :=
  match answer.data.bind (·.get? "assignments_etag") with
  | none => self
  | some etag => if etag.truthy && etag ≠ self.etag then { self with etag := .null } else self

end NodeAgent

/-! ## The protocol -/

/-- What the agent asks for. -/
inductive Request
  | join | poll | heartbeat
  deriving DecidableEq, Repr

/-- An answer on its way to the agent. -/
structure Reply where
  request : Request
  answer : Answer
  deriving DecidableEq, Repr

/-- The server, one detector node and the answer on its way to it. -/
structure AiProtocol where
  server : AiServer
  node : Nat
  agent : NodeAgent
  pending : Option Reply

/-- What may happen: everything that happens at the server besides, an edit of the settings, the
zones or the triggers (with the `touch` that ends it), the start of the agent with a token of its
own or with a join, its requests, an error in place of an answer, and the arrival or the loss of an
answer. -/
inductive ProtoAct
  | server (a : DetectAct)
  | edit (configs : Nat → Option JobConfig)
  | start
  | join (nodes : Table AiNode.id)
  | poll
  | heartbeat (nodes : Table AiNode.id)
  | refuse (r : Request) (status : Nat) (message : Option String)
  | deliver
  | lose

namespace AiProtocol

/-- The agent gets its answer. -/
def receive (agent : NodeAgent) (r : Reply) : NodeAgent :=
  match r.request with
  | .join => agent.join r.answer
  | .poll => (agent.poll CameraPipeline.builds r.answer).1
  | .heartbeat => agent.heartbeat r.answer

/-- The agent's request is answered, if it is not waiting for another answer. -/
def answered (s : AiProtocol) (r : Request) (answer : Answer) : AiProtocol :=
  match s.pending with
  | none => { s with pending := some ⟨r, answer⟩ }
  | some _ => s

/-- A process of the agent starts; what was on its way to the last one is lost. -/
def started (s : AiProtocol) : AiProtocol := { s with agent := .fresh, pending := none }

/-- One action. -/
def step (builds : Json → Bool) (s : AiProtocol) : ProtoAct → AiProtocol
  | .server a => { s with server.sched := Detect.act builds s.server.sched a }
  | .edit configs => { s with server := ⟨s.server.sched.touch, configs⟩ }
  | .start => s.started
  | .join nodes =>
    let server := s.server.join nodes
    { s with server }.started.answered .join (server.joinAnswer s.node)
  | .poll => s.answered .poll (s.server.assignments s.node s.agent.etag)
  | .heartbeat nodes =>
    { s with server.sched.nodes := nodes }.answered .heartbeat s.server.heartbeatAnswer
  | .refuse .join status message => s.started.answered .join (AiServer.error status message)
  | .refuse r status message => s.answered r (AiServer.error status message)
  | .deliver =>
    match s.pending with
    | none => s
    | some r => { s with agent := receive s.agent r, pending := none }
  | .lose => { s with pending := none }

/-- Where the agent's etag is the server's, the agent runs what the server has assigned. -/
def Coherent (s : AiProtocol) : Prop :=
  s.agent.etag = s.server.etag →
    ∀ spec, (∃ j ∈ s.agent.jobs, j.spec = spec) ↔ spec ∈ s.server.assignmentsForNode s.node

/-- The step is none of those that lose the agreement: Redis keeps answering; a node that joins is
given no camera at once; and an answer to a poll that is no list of assignments leaves the agent
alone, or finds it without the current etag. -/
def admitted (s : AiProtocol) : ProtoAct → Bool
  | .server (.redis up) => up
  | .join nodes => ((s.server.join nodes).assignmentsForNode s.node).isEmpty
  | .deliver =>
    match s.pending with
    | some ⟨.poll, answer⟩ =>
      answer.wellFormed || s.agent.unaffected CameraPipeline.builds answer ||
        s.agent.etag != s.server.etag
    | _ => true
  | _ => true

end AiProtocol

/-! ## What the server's steps do to the etag -/

namespace AiServer

/-- The counter behind the etag. -/
def count (s : AiServer) : Nat := s.sched.store.etag.getD 0

theorem etag_of_up {s : AiServer} (h : s.sched.store.redisUp = true) :
    s.etag = .str (toString s.count) := by
  rw [etag, EtagStore.currentEtag_of_up h, count]

/-- The specs of a node depend on the assignments in the rows and the configurations. -/
theorem assignmentsForNode_eq (s : AiServer) (node : Nat) :
    s.assignmentsForNode node =
      ((s.sched.rows.rows.map Assignment.issue).filter fun i => i.nodeId == node).filterMap fun i =>
        (s.configs i.cameraId).map (jobSpec i.cameraId i.epoch) := by
  rw [List.filter_map, List.filterMap_map]
  rfl

/-- The server goes on while Redis answers: the counter does not go back, and where it stands still
the specs of every node are the same. -/
structure Advances (s s' : AiServer) : Prop where
  up : s'.sched.store.redisUp = true
  mono : s.count ≤ s'.count
  specs : s'.count = s.count → ∀ node, s'.assignmentsForNode node = s.assignmentsForNode node

section
variable {s : AiServer}

/-- A step that leaves the counter and the assignments alone. -/
theorem Advances.of_issues {sched : AiSched} (hup : s.sched.store.redisUp = true)
    (hstore : sched.store = s.sched.store)
    (hrows : sched.rows.rows.map Assignment.issue = s.sched.rows.rows.map Assignment.issue) :
    Advances s ⟨sched, s.configs⟩ where
  up := by rw [hstore]; exact hup
  mono := by simp [count, hstore]
  specs := fun _ node => by rw [assignmentsForNode_eq, assignmentsForNode_eq, hrows]

/-- A step that bumps the counter. -/
theorem Advances.of_bump {s' : AiServer} (hup : s.sched.store.redisUp = true)
    (hstore : s'.sched.store = s.sched.store.bumpEtag) : Advances s s' where
  up := by rw [hstore]; simp [EtagStore.bumpEtag, hup]
  mono := by simp [count, hstore, EtagStore.bumpEtag, hup]
  specs := fun h => by simp [count, hstore, EtagStore.bumpEtag, hup] at h

theorem Advances.trans {s' s'' : AiServer} (h : Advances s s') (h' : Advances s' s'') :
    Advances s s'' where
  up := h'.up
  mono := h.mono.trans h'.mono
  specs := fun he node => by
    have hm := h.mono
    have hm' := h'.mono
    rw [h'.specs (by omega) node, h.specs (by omega) node]

/-- A rebalance bumps the counter when it changes a row. -/
theorem advances_rebalance (hup : s.sched.store.redisUp = true) :
    Advances s ⟨s.sched.rebalance.1, s.configs⟩ := by
  have hstore : s.sched.rebalance.1.store = if (rewrite (fun _ => true)
      ((AiNode.schedulable s.sched.nodes).map AiNode.slot) s.sched.enabledCameraIds
      s.sched.rows).2.isEmpty then s.sched.store else s.sched.store.bumpEtag := rfl
  split at hstore
  · next h =>
    refine .of_issues hup hstore (congrArg (fun t : Assignments => t.rows.map _) ?_)
    exact rewrite_of_changed_nil (List.isEmpty_iff.1 h)
  · exact .of_bump hup hstore

/-- Every action at the server but the loss of Redis. -/
theorem advances_act (builds : Json → Bool) (hup : s.sched.store.redisUp = true) {a : DetectAct}
    (ha : ∀ up, a = .redis up → up = true) :
    Advances s ⟨Detect.act builds s.sched a, s.configs⟩ := by
  cases a with
  | configure => exact .of_issues hup rfl rfl
  | rebalance => exact advances_rebalance hup
  | reassign node =>
    have hmark : Advances s ⟨{ s.sched with
        rows := s.sched.rows.setNodeState node .reassigning }, s.configs⟩ :=
      .of_issues hup rfl (issues_setNodeState node .reassigning)
    exact hmark.trans (advances_rebalance hmark.up)
  | pin => exact .of_bump hup rfl
  | redis up =>
    have hsame : (⟨Detect.act builds s.sched (.redis up), s.configs⟩ : AiServer) = s := by
      rw [ha up rfl, ← hup]
      rfl
    rw [hsame]
    exact .of_issues hup rfl rfl
  | report =>
    refine .of_issues hup ?_ (Detect.issues_report ..)
    simp only [Detect.act]
    split <;> rfl

theorem advances_join (hup : s.sched.store.redisUp = true) (nodes : Table AiNode.id) :
    Advances s (s.join nodes) :=
  have hnodes : Advances s ⟨{ s.sched with nodes }, s.configs⟩ := .of_issues hup rfl rfl
  hnodes.trans (advances_rebalance hup)

end

end AiServer

/-! ## What the agent makes of a list of assignments -/

/-- A pipeline can be built for every spec of the server. -/
theorem CameraPipeline.builds_jobSpec (cameraId epoch : Nat) (c : JobConfig) :
    CameraPipeline.builds (jobSpec cameraId epoch c) = true := by
  have hconf : ∃ q : Rat, (Json.num c.minConfidence).or (.num 35) = .num q := by
    unfold Json.or
    split
    · exact ⟨_, rfl⟩
    · exact ⟨_, rfl⟩
  have hlabels : ((Json.arr (c.labels.map Json.str)).or (.arr [])).iter? =
      some (c.labels.map Json.str) := by
    cases c.labels <;> rfl
  obtain ⟨q, hq⟩ := hconf
  have hall : (c.labels.map Json.str).all Json.hashable = true := by simp [Json.hashable]
  have hz : (Json.obj [("ignore", .arr c.ignoreZones),
      ("include", .arr c.includeZones)]).or .empty =
      .obj [("ignore", .arr c.ignoreZones), ("include", .arr c.includeZones)] := rfl
  have h1 : (jobSpec cameraId epoch c).getD? "min_confidence" (.num 35) =
      some (.num c.minConfidence) := rfl
  have h2 : (jobSpec cameraId epoch c).getD? "target_fps" (.num 5) = some (.num c.targetFps) := rfl
  have h3 : (jobSpec cameraId epoch c).get? "labels" =
      some (.arr (c.labels.map Json.str)) := rfl
  have h4 : (jobSpec cameraId epoch c).get? "zones" =
      some (.obj [("ignore", .arr c.ignoreZones), ("include", .arr c.includeZones)]) := rfl
  have h5 : (jobSpec cameraId epoch c).index? "rtsp_url" = some (.str c.rtspUrl) := rfl
  simp only [builds, h1, h2, h3, h4, h5, hq, hlabels, hall, hz, Option.isSome_some, Bool.and_self]

/-- The jobs of the wanted dictionary are those it was made of, when their keys are distinct. -/
theorem Jobs.foldl_put_rows (l : List Job) (t : Jobs)
    (h : ((t.rows ++ l).map Job.cameraId).Nodup) : (l.foldl Jobs.put t).rows = t.rows ++ l := by
  induction l generalizing t with
  | nil => simp
  | cons job l ih =>
    have hnew : ∀ x ∈ t, x.cameraId ≠ job.cameraId := by
      intro x hx
      rw [List.map_append, List.nodup_append] at h
      exact h.2.2 _ (List.mem_map_of_mem hx) _ (.head _)
    have hput : (t.put job).rows = t.rows ++ [job] := by
      rw [Jobs.put, Table.get?_eq_none.2 hnew]
      exact Table.rows_insert hnew
    rw [List.foldl_cons, ih _ (by rw [hput]; simpa using h), hput]
    simp

/-- The agent's dictionary of the specs that jobs were made from. -/
theorem want_of_jobs {l : List Job} (hl : (l.map Job.cameraId).Nodup)
    (hs : ∀ j ∈ l, Job.ofSpec j.spec = some j) :
    ∃ wanted, want (.arr (l.map Job.spec)) = some wanted ∧ wanted.rows = l := by
  have hmap : (l.map Job.spec).mapM Job.ofSpec = some l := by
    clear hl
    induction l with
    | nil => rfl
    | cons j l ih =>
      rw [List.map_cons, List.mapM_cons, hs j (.head _), ih fun x hx => hs x (.tail _ hx)]
      rfl
  refine ⟨l.foldl Jobs.put ∅, ?_, Jobs.foldl_put_rows l ∅ hl⟩
  simp [want, Json.iter?, hmap]

namespace AiServer

/-- The jobs a node is to run, as an agent files them. -/
def jobsForNode (s : AiServer) (node : Nat) : List Job :=
  (s.sched.rows.rows.filter fun a => a.nodeId == node).filterMap fun a =>
    (s.configs a.cameraId).map fun c => ⟨.num a.cameraId, jobSpec a.cameraId a.epoch c⟩

theorem spec_jobsForNode (s : AiServer) (node : Nat) :
    (s.jobsForNode node).map Job.spec = s.assignmentsForNode node := by
  rw [jobsForNode, List.map_filterMap, assignmentsForNode]
  refine List.filterMap_congr fun a _ => ?_
  rw [Option.map_map]
  rfl

theorem mem_jobsForNode {s : AiServer} {node : Nat} {j : Job} (h : j ∈ s.jobsForNode node) :
    Job.ofSpec j.spec = some j ∧ CameraPipeline.builds j.spec = true := by
  obtain ⟨a, -, ha⟩ := List.mem_filterMap.1 h
  obtain ⟨c, -, rfl⟩ := Option.map_eq_some_iff.1 ha
  exact ⟨rfl, CameraPipeline.builds_jobSpec _ _ _⟩

/-- The jobs of a node are for different cameras. -/
theorem nodup_jobsForNode (s : AiServer) (node : Nat) :
    ((s.jobsForNode node).map Job.cameraId).Nodup := by
  have hrows : s.sched.rows.rows.Pairwise fun a b => a.cameraId ≠ b.cameraId :=
    List.pairwise_map.1 s.sched.rows.nodup
  rw [List.Nodup, List.pairwise_map, jobsForNode, List.pairwise_filterMap]
  refine (hrows.filter _).imp fun hne j hj j' hj' he => hne ?_
  obtain ⟨c, -, rfl⟩ := Option.map_eq_some_iff.1 hj
  obtain ⟨c', -, rfl⟩ := Option.map_eq_some_iff.1 hj'
  simpa using he

end AiServer

/-- The answer to a poll that lists the assignments of a node in a state of the server. -/
def AiServer.listing (s : AiServer) (node : Nat) (etag : Json) : Answer :=
  success (.obj [("etag", etag), ("items", .arr (s.assignmentsForNode node))])

/-- After a list of assignments the agent has its etag and runs exactly its specs. -/
theorem NodeAgent.poll_listing (agent : NodeAgent) (s : AiServer) (node : Nat) (etag : Json) :
    (agent.poll CameraPipeline.builds (s.listing node etag)).1.etag = etag ∧
      ∀ spec, (∃ j ∈ (agent.poll CameraPipeline.builds (s.listing node etag)).1.jobs,
        j.spec = spec) ↔ spec ∈ s.assignmentsForNode node := by
  have hpoll : (agent.poll CameraPipeline.builds (s.listing node etag)).1 =
      ⟨etag, (applySpecs CameraPipeline.builds agent.jobs
        (.arr (s.assignmentsForNode node))).1⟩ := rfl
  obtain ⟨wanted, hw, hrows⟩ := want_of_jobs (s.nodup_jobsForNode node)
    fun j hj => (AiServer.mem_jobsForNode hj).1
  rw [AiServer.spec_jobsForNode] at hw
  have hget : ∀ k, (applySpecs CameraPipeline.builds agent.jobs
      (.arr (s.assignmentsForNode node))).1.get? k = wanted.get? k :=
    applySpecs_get? hw fun j hj =>
      (AiServer.mem_jobsForNode (hrows ▸ hj : j ∈ s.jobsForNode node)).2
  have hspecs : ∀ spec, spec ∈ s.assignmentsForNode node ↔ ∃ j ∈ wanted, j.spec = spec := by
    intro spec
    rw [← AiServer.spec_jobsForNode, List.mem_map, ← hrows]
    rfl
  rw [hpoll]
  refine ⟨rfl, fun spec => (exists_congr fun j => ?_).trans (hspecs spec).symm⟩
  exact and_congr_left fun _ => Table.mem_congr hget

/-! ## Agreement -/

namespace AiProtocol

/-- The etag is none, or a value the counter has had. -/
def Known (s : AiServer) (e : Json) : Prop := e = .null ∨ ∃ k ≤ s.count, e = .str (toString k)

/-- What holds of an answer on its way: a join brings a past etag to an agent that runs nothing, and
the current one only if nothing is assigned; a poll brings a list of assignments with a past etag,
the current list if it is the current one, or nothing that changes the etag. -/
def ReplyOk (s : AiProtocol) (r : Reply) : Prop :=
  match r.request with
  | .heartbeat => True
  | .join =>
    s.agent.jobs.rows = [] ∧ ∀ e, r.answer.data.bind (·.get? "assignments_etag") = some e →
      Known s.server e ∧ (e = s.server.etag → s.server.assignmentsForNode s.node = [])
  | .poll =>
    (∃ (srv : AiServer) (e : Json), r.answer = srv.listing s.node e ∧ Known s.server e ∧
      (e = s.server.etag →
        srv.assignmentsForNode s.node = s.server.assignmentsForNode s.node)) ∨
    (r.answer.wellFormed = false ∧
      ∀ (agent : NodeAgent) p, agent.decode r.answer = some p → p.1 = agent.etag)

/-- The agreement of server and agent. -/
structure EtagOk (s : AiProtocol) : Prop where
  up : s.server.sched.store.redisUp = true
  known : Known s.server s.agent.etag
  coherent : s.Coherent
  pending : ∀ r, s.pending = some r → ReplyOk s r

section
variable {s : AiProtocol}

theorem Known.mono {srv srv' : AiServer} (h : srv.Advances srv') {e : Json} (he : Known srv e) :
    Known srv' e :=
  he.imp_right fun ⟨k, hk, hek⟩ => ⟨k, hk.trans h.mono, hek⟩

/-- A past etag is the current one only while the counter stands still. -/
theorem Known.count_eq {srv srv' : AiServer} (h : srv.Advances srv') {e : Json} (he : Known srv e)
    (hcur : e = srv'.etag) : srv'.count = srv.count := by
  rw [AiServer.etag_of_up h.up] at hcur
  rcases he with rfl | ⟨k, hk, rfl⟩
  · cases hcur
  · rw [Json.str.injEq, toString_nat_inj] at hcur
    have := h.mono
    omega

/-- The server goes on. -/
theorem EtagOk.server (h : EtagOk s) {srv : AiServer} (hadv : s.server.Advances srv) :
    EtagOk { s with server := srv } := by
  have hsame : ∀ e, Known s.server e → e = srv.etag → e = s.server.etag ∧
      srv.assignmentsForNode s.node = s.server.assignmentsForNode s.node := by
    intro e he hcur
    have hcount := he.count_eq hadv hcur
    refine ⟨?_, hadv.specs hcount _⟩
    rw [hcur, AiServer.etag_of_up hadv.up, AiServer.etag_of_up h.up, hcount]
  refine ⟨hadv.up, h.known.mono hadv, fun hcur spec => ?_, fun r hr => ?_⟩
  · obtain ⟨hold, hspecs⟩ := hsame _ h.known hcur
    exact (h.coherent hold spec).trans (by rw [hspecs])
  · have hok := h.pending r hr
    unfold ReplyOk at hok ⊢
    split
    · trivial
    · next hreq =>
      rw [hreq] at hok
      refine ⟨hok.1, fun e he => ?_⟩
      obtain ⟨hk, hnil⟩ := hok.2 e he
      refine ⟨hk.mono hadv, fun hcur => ?_⟩
      obtain ⟨hold, hspecs⟩ := hsame e hk hcur
      exact hspecs.trans (hnil hold)
    · next hreq =>
      rw [hreq] at hok
      rcases hok with ⟨old, e, ha, hk, hlist⟩ | hok
      · refine .inl ⟨old, e, ha, hk.mono hadv, fun hcur => ?_⟩
        obtain ⟨hold, hspecs⟩ := hsame e hk hcur
        exact (hlist hold).trans hspecs.symm
      · exact .inr hok

/-- A process of the agent starts. -/
theorem EtagOk.started (h : EtagOk s) : EtagOk s.started where
  up := h.up
  known := .inl rfl
  coherent := fun hcur => by
    have hcur' : Json.null = s.server.etag := hcur
    rw [AiServer.etag_of_up h.up] at hcur'
    cases hcur'
  pending := fun r hr => by cases hr

/-- A request is answered. -/
theorem EtagOk.answered (h : EtagOk s) {r : Request} {answer : Answer}
    (hr : ReplyOk s ⟨r, answer⟩) : EtagOk (s.answered r answer) := by
  unfold AiProtocol.answered
  split
  · refine ⟨h.up, h.known, h.coherent, fun r' hr' => ?_⟩
    cases hr'
    exact hr
  · exact h

theorem known_etag (h : s.server.sched.store.redisUp = true) : Known s.server s.server.etag :=
  .inr ⟨_, le_refl _, AiServer.etag_of_up h⟩

theorem null_ne_etag (h : s.server.sched.store.redisUp = true) : Json.null ≠ s.server.etag := by
  rw [AiServer.etag_of_up h]
  exact Json.noConfusion

/-- An error answer is no list of assignments and brings no etag. -/
theorem error_harmless (status : Nat) (message : Option String) :
    (AiServer.error status message).wellFormed = false ∧
      ∀ (agent : NodeAgent) p, agent.decode (AiServer.error status message) = some p →
        p.1 = agent.etag := by
  cases message with
  | none =>
    refine ⟨?_, fun agent p hp => ?_⟩
    · simp only [AiServer.error, Option.map_none, Answer.wellFormed]
    · unfold NodeAgent.decode at hp
      split at hp <;> cases hp
  | some m =>
    refine ⟨?_, fun agent p hp => ?_⟩
    · unfold Answer.wellFormed
      split
      · next h => cases h; rfl
      · rfl
    · unfold NodeAgent.decode at hp
      split at hp
      · cases hp
      · cases hp
      · cases hp; rfl

/-- The answer to a poll that is no list of assignments does not change the etag. -/
theorem poll_etag {builds : Json → Bool} {agent : NodeAgent} {answer : Answer}
    (h : ∀ p, agent.decode answer = some p → p.1 = agent.etag) :
    (agent.poll builds answer).1.etag = agent.etag := by
  unfold NodeAgent.poll NodeAgent.pollAssignments
  cases hd : agent.decode answer with
  | none => rfl
  | some p =>
    have hp := h p hd
    dsimp only
    split <;> exact hp

/-- The agent gets an answer that an admitted step delivers. -/
theorem EtagOk.receive (h : EtagOk s) {r : Reply} (hr : s.pending = some r)
    (hadm : admitted s .deliver = true) :
    EtagOk { s with agent := AiProtocol.receive s.agent r, pending := none } := by
  have hok := h.pending r hr
  obtain ⟨req, answer⟩ := r
  cases req with
  | heartbeat =>
    unfold AiProtocol.receive
    dsimp only
    unfold NodeAgent.heartbeat
    split
    · exact ⟨h.up, h.known, h.coherent, fun r' hr' => nomatch hr'⟩
    · split
      · exact ⟨h.up, .inl rfl, fun hcur => absurd hcur (null_ne_etag h.up),
          fun r' hr' => nomatch hr'⟩
      · exact ⟨h.up, h.known, h.coherent, fun r' hr' => nomatch hr'⟩
  | join =>
    obtain ⟨hjobs, hetag⟩ := hok
    unfold AiProtocol.receive
    dsimp only
    unfold NodeAgent.join
    split
    · exact ⟨h.up, h.known, h.coherent, fun r' hr' => nomatch hr'⟩
    · next e he =>
      obtain ⟨hk, hnil⟩ := hetag e he
      refine ⟨h.up, hk, fun hcur spec => ?_, fun r' hr' => nomatch hr'⟩
      have hnone : s.server.assignmentsForNode s.node = [] := hnil hcur
      refine iff_of_false ?_ (by rw [hnone]; exact List.not_mem_nil)
      rintro ⟨j, hj, -⟩
      have hj' : j ∈ s.agent.jobs.rows := hj
      rw [hjobs] at hj'
      cases hj'
  | poll =>
    rcases hok with ⟨srv, e, rfl, hk, hlist⟩ | ⟨hwf, hetag⟩
    · obtain ⟨hetag, hspecs⟩ := s.agent.poll_listing srv s.node e
      refine ⟨h.up, ?_, fun hcur spec => ?_, fun r' hr' => nomatch hr'⟩
      · exact hetag.symm ▸ hk
      · exact (hspecs spec).trans (by rw [hlist (hetag.symm.trans hcur)])
    · have hsame : (s.agent.poll CameraPipeline.builds answer).1.etag = s.agent.etag :=
        poll_etag (hetag s.agent)
      refine ⟨h.up, ?_, fun hcur spec => ?_, fun r' hr' => nomatch hr'⟩
      · exact hsame.symm ▸ h.known
      · -- the agent holds the current etag, so the answer does not affect it
        have hcur' : s.agent.etag = s.server.etag := hsame.symm.trans hcur
        simp only [admitted, hr, hwf, Bool.false_or, Bool.or_eq_true, bne_iff_ne, hcur', ne_eq,
          not_true_eq_false, or_false] at hadm
        have hjobs := ((NodeAgent.poll_same_iff _ _ _).2 hadm).2
        refine Iff.trans (exists_congr fun j => ?_) (h.coherent hcur' spec)
        exact and_congr_left fun _ => Table.mem_congr hjobs

/-- An admitted step keeps the agreement. -/
theorem EtagOk.step {builds : Json → Bool} (h : EtagOk s) {a : ProtoAct}
    (hadm : admitted s a = true) : EtagOk (s.step builds a) := by
  have hnodes : ∀ nodes, EtagOk { s with server.sched.nodes := nodes } :=
    fun nodes => h.server (.of_issues h.up rfl rfl)
  cases a with
  | server a =>
    exact h.server (AiServer.advances_act builds h.up fun up hup => by subst hup; exact hadm)
  | edit configs => exact h.server (.of_bump h.up rfl)
  | start => exact h.started
  | join nodes =>
    have hjoin := (h.server (AiServer.advances_join h.up nodes)).started
    refine hjoin.answered ⟨rfl, fun e he => ?_⟩
    obtain rfl : (s.server.join nodes).etag = e := Option.some.inj he
    exact ⟨known_etag hjoin.up, fun _ => List.isEmpty_iff.1 hadm⟩
  | poll =>
    refine h.answered ?_
    unfold AiServer.assignments
    split
    · exact .inr ⟨rfl, fun _ _ hp => nomatch hp⟩
    · exact .inl ⟨s.server, s.server.etag, rfl, known_etag h.up, fun _ => rfl⟩
  | heartbeat nodes => exact (hnodes nodes).answered trivial
  | refuse r status message =>
    cases r with
    | join =>
      refine h.started.answered ⟨rfl, fun e he => ?_⟩
      obtain rfl : Json.null = e := by
        cases message with
        | none => cases he
        | some m => exact Option.some.inj he
      exact ⟨.inl rfl, fun hcur => absurd hcur (null_ne_etag h.started.up)⟩
    | poll => exact h.answered (.inr (error_harmless status message))
    | heartbeat => exact h.answered trivial
  | deliver =>
    unfold AiProtocol.step
    dsimp only
    split
    · exact h
    · next r hr => exact h.receive hr hadm
  | lose => exact ⟨h.up, h.known, h.coherent, fun _ hr => nomatch hr⟩

end

/-- **The etag stands for the assignments.** In every run of server actions, edits, starts of the
agent, requests, errors and losses, in any order, all of whose steps are admitted: whenever the
agent's etag is the server's, the agent runs exactly the specs the server has assigned to it, so a
poll that is answered with `304` hides nothing. -/
theorem etag_coherent {builds : Json → Bool} {s t : AiProtocol} {as : List ProtoAct}
    (hup : s.server.sched.store.redisUp = true) (hagent : s.agent = .fresh)
    (hpending : s.pending = none)
    (h : Run (step builds) (fun s a => admitted s a = true) s as t) :
    t.Coherent ∧ (t.server.assignments t.node t.agent.etag = .response 304 none →
      ∀ spec, (∃ j ∈ t.agent.jobs, j.spec = spec) ↔
        spec ∈ t.server.assignmentsForNode t.node) := by
  have hstart : EtagOk s := by
    refine ⟨hup, .inl (by rw [hagent]; rfl), fun hcur => ?_, fun r hr => ?_⟩
    · rw [hagent] at hcur
      exact absurd hcur (null_ne_etag hup)
    · rw [hpending] at hr
      cases hr
  have hok : EtagOk t := h.invariant (fun _ _ hi ha => hi.step ha) hstart
  refine ⟨hok.coherent, fun h304 => hok.coherent ?_⟩
  unfold AiServer.assignments at h304
  split at h304
  · assumption
  · cases h304

namespace Fixture

def nodes : Table AiNode.id := ⟨[⟨10, .online, true, false, 2, 0, none⟩], List.nodup_singleton _⟩

/-- One camera to run; node 10 is known. -/
def start : AiProtocol where
  server :=
    { sched :=
        { cameras := ⟨[⟨1, "a", "gate", true, none⟩], List.nodup_singleton _⟩
          settings := []
          nodes
          rows := ∅
          store := ⟨none, true⟩ }
      configs := fun c => if c = 1 then
          some ⟨"gate", "yolo11n", 640, 5, 35, ["person"], [], [], true, false, 1000, "rtsp://gate"⟩
        else none }
  node := 10
  agent := .fresh
  pending := none

def builds (_ : Json) : Bool := true

/-- The camera is assigned, and the agent fetches and applies the assignment; then it asks again. -/
def fetch : List ProtoAct := [.start, .server .rebalance, .poll, .deliver, .poll, .deliver]

/-- The node joins, and gets the camera in the same request. -/
def joins : List ProtoAct := [.join nodes, .deliver]

/-- A poll after the camera was fetched is answered with an error. -/
def refused : List ProtoAct :=
  fetch ++ [.refuse .poll 403 (some "node_token_superseded"), .deliver]

end Fixture

/-- The agent that fetches an assignment has the current etag and runs the one camera. -/
theorem etag_coherent_fetch :
    let t := Fixture.fetch.foldl (step Fixture.builds) Fixture.start
    Run (step Fixture.builds) (fun s a => admitted s a = true) Fixture.start Fixture.fetch t ∧
      t.agent.etag = t.server.etag ∧ t.agent.jobs.rows.length = 1 ∧ t.Coherent :=
  have hrun : Run (step Fixture.builds) (fun s a => admitted s a = true) Fixture.start
      Fixture.fetch _ := Run.of_admits (by decide)
  ⟨hrun, by decide, by decide, (etag_coherent rfl rfl rfl hrun).1⟩

/-- The answer to a join brings the current etag and no specs, so the camera that the join itself
assigned is never run: the polls that follow are answered with `304`. An error in place of an answer
stops what runs and leaves the current etag. -/
theorem etag_without_specs :
    (let t := Fixture.joins.foldl (step Fixture.builds) Fixture.start;
      ¬ t.Coherent ∧ t.agent.jobs.rows = [] ∧ (t.server.assignmentsForNode t.node).length = 1 ∧
        t.server.assignments t.node t.agent.etag = .response 304 none) ∧
    ¬ Coherent (Fixture.refused.foldl (step Fixture.builds) Fixture.start) := by
  have hlost : ∀ t : AiProtocol, t.agent.etag = t.server.etag → t.agent.jobs.rows = [] →
      (t.server.assignmentsForNode t.node).length = 1 → ¬ t.Coherent := by
    intro t hetag hjobs hlen h
    obtain ⟨spec, hspec⟩ := List.length_eq_one_iff.1 hlen
    obtain ⟨j, hj, -⟩ := (h hetag spec).2 (by rw [hspec]; exact .head _)
    have hj' : j ∈ t.agent.jobs.rows := hj
    rw [hjobs] at hj'
    cases hj'
  refine ⟨⟨hlost _ ?_ ?_ ?_, ?_, ?_, ?_⟩, hlost _ ?_ ?_ ?_⟩ <;> decide

end AiProtocol

end AeroXProtect
