import AeroXProtect.Agent.Etag
import AeroXProtect.Agent.Tracker
import AeroXProtect.Lib.Run
import Mathlib.Data.List.Pairwise
import Mathlib.Data.Set.Function

/-!
# The keys of the objects of a session

A detector node has one session for as long as it runs, and a pipeline for each camera that it was
assigned. The key of an object is made of the session, the camera and a number that the pipeline's
tracker counts; a pipeline that is started again has a new tracker, which counts from one again.
`DetectorAgent` keeps all pipelines that were started, as a stopped one finishes the frame it is at,
and the objects that their trackers created. `poll_agent` connects it with the agent of
`AeroXProtect.Agent.Poll`, and `track_keys_iff` says in which runs the keys differ: those in which
all objects of a camera come from one pipeline.
-/

open Lib

namespace AeroXProtect

/-- A pipeline that was started, with its tracker; `busy` is set while its thread is at a frame. -/
structure CameraPipeline where
  job : Job
  tracker : Tracker
  running : Bool
  busy : Bool

/-- Source: `CameraPipeline.apply` (`worker/detector/camera_pipeline.py:26`), called by the
constructor, and `CameraPipeline.start`; `str` is the text of a camera's id. -/
def CameraPipeline.start (str : Json → String) (session : String) (job : Job) : CameraPipeline where
  job := job
  tracker := .init session (str job.cameraId) (3 / 10) 2000
  running := true
  busy := false

/-- All pipelines that an agent has started, the oldest first. The ones that run are in its
dictionary, each under another camera. -/
structure Pipelines where
  started : List CameraPipeline
  nodup : (((started.filter CameraPipeline.running).map CameraPipeline.job).map Job.cameraId).Nodup

namespace Pipelines

/-- The `pipelines` dictionary. -/
def jobs (ps : Pipelines) : Jobs := ⟨_, ps.nodup⟩

theorem running_stop (l : List CameraPipeline) (cameraId : Json) :
    ((l.map fun p => if p.job.cameraId = cameraId then { p with running := false } else p).filter
        CameraPipeline.running).map CameraPipeline.job =
      ((l.filter CameraPipeline.running).map CameraPipeline.job).filter
        fun j => !decide (j.cameraId = cameraId) := by
  induction l with
  | nil => rfl
  | cons p l ih =>
    rw [List.map_cons, List.filter_cons, List.filter_cons]
    by_cases hid : p.job.cameraId = cameraId <;> cases hr : p.running <;> simp [hid, hr, ih]

/-- `self.pipelines.pop(cameraId).stop()` -/
def stop (ps : Pipelines) (cameraId : Json) : Pipelines where
  started := ps.started.map fun p =>
    if p.job.cameraId = cameraId then { p with running := false } else p
  nodup := by
    rw [running_stop]
    exact ps.nodup.sublist (List.filter_sublist.map _)

theorem jobs_stop (ps : Pipelines) (cameraId : Json) :
    (ps.stop cameraId).jobs = ps.jobs.pop cameraId :=
  Table.eq_of_rows (running_stop ps.started cameraId)

section
variable (str : Json → String) (session : String)

/-- A pipeline is started after what ran for its camera was stopped. -/
def start (ps : Pipelines) (job : Job) : Pipelines where
  started := (ps.stop job.cameraId).started ++ [.start str session job]
  nodup := by
    rw [List.filter_append, List.map_append, List.map_append, List.nodup_append]
    refine ⟨(ps.stop job.cameraId).nodup, List.nodup_singleton _, ?_⟩
    intro a ha b hb
    obtain rfl : b = job.cameraId := by simpa [CameraPipeline.start] using hb
    obtain ⟨j, hj, rfl⟩ := List.mem_map.1 ha
    rw [stop, running_stop] at hj
    simpa using (List.mem_filter.1 hj).2

theorem jobs_start (ps : Pipelines) (job : Job) :
    (ps.start str session job).jobs = (ps.jobs.pop job.cameraId).insert job := by
  refine Table.eq_of_rows ?_
  rw [Table.rows_insert, ← jobs_stop]
  · change (((ps.stop job.cameraId).started ++ [CameraPipeline.start str session job]).filter
      CameraPipeline.running).map CameraPipeline.job = _
    rw [List.filter_append, List.map_append]
    rfl
  · intro j hj
    simpa using (Table.mem_delete.1 hj).2

/-- The loops that start what is listed; a construction that raises ends them. -/
def startAll (ps : Pipelines) : List Job → Pipelines × Bool
  | [] => (ps, true)
  | job :: rest =>
    if CameraPipeline.builds job.spec then startAll (ps.start str session job) rest
    else (ps.stop job.cameraId, false)

/-- Source: `NodeAgent.apply_specs` (`worker/detector/node_agent.py:115`). -/
def applySpecs (ps : Pipelines) (specs : Json) : Pipelines × Bool :=
  match want specs with
  | none => (ps, false)
  | some wanted =>
    let changes := reconcile wanted ps.jobs
    match startAll str session (changes.toStop.foldl stop ps) changes.toUpdate with
    | (updated, false) => (updated, false)
    | (updated, true) => startAll str session updated changes.toStart

variable {str session}

theorem jobs_startAll (l : List Job) (ps : Pipelines) :
    ((ps.startAll str session l).1.jobs, (ps.startAll str session l).2) =
      AeroXProtect.startAll CameraPipeline.builds ps.jobs l := by
  induction l generalizing ps with
  | nil => rfl
  | cons job l ih =>
    unfold startAll AeroXProtect.startAll
    split
    · rw [ih, jobs_start]
    · rw [jobs_stop]

theorem jobs_foldl_stop (l : List Json) (ps : Pipelines) :
    (l.foldl stop ps).jobs = l.foldl Jobs.pop ps.jobs := by
  induction l generalizing ps with
  | nil => rfl
  | cons k l ih => rw [List.foldl_cons, ih, jobs_stop, List.foldl_cons]

/-- Applying specs changes the dictionary as it does for any agent. -/
theorem jobs_applySpecs (str : Json → String) (session : String) (ps : Pipelines) (specs : Json) :
    ((ps.applySpecs str session specs).1.jobs, (ps.applySpecs str session specs).2) =
      AeroXProtect.applySpecs CameraPipeline.builds ps.jobs specs := by
  unfold applySpecs AeroXProtect.applySpecs
  cases want specs with
  | none => rfl
  | some wanted =>
    dsimp only
    rw [← jobs_foldl_stop, ← jobs_startAll]
    cases hup : startAll str session ((reconcile wanted ps.jobs).toStop.foldl stop ps)
        (reconcile wanted ps.jobs).toUpdate with
    | mk updated ok =>
      cases ok with
      | false => rfl
      | true => exact jobs_startAll _ updated

end

/-- A change of a pipeline that neither starts nor stops it. -/
def modify (ps : Pipelines) (i : Nat) (f : CameraPipeline → CameraPipeline)
    (hjob : ∀ p, (f p).job = p.job) (hrunning : ∀ p, (f p).running = p.running) : Pipelines where
  started := ps.started.modify i f
  nodup := by
    have h : ∀ (l : List CameraPipeline) i, ((l.modify i f).filter CameraPipeline.running).map
        CameraPipeline.job = (l.filter CameraPipeline.running).map CameraPipeline.job := by
      intro l
      induction l with
      | nil => intro i; rw [List.modify_nil]
      | cons p l ih =>
        intro i
        cases i with
        | zero => cases hp : p.running <;> simp [hrunning, hjob, hp]
        | succ i => cases hp : p.running <;> simp [hp, ih]
    rw [h]
    exact ps.nodup

/-- The trackers of all pipelines, each with its camera. -/
def trackers (ps : Pipelines) : List (Json × Tracker) :=
  ps.started.map fun p => (p.job.cameraId, p.tracker)

section
variable {str : Json → String} {session : String} (ps : Pipelines)

theorem trackers_stop (cameraId : Json) : (ps.stop cameraId).trackers = ps.trackers := by
  unfold trackers stop
  rw [List.map_map]
  refine List.map_congr_left fun p _ => ?_
  rw [Function.comp_apply]
  split <;> rfl

theorem trackers_start (job : Job) : (ps.start str session job).trackers =
    ps.trackers ++ [(job.cameraId, .init session (str job.cameraId) (3 / 10) 2000)] := by
  rw [← trackers_stop ps job.cameraId]
  exact List.map_append

theorem trackers_foldl_stop (l : List Json) : (l.foldl stop ps).trackers = ps.trackers :=
  List.foldlRecOn (motive := fun qs : Pipelines => qs.trackers = ps.trackers) _ _ rfl
    fun qs h k _ => (trackers_stop qs k).trans h

/-- A new pipeline has a new tracker. -/
theorem trackers_startAll (str : Json → String) (session : String) (l : List Job) :
    ∃ new : List Json, (ps.startAll str session l).1.trackers = ps.trackers ++
      new.map fun k => (k, .init session (str k) (3 / 10) 2000) := by
  induction l generalizing ps with
  | nil => exact ⟨[], (List.append_nil _).symm⟩
  | cons job l ih =>
    unfold startAll
    split
    · obtain ⟨new, h⟩ := ih (ps.start str session job)
      refine ⟨job.cameraId :: new, ?_⟩
      rw [h, trackers_start, List.append_assoc, List.map_cons, List.singleton_append]
    · exact ⟨[], by rw [trackers_stop, List.map_nil, List.append_nil]⟩

/-- Whatever an answer lists, the trackers that there are stay, and new ones follow. -/
theorem trackers_applySpecs (specs : Json) : ∃ new : List Json,
    (ps.applySpecs str session specs).1.trackers = ps.trackers ++
      new.map fun k => (k, .init session (str k) (3 / 10) 2000) := by
  unfold applySpecs
  split
  · exact ⟨[], (List.append_nil _).symm⟩
  · next wanted _ =>
    obtain ⟨new, hup⟩ := trackers_startAll
      ((reconcile wanted ps.jobs).toStop.foldl stop ps) str session
      (reconcile wanted ps.jobs).toUpdate
    rw [trackers_foldl_stop] at hup
    dsimp only
    split
    · next updated h =>
      rw [h] at hup
      exact ⟨new, hup⟩
    · next updated h =>
      rw [h] at hup
      obtain ⟨new', hst⟩ := trackers_startAll updated str session
        (reconcile wanted ps.jobs).toStart
      exact ⟨new ++ new', by rw [hst, hup, List.append_assoc, List.map_append]⟩

theorem trackers_modify {i : Nat} {f : CameraPipeline → CameraPipeline}
    {hjob : ∀ p, (f p).job = p.job} {hrunning : ∀ p, (f p).running = p.running}
    (j : Nat) : (ps.modify i f hjob hrunning).trackers[j]? =
      (ps.started[j]?).map fun p =>
        (p.job.cameraId, if i = j then (f p).tracker else p.tracker) := by
  unfold trackers modify
  rw [List.getElem?_map, List.getElem?_modify]
  cases ps.started[j]? with
  | none => rfl
  | some p => by_cases hij : i = j <;> simp [hij, hjob]

end

end Pipelines

/-! ## The agent -/

/-- An object that a pipeline's tracker created; the pipeline is given by its position. -/
structure Made where
  pipeline : Nat
  cameraId : Json
  object : TrackedObject

/-- A detector node: the etag of the assignments that it applied, whether its loop still runs, its
pipelines and the objects of the session. -/
structure DetectorAgent where
  etag : Json
  alive : Bool
  pipelines : Pipelines
  objects : List Made

/-- What happens at a node. A thread `read`s when it begins an iteration of its loop, and is done
with the frame when the tracker was given what was found, if anything was. -/
inductive AgentAction
  | heartbeat (answer : Answer)
  | poll (answer : Answer)
  | read (pipeline : Nat)
  | frame (pipeline : Nat) (found : Option (List Found × Int))

namespace DetectorAgent

/-- A node that has joined. Source: `NodeAgent.__init__` (`worker/detector/node_agent.py:18`). -/
def init (etag : Json) : DetectorAgent := ⟨etag, true, ⟨[], List.nodup_nil⟩, []⟩

/-- The agent with its dictionary. -/
def agent (d : DetectorAgent) : NodeAgent := ⟨d.etag, d.pipelines.jobs⟩

section
variable (md5 : String → String) (str : Json → String) (session : String) (d : DetectorAgent)

/-- The poll of the supervisor loop, which an exception ends. -/
def poll (answer : Answer) : DetectorAgent :=
  let (self, specs) := d.agent.pollAssignments answer
  if specs = .null then { d with etag := self.etag }
  else
    let (pipelines, ok) := d.pipelines.applySpecs str session specs
    { d with etag := self.etag, pipelines, alive := ok }

/-- The thread of a pipeline that runs begins an iteration. Source: `CameraPipeline._loop`
(`worker/detector/camera_pipeline.py:50`). -/
def read (i : Nat) : DetectorAgent :=
  { d with
    pipelines := d.pipelines.modify i (fun p => { p with busy := p.running || p.busy })
      (fun _ => rfl) fun _ => rfl }

/-- The thread of a pipeline is done with a frame, also if the pipeline was stopped meanwhile. -/
def frame (i : Nat) (found : Option (List Found × Int)) : DetectorAgent :=
  let done := fun tracker : Tracker → Tracker =>
    d.pipelines.modify i (fun p => { p with tracker := tracker p.tracker, busy := false })
      (fun _ => rfl) fun _ => rfl
  match d.pipelines.started[i]?, found with
  | some p, some x =>
    if p.busy then
      { d with
        pipelines := done fun tr => (tr.update md5 x.1 x.2).1
        objects := d.objects ++
          (p.tracker.created md5 x.1 x.2).map fun o => ⟨i, p.job.cameraId, o⟩ }
    else d
  | _, _ => { d with pipelines := done fun tr => tr }

def step : AgentAction → DetectorAgent
  | .heartbeat answer => if d.alive then { d with etag := (d.agent.heartbeat answer).etag } else d
  | .poll answer => if d.alive then d.poll str session answer else d
  | .read i => d.read i
  | .frame i found => d.frame md5 i found

end

/-- The dictionary and the etag are those of an agent that is given the same answer. -/
theorem poll_agent (str : Json → String) (session : String) (d : DetectorAgent) (answer : Answer) :
    (d.poll str session answer).agent = (d.agent.poll CameraPipeline.builds answer).1 := by
  have hjobs : (d.agent.pollAssignments answer).1.jobs = d.pipelines.jobs := by
    unfold NodeAgent.pollAssignments
    split <;> rfl
  unfold poll NodeAgent.poll
  cases hp : d.agent.pollAssignments answer with
  | mk self specs =>
    rw [hp] at hjobs
    dsimp only at hjobs ⊢
    split
    · rw [agent, ← hjobs]
    · rw [hjobs, ← Pipelines.jobs_applySpecs str session]
      rfl

end DetectorAgent

/-! ## The keys -/

/-- The text that a key is the hash of. -/
def Made.text (str : Json → String) (session : String) (o : Made) : String :=
  Tracker.keyText session (str o.cameraId) o.object.localId

namespace DetectorAgent

/-- Two objects of a camera have different keys. -/
def DistinctKeys (d : DetectorAgent) : Prop :=
  d.objects.Pairwise fun o o' => o.cameraId = o'.cameraId → o.object.trackKey ≠ o'.object.trackKey

/-- The pipeline that creates an object is the only one of its camera that has created any. -/
def Alone (d : DetectorAgent) : AgentAction → Prop
  | .frame i (some x) => ∀ p, d.pipelines.started[i]? = some p → p.busy = true →
    p.tracker.unmatched x.1 ≠ [] → ∀ o ∈ d.objects, o.cameraId = p.job.cameraId → o.pipeline = i
  | _ => True

/-- Two objects of a camera have different numbers. -/
def DistinctIds (d : DetectorAgent) : Prop :=
  d.objects.Pairwise fun o o' => o.cameraId = o'.cameraId → o.object.localId ≠ o'.object.localId

/-- What the trackers have counted is what they have created. -/
structure Wf (md5 : String → String) (str : Json → String) (session : String)
    (d : DetectorAgent) : Prop where
  tracker : ∀ x ∈ d.pipelines.trackers,
    x.2.session = session ∧ x.2.cameraId = str x.1 ∧ 1 ≤ x.2.next
  counted : ∀ i x, d.pipelines.trackers[i]? = some x → ∀ n,
    (∃ o ∈ d.objects, o.pipeline = i ∧ o.object.localId = n) ↔ 1 ≤ n ∧ n < x.2.next
  made : ∀ o ∈ d.objects, (∃ tr, d.pipelines.trackers[o.pipeline]? = some (o.cameraId, tr)) ∧
    o.object.trackKey = md5 (o.text str session)

end DetectorAgent

theorem Tracker.keyText_inj {session cameraId : String} {m n : Nat} :
    keyText session cameraId m = keyText session cameraId n ↔ m = n := by
  unfold keyText
  rw [String.append_right_inj]
  exact toString_nat_inj

namespace DetectorAgent

section
variable {md5 : String → String} {str : Json → String} {session : String} {d : DetectorAgent}

/-- A step creates no objects and starts some trackers, or it is a frame. -/
theorem step_cases (md5 : String → String) (str : Json → String) (session : String)
    (d : DetectorAgent) (a : AgentAction) :
    ((d.step md5 str session a).objects = d.objects ∧ d.Alone a ∧
      ∃ new : List Json, (d.step md5 str session a).pipelines.trackers = d.pipelines.trackers ++
        new.map fun k => (k, .init session (str k) (3 / 10) 2000)) ∨
    ∃ i x p, a = .frame i (some x) ∧ d.pipelines.started[i]? = some p ∧ p.busy = true ∧
      (d.step md5 str session a).objects = d.objects ++
        (p.tracker.created md5 x.1 x.2).map (fun o => ⟨i, p.job.cameraId, o⟩) ∧
      ∀ j, (d.step md5 str session a).pipelines.trackers[j]? = (d.pipelines.trackers[j]?).map
        fun y => (y.1, if i = j then (y.2.update md5 x.1 x.2).1 else y.2) := by
  have hsame : ∃ new : List Json, d.pipelines.trackers = d.pipelines.trackers ++
      new.map fun k => (k, .init session (str k) (3 / 10) 2000) := ⟨[], (List.append_nil _).symm⟩
  have hmodify : ∀ i (f : CameraPipeline → CameraPipeline) (hjob : ∀ p, (f p).job = p.job)
      (hrunning : ∀ p, (f p).running = p.running), (∀ p, (f p).tracker = p.tracker) →
      (d.pipelines.modify i f hjob hrunning).trackers = d.pipelines.trackers := by
    intro i f hjob hrunning htracker
    refine List.ext_getElem? fun j => ?_
    rw [Pipelines.trackers_modify, Pipelines.trackers, List.getElem?_map]
    simp only [htracker, ite_self]
  cases a with
  | heartbeat answer =>
    left
    dsimp only [step]
    split <;> exact ⟨rfl, trivial, hsame⟩
  | poll answer =>
    left
    dsimp only [step, poll]
    split
    · split
      · exact ⟨rfl, trivial, hsame⟩
      · exact ⟨rfl, trivial, Pipelines.trackers_applySpecs _ _⟩
    · exact ⟨rfl, trivial, hsame⟩
  | read i =>
    left
    refine ⟨rfl, trivial, ?_⟩
    dsimp only [step, read]
    rw [hmodify]
    · exact hsame
    · exact fun _ => rfl
  | frame i found =>
    dsimp only [step, frame]
    cases hp : d.pipelines.started[i]? with
    | none =>
      refine .inl ⟨rfl, ?_, ?_⟩
      · cases found with
        | none => trivial
        | some x => exact fun p hp' => absurd (hp.symm.trans hp') (Option.some_ne_none p).symm
      · dsimp only
        rw [hmodify]
        · exact hsame
        · exact fun _ => rfl
    | some p =>
      cases found with
      | none =>
        refine .inl ⟨rfl, trivial, ?_⟩
        dsimp only
        rw [hmodify]
        · exact hsame
        · exact fun _ => rfl
      | some x =>
        dsimp only
        split
        · next hbusy =>
          refine .inr ⟨i, x, p, rfl, hp, hbusy, rfl, fun j => ?_⟩
          rw [Pipelines.trackers_modify, Pipelines.trackers, List.getElem?_map, Option.map_map]
          rfl
        · next hbusy =>
          refine .inl ⟨rfl, fun p' hp' hbusy' => ?_, hsame⟩
          cases hp.symm.trans hp'
          exact absurd hbusy' hbusy

/-- The objects of a pipeline after a frame: the ones before, and those that its tracker created. -/
theorem exists_made_append {i j n : Nat} {k : Json} {objects : List Made}
    {new : List TrackedObject} :
    (∃ o ∈ objects ++ new.map (fun t => (⟨i, k, t⟩ : Made)),
        o.pipeline = j ∧ o.object.localId = n) ↔
      (∃ o ∈ objects, o.pipeline = j ∧ o.object.localId = n) ∨
        i = j ∧ n ∈ new.map TrackedObject.localId := by
  constructor
  · rintro ⟨o, ho, hj, hn⟩
    rcases List.mem_append.1 ho with ho | ho
    · exact .inl ⟨o, ho, hj, hn⟩
    · obtain ⟨t, ht, rfl⟩ := List.mem_map.1 ho
      exact .inr ⟨hj, List.mem_map.2 ⟨t, ht, hn⟩⟩
  · rintro (⟨o, ho, hj, hn⟩ | ⟨hj, hn⟩)
    · exact ⟨o, List.mem_append_left _ ho, hj, hn⟩
    · obtain ⟨t, ht, rfl⟩ := List.mem_map.1 hn
      exact ⟨⟨i, k, t⟩, List.mem_append_right _ (List.mem_map_of_mem ht), hj, rfl⟩

theorem trackKey_created {tr : Tracker} {detections : List Found} {ts : Int} {t : TrackedObject}
    (ht : t ∈ tr.created md5 detections ts) : t.trackKey = tr.key md5 t.localId := by
  obtain ⟨x, -, rfl⟩ := List.mem_map.1 ht
  rfl

theorem wf_init (md5 : String → String) (str : Json → String) (session : String) (etag : Json) :
    (init etag).Wf md5 str session where
  tracker _ hx := absurd hx List.not_mem_nil
  counted _ _ hx := by cases hx
  made _ ho := absurd ho List.not_mem_nil

/-- Every step keeps count. -/
theorem wf_step (h : d.Wf md5 str session) (a : AgentAction) :
    (d.step md5 str session a).Wf md5 str session := by
  rcases step_cases md5 str session d a with
    ⟨hobjects, -, new, htrackers⟩ | ⟨i, x, p, -, hp, -, hobjects, htrackers⟩
  · refine ⟨?_, ?_, ?_⟩
    · intro y hy
      rw [htrackers, List.mem_append, List.mem_map] at hy
      rcases hy with hy | ⟨k, -, rfl⟩
      · exact h.tracker y hy
      · exact ⟨rfl, rfl, le_rfl⟩
    · intro j y hy n
      rw [hobjects]
      rw [htrackers, List.getElem?_append] at hy
      split at hy
      · exact h.counted j y hy n
      · next hlt =>
        obtain ⟨k, -, rfl⟩ := List.mem_map.1 (List.mem_of_getElem? hy)
        refine iff_of_false ?_ fun hn => absurd hn.2 (not_lt.2 hn.1)
        rintro ⟨o, ho, rfl, -⟩
        obtain ⟨⟨tr, htr⟩, -⟩ := h.made o ho
        exact hlt (List.getElem?_eq_some_iff.1 htr).1
    · intro o ho
      rw [hobjects] at ho
      obtain ⟨⟨tr, htr⟩, hkey⟩ := h.made o ho
      refine ⟨⟨tr, ?_⟩, hkey⟩
      rw [htrackers, List.getElem?_append_left (List.getElem?_eq_some_iff.1 htr).1]
      exact htr
  · have hpt : d.pipelines.trackers[i]? = some (p.job.cameraId, p.tracker) := by
      rw [Pipelines.trackers, List.getElem?_map, hp]
      rfl
    obtain ⟨hsession, hcamera, hnext⟩ := h.tracker _ (List.mem_of_getElem? hpt)
    refine ⟨?_, ?_, ?_⟩
    · intro y hy
      obtain ⟨j, hj⟩ := List.mem_iff_getElem?.1 hy
      rw [htrackers, Option.map_eq_some_iff] at hj
      obtain ⟨z, hz, rfl⟩ := hj
      obtain ⟨hs, hc, hn⟩ := h.tracker z (List.mem_of_getElem? hz)
      split
      · exact ⟨hs, hc, hn.trans (Nat.le_add_right _ _)⟩
      · exact ⟨hs, hc, hn⟩
    · intro j y hy n
      rw [htrackers, Option.map_eq_some_iff] at hy
      obtain ⟨z, hz, rfl⟩ := hy
      rw [hobjects, exists_made_append, h.counted j z hz n, Tracker.localId_created,
        List.mem_range'_1]
      by_cases hij : i = j
      · subst hij
        cases hpt.symm.trans hz
        rw [if_pos rfl]
        change _ ↔ 1 ≤ n ∧ n < p.tracker.next + (p.tracker.unmatched x.1).length
        dsimp only at hnext ⊢
        omega
      · rw [if_neg hij]
        exact or_iff_left fun hyes => hij hyes.1
    · intro o ho
      rw [hobjects] at ho
      rcases List.mem_append.1 ho with ho | ho
      · obtain ⟨⟨tr, htr⟩, hkey⟩ := h.made o ho
        refine ⟨⟨if i = o.pipeline then (tr.update md5 x.1 x.2).1 else tr, ?_⟩, hkey⟩
        rw [htrackers, htr, Option.map_some]
      · obtain ⟨t, ht, rfl⟩ := List.mem_map.1 ho
        refine ⟨⟨(p.tracker.update md5 x.1 x.2).1, ?_⟩, ?_⟩
        · rw [htrackers, hpt, Option.map_some, if_pos rfl]
        · rw [Made.text, trackKey_created ht, Tracker.key, hsession, hcamera]

theorem Wf.cameraId_eq (h : d.Wf md5 str session) {i : Nat} {y : Json × Tracker}
    (hy : d.pipelines.trackers[i]? = some y) {o : Made} (ho : o ∈ d.objects)
    (hi : o.pipeline = i) : o.cameraId = y.1 := by
  subst hi
  obtain ⟨⟨tr, htr⟩, -⟩ := h.made o ho
  cases hy.symm.trans htr
  rfl

/-- An object of another pipeline, and with it the first one of that pipeline, has the number of the
first object of this one. -/
theorem distinctIds_step (h : d.Wf md5 str session) (hd : d.DistinctIds) (a : AgentAction) :
    (d.step md5 str session a).DistinctIds ↔ d.Alone a := by
  have hwf := wf_step h a
  rcases step_cases md5 str session d a with
    ⟨hobjects, halone, -⟩ | ⟨i, x, p, rfl, hp, hbusy, hobjects, htrackers⟩
  · rw [DistinctIds, hobjects]
    exact iff_of_true hd halone
  have hpt : d.pipelines.trackers[i]? = some (p.job.cameraId, p.tracker) := by
    rw [Pipelines.trackers, List.getElem?_map, hp]
    rfl
  constructor
  · intro hd' p' hp' _ hnew o ho hcamera
    cases hp.symm.trans hp'
    by_contra hne
    obtain ⟨⟨tr, htr⟩, -⟩ := h.made o ho
    rw [hcamera] at htr
    have hcount := (h.counted _ _ htr _).1 ⟨o, ho, rfl, rfl⟩
    obtain ⟨o₁, ho₁, hpipe₁, hid₁⟩ :=
      (h.counted _ _ htr 1).2 ⟨le_rfl, lt_of_le_of_lt hcount.1 hcount.2⟩
    have hti : (d.step md5 str session (.frame i (some x))).pipelines.trackers[i]? =
        some (p.job.cameraId, (p.tracker.update md5 x.1 x.2).1) := by
      rw [htrackers, hpt, Option.map_some, if_pos rfl]
    have hnext := (h.tracker _ (List.mem_of_getElem? hpt)).2.2
    have hlen : 0 < (p.tracker.unmatched x.1).length := List.length_pos_of_ne_nil hnew
    obtain ⟨o₂, ho₂, hpipe₂, hid₂⟩ :=
      (hwf.counted _ _ hti 1).2 ⟨le_rfl, Nat.add_le_add hnext hlen⟩
    have ho₁' : o₁ ∈ (d.step md5 str session (.frame i (some x))).objects :=
      hobjects ▸ List.mem_append_left _ ho₁
    have : Std.Symm fun o o' : Made =>
        o.cameraId = o'.cameraId → o.object.localId ≠ o'.object.localId :=
      ⟨fun _ _ hoo hcam => (hoo hcam.symm).symm⟩
    refine hd'.forall ho₁' ho₂ ?_ ?_ (hid₁.trans hid₂.symm)
    · rintro rfl
      exact hne (hpipe₁.symm.trans hpipe₂)
    · exact (h.cameraId_eq htr ho₁ hpipe₁).trans (hwf.cameraId_eq hti ho₂ hpipe₂).symm
  · intro halone
    rw [DistinctIds, hobjects, List.pairwise_append]
    refine ⟨hd, ?_, ?_⟩
    · have hnodup : ((p.tracker.created md5 x.1 x.2).map TrackedObject.localId).Nodup := by
        rw [Tracker.localId_created]
        exact List.nodup_range'
      refine List.pairwise_map.2 (List.Pairwise.imp ?_ (List.pairwise_map.1 hnodup))
      exact fun hne _ => hne
    · intro o ho o' ho' hcamera
      obtain ⟨t, ht, rfl⟩ := List.mem_map.1 ho'
      have hid : t.localId ∈ (p.tracker.created md5 x.1 x.2).map TrackedObject.localId :=
        List.mem_map_of_mem ht
      rw [Tracker.localId_created, List.mem_range'_1] at hid
      have hnew : p.tracker.unmatched x.1 ≠ [] := by
        intro hnil
        rw [hnil] at hid
        exact absurd hid.2 (not_lt.2 hid.1)
      have hpipe := halone p hp hbusy hnew o ho hcamera
      have hlt := ((h.counted i _ hpt _).1 ⟨o, ho, hpipe, rfl⟩).2
      exact (lt_of_lt_of_le hlt hid.1).ne

theorem wf_run (h : d.Wf md5 str session) (actions : List AgentAction) :
    (actions.foldl (step md5 str session) d).Wf md5 str session :=
  List.foldlRecOn _ _ h fun _ hwf a _ => wf_step hwf a

/-- An object stays in the record. -/
theorem objects_run (actions : List AgentAction) :
    d.objects ⊆ (actions.foldl (step md5 str session) d).objects := by
  refine List.foldlRecOn (motive := fun e : DetectorAgent => d.objects ⊆ e.objects) _ _
    (fun _ ho => ho) fun e he a _ => List.Subset.trans he ?_
  rcases step_cases md5 str session e a with
    ⟨hobjects, -⟩ | ⟨i, x, p, -, -, -, hobjects, -⟩
  · rw [hobjects]
    exact List.Subset.refl _
  · rw [hobjects]
    exact List.subset_append_left _ _

/-- Where no two texts of the session have one hash, the keys tell what the numbers tell. -/
theorem distinctKeys_iff (h : d.Wf md5 str session)
    (hmd5 : Set.InjOn md5 {t | ∃ o ∈ d.objects, o.text str session = t}) :
    d.DistinctKeys ↔ d.DistinctIds := by
  refine List.Pairwise.iff_of_mem fun {o o'} ho ho' => forall_congr' fun hcamera => not_congr ?_
  rw [(h.made o ho).2, (h.made o' ho').2, hmd5.eq_iff ⟨o, ho, rfl⟩ ⟨o', ho', rfl⟩, Made.text,
    Made.text, hcamera, Tracker.keyText_inj]

end

end DetectorAgent

/-- In a run of a node, from its join on, two objects of a camera never have one key exactly if
every object is created by a pipeline that has created all objects of its camera so far. Whatever
answers and frames there are, a hash of the texts used in the session is assumed not to collide. -/
theorem track_keys_iff (md5 : String → String) (str : Json → String) (session : String)
    (etag : Json) (actions : List AgentAction)
    (hmd5 : Set.InjOn md5 {t | ∃ o ∈ (actions.foldl (DetectorAgent.step md5 str session)
      (.init etag)).objects, o.text str session = t}) :
    (∀ pre, pre <+: actions →
      (pre.foldl (DetectorAgent.step md5 str session) (.init etag)).DistinctKeys) ↔
      ∀ pre a, pre ++ [a] <+: actions →
        (pre.foldl (DetectorAgent.step md5 str session) (.init etag)).Alone a := by
  have hinit := DetectorAgent.wf_init md5 str session etag
  have hkeys : ∀ pre, pre <+: actions →
      ((pre.foldl (DetectorAgent.step md5 str session) (.init etag)).DistinctKeys ↔
        (pre.foldl (DetectorAgent.step md5 str session) (.init etag)).Wf md5 str session ∧
        (pre.foldl (DetectorAgent.step md5 str session) (.init etag)).DistinctIds) := by
    rintro pre ⟨rest, rfl⟩
    have hwf := DetectorAgent.wf_run hinit pre
    rw [and_iff_right hwf]
    refine DetectorAgent.distinctKeys_iff hwf (hmd5.mono ?_)
    rintro t ⟨o, ho, rfl⟩
    refine ⟨o, ?_, rfl⟩
    rw [List.foldl_append]
    exact DetectorAgent.objects_run rest ho
  have hstep : ∀ (d : DetectorAgent) a, d.Wf md5 str session ∧ d.DistinctIds →
      ((d.step md5 str session a).Wf md5 str session ∧ (d.step md5 str session a).DistinctIds ↔
        d.Alone a) := by
    rintro d a ⟨hwf, hd⟩
    rw [and_iff_right (DetectorAgent.wf_step hwf a)]
    exact DetectorAgent.distinctIds_step hwf hd a
  refine Iff.trans (forall₂_congr hkeys) (forall_prefix_iff hstep ⟨hinit, List.Pairwise.nil⟩)

namespace DetectorAgent.Fixture

def session : String := "0f8b2c6e4d1a49d39a7e5b60c2f1d384"

/-- `str(x)` of an integer. -/
def str : Json → String
  | .num q => toString q.num
  | _ => ""

/-- The hashes of the texts of the session. -/
def md5 (text : String) : String :=
  if text = "0f8b2c6e4d1a49d39a7e5b60c2f1d384:1:1" then "f9a03d8434652bc502ac371139636548"
  else if text = "0f8b2c6e4d1a49d39a7e5b60c2f1d384:1:2" then "9621038c9bbaf722e6663cd011e900bd"
  else ""

/-- Camera 1 is assigned, with a confidence from which on detections count. -/
def assigned (etag : String) (minConfidence : Nat) : Answer :=
  AiServer.success (.obj [("etag", .str etag), ("items", .arr [jobSpec 1 0
    ⟨"cam1", "yolo11n", 640, 5, minConfidence, ["person"], [], [], false, false, 1000,
      "rtsp://go2rtc:8554/cam1"⟩])])

def left : Found := ⟨⟨0, 0, 10, 10⟩, "person", 0, 9 / 10⟩

def right : Found := ⟨⟨50, 0, 60, 10⟩, "person", 0, 9 / 10⟩

/-- Two persons are seen at once. -/
def together : List AgentAction :=
  [.poll (assigned "1" 35), .read 0, .frame 0 (some ([left, right], 1000))]

/-- One person is seen before and one after the confidence is set. -/
def respecified : List AgentAction :=
  [.poll (assigned "1" 35), .read 0, .frame 0 (some ([left], 1000)), .poll (assigned "2" 50),
    .read 1, .frame 1 (some ([right], 9000))]

end DetectorAgent.Fixture

open DetectorAgent.Fixture in
/-- The objects of one pipeline have different keys. -/
theorem track_keys_together :
    (together.foldl (DetectorAgent.step md5 str session) (.init .null)).DistinctKeys := by
  have htexts : (together.foldl (DetectorAgent.step md5 str session) (.init .null)).objects.map
      (Made.text str session) = ["0f8b2c6e4d1a49d39a7e5b60c2f1d384:1:1",
        "0f8b2c6e4d1a49d39a7e5b60c2f1d384:1:2"] := by decide +kernel
  refine (track_keys_iff md5 str session .null together ?_).2 ?_ together List.prefix_rfl
  · rintro t ⟨o, ho, rfl⟩ t' ⟨o', ho', rfl⟩ heq
    have hmem := htexts ▸ List.mem_map_of_mem (f := Made.text str session) ho
    have hmem' := htexts ▸ List.mem_map_of_mem (f := Made.text str session) ho'
    revert heq
    simp only [List.mem_cons, List.not_mem_nil, or_false] at hmem hmem'
    rcases hmem with h | h <;> rcases hmem' with h' | h' <;> rw [h, h'] <;> decide
  · have hempty : (([.poll (assigned "1" 35), .read 0] : List AgentAction).foldl
        (DetectorAgent.step md5 str session) (.init .null)).objects.isEmpty = true := by
      decide +kernel
    refine forall_prefix_cons.2 ⟨trivial, forall_prefix_cons.2 ⟨trivial, forall_prefix_cons.2
      ⟨fun p _ _ _ o ho => ?_, forall_prefix_nil⟩⟩⟩
    exact absurd (List.isEmpty_iff.1 hempty ▸ ho : o ∈ []) List.not_mem_nil

open DetectorAgent.Fixture in
/-- The pipeline that is started for the new confidence counts from one again. -/
theorem not_track_keys : ¬ ∀ (md5 : String → String) (str : Json → String) (session : String)
    (etag : Json) (actions : List AgentAction),
    Set.InjOn md5 {t | ∃ o ∈ (actions.foldl (DetectorAgent.step md5 str session)
      (.init etag)).objects, o.text str session = t} →
    ∀ pre, pre <+: actions →
      (pre.foldl (DetectorAgent.step md5 str session) (.init etag)).DistinctKeys := by
  intro h
  have hobjects : (respecified.foldl (DetectorAgent.step md5 str session) (.init .null)).objects.map
      (fun o => (o.cameraId, o.text str session, o.object.trackKey)) =
      [(.num 1, "0f8b2c6e4d1a49d39a7e5b60c2f1d384:1:1", "f9a03d8434652bc502ac371139636548"),
        (.num 1, "0f8b2c6e4d1a49d39a7e5b60c2f1d384:1:1", "f9a03d8434652bc502ac371139636548")] := by
    decide +kernel
  have htext : ∀ o ∈ (respecified.foldl (DetectorAgent.step md5 str session) (.init .null)).objects,
      o.text str session = "0f8b2c6e4d1a49d39a7e5b60c2f1d384:1:1" := by
    intro o ho
    have hmem := hobjects ▸ List.mem_map_of_mem
      (f := fun o : Made => (o.cameraId, o.text str session, o.object.trackKey)) ho
    simp only [List.mem_cons, List.not_mem_nil, or_false, or_self, Prod.mk.injEq] at hmem
    exact hmem.2.1
  have hkeys := h md5 str session .null respecified ?_ respecified List.prefix_rfl
  · have hpairs : (respecified.foldl (DetectorAgent.step md5 str session) (.init .null)).objects.map
        (fun o => (o.cameraId, o.text str session, o.object.trackKey)) |>.Pairwise
        fun x y => x.1 = y.1 → x.2.2 ≠ y.2.2 := List.pairwise_map.2 hkeys
    rw [hobjects, List.pairwise_pair] at hpairs
    exact hpairs rfl rfl
  · rintro t ⟨o, ho, rfl⟩ t' ⟨o', ho', rfl⟩ -
    rw [htext o ho, htext o' ho']

end AeroXProtect
