import AeroXProtect.Lib.Json
import AeroXProtect.Lib.Table

/-!
# The node agents: polling and applying assignments

The detector agent and the encoder agent run the same loop over the same two functions:
`pollAssignments` asks the server for the assignments and decodes the answer, and `applySpecs`
reconciles what runs with what the answer lists. The agents differ in what they start for a spec (a
`CameraPipeline`, an `EncodeSession`), which matters here only for whether its construction raises;
the functions take that as the parameter `builds`.

`poll` is the part of the loop between the heartbeat and the reports. `failed_poll_iff` says for
which answers that are no well formed `200` it leaves the agent alone. A JSON error body is not
among them while something runs: without a `data` key the items default to an empty list, and the
reconciliation stops everything. To be left alone is not to go on: items that are not `null` and no
list of objects with a usable key, and a spec whose construction raises, end the loop of the agent,
which is the flag of `poll`.
-/

open Lib

namespace AeroXProtect

/-- A running pipeline or session: the key it is filed under and the spec it was started with. -/
structure Job where
  cameraId : Json
  spec : Json
  deriving DecidableEq, Repr

/-- The `pipelines` or `sessions` dictionary of an agent. -/
abbrev Jobs := Table Job.cameraId

namespace Jobs

/-- `d[job.camera_id] = job`. -/
def put (jobs : Jobs) (job : Job) : Jobs :=
  match jobs.get? job.cameraId with
  | none => jobs.insert job
  | some _ => jobs.modify (fun j => decide (j.cameraId = job.cameraId))
      (fun j => { j with spec := job.spec })

/-- `d.pop(camera_id)`. -/
def pop (jobs : Jobs) (cameraId : Json) : Jobs :=
  jobs.delete fun j => decide (j.cameraId = cameraId)

end Jobs

/-- What an agent remembers: the etag of the assignments it applied (`null` for none) and what it
runs. -/
structure NodeAgent where
  etag : Json
  jobs : Jobs

/-! ## Reconciliation -/

/-- The entry of a spec in `want`, keyed by `s['camera_id']`; raises when the spec has no such key
or the key cannot be one. -/
def Job.ofSpec (s : Json) : Option Job := do
  let cid ← s.index? "camera_id"
  if cid.hashable then some ⟨cid, s⟩ else none

/-- `{s['camera_id']: s for s in specs}`. -/
def want (specs : Json) : Option Jobs := do
  let items ← specs.iter?
  let jobs ← items.mapM Job.ofSpec
  return jobs.foldl Jobs.put ∅

/-- What is to be started, stopped and restarted. -/
structure Changes where
  toStart : List Job
  toStop : List Json
  toUpdate : List Job
  deriving DecidableEq, Repr

/-- Source: `NodeAgent.reconcile` (`worker/detector/node_agent.py:30`,
`worker/encoder/node_agent.py:115`), from the dictionary of the wanted specs on. -/
def reconcile (wanted current : Jobs) : Changes where
  toStart := wanted.rows.filter fun j => (current.get? j.cameraId).isNone
  toStop := (current.rows.filter fun j => (wanted.get? j.cameraId).isNone).map Job.cameraId
  toUpdate := wanted.rows.filter fun j =>
    (current.get? j.cameraId).any fun c => decide (c.spec ≠ j.spec)

/-- The construction of the pipeline raises nothing: the settings it computes with have the right
types, and there is a stream to read. Source: `CameraPipeline.apply`
(`worker/detector/camera_pipeline.py:26`). -/
def CameraPipeline.builds (spec : Json) : Bool :=
  let number := fun x : Json => match x with
    | .num _ | .bool _ => true
    | _ => false
  let words := fun x : Json => match x.iter? with
    | some l => l.all Json.hashable
    | none => false
  let zones := fun x : Json => match x with
    | .obj _ => true
    | _ => false
  match spec.getD? "min_confidence" (.num 35), spec.getD? "target_fps" (.num 5),
      spec.get? "labels", spec.get? "zones" with
  | some conf, some fps, some labels, some z =>
    number (conf.or (.num 35)) && number fps && words (labels.or (.arr [])) &&
      zones (z.or .empty) && (spec.index? "rtsp_url").isSome
  | _, _, _, _ => false

/-- An encode session is only filed; its process starts later. Source: `EncodeSession.__init__`
(`worker/encoder/node_agent.py:59`). -/
def EncodeSession.builds (_ : Json) : Bool := true

/-- The loops that start what is listed, after stopping what ran under the same key. A construction
that raises ends the loop and leaves what was done so far; the flag says whether all were started.
-/
def startAll (builds : Json → Bool) : Jobs → List Job → Jobs × Bool
  | jobs, [] => (jobs, true)
  | jobs, job :: rest =>
    if builds job.spec then startAll builds ((jobs.pop job.cameraId).insert job) rest
    else (jobs.pop job.cameraId, false)

/-- Source: `NodeAgent.apply_specs` (`worker/detector/node_agent.py:115`,
`worker/encoder/node_agent.py:182`). The flag is false when an exception ends it, and with it the
supervisor loop. -/
def applySpecs (builds : Json → Bool) (jobs : Jobs) (specs : Json) : Jobs × Bool :=
  match want specs with
  | none => (jobs, false)
  | some wanted =>
    let changes := reconcile wanted jobs
    let stopped := changes.toStop.foldl Jobs.pop jobs
    match startAll builds stopped changes.toUpdate with
    | (updated, false) => (updated, false)
    | (updated, true) => startAll builds updated changes.toStart

/-! ## The poll -/

/-- What a request comes back with: nothing (the client raised), or a status and a body, which may
not be JSON. -/
inductive Answer
  | failed
  | response (status : Nat) (body : Option Json)
  deriving DecidableEq, Repr

/-- `(r.json() or {}).get('data') or {}`. -/
def Answer.data : Answer → Option Json
  | .failed => none
  | .response _ body => do
    let d ← ((← body).or .empty).get? "data"
    return d.or .empty

/-- The etag and the items of an answer to a poll, if the answer is decoded without an exception and
is no `304`. -/
def NodeAgent.decode (self : NodeAgent) (answer : Answer) : Option (Json × Json) :=
  match answer with
  | .failed | .response 304 _ => none
  | .response .. => do
    let d ← answer.data
    let etag ← d.getD? "etag" self.etag
    let items ← d.getD? "items" (.arr [])
    return (etag, items)

/-- Source: `NodeAgent.poll_assignments` (`worker/detector/node_agent.py:79`,
`worker/encoder/node_agent.py:166`), from the answer on. -/
def NodeAgent.pollAssignments (self : NodeAgent) (answer : Answer) : NodeAgent × Json :=
  match self.decode answer with
  | none => (self, .null)
  | some (etag, items) => ({ self with etag }, items)

/-- The poll of the supervisor loop: what is answered is applied. Source: `NodeAgent.run`
(`worker/detector/node_agent.py:136`, `worker/encoder/node_agent.py:196`). -/
def NodeAgent.poll (builds : Json → Bool) (self : NodeAgent) (answer : Answer) :
    NodeAgent × Bool :=
  let (self, specs) := self.pollAssignments answer
  if specs = .null then (self, true)
  else
    let (jobs, ok) := applySpecs builds self.jobs specs
    ({ self with jobs }, ok)

/-! ## What the loops leave -/

namespace Jobs

theorem get?_pop (jobs : Jobs) (k k' : Json) :
    (jobs.pop k).get? k' = if k' = k then none else jobs.get? k' := Table.get?_delete

/-- A restarted job is filed under its key, the others stay. -/
theorem get?_restart (jobs : Jobs) (job : Job) (k : Json) :
    ((jobs.pop job.cameraId).insert job).get? k =
      if k = job.cameraId then some job else jobs.get? k := by
  rw [Table.get?_insert (by rw [get?_pop, if_pos rfl]), get?_pop]
  split <;> rfl

/-- What is left when the listed keys were popped. -/
theorem get?_foldl_pop (l : List Json) (jobs : Jobs) (k : Json) :
    (l.foldl pop jobs).get? k = if k ∈ l then none else jobs.get? k := by
  induction l generalizing jobs with
  | nil => simp
  | cons x l ih =>
    rw [List.foldl_cons, ih, get?_pop]
    by_cases hk : k ∈ l
    · simp [hk]
    · by_cases he : k = x <;> simp [hk, he]

end Jobs

section
variable {builds : Json → Bool}

/-- Starting jobs leaves the other keys alone. -/
theorem startAll_get?_of_not_mem (l : List Job) (jobs : Jobs) {k : Json}
    (hk : k ∉ l.map Job.cameraId) : (startAll builds jobs l).1.get? k = jobs.get? k := by
  induction l generalizing jobs with
  | nil => rfl
  | cons job l ih =>
    rw [List.map_cons, List.mem_cons, not_or] at hk
    unfold startAll
    split
    · rw [ih _ hk.2, Jobs.get?_restart, if_neg hk.1]
    · rw [Jobs.get?_pop, if_neg hk.1]

/-- The first job of the list runs afterwards, or what ran under its key is gone. -/
theorem startAll_get?_head {job : Job} {l : List Job} (jobs : Jobs)
    (hl : ((job :: l).map Job.cameraId).Nodup) :
    (startAll builds jobs (job :: l)).1.get? job.cameraId =
      if builds job.spec then some job else none := by
  rw [List.map_cons, List.nodup_cons] at hl
  unfold startAll
  split
  · rw [startAll_get?_of_not_mem l _ hl.1, Jobs.get?_restart, if_pos rfl]
  · rw [Jobs.get?_pop, if_pos rfl]

/-- When the constructions succeed, the listed jobs run afterwards. -/
theorem startAll_get?_of_mem {l : List Job} (jobs : Jobs) (hb : ∀ j ∈ l, builds j.spec = true)
    (hl : (l.map Job.cameraId).Nodup) {job : Job} (hj : job ∈ l) :
    (startAll builds jobs l).1.get? job.cameraId = some job := by
  induction l generalizing jobs with
  | nil => cases hj
  | cons x l ih =>
    have hx := hb x (.head _)
    rcases List.mem_cons.1 hj with rfl | hj
    · rw [startAll_get?_head jobs hl, if_pos hx]
    · rw [List.map_cons, List.nodup_cons] at hl
      unfold startAll
      rw [if_pos hx]
      exact ih _ (fun j hj => hb j (.tail _ hj)) hl.2 hj

theorem startAll_ok {l : List Job} (jobs : Jobs) (hb : ∀ j ∈ l, builds j.spec = true) :
    (startAll builds jobs l).2 = true := by
  induction l generalizing jobs with
  | nil => rfl
  | cons x l ih =>
    unfold startAll
    rw [if_pos (hb x (.head _))]
    exact ih _ fun j hj => hb j (.tail _ hj)

end

/-! ## When a poll leaves the agent alone -/

/-- The keys an agent starts and restarts are distinct. -/
theorem nodup_toUpdate (wanted current : Jobs) :
    ((reconcile wanted current).toUpdate.map Job.cameraId).Nodup :=
  (List.filter_sublist.map _).nodup wanted.nodup

theorem nodup_toStart (wanted current : Jobs) :
    ((reconcile wanted current).toStart.map Job.cameraId).Nodup :=
  (List.filter_sublist.map _).nodup wanted.nodup

section
variable {builds : Json → Bool} {wanted jobs : Jobs} {specs : Json}

theorem mem_toStop {k : Json} :
    k ∈ (reconcile wanted jobs).toStop ↔ wanted.get? k = none ∧ (jobs.get? k).isSome := by
  simp only [reconcile, List.mem_map, List.mem_filter, Option.isNone_iff_eq_none]
  constructor
  · rintro ⟨j, ⟨hj, hw⟩, rfl⟩
    exact ⟨hw, by rw [Table.get?_eq_some.2 ⟨hj, rfl⟩]; rfl⟩
  · rintro ⟨hw, hs⟩
    obtain ⟨j, hj⟩ := Option.isSome_iff_exists.1 hs
    obtain ⟨hmem, rfl⟩ := Table.get?_eq_some.1 hj
    exact ⟨j, ⟨hmem, hw⟩, rfl⟩

theorem mem_toStart {j : Job} :
    j ∈ (reconcile wanted jobs).toStart ↔ j ∈ wanted ∧ jobs.get? j.cameraId = none := by
  simp [reconcile]

theorem mem_toUpdate {j : Job} :
    j ∈ (reconcile wanted jobs).toUpdate ↔
      j ∈ wanted ∧ ∃ c, jobs.get? j.cameraId = some c ∧ c.spec ≠ j.spec := by
  simp [reconcile, Option.any_eq_true]

/-- A key that is not wanted is in no list of wanted jobs. -/
theorem not_mem_keys {k : Json} (hk : wanted.get? k = none) {l : List Job}
    (hl : ∀ j ∈ l, j ∈ wanted) : k ∉ l.map Job.cameraId := by
  intro hm
  obtain ⟨j, hj, rfl⟩ := List.mem_map.1 hm
  exact Table.get?_eq_none.1 hk j (hl j hj) rfl

/-- A key that runs is not started. -/
theorem not_mem_toStart {k : Json} {c : Job} (hc : jobs.get? k = some c) :
    k ∉ (reconcile wanted jobs).toStart.map Job.cameraId := by
  intro hm
  obtain ⟨j, hj, rfl⟩ := List.mem_map.1 hm
  rw [(mem_toStart.1 hj).2] at hc
  cases hc

/-- The keys that the start loop does not touch are left as the update loop left them. -/
theorem applySpecs_get?_of_not_start (hw : want specs = some wanted) {k : Json}
    (hk : k ∉ (reconcile wanted jobs).toStart.map Job.cameraId) :
    (applySpecs builds jobs specs).1.get? k =
      (startAll builds ((reconcile wanted jobs).toStop.foldl Jobs.pop jobs)
        (reconcile wanted jobs).toUpdate).1.get? k := by
  simp only [applySpecs, hw]
  split
  · next h => rw [h]
  · next h => rw [startAll_get?_of_not_mem _ _ hk, h]

/-- Specs that can all be built are run afterwards, and nothing else is. -/
theorem applySpecs_get? (hw : want specs = some wanted) (hb : ∀ j ∈ wanted, builds j.spec = true)
    (k : Json) : (applySpecs builds jobs specs).1.get? k = wanted.get? k := by
  have hupd : ∀ j ∈ (reconcile wanted jobs).toUpdate, builds j.spec = true :=
    fun j hj => hb j (mem_toUpdate.1 hj).1
  cases hwk : wanted.get? k with
  | none =>
    rw [applySpecs_get?_of_not_start hw (not_mem_keys hwk fun j hj => (mem_toStart.1 hj).1),
      startAll_get?_of_not_mem _ _ (not_mem_keys hwk fun j hj => (mem_toUpdate.1 hj).1),
      Jobs.get?_foldl_pop]
    split
    · rfl
    · next hk =>
      cases hc : jobs.get? k with
      | none => rfl
      | some c => exact absurd (mem_toStop.2 ⟨hwk, by rw [hc]; rfl⟩) hk
  | some j =>
    obtain ⟨hj, rfl⟩ := Table.get?_eq_some.1 hwk
    cases hc : jobs.get? j.cameraId with
    | none =>
      have hok := startAll_ok ((reconcile wanted jobs).toStop.foldl Jobs.pop jobs) hupd
      simp only [applySpecs, hw]
      split
      · next h => rw [h] at hok; cases hok
      · exact startAll_get?_of_mem _ (fun j hj => hb j (mem_toStart.1 hj).1)
          (nodup_toStart wanted jobs) (mem_toStart.2 ⟨hj, hc⟩)
    | some c =>
      rw [applySpecs_get?_of_not_start hw (not_mem_toStart hc)]
      by_cases hspec : c.spec = j.spec
      · -- the job runs with its spec already, and is neither stopped nor restarted
        have hcj : c = j := by
          obtain ⟨-, hkey⟩ := Table.get?_eq_some.1 hc
          cases c; cases j; cases hspec; cases hkey; rfl
        have hnot : j.cameraId ∉ (reconcile wanted jobs).toUpdate.map Job.cameraId := by
          intro hm
          obtain ⟨j', hj', he⟩ := List.mem_map.1 hm
          obtain ⟨hjw, c', hc', hne⟩ := mem_toUpdate.1 hj'
          rw [he, hc] at hc'
          cases hc'
          rw [Table.eq_of_key_eq hjw hj he] at hne
          exact hne hspec
        have hstop : j.cameraId ∉ (reconcile wanted jobs).toStop := by
          intro hm
          rw [(mem_toStop.1 hm).1] at hwk
          cases hwk
        rw [startAll_get?_of_not_mem _ _ hnot, Jobs.get?_foldl_pop, if_neg hstop, hc, hcj]
      · exact startAll_get?_of_mem _ hupd (nodup_toUpdate wanted jobs)
          (mem_toUpdate.2 ⟨hj, c, hc, hspec⟩)

/-- Where nothing changes, nothing is stopped: a key that is stopped is in no other list. -/
theorem toStop_eq_nil (hw : want specs = some wanted)
    (h : ∀ k, (applySpecs builds jobs specs).1.get? k = jobs.get? k) :
    (reconcile wanted jobs).toStop = [] := by
  refine List.eq_nil_iff_forall_not_mem.2 fun k hk => ?_
  obtain ⟨hwk, hs⟩ := mem_toStop.1 hk
  have hfin := h k
  rw [applySpecs_get?_of_not_start hw (not_mem_keys hwk fun j hj => (mem_toStart.1 hj).1),
    startAll_get?_of_not_mem _ _ (not_mem_keys hwk fun j hj => (mem_toUpdate.1 hj).1),
    Jobs.get?_foldl_pop, if_pos hk] at hfin
  rw [← hfin] at hs
  cases hs

/-- Where nothing changes, nothing is restarted: the first key that is restarted has another spec,
or is gone. -/
theorem toUpdate_eq_nil (hw : want specs = some wanted)
    (h : ∀ k, (applySpecs builds jobs specs).1.get? k = jobs.get? k) :
    (reconcile wanted jobs).toUpdate = [] := by
  cases hu : (reconcile wanted jobs).toUpdate with
  | nil => rfl
  | cons j rest =>
    obtain ⟨-, c, hc, hne⟩ :=
      mem_toUpdate.1 (show j ∈ (reconcile wanted jobs).toUpdate by rw [hu]; exact .head _)
    have hnd := nodup_toUpdate wanted jobs
    have hfin := h j.cameraId
    rw [applySpecs_get?_of_not_start hw (not_mem_toStart hc), hu,
      startAll_get?_head _ (hu ▸ hnd), hc] at hfin
    split at hfin
    · cases hfin; exact absurd rfl hne
    · cases hfin

/-- Applying specs leaves the jobs alone exactly when nothing is to be stopped or restarted, and
nothing to be started, or the first thing to be started cannot be built. -/
theorem applySpecs_same_iff (hw : want specs = some wanted) :
    (∀ k, (applySpecs builds jobs specs).1.get? k = jobs.get? k) ↔
      (reconcile wanted jobs).toStop = [] ∧ (reconcile wanted jobs).toUpdate = [] ∧
        ¬ ((reconcile wanted jobs).toStart.head?.any fun j => builds j.spec) := by
  constructor
  · intro h
    have hstop := toStop_eq_nil hw h
    have hupd := toUpdate_eq_nil hw h
    refine ⟨hstop, hupd, fun hany => ?_⟩
    cases hst : (reconcile wanted jobs).toStart with
    | nil => rw [hst] at hany; cases hany
    | cons j rest =>
      have hnone :=
        (mem_toStart.1 (show j ∈ (reconcile wanted jobs).toStart by rw [hst]; exact .head _)).2
      have hnd := nodup_toStart wanted jobs
      have hfin := h j.cameraId
      rw [hst] at hany hnd
      simp only [applySpecs, hw, hstop, hupd, hst, List.foldl_nil, startAll.eq_1] at hfin
      rw [startAll_get?_head _ hnd, hnone, if_pos (by simpa using hany)] at hfin
      cases hfin
  · rintro ⟨hstop, hupd, hany⟩ k
    simp only [applySpecs, hw, hstop, hupd, List.foldl_nil, startAll.eq_1]
    cases hst : (reconcile wanted jobs).toStart with
    | nil => rfl
    | cons j rest =>
      -- the construction raises, and nothing ran under the key
      have hnone :=
        (mem_toStart.1 (show j ∈ (reconcile wanted jobs).toStart by rw [hst]; exact .head _)).2
      rw [hst] at hany
      unfold startAll
      rw [if_neg (by simpa using hany), Jobs.get?_pop]
      split
      · next hk => rw [hk, hnone]
      · rfl

end

/-- The answer is a `200` with an etag and a list of specs, each with a camera. -/
def Answer.wellFormed : Answer → Bool
  | .response 200 (some body) =>
    match (body.index? "data").bind (·.index? "etag"), (body.index? "data").bind (·.index? "items")
    with
    | some (.str _), some (.arr items) => items.all fun s => (Job.ofSpec s).isSome
    | _, _ => false
  | _ => false

namespace NodeAgent

/-- The agent runs the same jobs with the same specs and remembers the same etag. -/
def Same (self after : NodeAgent) : Prop :=
  after.etag = self.etag ∧ ∀ k, after.jobs.get? k = self.jobs.get? k

/-- The answer is dropped; or it brings no other etag, and its items are no list of specs, or ask
for no change that can be made. -/
def unaffected (builds : Json → Bool) (self : NodeAgent) (answer : Answer) : Bool :=
  match self.decode answer with
  | none => true
  | some (etag, items) =>
    etag == self.etag &&
      match want items with
      | none => true
      | some wanted =>
        let changes := reconcile wanted self.jobs
        changes.toStop.isEmpty && changes.toUpdate.isEmpty &&
          !(changes.toStart.head?.any fun j => builds j.spec)

/-- A poll leaves the agent alone exactly when the answer does not affect it. -/
theorem poll_same_iff (builds : Json → Bool) (self : NodeAgent) (answer : Answer) :
    Same self (self.poll builds answer).1 ↔ self.unaffected builds answer = true := by
  unfold poll pollAssignments unaffected
  cases hd : self.decode answer with
  | none => exact iff_of_true ⟨rfl, fun _ => rfl⟩ rfl
  | some p =>
    obtain ⟨etag, items⟩ := p
    simp only [Bool.and_eq_true, beq_iff_eq]
    split
    · next hnull =>
      subst hnull
      exact ⟨fun h => ⟨h.1, rfl⟩, fun h => ⟨h.1, fun _ => rfl⟩⟩
    · refine and_congr_right fun _ => ?_
      cases hw : want items with
      | none =>
        have hsame : (applySpecs builds self.jobs items).1 = self.jobs := by simp [applySpecs, hw]
        exact iff_of_true (fun k => congrArg (Table.get? · k) hsame) rfl
      | some wanted =>
        refine (applySpecs_same_iff hw).trans ?_
        simp [and_assoc]

/-- **When a failed poll leaves an agent alone.** For the detector agent and for the encoder agent,
in every state and for every answer: an answer that is no well formed `200` leaves the running jobs,
their specs and the stored etag as they were, exactly if it does not affect the agent. -/
theorem failed_poll_iff (self : NodeAgent) (answer : Answer) :
    ((answer.wellFormed = false → Same self (self.poll CameraPipeline.builds answer).1) ↔
      answer.wellFormed = true ∨ self.unaffected CameraPipeline.builds answer = true) ∧
    ((answer.wellFormed = false → Same self (self.poll EncodeSession.builds answer).1) ↔
      answer.wellFormed = true ∨ self.unaffected EncodeSession.builds answer = true) := by
  have h : ∀ builds, (answer.wellFormed = false → Same self (self.poll builds answer).1) ↔
      answer.wellFormed = true ∨ self.unaffected builds answer = true := by
    intro builds
    rw [poll_same_iff]
    cases answer.wellFormed <;> simp
  exact ⟨h _, h _⟩

namespace Fixture

/-- A detector that runs camera 1. -/
def agent : NodeAgent where
  etag := .str "7"
  jobs := ⟨[⟨.num 1, .obj [("camera_id", .num 1), ("rtsp_url", .str "rtsp://go2rtc/gate")]⟩],
    List.nodup_singleton _⟩

/-- The answer to a poll with a token that was superseded: `403` with an error body. -/
def forbidden : Answer :=
  .response 403 (some (.obj [("message", .str "node_token_superseded"),
    ("status", .str "forbidden"), ("time", .str "2024-01-01T00:00:00+09:00")]))

end Fixture

/-- A `403` with an error body is no well formed answer, and it stops everything: the camera is no
longer run, and the etag is still that of the assignments it was in. -/
theorem error_body_stops_jobs :
    Fixture.forbidden.wellFormed = false ∧
    ¬ Same Fixture.agent (Fixture.agent.poll CameraPipeline.builds Fixture.forbidden).1 ∧
    ¬ Same Fixture.agent (Fixture.agent.poll EncodeSession.builds Fixture.forbidden).1 := by
  refine ⟨rfl, ?_, ?_⟩
  · rw [poll_same_iff]; decide
  · rw [poll_same_iff]; decide

end NodeAgent

end AeroXProtect
