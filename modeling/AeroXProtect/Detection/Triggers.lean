import AeroXProtect.Lib.History
import AeroXProtect.Lib.Spacing

/-!
# Triggers on detections

A detection that a trigger matches is promoted to an event. The first trigger that lets it through
is taken, those of the camera before those of all cameras. Before it promotes, an evaluation asks
Redis for the key of the trigger on the camera and for that on the track; afterwards it writes both.
These are four commands, each of which can fail by itself, and the evaluations of other requests
come in between.

So two promotions need not be a cooldown apart. What holds in every interleaving is told by the log
of the keys that were written (`trigger_spacing`): a promotion for which Redis has answered comes
after the last written key of its trigger on its camera has run out, and after that on its track.
-/

open Lib

namespace AeroXProtect

/-- A row of `object_triggers`. Source: `ObjectTrigger` (`server/model/object_trigger.py:10`). -/
structure ObjectTrigger where
  id : Nat
  cameraId : Option Nat
  name : String
  labels : List String
  zoneId : Option Nat
  minConfidence : Int
  minDwellMs : Int
  requireZoneEntry : Bool
  minCount : Int
  cooldownS : Int
  debouncePerTrack : Bool
  eventSubtype : Option String
  actionHint : Option String
  notify : Bool
  enabled : Bool
  deleted : Bool
  deriving DecidableEq, Repr

/-- The keys of an edit of a trigger that are there and not null. -/
structure TriggerData where
  cameraId : Option Nat
  name : Option String
  labels : Option (List String)
  zoneId : Option Nat
  minConfidence : Option Int
  minDwellMs : Option Int
  requireZoneEntry : Option Bool
  minCount : Option Int
  cooldownS : Option Int
  debouncePerTrack : Option Bool
  eventSubtype : Option String
  actionHint : Option String
  notify : Option Bool
  enabled : Option Bool
  deriving DecidableEq, Repr

/-- A detection: the columns and attributes that the triggers read. -/
structure DetectionRow where
  id : Nat
  cameraId : Nat
  ts : Int
  label : String
  confidence : Int
  zoneId : Option Nat
  trackKey : Option String
  trackId : Option Nat
  zoneEntry : Bool
  dwellMs : Int
  bbox : List Rat
  nodeId : Nat
  eventId : Option Nat
  deriving DecidableEq, Repr

/-- A detection that was promoted: what is handed to the event pipeline, and the event it makes. -/
structure Promotion where
  triggerId : Nat
  cameraId : Nat
  subtype : String
  score : Int
  bbox : List Rat
  trackKey : Option String
  label : String
  nodeId : Nat
  detectionId : Nat
  notify : Bool
  actionHint : Option String
  event : Nat
  deriving DecidableEq, Repr

/-- The tables that an evaluation reads. -/
structure TriggerTables where
  triggers : List ObjectTrigger
  detections : List DetectionRow

/-- The tables and the keys, with what was promoted and the keys that Redis has written, newest
first. -/
structure TriggerStore where
  tables : TriggerTables
  cooldowns : Expiring (Nat × Nat)
  tracks : Expiring (String × Nat)
  promotions : List Promotion
  cooldownMarks : List (Pass (Nat × Nat))
  trackMarks : List (Pass (String × Nat))

/-- The environment of a statement: the clock, whether Redis answers, whether the database or the
pipeline raises, and the event that the pipeline makes of a promotion, if it makes one. -/
structure TriggerEnv where
  now : Int
  up : Bool
  raises : Bool
  event : Option Nat
  deriving DecidableEq, Repr

namespace ObjectTrigger

/-- Source: `ObjectTrigger._apply` (`server/model/object_trigger.py:72`). -/
def apply (t : ObjectTrigger) (data : TriggerData) : ObjectTrigger :=
  { t with
    cameraId := data.cameraId.orElse fun _ => t.cameraId
    name := data.name.getD t.name
    labels := data.labels.getD t.labels
    zoneId := data.zoneId.orElse fun _ => t.zoneId
    minConfidence := data.minConfidence.getD t.minConfidence
    minDwellMs := data.minDwellMs.getD t.minDwellMs
    requireZoneEntry := data.requireZoneEntry.getD t.requireZoneEntry
    minCount := data.minCount.getD t.minCount
    cooldownS := data.cooldownS.getD t.cooldownS
    debouncePerTrack := data.debouncePerTrack.getD t.debouncePerTrack
    eventSubtype := data.eventSubtype.orElse fun _ => t.eventSubtype
    actionHint := data.actionHint.orElse fun _ => t.actionHint
    notify := data.notify.getD t.notify
    enabled := data.enabled.getD t.enabled }

/-- The row of a trigger with the defaults of its columns. -/
def fresh (id : Nat) : ObjectTrigger :=
  { id, cameraId := none, name := "", labels := [], zoneId := none, minConfidence := 50
    minDwellMs := 0, requireZoneEntry := false, minCount := 1, cooldownS := 30
    debouncePerTrack := true, eventSubtype := none, actionHint := none, notify := true
    enabled := true, deleted := false }

/-- The trigger applies to a camera. -/
def live (t : ObjectTrigger) (cameraId : Nat) : Bool :=
  t.enabled && !t.deleted && (t.cameraId.isNone || decide (t.cameraId = some cameraId))

/-- What a detection has to be by itself. -/
def matchesRow (t : ObjectTrigger) (row : DetectionRow) : Bool :=
  t.labels.contains row.label && decide (t.minConfidence ≤ row.confidence) &&
    (t.zoneId.isNone || decide (row.zoneId = t.zoneId)) && (!t.requireZoneEntry || row.zoneEntry) &&
    (decide (t.minDwellMs = 0) || decide (t.minDwellMs ≤ row.dwellMs))

/-- The track of a detection, for a trigger that looks at it. -/
def trackOf (t : ObjectTrigger) (row : DetectionRow) : Option String :=
  if t.debouncePerTrack then row.trackKey.filter (· ≠ "") else none

end ObjectTrigger

namespace TriggerTables

/-- The enabled triggers of a camera, those of the camera itself first. Source:
`ObjectTrigger.get_candidates` (`server/model/object_trigger.py:34`). -/
def getCandidates (s : TriggerTables) (cameraId : Nat) : List ObjectTrigger :=
  let l := s.triggers.filter fun t => t.live cameraId
  l.filter (·.cameraId.isSome) ++ l.filter (·.cameraId.isNone)

/-- How many tracks the detections of a label since two seconds before `anchor` have; the detections
without a track count as one. Source: `_concurrent_count`
(`server/service/object_trigger_engine.py:70`). -/
def concurrentCount (s : TriggerTables) (cameraId : Nat) (label : String) (anchor : Int) : Nat :=
  ((s.detections.filter fun d => decide (d.cameraId = cameraId ∧ d.label = label ∧
    anchor - seconds 2 ≤ d.ts)).map (·.trackId)).dedup.length

/-- As far as the tables say, a trigger lets a detection through. -/
def lets (s : TriggerTables) (row : DetectionRow) (t : ObjectTrigger) : Bool :=
  t.matchesRow row && (decide (t.minCount ≤ 1) ||
    decide (t.minCount ≤ s.concurrentCount row.cameraId row.label row.ts))

end TriggerTables

/-- A change of the tables by another request. -/
inductive TriggerEdit
  | create (id : Nat) (data : TriggerData)
  | modify (id : Nat) (data : TriggerData)
  | delete (id : Nat)
  | insert (rows : List DetectionRow)

/-- Source: `ObjectTrigger.create`, `ObjectTrigger.modify` and `ObjectTrigger.soft_delete`
(`server/model/object_trigger.py:48`), and `Detection.bulk_create`
(`server/model/detection.py:46`). -/
def TriggerTables.edit (s : TriggerTables) : TriggerEdit → TriggerTables
  | .create id data => { s with triggers := s.triggers ++ [(ObjectTrigger.fresh id).apply data] }
  | .modify id data =>
    { s with triggers := s.triggers.map fun t =>
        if t.id = id ∧ t.deleted = false then t.apply data else t }
  | .delete id =>
    { s with triggers := s.triggers.map fun t =>
        if t.id = id ∧ t.deleted = false then { t with deleted := true } else t }
  | .insert rows => { s with detections := s.detections ++ rows }

namespace TriggerStore

/-- Source: `_promote` (`server/service/object_trigger_engine.py:55`). -/
def promote (t : ObjectTrigger) (row : DetectionRow) (event : Nat) : Promotion where
  triggerId := t.id
  cameraId := row.cameraId
  subtype := (t.eventSubtype.filter (· ≠ "")).getD row.label
  score := row.confidence
  bbox := row.bbox
  trackKey := row.trackKey
  label := row.label
  nodeId := row.nodeId
  detectionId := row.id
  notify := t.notify
  actionHint := t.actionHint
  event

/-- Source: `_within_cooldown` (`server/service/object_trigger_engine.py:93`). -/
def withinCooldown (s : TriggerStore) (e : TriggerEnv) (triggerId cameraId : Nat) : Bool :=
  e.up && s.cooldowns.live e.now (triggerId, cameraId)

/-- Source: `_seen_track` (`server/service/object_trigger_engine.py:107`). -/
def seenTrack (s : TriggerStore) (e : TriggerEnv) (track : String) (triggerId : Nat) : Bool :=
  e.up && s.tracks.live e.now (track, triggerId)

/-- Source: `_mark_cooldown` (`server/service/object_trigger_engine.py:100`). -/
def markCooldown (s : TriggerStore) (e : TriggerEnv) (t : ObjectTrigger) (cameraId : Nat) :
    TriggerStore :=
  if e.up then
    { s with
      cooldowns := s.cooldowns.setex e.now (t.id, cameraId) (max 1 t.cooldownS)
      cooldownMarks := ⟨(t.id, cameraId), e.now, max 1 t.cooldownS⟩ :: s.cooldownMarks }
  else s

/-- Source: `_mark_track` (`server/service/object_trigger_engine.py:114`). -/
def markTrack (s : TriggerStore) (e : TriggerEnv) (t : ObjectTrigger) (track : Option String) :
    TriggerStore :=
  match track with
  | some k =>
    if e.up then
      { s with
        tracks := s.tracks.setex e.now (k, t.id) (max 60 (t.cooldownS * 4))
        trackMarks := ⟨(k, t.id), e.now, max 60 (t.cooldownS * 4)⟩ :: s.trackMarks }
    else s
  | none => s

/-- `Detection.link_event` -/
def linkEvent (s : TriggerStore) (id event : Nat) : TriggerStore :=
  { s with tables.detections := s.tables.detections.map fun d =>
      if d.id = id then { d with eventId := some event } else d }

end TriggerStore

/-- Where the evaluation of a detection is. It sees the tables as `view`, which its transaction took
when it began; it looks at the trigger `t`, and `rest` are the candidates after that. -/
inductive TriggerStage
  | start
  | look (view : TriggerTables) (rest : List ObjectTrigger)
  | seenTrack (view : TriggerTables) (t : ObjectTrigger) (track : String)
    (rest : List ObjectTrigger)
  | withinCooldown (view : TriggerTables) (t : ObjectTrigger) (rest : List ObjectTrigger)
  | promote (view : TriggerTables) (t : ObjectTrigger)
  | markCooldown (view : TriggerTables) (t : ObjectTrigger) (event : Nat)
  | markTrack (view : TriggerTables) (t : ObjectTrigger) (event : Nat)
  | link (event : Nat)

/-- A request: it edits the tables, or evaluates a detection. -/
inductive TriggerCall
  | edit (a : TriggerEdit)
  | evaluate (row : DetectionRow) (stage : TriggerStage)
  | finished

/-- The next statement of an evaluation. Each call of Redis fails by itself, and what the database
or the pipeline raises ends the evaluation. Source: `evaluate`
(`server/service/object_trigger_engine.py:18`) and `_run_triggers`
(`server/service/detection_ingest.py:132`). -/
def TriggerStage.exec (s : TriggerStore) (row : DetectionRow) (e : TriggerEnv) :
    TriggerStage → TriggerStore × TriggerCall
  | .start =>
    if e.raises then (s, .finished)
    else (s, .evaluate row (.look s.tables (s.tables.getCandidates row.cameraId)))
  | .look _ [] => (s, .finished)
  | .look view (t :: rest) =>
    if e.raises then (s, .finished)
    else if view.lets row t then
      match t.trackOf row with
      | some k => (s, .evaluate row (.seenTrack view t k rest))
      | none => (s, .evaluate row (.withinCooldown view t rest))
    else (s, .evaluate row (.look view rest))
  | .seenTrack view t k rest =>
    if s.seenTrack e k t.id then (s, .evaluate row (.look view rest))
    else (s, .evaluate row (.withinCooldown view t rest))
  | .withinCooldown view t rest =>
    if s.withinCooldown e t.id row.cameraId then (s, .evaluate row (.look view rest))
    else (s, .evaluate row (.promote view t))
  | .promote view t =>
    if e.raises then (s, .finished)
    else
      match e.event with
      | some event => ({ s with promotions := TriggerStore.promote t row event :: s.promotions },
          .evaluate row (.markCooldown view t event))
      -- no other trigger is tried when the pipeline makes no event
      | none => (s, .finished)
  | .markCooldown view t event =>
    (s.markCooldown e t row.cameraId, .evaluate row (.markTrack view t event))
  | .markTrack _ t event => (s.markTrack e t (t.trackOf row), .evaluate row (.link event))
  | .link event => (if e.raises then s else s.linkEvent row.id event, .finished)

/-- The next statement of a request. -/
def TriggerCall.exec (s : TriggerStore) (t : TriggerCall) (e : TriggerEnv) :
    TriggerStore × TriggerCall :=
  match t with
  | .edit a => (if e.raises then s else { s with tables := s.tables.edit a }, .finished)
  | .evaluate row stage => stage.exec s row e
  | .finished => (s, .finished)

abbrev TriggerPool := Pool TriggerStore TriggerCall

abbrev TriggerAct := PoolAct (TriggerEdit ⊕ DetectionRow) TriggerEnv

/-- The first statement of a request. -/
def TriggerCall.start : TriggerEdit ⊕ DetectionRow → TriggerCall
  | .inl a => .edit a
  | .inr row => .evaluate row .start

/-- One action of the scheduler. -/
def TriggerPool.step (p : TriggerPool) (a : TriggerAct) : TriggerPool :=
  Pool.step TriggerCall.start TriggerCall.exec p a

/-- Before the first request. -/
def TriggerPool.start (tables : TriggerTables) (cooldowns : Expiring (Nat × Nat))
    (tracks : Expiring (String × Nat)) : TriggerPool :=
  ⟨⟨tables, cooldowns, tracks, [], [], []⟩, []⟩

/-- The requests and the store after a run. -/
def TriggerPool.after (p : TriggerPool) (as : List TriggerAct) : TriggerPool :=
  as.foldl TriggerPool.step p

/-! ## What an evaluation has done -/

section
variable (p : TriggerPool) (as : List TriggerAct) (i : Nat) (row : DetectionRow)

/-- The evaluation `i` has begun when the tables were `view`. -/
def Began (view : TriggerTables) : Prop :=
  ∃ pre e, pre ++ [.exec i e] <+: as ∧ (p.after pre).threads[i]? = some (.evaluate row .start) ∧
    (p.after pre).shared.tables = view

/-- The evaluation has passed a trigger over: a key of it was alive. -/
def HeldBack (t : ObjectTrigger) : Prop :=
  ∃ pre e, pre ++ [.exec i e] <+: as ∧
    ((p.after pre).shared.withinCooldown e t.id row.cameraId = true ∨
      ∃ k ∈ t.trackOf row, (p.after pre).shared.seenTrack e k t.id = true)

/-- The evaluation has asked for the key of a trigger on the camera: if Redis has answered, the last
one that was written had run out. -/
def AskedCooldown (t : ObjectTrigger) : Prop :=
  ∃ pre e, pre ++ [.exec i e] <+: as ∧
    (∃ view rest, (p.after pre).threads[i]? = some (.evaluate row (.withinCooldown view t rest))) ∧
    (e.up = true → RunOut (p.after pre).shared.cooldownMarks e.now (t.id, row.cameraId))

/-- The evaluation has asked for the key of a trigger on a track: if Redis has answered, the last
one that was written had run out. -/
def AskedTrack (t : ObjectTrigger) (k : String) : Prop :=
  ∃ pre e, pre ++ [.exec i e] <+: as ∧
    (∃ view rest, (p.after pre).threads[i]? = some (.evaluate row (.seenTrack view t k rest))) ∧
    (e.up = true → RunOut (p.after pre).shared.trackMarks e.now (k, t.id))

/-- The evaluation `i` of a detection promotes it by the trigger `t`: one that applies to the camera
and lets the detection through in its view of the tables, and one of the camera itself unless those
were held back; the keys that were written for it had run out. -/
structure PromotedBy (view : TriggerTables) (t : ObjectTrigger) : Prop where
  began : Began p as i row view
  mem : t ∈ view.triggers
  live : t.live row.cameraId = true
  lets : view.lets row t = true
  specific : ∀ u ∈ view.triggers, u.live row.cameraId = true → u.cameraId = some row.cameraId →
    view.lets row u = true → t.cameraId = some row.cameraId ∨ HeldBack p as i row u
  cooldown : AskedCooldown p as i row t
  track : ∀ k ∈ t.trackOf row, AskedTrack p as i row t k

/-- A promotion is that of an evaluation, by a trigger that it may take. -/
def Earned (x : Promotion) : Prop :=
  ∃ i row view t event, x = TriggerStore.promote t row event ∧ PromotedBy p as i row view t

/-- A key of a trigger on a camera was written for a promotion by it, with its cooldown. -/
def OwedCooldown (w : Pass (Nat × Nat)) : Prop :=
  ∃ i row view t event, PromotedBy p as i row view t ∧
    TriggerStore.promote t row event ∈ (p.after as).shared.promotions ∧
    w.key = (t.id, row.cameraId) ∧ w.ttl = max 1 t.cooldownS

/-- A key of a trigger on a track was written for a promotion by it, with four of its cooldowns or a
minute. -/
def OwedTrack (w : Pass (String × Nat)) : Prop :=
  ∃ i row view t event, PromotedBy p as i row view t ∧
    TriggerStore.promote t row event ∈ (p.after as).shared.promotions ∧
    ∃ k ∈ t.trackOf row, w.key = (k, t.id) ∧ w.ttl = max 60 (t.cooldownS * 4)

/-- The evaluation has come to the candidates `rest`, and those before them let nothing through or
were held back. -/
structure Reached (view : TriggerTables) (rest : List ObjectTrigger) : Prop where
  began : Began p as i row view
  passed : ∃ before, view.getCandidates row.cameraId = before ++ rest ∧
    ∀ u ∈ before, view.lets row u = true → HeldBack p as i row u

/-- What is known of an evaluation by where it is. -/
def TriggerStage.Known : TriggerStage → Prop
  | .start => True
  | .look view rest => Reached p as i row view rest
  | .seenTrack view t k rest =>
    Reached p as i row view (t :: rest) ∧ view.lets row t = true ∧ t.trackOf row = some k
  | .withinCooldown view t rest =>
    Reached p as i row view (t :: rest) ∧ view.lets row t = true ∧
      ∀ k ∈ t.trackOf row, AskedTrack p as i row t k
  | .promote view t => PromotedBy p as i row view t
  | .markCooldown view t event | .markTrack view t event =>
    PromotedBy p as i row view t ∧
      TriggerStore.promote t row event ∈ (p.after as).shared.promotions
  | .link _ => True

end

/-! ## One statement -/

section
variable {s : TriggerStore} {row : DetectionRow} {e : TriggerEnv} {t : TriggerCall}
  {stage : TriggerStage}

/-- What a statement writes: nothing but the tables, a promotion, or one of its keys. -/
theorem TriggerCall.exec_cases (s : TriggerStore) (t : TriggerCall) (e : TriggerEnv) :
    (∃ tables, (t.exec s e).1 = { s with tables }) ∨
    (∃ row view u event, t = .evaluate row (.promote view u) ∧
      t.exec s e = ({ s with promotions := TriggerStore.promote u row event :: s.promotions },
        .evaluate row (.markCooldown view u event))) ∨
    (∃ row view u event, t = .evaluate row (.markCooldown view u event) ∧
      (t.exec s e).1 = { s with
        cooldowns := s.cooldowns.setex e.now (u.id, row.cameraId) (max 1 u.cooldownS)
        cooldownMarks :=
          ⟨(u.id, row.cameraId), e.now, max 1 u.cooldownS⟩ :: s.cooldownMarks }) ∨
    ∃ row view u event k, t = .evaluate row (.markTrack view u event) ∧ u.trackOf row = some k ∧
      (t.exec s e).1 = { s with
        tracks := s.tracks.setex e.now (k, u.id) (max 60 (u.cooldownS * 4))
        trackMarks := ⟨(k, u.id), e.now, max 60 (u.cooldownS * 4)⟩ :: s.trackMarks } := by
  cases t with
  | finished => exact .inl ⟨_, rfl⟩
  | edit a =>
    simp only [exec]
    split
    · exact .inl ⟨s.tables, rfl⟩
    · exact .inl ⟨_, rfl⟩
  | evaluate row stage =>
    simp only [exec]
    cases stage with
    | promote view u =>
      simp only [TriggerStage.exec]
      split
      · exact .inl ⟨s.tables, rfl⟩
      split
      · exact .inr (.inl ⟨row, view, u, _, rfl, rfl⟩)
      · exact .inl ⟨s.tables, rfl⟩
    | markCooldown view u event =>
      simp only [TriggerStage.exec, TriggerStore.markCooldown]
      split
      · exact .inr (.inr (.inl ⟨row, view, u, event, rfl, rfl⟩))
      · exact .inl ⟨s.tables, rfl⟩
    | markTrack view u event =>
      simp only [TriggerStage.exec, TriggerStore.markTrack]
      split
      · next k htrack =>
        split
        · exact .inr (.inr (.inr ⟨row, view, u, event, k, rfl, htrack, rfl⟩))
        · exact .inl ⟨s.tables, rfl⟩
      · exact .inl ⟨s.tables, rfl⟩
    | link event =>
      simp only [TriggerStage.exec]
      split
      · exact .inl ⟨s.tables, rfl⟩
      · exact .inl ⟨_, rfl⟩
    | look view rest =>
      refine .inl ⟨s.tables, ?_⟩
      cases rest with
      | nil => rfl
      | cons u rest =>
        simp only [TriggerStage.exec]
        repeat' split
        all_goals rfl
    | _ =>
      refine .inl ⟨s.tables, ?_⟩
      simp only [TriggerStage.exec]
      split <;> rfl

/-- An evaluation goes on with its own detection. -/
theorem TriggerStage.row_exec {row' : DetectionRow} {stage' : TriggerStage}
    (h : (stage.exec s row e).2 = .evaluate row' stage') : row' = row := by
  unfold TriggerStage.exec at h
  repeat' split at h
  all_goals first
    | cases h; rfl
    | cases h

end

section
variable {view : TriggerTables} {cameraId : Nat} {t : ObjectTrigger}

theorem TriggerTables.mem_getCandidates :
    t ∈ view.getCandidates cameraId ↔ t ∈ view.triggers ∧ t.live cameraId = true := by
  unfold getCandidates
  simp only [List.mem_append, List.mem_filter, ← and_or_left]
  refine and_iff_left ?_
  cases t.cameraId <;> simp

theorem ObjectTrigger.cameraId_of_live (h : t.live cameraId = true) :
    t.cameraId = none ∨ t.cameraId = some cameraId := by
  simp only [live, Bool.and_eq_true, Bool.or_eq_true, Option.isNone_iff_eq_none,
    decide_eq_true_eq] at h
  exact h.2

/-- The triggers after one of all cameras are of all cameras. -/
theorem TriggerTables.isNone_of_getCandidates {before rest : List ObjectTrigger}
    (h : view.getCandidates cameraId = before ++ t :: rest) (hnone : t.cameraId.isNone = true) :
    ∀ u ∈ rest, u.cameraId.isNone = true := by
  have hsorted : (view.getCandidates cameraId).Pairwise fun u v =>
      u.cameraId.isNone = true → v.cameraId.isNone = true := by
    unfold getCandidates
    refine List.pairwise_append.2 ⟨?_, ?_, fun u _ v hv _ => (List.mem_filter.1 hv).2⟩
    · refine List.Pairwise.imp_of_mem (fun {u v} hu _ _ hu' => ?_)
        (List.pairwise_of_forall fun _ _ => trivial)
      have hsome := (List.mem_filter.1 hu).2
      rw [Option.isNone_iff_eq_none.1 hu'] at hsome
      cases hsome
    · exact List.Pairwise.imp_of_mem (fun {u v} _ hv _ _ => (List.mem_filter.1 hv).2)
        (List.pairwise_of_forall fun _ _ => trivial)
  rw [h] at hsorted
  exact fun u hu => (List.pairwise_cons.1 (List.pairwise_append.1 hsorted).2.1).1 u hu hnone

end

/-! ## Every interleaving -/

section
variable {p : TriggerPool} {as as' : List TriggerAct} {i : Nat} {row : DetectionRow}
  {view : TriggerTables} {t : ObjectTrigger} {k : String} {rest : List ObjectTrigger}
  {stage : TriggerStage}

theorem TriggerPool.after_append (a : TriggerAct) :
    p.after (as ++ [a]) = (p.after as).step a := by
  unfold after
  rw [List.foldl_append]
  rfl

theorem HeldBack.mono (h : HeldBack p as i row t) (has : as <+: as') : HeldBack p as' i row t := by
  obtain ⟨pre, e, hpre, hlive⟩ := h
  exact ⟨pre, e, hpre.trans has, hlive⟩

theorem Began.mono (h : Began p as i row view) (has : as <+: as') : Began p as' i row view := by
  obtain ⟨pre, e, hpre, hstart⟩ := h
  exact ⟨pre, e, hpre.trans has, hstart⟩

theorem AskedCooldown.mono (h : AskedCooldown p as i row t) (has : as <+: as') :
    AskedCooldown p as' i row t := by
  obtain ⟨pre, e, hpre, hasked⟩ := h
  exact ⟨pre, e, hpre.trans has, hasked⟩

theorem AskedTrack.mono (h : AskedTrack p as i row t k) (has : as <+: as') :
    AskedTrack p as' i row t k := by
  obtain ⟨pre, e, hpre, hasked⟩ := h
  exact ⟨pre, e, hpre.trans has, hasked⟩

theorem PromotedBy.mono (h : PromotedBy p as i row view t) (has : as <+: as') :
    PromotedBy p as' i row view t where
  began := h.began.mono has
  mem := h.mem
  live := h.live
  lets := h.lets
  specific u hu hlive hcam hlets := (h.specific u hu hlive hcam hlets).imp_right fun h => h.mono has
  cooldown := h.cooldown.mono has
  track k hk := (h.track k hk).mono has

theorem Reached.mono (h : Reached p as i row view rest) (has : as <+: as') :
    Reached p as' i row view rest := by
  obtain ⟨hbegan, before, hbefore, hheld⟩ := h
  exact ⟨hbegan.mono has, before, hbefore, fun u hu hlets => (hheld u hu hlets).mono has⟩

/-- The evaluation passes the first of its candidates over. -/
theorem Reached.next (h : Reached p as i row view (t :: rest))
    (hpass : view.lets row t = true → HeldBack p as i row t) : Reached p as i row view rest := by
  obtain ⟨hbegan, before, hbefore, hheld⟩ := h
  refine ⟨hbegan, before ++ [t], by rw [hbefore, List.append_assoc]; rfl, fun u hu hlets => ?_⟩
  rcases List.mem_append.1 hu with hu | hu
  · exact hheld u hu hlets
  · obtain rfl := List.mem_singleton.1 hu
    exact hpass hlets

/-- The first candidate that is not passed over promotes the detection. -/
theorem Reached.promotedBy (h : Reached p as i row view (t :: rest))
    (hlets : view.lets row t = true) (hcooldown : AskedCooldown p as i row t)
    (htrack : ∀ k ∈ t.trackOf row, AskedTrack p as i row t k) : PromotedBy p as i row view t := by
  obtain ⟨hbegan, before, hbefore, hheld⟩ := h
  obtain ⟨hmem, hlive⟩ := TriggerTables.mem_getCandidates.1
    (hbefore ▸ List.mem_append_right before List.mem_cons_self :
      t ∈ view.getCandidates row.cameraId)
  refine ⟨hbegan, hmem, hlive, hlets, fun u hu hlive' hcam hlets' => ?_, hcooldown, htrack⟩
  have hcand : u ∈ before ++ t :: rest := hbefore ▸ TriggerTables.mem_getCandidates.2 ⟨hu, hlive'⟩
  rcases List.mem_append.1 hcand with hu | hu
  · exact .inr (hheld u hu hlets')
  rcases List.mem_cons.1 hu with rfl | hu
  · exact .inl hcam
  · -- a trigger of the camera does not come after one of all cameras
    refine .inl ((ObjectTrigger.cameraId_of_live hlive).resolve_left fun hnone => ?_)
    have hafter := TriggerTables.isNone_of_getCandidates hbefore (by rw [hnone]; rfl) u hu
    rw [hcam] at hafter
    cases hafter

/-- What the requests know and have written, after a run. -/
structure TriggerInv (p : TriggerPool) (as : List TriggerAct) : Prop where
  known : ∀ i row stage, (p.after as).threads[i]? = some (.evaluate row stage) →
    TriggerStage.Known p as i row stage
  promotions : ∀ x ∈ (p.after as).shared.promotions, Earned p as x
  cooldownMarks : ∀ w ∈ (p.after as).shared.cooldownMarks, OwedCooldown p as w
  trackMarks : ∀ w ∈ (p.after as).shared.trackMarks, OwedTrack p as w
  cooldowns : LastWrites (p.after as).shared.cooldowns (p.after as).shared.cooldownMarks
  tracks : LastWrites (p.after as).shared.tracks (p.after as).shared.trackMarks

theorem Earned.mono {x : Promotion} (h : Earned p as x) (has : as <+: as') : Earned p as' x := by
  obtain ⟨i, row, view, t, event, hx, hby⟩ := h
  exact ⟨i, row, view, t, event, hx, hby.mono has⟩

theorem OwedCooldown.mono {w : Pass (Nat × Nat)} (h : OwedCooldown p as w) (has : as <+: as')
    (hsub : (p.after as).shared.promotions ⊆ (p.after as').shared.promotions) :
    OwedCooldown p as' w := by
  obtain ⟨i, row, view, t, event, hby, hx, hkey⟩ := h
  exact ⟨i, row, view, t, event, hby.mono has, hsub hx, hkey⟩

theorem OwedTrack.mono {w : Pass (String × Nat)} (h : OwedTrack p as w) (has : as <+: as')
    (hsub : (p.after as).shared.promotions ⊆ (p.after as').shared.promotions) :
    OwedTrack p as' w := by
  obtain ⟨i, row, view, t, event, hby, hx, hkey⟩ := h
  exact ⟨i, row, view, t, event, hby.mono has, hsub hx, hkey⟩

/-- What was known of an evaluation is known of it later on. -/
theorem TriggerStage.Known.mono (h : TriggerStage.Known p as i row stage) (has : as <+: as')
    (hsub : (p.after as).shared.promotions ⊆ (p.after as').shared.promotions) :
    TriggerStage.Known p as' i row stage := by
  cases stage with
  | start | link event => trivial
  | look view rest => exact Reached.mono h has
  | seenTrack view t k rest => exact ⟨h.1.mono has, h.2⟩
  | withinCooldown view t rest => exact ⟨h.1.mono has, h.2.1, fun k hk => (h.2.2 k hk).mono has⟩
  | promote view t => exact PromotedBy.mono h has
  | markCooldown view t event | markTrack view t event => exact ⟨h.1.mono has, hsub h.2⟩

/-- What is known of an evaluation after a statement of its own. -/
theorem TriggerInv.known_exec (h : TriggerInv p as) {e : TriggerEnv}
    (ht : (p.after as).threads[i]? = some (.evaluate row stage)) {stage' : TriggerStage}
    (hstage : (stage.exec (p.after as).shared row e).2 = .evaluate row stage')
    (hafter : (p.after (as ++ [.exec i e])).shared = (stage.exec (p.after as).shared row e).1) :
    TriggerStage.Known p (as ++ [.exec i e]) i row stage' := by
  have hknown := h.known i row stage ht
  have has : as <+: as ++ [.exec i e] := List.prefix_append as _
  have hheld {t : ObjectTrigger}
      (hlive : (p.after as).shared.withinCooldown e t.id row.cameraId = true ∨
        ∃ k ∈ t.trackOf row, (p.after as).shared.seenTrack e k t.id = true) :
      HeldBack p (as ++ [.exec i e]) i row t := ⟨as, e, List.prefix_rfl, hlive⟩
  cases stage with
  | start =>
    simp only [TriggerStage.exec] at hstage
    split at hstage
    · cases hstage
    · cases hstage
      exact ⟨⟨as, e, List.prefix_rfl, ht, rfl⟩, [], rfl, fun u hu => absurd hu List.not_mem_nil⟩
  | look view rest =>
    cases rest with
    | nil => cases hstage
    | cons t rest =>
      have hreached := Reached.mono hknown has
      simp only [TriggerStage.exec] at hstage
      split at hstage
      · cases hstage
      split at hstage
      · next hlets =>
        split at hstage
        · next k htrack =>
          cases hstage
          exact ⟨hreached, hlets, htrack⟩
        · next htrack =>
          cases hstage
          exact ⟨hreached, hlets, fun k hk => by rw [htrack] at hk; cases hk⟩
      · next hlets =>
        cases hstage
        exact hreached.next fun hlets' => absurd hlets' hlets
  | seenTrack view t k rest =>
    obtain ⟨hreached, hlets, htrack⟩ := hknown
    simp only [TriggerStage.exec] at hstage
    split at hstage
    · next hseen =>
      cases hstage
      exact (hreached.mono has).next fun _ => hheld (.inr ⟨k, htrack, hseen⟩)
    · next hseen =>
      cases hstage
      refine ⟨hreached.mono has, hlets, fun k' hk' => ?_⟩
      obtain rfl := Option.some_inj.1 (htrack.symm.trans hk')
      refine ⟨as, e, List.prefix_rfl, ⟨view, rest, ht⟩, fun hup => h.tracks.runOut ?_⟩
      simpa [TriggerStore.seenTrack, hup] using hseen
  | withinCooldown view t rest =>
    obtain ⟨hreached, hlets, htrack⟩ := hknown
    simp only [TriggerStage.exec] at hstage
    split at hstage
    · next hwithin =>
      cases hstage
      exact (hreached.mono has).next fun _ => hheld (.inl hwithin)
    · next hwithin =>
      cases hstage
      refine (hreached.mono has).promotedBy hlets
        ⟨as, e, List.prefix_rfl, ⟨view, rest, ht⟩, fun hup => h.cooldowns.runOut ?_⟩
        fun k hk => (htrack k hk).mono has
      simpa [TriggerStore.withinCooldown, hup] using hwithin
  | promote view t =>
    simp only [TriggerStage.exec] at hstage hafter
    split at hstage
    · cases hstage
    next hraises =>
    rw [if_neg hraises] at hafter
    split at hstage
    · next event hevent =>
      cases hstage
      rw [hevent] at hafter
      exact ⟨PromotedBy.mono hknown has, by rw [hafter]; exact List.mem_cons_self⟩
    · cases hstage
  | markCooldown view t event =>
    cases hstage
    refine ⟨hknown.1.mono has, ?_⟩
    rw [hafter]
    simp only [TriggerStage.exec, TriggerStore.markCooldown]
    split <;> exact hknown.2
  | markTrack view t event =>
    cases hstage
    trivial
  | link event => cases hstage

theorem TriggerCall.promotions_exec (s : TriggerStore) (t : TriggerCall) (e : TriggerEnv) :
    s.promotions ⊆ (t.exec s e).1.promotions := by
  rcases t.exec_cases s e with ⟨_, heq⟩ | ⟨_, _, _, _, -, heq⟩ | ⟨_, _, _, _, -, heq⟩ |
    ⟨_, _, _, _, _, -, -, heq⟩ <;> rw [heq]
  · exact fun x hx => hx
  · exact fun x hx => .tail _ hx
  · exact fun x hx => hx
  · exact fun x hx => hx

/-- What holds of the requests and the store after a statement. -/
theorem TriggerInv.exec (h : TriggerInv p as) {e : TriggerEnv} {c : TriggerCall}
    (hc : (p.after as).threads[i]? = some c)
    (hafter : p.after (as ++ [.exec i e]) = ⟨(c.exec (p.after as).shared e).1,
      (p.after as).threads.set i (c.exec (p.after as).shared e).2⟩) :
    TriggerInv p (as ++ [.exec i e]) := by
  have has : as <+: as ++ [.exec i e] := List.prefix_append as _
  have hshared := congrArg Pool.shared hafter
  have hsub : (p.after as).shared.promotions ⊆ (p.after (as ++ [.exec i e])).shared.promotions := by
    rw [hshared]
    exact c.promotions_exec _ e
  have hknown : ∀ j row stage,
      (p.after (as ++ [.exec i e])).threads[j]? = some (.evaluate row stage) →
      TriggerStage.Known p (as ++ [.exec i e]) j row stage := by
    intro j row stage hj
    rw [hafter] at hj
    rcases Pool.getElem?_exec hj with ⟨rfl, hmoved⟩ | ⟨-, hj⟩
    · cases c with
      | edit a => cases hmoved
      | finished => cases hmoved
      | evaluate row' stage' =>
        obtain rfl := TriggerStage.row_exec hmoved.symm
        exact h.known_exec hc hmoved.symm hshared
    · exact (h.known j row stage hj).mono has hsub
  have hearned : ∀ x ∈ (p.after as).shared.promotions, Earned p (as ++ [.exec i e]) x :=
    fun x hx => (h.promotions x hx).mono has
  have hcooldown : ∀ w ∈ (p.after as).shared.cooldownMarks, OwedCooldown p (as ++ [.exec i e]) w :=
    fun w hw => (h.cooldownMarks w hw).mono has hsub
  have htrack : ∀ w ∈ (p.after as).shared.trackMarks, OwedTrack p (as ++ [.exec i e]) w :=
    fun w hw => (h.trackMarks w hw).mono has hsub
  rcases c.exec_cases (p.after as).shared e with ⟨tables, heq⟩ | ⟨row, view, t, event, rfl, heq⟩ |
    ⟨row, view, t, event, rfl, heq⟩ | ⟨row, view, t, event, k, rfl, hk, heq⟩
  · rw [heq] at hshared
    exact ⟨hknown, by rwa [hshared], by rwa [hshared], by rwa [hshared], by
      rw [hshared]; exact h.cooldowns, by rw [hshared]; exact h.tracks⟩
  · rw [heq] at hshared
    have hby : PromotedBy p as i row view t := h.known i row _ hc
    refine ⟨hknown, ?_, by rwa [hshared], by rwa [hshared], by rw [hshared]; exact h.cooldowns, by
      rw [hshared]; exact h.tracks⟩
    rw [hshared]
    exact List.forall_mem_cons.2 ⟨⟨i, row, view, t, event, rfl, hby.mono has⟩, hearned⟩
  · rw [heq] at hshared
    obtain ⟨hby, hx⟩ : PromotedBy p as i row view t ∧ _ := h.known i row _ hc
    have hnew : OwedCooldown p (as ++ [.exec i e])
        ⟨(t.id, row.cameraId), e.now, max 1 t.cooldownS⟩ :=
      ⟨i, row, view, t, event, hby.mono has, hsub hx, rfl, rfl⟩
    refine ⟨hknown, by rwa [hshared], ?_, by rwa [hshared], ?_, by rw [hshared]; exact h.tracks⟩
    · rw [hshared]
      exact List.forall_mem_cons.2 ⟨hnew, hcooldown⟩
    · rw [hshared]
      exact h.cooldowns.setex _ _ _
  · rw [heq] at hshared
    obtain ⟨hby, hx⟩ : PromotedBy p as i row view t ∧ _ := h.known i row _ hc
    have hnew : OwedTrack p (as ++ [.exec i e]) ⟨(k, t.id), e.now, max 60 (t.cooldownS * 4)⟩ :=
      ⟨i, row, view, t, event, hby.mono has, hsub hx, k, hk, rfl, rfl⟩
    refine ⟨hknown, by rwa [hshared], by rwa [hshared], ?_, by rw [hshared]; exact h.cooldowns, ?_⟩
    · rw [hshared]
      exact List.forall_mem_cons.2 ⟨hnew, htrack⟩
    · rw [hshared]
      exact h.tracks.setex _ _ _

/-- What holds of the requests and the store after an action that leaves the store alone, and brings
no evaluation anywhere. -/
theorem TriggerInv.idle (h : TriggerInv p as) {a : TriggerAct}
    (hshared : (p.after (as ++ [a])).shared = (p.after as).shared)
    (hthreads : ∀ (i : Nat) (row : DetectionRow) (stage : TriggerStage),
      (p.after (as ++ [a])).threads[i]? = some (.evaluate row stage) →
      stage = .start ∨ (p.after as).threads[i]? = some (.evaluate row stage)) :
    TriggerInv p (as ++ [a]) := by
  have has : as <+: as ++ [a] := List.prefix_append as _
  have hsub : (p.after as).shared.promotions ⊆ (p.after (as ++ [a])).shared.promotions := by
    rw [hshared]
    exact List.Subset.refl _
  refine ⟨fun i row stage hi => ?_, fun x hx => ?_, fun w hw => ?_, fun w hw => ?_, ?_, ?_⟩
  · rcases hthreads i row stage hi with rfl | hi
    · trivial
    · exact (h.known i row stage hi).mono has hsub
  · rw [hshared] at hx
    exact (h.promotions x hx).mono has
  · rw [hshared] at hw
    exact (h.cooldownMarks w hw).mono has hsub
  · rw [hshared] at hw
    exact (h.trackMarks w hw).mono has hsub
  · rw [hshared]
    exact h.cooldowns
  · rw [hshared]
    exact h.tracks

theorem TriggerInv.step (h : TriggerInv p as) (a : TriggerAct) : TriggerInv p (as ++ [a]) := by
  have hstep := @TriggerPool.after_append p as a
  unfold TriggerPool.step at hstep
  rcases Pool.step_cases (p.after as) a with heq | ⟨r, -, heq⟩ | ⟨i, e, c, rfl, hc, heq⟩ <;>
    rw [heq] at hstep
  · refine h.idle (by rw [hstep]) fun i row stage hi => .inr ?_
    rwa [hstep] at hi
  · refine h.idle (by rw [hstep]) fun i row stage hi => ?_
    rw [hstep] at hi
    rcases Pool.getElem?_spawn hi with hi | ⟨-, hstart⟩
    · exact .inr hi
    · cases r with
      | inl a => cases hstart
      | inr row' =>
        cases hstart
        exact .inl rfl
  · exact h.exec hc hstep

end

end AeroXProtect
