import AeroXProtect.Event.Tables

/-!
# The event pipeline

`process`: one normalized event goes through the state machine, the policy and the schedule, and is
recorded, announced or dropped. A message carries what the code reads from the world while it is
processed: four readings of the clock and whether the cache server answered. `activeEventSweeper`
and `cleanupEvents` are the two maintenance tasks over the same rows, and `step` takes one of the
three. Policies and schedules do not change while events are processed (`Rules`).
-/

open Lib

namespace AeroXProtect

/-! ## State and messages -/

/-- The tables the pipeline reads and does not write, and the collation of the text columns. -/
structure Rules where
  policies : EventPolicies
  schedules : Schedules
  storagePolicies : StoragePolicies
  siteLocal : Int → Nat × Int
  collate : String → String

/-- A row of `event_outbox`. -/
structure OutboxRow where
  eventId : Nat
  cameraId : Nat
  eventType : String
  deriving DecidableEq, Repr

/-- The tables the pipeline writes, the cooldown keys and the latest reading of the clock. -/
structure Pipeline where
  events : Events
  recordings : Recordings
  cooldowns : Expiring String
  outbox : List OutboxRow
  clock : Int

/-- A normalized event of a camera and the world it is processed in: the clock at the start, at the
cooldown check, at the clip and at the trigger mark, and whether the cache server answers the check
and the mark. -/
structure EventInput where
  cameraId : Nat
  n : NormalizedEvent
  source : String
  now : Int
  checkedAt : Int
  clippedAt : Int
  markedAt : Int
  checkUp : Bool
  markUp : Bool

/-! ## Decision -/

/-- The action of a policy under a schedule mode. Source: `combine`
(`server/service/event_pipeline.py:21`). -/
def combine (action : EventAction) (mode : ScheduleMode) (eventType : String) : PolicyAction :=
  match action with
  | .discard => .discard
  | .notifyOnly => if mode = .motionOnly ∧ eventType ≠ "motion" then .discard else .notifyOnly
  | .timelapse =>
    if mode = .off then .discard
    else if mode = .motionOnly ∧ eventType ≠ "motion" then .discard
    else .timelapse
  | .record =>
    if mode = .off then .discard
    else if mode = .motionOnly ∧ eventType ≠ "motion" then .discard
    else .record
  | .other _ => .discard

/-- An optional value as `'%s'` prints it. -/
def pyStr (s : Option String) : String := s.getD "None"

/-- The key that identifies an ongoing event. Source: `_process`
(`server/service/event_pipeline.py:95`). -/
def dedupKey (cameraId : Nat) (n : NormalizedEvent) : String :=
  let dedup := toString cameraId ++ ":" ++ n.type ++ ":" ++ pyStr n.subtype ++ ":" ++
    pyStr (n.channel.map toString)
  if truthy n.dedupExtra then dedup ++ ":" ++ n.dedupExtra.getD "" else dedup

namespace Pipeline

/-- A cache server that does not answer counts as no cooldown. Source: `_within_cooldown`
(`server/service/event_pipeline.py:48`). -/
def withinCooldown (s : Pipeline) (dedup : String) (now : Int) (up : Bool) : Bool :=
  up && s.cooldowns.live now dedup

/-- Source: `_mark_trigger` (`server/service/event_pipeline.py:56`). -/
def markTrigger (s : Pipeline) (dedup : String) (cooldownS now : Int) (up : Bool) : Pipeline :=
  if up then { s with cooldowns := s.cooldowns.setex now dedup (max 1 cooldownS) } else s

/-- Source: `_set_action` (`server/service/event_pipeline.py:151`). -/
def setAction (s : Pipeline) (id : Nat) (action : PolicyAction) : Pipeline :=
  { s with events := s.events.setPolicyAction id action }

/-- Source: `_create` (`server/service/event_pipeline.py:144`). -/
def create (s : Pipeline) (m : EventInput) (dedup : String) (state : EventState) :
    Pipeline × Event :=
  let ev : Event :=
    { id := s.events.freshKey, cameraId := m.cameraId, type := m.n.type, subtype := m.n.subtype,
      state, startTs := m.now, endTs := none, durationMs := none, score := m.n.score,
      source := m.source, channel := m.n.channel, recordingId := none, policyAction := none,
      dedupKey := dedup, vendorEventId := m.n.vendorEventId, deletedAt := none }
  ({ s with events := s.events.insert ev }, ev)

/-- Source: `EventOutbox.publish` (`server/model/event_outbox.py:26`). -/
def publish (s : Pipeline) (ev : Event) : Pipeline :=
  { s with outbox := s.outbox ++ [⟨ev.id, ev.cameraId, ev.type⟩] }

end Pipeline

/-! ## The clip -/

/-- How far back the cache reaches. Source: `materialize` (`server/service/event_clip.py:22`). -/
def Rules.cacheSeconds (r : Rules) (cameraId : Nat) : Int :=
  match r.storagePolicies.getForCamera cameraId with
  | some p => if p.cacheBufferSeconds = 0 then 60 else p.cacheBufferSeconds
  | none => 60

namespace Pipeline

/-- The recording of an interval: the earliest that overlaps it is extended, else one is created.
Answers the id of the recording. -/
def clip (s : Pipeline) (ev : Event) (start stop : Int) : Recordings × Nat :=
  match s.recordings.findOverlapping ev.cameraId start stop .event with
  | some existing => (s.recordings.extend existing.id start stop, existing.id)
  | none =>
    (s.recordings.create ev.cameraId .event .classEvent start (some stop)
      (some ("event:" ++ ev.type)), s.recordings.freshKey)

/-- Source: `materialize` (`server/service/event_clip.py:16`). -/
def materialize (s : Pipeline) (r : Rules) (eventId : Nat) (preS postS : Int) (now : Int) :
    Pipeline :=
  match s.events.get? eventId with
  | none => s
  | some ev =>
    if ev.deletedAt.isSome then s
    else
      let start := ev.startTs - seconds (min preS (r.cacheSeconds ev.cameraId))
      let stop := ev.endTs.getD now + seconds postS
      let clip := s.clip ev start stop
      { s with recordings := clip.1, events := s.events.setRecordingId eventId clip.2 }

/-! ## Processing -/

/-- The part of `_process` after the state machine: policy, schedule, clip and outbox. Source:
`_process` (`server/service/event_pipeline.py:117`). -/
def applyPolicy (s : Pipeline) (r : Rules) (m : EventInput) (dedup : String) (ev : Event) :
    Pipeline :=
  match EventPolicyResolver.resolve r.collate r.policies m.cameraId m.n.type m.n.subtype with
  | none => s
  | some policy =>
    if !policy.enabled then s
    else if policy.minScore.any fun min => decide (m.n.score.getD 0 < min) then
      s.setAction ev.id .discardScore
    else if s.withinCooldown dedup m.checkedAt m.checkUp then s.setAction ev.id .discardCooldown
    else
      let mode := ScheduleResolver.mode r.schedules r.siteLocal m.cameraId ev.startTs
      let action := combine policy.action mode m.n.type
      let s₁ := s.setAction ev.id action
      let s₂ :=
        if action = .record then
          (s₁.materialize r ev.id policy.preBufferS policy.postBufferS m.clippedAt).markTrigger
            dedup policy.cooldownS m.markedAt m.markUp
        else s₁
      if action ≠ .discard ∧ (policy.notify ∨ action = .notifyOnly) then s₂.publish ev else s₂

/-- One message, with the event it answers. Source: `_process`
(`server/service/event_pipeline.py:90`). -/
def process (s : Pipeline) (r : Rules) (m : EventInput) : Pipeline × Option Nat :=
  let s := { s with clock := m.now }
  if truthy m.n.vendorEventId &&
      s.events.existsVendor r.collate m.cameraId (m.n.vendorEventId.getD "") then
    (s, none)
  else
    let dedup := dedupKey m.cameraId m.n
    match m.n.state with
    | .start =>
      match s.events.getActiveByDedup r.collate dedup with
      | some active => (s, some active.id)
      | none =>
        let (s', ev) := s.create m dedup .active
        (s'.applyPolicy r m dedup ev, some ev.id)
    | .stop =>
      match s.events.getActiveByDedup r.collate dedup with
      | none => (s, none)
      | some ev =>
        ({ s with events := s.events.close ev.id m.now }.applyPolicy r m dedup ev, some ev.id)
    | .pulse =>
      let (s', ev) := s.create m dedup .pulse
      (s'.applyPolicy r m dedup ev, some ev.id)

/-! ## Maintenance -/

/-- Active events without an end are closed after this many seconds. -/
def maxActiveAgeS : Int := 120

/-- Events are soft-deleted after this many days. -/
def eventRetentionDays : Int := 90

/-- Close the stale active events; `closedAt` is the clock at each close. Source:
`active_event_sweeper` (`server/task/list/event_maintenance.py:17`). -/
def activeEventSweeper (s : Pipeline) (now : Int) (closedAt : Nat → Int) : Pipeline :=
  { s with
    events := (s.events.getStaleActive (now - seconds maxActiveAgeS) 1000).foldl
      (fun t e => t.close e.id (closedAt e.id)) s.events
    clock := now }

/-- Soft-delete old events. Source: `cleanup_events` (`server/task/list/event_maintenance.py:31`).
-/
def cleanupEvents (s : Pipeline) (now : Int) : Pipeline :=
  { s with
    events := s.events.deleteBefore (now - days eventRetentionDays) now
    clock := now }

end Pipeline

/-- What happens to the event rows: a message, a run of the sweeper, a run of the cleanup. -/
inductive EventStep
  | message (m : EventInput)
  | sweep (now : Int) (closedAt : Nat → Int)
  | cleanup (now : Int)

/-- The pipeline after one step. -/
def Pipeline.step (r : Rules) (s : Pipeline) : EventStep → Pipeline
  | .message m => (s.process r m).1
  | .sweep now closedAt => s.activeEventSweeper now closedAt
  | .cleanup now => s.cleanupEvents now

/-- The clock does not go back, between steps and within one. -/
def EventStep.InOrder (s : Pipeline) : EventStep → Prop
  | .message m =>
    s.clock ≤ m.now ∧ m.now ≤ m.checkedAt ∧ m.checkedAt ≤ m.clippedAt ∧ m.clippedAt ≤ m.markedAt
  | .sweep now closedAt => s.clock ≤ now ∧ ∀ id, now ≤ closedAt id
  | .cleanup now => s.clock ≤ now

end AeroXProtect
