import AeroXProtect.Storage.Tables

/-!
# Events, event policies and schedules

The tables the event pipeline reads and writes, with their queries, and the two resolvers over the
policy and the schedule table. The normalized type of an event is an open string: a vendor topic may
map to any of them, and `'*'` in a policy stands for all. The queries compare texts as the collation
of the column does, without case and accents: two texts are equal when `collate` maps them to the
same one. The `raw` payload, the region and the snapshot path are carried by the code and read by
nothing modelled here.
-/

open Lib

namespace AeroXProtect

/-! ## Events -/

/-- Source: `STATE_ACTIVE`, `STATE_ENDED`, `STATE_PULSE` (`server/model/event.py:10`). -/
inductive EventState
  | active | ended | pulse
  deriving DecidableEq, Repr

/-- The values the pipeline writes into `policy_action`. -/
inductive PolicyAction
  | discard | notifyOnly | timelapse | record | discardScore | discardCooldown
  deriving DecidableEq, Repr

/-- A row of `events`. -/
structure Event where
  id : Nat
  cameraId : Nat
  type : String
  subtype : Option String
  state : EventState
  startTs : Int
  endTs : Option Int
  durationMs : Option Int
  score : Option Int
  source : String
  channel : Option Int
  recordingId : Option Nat
  policyAction : Option PolicyAction
  dedupKey : String
  vendorEventId : Option String
  deletedAt : Option Int
  deriving DecidableEq, Repr

/-- What a message says about its event: `'start'`, `'end'`, or anything else, which is a single
shot. -/
inductive EventMsg
  | start | stop | pulse
  deriving DecidableEq, Repr

/-- A vendor event in unified shape. Source: `NormalizedEvent`
(`server/service/event_normalizer.py:76`). -/
structure NormalizedEvent where
  type : String
  state : EventMsg
  subtype : Option String
  score : Option Int
  channel : Option Int
  vendorEventId : Option String
  dedupExtra : Option String
  deriving DecidableEq, Repr

abbrev Events := Table Event.id

namespace Events

/-- Deleted rows count too. Source: `Event.exists_vendor` (`server/model/event.py:66`). -/
def existsVendor (collate : String → String) (t : Events) (cameraId : Nat)
    (vendorEventId : String) : Bool :=
  t.rows.any fun e =>
    decide (e.cameraId = cameraId) &&
      decide (e.vendorEventId.map collate = some (collate vendorEventId))

/-- Whether a row is a live active event of the key. -/
def isActive (collate : String → String) (dedup : String) (e : Event) : Bool :=
  decide (collate e.dedupKey = collate dedup) && decide (e.state = .active) && e.deletedAt.isNone

/-- The latest active event of the key. Source: `Event.get_active_by_dedup`
(`server/model/event.py:71`). -/
def getActiveByDedup (collate : String → String) (t : Events) (dedup : String) : Option Event :=
  (orderBy (fun e => -e.startTs) (t.rows.filter (isActive collate dedup))).head?

/-- Source: `Event.get_stale_active` (`server/model/event.py:77`). -/
def getStaleActive (t : Events) (olderThan : Int) (limit : Nat) : List Event :=
  (t.rows.filter fun e =>
    decide (e.state = .active) && decide (e.startTs < olderThan) && e.deletedAt.isNone).take limit

/-- The row after `close`. The duration is exact, where the program computes it in floating point;
nothing reads it. -/
def closed (endTs : Int) (e : Event) : Event :=
  { e with
    endTs := some endTs
    state := .ended
    durationMs := some (max 0 ((endTs - e.startTs) / 1000)) }

/-- Source: `Event.close` (`server/model/event.py:143`). -/
def close (t : Events) (id : Nat) (endTs : Int) : Events :=
  t.modify (fun e => decide (e.id = id)) (closed endTs)

/-- Write the `policy_action` of an event. -/
def setPolicyAction (t : Events) (id : Nat) (action : PolicyAction) : Events :=
  t.modify (fun e => decide (e.id = id)) fun e => { e with policyAction := some action }

/-- Write the `recording_id` of an event. -/
def setRecordingId (t : Events) (id recordingId : Nat) : Events :=
  t.modify (fun e => decide (e.id = id)) fun e => { e with recordingId := some recordingId }

/-- Soft-delete the live events that started before the cutoff. -/
def deleteBefore (t : Events) (cutoff now : Int) : Events :=
  t.modify (fun e => decide (e.startTs < cutoff) && e.deletedAt.isNone) fun e =>
    { e with deletedAt := some now }

theorem mem_setPolicyAction {t : Events} {e : Event} (he : e ∈ t) (action : PolicyAction) :
    { e with policyAction := some action } ∈ t.setPolicyAction e.id action := by
  unfold setPolicyAction
  exact Table.mem_modify.2 ⟨e, he, by simp⟩

theorem mem_setRecordingId {t : Events} {e : Event} (he : e ∈ t) (recordingId : Nat) :
    { e with recordingId := some recordingId } ∈ t.setRecordingId e.id recordingId := by
  unfold setRecordingId
  exact Table.mem_modify.2 ⟨e, he, by simp⟩

/-- The rows after a close. -/
theorem mem_close {t : Events} {id : Nat} {endTs : Int} {e : Event} :
    e ∈ t.close id endTs ↔ ∃ x ∈ t, e = if x.id = id then closed endTs x else x := by
  simpa [close] using
    Table.mem_modify (t := t) (x := e) (p := fun e => decide (e.id = id)) (f := closed endTs)

/-- The rows after a soft deletion. -/
theorem mem_deleteBefore {t : Events} {cutoff now : Int} {e : Event} :
    e ∈ t.deleteBefore cutoff now ↔ ∃ x ∈ t,
      e = if x.startTs < cutoff ∧ x.deletedAt = none then { x with deletedAt := some now }
        else x := by
  simpa [deleteBefore] using
    Table.mem_modify (t := t) (x := e) (f := fun e => { e with deletedAt := some now })
      (p := fun e => decide (e.startTs < cutoff) && e.deletedAt.isNone)

end Events

/-! ## Event policies -/

/-- The action of a policy; `other` is a value outside `ACTIONS`. -/
inductive EventAction
  | record | discard | timelapse | notifyOnly
  | other (name : String)
  deriving DecidableEq, Repr

/-- A row of `event_policies`; `cameraId = none` is a global policy. -/
structure EventPolicy where
  id : Nat
  cameraId : Option Nat
  eventType : String
  subtype : Option String
  action : EventAction
  preBufferS : Int
  postBufferS : Int
  cooldownS : Int
  minScore : Option Int
  notify : Bool
  enabled : Bool
  deletedAt : Option Int
  deriving DecidableEq, Repr

abbrev EventPolicies := Table EventPolicy.id

namespace EventPolicies

/-- Source: `EventPolicy.get_candidates` (`server/model/event_policy.py:35`). -/
def getCandidates (collate : String → String) (t : EventPolicies) (cameraId : Nat)
    (eventType : String) : List EventPolicy :=
  t.rows.filter fun p =>
    p.deletedAt.isNone && p.enabled &&
      (decide (p.cameraId = some cameraId) || p.cameraId.isNone) &&
      (decide (collate p.eventType = collate eventType) ||
        decide (collate p.eventType = collate "*"))

end EventPolicies

/-- `if value:` on an optional string: present and not empty. -/
def truthy (s : Option String) : Bool :=
  match s with
  | some v => decide (v ≠ "")
  | none => false

namespace EventPolicyResolver

/-- Source: `_rank` (`server/service/event_policy_resolver.py:8`). -/
def rank (p : EventPolicy) (cameraId : Nat) (eventType : String) (subtype : Option String) : Int :=
  (if p.cameraId = some cameraId then 1000 else 0) +
    (if p.eventType = eventType then 100 else if p.eventType = "*" then 10 else 0) +
    (if truthy p.subtype && truthy subtype && decide (p.subtype = subtype) then 5 else 0)

/-- Whether a policy for one subtype is passed over. -/
def excluded (p : EventPolicy) (subtype : Option String) : Bool :=
  truthy p.subtype && decide (p.subtype ≠ some (subtype.getD ""))

/-- One round of the loop of `resolve`: the best candidate so far, with its rank. -/
def better (cameraId : Nat) (eventType : String) (subtype : Option String)
    (best : Option EventPolicy × Int) (p : EventPolicy) : Option EventPolicy × Int :=
  if excluded p subtype then best
  else if rank p cameraId eventType subtype > best.2 then
    (some p, rank p cameraId eventType subtype)
  else best

/-- Source: `resolve` (`server/service/event_policy_resolver.py:20`). -/
def resolve (collate : String → String) (t : EventPolicies) (cameraId : Nat) (eventType : String)
    (subtype : Option String) : Option EventPolicy :=
  ((t.getCandidates collate cameraId eventType).foldl (better cameraId eventType subtype)
    (none, -1)).1

/-- The policy resolved to is one of the candidates. -/
theorem resolve_mem {collate : String → String} {t : EventPolicies} {cameraId : Nat}
    {eventType : String} {subtype : Option String} {policy : EventPolicy}
    (h : resolve collate t cameraId eventType subtype = some policy) :
    policy ∈ t.getCandidates collate cameraId eventType := by
  have key : ∀ (l : List EventPolicy) (b : Option EventPolicy × Int),
      (l.foldl (better cameraId eventType subtype) b).1 = some policy →
      b.1 = some policy ∨ policy ∈ l := by
    intro l
    induction l with
    | nil => exact fun b hb => .inl hb
    | cons p l ih =>
      intro b hb
      rcases ih _ hb with hp | hp
      · unfold better at hp
        split at hp
        · exact .inl hp
        · split at hp
          · exact .inr (by cases hp; exact .head _)
          · exact .inl hp
      · exact .inr (.tail _ hp)
  rcases key _ _ h with h | h
  · cases h
  · exact h

end EventPolicyResolver

/-! ## Schedules -/

inductive ScheduleMode
  | continuous | event | motionOnly | off
  deriving DecidableEq, Repr

/-- A row of `schedules`: a rule for a span of minutes of one weekday. -/
structure Schedule where
  id : Nat
  cameraId : Nat
  dayOfWeek : Nat
  startMin : Int
  endMin : Int
  mode : ScheduleMode
  priority : Int
  enabled : Bool
  deletedAt : Option Int
  deriving DecidableEq, Repr

abbrev Schedules := Table Schedule.id

/-- Source: `Schedule.get_for_camera_dow` (`server/model/schedule.py:35`). -/
def Schedules.getForCameraDow (t : Schedules) (cameraId dayOfWeek : Nat) : List Schedule :=
  t.rows.filter fun r =>
    decide (r.cameraId = cameraId) && decide (r.dayOfWeek = dayOfWeek) && r.deletedAt.isNone &&
      r.enabled

/-- The first rule of the highest priority. -/
def highestPriority : List Schedule → Option Schedule
  | [] => none
  | r :: rest => some (rest.foldl (fun best r => if r.priority > best.priority then r else best) r)

/-- The mode at an instant; `siteLocal` is the weekday and the minute of the day at the site.
Source: `mode` (`server/service/schedule_resolver.py:31`). -/
def ScheduleResolver.mode (t : Schedules) (siteLocal : Int → Nat × Int) (cameraId : Nat)
    (ts : Int) : ScheduleMode :=
  let minute := (siteLocal ts).2
  match highestPriority ((t.getForCameraDow cameraId (siteLocal ts).1).filter fun r =>
    decide (r.startMin ≤ minute) && decide (minute < r.endMin)) with
  | none => .continuous
  | some r => r.mode

end AeroXProtect
