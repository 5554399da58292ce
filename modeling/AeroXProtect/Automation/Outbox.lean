import AeroXProtect.Automation.Webhook
import AeroXProtect.Lib.Interleave
import AeroXProtect.Lib.Run

/-!
# The outbox

An event that has been published waits in the outbox until the consumer has dispatched it: to the
flows, then to the webhook subscriptions, and then the row is marked. All three share one `try`. A
row whose handling raises stays pending, with one attempt more, until it has had `MAX_ATTEMPTS`.

The consumer is started every five seconds, and no lock keeps an execution from starting while
another is at work. The executions are threads over the tables (`Consumer`): one reads its rows, and
then gives each row to the flows, waits for them, and delivers it. What the steps of a row do is
given for each row and execution (`RowEnv`); the flows are any step that returns or raises.

A row may be given to the flows again because its deliveries have raised (`settles`), or because an
execution comes to it that has read it before another one took it (`takes`). `outbox_isolated` says
that these are the only ways. And in one execution the handler reads the row's id for the log before
it rolls the session back; where that raises, the loop ends (`reached`).
-/

open Lib

namespace AeroXProtect

/-! ## Rows -/

/-- Source: `STATUS_PENDING`, `STATUS_CONSUMED`, `STATUS_FAILED`
(`server/model/event_outbox.py:7`). -/
inductive OutboxStatus
  | pending | consumed | failed
  deriving DecidableEq, Repr

/-- A row of `event_outbox`, with the columns that the consumer reads and writes. -/
structure OutboxItem where
  id : Nat
  payload : Json
  status : OutboxStatus
  attempts : Int
  createdAt : Int
  consumedAt : Option Int
  deriving DecidableEq, Repr

abbrev OutboxItems := Table OutboxItem.id

/-- Source: `MAX_ATTEMPTS` (`server/task/list/outbox_consumer.py:11`). -/
def MAX_ATTEMPTS : Int := 5

/-- Source: `FAILURE_CIRCUIT_BREAK` (`server/model/webhook_endpoint.py:13`). -/
def FAILURE_CIRCUIT_BREAK : Int := 10

/-- Source: `EventOutbox.get_pending` (`server/model/event_outbox.py:37`). -/
def OutboxItems.getPending (t : OutboxItems) (limit : Nat) : List OutboxItem :=
  (orderBy OutboxItem.createdAt (t.rows.filter fun r => decide (r.status = .pending))).take limit

/-! ## Consuming -/

/-- What is observed: the flows or an endpoint are given a row, or the flows or the mark of a row
raise. -/
inductive OutboxNote
  | dispatched (row : Nat)
  | delivered (row hook : Nat)
  | released (row : Nat)
  deriving DecidableEq, Repr

/-- The outbox, the tables of the subscriptions with their `consecutive_failures`, and the log,
newest first. -/
structure Outbox where
  rows : OutboxItems
  external : ExternalDb
  failures : Nat → Int
  log : List OutboxNote

/-- What happens at a row: making the trigger, the flows, the query for the subscriptions, each
endpoint, the commit of the mark, and whether the handler's own commit goes through. -/
structure RowEnv where
  now : Int
  trigger : Ended
  flows : Ended
  query : Ended
  hooks : Nat → HookEnv
  mark : Ended
  attempt : Bool

abbrev OutboxEnv := Nat → RowEnv

structure OutboxConfig where
  api : ExternalConfig
  webhook : WebhookConfig

namespace Outbox

section
variable (cfg : OutboxConfig)

def note (s : Outbox) (n : OutboxNote) : Outbox := { s with log := n :: s.log }

/-- Source: `WebhookEndpoint.record_result` (`server/model/webhook_endpoint.py:86`). -/
def recordResult (s : Outbox) (hook : Nat) (result : HookResult) : Outbox :=
  let n := if result.2 then 0 else s.failures hook + 1
  { s with
    failures := fun h => if h = hook then n else s.failures h
    external :=
      { s.external with
        hooks := s.external.hooks.modify (fun h => decide (h.id = hook))
          fun h => { h with enabled := h.enabled && decide (n < FAILURE_CIRCUIT_BREAK) } } }

/-- The loop looks up the token of an endpoint whose filter lets the event through. -/
def looksUp (payload : Json) (hook : WebhookEndpoint) : Bool :=
  let filter := hook.subscriptionFilter.or .empty
  hook.apiTokenId.isSome &&
    wantsType? filter ((payload.get? "type").getD .null) == some true &&
    wantsCamera? cfg.api filter ((payload.get? "camera_id").getD .null) == some true

/-- Whether an endpoint is delivered to, or the exception that its filters and its token raise. -/
def selects (tokens : ApiTokens) (e : RowEnv) (payload : Json) (hook : WebhookEndpoint) :
    Except Bool Bool :=
  match looksUp cfg payload hook, (e.hooks hook.id).lookup with
  | true, .raises readable => .error readable
  | _, _ =>
    match hookResult { cfg.api with delivers := fun _ _ => true } tokens e.now payload hook with
    | .raise => .error true
    | .skip => .ok false
    | .serve => .ok true

/-- The loop over the subscriptions. -/
def deliverAll (e : RowEnv) (payload : Json) (row : Nat) :
    List WebhookEndpoint → Outbox → Outbox × Ended
  | [], s => (s, .ok)
  | hook :: hooks, s =>
    match selects cfg s.external.tokens e payload hook with
    | .error readable => (s, .raises readable)
    | .ok false => deliverAll e payload row hooks s
    | .ok true =>
      match cfg.webhook.deliver? (e.hooks hook.id) hook with
      | none => (s, .raises true)
      | some result =>
        match (e.hooks hook.id).record with
        | .raises readable => (s, .raises readable)
        | .ok =>
          deliverAll e payload row hooks
            ((s.recordResult hook.id result).note (.delivered row hook.id))

/-- Source: `ExternalController.deliver_subscriptions` (`server/controller/external.py:103`). -/
def deliverSubscriptions (e : RowEnv) (payload : Json) (row : Nat) (s : Outbox) :
    Outbox × Ended :=
  match payload, e.query with
  | .obj _, .ok => deliverAll cfg e payload row s.external.hooks.activeSubscriptions s
  | .obj _, .raises readable => (s, .raises readable)
  | _, _ => (s, .raises true)

/-- Source: `EventOutbox.mark_consumed` (`server/model/event_outbox.py:41`). -/
def markConsumed (s : Outbox) (now : Int) (row : Nat) : Outbox :=
  { s with
    rows := s.rows.modify (fun r => decide (r.id = row))
      fun r => { r with status := .consumed, consumedAt := some now } }

/-- The deliveries and the mark of a row whose flows have returned. -/
def deliverRow (e : RowEnv) (row : OutboxItem) (s : Outbox) : Outbox × Ended :=
  match deliverSubscriptions cfg e row.payload row.id s with
  | (s, .raises readable) => (s, .raises readable)
  | (s, .ok) =>
    match e.mark with
    | .raises readable => (s.note (.released row.id), .raises readable)
    | .ok => (s.markConsumed e.now row.id, .ok)

/-- The body of the `try`. -/
def tryRow (e : RowEnv) (row : OutboxItem) (s : Outbox) : Outbox × Ended :=
  match e.trigger with
  | .raises readable => (s, .raises readable)
  | .ok =>
    match e.flows with
    | .raises readable => ((s.note (.dispatched row.id)).note (.released row.id), .raises readable)
    | .ok => deliverRow cfg e row (s.note (.dispatched row.id))

/-- The handler after the rollback: one attempt more, and the row has failed when it has had them
all. -/
def countAttempt (s : Outbox) (e : RowEnv) (row : Nat) : Outbox :=
  if e.attempt then
    { s with
      rows := s.rows.modify (fun r => decide (r.id = row))
        fun r =>
          { r with
            attempts := r.attempts + 1
            status := if MAX_ATTEMPTS ≤ r.attempts + 1 then .failed else r.status } }
  else s

/-- The `except` clause, and whether the loop goes on: it reads the row's id first. -/
def handle (e : RowEnv) (row : Nat) : Outbox × Ended → Outbox × Bool
  | (s, .ok) => (s, true)
  | (s, .raises true) => (s.countAttempt e row, true)
  | (s, .raises false) => (s, false)

/-- One turn of the loop. -/
def handleRow (e : OutboxEnv) (row : OutboxItem) (s : Outbox) : Outbox × Bool :=
  handle (e row.id) row.id (tryRow cfg (e row.id) row s)

/-- The rows of one execution. -/
def batch (s : Outbox) : List OutboxItem := s.rows.getPending 100

/-- Source: `consume` (`server/task/list/outbox_consumer.py:16`). -/
def consume (s : Outbox) (e : OutboxEnv) : Outbox :=
  (Script.run (handleRow cfg e) s.batch s).1

/-- The rows of an execution that are processed. -/
def reached (s : Outbox) (e : OutboxEnv) : List OutboxItem :=
  Script.reached (handleRow cfg e) s.batch s

/-! ## Exceptions -/

/-- The exception of an endpoint. -/
def hookRaise? (tokens : ApiTokens) (e : RowEnv) (payload : Json) (hook : WebhookEndpoint) :
    Option Bool :=
  match selects cfg tokens e payload hook with
  | .error readable => some readable
  | .ok false => none
  | .ok true =>
    if cfg.webhook.targetRaises (e.hooks hook.id) hook then some true
    else (e.hooks hook.id).record.raise?

/-- The exception of the deliveries of a row: of the payload, the query, or the first endpoint that
raises. -/
def deliveryRaise? (s : Outbox) (e : RowEnv) (payload : Json) : Option Bool :=
  match payload with
  | .obj _ =>
    e.query.raise?.or
      (s.external.hooks.activeSubscriptions.findSome?
        (hookRaise? cfg s.external.tokens e payload))
  | _ => some true

/-- The exception of the handling of a row: of the first step that raises. -/
def rowRaise? (s : Outbox) (e : RowEnv) (row : OutboxItem) : Option Bool :=
  e.trigger.raise?.or (e.flows.raise?.or ((deliveryRaise? cfg s e row.payload).or e.mark.raise?))

/-- The deliveries of a row do not raise, or the row has had all its attempts and the handler goes
through. -/
def settles (e : RowEnv) (row : OutboxItem) (s : Outbox) : Bool :=
  (deliveryRaise? cfg s e row.payload).all fun readable =>
    readable && e.attempt &&
      (s.rows.get? row.id).all fun r => decide (MAX_ATTEMPTS ≤ r.attempts + 1)

end

/-- The flows have been given the row, and neither they nor its mark have raised since. -/
def served (row : Nat) (log : List OutboxNote) : Bool :=
  latest (fun n =>
    match n with
    | .dispatched r => if r = row then some true else none
    | .released r => if r = row then some false else none
    | .delivered .. => none) log

/-- The flows are given a row again that they have been given. -/
def again (log : List OutboxNote) : Bool :=
  occurs (fun n before =>
    match n with
    | .dispatched row => served row before
    | _ => false) log

end Outbox

/-! ## Executions at the same time -/

/-- Where an execution is. -/
inductive Consumer
  | select (e : OutboxEnv)
  | loop (e : OutboxEnv) (todo : List OutboxItem)
  | flows (e : OutboxEnv) (row : OutboxItem) (todo : List OutboxItem)
  | deliver (e : OutboxEnv) (row : OutboxItem) (todo : List OutboxItem)

namespace Consumer

open Outbox

/-- The loop goes on after a row, or ends. -/
def next (e : OutboxEnv) (todo : List OutboxItem) (x : Outbox × Bool) : Outbox × Consumer :=
  (x.1, .loop e (if x.2 then todo else []))

/-- The next part of an execution; the deliveries of a row and its mark are one part. -/
def exec (cfg : OutboxConfig) (s : Outbox) (t : Consumer) (_ : Unit) : Outbox × Consumer :=
  match t with
  | .select e => (s, .loop e s.batch)
  | .loop e [] => (s, .loop e [])
  | .loop e (row :: todo) =>
    match (e row.id).trigger with
    | .raises readable => next e todo (handle (e row.id) row.id (s, .raises readable))
    | .ok => (s.note (.dispatched row.id), .flows e row todo)
  | .flows e row todo =>
    match (e row.id).flows with
    | .raises readable =>
      next e todo (handle (e row.id) row.id (s.note (.released row.id), .raises readable))
    | .ok => (s, .deliver e row todo)
  | .deliver e row todo =>
    next e todo (handle (e row.id) row.id (deliverRow cfg (e row.id) row s))

section
variable {cfg : OutboxConfig} {s : Outbox} {e : OutboxEnv} {row : OutboxItem}
  {todo : List OutboxItem} {readable : Bool}

theorem exec_trigger_raises (h : (e row.id).trigger = .raises readable) :
    exec cfg s (.loop e (row :: todo)) () =
      next e todo (handle (e row.id) row.id (s, .raises readable)) := by
  simp only [exec, h]

theorem exec_trigger_ok (h : (e row.id).trigger = .ok) :
    exec cfg s (.loop e (row :: todo)) () = (s.note (.dispatched row.id), .flows e row todo) := by
  simp only [exec, h]

theorem exec_flows_raises (h : (e row.id).flows = .raises readable) :
    exec cfg s (.flows e row todo) () =
      next e todo (handle (e row.id) row.id (s.note (.released row.id), .raises readable)) := by
  simp only [exec, h]

theorem exec_flows_ok (h : (e row.id).flows = .ok) :
    exec cfg s (.flows e row todo) () = (s, .deliver e row todo) := by
  simp only [exec, h]

end

/-- The row that is being handled, from the flows on. -/
def row? : Consumer → Option Nat
  | .flows _ row _ | .deliver _ row _ => some row.id
  | .select _ | .loop .. => none

end Consumer

/-- The executions at work on the outbox. -/
abbrev Consumers := Pool Outbox Consumer

/-- What happens: an execution starts or goes on, a new row, or a write of the subscriptions. -/
inductive OutboxAct
  | run (a : PoolAct OutboxEnv Unit)
  | publish (id : Nat) (payload : Json) (now : Int)
  | configure (external : ExternalDb) (failures : Nat → Int)

namespace Consumers

variable (cfg : OutboxConfig)

/-- One action. Source: `EventOutbox.publish` (`server/model/event_outbox.py:26`). -/
def step (p : Consumers) : OutboxAct → Consumers
  | .run a => Pool.step Consumer.select (Consumer.exec cfg) p a
  | .publish id payload now =>
    ⟨{ p.shared with rows := p.shared.rows.insert ⟨id, payload, .pending, 0, now, none⟩ },
      p.threads⟩
  | .configure external failures => ⟨{ p.shared with external, failures }, p.threads⟩

/-- The row is still pending, and no execution is handling it. -/
def takes (p : Consumers) (row : Nat) : Bool :=
  (p.shared.rows.get? row).any (fun r => decide (r.status = .pending)) &&
    p.threads.all fun t => decide (t.row? ≠ some row)

/-- The runs of `outbox_isolated`: an execution gives the flows only rows that are pending and not
being handled, the deliveries of a row settle it, and new rows have new ids. -/
def ok (p : Consumers) : OutboxAct → Bool
  | .run (.exec i ()) =>
    match p.threads[i]? with
    | some (.loop e (row :: _)) => decide ((e row.id).trigger ≠ .ok) || p.takes row.id
    | some (.deliver e row _) => Outbox.settles cfg (e row.id) row p.shared
    | _ => true
  | .publish id _ _ => (p.shared.rows.get? id).isNone
  | .run (.spawn _) | .configure .. => true

/-- New rows have new ids. -/
def fresh (p : Consumers) : OutboxAct → Bool
  | .publish id _ _ => (p.shared.rows.get? id).isNone
  | .run _ | .configure .. => true

end Consumers

/-! ## One row -/

namespace Outbox

section
variable {cfg : OutboxConfig} {s : Outbox} {e : RowEnv} {payload : Json} {row : Nat}

/-- What the deliveries of a row leave alone: the rows, the tokens, and the log up to endpoints that
were delivered to. -/
structure Delivers (s t : Outbox) : Prop where
  rows : t.rows = s.rows
  tokens : t.external.tokens = s.external.tokens
  log : ∃ notes, t.log = notes ++ s.log ∧ ∀ n ∈ notes, ∃ row hook, n = .delivered row hook

theorem Delivers.refl (s : Outbox) : Delivers s s :=
  ⟨rfl, rfl, [], rfl, fun _ hn => absurd hn List.not_mem_nil⟩

/-- A delivery more. -/
theorem Delivers.cons {t : Outbox} {hook : Nat} {result : HookResult}
    (h : Delivers ((s.recordResult hook result).note (.delivered row hook)) t) : Delivers s t := by
  obtain ⟨notes, hlog, hnotes⟩ := h.log
  refine ⟨h.rows, h.tokens, notes ++ [.delivered row hook], ?_, fun n hn => ?_⟩
  · rw [hlog, List.append_assoc]
    rfl
  · rcases List.mem_append.1 hn with hn | hn
    · exact hnotes n hn
    · exact ⟨row, hook, List.mem_singleton.1 hn⟩

/-- The loop over the subscriptions ends with the exception of the first one that raises. -/
theorem deliverAll_spec (hooks : List WebhookEndpoint) (s : Outbox) :
    Delivers s (deliverAll cfg e payload row hooks s).1 ∧
      (deliverAll cfg e payload row hooks s).2.raise? =
        hooks.findSome? (hookRaise? cfg s.external.tokens e payload) := by
  induction hooks generalizing s with
  | nil => exact ⟨.refl s, rfl⟩
  | cons hook hooks ih =>
    rw [deliverAll, List.findSome?_cons]
    unfold hookRaise?
    cases hsel : selects cfg s.external.tokens e payload hook with
    | error readable => exact ⟨.refl s, rfl⟩
    | ok wanted =>
      cases wanted with
      | false => exact ih s
      | true =>
        dsimp only
        cases hdel : cfg.webhook.deliver? (e.hooks hook.id) hook with
        | none =>
          rw [if_pos (deliver?_eq_none_iff.1 hdel)]
          exact ⟨.refl s, rfl⟩
        | some result =>
          have hno : ¬ cfg.webhook.targetRaises (e.hooks hook.id) hook = true := by
            rw [← deliver?_eq_none_iff, hdel]
            exact Option.some_ne_none result
          rw [if_neg hno]
          cases hrec : (e.hooks hook.id).record with
          | raises readable => exact ⟨.refl s, rfl⟩
          | ok =>
            obtain ⟨hdelivers, hraise⟩ :=
              ih ((s.recordResult hook.id result).note (.delivered row hook.id))
            exact ⟨hdelivers.cons, hraise⟩

theorem deliverSubscriptions_spec (cfg : OutboxConfig) (e : RowEnv) (payload : Json) (row : Nat)
    (s : Outbox) : Delivers s (deliverSubscriptions cfg e payload row s).1 ∧
      (deliverSubscriptions cfg e payload row s).2.raise? = deliveryRaise? cfg s e payload := by
  unfold deliverSubscriptions deliveryRaise?
  cases payload with
  | obj fields =>
    cases e.query with
    | ok => exact deliverAll_spec _ s
    | raises readable => exact ⟨.refl s, rfl⟩
  | null | bool | num | str | arr => exact ⟨.refl s, rfl⟩

/-- The deliveries and the mark of a row leave the rows alone, up to the mark. -/
theorem deliverRow_cases (cfg : OutboxConfig) (e : RowEnv) (r : OutboxItem) (s : Outbox) :
    ∃ t, Delivers s t ∧ ((∃ readable, deliveryRaise? cfg s e r.payload = some readable ∧
        deliverRow cfg e r s = (t, .raises readable)) ∨
      (deliveryRaise? cfg s e r.payload = none ∧
        ((∃ readable, e.mark = .raises readable ∧
          deliverRow cfg e r s = (t.note (.released r.id), .raises readable)) ∨
        (e.mark = .ok ∧ deliverRow cfg e r s = (t.markConsumed e.now r.id, .ok))))) := by
  obtain ⟨hdelivers, hraise⟩ := deliverSubscriptions_spec cfg e r.payload r.id s
  unfold deliverRow
  generalize deliverSubscriptions cfg e r.payload r.id s = res at hdelivers hraise ⊢
  obtain ⟨t, ended⟩ := res
  refine ⟨t, hdelivers, ?_⟩
  cases ended with
  | raises readable => exact .inl ⟨readable, hraise.symm, rfl⟩
  | ok =>
    refine .inr ⟨hraise.symm, ?_⟩
    cases e.mark with
    | raises readable => exact .inl ⟨readable, rfl, rfl⟩
    | ok => exact .inr ⟨rfl, rfl⟩

/-- The handling of a row ends with the exception of its first step that raises. -/
theorem tryRow_raise? (r : OutboxItem) : (tryRow cfg e r s).2.raise? = rowRaise? cfg s e r := by
  unfold tryRow rowRaise?
  cases e.trigger with
  | raises readable => rfl
  | ok =>
    cases e.flows with
    | raises readable => rfl
    | ok =>
      have hsame : deliveryRaise? cfg (s.note (.dispatched r.id)) e r.payload =
        deliveryRaise? cfg s e r.payload := rfl
      obtain ⟨t, -, h⟩ := deliverRow_cases cfg e r (s.note (.dispatched r.id))
      rw [hsame] at h
      rcases h with ⟨readable, hraise, heq⟩ | ⟨hraise, ⟨readable, hmark, heq⟩ | ⟨hmark, heq⟩⟩ <;>
      rw [hraise] <;> dsimp only <;> rw [heq]
      · rfl
      · rw [hmark]
        rfl
      · rw [hmark]
        rfl

/-- The loop goes on after a row that does not raise, and after one whose id the handler can read.
-/
theorem handleRow_snd {e : OutboxEnv} (r : OutboxItem) :
    (handleRow cfg e r s).2 = true ↔ rowRaise? cfg s (e r.id) r ≠ some false := by
  rw [← tryRow_raise?]
  unfold handleRow
  rcases tryRow cfg (e r.id) r s with ⟨t, ended⟩
  cases ended with
  | ok => simp [Ended.raise?, handle]
  | raises readable => cases readable <;> simp [Ended.raise?, handle]

end

/-! ## What holds in every state -/

section
variable {cfg : OutboxConfig} {s t : Outbox} {id row : Nat}

@[simp] theorem served_dispatched : served id (.dispatched row :: s.log) =
    (decide (row = id) || served id s.log) := by
  unfold served
  rw [latest_cons]
  by_cases h : row = id <;> simp [h]

@[simp] theorem served_released : served id (.released row :: s.log) =
    (!decide (row = id) && served id s.log) := by
  unfold served
  rw [latest_cons]
  by_cases h : row = id <;> simp [h]

theorem again_dispatched : again (.dispatched row :: s.log) = (served row s.log || again s.log) :=
  rfl

/-- What is noted besides a dispatch. -/
theorem again_released : again (.released row :: s.log) = again s.log := rfl

/-- Deliveries do not show in what the flows have been given. -/
theorem Delivers.served_eq (h : Delivers s t) : served id t.log = served id s.log := by
  obtain ⟨notes, hlog, hnotes⟩ := h.log
  rw [hlog]
  clear hlog
  induction notes with
  | nil => rfl
  | cons n notes ih =>
    obtain ⟨row, hook, rfl⟩ := hnotes n (.head _)
    exact ih fun n hn => hnotes n (.tail _ hn)

theorem Delivers.again_eq (h : Delivers s t) : again t.log = again s.log := by
  obtain ⟨notes, hlog, hnotes⟩ := h.log
  rw [hlog]
  clear hlog
  induction notes with
  | nil => rfl
  | cons n notes ih =>
    obtain ⟨row, hook, rfl⟩ := hnotes n (.head _)
    exact ih fun n hn => hnotes n (.tail _ hn)

end

/-- The rows of a table with the ids of another, where no row has become pending. -/
structure Keeps (s t : Outbox) : Prop where
  settled : ∀ x ∈ s.rows, x.status ≠ .pending → ∃ y ∈ t.rows, y.id = x.id ∧ y.status ≠ .pending
  stays : ∀ x ∈ s.rows, ∃ y ∈ t.rows, y.id = x.id

namespace Keeps

variable {s t u : Outbox}

theorem of_rows_eq (h : t.rows = s.rows) : Keeps s t :=
  ⟨fun x hx hstatus => ⟨x, h ▸ hx, rfl, hstatus⟩, fun x hx => ⟨x, h ▸ hx, rfl⟩⟩

theorem trans (h : Keeps s t) (h' : Keeps t u) : Keeps s u := by
  constructor
  · intro x hx hstatus
    obtain ⟨y, hy, hid, hy'⟩ := h.settled x hx hstatus
    obtain ⟨z, hz, hid', hz'⟩ := h'.settled y hy hy'
    exact ⟨z, hz, hid'.trans hid, hz'⟩
  · intro x hx
    obtain ⟨y, hy, hid⟩ := h.stays x hx
    obtain ⟨z, hz, hid'⟩ := h'.stays y hy
    exact ⟨z, hz, hid'.trans hid⟩

/-- A row is rewritten and not made pending. -/
theorem modify {id : Nat} {f : OutboxItem → OutboxItem} (hid : ∀ x, (f x).id = x.id)
    (hf : ∀ x, x.status ≠ .pending → (f x).status ≠ .pending) :
    Keeps s { s with rows := s.rows.modify (fun x => decide (x.id = id)) f hid } := by
  constructor
  · intro x hx hstatus
    refine ⟨_, Table.mem_modify_of_mem hid hx, ?_⟩
    split
    · exact ⟨hid x, hf x hstatus⟩
    · exact ⟨rfl, hstatus⟩
  · intro x hx
    refine ⟨_, Table.mem_modify_of_mem hid hx, ?_⟩
    split
    · exact hid x
    · rfl

/-- A row has one attempt more. -/
theorem countAttempt (s : Outbox) (e : RowEnv) (row : Nat) : Keeps s (s.countAttempt e row) := by
  unfold Outbox.countAttempt
  split
  · refine modify _ fun x hx => ?_
    dsimp only
    split
    · exact fun heq => by cases heq
    · exact hx
  · exact of_rows_eq rfl

/-- The handler. -/
theorem handle (s : Outbox) (e : RowEnv) (row : Nat) (ended : Ended) :
    Keeps s (handle e row (s, ended)).1 := by
  cases ended with
  | ok => exact of_rows_eq rfl
  | raises readable =>
    cases readable with
    | true => exact countAttempt s e row
    | false => exact of_rows_eq rfl

end Keeps

@[simp] theorem log_handle (s : Outbox) (e : RowEnv) (row : Nat) (ended : Ended) :
    (handle e row (s, ended)).1.log = s.log := by
  cases ended with
  | ok => rfl
  | raises readable =>
    cases readable with
    | true =>
      show (s.countAttempt e row).log = s.log
      unfold countAttempt
      split <;> rfl
    | false => rfl

end Outbox

namespace Consumers

/-- No row that the flows have been given is given to them again, such a row is being handled or is
not pending any more, and the rows that are being handled are there. -/
structure Inv (p : Consumers) : Prop where
  notAgain : Outbox.again p.shared.log = false
  served : ∀ id, Outbox.served id p.shared.log = true →
    (∃ t ∈ p.threads, t.row? = some id) ∨ ∃ x ∈ p.shared.rows, x.id = id ∧ x.status ≠ .pending
  handled : ∀ t ∈ p.threads, ∀ id, t.row? = some id → ∃ x ∈ p.shared.rows, x.id = id

section
variable {cfg : OutboxConfig} {p : Consumers} {i : Nat} {t t' : Consumer} {s : Outbox}
  {e : OutboxEnv} {row : OutboxItem} {todo : List OutboxItem}

@[simp] theorem row?_next (x : Outbox × Bool) : (Consumer.next e todo x).2.row? = none := rfl

/-- An execution goes on: the rows that have been given to the flows then are the one it is
handling, one that has been given to them before and is not the one it was handling, or not
pending. -/
theorem Inv.move (h : Inv p) (hi : p.threads[i]? = some t) (hkeeps : Outbox.Keeps p.shared s)
    (hagain : Outbox.again s.log = false)
    (hserved : ∀ id, Outbox.served id s.log = true → t'.row? = some id ∨
      (Outbox.served id p.shared.log = true ∧ t.row? ≠ some id) ∨
        ∃ x ∈ s.rows, x.id = id ∧ x.status ≠ .pending)
    (hhandled : ∀ id, t'.row? = some id → ∃ x ∈ s.rows, x.id = id) :
    Inv ⟨s, p.threads.set i t'⟩ := by
  refine ⟨hagain, fun id hid => ?_, fun u hu id hid => ?_⟩
  · rcases hserved id hid with hrow | ⟨hbefore, hne⟩ | hsettled
    · exact .inl ⟨t', Pool.mem_exec_self hi, hrow⟩
    · rcases h.served id hbefore with ⟨u, hu, hrow⟩ | ⟨x, hx, rfl, hstatus⟩
      · rcases Pool.mem_exec hi t' hu with rfl | hu
        · exact absurd hrow hne
        · exact .inl ⟨u, hu, hrow⟩
      · exact .inr (hkeeps.settled x hx hstatus)
    · exact .inr hsettled
  · rcases List.mem_or_eq_of_mem_set hu with hu | rfl
    · obtain ⟨x, hx, rfl⟩ := h.handled u hu id hid
      exact hkeeps.stays x hx
    · exact hhandled id hid

/-- An execution goes on and nothing is noted. -/
theorem Inv.quiet (h : Inv p) (hi : p.threads[i]? = some t) (hkeeps : Outbox.Keeps p.shared s)
    (hlog : s.log = p.shared.log) (hrow : t'.row? = t.row?) : Inv ⟨s, p.threads.set i t'⟩ := by
  refine h.move hi hkeeps (by rw [hlog, h.notAgain]) (fun id hid => ?_) fun id hid => ?_
  · rw [hlog] at hid
    by_cases hsame : t.row? = some id
    · exact .inl (hrow.trans hsame)
    · exact .inr (.inl ⟨hid, hsame⟩)
  · obtain ⟨x, hx, rfl⟩ := h.handled t (List.mem_of_getElem? hi) id (hrow.symm.trans hid)
    exact hkeeps.stays x hx

/-- The flows are given a row that the execution takes. -/
theorem Inv.dispatch (h : Inv p) (hi : p.threads[i]? = some (.loop e (row :: todo)))
    (htakes : p.takes row.id = true) :
    Inv ⟨p.shared.note (.dispatched row.id), p.threads.set i (.flows e row todo)⟩ := by
  rw [takes, Bool.and_eq_true, Option.any_eq_true] at htakes
  obtain ⟨⟨x, hx, hpending⟩, hfree⟩ := htakes
  obtain ⟨hxmem, hxid⟩ := Table.get?_eq_some.1 hx
  have hnot : Outbox.served row.id p.shared.log = false := by
    by_contra hserved
    rcases h.served row.id (by simpa using hserved) with ⟨t, ht, hrow⟩ | ⟨y, hy, hyid, hstatus⟩
    · exact of_decide_eq_true (List.all_eq_true.1 hfree t ht) hrow
    · rw [p.shared.rows.eq_of_key_eq hy hxmem (hyid.trans hxid.symm)] at hstatus
      exact hstatus (of_decide_eq_true hpending)
  refine h.move hi (.of_rows_eq rfl) ?_ (fun id hid => ?_) fun id hid => ?_
  · show Outbox.again (.dispatched row.id :: p.shared.log) = false
    rw [Outbox.again_dispatched, hnot, h.notAgain]
    rfl
  · rw [show (p.shared.note (.dispatched row.id)).log = .dispatched row.id :: p.shared.log from rfl,
      Outbox.served_dispatched, Bool.or_eq_true, decide_eq_true_eq] at hid
    rcases hid with rfl | hid
    · exact .inl rfl
    · exact .inr (.inl ⟨hid, nofun⟩)
  · cases hid
    exact ⟨x, hxmem, hxid⟩

/-- The flows or the mark of a row have raised, and the handler has run. -/
theorem Inv.release (h : Inv p) (hi : p.threads[i]? = some t) (hrow : t.row? = some row.id)
    {d : Outbox} (hd : Outbox.Delivers p.shared d) (ended : Ended) :
    Inv ⟨(Consumer.next e todo (Outbox.handle (e row.id) row.id
        (d.note (.released row.id), ended))).1,
      p.threads.set i (Consumer.next e todo (Outbox.handle (e row.id) row.id
        (d.note (.released row.id), ended))).2⟩ := by
  refine h.move hi ((Outbox.Keeps.of_rows_eq (t := d.note _) hd.rows).trans (.handle _ _ _ _)) ?_
    (fun id hid => ?_) nofun
  · show Outbox.again (Outbox.handle (e row.id) row.id (d.note (.released row.id), ended)).1.log = _
    rw [Outbox.log_handle]
    exact (Outbox.again_released.trans hd.again_eq).trans h.notAgain
  · change Outbox.served id
      (Outbox.handle (e row.id) row.id (d.note (.released row.id), ended)).1.log = true at hid
    rw [Outbox.log_handle] at hid
    change Outbox.served id (.released row.id :: d.log) = true at hid
    rw [Outbox.served_released, Bool.and_eq_true, hd.served_eq] at hid
    refine .inr (.inl ⟨hid.2, fun hsame => ?_⟩)
    obtain rfl := Option.some_inj.1 (hrow.symm.trans hsame)
    simp at hid

/-- The deliveries of a row settle it. -/
theorem Inv.settle (h : Inv p) (hi : p.threads[i]? = some (.deliver e row todo))
    (hsettles : Outbox.settles cfg (e row.id) row p.shared = true) :
    Inv ⟨(Consumer.exec cfg p.shared (.deliver e row todo) ()).1,
      p.threads.set i (Consumer.exec cfg p.shared (.deliver e row todo) ()).2⟩ := by
  obtain ⟨x, hx, hxid⟩ := h.handled _ (List.mem_of_getElem? hi) row.id rfl
  obtain ⟨d, hd, hcases⟩ := Outbox.deliverRow_cases cfg (e row.id) row p.shared
  have hxd : x ∈ d.rows := hd.rows ▸ hx
  -- the row is settled by a rewrite that keeps the others
  have hrewrite : ∀ (f : OutboxItem → OutboxItem) (hid : ∀ y, (f y).id = y.id),
      (∀ y, y.status ≠ .pending → (f y).status ≠ .pending) → (f x).status ≠ .pending →
      Inv ⟨{ d with rows := d.rows.modify (fun y => decide (y.id = row.id)) f hid },
        p.threads.set i (.loop e todo)⟩ := by
    intro f hid hf hsettled
    refine h.move hi ((Outbox.Keeps.of_rows_eq hd.rows).trans (.modify hid hf))
      (hd.again_eq.trans h.notAgain) (fun id hserved => ?_) nofun
    change Outbox.served id d.log = true at hserved
    rw [hd.served_eq] at hserved
    by_cases hsame : row.id = id
    · refine .inr (.inr ⟨_, Table.mem_modify_of_mem hid hxd, ?_⟩)
      rw [if_pos (by simpa using hxid)]
      exact ⟨(hid x).trans (hxid.trans hsame), hsettled⟩
    · exact .inr (.inl ⟨hserved, fun heq => hsame (Option.some_inj.1 heq)⟩)
  unfold Consumer.exec
  rcases hcases with ⟨readable, hraise, heq⟩ | ⟨-, ⟨readable, -, heq⟩ | ⟨-, heq⟩⟩ <;> dsimp only <;>
  rw [heq]
  · rw [Outbox.settles, hraise, Option.all_some, Bool.and_eq_true, Bool.and_eq_true] at hsettles
    obtain ⟨⟨rfl, hattempt⟩, hlast⟩ := hsettles
    rw [Table.get?_eq_some.2 ⟨hx, hxid⟩, Option.all_some, decide_eq_true_eq] at hlast
    show Inv ⟨d.countAttempt (e row.id) row.id, p.threads.set i (.loop e todo)⟩
    unfold Outbox.countAttempt
    rw [if_pos hattempt]
    refine hrewrite _ _ (fun y hy => ?_) ?_
    · dsimp only
      split
      · exact fun heq => by cases heq
      · exact hy
    · dsimp only
      rw [if_pos hlast]
      exact fun heq => by cases heq
  · exact h.release hi rfl hd (.raises readable)
  · exact hrewrite _ _ (fun _ _ heq => by cases heq) fun heq => by cases heq

/-- One action keeps the invariant. -/
theorem Inv.step (h : Inv p) {a : OutboxAct} (hok : ok cfg p a = true) : Inv (step cfg p a) := by
  cases a with
  | publish id payload now =>
    have hfresh : ∀ x ∈ p.shared.rows, x.id ≠ id :=
      Table.get?_eq_none.1 (Option.isNone_iff_eq_none.1 hok)
    refine ⟨h.notAgain, fun j hj => ?_, fun t ht j hj => ?_⟩
    · rcases h.served j hj with hthread | ⟨x, hx, hid, hstatus⟩
      · exact .inl hthread
      · exact .inr ⟨x, (Table.mem_insert hfresh).2 (.inl hx), hid, hstatus⟩
    · obtain ⟨x, hx, hid⟩ := h.handled t ht j hj
      exact ⟨x, (Table.mem_insert hfresh).2 (.inl hx), hid⟩
  | configure external failures => exact ⟨h.notAgain, h.served, h.handled⟩
  | run a =>
    rcases @Pool.step_cases _ _ _ _ Consumer.select (Consumer.exec cfg) p a with
      heq | ⟨e, -, heq⟩ | ⟨i, ⟨⟩, t, rfl, hi, heq⟩ <;> rw [Consumers.step, heq]
    · exact h
    · refine ⟨h.notAgain, fun id hid => ?_, Pool.forall_spawn h.handled fun id hid => ?_⟩
      · rcases h.served id hid with ⟨t, ht, hrow⟩ | hsettled
        · exact .inl ⟨t, List.mem_append_left _ ht, hrow⟩
        · exact .inr hsettled
      · cases hid
    · rw [ok, hi] at hok
      cases t with
      | select e => exact h.quiet hi (.of_rows_eq rfl) rfl rfl
      | loop e todo =>
        cases todo with
        | nil => exact h.quiet hi (.of_rows_eq rfl) rfl rfl
        | cons row todo =>
          cases htrigger : (e row.id).trigger with
          | raises readable =>
            rw [Consumer.exec_trigger_raises htrigger]
            exact h.quiet hi (.handle _ _ _ _) (Outbox.log_handle _ _ _ _) rfl
          | ok =>
            rw [Consumer.exec_trigger_ok htrigger]
            exact h.dispatch hi (by simpa [htrigger] using hok)
      | flows e row todo =>
        cases hflows : (e row.id).flows with
        | raises readable =>
          rw [Consumer.exec_flows_raises hflows]
          exact h.release hi rfl (.refl _) (.raises readable)
        | ok =>
          rw [Consumer.exec_flows_ok hflows]
          exact h.quiet hi (.of_rows_eq rfl) rfl rfl
      | deliver e row todo => exact h.settle hi hok

end

end Consumers

namespace Outbox

section
variable {cfg : OutboxConfig} {s : Outbox} {e : OutboxEnv}

/-- An execution that is not interrupted handles a row. -/
theorem alone_row (row : OutboxItem) (todo : List OutboxItem) (s : Outbox) :
    ∃ n, Pool.alone (Consumer.exec cfg) () n (s, .loop e (row :: todo)) =
      Consumer.next e todo (handleRow cfg e row s) := by
  unfold handleRow tryRow
  cases htrigger : (e row.id).trigger with
  | raises readable =>
    have hexec : Consumer.exec cfg s (.loop e (row :: todo)) () =
      Consumer.next e todo (handle (e row.id) row.id (s, .raises readable)) :=
      Consumer.exec_trigger_raises htrigger
    exact ⟨1, hexec⟩
  | ok =>
    have hfirst (n : Nat) : Pool.alone (Consumer.exec cfg) () (n + 1) (s, .loop e (row :: todo)) =
        Pool.alone (Consumer.exec cfg) () n (s.note (.dispatched row.id), .flows e row todo) := by
      rw [Pool.alone, Consumer.exec_trigger_ok htrigger]
    cases hflows : (e row.id).flows with
    | raises readable =>
      refine ⟨2, ?_⟩
      rw [hfirst, Pool.alone, Consumer.exec_flows_raises hflows]
      rfl
    | ok =>
      refine ⟨3, ?_⟩
      rw [hfirst, Pool.alone, Consumer.exec_flows_ok hflows]
      rfl

/-- An execution that is not interrupted handles its rows one by one. -/
theorem alone_loop (todo : List OutboxItem) (s : Outbox) :
    ∃ n, Pool.alone (Consumer.exec cfg) () n (s, .loop e todo) =
      ((Script.run (handleRow cfg e) todo s).1, .loop e []) := by
  induction todo generalizing s with
  | nil => exact ⟨0, rfl⟩
  | cons row todo ih =>
    obtain ⟨m, hm⟩ := @alone_row cfg e row todo s
    cases hrow : (handleRow cfg e row s).2 with
    | true =>
      obtain ⟨n, hn⟩ := ih (handleRow cfg e row s).1
      refine ⟨m + n, ?_⟩
      rw [Pool.alone_add, hm, Consumer.next, hrow, if_pos rfl, hn, Script.run_cons_eq, if_pos hrow]
    | false =>
      refine ⟨m, ?_⟩
      rw [hm, Consumer.next, hrow, Script.run_cons_eq, hrow]
      rfl

/-- An execution that is not interrupted is `consume`. -/
theorem alone_consume (e : OutboxEnv) (s : Outbox) :
    ∃ n, Pool.alone (Consumer.exec cfg) () n (s, .select e) = (s.consume cfg e, .loop e []) := by
  obtain ⟨n, hn⟩ := @alone_loop cfg e s.batch s
  exact ⟨n + 1, hn⟩

/-- **A failure stays with its row.** In every run of executions that give the flows only rows that
are pending and not being handled, and in which the deliveries of a row raise only on its last
attempt, no row is given to the flows again that they have been given, unless they or its mark have
raised. And an execution reaches every row exactly if no row but the last one raises an exception
after which its id cannot be read. -/
theorem outbox_isolated {s₀ : Outbox} {as : List OutboxAct} {p : Consumers} (hlog : s₀.log = [])
    (hrun : Run (Consumers.step cfg) (fun p a => p.ok cfg a = true) ⟨s₀, []⟩ as p) :
    again p.shared.log = false ∧
    ∀ e, p.shared.reached cfg e = p.shared.batch ↔
      ∀ pre r post, p.shared.batch = pre ++ r :: post → post ≠ [] →
        rowRaise? cfg (Script.run (Outbox.handleRow cfg e) pre p.shared).1 (e r.id) r ≠
          some false := by
  have hstart : Consumers.Inv ⟨s₀, []⟩ := by
    refine ⟨?_, fun id hid => ?_, nofun⟩
    · show again s₀.log = false
      rw [hlog]
      rfl
    · change served id s₀.log = true at hid
      rw [hlog] at hid
      cases hid
  have hinv : p.Inv := hrun.invariant (fun _ _ h hok => h.step hok) hstart
  refine ⟨hinv.notAgain, fun e => ?_⟩
  unfold reached
  rw [Script.reached_eq_self_iff]
  simp only [handleRow_snd]

end

namespace OutboxFixture

def config : OutboxConfig where
  api := ⟨fun _ => "", Char.isDigit, fun _ => none, fun _ _ => true, "5"⟩
  webhook := ⟨false, fun _ => true⟩

/-- Everything returns; the host has a public address. -/
def calm : RowEnv where
  now := seconds 40
  trigger := .ok
  flows := .ok
  query := .ok
  hooks := fun _ => ⟨.ok, fun _ _ => .addresses [⟨false, false, false, false, false, false⟩],
    .status 204, .ok⟩
  mark := .ok
  attempt := true

/-- The host of the endpoint has no address. -/
def unreachable : RowEnv :=
  { calm with hooks := fun _ => ⟨.ok, fun _ _ => .osError, .requestException, .ok⟩ }

/-- The flush of the mark fails. -/
def unmarked : RowEnv := { calm with mark := .raises false }

/-- The trigger of one row cannot be made. -/
def untriggered (row : Nat) : OutboxEnv :=
  fun r => if r = row then { calm with trigger := .raises true } else calm

/-- One subscription to all events, with this URL. -/
def start (url : String) : Outbox where
  rows := ∅
  external :=
    ⟨∅, ∅, ∅, ⟨[⟨9, .str url, true, .empty, none, true, none⟩], List.nodup_singleton _⟩⟩
  failures := fun _ => 0
  log := []

/-- Two events. -/
def events : List OutboxAct :=
  [.publish 1 (.obj [("type", .str "motion")]) (seconds 10),
    .publish 2 (.obj [("type", .str "lpr")]) (seconds 20)]

/-- So many parts of an execution. -/
def parts (n i : Nat) : List OutboxAct := List.replicate n (.run (.exec i ()))

/-- While the first execution is at its second row, a third event is published, and a second
execution starts, which fails to make the trigger of the row that the first one is handling. -/
def overlapping : List OutboxAct :=
  events ++ .run (.spawn fun _ => unreachable) :: parts 5 0 ++
    .publish 3 (.obj [("type", .str "motion")]) (seconds 30) ::
      .run (.spawn (untriggered 2)) :: parts 2 1 ++ parts 1 0 ++ parts 1 1 ++ parts 1 0 ++ parts 2 1

/-- Five executions, one after the other. -/
def five : List OutboxAct :=
  events ++ (List.range 5).flatMap fun i => .run (.spawn fun _ => calm) :: parts 7 i

/-- Two executions that have both read the rows before the first one handles them. -/
def twice : List OutboxAct :=
  events ++ [.run (.spawn fun _ => unreachable), .run (.spawn fun _ => calm)] ++
    parts 1 0 ++ parts 1 1 ++ parts 2 0 ++ parts 1 1

def after (url : String) (as : List OutboxAct) : Consumers :=
  as.foldl (Consumers.step config) ⟨start url, []⟩

end OutboxFixture

/-- An endpoint that cannot be reached, and two executions at the same time that do not take each
other's rows: all three rows are consumed. -/
theorem outbox_isolated_fixture :
    let p := OutboxFixture.after "https://hook.lan/e" OutboxFixture.overlapping
    p.shared.rows.rows.map OutboxItem.status = [.consumed, .consumed, .consumed] ∧
      p.shared.rows.rows.map OutboxItem.attempts = [0, 1, 0] ∧
      again p.shared.log = false ∧
      p.shared.external.hooks.rows.map WebhookEndpoint.enabled = [true] :=
  have hrun : Run (Consumers.step OutboxFixture.config)
      (fun p a => p.ok OutboxFixture.config a = true) ⟨OutboxFixture.start "https://hook.lan/e", []⟩
      OutboxFixture.overlapping _ :=
    .of_admits (by decide +kernel)
  ⟨by decide +kernel, by decide +kernel, (outbox_isolated rfl hrun).1, by decide +kernel⟩

/-- The port of a subscription is not a number: the flows get each row five times, and then it has
failed. Two executions that overlap give the flows a row twice. And when the flush of the first
row's mark fails, the second row is not processed. -/
theorem dispatched_five_times :
    (let p := OutboxFixture.after "https://hook.lan:port/e" OutboxFixture.five
    Run (Consumers.step OutboxFixture.config) (fun p a => p.fresh a = true)
        ⟨OutboxFixture.start "https://hook.lan:port/e", []⟩ OutboxFixture.five p ∧
      again p.shared.log = true ∧ p.shared.log.count (.dispatched 1) = 5 ∧
      p.shared.rows.rows.map OutboxItem.status = [.failed, .failed]) ∧
    (let p := OutboxFixture.after "https://hook.lan/e" OutboxFixture.twice
    Run (Consumers.step OutboxFixture.config) (fun p a => p.fresh a = true)
        ⟨OutboxFixture.start "https://hook.lan/e", []⟩ OutboxFixture.twice p ∧
      again p.shared.log = true ∧ p.shared.log.count (.dispatched 1) = 2) ∧
    let s := (OutboxFixture.after "https://hook.lan/e" OutboxFixture.events).shared
    s.batch.map OutboxItem.id = [1, 2] ∧
      (s.reached OutboxFixture.config fun _ => OutboxFixture.unmarked).map OutboxItem.id = [1] :=
  ⟨⟨.of_admits (by decide +kernel), by decide +kernel, by decide +kernel, by decide +kernel⟩,
    ⟨.of_admits (by decide +kernel), by decide +kernel, by decide +kernel⟩,
    by decide +kernel, by decide +kernel⟩

end Outbox

end AeroXProtect
