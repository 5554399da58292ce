import AeroXProtect.Event.AlertStream
import AeroXProtect.Event.Subscription
import Mathlib.Data.Option.Basic

/-!
# The end of an alert stream

A subscription leaves its loop when its source is no longer healthy. `IsapiEventSource.poll` marks
itself so when the body raises a transport error; when the camera closes the connection normally,
`next(self._iter, b'')` answers the empty chunk of a stream that is only quiet.
`subscription_ends_iff` says for every response how the task ends: it spins exactly on a stream that
was opened and is closed normally.
-/

open Lib

namespace AeroXProtect

/-- A task with its event source. -/
structure StreamedTask where
  store : SubStore
  task : SubTask
  source : IsapiEventSource

namespace StreamedTask

/-- A statement that leaves the source like this, and raises or not. No other statement raises. -/
def advance (s : StreamedTask) (now : Int) (source : IsapiEventSource) (raises : Bool) :
    StreamedTask :=
  let r := s.store.exec s.task ⟨now, raises, source.healthy, false⟩
  ⟨r.1, r.2, source⟩

/-- One statement of `run_subscription` at an instant, against the response of the camera. -/
def exec (fromString : String → Option Xml) (resp : Option AlertResponse) (s : StreamedTask)
    (now : Int) : StreamedTask :=
  match s.task.pc with
  | .opening => s.advance now ((s.source.open resp).getD s.source) (s.source.open resp).isNone
  | .polling => s.advance now (s.source.poll fromString).1 (s.source.poll fromString).2.isNone
  | .closing => s.advance now s.source.close false
  | _ => s.advance now s.source false

/-- The task after so many statements, at the instants of the clock. -/
def after (fromString : String → Option Xml) (resp : Option AlertResponse) :
    Nat → (Nat → Int) → StreamedTask → StreamedTask
  | 0, _, s => s
  | n + 1, clock, s =>
    after fromString resp n (fun k => clock (k + 1)) (s.exec fromString resp (clock 0))

/-- A task that has taken the lease of its camera. -/
def start (store : SubStore) (camera worker : Nat) (lasts : Int) : StreamedTask :=
  ⟨store, ⟨camera, worker, .acquired, lasts, false⟩, .init⟩

/-- The source is unhealthy, the task is done and its lease is released, so that the next beat
starts a new connection. -/
structure Ended (s : StreamedTask) : Prop where
  unhealthy : s.source.healthy = false
  done : s.task.pc = .done
  released : s.store.leases.entry s.task.camera = none
  restarts : ∀ capabilities id now, isEventCapable capabilities = true →
    (Subs.step ⟨s.store, [s.task]⟩ (.beat s.task.camera capabilities id now)).threads =
      [s.task, SubTask.start (s.task.camera, id)]

end StreamedTask

/-- The camera answered the request and closes the connection normally. -/
def OpenedAndClosed (resp : Option AlertResponse) : Prop :=
  ∃ r, resp = some r ∧ r.status = 200 ∧ r.ending = .closed

namespace StreamedTask

variable {fromString : String → Option Xml} {resp : Option AlertResponse} {s : StreamedTask}
  {now : Int} {clock : Nat → Int}

/-! ## The statements -/

theorem exec_acquired (hpc : s.task.pc = .acquired) :
    s.exec fromString resp now =
      ⟨{ s.store with
          now := now
          stop := fun c => if c = s.task.camera then false else s.store.stop c },
        { s.task with pc := .preparing }, s.source⟩ := by
  simp [exec, advance, SubStore.exec, hpc]

theorem exec_preparing (hpc : s.task.pc = .preparing) :
    s.exec fromString resp now =
      ⟨{ s.store with now := now }, { s.task with pc := .opening }, s.source⟩ := by
  simp [exec, advance, SubStore.exec, hpc]

theorem exec_opening_none (hpc : s.task.pc = .opening) (hopen : s.source.open resp = none) :
    s.exec fromString resp now =
      ⟨{ s.store with now := now }, { s.task with pc := .closing }, s.source⟩ := by
  simp [exec, advance, SubStore.exec, hpc, hopen]

theorem exec_opening_some {source : IsapiEventSource} (hpc : s.task.pc = .opening)
    (hopen : s.source.open resp = some source) :
    s.exec fromString resp now =
      ⟨{ s.store with now := now }, { s.task with pc := .checking }, source⟩ := by
  simp [exec, advance, SubStore.exec, hpc, hopen]

theorem exec_checking (hpc : s.task.pc = .checking) (hstop : s.store.stop s.task.camera = false) :
    s.exec fromString resp now =
      ⟨{ s.store with now := now }, { s.task with pc := .polling }, s.source⟩ := by
  simp [exec, advance, SubStore.exec, hpc, hstop]

theorem exec_polling_some {source : IsapiEventSource} {alerts : List Alert}
    (hpc : s.task.pc = .polling) (hpoll : s.source.poll fromString = (source, some alerts)) :
    s.exec fromString resp now =
      ⟨{ s.store with
          now := now
          leases := s.store.leases.set now s.task.camera s.task.worker LOCK_TTL },
        { s.task with pc := .handling, lasts := now + seconds LOCK_TTL }, source⟩ := by
  simp [exec, advance, SubStore.exec, hpc, hpoll]

theorem exec_polling_none {source : IsapiEventSource} (hpc : s.task.pc = .polling)
    (hpoll : s.source.poll fromString = (source, none)) :
    s.exec fromString resp now =
      ⟨{ s.store with now := now }, { s.task with pc := .closing }, source⟩ := by
  simp [exec, advance, SubStore.exec, hpc, hpoll]

theorem exec_handling (hpc : s.task.pc = .handling) :
    s.exec fromString resp now =
      ⟨{ s.store with now := now },
        { s.task with pc := if s.source.healthy then .checking else .closing }, s.source⟩ := by
  cases hhealthy : s.source.healthy <;> simp [exec, advance, SubStore.exec, hpc, hhealthy]

theorem exec_closing (hpc : s.task.pc = .closing) :
    s.exec fromString resp now =
      ⟨{ s.store with now := now }, { s.task with pc := .releasing }, s.source.close⟩ := by
  simp [exec, advance, SubStore.exec, hpc]

theorem exec_releasing (hpc : s.task.pc = .releasing) :
    s.exec fromString resp now =
      ⟨{ s.store with now := now, leases := s.store.leases.del s.task.camera },
        { s.task with pc := .done }, s.source⟩ := by
  simp [exec, advance, SubStore.exec, hpc]

/-! ## The end -/

/-- The task ends, whatever the clock. -/
def Ends (fromString : String → Option Xml) (resp : Option AlertResponse) (s : StreamedTask) :
    Prop := ∀ clock, ∃ n, (after fromString resp n clock s).Ended

/-- A task ends when it does after its next statement. -/
theorem Ends.of_exec (h : ∀ now, Ends fromString resp (s.exec fromString resp now)) :
    Ends fromString resp s := by
  intro clock
  obtain ⟨n, hn⟩ := h (clock 0) fun k => clock (k + 1)
  exact ⟨n + 1, hn⟩

/-- Closing the source releases the lease. -/
theorem ends_of_closing (hpc : s.task.pc = .closing) : Ends fromString resp s := by
  refine .of_exec fun now => ?_
  rw [exec_closing hpc]
  refine .of_exec fun now' => ?_
  rw [exec_releasing rfl]
  refine fun _ => ⟨0, rfl, rfl, by simp [after], fun capabilities id now hcap => ?_⟩
  simp [after, Subs.step, Locks.holder, hcap, Pool.step]

/-- A poll that raises closes the source. -/
theorem ends_of_polling_none {source : IsapiEventSource} (hpc : s.task.pc = .polling)
    (hpoll : s.source.poll fromString = (source, none)) : Ends fromString resp s := by
  refine .of_exec fun now => ?_
  rw [exec_polling_none hpc hpoll]
  exact ends_of_closing rfl

/-- A poll after which the source is unhealthy is the last one. -/
theorem ends_of_polling_unhealthy {source : IsapiEventSource} {alerts : List Alert}
    (hpc : s.task.pc = .polling) (hpoll : s.source.poll fromString = (source, some alerts))
    (hsick : source.healthy = false) : Ends fromString resp s := by
  refine .of_exec fun now => ?_
  rw [exec_polling_some hpc hpoll]
  refine .of_exec fun now' => ?_
  rw [exec_handling rfl]
  exact ends_of_closing (if_neg (by simp [hsick]))

/-- After another poll the loop comes back to its test. -/
theorem ends_of_polling_healthy {source : IsapiEventSource} {alerts : List Alert}
    (hpc : s.task.pc = .polling) (hpoll : s.source.poll fromString = (source, some alerts))
    (hhealthy : source.healthy = true)
    (hrest : ∀ s' : StreamedTask, s'.task.pc = .checking → s'.source = source →
      s'.store.stop s'.task.camera = s.store.stop s.task.camera → Ends fromString resp s') :
    Ends fromString resp s := by
  refine .of_exec fun now => ?_
  rw [exec_polling_some hpc hpoll]
  refine .of_exec fun now' => ?_
  rw [exec_handling rfl]
  exact hrest _ (if_pos hhealthy) rfl rfl

/-- A loop whose stream does not end normally ends. -/
theorem ends_of_checking (hpc : s.task.pc = .checking)
    (hstop : s.store.stop s.task.camera = false) (hhealthy : s.source.healthy = true)
    (hending : s.source.ending ≠ .closed) : Ends fromString resp s := by
  induction hiter : s.source.iter generalizing s with
  | nil =>
    refine .of_exec fun now => ?_
    rw [exec_checking hpc hstop]
    cases hend : s.source.ending with
    | closed => exact absurd hend hending
    | failed =>
      have hpoll : s.source.poll fromString =
          ({ s.source with ending := .closed, healthy := false }, some []) := by
        simp [IsapiEventSource.poll, hiter, hend]
      exact ends_of_polling_unhealthy rfl hpoll rfl
    | raised =>
      have hpoll : s.source.poll fromString = ({ s.source with ending := .closed }, none) := by
        simp [IsapiEventSource.poll, hiter, hend]
      exact ends_of_polling_none rfl hpoll
  | cons chunk iter ih =>
    obtain ⟨source, alerts, hpoll, hiter', hending', hhealthy'⟩ :
        ∃ source alerts, s.source.poll fromString = (source, some alerts) ∧ source.iter = iter ∧
          source.ending = s.source.ending ∧ source.healthy = s.source.healthy := by
      unfold IsapiEventSource.poll
      rw [hiter]
      simp only
      split <;> exact ⟨_, _, rfl, rfl, rfl, rfl⟩
    rw [hhealthy] at hhealthy'
    refine .of_exec fun now => ?_
    rw [exec_checking hpc hstop]
    refine ends_of_polling_healthy rfl hpoll hhealthy' ?_
    rintro s' hpc' rfl hstop'
    exact ih hpc' (hstop'.trans hstop) hhealthy' (hending' ▸ hending) hiter'

/-- The loop on a stream that is closed normally. -/
structure Spinning (s : StreamedTask) : Prop where
  pc : s.task.pc = .checking ∨ s.task.pc = .polling ∨ s.task.pc = .handling
  stop : s.store.stop s.task.camera = false
  healthy : s.source.healthy = true
  ending : s.source.ending = .closed

/-- The loop goes on: an exhausted stream gives an empty chunk, and the source stays healthy. -/
theorem Spinning.exec (h : s.Spinning) : (s.exec fromString resp now).Spinning := by
  obtain ⟨hpc, hstop, hhealthy, hending⟩ := h
  rcases hpc with hpc | hpc | hpc
  · rw [exec_checking hpc hstop]
    exact ⟨.inr (.inl rfl), hstop, hhealthy, hending⟩
  · obtain ⟨source, alerts, hpoll, hending', hhealthy'⟩ :
        ∃ source alerts, s.source.poll fromString = (source, some alerts) ∧
          source.ending = .closed ∧ source.healthy = true := by
      unfold IsapiEventSource.poll
      rw [hending]
      split
      · split <;> exact ⟨_, _, rfl, rfl, hhealthy⟩
      · exact ⟨_, _, rfl, hending, hhealthy⟩
    rw [exec_polling_some hpc hpoll]
    exact ⟨.inr (.inr rfl), hstop, hhealthy', hending'⟩
  · rw [exec_handling hpc]
    exact ⟨.inl (if_pos hhealthy), hstop, hhealthy, hending⟩

theorem Spinning.after (h : s.Spinning) (n : Nat) (clock : Nat → Int) :
    (after fromString resp n clock s).Spinning := by
  induction n generalizing s clock with
  | zero => exact h
  | succ n ih => exact ih h.exec _

theorem Spinning.not_ended (h : s.Spinning) : ¬ s.Ended := by
  intro hend
  have hdone := hend.done
  rcases h.pc with hpc | hpc | hpc <;> rw [hpc] at hdone <;> cases hdone

/-- A task does not end when it is not done and does not end after its next statement. -/
theorem never_of_exec (pc : SubPc) (hpc : s.task.pc = pc) (hne : pc ≠ .done)
    (h : ∀ now clock n, ¬ (after fromString resp n clock (s.exec fromString resp now)).Ended) :
    ∀ clock n, ¬ (after fromString resp n clock s).Ended := by
  intro clock n
  cases n with
  | zero => exact fun hend => hne (hpc.symm.trans hend.done)
  | succ n => exact h (clock 0) _ n

end StreamedTask

/-- What opening a new source comes to. -/
theorem IsapiEventSource.open_cases (resp : Option AlertResponse) :
    (init.open resp = none ∧ ¬ OpenedAndClosed resp) ∨
      ∃ source, init.open resp = some source ∧ source.healthy = true ∧
        (source.ending = .closed ↔ OpenedAndClosed resp) := by
  cases resp with
  | none =>
    refine .inl ⟨rfl, ?_⟩
    rintro ⟨r, hr, -⟩
    cases hr
  | some r =>
    by_cases hstatus : r.status = 200
    · refine .inr ⟨_, by simp [«open», hstatus]; rfl, rfl,
        fun hclosed => ⟨r, rfl, hstatus, hclosed⟩, ?_⟩
      rintro ⟨r', hr', -, hclosed⟩
      cases hr'
      exact hclosed
    · refine .inl ⟨by simp [«open», hstatus], ?_⟩
      rintro ⟨r', hr', hstatus', -⟩
      cases hr'
      exact hstatus hstatus'

section
open StreamedTask

variable {fromString : String → Option Xml} {resp : Option AlertResponse} (store : SubStore)
  (camera worker : Nat) (lasts : Int)

/-- A task whose stream is closed normally never ends. -/
theorem never_ended (hclosed : OpenedAndClosed resp) :
    ∀ clock n, ¬ (after fromString resp n clock (start store camera worker lasts)).Ended := by
  obtain ⟨source, hopen, hhealthy, hiff⟩ :=
    (IsapiEventSource.open_cases resp).resolve_left fun h => h.2 hclosed
  refine never_of_exec .acquired rfl (by decide) fun now => ?_
  rw [exec_acquired rfl]
  refine never_of_exec .preparing rfl (by decide) fun now' => ?_
  rw [exec_preparing rfl]
  refine never_of_exec .opening rfl (by decide) fun now => ?_
  rw [exec_opening_some rfl hopen]
  intro clock n
  refine Spinning.not_ended (Spinning.after ?_ n clock)
  exact ⟨.inl rfl, if_pos rfl, hhealthy, hiff.2 hclosed⟩

/-- A task whose request fails or whose stream ends otherwise ends. -/
theorem ends_start (hclosed : ¬ OpenedAndClosed resp) :
    Ends fromString resp (start store camera worker lasts) := by
  refine .of_exec fun now => ?_
  rw [exec_acquired rfl]
  refine .of_exec fun now' => ?_
  rw [exec_preparing rfl]
  refine .of_exec fun now => ?_
  rcases IsapiEventSource.open_cases resp with ⟨hnone, -⟩ | ⟨source, hopen, hhealthy, hiff⟩
  · rw [exec_opening_none rfl hnone]
    exact ends_of_closing rfl
  · rw [exec_opening_some rfl hopen]
    exact ends_of_checking rfl (if_pos rfl) hhealthy (mt hiff.1 hclosed)

/-- **When a subscription ends with its stream.** For every response of the camera, however its body
is cut into chunks, and every clock: a task that has the lease of its camera ends after finitely
many statements, its source unhealthy and its lease released, if and only if the response is not one
that was opened and is closed normally. -/
theorem subscription_ends_iff (fromString : String → Option Xml) (resp : Option AlertResponse)
    (clock : Nat → Int) :
    (∃ n, (after fromString resp n clock (start store camera worker lasts)).Ended) ↔
      ¬ OpenedAndClosed resp := by
  constructor
  · rintro ⟨n, hn⟩ hclosed
    exact never_ended store camera worker lasts hclosed clock n hn
  · exact fun hclosed => ends_start store camera worker lasts hclosed clock

namespace StreamFixture

/-- A camera that sends one part and closes the connection. -/
def response : AlertResponse where
  status := 200
  contentType := "multipart/mixed; boundary=boundary"
  chunks := [ascii "--boundary\r\n\r\n<EventNotificationAlert/>", ascii "--boundary"]
  ending := .closed

/-- A parser that reads nothing. -/
def noXml : String → Option Xml := fun _ => none

end StreamFixture

/-- A task at the start of its loop, a statement a second. -/
def StreamFixture.afterSeconds (n : Nat) : StreamedTask :=
  after StreamFixture.noXml (some StreamFixture.response) n (fun k => seconds k)
    (start ⟨0, ∅, fun _ => false⟩ 7 1 0)

/-- After the camera has closed the connection, which two polls have shown in full, the next poll
finds nothing, the source is healthy and the task never ends. -/
theorem subscription_spins :
    (let s := StreamFixture.afterSeconds 12;
      s.source.iter = [] ∧ s.task.pc = .checking ∧
        (s.source.poll StreamFixture.noXml).2 = some [] ∧
        (s.source.poll StreamFixture.noXml).1.healthy = true) ∧
      ¬ ∃ n, (StreamFixture.afterSeconds n).Ended := by
  refine ⟨by decide +kernel, ?_⟩
  rintro ⟨n, hn⟩
  exact never_ended _ 7 1 0 ⟨StreamFixture.response, rfl, rfl, rfl⟩ _ n hn

end

end AeroXProtect
