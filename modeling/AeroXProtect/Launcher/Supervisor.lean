import Mathlib.Data.Rat.Init
import Mathlib.Algebra.Order.Ring.Rat
import AeroXProtect.Lib.Run
import AeroXProtect.Lib.Script

/-!
# The launcher's supervisor

The supervisor starts the services in order, waits until each one is ready, and a monitor restarts
those whose child has ended: with a growing delay at first, and every five minutes once a service
has died too often. `step` is one call of an entry point or the death of a child; how the hooks, the
probes and the children turn out is given with the event.

The monitor looks at a failed service only when its child is gone, and retries a crash-looping one
only when no child is recorded. A start that gives up on a live child leaves it recorded
(`Stuck`), and so does every slow retry that has spawned a child and does not come up.
`supervisor_states_iff` says that these are the only ways into a state that is never retried.
-/

open Lib

namespace AeroXProtect.Services

/-! ## Services -/

inductive Status
  | stopped | starting | running | failed | crashlooping | disabled
  deriving DecidableEq, Repr

/-- What a service is started with: its hooks are known by whether it has them. -/
structure ServiceSpec where
  name : String
  ready : Bool
  preStart : Bool
  postReady : Bool
  appTier : Bool
  optional : Bool
  hasExists : Bool
  deriving DecidableEq, Repr

/-- The process table, in start order. Source: `build_specs`
(`windows/launcher/axp_launcher/supervisor.py:62`). -/
def buildSpecs : List ServiceSpec :=
  [⟨"mariadb", true, true, true, false, false, false⟩,
    ⟨"redis", true, false, false, false, false, false⟩,
    ⟨"go2rtc", true, false, false, false, false, false⟩,
    ⟨"caddy", true, false, false, false, false, false⟩,
    ⟨"backend", true, false, false, true, false, false⟩,
    ⟨"worker", false, false, false, true, false, false⟩,
    ⟨"beat", false, false, false, true, false, false⟩,
    ⟨"subs", false, false, false, true, false, false⟩,
    ⟨"recorder", false, false, false, true, false, false⟩,
    ⟨"encoder", true, false, false, true, false, false⟩,
    ⟨"detector", true, false, false, true, true, true⟩]

/-- A child of the launcher. Only `alive` is in the program: `passed` and `posted` record that the
readiness check and the `post_ready` hook have succeeded for this child. -/
structure Child where
  alive : Bool
  passed : Bool
  posted : Bool
  deriving DecidableEq, Repr

/-- A child that has just been spawned. -/
def Child.fresh : Child := ⟨true, false, false⟩

/-- The child ends here, if it does. -/
def Child.ends (dies : Bool) (c : Child) : Child := { c with alive := c.alive && !dies }

def backoffStart : Rat := 1
def backoffMax : Rat := 60
def crashloopWindowS : Rat := 600
def crashloopLimit : Nat := 10
def crashloopRetryS : Rat := 300
def healthyResetS : Rat := 120

structure ServiceState where
  spec : ServiceSpec
  popen : Option Child
  startedAt : Rat
  restartCount : Nat
  backoff : Rat
  nextRetry : Rat
  recentDeaths : List Rat
  status : Status
  desired : Bool
  deriving DecidableEq, Repr

/-- A service before its first start. -/
def ServiceState.new (spec : ServiceSpec) : ServiceState :=
  ⟨spec, none, 0, 0, backoffStart, 0, [], .stopped, true⟩

/-! ## Starting a service -/

/-- A round of the readiness loop: whether the child ends before it is polled, and the answer of the
readiness check. -/
structure Round where
  dies : Bool
  ready : Bool
  deriving DecidableEq, Repr

/-- How a start turns out. `rounds` are the rounds of the readiness loop that fit before the
deadline and before a shutdown; the child may also end after them (`diesWaiting`), between the loop
and the poll after it (`diesReady`) and while `post_ready` runs (`diesPosting`). -/
structure Attempt where
  preStart : Bool
  spawns : Bool
  spawnedAt : Rat
  rounds : List Round
  diesWaiting : Bool
  diesReady : Bool
  posts : Bool
  diesPosting : Bool
  deriving DecidableEq, Repr

/-- Source: `_spawn` (`windows/launcher/axp_launcher/supervisor.py:241`). -/
def spawn (a : Attempt) (st : ServiceState) : ServiceState :=
  if st.spec.preStart && !a.preStart then { st with status := .failed }
  else if a.spawns then
    { st with status := .starting, popen := some .fresh, startedAt := a.spawnedAt }
  else { st with status := .failed, popen := none }

/-- The readiness loop: the child, and whether the loop was left before its time was over. -/
def waitReady : List Round → Child → Child × Bool
  | [], c => (c, false)
  | r :: rounds, c =>
    let c := c.ends r.dies
    if !c.alive then (c, true)
    else if r.ready then ({ c with passed := true }, true)
    else waitReady rounds c

/-- The end of a start whose child is ready. -/
def postReady (a : Attempt) (c : Child) (st : ServiceState) : ServiceState :=
  if st.spec.postReady then
    let c := c.ends a.diesPosting
    if a.posts then { st with popen := some { c with posted := true }, status := .running }
    else { st with popen := some c, status := .failed }
  else { st with popen := some c, status := .running }

/-- The part of a start that waits for the child. -/
def await (stopEvent : Bool) (a : Attempt) (c : Child) (st : ServiceState) : ServiceState :=
  if st.spec.ready then
    match waitReady (if stopEvent then [] else a.rounds) c with
    | (c, false) => { st with popen := some (c.ends a.diesWaiting), status := .failed }
    | (c, true) =>
      let c := c.ends a.diesReady
      if !c.alive then { st with popen := some c, status := .failed }
      else postReady a c st
  else postReady a c st

/-- Source: `_start_and_wait` (`windows/launcher/axp_launcher/supervisor.py:210`). -/
def startAndWait (stopEvent : Bool) (a : Attempt) (st : ServiceState) : ServiceState :=
  let st := spawn a st
  match st.popen with
  | none => st
  | some c => await stopEvent a c st

/-- Stops a service, and whether that did not raise: it does when the child does not end within ten
seconds after it was killed (`hangs`). Source: `_stop_child`
(`windows/launcher/axp_launcher/supervisor.py:275`). -/
def stopChild (hangs : Bool) (st : ServiceState) : ServiceState × Bool :=
  ({ st with popen := none, status := .stopped }, !(hangs && st.popen.any Child.alive))

/-- A start on demand: the death window and the delay are reset. -/
def restarted (st : ServiceState) : ServiceState :=
  { st with desired := true, restartCount := 0, backoff := backoffStart, recentDeaths := [] }

/-! ## The monitor -/

/-- The deaths in the window, with one more. -/
def deathsAt (now : Rat) (st : ServiceState) : List Rat :=
  (st.recentDeaths.filter fun t => decide (now - t < crashloopWindowS)) ++ [now]

/-- One more death is one too many. -/
def crashloops (now : Rat) (st : ServiceState) : Bool :=
  decide (crashloopLimit < (deathsAt now st).length)

/-- Source: `_register_death` (`windows/launcher/axp_launcher/supervisor.py:376`); `later` is the
second time that the clock is read. -/
def registerDeath (now later : Rat) (st : ServiceState) : ServiceState :=
  let st' := { st with restartCount := st.restartCount + 1, recentDeaths := deathsAt now st }
  if crashloops now st then
    { st' with status := .crashlooping, nextRetry := later + crashloopRetryS }
  else st'

/-- What a tick of the monitor finds for a service: the times that the clock gives, in the order in
which it is read, and how a start turns out. -/
structure Tick where
  now : Rat
  died : Rat
  registered : Rat
  later : Rat
  attempt : Attempt
  deriving DecidableEq, Repr

/-- The retry of a crash-looping service. -/
def slowRetry (stopEvent : Bool) (t : Tick) (st : ServiceState) : ServiceState :=
  let st := startAndWait stopEvent t.attempt { st with recentDeaths := [] }
  if st.status ≠ .running then
    { st with status := .crashlooping, nextRetry := t.later + crashloopRetryS }
  else st

/-- The retry of a service that has failed. -/
def retry (stopEvent : Bool) (t : Tick) (st : ServiceState) : ServiceState :=
  let st := registerDeath t.died t.registered st
  if st.status ≠ .crashlooping then startAndWait stopEvent t.attempt st else st

/-- The child of a service has died. -/
def bury (t : Tick) (st : ServiceState) : ServiceState :=
  let st := registerDeath t.died t.registered { st with popen := none }
  if st.status = .crashlooping then st
  else
    { st with
      status := .failed
      nextRetry := t.later + st.backoff
      backoff := min (st.backoff * 2) backoffMax }

/-- Source: `_monitor_one` (`windows/launcher/axp_launcher/supervisor.py:343`). -/
def monitorOne (stopEvent : Bool) (t : Tick) (st : ServiceState) : ServiceState :=
  if !st.desired || st.status = .disabled then st
  else if st.status = .crashlooping then
    if st.popen = none ∧ st.nextRetry ≤ t.now then slowRetry stopEvent t st else st
  else
    match st.popen with
    | none => if st.status = .failed ∧ st.nextRetry ≤ t.now then retry stopEvent t st else st
    | some c =>
      if c.alive then
        if st.backoff ≠ backoffStart ∧ healthyResetS < t.now - st.startedAt then
          { st with backoff := backoffStart }
        else st
      else bury t st

/-! ## The supervisor -/

/-- The services in start order, and whether a shutdown has begun. -/
structure Supervisor where
  states : List ServiceState
  stopEvent : Bool
  deriving DecidableEq, Repr

def init (specs : List ServiceSpec) : Supervisor := ⟨specs.map .new, false⟩

/-- A call of an entry point, with the way it turns out for each service, or the death of a
child. -/
inductive Event
  | startInfra (a : String → Attempt)
  | startAppTier (present : String → Bool) (a : String → Attempt)
  | stopService (name : String) (hangs : Bool)
  | stopAll (appOnly : Bool) (hangs : String → Bool)
  | restartService (name : String) (hangs : Bool) (a : Attempt)
  | monitorTick (t : String → Tick)
  | death (name : String)
  | shutdown (hangs : String → Bool)

/-- The service of a name is changed. -/
def Supervisor.change (name : String) (f : ServiceState → ServiceState) (s : Supervisor) :
    Supervisor :=
  { s with states := s.states.map fun st => if st.spec.name = name then f st else st }

def startInfraOne (stopEvent : Bool) (a : String → Attempt) (st : ServiceState) : ServiceState :=
  if st.spec.appTier || stopEvent then st else startAndWait stopEvent (a st.spec.name) st

/-- The service is there to be started. -/
def isPresent (present : String → Bool) (spec : ServiceSpec) : Bool :=
  !(spec.optional && spec.hasExists && !present spec.name)

def startAppTierOne (stopEvent : Bool) (present : String → Bool) (a : String → Attempt)
    (st : ServiceState) : ServiceState :=
  if !st.spec.appTier then st
  else if isPresent present st.spec then startAndWait stopEvent (a st.spec.name) (restarted st)
  else { st with status := .disabled, desired := false }

def stopServiceOne (hangs : Bool) (st : ServiceState) : ServiceState × Bool :=
  stopChild hangs { st with desired := false }

def stopAllOne (appOnly : Bool) (hangs : String → Bool) (st : ServiceState) : ServiceState × Bool :=
  if appOnly && !st.spec.appTier then (st, true) else stopServiceOne (hangs st.spec.name) st

def restartServiceOne (stopEvent hangs : Bool) (a : Attempt) (st : ServiceState) : ServiceState :=
  match stopChild hangs st with
  | (st, false) => st
  | (st, true) => startAndWait stopEvent a (restarted st)

/-- Source: `stop_all` (`windows/launcher/axp_launcher/supervisor.py:300`), in the reverse of the
start order. -/
def Supervisor.stopAll (appOnly : Bool) (hangs : String → Bool) (s : Supervisor) : Supervisor :=
  { s with states := (Script.sweep (stopAllOne appOnly hangs) s.states.reverse).reverse }

/-- Source: `start_infra`, `start_app_tier`, `stop_service`, `restart_service`, `monitor_forever`
and `shutdown` (`windows/launcher/axp_launcher/supervisor.py:388`). -/
def step (s : Supervisor) : Event → Supervisor
  | .startInfra a => { s with states := s.states.map (startInfraOne s.stopEvent a) }
  | .startAppTier present a =>
    { s with states := s.states.map (startAppTierOne s.stopEvent present a) }
  | .stopService name hangs => s.change name fun st => (stopServiceOne hangs st).1
  | .stopAll appOnly hangs => s.stopAll appOnly hangs
  | .restartService name hangs a => s.change name (restartServiceOne s.stopEvent hangs a)
  | .monitorTick t =>
    { s with states := s.states.map fun st => monitorOne s.stopEvent (t st.spec.name) st }
  | .death name => s.change name fun st => { st with popen := st.popen.map (Child.ends true) }
  | .shutdown hangs => { s with stopEvent := true }.stopAll false hangs

/-! ## What is asked of a state -/

/-- A desired service that has failed has no live child, and one that is crash-looping has none
recorded. -/
structure Retried (st : ServiceState) : Prop where
  failed : st.desired = true → st.status = .failed → ∀ c ∈ st.popen, c.alive = false
  crashlooping : st.desired = true → st.status = .crashlooping → st.popen = none

/-- A service is running only with a child that has passed its readiness check and its `post_ready`
hook. -/
def Checked (st : ServiceState) : Prop :=
  st.status = .running → ∃ c, st.popen = some c ∧ (st.spec.ready = true → c.passed = true) ∧
    (st.spec.postReady = true → c.posted = true)

/-! ## Starts that leave a child behind -/

section
variable (stopEvent : Bool) (a : Attempt)

/-- The child that a start waits for. -/
def Attempt.child (st : ServiceState) : Option Child :=
  if st.spec.preStart && !a.preStart then st.popen
  else if a.spawns then some .fresh else none

/-- The readiness check passes before the deadline, and the child is alive. -/
def Attempt.Answers (c : Child) : Prop :=
  c.alive = true ∧ stopEvent = false ∧ a.diesReady = false ∧
    ∃ pre r post, a.rounds = pre ++ r :: post ∧
      (∀ q ∈ pre, q.dies = false ∧ q.ready = false) ∧ r.dies = false ∧ r.ready = true

/-- The readiness check does not pass before the deadline or a shutdown, and the child is alive. -/
def Attempt.TimesOut (c : Child) : Prop :=
  c.alive = true ∧ a.diesWaiting = false ∧
    (stopEvent = false → ∀ q ∈ a.rounds, q.dies = false ∧ q.ready = false)

/-- The start gives up on a child that is alive: the readiness check times out, or `post_ready`
fails. -/
def Attempt.GivesUp (st : ServiceState) (c : Child) : Prop :=
  st.spec.ready = true ∧ a.TimesOut stopEvent c ∨
    (st.spec.ready = true → a.Answers stopEvent c) ∧ st.spec.postReady = true ∧
      c.alive = true ∧ a.posts = false ∧ a.diesPosting = false

/-- The start leaves a live child behind. -/
def Attempt.Stuck (st : ServiceState) : Prop := ∃ c ∈ a.child st, a.GivesUp stopEvent st c

/-- The child that the start waits for comes up. -/
def Attempt.ComesUp (st : ServiceState) (c : Child) : Prop :=
  (st.spec.ready = true → a.Answers stopEvent c) ∧ (st.spec.postReady = true → a.posts = true)

end

/-- What a tick does for a service leaves no child behind: a slow retry that has spawned a child
comes up, and another retry does not give up on a live child. -/
def TickSettles (stopEvent : Bool) (t : Tick) (st : ServiceState) : Prop :=
  st.desired = true → st.popen = none → st.nextRetry ≤ t.now →
    (st.status = .crashlooping → ∀ c ∈ t.attempt.child st, t.attempt.ComesUp stopEvent st c) ∧
    (st.status = .failed → crashloops t.died st = false → ¬ t.attempt.Stuck stopEvent st)

/-- No start of a step gives up on a live child, and each slow retry that spawns a child comes
up. -/
def Settles (s : Supervisor) : Event → Prop
  | .startInfra a => s.stopEvent = false → ∀ st ∈ s.states, st.spec.appTier = false →
      st.desired = true → ¬ (a st.spec.name).Stuck false st
  | .startAppTier present a => ∀ st ∈ s.states, st.spec.appTier = true →
      isPresent present st.spec = true → ¬ (a st.spec.name).Stuck s.stopEvent st
  | .restartService name hangs a => ∀ st ∈ s.states, st.spec.name = name →
      ¬ (hangs = true ∧ ∃ c ∈ st.popen, c.alive = true) →
        ¬ a.Stuck s.stopEvent { st with popen := none }
  | .monitorTick t => ∀ st ∈ s.states, TickSettles s.stopEvent (t st.spec.name) st
  | .stopService .. | .stopAll .. | .death .. | .shutdown .. => True

/-! ## One start -/

section
variable {stopEvent : Bool} {a : Attempt} {c : Child} {st : ServiceState} {rounds : List Round}

@[simp] theorem alive_ends (dies : Bool) (c : Child) :
    (c.ends dies).alive = (c.alive && !dies) := rfl

/-- The loop runs to the end of its time over a live child exactly if every round is quiet. -/
theorem waitReady_eq_false_iff (hc : c.alive = true) :
    (waitReady rounds c).2 = false ↔ ∀ q ∈ rounds, q.dies = false ∧ q.ready = false := by
  induction rounds with
  | nil => simp [waitReady]
  | cons r rounds ih =>
    have hends : r.dies = false → c.ends r.dies = c := fun h => by simp [Child.ends, h]
    rw [List.forall_mem_cons, ← ih, waitReady]
    cases hdies : r.dies with
    | true => simp [hc]
    | false =>
      rw [hdies] at hends
      cases hready : r.ready <;> simp [hends, hc]

/-- The loop leaves the child alone when it runs to the end of its time. -/
theorem waitReady_fst (hc : c.alive = true) (h : (waitReady rounds c).2 = false) :
    (waitReady rounds c).1 = c := by
  induction rounds with
  | nil => rfl
  | cons r rounds ih =>
    rw [waitReady] at h ⊢
    cases hdies : r.dies with
    | true => simp [hc, hdies] at h
    | false =>
      cases hready : r.ready with
      | true => simp [hc, hdies, hready] at h
      | false =>
        have hends : c.ends false = c := by simp [Child.ends]
        simp only [hdies, hready, hends, hc, Bool.not_true] at h ⊢
        exact ih h

/-- The loop is left over a live child exactly if the check of a round passes after quiet ones. -/
theorem waitReady_alive_iff (hc : c.alive = true) :
    (waitReady rounds c).2 = true ∧ (waitReady rounds c).1.alive = true ↔
      ∃ pre r post, rounds = pre ++ r :: post ∧
        (∀ q ∈ pre, q.dies = false ∧ q.ready = false) ∧ r.dies = false ∧ r.ready = true := by
  induction rounds with
  | nil => simp [waitReady]
  | cons r rounds ih =>
    have hends : c.ends false = c := by simp [Child.ends]
    rw [waitReady]
    constructor
    · intro h
      cases hdies : r.dies with
      | true => simp [hc, hdies] at h
      | false =>
        cases hready : r.ready with
        | true => exact ⟨[], r, rounds, rfl, nofun, hdies, hready⟩
        | false =>
          simp only [hdies, hready, hends, hc, Bool.not_true] at h
          obtain ⟨pre, r', post, rfl, hpre, hr⟩ := ih.1 h
          exact ⟨r :: pre, r', post, rfl, List.forall_mem_cons.2 ⟨⟨hdies, hready⟩, hpre⟩, hr⟩
    · rintro ⟨pre, r', post, heq, hpre, hdies, hready⟩
      cases pre with
      | nil =>
        cases heq
        simp [hdies, hready, hends, hc]
      | cons q pre =>
        cases heq
        obtain ⟨⟨hqd, hqr⟩, hpre⟩ := List.forall_mem_cons.1 hpre
        simp only [hqd, hqr, hends, hc, Bool.not_true]
        exact ih.2 ⟨pre, r', post, rfl, hpre, hdies, hready⟩

/-- The child has then passed its check. -/
theorem passed_waitReady (h : (waitReady rounds c).2 = true)
    (halive : (waitReady rounds c).1.alive = true) : (waitReady rounds c).1.passed = true := by
  induction rounds generalizing c with
  | nil => cases h
  | cons r rounds ih =>
    rw [waitReady] at h halive ⊢
    split
    · next hdead => simp_all
    · next hlive =>
      split
      · rfl
      · next hready =>
        rw [if_neg hlive, if_neg hready] at h halive
        exact ih h halive

/-- A child that has ended stays so. -/
theorem alive_waitReady (h : (waitReady rounds c).1.alive = true) : c.alive = true := by
  induction rounds generalizing c with
  | nil => exact h
  | cons r rounds ih =>
    rw [waitReady] at h
    split at h
    · next hdead => simp_all
    · split at h
      · exact (Bool.and_eq_true _ _ ▸ h : c.alive = true ∧ _).1
      · exact (Bool.and_eq_true _ _ ▸ ih h : c.alive = true ∧ _).1

/-- The readiness loop of a start. -/
theorem timesOut_iff (stopEvent : Bool) (a : Attempt) (c : Child) :
    a.TimesOut stopEvent c ↔
    (waitReady (if stopEvent then [] else a.rounds) c).2 = false ∧
      ((waitReady (if stopEvent then [] else a.rounds) c).1.ends a.diesWaiting).alive = true := by
  rw [alive_ends, Bool.and_eq_true, Bool.not_eq_true', Attempt.TimesOut]
  constructor
  · rintro ⟨hc, hwait, hquiet⟩
    have hfalse : (waitReady (if stopEvent then [] else a.rounds) c).2 = false := by
      refine (waitReady_eq_false_iff hc).2 ?_
      cases stopEvent with
      | true => exact nofun
      | false => exact hquiet rfl
    exact ⟨hfalse, by rw [waitReady_fst hc hfalse]; exact hc, hwait⟩
  · rintro ⟨hfalse, halive, hwait⟩
    have hc := alive_waitReady halive
    refine ⟨hc, hwait, ?_⟩
    rintro rfl
    exact (waitReady_eq_false_iff hc).1 hfalse

/-- The same for a loop that the child answers. -/
theorem answers_iff (stopEvent : Bool) (a : Attempt) (c : Child) :
    a.Answers stopEvent c ↔
    (waitReady (if stopEvent then [] else a.rounds) c).2 = true ∧
      ((waitReady (if stopEvent then [] else a.rounds) c).1.ends a.diesReady).alive = true := by
  rw [alive_ends, Bool.and_eq_true, Bool.not_eq_true', ← and_assoc, Attempt.Answers]
  constructor
  · rintro ⟨hc, rfl, hdies, hanswer⟩
    exact ⟨(waitReady_alive_iff hc).2 hanswer, hdies⟩
  · rintro ⟨⟨hleft, halive⟩, hdies⟩
    have hc := alive_waitReady halive
    cases stopEvent with
    | true => cases hleft
    | false => exact ⟨hc, rfl, hdies, (waitReady_alive_iff hc).1 ⟨hleft, halive⟩⟩

/-! ## What a start leaves -/

@[simp] theorem spec_spawn : (spawn a st).spec = st.spec := by
  unfold spawn
  split
  · rfl
  · split <;> rfl

@[simp] theorem desired_spawn : (spawn a st).desired = st.desired := by
  unfold spawn
  split
  · rfl
  · split <;> rfl

theorem popen_spawn (a : Attempt) (st : ServiceState) : (spawn a st).popen = a.child st := by
  unfold spawn Attempt.child
  split
  · rfl
  · split <;> rfl

/-- Without a child, the start has failed. -/
theorem status_spawn (h : a.child st = none) : (spawn a st).status = .failed := by
  unfold spawn
  unfold Attempt.child at h
  split
  · rfl
  · next hpre =>
    rw [if_neg hpre] at h
    split
    · next hspawns => simp [hspawns] at h
    · rfl

/-- The two ends of a start whose child is ready. -/
theorem postReady_cases (a : Attempt) (c : Child) (st : ServiceState) : ∃ c',
    (st.spec.postReady = true ∧ a.posts = false ∧ c'.alive = (c.alive && !a.diesPosting) ∧
      postReady a c st = { st with popen := some c', status := .failed }) ∨
    (st.spec.postReady = true → a.posts = true ∧ c'.posted = true) ∧ c'.passed = c.passed ∧
      postReady a c st = { st with popen := some c', status := .running } := by
  unfold postReady
  split
  · next hpost =>
    dsimp only
    split
    · next hposts =>
      exact ⟨{ c.ends a.diesPosting with posted := true },
        .inr ⟨fun _ => ⟨hposts, rfl⟩, rfl, rfl⟩⟩
    · next hposts =>
      exact ⟨c.ends a.diesPosting, .inl ⟨hpost, by simpa using hposts, rfl, rfl⟩⟩
  · next hpost => exact ⟨c, .inr ⟨fun h => absurd h hpost, rfl, rfl⟩⟩

/-- The two ends of a start that has a child. -/
theorem await_cases (stopEvent : Bool) (a : Attempt) (c : Child) (st : ServiceState) : ∃ c',
    (¬ a.ComesUp stopEvent st c ∧ (c'.alive = true ↔ a.GivesUp stopEvent st c) ∧
      await stopEvent a c st = { st with popen := some c', status := .failed }) ∨
    (a.ComesUp stopEvent st c ∧ (st.spec.ready = true → c'.passed = true) ∧
      (st.spec.postReady = true → c'.posted = true) ∧
      await stopEvent a c st = { st with popen := some c', status := .running }) := by
  have htimes := timesOut_iff stopEvent a c
  have hanswers := answers_iff stopEvent a c
  have hpassed := @passed_waitReady c (if stopEvent then [] else a.rounds)
  have halive := @alive_waitReady c (if stopEvent then [] else a.rounds)
  unfold await Attempt.ComesUp Attempt.GivesUp
  split
  · next hready =>
    generalize waitReady (if stopEvent then [] else a.rounds) c = w at *
    obtain ⟨c₁, left⟩ := w
    cases left with
    | false =>
      refine ⟨_, .inl ⟨fun h => ?_, ?_, rfl⟩⟩
      · exact absurd (hanswers.1 (h.1 hready)).1 (by simp)
      · refine ⟨fun h => .inl ⟨hready, htimes.2 ⟨rfl, h⟩⟩, ?_⟩
        rintro (⟨-, h⟩ | ⟨h, -⟩)
        · exact (htimes.1 h).2
        · exact absurd (hanswers.1 (h hready)).1 (by simp)
    | true =>
      have hnot : ¬ a.TimesOut stopEvent c := fun h => absurd (htimes.1 h).1 (by simp)
      dsimp only
      split
      · next hdead =>
        have hdead : ¬ (c₁.ends a.diesReady).alive = true := by
          rwa [Bool.not_eq_true', ← Bool.not_eq_true] at hdead
        have hno : ¬ a.Answers stopEvent c := fun h => hdead (hanswers.1 h).2
        refine ⟨_, .inl ⟨fun h => hno (h.1 hready), ?_, rfl⟩⟩
        refine ⟨fun h => absurd h hdead, ?_⟩
        rintro (⟨-, h⟩ | ⟨h, -⟩)
        · exact absurd h hnot
        · exact absurd (h hready) hno
      · next hlive =>
        have hlive : (c₁.ends a.diesReady).alive = true := by simpa using hlive
        have hans : a.Answers stopEvent c := hanswers.2 ⟨rfl, hlive⟩
        have hc₁ : c₁.alive = true := (Bool.and_eq_true _ _ ▸ hlive : c₁.alive = true ∧ _).1
        obtain ⟨c', ⟨hpost, hposts, hc', heq⟩ | ⟨hpost, hc', heq⟩⟩ :=
          postReady_cases a (c₁.ends a.diesReady) st
        · refine ⟨c', .inl ⟨fun h => ?_, ?_, heq⟩⟩
          · exact absurd (h.2 hpost) (by simp [hposts])
          · rw [hc', hlive, Bool.true_and, Bool.not_eq_true']
            refine ⟨fun h => .inr ⟨fun _ => hans, hpost, halive hc₁, hposts, h⟩, ?_⟩
            rintro (⟨-, h⟩ | ⟨-, -, -, -, h⟩)
            · exact absurd h hnot
            · exact h
        · refine ⟨c', .inr ⟨⟨fun _ => hans, fun h => (hpost h).1⟩, fun _ => ?_,
            fun h => (hpost h).2, heq⟩⟩
          rw [hc']
          exact hpassed rfl hc₁
  · next hready =>
    obtain ⟨c', ⟨hpost, hposts, hc', heq⟩ | ⟨hpost, hc', heq⟩⟩ := postReady_cases a c st
    · refine ⟨c', .inl ⟨fun h => absurd (h.2 hpost) (by simp [hposts]), ?_, heq⟩⟩
      rw [hc', Bool.and_eq_true, Bool.not_eq_true']
      refine ⟨fun h => .inr ⟨fun h => absurd h hready, hpost, h.1, hposts, h.2⟩, ?_⟩
      rintro (⟨h, -⟩ | ⟨-, -, hc, -, h⟩)
      · exact absurd h hready
      · exact ⟨hc, h⟩
    · exact ⟨c', .inr ⟨⟨fun h => absurd h hready, fun h => (hpost h).1⟩, fun h => absurd h hready,
        fun h => (hpost h).2, heq⟩⟩

/-- What a start leaves, without a child or with the one that it waited for. -/
theorem startAndWait_cases (stopEvent : Bool) (a : Attempt) (st : ServiceState) :
    (a.child st = none ∧ (startAndWait stopEvent a st).status = .failed ∧
      (startAndWait stopEvent a st).popen = none) ∨
    ∃ c c', a.child st = some c ∧ (startAndWait stopEvent a st).popen = some c' ∧
      (¬ a.ComesUp stopEvent st c ∧ (c'.alive = true ↔ a.GivesUp stopEvent st c) ∧
          (startAndWait stopEvent a st).status = .failed ∨
        a.ComesUp stopEvent st c ∧ (st.spec.ready = true → c'.passed = true) ∧
          (st.spec.postReady = true → c'.posted = true) ∧
          (startAndWait stopEvent a st).status = .running) := by
  have hpopen := popen_spawn a st
  cases hchild : a.child st with
  | none =>
    have heq : startAndWait stopEvent a st = spawn a st := by
      simp only [startAndWait, hpopen, hchild]
    exact .inl ⟨rfl, by rw [heq, status_spawn hchild], by rw [heq, hpopen, hchild]⟩
  | some c =>
    have heq : startAndWait stopEvent a st = await stopEvent a c (spawn a st) := by
      simp only [startAndWait, hpopen, hchild]
    have hup : a.ComesUp stopEvent (spawn a st) c ↔ a.ComesUp stopEvent st c := by
      simp only [Attempt.ComesUp, spec_spawn]
    have hgives : a.GivesUp stopEvent (spawn a st) c ↔ a.GivesUp stopEvent st c := by
      simp only [Attempt.GivesUp, spec_spawn]
    obtain ⟨c', h⟩ := await_cases stopEvent a c (spawn a st)
    rw [hup, hgives, spec_spawn] at h
    refine .inr ⟨c, c', rfl, ?_⟩
    rw [heq]
    rcases h with ⟨hno, halive, h⟩ | ⟨hyes, hpassed, hposted, h⟩
    · exact ⟨by rw [h], .inl ⟨hno, halive, by rw [h]⟩⟩
    · exact ⟨by rw [h], .inr ⟨hyes, hpassed, hposted, by rw [h]⟩⟩

/-- A start leaves the specification alone, and whether the service is desired. -/
theorem startAndWait_frame (stopEvent : Bool) (a : Attempt) (st : ServiceState) :
    (startAndWait stopEvent a st).spec = st.spec ∧
      (startAndWait stopEvent a st).desired = st.desired := by
  simp only [startAndWait]
  split
  · exact ⟨spec_spawn, desired_spawn⟩
  · next c hc =>
    obtain ⟨c', ⟨-, -, h⟩ | ⟨-, -, -, h⟩⟩ := await_cases stopEvent a c (spawn a st) <;>
      exact h ▸ ⟨spec_spawn, desired_spawn⟩

/-- A child does not both come up and get given up on. -/
theorem not_givesUp (h : a.ComesUp stopEvent st c) : ¬ a.GivesUp stopEvent st c := by
  rintro (⟨hready, htimes⟩ | ⟨-, hpost, -, hposts, -⟩)
  · have hanswers := ((answers_iff stopEvent a _).1 (h.1 hready)).1
    simp [((timesOut_iff stopEvent a _).1 htimes).1] at hanswers
  · simp [h.2 hpost] at hposts

/-- A start leaves a service running only when it has passed its checks. -/
theorem checked_startAndWait : Checked (startAndWait stopEvent a st) := by
  intro hrunning
  rw [(startAndWait_frame stopEvent a st).1]
  rcases startAndWait_cases stopEvent a st with ⟨-, hfailed, -⟩ | ⟨c, c', -, hpopen, h⟩
  · simp [hfailed] at hrunning
  · rcases h with ⟨-, -, hfailed⟩ | ⟨-, hpassed, hposted, -⟩
    · simp [hfailed] at hrunning
    · exact ⟨c', hpopen, hpassed, hposted⟩

/-- A start of a desired service leaves it to be retried exactly if it does not get stuck. -/
theorem retried_startAndWait_iff :
    Retried (startAndWait stopEvent a st) ↔ (st.desired = true → ¬ a.Stuck stopEvent st) := by
  rcases startAndWait_cases stopEvent a st with
    ⟨hchild, hfailed, hnone⟩ | ⟨c, c', hchild, hpopen, h⟩
  · have hstuck : ¬ a.Stuck stopEvent st := by simp [Attempt.Stuck, hchild]
    refine iff_of_true ⟨fun _ _ => by simp [hnone], fun _ _ => hnone⟩ fun _ => hstuck
  · have hstuck : a.Stuck stopEvent st ↔ a.GivesUp stopEvent st c := by
      simp [Attempt.Stuck, hchild]
    rw [hstuck]
    rcases h with ⟨-, halive, hfailed⟩ | ⟨hup, -, -, hrunning⟩
    · rw [← halive]
      constructor
      · intro h hdesired
        have hframe := (startAndWait_frame stopEvent a st).2
        simpa using h.failed (hframe.trans hdesired) hfailed c' hpopen
      · refine fun h => ⟨fun hdesired _ => ?_, fun _ hstatus => by simp [hfailed] at hstatus⟩
        rw [(startAndWait_frame stopEvent a st).2] at hdesired
        simpa [hpopen] using h hdesired
    · refine iff_of_true ⟨fun _ hstatus => ?_, fun _ hstatus => ?_⟩ fun _ => not_givesUp hup
      · simp [hrunning] at hstatus
      · simp [hrunning] at hstatus

end

/-! ## One tick -/

section
variable {stopEvent : Bool} {t : Tick} {st : ServiceState}

/-- Where the status of a service says nothing of a retry, a state without a live child is fine. -/
theorem retried_of_popen (h : st.popen = none) : Retried st :=
  ⟨fun _ _ => by simp [h], fun _ _ => h⟩

theorem checked_of_status (h : st.status ≠ .running) : Checked st :=
  fun hrunning => absurd hrunning h

theorem registerDeath_cases (now later : Rat) (st : ServiceState) :
    (registerDeath now later st).spec = st.spec ∧ (registerDeath now later st).popen = st.popen ∧
      (registerDeath now later st).desired = st.desired ∧
      (registerDeath now later st).status =
        if crashloops now st then .crashlooping else st.status := by
  unfold registerDeath
  dsimp only
  split
  · exact ⟨rfl, rfl, rfl, rfl⟩
  · exact ⟨rfl, rfl, rfl, rfl⟩

/-- A slow retry leaves a service to be retried exactly if its child comes up. -/
theorem retried_slowRetry_iff (hdesired : st.desired = true) :
    Retried (slowRetry stopEvent t st) ↔
      ∀ c ∈ t.attempt.child st, t.attempt.ComesUp stopEvent st c := by
  have hcases := startAndWait_cases stopEvent t.attempt { st with recentDeaths := [] }
  have hframe := (startAndWait_frame stopEvent t.attempt { st with recentDeaths := [] }).2
  unfold slowRetry
  generalize startAndWait stopEvent t.attempt { st with recentDeaths := [] } = st' at *
  dsimp only at hframe ⊢
  rcases hcases with ⟨hchild, hfailed, hnone⟩ | ⟨c, c', hchild, hpopen, h⟩
  · replace hchild : t.attempt.child st = none := hchild
    rw [if_pos (by simp [hfailed]), hchild]
    exact iff_of_true (retried_of_popen hnone) nofun
  · replace hchild : t.attempt.child st = some c := hchild
    rw [hchild]
    rcases h with ⟨hno, -, hfailed⟩ | ⟨hup, -, -, hrunning⟩
    · rw [if_pos (by simp [hfailed])]
      refine iff_of_false (fun h => ?_) fun h => hno (h c rfl)
      have hpopen' := h.crashlooping (hframe.trans hdesired) rfl
      simp [hpopen] at hpopen'
    · rw [if_neg (by simp [hrunning])]
      refine iff_of_true ⟨fun _ hstatus => ?_, fun _ hstatus => ?_⟩ ?_
      · simp [hrunning] at hstatus
      · simp [hrunning] at hstatus
      · rintro _ ⟨⟩
        exact hup

/-- A retry of a failed service leaves it to be retried exactly if it is the death too many or its
start does not get stuck. -/
theorem retried_retry_iff (hdesired : st.desired = true) (hnone : st.popen = none)
    (hfailed : st.status = .failed) : Retried (retry stopEvent t st) ↔
      (crashloops t.died st = false → ¬ t.attempt.Stuck stopEvent st) := by
  obtain ⟨hspec, hpopen, hdesired', hstatus⟩ := registerDeath_cases t.died t.registered st
  unfold retry
  dsimp only
  cases hdied : crashloops t.died st with
  | true =>
    rw [hdied, if_pos rfl] at hstatus
    rw [if_neg (by simp [hstatus])]
    exact iff_of_true (retried_of_popen (hpopen.trans hnone)) (by simp)
  | false =>
    rw [hdied, if_neg (by simp)] at hstatus
    have hstuck : t.attempt.Stuck stopEvent (registerDeath t.died t.registered st) ↔
        t.attempt.Stuck stopEvent st := by
      simp only [Attempt.Stuck, Attempt.child, Attempt.GivesUp, hspec, hpopen]
    rw [if_pos (by simp [hstatus, hfailed]), retried_startAndWait_iff, hstuck, hdesired']
    simp [hdesired]

theorem retried_bury : Retried (bury t st) := by
  obtain ⟨-, hpopen, -, -⟩ := registerDeath_cases t.died t.registered { st with popen := none }
  refine retried_of_popen ?_
  unfold bury
  dsimp only
  split
  · exact hpopen
  · exact hpopen

/-- A tick leaves a service to be retried exactly if it leaves no child behind. -/
theorem retried_monitorOne_iff (h : Retried st) :
    Retried (monitorOne stopEvent t st) ↔ TickSettles stopEvent t st := by
  unfold monitorOne TickSettles
  split
  · next hskip =>
    -- the monitor passes over the service
    refine iff_of_true h fun hdesired _ _ => ?_
    have hdisabled : st.status = .disabled := by simpa [hdesired] using hskip
    simp [hdisabled]
  · next hskip =>
    have hdesired : st.desired = true := by
      by_contra hno
      simp [hno] at hskip
    split
    · next hcrash =>
      have hnone := h.crashlooping hdesired hcrash
      split
      · next hdue =>
        rw [retried_slowRetry_iff hdesired]
        simp [hdesired, hnone, hdue.2, hcrash]
      · next hdue => exact iff_of_true h fun _ _ htime => absurd ⟨hnone, htime⟩ hdue
    · next hcrash =>
      split
      · next hnone =>
        split
        · next hdue =>
          rw [retried_retry_iff hdesired hnone hdue.1]
          simp [hdesired, hnone, hdue.1, hdue.2]
        · next hdue =>
          refine iff_of_true h fun _ _ htime => ⟨fun hst => absurd hst hcrash, fun hst => ?_⟩
          exact absurd ⟨hst, htime⟩ hdue
      · next c hc =>
        refine iff_of_true ?_ fun _ hnone => by simp [hc] at hnone
        split
        · split
          · exact ⟨h.failed, h.crashlooping⟩
          · exact h
        · exact retried_bury

/-- A tick leaves a service running only when it has passed its checks. -/
theorem checked_monitorOne (h : Checked st) : Checked (monitorOne stopEvent t st) := by
  unfold monitorOne
  split
  · exact h
  · split
    · split
      · unfold slowRetry
        dsimp only
        split
        · exact checked_of_status (by simp)
        · exact checked_startAndWait
      · exact h
    · split
      · split
        · next hdue =>
          unfold retry
          dsimp only
          split
          · exact checked_startAndWait
          · next hcrash => exact checked_of_status (by simp_all)
        · exact h
      · next c hc =>
        split
        · split
          · exact h
          · exact h
        · unfold bury
          dsimp only
          split
          · next hcrash => exact checked_of_status (by simp [hcrash])
          · exact checked_of_status (by simp)

end

/-! ## One step -/

section
variable {s : Supervisor} {st : ServiceState} {name : String}

/-- A stopped service is neither failed nor running. -/
theorem retried_stopChild (hangs : Bool) (st : ServiceState) : Retried (stopChild hangs st).1 :=
  retried_of_popen rfl

theorem checked_stopChild (hangs : Bool) (st : ServiceState) : Checked (stopChild hangs st).1 :=
  checked_of_status (by simp [stopChild])

/-- What holds of every service and of every service that is stopped holds after `stop_all`. -/
theorem forall_stopAll {P : ServiceState → Prop} (appOnly : Bool) (hangs : String → Bool)
    (hstop : ∀ hangs st, P (stopChild hangs st).1) (h : ∀ st ∈ s.states, P st) :
    ∀ st ∈ (s.stopAll appOnly hangs).states, P st := by
  intro st hst
  obtain ⟨st', hst', rfl | rfl⟩ := Script.mem_sweep (List.mem_reverse.1 hst)
  · exact h _ (List.mem_reverse.1 hst')
  · unfold stopAllOne
    split
    · exact h _ (List.mem_reverse.1 hst')
    · exact hstop _ _

/-- What holds of every service holds after a change of one exactly if it holds of that one. -/
theorem forall_change_iff {P : ServiceState → Prop} {f : ServiceState → ServiceState}
    (h : ∀ st ∈ s.states, P st) : (∀ st ∈ (s.change name f).states, P st) ↔
      ∀ st ∈ s.states, st.spec.name = name → P (f st) := by
  simp only [Supervisor.change, List.forall_mem_map]
  refine forall₂_congr fun st hst => ?_
  split
  · next hname => simp [hname]
  · next hname => exact iff_of_true (h st hst) fun heq => absurd heq hname

theorem retried_death (h : Retried st) :
    Retried { st with popen := st.popen.map (Child.ends true) } := by
  refine ⟨fun _ _ => ?_, fun hdesired hcrash => ?_⟩
  · simp [Child.ends]
  · simp [h.crashlooping hdesired hcrash]

theorem checked_death (h : Checked st) :
    Checked { st with popen := st.popen.map (Child.ends true) } := by
  intro hrunning
  obtain ⟨c, hc, hpassed, hposted⟩ := h hrunning
  exact ⟨c.ends true, by simp [hc], hpassed, hposted⟩

/-- A restart leaves a service to be retried exactly if its stop raises or its start does not get
stuck. -/
theorem retried_restart_iff {stopEvent hangs : Bool} {a : Attempt} :
    Retried (restartServiceOne stopEvent hangs a st) ↔
      (¬ (hangs = true ∧ ∃ c ∈ st.popen, c.alive = true) →
        ¬ a.Stuck stopEvent { st with popen := none }) := by
  have hraises : (stopChild hangs st).2 = false ↔
      hangs = true ∧ ∃ c ∈ st.popen, c.alive = true := by
    simp [stopChild, Option.any_eq_true]
  unfold restartServiceOne
  split
  · next st' heq =>
    rw [heq] at hraises
    have hstop : st' = (stopChild hangs st).1 := by rw [heq]
    rw [hstop]
    exact iff_of_true (retried_stopChild hangs st) fun hno => absurd (hraises.1 rfl) hno
  · next st' heq =>
    rw [heq] at hraises
    have hstop : st' = (stopChild hangs st).1 := by rw [heq]
    have hno : ¬ (hangs = true ∧ ∃ c ∈ st.popen, c.alive = true) := fun h =>
      Bool.noConfusion (hraises.2 h)
    rw [retried_startAndWait_iff, hstop]
    exact ⟨fun h _ => h rfl, fun h _ => h hno⟩

/-- Every service is retried when it has to be, and has passed its checks when it runs. -/
def Good (s : Supervisor) : Prop := ∀ st ∈ s.states, Retried st ∧ Checked st

theorem good_init (specs : List ServiceSpec) : Good (init specs) := by
  refine List.forall_mem_map.2 fun spec _ => ⟨retried_of_popen rfl, checked_of_status ?_⟩
  simp [ServiceState.new]

/-- A step keeps what a running service has passed. -/
theorem checked_step (h : ∀ st ∈ s.states, Checked st) (e : Event) :
    ∀ st ∈ (step s e).states, Checked st := by
  cases e with
  | startInfra a =>
    refine List.forall_mem_map.2 fun st hst => ?_
    unfold startInfraOne
    split
    · exact h st hst
    · exact checked_startAndWait
  | startAppTier present a =>
    refine List.forall_mem_map.2 fun st hst => ?_
    unfold startAppTierOne
    split
    · exact h st hst
    · split
      · exact checked_startAndWait
      · exact checked_of_status (by simp)
  | stopService name hangs => exact (forall_change_iff h).2 fun st _ _ => checked_stopChild hangs _
  | stopAll appOnly hangs => exact forall_stopAll appOnly hangs checked_stopChild h
  | restartService name hangs a =>
    refine (forall_change_iff h).2 fun st _ _ => ?_
    unfold restartServiceOne
    split
    · next heq =>
      have hstop := checked_stopChild hangs st
      rwa [heq] at hstop
    · exact checked_startAndWait
  | monitorTick t => exact List.forall_mem_map.2 fun st hst => checked_monitorOne (h st hst)
  | death name => exact (forall_change_iff h).2 fun st hst _ => checked_death (h st hst)
  | shutdown hangs => exact forall_stopAll false hangs checked_stopChild h

/-- A step from a state in which every service is retried leaves such a state exactly if it
settles. -/
theorem retried_step_iff (h : ∀ st ∈ s.states, Retried st) (e : Event) :
    (∀ st ∈ (step s e).states, Retried st) ↔ Settles s e := by
  cases e with
  | startInfra a =>
    rw [step, Settles, List.forall_mem_map]
    cases hstop : s.stopEvent with
    | true => simpa [startInfraOne] using h
    | false =>
      rw [forall_prop_of_true rfl]
      refine forall₂_congr fun st hst => ?_
      unfold startInfraOne
      split
      · next happ => exact iff_of_true (h st hst) (by simp_all)
      · next happ => rw [retried_startAndWait_iff]; simp_all
  | startAppTier present a =>
    rw [step, Settles, List.forall_mem_map]
    refine forall₂_congr fun st hst => ?_
    unfold startAppTierOne
    split
    · next happ => exact iff_of_true (h st hst) (by simp_all)
    · next happ =>
      split
      · next hpresent =>
        rw [retried_startAndWait_iff]
        exact ⟨fun h _ _ => h rfl, fun h _ => h (by simpa using happ) hpresent⟩
      · next hpresent =>
        exact iff_of_true ⟨nofun, nofun⟩ fun _ hyes => absurd hyes hpresent
  | stopService name hangs =>
    exact iff_of_true ((forall_change_iff h).2 fun st _ _ => retried_stopChild hangs _) trivial
  | stopAll appOnly hangs =>
    exact iff_of_true (forall_stopAll appOnly hangs retried_stopChild h) trivial
  | restartService name hangs a =>
    refine (forall_change_iff h).trans ?_
    exact forall₃_congr fun st _ _ => retried_restart_iff
  | monitorTick t =>
    rw [step, Settles, List.forall_mem_map]
    exact forall₂_congr fun st hst => retried_monitorOne_iff (h st hst)
  | death name =>
    exact iff_of_true ((forall_change_iff h).2 fun st hst _ => retried_death (h st hst)) trivial
  | shutdown hangs => exact iff_of_true (forall_stopAll false hangs retried_stopChild h) trivial

/-! ## Whole runs -/

/-- For every process table and every sequence of calls and deaths: every state reached is good
exactly if every step settles. -/
theorem supervisor_states_iff (specs : List ServiceSpec) (events : List Event) :
    (∀ pre, pre <+: events → ∀ st ∈ (pre.foldl step (init specs)).states,
        Retried st ∧ Checked st) ↔
      ∀ pre e, pre ++ [e] <+: events → Settles (pre.foldl step (init specs)) e := by
  refine forall_prefix_iff (I := Good) (fun s e h => ?_) (good_init specs)
  have hretried := retried_step_iff (fun st hst => (h st hst).1) e
  have hchecked := checked_step (fun st hst => (h st hst).2) e
  exact ⟨fun hgood => hretried.1 fun st hst => (hgood st hst).1,
    fun hsettles st hst => ⟨hretried.2 hsettles st hst, hchecked st hst⟩⟩

end

/-- A start in which redis does not answer for 90 seconds leaves it failed with a live child; a
service that crash-loops and whose child exits when it is retried keeps that child recorded. Neither
is looked at again. -/
theorem supervisor_stuck :
    let up : Attempt := ⟨true, true, 0, [⟨false, true⟩], false, false, true, false⟩
    let slow : Attempt := { up with rounds := List.replicate 90 ⟨false, false⟩ }
    let exits : Attempt := { up with rounds := [⟨true, false⟩] }
    let tick (a : Attempt) (now : Rat) : Event := .monitorTick fun _ => ⟨now, now, now, now, a⟩
    let infra : Event := .startInfra fun name => if name = "redis" then slow else up
    let s := step (init buildSpecs) infra
    let crashes := [0, 50, 100, 150, 200, 250, 300, 350, 400, 450, 500].map (tick exits)
    let s' := (.death "go2rtc" :: crashes ++ [tick exits 2000]).foldl step s
    (∃ st ∈ s.states, st.spec.name = "redis" ∧ st.desired = true ∧ st.status = .failed ∧
      ∃ c ∈ st.popen, c.alive = true) ∧ step s (tick up 1000000) = s ∧
    (∃ st ∈ s'.states, st.spec.name = "go2rtc" ∧ st.desired = true ∧ st.status = .crashlooping ∧
      ∃ c ∈ st.popen, c.alive = false) ∧ step s' (tick up 1000000) = s' := by
  decide +kernel

end AeroXProtect.Services
