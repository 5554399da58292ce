import AeroXProtect.Lib.Cells
import AeroXProtect.Storage.Headroom

/-!
# The recorder supervisor

Every few seconds the supervisor makes the recorders follow the cameras to record. A tick stops the
processes of the other cameras and then gives each camera a turn: it starts a process, looks after
the one that runs, or counts the death of one that has ended and starts another one when its time
has come (`RecorderCell.turn`). A turn works on what the supervisor holds for its camera and on what
all cameras share: the policies, which a pick may pin a disk in, and the counter of the round robin.

What a turn reads of the system is given for each camera (`TurnEnv`). The children record what has
happened to each process. `turn_eq` splits a turn into what it does to the running process and the
start, if there is one, and `launch_eq` says what the start does. The command line and the texts of
the log are left out.

An exception of the index is caught, but its handler reads the id of the camera for the log before
it rolls the session back. After a failed flush the camera is expired and the session in a failed
transaction, so that this read raises itself, and leaves the tick. After a rollback, of any camera,
the next read of an id asks the database again. `CameraRead` are the places where a turn reads the
id of its camera, and `TurnEnv.lost` says where that raises.
-/

open Lib

namespace AeroXProtect

/-! ## Processes -/

/-- Source: `BACKOFF_START` (`worker/recorder/supervisor.py:36`), in seconds. -/
def BACKOFF_START : Int := 1

/-- Source: `BACKOFF_MAX` (`worker/recorder/supervisor.py:37`), in seconds. -/
def BACKOFF_MAX : Int := 15

/-- Source: `STALL_FACTOR` (`worker/recorder/supervisor.py:38`). -/
def STALL_FACTOR : Int := 3

/-- The states of `server/model/recorder_health.py`. -/
inductive RecorderState
  | stopped | starting | recording | reconnecting | error
  deriving DecidableEq, Repr

/-- The supervisor's record of a process; `handle` stands for the process, and is its pid. Source:
`Proc` (`worker/recorder/supervisor.py:42`). -/
structure Proc where
  handle : Nat
  diskId : Nat
  container : String
  segmentSeconds : Int
  lastSegmentAt : Int
  restartCount : Nat
  backoff : Int
  nextRetry : Int
  state : RecorderState
  deadHandled : Bool
  lastDbSegmentAt : Option Int
  deriving DecidableEq, Repr

/-- What has happened to a process: whether it has ended, how often its death was counted, whether
the supervisor stopped it, when it was started and the process it replaced, and until when its own
replacement has to wait. -/
structure Child where
  dead : Bool
  counted : Nat
  stopped : Bool
  spawnedAt : Int
  replaces : Option Nat
  retryAt : Option Int
  deriving DecidableEq, Repr

/-- A row of `recorder_health`. -/
structure RecorderHealth where
  state : RecorderState
  pid : Option Nat
  lastSegmentAt : Option Int
  restartCount : Nat
  lastError : Option String
  deriving DecidableEq, Repr

/-- What the supervisor and the system hold for a camera: the tracked process, all its processes so
far, and its health row. -/
structure RecorderCell where
  proc : Option Proc
  children : Nat → Option Child
  next : Nat
  health : Option RecorderHealth

/-- A row of `streams`, as far as the choice reads it. -/
structure RecordStream where
  id : Nat
  role : String
  isDefaultFull : Bool
  deriving DecidableEq, Repr

/-- A camera to record. -/
structure RecordedCamera where
  id : Nat
  streams : List RecordStream
  deriving DecidableEq, Repr

abbrev RecordedCameras := Table RecordedCamera.id

/-- What all cameras share. -/
structure Picks where
  policies : StoragePolicies
  counter : Nat

/-- The places where a turn reads the id of its camera: at its begin, in the handler of the index,
for the log of a stall, for the health row of a running process, for that of a dead one, for the log
after it, in the handler of the last index, at the begin of a start, and for the log at its end. -/
inductive CameraRead
  | turn | index | stalled | recording | dead | logged | flush | start | started
  deriving DecidableEq, Repr

/-- What a turn reads: the clock as the last segment, the stall check, the death, its gate and the
start read it, and the time of the database; whether the index raises or how many segments it finds;
whether the last index of a dead process returns; where the id of the camera cannot be read; which
health states can be written; whether the database can be read; the disks, the headroom, the hash
and whether Redis answers; whether the pick returns, the directory can be made; and the texts of the
`OSError` that opening the log and spawning raise. -/
structure TurnEnv where
  segment : Int
  check : Int
  counted : Int
  gate : Int
  start : Int
  utc : Int
  index : Option Nat
  flushes : Bool
  lost : CameraRead → Bool
  saves : RecorderState → Bool
  reads : Bool
  disks : Disks
  headroom : Int
  md5 : Nat → Nat
  redis : Bool
  picks : Bool
  makedirs : Bool
  log : Option String
  spawn : Option String

namespace Proc

variable (e : TurnEnv) (p : Proc)

/-- A death is counted: the backoff doubles and the gate is set. -/
def afterDeath : Proc :=
  if p.deadHandled then p
  else
    { p with
      restartCount := p.restartCount + 1
      backoff := min (p.backoff * 2) BACKOFF_MAX
      nextRetry := e.counted + seconds (min (p.backoff * 2) BACKOFF_MAX)
      deadHandled := true }

/-- New segments reset the backoff. -/
def afterIndex : Proc :=
  if e.index.getD 0 = 0 then p
  else
    { p with
      lastSegmentAt := e.segment
      lastDbSegmentAt := some e.utc
      backoff := BACKOFF_START }

/-- No segment for too long. -/
def stalled : Bool :=
  decide (seconds (STALL_FACTOR * p.segmentSeconds + 8) < e.check - p.lastSegmentAt)

end Proc

/-! ## Starting -/

/-- Source: `_record_stream` (`worker/recorder/supervisor.py:296`). -/
def recordStream (streams : List RecordStream) : Option RecordStream :=
  ((streams.find? fun x => x.isDefaultFull).or (streams.find? fun x => x.role == "main")).or
    streams.head?

/-- A disk is pinned in a policy. -/
def StoragePolicies.setPin (t : StoragePolicies) (id : Nat) (pin : Option Nat) : StoragePolicies :=
  t.modify (fun p => decide (p.id = id)) fun p => { p with pinnedDiskId := pin }

/-- The disk to write to, and what the pick leaves of the shared state: a pin in the policy that was
read, and the counter. -/
def Picks.pick (s : Picks) (e : TurnEnv) (camera : Nat) : Option Disk × Picks :=
  let policy := s.policies.getForCamera camera
  let r := pickWriteDisk ⟨e.md5, if e.redis then some (s.counter + 1) else none⟩ e.headroom e.disks
    camera policy
  let counts := e.redis && r.1.isSome &&
    policy.any fun p => decide (p.balanceStrategy = .roundRobin)
  (r.1,
    { policies :=
        match r.2 with
        | none => s.policies
        | some p => s.policies.setPin p.id p.pinnedDiskId
      counter := if counts then s.counter + 1 else s.counter })

/-- The disk, the container and the length of the segments of a new process. -/
def Picks.plan (s : Picks) (e : TurnEnv) (camera : Nat) : Option Nat × String × Int :=
  let policy := s.policies.getForCamera camera
  ((s.pick e camera).1.map Disk.id, (policy.map StoragePolicy.container).getD "mpegts",
    (policy.map StoragePolicy.segmentSeconds).getD 10)

namespace RecorderCell

variable (e : TurnEnv) (s : RecorderCell)

/-- Source: `_set_health` (`worker/recorder/supervisor.py:305`). -/
def setHealth (state : RecorderState) (pid : Option Nat) (lastSegmentAt : Option Int)
    (restartCount : Option Nat) (error : Option String) : RecorderCell :=
  if e.saves state then
    let row := s.health.getD ⟨.stopped, none, none, 0, none⟩
    { s with
      health := some
        { state
          pid := if pid.isSome || state = .stopped then pid else row.pid
          lastSegmentAt := lastSegmentAt.or row.lastSegmentAt
          restartCount := restartCount.getD row.restartCount
          lastError := (error.map fun t => String.ofList (t.toList.take 1000)).or row.lastError } }
  else s

/-- The record of a new process. -/
def newProc (plan : Option Nat × String × Int) (diskId : Nat) : Proc where
  handle := s.next
  diskId
  container := plan.2.1
  segmentSeconds := plan.2.2
  lastSegmentAt := e.start
  restartCount := (s.proc.map Proc.restartCount).getD 0
  backoff := (s.proc.map Proc.backoff).getD BACKOFF_START
  nextRetry := 0
  state := .starting
  deadHandled := false
  lastDbSegmentAt := none

/-- A process is spawned and tracked. -/
def spawned (p : Proc) : RecorderCell :=
  { s with
    proc := some p
    children := fun h =>
      if h = s.next then some ⟨false, 0, false, e.start, s.proc.map Proc.handle, none⟩
      else s.children h
    next := s.next + 1 }

/-- The part of `_start` behind the gate, and whether it returns. -/
def launch (cam : RecordedCamera) (picks : Picks) : (RecorderCell × Picks) × Bool :=
  if !e.reads then ((s, picks), false)
  else
    match recordStream cam.streams with
    | none => ((s.setHealth e .error none none none (some "no_stream"), picks), true)
    | some _ =>
      if !e.picks then ((s, picks), false)
      else
        match picks.pick e cam.id with
        | (none, picks') =>
          ((s.setHealth e .error none none none (some "no_writable_disk"), picks'), true)
        | (some disk, picks') =>
          if !e.makedirs then ((s, picks'), false)
          else
            match e.log.or e.spawn with
            | some text =>
              ((s.setHealth e .error none none none (some ("spawn_failed: " ++ text)), picks'),
                true)
            | none =>
              let p := s.newProc e (picks.plan e cam.id) disk.id
              (((s.spawned e p).setHealth e .starting (some p.handle) none (some p.restartCount)
                none, picks'), !e.lost .started)

/-- Source: `_start` (`worker/recorder/supervisor.py:173`). -/
def start (cam : RecordedCamera) (picks : Picks) : (RecorderCell × Picks) × Bool :=
  if e.lost .start then ((s, picks), false)
  else if s.proc.any fun p => decide (e.start < p.nextRetry) then ((s, picks), true)
  else s.launch e cam picks

/-! ## Looking after a process -/

/-- What is rewritten of a process. -/
def mark (h : Nat) (f : Child → Child) : RecorderCell :=
  { s with children := fun h' => if h' = h then (s.children h).map f else s.children h' }

/-- `popen.poll() is not None`. -/
def exited (h : Nat) : Bool := (s.children h).all Child.dead

/-- A process ends, on its own or by the kill of a stalled one. -/
def kill (h : Nat) : RecorderCell := s.mark h fun ch => { ch with dead := true }

/-- The death of a process is counted, once, and its last segment is indexed; and whether this runs
through. What the index finds changes nothing here. -/
def recordDeath (p : Proc) (reason : String) : RecorderCell × Bool :=
  if p.deadHandled then ({ s with proc := some p }, true)
  else
    let p := p.afterDeath e
    let s := { s with proc := some p }.mark p.handle fun ch =>
      { ch with counted := ch.counted + 1, retryAt := some p.nextRetry }
    if e.lost .dead then (s, false)
    else
      (s.setHealth e (if 10 < p.restartCount then .error else .reconnecting) none none
        (some p.restartCount) (some reason), !e.lost .logged && (e.flushes || !e.lost .flush))

/-- Source: `_on_dead` (`worker/recorder/supervisor.py:231`). -/
def onDead (cam : RecordedCamera) (p : Proc) (reason : String) (picks : Picks) :
    (RecorderCell × Picks) × Bool :=
  let (s, completed) := s.recordDeath e p reason
  if !completed then ((s, picks), false)
  else if e.gate < (p.afterDeath e).nextRetry then ((s, picks), true)
  else s.start e cam picks

/-- Source: `_maintain` (`worker/recorder/supervisor.py:255`). -/
def maintain (cam : RecordedCamera) (p : Proc) (picks : Picks) : (RecorderCell × Picks) × Bool :=
  if e.index.isNone && e.lost .index then ((s, picks), false)
  else
    let p := p.afterIndex e
    if p.stalled e then
      if e.lost .stalled then (({ s with proc := some p }, picks), false)
      else (s.kill p.handle).onDead e cam p "stalled" picks
    else
      let s := { s with proc := some { p with state := .recording } }
      if e.lost .recording then ((s, picks), false)
      else
        ((s.setHealth e .recording (some p.handle) p.lastDbSegmentAt (some p.restartCount) none,
          picks), true)

/-- One turn of the loop over the cameras to record. -/
def turn (cam : RecordedCamera) (picks : Picks) : (RecorderCell × Picks) × Bool :=
  if e.lost .turn then ((s, picks), false)
  else
    match s.proc with
    | none => s.start e cam picks
    | some p =>
      if s.exited p.handle then s.onDead e cam p "process_exited" picks
      else s.maintain e cam p picks

/-- The process of a camera that is not recorded any more is stopped. Source: `_stop`
(`worker/recorder/supervisor.py:215`). -/
def stop : RecorderCell :=
  match s.proc with
  | none => s
  | some p =>
    ({ s with proc := none }.mark p.handle fun ch =>
      { ch with dead := true, stopped := true }).setHealth e .stopped none none none none

end RecorderCell

/-! ## A tick -/

abbrev Recorder := Cells Nat RecorderCell Picks

/-- The parts of a tick. -/
inductive TickPhase
  | main | subs | warm
  deriving DecidableEq, Repr

namespace Recorder

/-- The processes of the cameras that are not to be recorded are stopped. -/
def stopOthers (r : Recorder) (env : Nat → TurnEnv) (cams : RecordedCameras) : Recorder :=
  ⟨fun c => if (cams.get? c).isSome then r.cell c else (r.cell c).stop (env c), r.shared⟩

/-- One turn in a tick. -/
def turn (env : Nat → TurnEnv) (cam : RecordedCamera) (s : RecorderCell) (picks : Picks) :
    (RecorderCell × Picks) × Bool := s.turn (env cam.id) cam picks

/-- The recorder after a tick, and whether the loop over the cameras runs through. -/
def mainLoop (r : Recorder) (env : Nat → TurnEnv) (cams : RecordedCameras) : Recorder × Bool :=
  Script.run (Cells.exec RecordedCamera.id (turn env)) cams.rows (r.stopOthers env cams)

/-- The loops that run. Those behind the first one have a `try` of their own, so what they raise is
caught; an exception of the first one leaves the tick. Source: `tick`
(`worker/recorder/supervisor.py:108`). -/
def tick (r : Recorder) (env : Nat → TurnEnv) (cams : RecordedCameras) :
    Recorder × List TickPhase :=
  let (r, completed) := r.mainLoop env cams
  (r, if completed then [.main, .subs, .warm] else [.main])

end Recorder

/-! ## The outcome of a start -/

namespace TurnEnv

variable (e : TurnEnv) (cam : RecordedCamera)

/-- There is a disk to write to. -/
def hasDisk : Bool := e.disks.rows.any (Disk.eligible e.headroom)

/-- A start gets as far as the pick. -/
def reaches : Bool := e.reads && (recordStream cam.streams).isSome && e.picks

/-- The pick of a start finds a disk. -/
def draws : Bool := e.reaches cam && e.hasDisk

/-- A start raises: a read, the pick, the directory, or the log of the new process. -/
def startRaises : Bool :=
  !e.reads || (recordStream cam.streams).isSome &&
    (!e.picks || e.hasDisk && (!e.makedirs || (e.log.or e.spawn).isNone && e.lost .started))

/-- A start leads to a process. -/
def spawns : Bool := e.draws cam && e.makedirs && (e.log.or e.spawn).isNone

/-- What a start that leads to no process, and does not raise, leaves in the health row. -/
def startError : Option String :=
  if !e.reads then none
  else if (recordStream cam.streams).isNone then some "no_stream"
  else if !e.picks then none
  else if !e.hasDisk then some "no_writable_disk"
  else if !e.makedirs then none
  else (e.log.or e.spawn).map fun text => "spawn_failed: " ++ text

end TurnEnv

/-- Whether a disk is found depends on the disks only. -/
theorem Picks.pick_isSome (e : TurnEnv) (s : Picks) (c : Nat) :
    (s.pick e c).1.isSome = e.hasDisk := by
  have hnone := pickWriteDisk_eq_none_iff
    ⟨e.md5, if e.redis then some (s.counter + 1) else none⟩ e.headroom e.disks c
    (s.policies.getForCamera c)
  rw [Bool.eq_iff_iff, Option.isSome_iff_ne_none, TurnEnv.hasDisk, List.any_eq_true]
  refine (not_congr hnone).trans ?_
  simp [Table.mem_rows]

/-! ## The parts of a turn -/

@[simp] theorem Proc.handle_afterIndex {e : TurnEnv} {p : Proc} :
    (p.afterIndex e).handle = p.handle := by
  unfold Proc.afterIndex
  split <;> rfl

@[simp] theorem Proc.handle_afterDeath {e : TurnEnv} {p : Proc} :
    (p.afterDeath e).handle = p.handle := by
  unfold Proc.afterDeath
  split <;> rfl

namespace RecorderCell

section
variable (e : TurnEnv) (s : RecorderCell)

/-- The cell with a process under a plan. -/
def started (plan : Option Nat × String × Int) : RecorderCell :=
  match plan.1 with
  | none => s
  | some diskId =>
    let p := s.newProc e plan diskId
    (s.spawned e p).setHealth e .starting (some p.handle) none (some p.restartCount) none

/-- A process whose death is recorded, on the way to the start. -/
def buried (p : Proc) (reason : String) : RecorderCell × Bool :=
  let (s, completed) := s.recordDeath e p reason
  (s, completed && (decide (e.gate < (p.afterDeath e).nextRetry) || !e.lost .start))

/-- A turn without the start, and whether it runs through. -/
def look : RecorderCell × Bool :=
  if e.lost .turn then (s, false)
  else
    match s.proc with
    | none => (s, !e.lost .start)
    | some p =>
      if s.exited p.handle then s.buried e p "process_exited"
      else if e.index.isNone && e.lost .index then (s, false)
      else if (p.afterIndex e).stalled e then
        if e.lost .stalled then ({ s with proc := some (p.afterIndex e) }, false)
        else (s.kill p.handle).buried e (p.afterIndex e) "stalled"
      else
        let s := { s with proc := some { p.afterIndex e with state := .recording } }
        if e.lost .recording then (s, false)
        else
          (s.setHealth e .recording (some p.handle) (p.afterIndex e).lastDbSegmentAt
            (some (p.afterIndex e).restartCount) none, true)

/-- The cell that a turn leaves without the start. -/
def ready : RecorderCell := (s.look e).1

/-- The turn runs through without the start. -/
def runs : Bool := (s.look e).2

/-- The gate of the process has passed: there is none, or its death is counted and its time has
come. -/
def gateOpen : Bool :=
  match s.proc with
  | none => true
  | some p =>
    if s.exited p.handle then
      decide ((p.afterDeath e).nextRetry ≤ e.gate ∧ (p.afterDeath e).nextRetry ≤ e.start)
    else
      (p.afterIndex e).stalled e &&
        decide (((p.afterIndex e).afterDeath e).nextRetry ≤ e.gate ∧
          ((p.afterIndex e).afterDeath e).nextRetry ≤ e.start)

/-- The time for a start has come. -/
def due : Bool := s.runs e && s.gateOpen e

end

variable {e : TurnEnv} {s : RecorderCell} {cam : RecordedCamera} {p : Proc} {picks picks' : Picks}

@[simp] theorem proc_setHealth {state : RecorderState} {pid : Option Nat} {at' : Option Int}
    {count : Option Nat} {error : Option String} :
    (s.setHealth e state pid at' count error).proc = s.proc := by
  unfold setHealth
  split <;> rfl

@[simp] theorem children_setHealth {state : RecorderState} {pid : Option Nat} {at' : Option Int}
    {count : Option Nat} {error : Option String} :
    (s.setHealth e state pid at' count error).children = s.children := by
  unfold setHealth
  split <;> rfl

@[simp] theorem next_setHealth {state : RecorderState} {pid : Option Nat} {at' : Option Int}
    {count : Option Nat} {error : Option String} :
    (s.setHealth e state pid at' count error).next = s.next := by
  unfold setHealth
  split <;> rfl

@[simp] theorem proc_recordDeath {reason : String} :
    (s.recordDeath e p reason).1.proc = some (p.afterDeath e) := by
  unfold recordDeath Proc.afterDeath
  split
  · rfl
  · dsimp only
    split
    · rfl
    · rw [proc_setHealth]
      rfl

@[simp] theorem fst_buried {reason : String} :
    (s.buried e p reason).1 = (s.recordDeath e p reason).1 := rfl

/-- What a start does. The shared state decides on the plan of the process only. -/
theorem launch_eq : s.launch e cam picks =
    ((if e.spawns cam then s.started e (picks.plan e cam.id)
      else (e.startError cam).elim s fun text => s.setHealth e .error none none none (some text),
      if e.reaches cam then (picks.pick e cam.id).2 else picks), !e.startRaises cam) := by
  have hdisk := Picks.pick_isSome e picks cam.id
  unfold launch TurnEnv.spawns TurnEnv.draws TurnEnv.reaches TurnEnv.startRaises
    TurnEnv.startError started Picks.plan
  cases e.reads with
  | false => rfl
  | true =>
    cases recordStream cam.streams with
    | none => rfl
    | some stream =>
      cases e.picks with
      | false => rfl
      | true =>
        rw [← hdisk]
        rcases picks.pick e cam.id with ⟨disk, left⟩
        cases disk with
        | none => rfl
        | some disk =>
          cases e.makedirs with
          | false => rfl
          | true => cases e.log.or e.spawn <;> simp

/-- The death of a process leads to a start when both gates have passed. -/
theorem onDead_eq {reason : String} : s.onDead e cam p reason picks =
    if ((s.buried e p reason).2 && decide ((p.afterDeath e).nextRetry ≤ e.gate ∧
        (p.afterDeath e).nextRetry ≤ e.start)) = true then
      (s.buried e p reason).1.launch e cam picks
    else (((s.buried e p reason).1, picks), (s.buried e p reason).2) := by
  have hproc : (s.recordDeath e p reason).1.proc = some (p.afterDeath e) := proc_recordDeath
  unfold onDead buried start
  generalize s.recordDeath e p reason = r at hproc ⊢
  obtain ⟨t, completed⟩ := r
  dsimp only at hproc ⊢
  rw [hproc, Option.any_some]
  cases completed with
  | false => simp
  | true =>
    by_cases hgate : e.gate < (p.afterDeath e).nextRetry
    · have hnot : ¬ (p.afterDeath e).nextRetry ≤ e.gate := Int.not_le.2 hgate
      simp [hgate, hnot]
    · have hle : (p.afterDeath e).nextRetry ≤ e.gate := Int.not_lt.1 hgate
      cases e.lost .start with
      | true => simp [hgate]
      | false =>
        by_cases hstart : e.start < (p.afterDeath e).nextRetry
        · simp [hgate, hstart, Int.not_le.2 hstart]
        · simp [hgate, hstart, hle, Int.not_lt.1 hstart]

/-- A turn looks after the process, and then starts one if it is due. -/
theorem turn_eq : s.turn e cam picks =
    if s.due e then (s.ready e).launch e cam picks else ((s.ready e, picks), s.runs e) := by
  unfold turn due runs ready gateOpen look
  split
  · rfl
  · cases hproc : s.proc with
    | none =>
      dsimp only
      rw [start, hproc]
      cases e.lost .start <;> rfl
    | some p =>
      dsimp only
      split
      · rw [onDead_eq]
      · unfold maintain
        dsimp only
        split
        · rfl
        · split
          · next hstalled =>
            split
            · rfl
            · rw [onDead_eq, Proc.handle_afterIndex, hstalled, Bool.true_and]
          · next hstalled =>
            rw [Proc.handle_afterIndex, Bool.eq_false_iff.2 hstalled, Bool.false_and,
              Bool.and_false, if_neg Bool.false_ne_true]
            split <;> rfl

end RecorderCell

end AeroXProtect
