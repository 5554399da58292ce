import AeroXProtect.Lib.Interleave
import AeroXProtect.Lib.Json
import AeroXProtect.Lib.Lock
import AeroXProtect.Lib.Run

/-!
# Event subscriptions

Every event-capable camera has one long-lived task that polls the camera's events. A task takes the
camera's lease with a conditional `SET`, clears the stop flag, and renews the lease after every
poll; it ends when it finds the stop flag, when its source fails or when its process dies. The
supervisor queues a task for each camera without a lease.

A run interleaves the turns of the supervisor's loop, the commands of any number of tasks
(`Lib.Pool`) and stop requests, with any time in between. Renewing, releasing and clearing the stop
flag are not conditional: `lease_exclusive` says that nothing goes wrong in a run in which no lease
runs out while its task goes on, and in which no stop request falls between a task's taking the
lease and its clearing of the flag (`Subs.ok`).
-/

open Lib

namespace AeroXProtect

/-! ## Tasks -/

/-- Source: `LOCK_TTL` (`server/task/list/event_subscription.py:18`). -/
def LOCK_TTL : Int := 90

/-- Source: `_is_event_capable` (`server/task/list/event_subscription.py:21`). -/
def isEventCapable : Json → Bool
  | .obj caps =>
    match caps.lookup "events" with
    | some (.obj events) =>
      ["transport", "motion", "linecross", "intrusion", "tamper"].any fun k =>
        ((events.lookup k).map Json.truthy).getD false
    | _ => false
  | _ => false

/-- The next statement of a task: the `SET` of the lease, the `DEL` of the stop flag, making the
source, opening it, the test of the loop, the poll with the renewal after it, the batch, and in the
`finally` block the closing of the source and the `DEL` of the lease. -/
inductive SubPc
  | queued | acquired | preparing | opening | checking | polling | handling | closing | releasing
  | done
  deriving DecidableEq, Repr

/-- A task, until when the lease it wrote last lasts, and whether a stop was requested while it
ran. -/
structure SubTask where
  camera : Nat
  worker : Nat
  pc : SubPc
  lasts : Int
  asked : Bool
  deriving DecidableEq, Repr

/-- From taking the lease to its release the task believes that it holds the lease. -/
def SubTask.running (t : SubTask) : Bool := t.pc != .queued && t.pc != .done

/-- The leases and the stop flags. -/
structure SubStore where
  now : Int
  leases : Locks Nat Nat
  stop : Nat → Bool

/-- What happens at a statement: the instant it ends at, whether it raises, whether the source is
healthy, and whether the process dies before it. -/
structure SubEnv where
  now : Int
  raises : Bool
  healthy : Bool
  dies : Bool

/-- A task of the queue: camera and task id. -/
def SubTask.start (r : Nat × Nat) : SubTask := ⟨r.1, r.2, .queued, 0, false⟩

namespace SubStore

/-- One statement of a task. An exception between the lease and the `try` leaves the lease behind,
and so does one in closing the source. Source: `run_subscription`
(`server/task/list/event_subscription.py:65`). -/
def exec (s : SubStore) (t : SubTask) (e : SubEnv) : SubStore × SubTask :=
  let s := { s with now := e.now }
  if e.dies then (s, { t with pc := .done })
  else
    match t.pc with
    | .queued =>
      let (leases, taken) := s.leases.setNx e.now t.camera t.worker LOCK_TTL
      if taken then
        ({ s with leases }, { t with pc := .acquired, lasts := e.now + seconds LOCK_TTL })
      else (s, { t with pc := .done })
    | .acquired =>
      ({ s with stop := fun c => if c = t.camera then false else s.stop c },
        { t with pc := .preparing })
    | .preparing => (s, { t with pc := if e.raises then .done else .opening })
    | .opening => (s, { t with pc := if e.raises then .closing else .checking })
    | .checking => (s, { t with pc := if s.stop t.camera then .closing else .polling })
    | .polling =>
      if e.raises then (s, { t with pc := .closing })
      else
        ({ s with leases := s.leases.set e.now t.camera t.worker LOCK_TTL },
          { t with pc := .handling, lasts := e.now + seconds LOCK_TTL })
    | .handling => (s, { t with pc := if e.raises || !e.healthy then .closing else .checking })
    | .closing => (s, { t with pc := if e.raises then .done else .releasing })
    | .releasing => ({ s with leases := s.leases.del t.camera }, { t with pc := .done })
    | .done => (s, t)

end SubStore

abbrev Subs := Pool SubStore SubTask

/-- What happens: the supervisor's loop reaches an enabled camera and would give the task this id, a
task is delivered, a task executes a statement, or a stop is requested for a camera. -/
inductive SubAct
  | beat (camera : Nat) (capabilities : Json) (id : Nat) (now : Int)
  | deliver (camera id : Nat)
  | exec (i : Nat) (e : SubEnv)
  | requestStop (camera : Nat)

namespace Subs

/-- A stop is requested: the running task of the camera is to notice it. -/
def requestStop (p : Subs) (camera : Nat) : Subs where
  shared := { p.shared with stop := fun c => if c = camera then true else p.shared.stop c }
  threads := p.threads.map fun t =>
    if t.running && t.camera == camera then { t with asked := true } else t

/-- One action. Source: `supervise_subscriptions`
(`server/task/list/event_subscription.py:44`). -/
def step (p : Subs) : SubAct → Subs
  | .beat camera capabilities id now =>
    let p := { p with shared := { p.shared with now } }
    if isEventCapable capabilities && (p.shared.leases.holder now camera).isNone then
      Pool.step SubTask.start SubStore.exec p (.spawn (camera, id))
    else p
  | .deliver camera id => Pool.step SubTask.start SubStore.exec p (.spawn (camera, id))
  | .exec i e => Pool.step SubTask.start SubStore.exec p (.exec i e)
  | .requestStop camera => p.requestStop camera

/-- The clock does not go back. -/
def clock (p : Subs) : SubAct → Bool
  | .exec _ e => decide (p.shared.now ≤ e.now)
  | .beat _ _ _ now => decide (p.shared.now ≤ now)
  | .deliver .. | .requestStop _ => true

/-- No task of the camera runs on with a lease that has run out. -/
def leased (p : Subs) (camera : Nat) (now : Int) : Bool :=
  p.threads.all fun u => !(u.running && u.camera == camera) || decide (now < u.lasts)

/-- The condition: a task asks for a lease while the lease of a running task lasts, and a stop is
requested while no task is about to clear the flag. -/
def undisturbed (p : Subs) : SubAct → Bool
  | .exec i e => (p.threads[i]?).all fun t => t.pc != .queued || p.leased t.camera e.now
  | .requestStop camera => p.threads.all fun u => !(u.pc == .acquired && u.camera == camera)
  | .beat .. | .deliver .. => true

/-- The runs of `lease_exclusive`. -/
def ok (p : Subs) (a : SubAct) : Bool := p.clock a && p.undisturbed a

/-- Before the first task. -/
def start (now : Int) (leases : Locks Nat Nat) (stop : Nat → Bool) : Subs :=
  ⟨⟨now, leases, stop⟩, []⟩

end Subs

/-! ## One statement -/

namespace SubStore

/-- What a statement does: nothing to the store, or it takes a lease that is free, clears the stop
flag, renews the lease or releases it. -/
theorem exec_cases (s : SubStore) (t : SubTask) (e : SubEnv) :
    (∃ pc, s.exec t e = ({ s with now := e.now }, { t with pc }) ∧ pc ≠ .queued ∧ pc ≠ .acquired ∧
      (SubTask.running { t with pc } = true → t.running = true)) ∨
    (t.pc = .queued ∧ s.leases.holder e.now t.camera = none ∧ s.exec t e =
      ({ s with now := e.now, leases := s.leases.set e.now t.camera t.worker LOCK_TTL },
        { t with pc := .acquired, lasts := e.now + seconds LOCK_TTL })) ∨
    (t.pc = .acquired ∧ s.exec t e =
      ({ s with now := e.now, stop := fun c => if c = t.camera then false else s.stop c },
        { t with pc := .preparing })) ∨
    (t.pc = .polling ∧ s.exec t e =
      ({ s with now := e.now, leases := s.leases.set e.now t.camera t.worker LOCK_TTL },
        { t with pc := .handling, lasts := e.now + seconds LOCK_TTL })) ∨
    (t.pc = .releasing ∧ s.exec t e =
      ({ s with now := e.now, leases := s.leases.del t.camera }, { t with pc := .done })) := by
  unfold exec
  dsimp only
  split
  · exact .inl ⟨.done, rfl, by decide, by decide, fun h => absurd h (by simp [SubTask.running])⟩
  · cases hpc : t.pc with
    | queued =>
      cases hheld : s.leases.holder e.now t.camera with
      | some w =>
        rw [Locks.setNx_of_some (by simp [hheld])]
        exact .inl ⟨.done, rfl, by decide, by decide, fun h => absurd h (by simp [SubTask.running])⟩
      | none =>
        rw [Locks.setNx_of_none hheld]
        exact .inr (.inl ⟨rfl, rfl, rfl⟩)
    | acquired => exact .inr (.inr (.inl ⟨rfl, rfl⟩))
    | preparing =>
      refine .inl ⟨_, rfl, ?_, ?_, fun _ => by simp [SubTask.running, hpc]⟩
      all_goals cases e.raises <;> decide
    | opening =>
      refine .inl ⟨_, rfl, ?_, ?_, fun _ => by simp [SubTask.running, hpc]⟩
      all_goals cases e.raises <;> decide
    | checking =>
      refine .inl ⟨_, rfl, ?_, ?_, fun _ => by simp [SubTask.running, hpc]⟩
      all_goals cases s.stop t.camera <;> decide
    | polling =>
      dsimp only
      split
      · exact .inl ⟨.closing, rfl, by decide, by decide, fun _ => by simp [SubTask.running, hpc]⟩
      · exact .inr (.inr (.inr (.inl ⟨rfl, rfl⟩)))
    | handling =>
      refine .inl ⟨_, rfl, ?_, ?_, fun _ => by simp [SubTask.running, hpc]⟩
      all_goals cases e.raises || !e.healthy <;> decide
    | closing =>
      refine .inl ⟨_, rfl, ?_, ?_, fun _ => by simp [SubTask.running, hpc]⟩
      all_goals cases e.raises <;> decide
    | releasing => exact .inr (.inr (.inr (.inr ⟨rfl, rfl⟩)))
    | done => exact .inl ⟨t.pc, rfl, by simp [hpc], by simp [hpc], id⟩

end SubStore

namespace Subs

variable {p : Subs}

/-! ## Runs -/

/-- What holds in every state: a camera has at most one running task, a running task's lease is the
one it wrote last, and a stop requested while it runs stays flagged. -/
structure Inv (p : Subs) : Prop where
  one : ∀ (i j : Nat) (t u : SubTask), p.threads[i]? = some t → p.threads[j]? = some u →
    t.running = true → u.running = true → t.camera = u.camera → i = j
  lease : ∀ (i : Nat) (t : SubTask), p.threads[i]? = some t → t.running = true →
    p.shared.leases.entry t.camera = some (t.worker, t.lasts)
  flagged : ∀ (i : Nat) (t : SubTask), p.threads[i]? = some t → t.running = true → t.asked = true →
    p.shared.stop t.camera = true
  fresh : ∀ (i : Nat) (t : SubTask), p.threads[i]? = some t →
    t.pc = .queued ∨ t.pc = .acquired → t.asked = false

/-- No other task of the camera runs. -/
def Alone (p : Subs) (i camera : Nat) : Prop :=
  ∀ (j : Nat) (u : SubTask), j ≠ i → p.threads[j]? = some u → u.running = true → u.camera ≠ camera

/-- Time passes for the store. -/
theorem Inv.later (h : p.Inv) (now : Int) : Inv ⟨{ p.shared with now }, p.threads⟩ :=
  ⟨h.one, h.lease, h.flagged, h.fresh⟩

/-- A task that runs is alone. -/
theorem Inv.alone (h : p.Inv) {i : Nat} {t : SubTask} (ht : p.threads[i]? = some t)
    (hrun : t.running = true) : p.Alone i t.camera :=
  fun j u hne hu hurun heq => hne (h.one j i u t hu ht hurun hrun heq)

/-- A lease that is free where no running task's lease has run out belongs to no running task. -/
theorem Inv.alone_of_free (h : p.Inv) {i camera : Nat} {now : Int}
    (hfree : p.shared.leases.holder now camera = none) (hleased : p.leased camera now = true) :
    p.Alone i camera := by
  rintro j u - hu hurun rfl
  have hlt := List.all_eq_true.1 hleased u (List.mem_of_getElem? hu)
  simp only [hurun, beq_self_eq_true, Bool.and_true, Bool.not_true, Bool.false_or,
    decide_eq_true_eq] at hlt
  have hle := Locks.lt_of_holder_eq_none hfree (h.lease j u hu hurun)
  omega

/-- A queued task changes nothing. -/
theorem Inv.spawn (h : p.Inv) (r : Nat × Nat) :
    Inv ⟨p.shared, p.threads ++ [SubTask.start r]⟩ := by
  have hnew : ∀ (j : Nat) (u : SubTask), (p.threads ++ [SubTask.start r])[j]? = some u →
      u.running = true → p.threads[j]? = some u := by
    intro j u hu hurun
    rcases Pool.getElem?_spawn hu with hu | ⟨-, rfl⟩
    · exact hu
    · cases hurun
  refine ⟨fun i j t u ht hu htrun hurun heq => ?_, fun i t ht hrun => ?_,
    fun i t ht hrun hasked => ?_, fun i t ht hpc => ?_⟩
  · exact h.one i j t u (hnew i t ht htrun) (hnew j u hu hurun) htrun hurun heq
  · exact h.lease i t (hnew i t ht hrun) hrun
  · exact h.flagged i t (hnew i t ht hrun) hrun hasked
  · rcases Pool.getElem?_spawn ht with ht | ⟨-, rfl⟩
    · exact h.fresh i t ht hpc
    · rfl

/-- One task moves: it stays alone while it runs, and what the others rely on is left alone. -/
theorem Inv.move (h : p.Inv) {i : Nat} {t t' : SubTask} {s' : SubStore}
    (hcam : t'.camera = t.camera)
    (hself : t'.running = true → p.Alone i t.camera ∧
      s'.leases.entry t.camera = some (t'.worker, t'.lasts) ∧
      (t'.asked = true → s'.stop t.camera = true))
    (hfresh : t'.pc = .queued ∨ t'.pc = .acquired → t'.asked = false)
    (hothers : ∀ (j : Nat) (u : SubTask), j ≠ i → p.threads[j]? = some u → u.running = true →
      s'.leases.entry u.camera = p.shared.leases.entry u.camera ∧
      s'.stop u.camera = p.shared.stop u.camera) :
    Inv ⟨s', p.threads.set i t'⟩ := by
  refine ⟨fun j k u v hu hv hurun hvrun heq => ?_, fun j u hu hurun => ?_,
    fun j u hu hurun hasked => ?_, fun j u hu hpc => ?_⟩
  · rcases Pool.getElem?_exec hu with ⟨rfl, rfl⟩ | ⟨hj, hu'⟩
    · rcases Pool.getElem?_exec hv with ⟨rfl, rfl⟩ | ⟨hk, hv'⟩
      · rfl
      · exact absurd (heq.symm.trans hcam) ((hself hurun).1 k v hk hv' hvrun)
    · rcases Pool.getElem?_exec hv with ⟨rfl, rfl⟩ | ⟨hk, hv'⟩
      · exact absurd (heq.trans hcam) ((hself hvrun).1 j u hj hu' hurun)
      · exact h.one j k u v hu' hv' hurun hvrun heq
  · rcases Pool.getElem?_exec hu with ⟨rfl, rfl⟩ | ⟨hj, hu'⟩
    · rw [hcam]
      exact (hself hurun).2.1
    · exact (hothers j u hj hu' hurun).1.trans (h.lease j u hu' hurun)
  · rcases Pool.getElem?_exec hu with ⟨rfl, rfl⟩ | ⟨hj, hu'⟩
    · rw [hcam]
      exact (hself hurun).2.2 hasked
    · exact (hothers j u hj hu' hurun).2.trans (h.flagged j u hu' hurun hasked)
  · rcases Pool.getElem?_exec hu with ⟨rfl, rfl⟩ | ⟨hj, hu'⟩
    · exact hfresh hpc
    · exact h.fresh j u hu' hpc

/-- One statement of a task keeps the invariant. -/
theorem Inv.exec (h : p.Inv) {i : Nat} {t : SubTask} {e : SubEnv} (ht : p.threads[i]? = some t)
    (hok : t.pc = .queued → p.leased t.camera e.now = true) :
    Inv ⟨(p.shared.exec t e).1, p.threads.set i (p.shared.exec t e).2⟩ := by
  have hrun : ∀ {pc}, t.pc = pc → pc ≠ .queued → pc ≠ .done → t.running = true := by
    rintro pc rfl hq hd
    simp [SubTask.running, hq, hd]
  rcases p.shared.exec_cases t e with ⟨pc, heq, hq, ha, hback⟩ | ⟨hpc, hfree, heq⟩ | ⟨hpc, heq⟩ |
    ⟨hpc, heq⟩ | ⟨hpc, heq⟩
  · rw [heq]
    refine h.move (t := t) rfl (fun hrun' => ?_) (fun hpc => ?_) fun _ _ _ _ _ => ⟨rfl, rfl⟩
    · exact ⟨h.alone ht (hback hrun'), h.lease i t ht (hback hrun'),
        h.flagged i t ht (hback hrun')⟩
    · exact absurd hpc (by simp [hq, ha])
  · rw [heq]
    have halone : p.Alone i t.camera := h.alone_of_free hfree (hok hpc)
    have hasked := h.fresh i t ht (.inl hpc)
    refine h.move (t := t) rfl (fun _ => ⟨halone, if_pos rfl, fun hyes => ?_⟩) (fun _ => hasked) ?_
    · exact absurd (hasked.symm.trans hyes) Bool.false_ne_true
    · exact fun j u hne hu hurun => ⟨if_neg (halone j u hne hu hurun), rfl⟩
  · rw [heq]
    have htrun := hrun hpc (by decide) (by decide)
    have hasked := h.fresh i t ht (.inr hpc)
    refine h.move (t := t) rfl (fun _ => ⟨h.alone ht htrun, h.lease i t ht htrun, fun hyes => ?_⟩)
      (fun _ => hasked) ?_
    · exact absurd (hasked.symm.trans hyes) Bool.false_ne_true
    · exact fun j u hne hu hurun => ⟨rfl, if_neg (h.alone ht htrun j u hne hu hurun)⟩
  · rw [heq]
    have htrun := hrun hpc (by decide) (by decide)
    refine h.move (t := t) rfl (fun _ => ⟨h.alone ht htrun, if_pos rfl, h.flagged i t ht htrun⟩)
      (fun hpc => ?_) ?_
    · simp at hpc
    · exact fun j u hne hu hurun => ⟨if_neg (h.alone ht htrun j u hne hu hurun), rfl⟩
  · rw [heq]
    have htrun := hrun hpc (by decide) (by decide)
    refine h.move (t := t) rfl (fun hrun' => ?_) (fun hpc => ?_) ?_
    · cases hrun'
    · simp at hpc
    · exact fun j u hne hu hurun => ⟨if_neg (h.alone ht htrun j u hne hu hurun), rfl⟩

/-- A stop request marks the tasks it is for. -/
theorem getElem?_requestStop {camera i : Nat} {t : SubTask}
    (ht : (p.requestStop camera).threads[i]? = some t) :
    ∃ u, p.threads[i]? = some u ∧ t.camera = u.camera ∧ t.worker = u.worker ∧ t.pc = u.pc ∧
      t.lasts = u.lasts ∧
      (t.asked = true → u.asked = true ∨ u.running = true ∧ u.camera = camera) := by
  rw [requestStop, List.getElem?_map, Option.map_eq_some_iff] at ht
  obtain ⟨u, hu, rfl⟩ := ht
  refine ⟨u, hu, ?_⟩
  split
  · next h =>
    rw [Bool.and_eq_true, beq_iff_eq] at h
    exact ⟨rfl, rfl, rfl, rfl, fun _ => .inr h⟩
  · exact ⟨rfl, rfl, rfl, rfl, .inl⟩

/-- A stop request keeps the invariant where no task is about to clear the flag. -/
theorem Inv.requestStop (h : p.Inv) {camera : Nat}
    (hok : p.undisturbed (.requestStop camera) = true) : (p.requestStop camera).Inv := by
  have hrun : ∀ {t u : SubTask}, t.pc = u.pc → t.running = u.running := by
    intro t u hpc
    rw [SubTask.running, SubTask.running, hpc]
  refine ⟨fun i j t u ht hu htrun hurun heq => ?_, fun i t ht htrun => ?_,
    fun i t ht htrun hasked => ?_, fun i t ht hpc => ?_⟩
  · obtain ⟨t₀, ht₀, htc, -, htpc, -⟩ := getElem?_requestStop ht
    obtain ⟨u₀, hu₀, huc, -, hupc, -⟩ := getElem?_requestStop hu
    rw [hrun htpc] at htrun
    rw [hrun hupc] at hurun
    exact h.one i j t₀ u₀ ht₀ hu₀ htrun hurun (htc ▸ huc ▸ heq)
  · obtain ⟨t₀, ht₀, htc, htw, htpc, htl, -⟩ := getElem?_requestStop ht
    rw [htc, htw, htl]
    exact h.lease i t₀ ht₀ (hrun htpc ▸ htrun)
  · obtain ⟨t₀, ht₀, htc, -, htpc, -, hmark⟩ := getElem?_requestStop ht
    show (if t.camera = camera then true else p.shared.stop t.camera) = true
    rw [htc]
    split
    · rfl
    · next hne =>
      rcases hmark hasked with hbefore | ⟨-, heq⟩
      · exact h.flagged i t₀ ht₀ (hrun htpc ▸ htrun) hbefore
      · exact absurd heq hne
  · obtain ⟨t₀, ht₀, htc, -, htpc, -, hmark⟩ := getElem?_requestStop ht
    rw [htpc] at hpc
    by_contra hasked
    rcases hmark (by simpa using hasked) with hbefore | ⟨hrunning, rfl⟩
    · exact absurd ((h.fresh i t₀ ht₀ hpc).symm.trans hbefore) Bool.false_ne_true
    · have hclear := List.all_eq_true.1 hok t₀ (List.mem_of_getElem? ht₀)
      rcases hpc with hq | ha
      · rw [SubTask.running, hq] at hrunning
        cases hrunning
      · simp [ha] at hclear

/-- One action keeps the invariant. -/
theorem Inv.step (h : p.Inv) {a : SubAct} (hok : p.ok a = true) : (p.step a).Inv := by
  rw [ok, Bool.and_eq_true] at hok
  cases a with
  | beat camera capabilities id now =>
    unfold Subs.step
    dsimp only
    split
    · exact (h.later now).spawn (camera, id)
    · exact h.later now
  | deliver camera id => exact h.spawn (camera, id)
  | requestStop camera => exact h.requestStop hok.2
  | exec i e =>
    unfold Subs.step
    rcases Pool.step_cases p (.exec i e) with heq | ⟨r, hr, -⟩ | ⟨j, e', t, hact, ht, heq⟩
    · dsimp only
      rw [heq]
      exact h
    · cases hr
    · cases hact
      dsimp only
      rw [heq]
      refine h.exec ht fun hpc => ?_
      simpa [undisturbed, ht, hpc] using hok.2

/-- Before the first task nothing runs. -/
theorem inv_start (now : Int) (leases : Locks Nat Nat) (stop : Nat → Bool) :
    (start now leases stop).Inv := by
  refine ⟨fun i j t u ht => ?_, fun i t ht => ?_, fun i t ht => ?_, fun i t ht => ?_⟩
  all_goals cases ht

/-- Under the invariant a statement leaves the leases of other workers alone. -/
theorem Inv.exec_keeps_others (h : p.Inv) {i : Nat} {t : SubTask} {e : SubEnv} {c w : Nat}
    (ht : p.threads[i]? = some t) (hheld : p.shared.leases.holder e.now c = some w)
    (hw : w ≠ t.worker) : (p.shared.exec t e).1.leases.entry c = p.shared.leases.entry c := by
  have hne : t.running = true → c ≠ t.camera := by
    rintro hrun rfl
    obtain ⟨lasts, hentry, -⟩ := Locks.holder_eq_some_iff.1 hheld
    rw [h.lease i t ht hrun] at hentry
    cases hentry
    exact hw rfl
  rcases p.shared.exec_cases t e with ⟨pc, heq, -⟩ | ⟨hpc, hfree, heq⟩ | ⟨hpc, heq⟩ |
    ⟨hpc, heq⟩ | ⟨hpc, heq⟩
  · rw [heq]
  · rw [heq]
    refine if_neg ?_
    rintro rfl
    rw [hfree] at hheld
    cases hheld
  · rw [heq]
  · rw [heq]
    exact if_neg (hne (by simp [SubTask.running, hpc]))
  · rw [heq]
    exact if_neg (hne (by simp [SubTask.running, hpc]))

/-- **One subscription of a camera at a time.** In every run in which no lease runs out while its
task goes on and no stop request falls between taking a lease and clearing the flag: a camera has at
most one running task, whose lease is the one it wrote last; a stop requested while a task runs
stays flagged and ends its loop at the next test; and no statement of a task renews or removes a
lease that another worker holds. -/
theorem lease_exclusive {now : Int} {leases : Locks Nat Nat} {stop : Nat → Bool} {as : List SubAct}
    (hrun : Run step (fun p a => p.ok a = true) (start now leases stop) as p) :
    (∀ (i j : Nat) (t u : SubTask), p.threads[i]? = some t → p.threads[j]? = some u →
      t.running = true → u.running = true → t.camera = u.camera → i = j) ∧
    (∀ (i : Nat) (t : SubTask), p.threads[i]? = some t → t.running = true →
      p.shared.leases.entry t.camera = some (t.worker, t.lasts)) ∧
    (∀ (i : Nat) (t : SubTask), p.threads[i]? = some t → t.running = true → t.asked = true →
      p.shared.stop t.camera = true ∧ ∀ e, t.pc = .checking → e.dies = false →
        (p.shared.exec t e).2.pc = .closing) ∧
    ∀ (i : Nat) (t : SubTask) e c w, p.threads[i]? = some t →
      p.shared.leases.holder e.now c = some w → w ≠ t.worker →
      (p.step (.exec i e)).shared.leases.entry c = p.shared.leases.entry c := by
  have hinv : p.Inv := hrun.invariant (fun _ _ h hok => h.step hok) (inv_start now leases stop)
  refine ⟨hinv.one, hinv.lease, fun i t ht htrun hasked => ?_, fun i t e c w ht hheld hw => ?_⟩
  · have hflag := hinv.flagged i t ht htrun hasked
    refine ⟨hflag, fun e hpc hlives => ?_⟩
    simp [SubStore.exec, hpc, hlives, hflag]
  · show (Pool.step SubTask.start SubStore.exec p (.exec i e)).shared.leases.entry c = _
    rw [Pool.step_exec ht]
    exact hinv.exec_keeps_others ht hheld hw

namespace SubscriptionFixture

/-- A statement at this second, without a failure. -/
def turn (i : Nat) (n : Int) : SubAct := .exec i ⟨seconds n, false, true, false⟩

/-- A camera that reports motion. -/
def capabilities : Json := .obj [("events", .obj [("motion", .bool true)])]

/-- No task and no lease. -/
def idle : Subs := start 0 ∅ fun _ => false

/-- A task takes the lease of camera 7 at time 0 and polls from second 4 on. -/
def polls : List SubAct :=
  [.beat 7 capabilities 1 0, turn 0 0, turn 0 1, turn 0 2, turn 0 3, turn 0 4]

/-- A stop is requested during the poll; a beat finds the lease, and the task reaches the test. -/
def stops : List SubAct :=
  polls ++ [.requestStop 7, .beat 7 capabilities 2 (seconds 30), turn 0 80, turn 0 81]

/-- The poll takes longer than the lease: a second task starts, and the first one renews. -/
def slow : List SubAct :=
  polls ++ [.beat 7 capabilities 2 (seconds 91), turn 1 91, turn 0 95]

/-- A stop is requested before the task has cleared the flag. -/
def early : List SubAct := [.beat 7 capabilities 1 0, turn 0 0, .requestStop 7, turn 0 1]

end SubscriptionFixture

/-- The task whose stop was requested during its poll finds the flag. -/
theorem lease_exclusive_fixture :
    let p := SubscriptionFixture.stops.foldl step SubscriptionFixture.idle
    p.threads = [⟨7, 1, .checking, seconds 170, true⟩] ∧ p.shared.stop 7 = true :=
  have hrun : Run step (fun p a => p.ok a = true) SubscriptionFixture.idle SubscriptionFixture.stops
      _ := .of_admits (by decide)
  have hthread : (SubscriptionFixture.stops.foldl step SubscriptionFixture.idle).threads =
      [⟨7, 1, .checking, seconds 170, true⟩] := by decide
  ⟨hthread, ((lease_exclusive hrun).2.2.1 0 ⟨7, 1, .checking, seconds 170, true⟩
    (by rw [hthread]; rfl) rfl rfl).1⟩

/-- A poll that takes longer than the lease: two tasks believe that they hold the lease of the
camera, and the first one has renewed the lease of the second. A stop requested between the lease
and the clearing of the flag is lost. -/
theorem slow_poll_two_tasks :
    (let p := SubscriptionFixture.slow.foldl step SubscriptionFixture.idle
    Run step (fun p a => p.clock a = true) SubscriptionFixture.idle SubscriptionFixture.slow p ∧
      p.threads = [⟨7, 1, .handling, seconds 185, false⟩, ⟨7, 2, .acquired, seconds 181, false⟩] ∧
      p.shared.leases.entry 7 = some (1, seconds 185)) ∧
    (let p := SubscriptionFixture.early.foldl step SubscriptionFixture.idle
    Run step (fun p a => p.clock a = true) SubscriptionFixture.idle SubscriptionFixture.early p ∧
      p.threads = [⟨7, 1, .preparing, seconds 90, true⟩] ∧ p.shared.stop 7 = false) :=
  ⟨⟨.of_admits (by decide), by decide, by decide⟩, .of_admits (by decide), by decide, by decide⟩

end Subs

end AeroXProtect
