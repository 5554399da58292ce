import AeroXProtect.Access.Swipes

/-!
# What a door shows and what is logged

A door shows as unlocked for `unlock_seconds` after it was marked, and it is marked only when its
relay has been driven (`relock`). The log has one entry for each swipe and each opening by hand that
was answered, and, as long as no statement raises, one granted entry for each time a controller was
driven (`access_log`).
-/

open Lib

namespace AeroXProtect.Access

/-! ## What a door shows -/

section
variable {hashPin collate : String → String} {s : AccessStore} {t : AccessThread} {e : AccessEnv}
  {d : Door} {now : Int}

/-- The relay of the door has been driven, not after an instant. -/
def AccessStore.Driven (s : AccessStore) (doorId : Nat) (time : Int) : Prop :=
  ∃ x ∈ s.drives, x.doorId = doorId ∧ x.status = .ok ∧ x.time ≤ time

theorem AccessStore.Driven.exec {doorId : Nat} {time time' : Int} (h : s.Driven doorId time)
    (hashPin collate : String → String) (t : AccessThread) (e : AccessEnv) (hle : time ≤ time') :
    (exec hashPin collate s t e).1.Driven doorId time' := by
  obtain ⟨x, hx, hid, hstatus, htime⟩ := h
  exact ⟨x, by rw [drives_exec]; exact List.mem_append_right _ hx, hid, hstatus,
    Int.le_trans htime hle⟩

/-- A door that is marked was driven before. -/
structure Door.Marked (s : AccessStore) (d : Door) : Prop where
  state : d.lockState = .unlocked ↔ d.unlockedAt.isSome = true
  driven : ∀ t ∈ d.unlockedAt, s.Driven d.id t

/-- What a statement does to the doors. -/
theorem doors_exec (hashPin collate : String → String) (s : AccessStore) (t : AccessThread)
    (e : AccessEnv) : (exec hashPin collate s t e).1.doors = s.doors ∨
      (∃ data door, Door.create e.id data = some door ∧
        (exec hashPin collate s t e).1.doors = s.doors ++ [door]) ∨
      (∃ o, t = .mark o ∧ (exec hashPin collate s t e).1.doors =
        s.doors.map fun d => if d.id = o.door.id then d.markUnlocked e.now else d) ∨
      ∃ seen new, t = .writeDoor seen new ∧ (exec hashPin collate s t e).1.doors =
        s.doors.map fun d => if d.id = seen.id then seen.writeBack new d else d := by
  unfold exec
  cases t with
  | insertDoor data =>
    dsimp only
    split
    · next door hdoor =>
      split
      · exact .inl rfl
      · exact .inr (.inl ⟨data, door, hdoor, rfl⟩)
    · exact .inl rfl
  | mark o =>
    dsimp only
    split
    · exact .inl rfl
    · exact .inr (.inr (.inl ⟨o, rfl, rfl⟩))
  | writeDoor seen new =>
    dsimp only
    split
    · exact .inl rfl
    · exact .inr (.inr (.inr ⟨seen, new, rfl, rfl⟩))
  | _ =>
    refine .inl ?_
    dsimp only
    repeat' split
    all_goals rfl

theorem marked_create {id : Nat} {data : DoorData} (h : Door.create id data = some d) :
    d.Marked s := by
  unfold Door.create at h
  split at h
  · cases h
    exact ⟨by simp, by simp⟩
  · cases h

/-- A thread that is to mark its door has driven it. -/
def AccessStore.MarksDriven (s : AccessStore) (t : AccessThread) : Prop :=
  ∀ o, t = .mark o → s.Driven o.door.id s.now

/-- Only a driven relay leads to the mark. -/
theorem marksDriven_exec (hashPin collate : String → String) (s : AccessStore) (t : AccessThread)
    (e : AccessEnv) :
    (exec hashPin collate s t e).1.MarksDriven (exec hashPin collate s t e).2 := by
  intro o hnext
  obtain ⟨rfl, hok⟩ := mark_exec hnext
  exact ⟨_, by rw [drives_exec]; exact List.mem_append_left _ (.head _), rfl, hok,
    Int.le_of_eq now_exec.symm⟩

/-- Every door keeps that it was driven before it was marked. -/
theorem marked_exec (hle : s.now ≤ e.now) (hthread : s.MarksDriven t)
    (hdoors : ∀ d ∈ s.doors, d.Marked s) :
    ∀ d ∈ (exec hashPin collate s t e).1.doors, d.Marked (exec hashPin collate s t e).1 := by
  have hkeep : ∀ d ∈ s.doors, d.Marked (exec hashPin collate s t e).1 := fun d hd =>
    ⟨(hdoors d hd).state, fun u hu =>
      ((hdoors d hd).driven u hu).exec hashPin collate t e (Int.le_refl u)⟩
  intro d hd
  rcases doors_exec hashPin collate s t e with heq | ⟨data, door, hcreate, heq⟩ |
    ⟨o, rfl, heq⟩ | ⟨seen, new, -, heq⟩
  · rw [heq] at hd
    exact hkeep d hd
  · rw [heq] at hd
    rcases List.mem_append.1 hd with hd | hd
    · exact hkeep d hd
    · rw [List.mem_singleton.1 hd]
      exact marked_create hcreate
  · rw [heq] at hd
    obtain ⟨b, hb, rfl⟩ := List.mem_map.1 hd
    split
    · next hid =>
      refine ⟨by simp [Door.markUnlocked], fun u hu => ?_⟩
      obtain rfl : e.now = u := by simpa [Door.markUnlocked] using hu
      have hdriven := (hthread o rfl).exec hashPin collate (.mark o) e hle
      rwa [← hid] at hdriven
    · exact hkeep b hb
  · rw [heq] at hd
    obtain ⟨b, hb, rfl⟩ := List.mem_map.1 hd
    split
    · exact ⟨(hkeep b hb).state, (hkeep b hb).driven⟩
    · exact hkeep b hb

end

section
variable {hashPin collate : String → String} {now : Int} {as : List AccessAct} {p : AccessPool}

/-- In every run each door that is marked was driven before, and so was each door that a request is
about to mark. -/
theorem marked_run
    (h : Run (AccessPool.step hashPin collate) (fun p a => p.sound a = true) (.start now) as p) :
    (∀ d ∈ p.shared.doors, d.Marked p.shared) ∧ ∀ t ∈ p.threads, p.shared.MarksDriven t := by
  refine h.invariant (I := fun p => (∀ d ∈ p.shared.doors, d.Marked p.shared) ∧
    ∀ t ∈ p.threads, p.shared.MarksDriven t) (fun p a hp hok => ?_)
    ⟨fun d hd => absurd hd List.not_mem_nil, fun t ht => absurd ht List.not_mem_nil⟩
  unfold AccessPool.step
  rcases Pool.step_cases p a with heq | ⟨r, -, heq⟩ | ⟨i, e, t, rfl, ht, heq⟩
  · rwa [heq]
  · rw [heq]
    refine ⟨hp.1, Pool.forall_spawn hp.2 fun o ho => ?_⟩
    cases ho
  · rw [heq]
    simp only [AccessPool.sound, Bool.and_eq_true, decide_eq_true_eq] at hok
    refine ⟨marked_exec hok.1.1 (hp.2 t (List.mem_of_getElem? ht)) hp.1,
      Pool.forall_exec (fun u hu o ho => ?_) (marksDriven_exec hashPin collate p.shared t e)⟩
    exact (hp.2 u hu o ho).exec hashPin collate t e (by rw [now_exec]; exact hok.1.1)

end

/-- In every run, whenever a door shows as unlocked, its relay has been driven by a request that had
been decided by right before, the door was marked after that, and `unlock_seconds` have not passed
since. -/
theorem relock (hashPin collate : String → String) (now : Int) (as : List AccessAct)
    (p : AccessPool) (d : Door) (later : Int)
    (hrun : Run (AccessPool.step hashPin collate) (fun p a => p.sound a = true) (.start now) as p)
    (hd : d ∈ p.shared.doors) (hshows : d.effectiveLockState later = .unlocked) :
    ∃ t ∈ d.unlockedAt, later < t + seconds d.pulseSeconds ∧
      ∃ x ∈ p.shared.drives, x.doorId = d.id ∧ x.status = .ok ∧ x.time ≤ t ∧
        DrivenByRight hashPin collate now as x := by
  have hmarked := (marked_run hrun).1 d hd
  unfold Door.effectiveLockState at hshows
  split at hshows
  · next t hstate hat =>
    split at hshows
    · cases hshows
    · next hlater =>
      obtain ⟨x, hx, hid, hstatus, htime⟩ := hmarked.driven t hat
      exact ⟨t, hat, by omega, x, hx, hid, hstatus, htime, drivenByRight_of_drives hrun hx⟩
  · next hnot =>
    -- a door without an instant is not marked
    cases hat : d.unlockedAt with
    | none =>
      have hsome := hmarked.state.1 hshows
      rw [hat] at hsome
      cases hsome
    | some t => exact absurd hat (hnot t hshows)

open AccessFixture in
/-- Seven seconds after the door of the fixture was marked it shows as unlocked. -/
theorem relock_badge :
    ∃ d ∈ ((opened ++ swiped).foldl (AccessPool.step id id) (.start 0)).shared.doors,
      d.effectiveLockState (seconds 18) = .unlocked ∧ d.effectiveLockState (seconds 19) = .locked ∧
      ∃ t ∈ d.unlockedAt, seconds 18 < t + seconds d.pulseSeconds :=
  ⟨(Door.create 1 staffDoor).elim
      ⟨0, "", .mock, .none, .locked, none, "", false, 0, none, false, false⟩
      (·.markUnlocked (seconds 11)), by decide +kernel, by decide +kernel, by decide +kernel,
    (relock id id 0 (opened ++ swiped) _ _ (seconds 18) (.of_admits (by decide +kernel))
      (by decide +kernel) (by decide +kernel)).imp fun _ h => ⟨h.1, h.2.1⟩⟩

/-! ## What is logged -/

/-- What a request has logged. -/
def AccessThread.answered : AccessThread → List AccessEvent
  | .raising _ ev | .done (some ev) => [ev]
  | _ => []

/-- A request has driven the relay of a door for a badge and has not logged it yet. -/
def AccessThread.unlogged (doorId : Nat) (credentialId : Option Nat) : AccessThread → Bool
  | .mark o => decide (o.door.id = doorId ∧ o.decision.credential.map (·.id) = credentialId)
  | .record o => o.decision.granted &&
      decide (o.door.id = doorId ∧ o.decision.credential.map (·.id) = credentialId)
  | _ => false

/-- The statement does not raise. -/
def quiet : AccessAct → Bool
  | .spawn _ => true
  | .exec _ e => !e.raises

/-- How often the controller of a door was driven for a badge, or by hand. -/
def AccessStore.driveCount (s : AccessStore) (doorId : Nat) (credentialId : Option Nat) : Nat :=
  s.drives.countP fun x => decide (x.doorId = doorId ∧ x.credentialId = credentialId)

/-- How many openings of a door with a badge, or by hand, are logged. -/
def AccessStore.grantCount (s : AccessStore) (doorId : Nat) (credentialId : Option Nat) : Nat :=
  s.events.countP fun ev => ev.granted &&
    decide (ev.doorId = doorId ∧ ev.credentialId = credentialId)

section
variable {hashPin collate : String → String} {s : AccessStore} {t : AccessThread} {e : AccessEnv}

/-- A statement logs as much in the store as in the request. -/
theorem answered_exec :
    ((exec hashPin collate s t e).2.answered).Perm (t.logged e ++ t.answered) := by
  unfold exec AccessThread.logged
  cases t with
  | start r =>
    dsimp only
    split
    · exact .nil
    · have hspec := select_spec hashPin collate { s with now := e.now } r e
      generalize select hashPin collate { s with now := e.now } r e = u at hspec
      cases hspec <;> exact .nil
  | _ =>
    dsimp only
    repeat' split
    all_goals exact .refl _

/-- A statement that does not raise logs an opening that was driven, or leaves it to be logged. -/
theorem unlogged_exec (hashPin collate : String → String) (s : AccessStore)
    (doorId : Nat) (credentialId : Option Nat) (hraises : e.raises = false)
    (hgranted : ∀ o, t = .drive o ∨ t = .mark o → o.decision.granted = true) :
    (exec hashPin collate s t e).1.driveCount doorId credentialId +
        s.grantCount doorId credentialId + (if t.unlogged doorId credentialId then 1 else 0) =
      s.driveCount doorId credentialId +
        (exec hashPin collate s t e).1.grantCount doorId credentialId +
        (if (exec hashPin collate s t e).2.unlogged doorId credentialId then 1 else 0) := by
  unfold AccessStore.driveCount AccessStore.grantCount
  rw [drives_exec, events_exec, List.countP_append, List.countP_append]
  unfold exec
  cases t with
  | start r =>
    have hspec := select_spec hashPin collate { s with now := e.now } r e
    simp only [hraises, Bool.false_eq_true, if_false]
    generalize select hashPin collate { s with now := e.now } r e = u at hspec
    cases hspec with
    | record hdenied =>
      simp [AccessThread.driven, AccessThread.logged, AccessThread.unlogged, hdenied]
    | _ => simp [AccessThread.driven, AccessThread.logged, AccessThread.unlogged]
  | drive o =>
    have ho := hgranted o (.inl rfl)
    by_cases hok : (drive o.door "unlock" o.door.unlockSeconds e.http).2 = .ok <;>
      simp [AccessThread.driven, AccessThread.logged, AccessThread.unlogged, hok, ho,
        List.countP_singleton] <;> omega
  | mark o =>
    have ho := hgranted o (.inr rfl)
    simp [AccessThread.driven, AccessThread.logged, AccessThread.unlogged, hraises, ho]
  | record o =>
    cases hcard : o.card.isSome <;>
      simp [AccessThread.driven, AccessThread.logged, AccessThread.unlogged, hraises, hcard,
        Opening.event, List.countP_singleton] <;> omega
  | raising o ev =>
    simp only [AccessThread.driven, AccessThread.logged, List.countP_nil, Nat.zero_add]
    cases hcam : o.door.cameraId.filter (· ≠ 0) <;> rfl
  | insertDoor data =>
    cases hdoor : Door.create e.id data <;>
      simp [AccessThread.driven, AccessThread.logged, AccessThread.unlogged, hdoor, hraises]
  | _ => simp [AccessThread.driven, AccessThread.logged, AccessThread.unlogged, hraises]

end

section
variable {hashPin collate : String → String} {now : Int} {as : List AccessAct} {p : AccessPool}

/-- In every run the log is what the requests have logged. -/
theorem events_run
    (h : Run (AccessPool.step hashPin collate) (fun p a => p.sound a = true) (.start now) as p) :
    p.shared.events.Perm (p.threads.flatMap AccessThread.answered) := by
  refine h.invariant (I := fun p => p.shared.events.Perm (p.threads.flatMap AccessThread.answered))
    (fun p a hp _ => ?_) (.refl _)
  unfold AccessPool.step
  rcases Pool.step_cases p a with heq | ⟨r, -, heq⟩ | ⟨i, e, t, -, ht, heq⟩
  · rwa [heq]
  · rw [heq]
    simpa [AccessThread.answered] using hp
  · rw [heq]
    dsimp only
    rw [events_exec]
    exact (hp.append_left _).trans (Pool.perm_flatMap_exec _ ht answered_exec).symm

/-- In every run in which no statement raises, what was driven is logged or still to be logged. -/
theorem grants_run
    (h : Run (AccessPool.step hashPin collate) (fun p a => p.sound a = true) (.start now) as p)
    (hquiet : ∀ a ∈ as, quiet a = true) (doorId : Nat) (credentialId : Option Nat) :
    p.shared.driveCount doorId credentialId = p.shared.grantCount doorId credentialId +
      p.threads.countP (AccessThread.unlogged doorId credentialId) := by
  induction as using List.reverseRecOn generalizing p with
  | nil =>
    obtain rfl := h.foldl_eq
    rfl
  | append_singleton as a ih =>
    obtain ⟨hbefore, hlast⟩ := h.split
    have hcount := ih hbefore fun b hb => hquiet b (List.mem_append_left _ hb)
    have hgranted := granted_of_relay hbefore
    obtain rfl := hlast.foldl_eq
    generalize as.foldl (AccessPool.step hashPin collate) (.start now) = q at hcount hgranted
    rw [List.foldl_cons, List.foldl_nil]
    unfold AccessPool.step
    rcases Pool.step_cases q a with heq | ⟨r, -, heq⟩ | ⟨i, e, t, rfl, ht, heq⟩
    · rwa [heq]
    · rw [heq]
      simpa [List.countP_append, AccessThread.unlogged] using hcount
    · rw [heq]
      have hraises : e.raises = false := by
        simpa [quiet] using hquiet _ (List.mem_append_right _ (.head _))
      have hstep := unlogged_exec hashPin collate q.shared doorId credentialId hraises
        (hgranted t (List.mem_of_getElem? ht))
      have hthreads := Pool.countP_exec (AccessThread.unlogged doorId credentialId) ht
        (exec hashPin collate q.shared t e).2
      dsimp only
      omega

end

/-- In every run the log has one entry for each swipe and each opening by hand that was answered,
with the answer, and no other. If no statement raises, then once no request is on its way from the
relay to the log, each door has been driven for each badge, and by hand, as often as the log has
openings of it. -/
theorem access_log (hashPin collate : String → String) (now : Int) (as : List AccessAct)
    (p : AccessPool)
    (hrun : Run (AccessPool.step hashPin collate) (fun p a => p.sound a = true) (.start now) as p) :
    p.shared.events.Perm (p.threads.flatMap AccessThread.answered) ∧
      ((∀ a ∈ as, quiet a = true) → ∀ doorId credentialId,
        (∀ t ∈ p.threads, t.unlogged doorId credentialId = false) →
        p.shared.driveCount doorId credentialId = p.shared.grantCount doorId credentialId) := by
  refine ⟨events_run hrun, fun hquiet doorId credentialId hdone => ?_⟩
  have hcount := grants_run hrun hquiet doorId credentialId
  have hzero : p.threads.countP (AccessThread.unlogged doorId credentialId) = 0 :=
    List.countP_eq_zero.2 fun t ht => by simp [hdone t ht]
  omega

open AccessFixture in
/-- The log of the fixture. -/
theorem access_log_badge :
    let s := ((opened ++ swiped).foldl (AccessPool.step id id) (.start 0)).shared
    s.driveCount 1 (some 2) = 1 ∧ s.driveCount 1 (some 2) = s.grantCount 1 (some 2) :=
  ⟨by decide +kernel, (access_log id id 0 (opened ++ swiped) _ (.of_admits (by decide +kernel))).2
    (by decide +kernel) 1 (some 2) (by decide +kernel)⟩

end AeroXProtect.Access
