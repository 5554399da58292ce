import AeroXProtect.Recorder.Supervisor

/-!
# The processes of a camera

What holds of the processes of a camera in every state (`RecorderCell.Inv`). It is an invariant of a
single cell, since a turn works on the cell of its camera: looking after the process keeps it
(`Inv.ready`), and so does a start that is due (`Inv.spawned`), since the death of the process that
is replaced is handled then and its gate has passed (`ready_of_due`).
-/

open Lib

namespace AeroXProtect

/-! ## What holds of a cell -/

namespace RecorderCell

/-- A process that replaced another was started when the gate of that one, whose death was counted,
had passed. -/
def InTime (s : RecorderCell) : Prop :=
  ∀ h ch h', s.children h = some ch → ch.replaces = some h' →
    ∃ ch' t, s.children h' = some ch' ∧ ch'.counted = 1 ∧ ch'.retryAt = some t ∧ t ≤ ch.spawnedAt

/-- What holds of a camera in every state: the tracked process is not stopped, and its death is
counted when it is handled; every other process has ended, and was counted or stopped;
replacements are in time; and the backoff keeps its bounds. -/
structure Inv (s : RecorderCell) : Prop where
  fresh : ∀ h, s.next ≤ h → s.children h = none
  tracked : ∀ p, s.proc = some p → ∃ ch, s.children p.handle = some ch ∧ ch.stopped = false ∧
    ch.counted = (if p.deadHandled then 1 else 0) ∧
    (p.deadHandled = true → ch.dead = true ∧ ch.retryAt = some p.nextRetry)
  others : ∀ h ch, s.children h = some ch → (∀ p, s.proc = some p → p.handle ≠ h) →
    ch.dead = true ∧ ch.counted ≤ 1 ∧ (ch.stopped = false → ch.counted = 1)
  inTime : s.InTime
  backoff : ∀ p, s.proc = some p → BACKOFF_START ≤ p.backoff ∧ p.backoff ≤ BACKOFF_MAX

/-- Two cells differ in their health row at most. -/
structure Same (s t : RecorderCell) : Prop where
  proc : s.proc = t.proc
  children : s.children = t.children
  next : s.next = t.next

section
variable {e : TurnEnv} {s t : RecorderCell} {cam : RecordedCamera} {p p' : Proc} {picks : Picks}
  {k : Nat} {f : Child → Child}

theorem Same.refl (s : RecorderCell) : Same s s := ⟨rfl, rfl, rfl⟩

theorem same_setHealth {state : RecorderState} {pid : Option Nat} {at' : Option Int}
    {count : Option Nat} {error : Option String} :
    Same (s.setHealth e state pid at' count error) s :=
  ⟨proc_setHealth, children_setHealth, next_setHealth⟩

theorem Inv.same (h : t.Inv) (hs : Same s t) : s.Inv := by
  refine ⟨?_, ?_, ?_, ?_, ?_⟩
  · rw [hs.next, hs.children]
    exact h.fresh
  · rw [hs.proc, hs.children]
    exact h.tracked
  · rw [hs.proc, hs.children]
    exact h.others
  · unfold InTime
    rw [hs.children]
    exact h.inTime
  · rw [hs.proc]
    exact h.backoff

/-- A camera that has had no process. -/
theorem inv_empty (health : Option RecorderHealth) : Inv ⟨none, fun _ => none, 0, health⟩ := by
  refine ⟨fun _ _ => rfl, fun p hp => ?_, fun h ch hch => ?_, fun h ch h' hch => ?_,
    fun p hp => ?_⟩
  · cases hp
  · cases hch
  · cases hch
  · cases hp

/-! ## Rewriting one process -/

theorem children_mark {h : Nat} :
    (s.mark k f).children h = if h = k then (s.children k).map f else s.children h := rfl

theorem fresh_mark (h : ∀ i, s.next ≤ i → s.children i = none) (i : Nat) (hi : s.next ≤ i) :
    (s.mark k f).children i = none := by
  rw [children_mark]
  split
  · next hik => rw [← hik, h i hi]; rfl
  · exact h i hi

/-- A process after the rewriting was there before. -/
theorem of_children_mark {i : Nat} {ch : Child} (h : (s.mark k f).children i = some ch) :
    ∃ ch₀, s.children i = some ch₀ ∧ (i = k ∧ ch = f ch₀ ∨ i ≠ k ∧ ch = ch₀) := by
  rw [children_mark] at h
  split at h
  · next hik =>
    obtain ⟨ch₀, hch₀, rfl⟩ := Option.map_eq_some_iff.1 h
    exact ⟨ch₀, hik ▸ hch₀, .inl ⟨hik, rfl⟩⟩
  · next hik => exact ⟨ch, h, .inr ⟨hik, rfl⟩⟩

/-- Replacements stay in time when a death that was counted stays as it is. -/
theorem InTime.mark (h : s.InTime)
    (hkeep : ∀ ch, (f ch).replaces = ch.replaces ∧ (f ch).spawnedAt = ch.spawnedAt)
    (hcount : ∀ ch, s.children k = some ch → ch.counted = 1 →
      (f ch).counted = 1 ∧ (f ch).retryAt = ch.retryAt) : (s.mark k f).InTime := by
  intro i ch i' hi hrep
  obtain ⟨ch₀, hch₀, hor⟩ := of_children_mark hi
  have hsame : ch.replaces = ch₀.replaces ∧ ch.spawnedAt = ch₀.spawnedAt := by
    rcases hor with ⟨-, rfl⟩ | ⟨-, rfl⟩
    · exact hkeep ch₀
    · exact ⟨rfl, rfl⟩
  rw [hsame.1] at hrep
  rw [hsame.2]
  obtain ⟨old, t, hold, hcounted, hretry, hle⟩ := h i ch₀ i' hch₀ hrep
  rw [children_mark]
  split
  · next hik =>
    subst hik
    obtain ⟨hc, hr⟩ := hcount old hold hcounted
    exact ⟨f old, t, by rw [hold]; rfl, hc, hr.trans hretry, hle⟩
  · exact ⟨old, t, hold, hcounted, hretry, hle⟩

/-- A process ends. -/
theorem Inv.kill (h : s.Inv) (k : Nat) : (s.kill k).Inv := by
  refine ⟨fresh_mark h.fresh, fun p hp => ?_, fun i ch hi hne => ?_,
    h.inTime.mark (fun _ => ⟨rfl, rfl⟩) fun _ _ hc => ⟨hc, rfl⟩, h.backoff⟩
  · obtain ⟨ch, hch, hstop, hcount, hdead⟩ := h.tracked p hp
    unfold RecorderCell.kill
    rw [children_mark]
    split
    · next hpk =>
      rw [← hpk, hch]
      exact ⟨_, rfl, hstop, hcount, fun hd => ⟨rfl, (hdead hd).2⟩⟩
    · exact ⟨ch, hch, hstop, hcount, hdead⟩
  · obtain ⟨ch₀, hch₀, hor⟩ := of_children_mark hi
    obtain ⟨hdead, hcount, hstop⟩ := h.others i ch₀ hch₀ hne
    rcases hor with ⟨-, rfl⟩ | ⟨-, rfl⟩
    · exact ⟨rfl, hcount, hstop⟩
    · exact ⟨hdead, hcount, hstop⟩

/-- The process of a camera that is not recorded any more. -/
theorem Inv.stop (h : s.Inv) : (s.stop e).Inv := by
  unfold RecorderCell.stop
  cases hp : s.proc with
  | none => exact h
  | some p =>
    refine Inv.same ?_ same_setHealth
    obtain ⟨ch, hch, hstop, hcount, hdead⟩ := h.tracked p hp
    refine ⟨fresh_mark h.fresh, (fun q hq => by cases hq), fun i c hi _ => ?_,
      InTime.mark h.inTime (fun _ => ⟨rfl, rfl⟩) fun _ _ hc => ⟨hc, rfl⟩,
      fun q hq => by cases hq⟩
    obtain ⟨c₀, hc₀, hor⟩ := of_children_mark hi
    rcases hor with ⟨rfl, rfl⟩ | ⟨hne, rfl⟩
    · rw [show s.children p.handle = some c₀ from hc₀] at hch
      cases hch
      refine ⟨rfl, ?_, fun hs => by cases hs⟩
      dsimp only
      rw [hcount]
      split <;> decide
    · refine h.others i c hc₀ fun q hq => ?_
      rw [hp] at hq
      obtain rfl := Option.some_inj.1 hq
      exact hne.symm

/-! ## Looking after the process -/

/-- The record of the tracked process is rewritten where the invariant does not read it. -/
theorem Inv.setProc (h : s.Inv) (hp : s.proc = some p) (hhandle : p'.handle = p.handle)
    (hdead : p'.deadHandled = p.deadHandled) (hretry : p'.nextRetry = p.nextRetry)
    (hback : BACKOFF_START ≤ p'.backoff ∧ p'.backoff ≤ BACKOFF_MAX) :
    Inv { s with proc := some p' } := by
  refine ⟨h.fresh, fun q hq => ?_, fun i ch hi hne => ?_, h.inTime, fun q hq => ?_⟩
  · obtain rfl := Option.some_inj.1 hq
    rw [hhandle, hdead, hretry]
    exact h.tracked p hp
  · refine h.others i ch hi fun q hq => ?_
    rw [hp] at hq
    obtain rfl := Option.some_inj.1 hq
    exact hhandle ▸ hne p' rfl
  · obtain rfl := Option.some_inj.1 hq
    exact hback

/-- New segments reset the backoff. -/
theorem Inv.afterIndex (h : s.Inv) (hp : s.proc = some p) :
    Inv { s with proc := some (p.afterIndex e) } := by
  refine h.setProc hp Proc.handle_afterIndex ?_ ?_ ?_
  · unfold Proc.afterIndex
    split <;> rfl
  · unfold Proc.afterIndex
    split <;> rfl
  · unfold Proc.afterIndex
    split
    · exact h.backoff p hp
    · show BACKOFF_START ≤ BACKOFF_START ∧ BACKOFF_START ≤ BACKOFF_MAX
      decide

theorem deadHandled_afterDeath : (p.afterDeath e).deadHandled = true := by
  unfold Proc.afterDeath
  split
  · assumption
  · rfl

theorem restartCount_afterDeath : p.restartCount ≤ (p.afterDeath e).restartCount := by
  unfold Proc.afterDeath
  split
  · exact Nat.le_refl _
  · exact Nat.le_succ _

theorem restartCount_afterIndex : (p.afterIndex e).restartCount = p.restartCount := by
  unfold Proc.afterIndex
  split <;> rfl

/-- The backoff doubles up to its bound. -/
theorem backoff_afterDeath (h : BACKOFF_START ≤ p.backoff ∧ p.backoff ≤ BACKOFF_MAX) :
    BACKOFF_START ≤ (p.afterDeath e).backoff ∧ (p.afterDeath e).backoff ≤ BACKOFF_MAX := by
  unfold Proc.afterDeath
  split
  · exact h
  · dsimp only
    unfold BACKOFF_START BACKOFF_MAX at *
    omega

/-- The death of a process that has ended is counted. -/
theorem Inv.recordDeath {reason : String} (h : Inv { s with proc := some p })
    (hexit : s.exited p.handle = true) : (s.recordDeath e p reason).1.Inv := by
  obtain ⟨ch, hch, hstop, hcount, -⟩ := h.tracked p rfl
  have hch : s.children p.handle = some ch := hch
  have hended : ch.dead = true := by
    rw [exited, hch] at hexit
    simpa using hexit
  unfold RecorderCell.recordDeath
  split
  · exact h
  · next hnot =>
    rw [if_neg hnot] at hcount
    have hcounted : Inv ({ s with proc := some (p.afterDeath e) }.mark p.handle fun ch =>
        { ch with counted := ch.counted + 1, retryAt := some (p.afterDeath e).nextRetry }) := by
      refine ⟨fresh_mark h.fresh, fun q hq => ?_, fun i c hi hne => ?_,
        InTime.mark h.inTime (fun _ => ⟨rfl, rfl⟩) fun c hc hone => ?_, fun q hq => ?_⟩
      · obtain rfl := Option.some_inj.1 hq
        rw [children_mark, Proc.handle_afterDeath, if_pos rfl]
        refine ⟨{ ch with
          counted := ch.counted + 1
          retryAt := some (p.afterDeath e).nextRetry }, ?_, hstop, ?_, fun _ => ⟨hended, rfl⟩⟩
        · rw [show ({ s with proc := some (p.afterDeath e) } : RecorderCell).children p.handle =
            some ch from hch]
          rfl
        · rw [deadHandled_afterDeath]
          simpa using hcount
      · obtain ⟨c₀, hc₀, hor⟩ := of_children_mark hi
        rcases hor with ⟨rfl, -⟩ | ⟨hi', rfl⟩
        · exact absurd Proc.handle_afterDeath (hne (p.afterDeath e) rfl)
        · refine h.others i c hc₀ fun q hq => ?_
          obtain rfl := Option.some_inj.1 hq
          exact hi'.symm
      · -- the process that ends now has not been counted
        rw [show s.children p.handle = some c from hc] at hch
        cases hch
        rw [hcount] at hone
        cases hone
      · obtain rfl := Option.some_inj.1 hq
        exact backoff_afterDeath (h.backoff p rfl)
    dsimp only
    rw [Proc.handle_afterDeath]
    split
    · exact hcounted
    · exact hcounted.same same_setHealth

variable (e s) in
/-- What a turn leaves without the start: the cell as it is, a process whose record is rewritten, or
one whose death is recorded, after the kill of a stalled one. -/
theorem ready_cases : s.ready e = s ∧ (s.runs e = true → s.proc = none) ∨
    ∃ p, s.proc = some p ∧
      (s.exited p.handle = true ∧ (∃ reason, s.ready e = (s.recordDeath e p reason).1) ∨
        s.exited p.handle = false ∧
          (((p.afterIndex e).stalled e = true ∧
            ∃ reason, s.ready e = ((s.kill p.handle).recordDeath e (p.afterIndex e) reason).1) ∨
          ∃ q : Proc, Same (s.ready e) { s with proc := some q } ∧ q.handle = p.handle ∧
            q.deadHandled = p.deadHandled ∧ q.nextRetry = p.nextRetry ∧
            q.restartCount = p.restartCount ∧ q.backoff = (p.afterIndex e).backoff ∧
            (s.runs e = true → (p.afterIndex e).stalled e = false))) := by
  have hkeeps : ∀ p : Proc, (p.afterIndex e).deadHandled = p.deadHandled ∧
      (p.afterIndex e).nextRetry = p.nextRetry ∧
      (p.afterIndex e).restartCount = p.restartCount := by
    intro p
    unfold Proc.afterIndex
    split <;> exact ⟨rfl, rfl, rfl⟩
  unfold RecorderCell.ready runs look
  split
  · exact .inl ⟨rfl, nofun⟩
  · cases hp : s.proc with
    | none => exact .inl ⟨rfl, fun _ => rfl⟩
    | some p =>
      obtain ⟨hdead, hretry, hcount⟩ := hkeeps p
      dsimp only
      split
      · next hexit => exact .inr ⟨p, rfl, .inl ⟨hexit, _, rfl⟩⟩
      · next hexit =>
        have hexit := Bool.eq_false_iff.2 hexit
        split
        · exact .inl ⟨rfl, nofun⟩
        · split
          · next hstalled =>
            split
            · exact .inr ⟨p, rfl, .inr ⟨hexit, .inr ⟨_, .refl _, Proc.handle_afterIndex, hdead,
                hretry, hcount, rfl, nofun⟩⟩⟩
            · exact .inr ⟨p, rfl, .inr ⟨hexit, .inl ⟨hstalled, _, rfl⟩⟩⟩
          · next hruns =>
            have hruns := Bool.eq_false_iff.2 hruns
            split
            · exact .inr ⟨p, rfl, .inr ⟨hexit, .inr ⟨_, .refl _, Proc.handle_afterIndex, hdead,
                hretry, hcount, rfl, nofun⟩⟩⟩
            · exact .inr ⟨p, rfl, .inr ⟨hexit, .inr ⟨_, same_setHealth, Proc.handle_afterIndex,
                hdead, hretry, hcount, rfl, fun _ => hruns⟩⟩⟩

/-- A killed process has ended. -/
theorem exited_kill : (s.kill k).exited k = true := by
  rw [exited, RecorderCell.kill, children_mark, if_pos rfl]
  cases s.children k <;> rfl

/-- A turn without the start. -/
theorem Inv.ready (h : s.Inv) : (s.ready e).Inv := by
  rcases ready_cases e s with ⟨heq, -⟩ | ⟨p, hp, ⟨hexit, reason, heq⟩ | ⟨-, ⟨-, reason, heq⟩ |
    ⟨q, hsame, hhandle, hdead, hretry, -, hback, -⟩⟩⟩
  · rwa [heq]
  · rw [heq]
    refine Inv.recordDeath ?_ hexit
    rwa [show ({ s with proc := some p } : RecorderCell) = s from by rw [← hp]]
  · rw [heq]
    refine Inv.recordDeath (Inv.kill (h.afterIndex hp) p.handle) ?_
    rw [Proc.handle_afterIndex]
    exact exited_kill
  · refine Inv.same (h.setProc hp hhandle hdead hretry ?_) hsame
    rw [hback]
    exact (h.afterIndex (e := e) hp).backoff _ rfl

/-! ## Starting -/

/-- When a start is due, the death of the tracked process is handled and its gate has passed. -/
theorem ready_of_due (h : s.due e = true) {q : Proc} (hq : (s.ready e).proc = some q) :
    q.deadHandled = true ∧ q.nextRetry ≤ e.start := by
  obtain ⟨hruns, hopen⟩ := Bool.and_eq_true_iff.1 h
  unfold gateOpen at hopen
  rcases ready_cases e s with ⟨heq, hnone⟩ | ⟨p, hp, ⟨hexit, reason, heq⟩ |
    ⟨hexit, ⟨hstalled, reason, heq⟩ | ⟨q', -, -, -, -, -, -, hnot⟩⟩⟩
  · rw [heq, hnone hruns] at hq
    cases hq
  · rw [hp] at hopen
    dsimp only at hopen
    rw [if_pos hexit] at hopen
    rw [heq, proc_recordDeath] at hq
    obtain rfl := Option.some_inj.1 hq
    exact ⟨deadHandled_afterDeath, (of_decide_eq_true hopen).2⟩
  · rw [hp] at hopen
    dsimp only at hopen
    rw [if_neg (Bool.eq_false_iff.1 hexit), hstalled, Bool.true_and] at hopen
    rw [heq, proc_recordDeath] at hq
    obtain rfl := Option.some_inj.1 hq
    exact ⟨deadHandled_afterDeath, (of_decide_eq_true hopen).2⟩
  · rw [hp] at hopen
    dsimp only at hopen
    rw [if_neg (Bool.eq_false_iff.1 hexit), hnot hruns, Bool.false_and] at hopen
    cases hopen

variable (e s cam picks) in
/-- What a start leaves: the processes as they are, or a new one. -/
theorem launch_cases : Same (s.launch e cam picks).1.1 s ∨
    ∃ plan diskId, Same (s.launch e cam picks).1.1 (s.spawned e (s.newProc e plan diskId)) := by
  rw [launch_eq]
  dsimp only
  split
  · unfold started
    split
    · exact .inl (.refl s)
    · exact .inr ⟨_, _, same_setHealth⟩
  · cases e.startError cam with
    | none => exact .inl (.refl s)
    | some text => exact .inl same_setHealth

theorem children_spawned {h : Nat} : (s.spawned e p).children h =
    if h = s.next then some ⟨false, 0, false, e.start, s.proc.map Proc.handle, none⟩
    else s.children h := rfl

/-- When the death of the tracked process is handled, every process has ended. -/
theorem Inv.ended (h : s.Inv) (hhandled : ∀ q, s.proc = some q → q.deadHandled = true) {i : Nat}
    {ch : Child} (hi : s.children i = some ch) :
    ch.dead = true ∧ ch.counted ≤ 1 ∧ (ch.stopped = false → ch.counted = 1) := by
  by_cases htracked : ∃ q, s.proc = some q ∧ q.handle = i
  · obtain ⟨q, hq, rfl⟩ := htracked
    obtain ⟨ch', hch, -, hcount, hdead⟩ := h.tracked q hq
    rw [hi] at hch
    cases hch
    rw [if_pos (hhandled q hq)] at hcount
    exact ⟨(hdead (hhandled q hq)).1, Nat.le_of_eq hcount, fun _ => hcount⟩
  · exact h.others i ch hi fun q hq heq => htracked ⟨q, hq, heq⟩

/-- The new process replaces the tracked one, whose gate has passed. -/
theorem Inv.inTime_spawned (h : s.Inv)
    (hgate : ∀ q, s.proc = some q → q.deadHandled = true ∧ q.nextRetry ≤ e.start) :
    (s.spawned e p).InTime := by
  have hold : ∀ i ch, s.children i = some ch → (s.spawned e p).children i = some ch := by
    intro i ch hi
    have hne : i ≠ s.next := by
      rintro rfl
      rw [h.fresh s.next (Nat.le_refl _)] at hi
      cases hi
    rwa [children_spawned, if_neg hne]
  intro i ch i' hi hrep
  rw [children_spawned] at hi
  split at hi
  · obtain rfl := Option.some_inj.1 hi
    obtain ⟨q, hq, rfl⟩ := Option.map_eq_some_iff.1 hrep
    obtain ⟨old, hch, -, hcount, hdead⟩ := h.tracked q hq
    obtain ⟨hhandled, hle⟩ := hgate q hq
    rw [if_pos hhandled] at hcount
    exact ⟨old, q.nextRetry, hold _ old hch, hcount, (hdead hhandled).2, hle⟩
  · obtain ⟨old, t, hch, hrest⟩ := h.inTime i ch i' hi hrep
    exact ⟨old, t, hold _ old hch, hrest⟩

/-- A new process replaces one whose death is handled and whose gate has passed. -/
theorem Inv.spawned (h : s.Inv)
    (hgate : ∀ q, s.proc = some q → q.deadHandled = true ∧ q.nextRetry ≤ e.start)
    (plan : Option Nat × String × Int) (diskId : Nat) :
    (s.spawned e (s.newProc e plan diskId)).Inv := by
  refine ⟨fun i hi => ?_, fun q hq => ?_, fun i ch hi hne => ?_, h.inTime_spawned hgate,
    fun q hq => ?_⟩
  · have hlt : s.next < i := hi
    rw [children_spawned, if_neg (Nat.ne_of_gt hlt)]
    exact h.fresh i (Nat.le_of_lt hlt)
  · obtain rfl := Option.some_inj.1 hq
    exact ⟨_, if_pos rfl, rfl, rfl, fun hd => by cases hd⟩
  · have hi' : i ≠ s.next := fun heq => hne _ rfl heq.symm
    rw [children_spawned, if_neg hi'] at hi
    exact h.ended (fun q hq => (hgate q hq).1) hi
  · obtain rfl := Option.some_inj.1 hq
    show BACKOFF_START ≤ (s.proc.map Proc.backoff).getD BACKOFF_START ∧
      (s.proc.map Proc.backoff).getD BACKOFF_START ≤ BACKOFF_MAX
    cases hp : s.proc with
    | none => decide
    | some q => exact h.backoff q hp

/-- One turn keeps the invariant. -/
theorem Inv.turn (h : s.Inv) : (s.turn e cam picks).1.1.Inv := by
  rw [turn_eq]
  split
  · next hdue =>
    rcases launch_cases e (s.ready e) cam picks with
      hsame | ⟨plan, diskId, hsame⟩
    · exact h.ready.same hsame
    · exact (h.ready.spawned (fun q hq => ready_of_due hdue hq) plan diskId).same hsame
  · exact h.ready

/-! ## The counter of restarts -/

/-- Looking after a process keeps it tracked and does not lower its counter. -/
theorem ready_restartCount (hp : s.proc = some p) :
    ∃ q, (s.ready e).proc = some q ∧ p.restartCount ≤ q.restartCount := by
  rcases ready_cases e s with ⟨heq, -⟩ | ⟨p', hp', hready⟩
  · exact ⟨p, by rw [heq, hp], Nat.le_refl _⟩
  · obtain rfl := Option.some_inj.1 (hp.symm.trans hp')
    rcases hready with ⟨-, reason, heq⟩ | ⟨-, ⟨-, reason, heq⟩ | ⟨q, hsame, -, -, -, hcount, -⟩⟩
    · exact ⟨_, by rw [heq, proc_recordDeath], restartCount_afterDeath⟩
    · refine ⟨_, by rw [heq, proc_recordDeath], ?_⟩
      exact restartCount_afterIndex (e := e) ▸ restartCount_afterDeath
    · exact ⟨q, hsame.proc, Nat.le_of_eq hcount.symm⟩

/-- A turn keeps a camera with a process tracked, and does not lower the counter. -/
theorem turn_restartCount (hp : s.proc = some p) :
    ∃ q, (s.turn e cam picks).1.1.proc = some q ∧ p.restartCount ≤ q.restartCount := by
  obtain ⟨q, hq, hle⟩ := ready_restartCount (e := e) hp
  rw [turn_eq]
  split
  · rcases launch_cases e (s.ready e) cam picks with
      hsame | ⟨plan, diskId, hsame⟩
    · exact ⟨q, hsame.proc.trans hq, hle⟩
    · refine ⟨_, hsame.proc, ?_⟩
      show p.restartCount ≤ ((s.ready e).proc.map Proc.restartCount).getD 0
      rw [hq]
      exact hle
  · exact ⟨q, hq, hle⟩

/-- After a turn the death of the tracked process is handled. -/
def Handled (s : RecorderCell) : Prop :=
  ∀ p, s.proc = some p → s.exited p.handle = true → p.deadHandled = true

theorem ready_handled (hruns : s.runs e = true) : (s.ready e).Handled := by
  intro q hq hexit
  rcases ready_cases e s with ⟨heq, hnone⟩ | ⟨p, hp, ⟨-, reason, heq⟩ | ⟨hlives, ⟨-, reason, heq⟩ |
    ⟨q', hsame, hhandle, -⟩⟩⟩
  · rw [heq, hnone hruns] at hq
    cases hq
  · rw [heq, proc_recordDeath] at hq
    obtain rfl := Option.some_inj.1 hq
    exact deadHandled_afterDeath
  · rw [heq, proc_recordDeath] at hq
    obtain rfl := Option.some_inj.1 hq
    exact deadHandled_afterDeath
  · rw [hsame.proc] at hq
    obtain rfl := Option.some_inj.1 hq
    rw [exited, hsame.children, hhandle] at hexit
    exact absurd hexit (Bool.eq_false_iff.1 hlives)

theorem turn_handled (hruns : s.runs e = true) : (s.turn e cam picks).1.1.Handled := by
  rw [turn_eq]
  split
  · rcases launch_cases e (s.ready e) cam picks with
      hsame | ⟨plan, diskId, hsame⟩
    · intro q hq hexit
      rw [hsame.proc] at hq
      rw [exited, hsame.children] at hexit
      exact ready_handled hruns q hq hexit
    · intro q hq hexit
      rw [hsame.proc] at hq
      rw [exited, hsame.children] at hexit
      obtain rfl := Option.some_inj.1 hq
      have hnew : ((s.ready e).newProc e plan diskId).handle = (s.ready e).next := rfl
      rw [hnew, children_spawned, if_pos rfl] at hexit
      cases hexit
  · exact ready_handled hruns

end

end RecorderCell

end AeroXProtect
