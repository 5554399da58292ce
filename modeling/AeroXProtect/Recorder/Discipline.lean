import AeroXProtect.Recorder.Children
import AeroXProtect.Recorder.Isolation

/-!
# The discipline of the recorder processes

Over any run of ticks, each with its own set of cameras to record and with processes that end in
between, a camera has one live process at most, the tracked one; a death is counted once, and the
replacement is started when the gate of the process has passed (`recorder_discipline`). A process
that ends right before its camera leaves the set is stopped without being counted
(`death_not_counted`). Everything is read off the invariant of the cells, which every action keeps
(`inv_step`).
-/

open Lib

namespace AeroXProtect

namespace RecorderCell

/-! ## The discipline -/

section
variable (s : RecorderCell)

/-- A live process is the tracked one. -/
def TracksLive : Prop :=
  ∀ h ch, s.children h = some ch → ch.dead = false → ∃ p, s.proc = some p ∧ p.handle = h

/-- No death is counted twice, nor that of a live process; a process that is not tracked any more
was counted once, unless it was stopped with its camera. -/
def CountsOnce : Prop :=
  ∀ h ch, s.children h = some ch → ch.counted ≤ 1 ∧ (ch.counted = 1 → ch.dead = true) ∧
    ((∀ p, s.proc = some p → p.handle ≠ h) → ch.stopped = false → ch.counted = 1)

/-- The backoff keeps its bounds. -/
def BackoffBounded : Prop :=
  ∀ p, s.proc = some p → BACKOFF_START ≤ p.backoff ∧ p.backoff ≤ BACKOFF_MAX

end

section
variable {s : RecorderCell} {e : TurnEnv}

theorem Inv.tracksLive (h : s.Inv) : s.TracksLive := by
  intro i ch hi hlive
  by_contra hno
  have hdead := (h.others i ch hi fun p hp heq => hno ⟨p, hp, heq⟩).1
  rw [hlive] at hdead
  cases hdead

theorem Inv.countsOnce (h : s.Inv) : s.CountsOnce := by
  intro i ch hi
  by_cases htracked : ∃ p, s.proc = some p ∧ p.handle = i
  · obtain ⟨p, hp, rfl⟩ := htracked
    obtain ⟨ch', hch, -, hcount, hdead⟩ := h.tracked p hp
    rw [hi] at hch
    cases hch
    refine ⟨?_, fun hone => ?_, fun hne => absurd rfl (hne p hp)⟩
    · rw [hcount]
      split <;> decide
    · rw [hcount] at hone
      split at hone
      · next hhandled => exact (hdead hhandled).1
      · cases hone
  · obtain ⟨hdead, hle, hcount⟩ := h.others i ch hi fun p hp heq => htracked ⟨p, hp, heq⟩
    exact ⟨hle, fun _ => hdead, fun _ => hcount⟩

/-- A camera that is stopped keeps no process. -/
theorem proc_stop : (s.stop e).proc = none := by
  unfold RecorderCell.stop
  cases hp : s.proc with
  | none => exact hp
  | some p =>
    dsimp only
    rw [proc_setHealth]
    rfl

/-- The death of the tracked process is counted when it is handled. -/
theorem Inv.counted (h : s.Inv) (hhandled : s.Handled) {p : Proc} (hp : s.proc = some p)
    (hexit : s.exited p.handle = true) :
    ∃ ch, s.children p.handle = some ch ∧ ch.counted = 1 := by
  obtain ⟨ch, hch, -, hcount, -⟩ := h.tracked p hp
  rw [if_pos (hhandled p hp hexit)] at hcount
  exact ⟨ch, hch, hcount⟩

end

end RecorderCell

/-! ## Runs -/

/-- What happens to the recorders: a tick, or a process of a camera ends on its own. -/
inductive SupervisorAct
  | tick (env : Nat → TurnEnv) (cams : RecordedCameras)
  | exits (camera handle : Nat)

/-- The camera stays one to record. -/
def SupervisorAct.records (c : Nat) : SupervisorAct → Bool
  | .tick _ cams => (cams.get? c).isSome
  | .exits _ _ => true

namespace Recorder

open RecorderCell

/-- Before the first tick there are no processes; the health rows are those of earlier runs. -/
def initial (shared : Picks) (health : Nat → Option RecorderHealth) : Recorder :=
  ⟨fun c => ⟨none, fun _ => none, 0, health c⟩, shared⟩

/-- One action. -/
def step (r : Recorder) : SupervisorAct → Recorder
  | .tick env cams => (r.tick env cams).1
  | .exits c h => ⟨fun c' => if c' = c then (r.cell c).kill h else r.cell c', r.shared⟩

section
variable {r : Recorder} {env : Nat → TurnEnv} {cams : RecordedCameras} {c : Nat} {p : Proc}

theorem inv_tick (h : ∀ c, (r.cell c).Inv) (c : Nat) : ((r.tick env cams).1.cell c).Inv := by
  refine Script.run_invariant (I := fun t : Recorder => ∀ c, (t.cell c).Inv)
    (fun cam _ t ht c => ?_) (fun c => ?_) c
  · rw [Cells.cell_exec]
    split
    · exact (ht cam.id).turn
    · exact ht c
  · show Inv (if (cams.get? c).isSome then r.cell c else (r.cell c).stop (env c))
    split
    · exact h c
    · exact (h c).stop

/-- One action keeps the invariant of every camera. -/
theorem inv_step (h : ∀ c, (r.cell c).Inv) (a : SupervisorAct) (c : Nat) :
    ((r.step a).cell c).Inv := by
  cases a with
  | tick env cams => exact inv_tick h c
  | exits c' k =>
    show Inv (if c = c' then (r.cell c').kill k else r.cell c)
    split
    · exact (h c').kill k
    · exact h c

/-- Every run keeps the invariant. -/
theorem inv_run (shared : Picks) (health : Nat → Option RecorderHealth) (as : List SupervisorAct)
    (c : Nat) : ((as.foldl step (initial shared health)).cell c).Inv := by
  revert c
  exact List.foldlRecOn as step (motive := fun r : Recorder => ∀ c, (r.cell c).Inv)
    (fun c => inv_empty (health c)) fun _ h a _ => inv_step h a

/-- A camera that is not to be recorded has no process after a tick. -/
theorem proc_tick_of_none (h : cams.get? c = none) : ((r.tick env cams).1.cell c).proc = none := by
  have hnot : c ∉ cams.rows.map RecordedCamera.id := by
    intro hin
    obtain ⟨cam, hcam, rfl⟩ := List.mem_map.1 hin
    rw [Table.get?_eq_some.2 ⟨hcam, rfl⟩] at h
    cases h
  have hcell : (r.tick env cams).1.cell c = (r.stopOthers env cams).cell c :=
    Cells.cell_run_of_not_mem hnot
  have hstop : (r.stopOthers env cams).cell c = (r.cell c).stop (env c) :=
    if_neg (by rw [h]; exact Bool.false_ne_true)
  rw [hcell, hstop, proc_stop]

/-- A tick in which no turn raises handles the deaths of the cameras to record. -/
theorem handled_tick (hnone : NoneRaises r env cams) {cam : RecordedCamera} (hcam : cam ∈ cams) :
    ((r.tick env cams).1.cell cam.id).Handled := by
  have hrun : ∀ cam ∈ cams.rows,
      goes env cam ((r.stopOthers env cams).cell cam.id) = true := by
    intro cam hcam
    rw [cell_stopOthers hcam]
    exact hnone.go hcam
  have hcell := Cells.cell_run turn_snd cams.nodup hrun hcam
  show ((r.mainLoop env cams).1.cell cam.id).Handled
  unfold mainLoop
  rw [hcell]
  refine turn_handled ?_
  rw [cell_stopOthers hcam]
  exact (hnone cam hcam).1

/-- A camera that stays one to record keeps its process tracked, and the counter does not fall. -/
theorem restartCount_step {a : SupervisorAct} (ha : a.records c = true)
    (hp : (r.cell c).proc = some p) :
    ∃ q, ((r.step a).cell c).proc = some q ∧ p.restartCount ≤ q.restartCount := by
  cases a with
  | exits c' k =>
    refine ⟨p, ?_, Nat.le_refl _⟩
    show (if c = c' then (r.cell c').kill k else r.cell c).proc = some p
    split
    · next heq => exact heq ▸ hp
    · exact hp
  | tick env cams =>
    refine Script.run_invariant (I := fun t : Recorder =>
      ∃ q, (t.cell c).proc = some q ∧ p.restartCount ≤ q.restartCount) (fun cam _ t ht => ?_) ?_
    · obtain ⟨q, hq, hle⟩ := ht
      rw [Cells.cell_exec]
      split
      · next heq =>
        obtain ⟨q', hq', hle'⟩ := turn_restartCount (e := env cam.id) (heq ▸ hq)
        exact ⟨q', hq', hle.trans hle'⟩
      · exact ⟨q, hq, hle⟩
    · refine ⟨p, ?_, Nat.le_refl _⟩
      rw [show (r.stopOthers env cams).cell c = r.cell c from if_pos ha]
      exact hp

/-- The same over a run. -/
theorem restartCount_run {bs : List SupervisorAct} (hb : ∀ b ∈ bs, b.records c = true)
    (hp : (r.cell c).proc = some p) :
    ∃ q, ((bs.foldl step r).cell c).proc = some q ∧ p.restartCount ≤ q.restartCount := by
  refine List.foldlRecOn bs step (motive := fun t : Recorder =>
    ∃ q, (t.cell c).proc = some q ∧ p.restartCount ≤ q.restartCount)
    ⟨p, hp, Nat.le_refl _⟩ fun t ht b hmem => ?_
  obtain ⟨q, hq, hle⟩ := ht
  obtain ⟨q', hq', hle'⟩ := restartCount_step (hb b hmem) hq
  exact ⟨q', hq', hle.trans hle'⟩

/-- **The discipline of the recorder processes.** After every run of ticks, each with its own
cameras to record, clocks and outcomes, and of processes that end in between: a live process of a
camera is the tracked one, deaths are counted once at most, replacements are not started before the
gate of the process they replace, and the backoff keeps its bounds. After the next tick a camera
that is not to be recorded has no process; if no turn raises in it, every process of a camera to
record that has ended was counted once, or stopped before. And as long as a camera is to be
recorded, its counter does not fall. -/
theorem recorder_discipline (shared : Picks) (health : Nat → Option RecorderHealth)
    (as : List SupervisorAct) (c : Nat) :
    let r := as.foldl step (initial shared health)
    (r.cell c).TracksLive ∧ (r.cell c).CountsOnce ∧ (r.cell c).InTime ∧
      (r.cell c).BackoffBounded ∧
    (∀ env cams, cams.get? c = none →
      ((r.tick env cams).1.cell c).proc = none ∧
        ∀ h ch, ((r.tick env cams).1.cell c).children h = some ch → ch.dead = true) ∧
    (∀ env cams, NoneRaises r env cams → (cams.get? c).isSome = true →
        ∀ h ch, ((r.tick env cams).1.cell c).children h = some ch → ch.dead = true →
          ch.stopped = false → ch.counted = 1) ∧
    (∀ bs : List SupervisorAct, (∀ b ∈ bs, b.records c = true) → ∀ p, (r.cell c).proc = some p →
      ∃ q, ((bs.foldl step r).cell c).proc = some q ∧ p.restartCount ≤ q.restartCount) := by
  intro r
  have hinv : ∀ c, (r.cell c).Inv := inv_run shared health as
  refine ⟨(hinv c).tracksLive, (hinv c).countsOnce, (hinv c).inTime, (hinv c).backoff,
    fun env cams hnone => ?_, fun env cams hnone hsome h ch hch hdead hstop => ?_,
    fun bs hb p hp => restartCount_run hb hp⟩
  · have hproc : ((r.tick env cams).1.cell c).proc = none := proc_tick_of_none hnone
    refine ⟨hproc, fun h ch hch => ?_⟩
    refine ((inv_tick hinv c).others h ch hch fun p hp => ?_).1
    rw [hproc] at hp
    cases hp
  · have hafter : ((r.tick env cams).1.cell c).Inv := inv_tick hinv c
    obtain ⟨cam, hcam⟩ := Option.isSome_iff_exists.1 hsome
    obtain ⟨hmem, rfl⟩ := Table.get?_eq_some.1 hcam
    by_cases htracked : ∃ p, ((r.tick env cams).1.cell cam.id).proc = some p ∧ p.handle = h
    · obtain ⟨p, hp, rfl⟩ := htracked
      have hexit : ((r.tick env cams).1.cell cam.id).exited p.handle = true := by
        rw [exited, hch]
        exact hdead
      obtain ⟨ch', hch', hcount⟩ := hafter.counted (handled_tick hnone hmem) hp hexit
      rw [hch] at hch'
      cases hch'
      exact hcount
    · exact (hafter.others h ch hch fun p hp heq => htracked ⟨p, hp, heq⟩).2.2 hstop

end

end Recorder

namespace DisciplineFixture

/-- Everything succeeds, at the given time. -/
def calmAt (t : Int) (_ : Nat) : TurnEnv :=
  { IsolationFixture.calm with
    segment := seconds t
    check := seconds t
    counted := seconds t
    gate := seconds t
    start := seconds t }

/-- One camera. -/
def camera : RecordedCameras := ⟨[⟨1, [⟨21, "main", false⟩]⟩], List.nodup_singleton _⟩

/-- No process, and no policy. -/
def start : Recorder := Recorder.initial ⟨∅, 0⟩ fun _ => none

end DisciplineFixture

namespace Recorder

section
open DisciplineFixture

/-- A process ends, its death is counted by the next tick, and the tick behind its gate starts
another one. -/
theorem recorder_discipline_restart :
    let r := [.tick (calmAt 1) camera, .exits 1 0, .tick (calmAt 2) camera,
      .tick (calmAt 5) camera].foldl step start
    ((r.cell 1).proc.map fun p => (p.handle, p.restartCount, p.backoff)) = some (1, 1, 2) ∧
      (r.cell 1).children 0 = some ⟨true, 1, false, seconds 1, none, some (seconds 4)⟩ ∧
      (r.cell 1).children 1 = some ⟨false, 0, false, seconds 5, some 0, none⟩ ∧
      (r.cell 1).TracksLive ∧ (r.cell 1).InTime := by
  obtain ⟨hlive, -, htime, -⟩ := recorder_discipline ⟨∅, 0⟩ (fun _ => none)
    [.tick (calmAt 1) camera, .exits 1 0, .tick (calmAt 2) camera, .tick (calmAt 5) camera] 1
  exact ⟨by decide +kernel, by decide +kernel, by decide +kernel, hlive, htime⟩

/-- A process ends on its own, and its camera is not to be recorded at the next tick: its death is
not counted by this tick, nor when the camera is recorded again. -/
theorem death_not_counted :
    let ended := [.tick (calmAt 1) camera, .exits 1 0].foldl step start
    let r := [.tick (calmAt 6) ∅, .tick (calmAt 11) camera].foldl step ended
    (ended.cell 1).children 0 = some ⟨true, 0, false, seconds 1, none, none⟩ ∧
      (r.cell 1).children 0 = some ⟨true, 0, true, seconds 1, none, none⟩ ∧
      ((r.cell 1).proc.map fun p => (p.handle, p.restartCount)) = some (1, 0) := by
  decide +kernel

end

end Recorder

end AeroXProtect
