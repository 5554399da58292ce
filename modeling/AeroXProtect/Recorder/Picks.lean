import AeroXProtect.Recorder.Supervisor

/-!
# The disks of a tick

The starts of a tick pick their disks one after the other from the state they share. A pick takes
part when its start gets that far (`TurnEnv.draws`); it then moves the counter of the round robin,
or pins a disk in a policy that has no pin. `Drawn` says in closed form what the cameras of a list
leave of that state: so many more draws, and the first pin of each policy. So whether the pick of a
camera reaches another one can be read off the state before the tick (`Undisturbed`,
`plan_eq_iff_undisturbed`).
-/

open Lib

namespace AeroXProtect

/-! ## The pool of a camera -/

namespace TurnEnv

variable (e : TurnEnv)

/-- The disks a pick chooses from. -/
def pool : List Disk := e.disks.writePool e.headroom

/-- The disk that the hash of the camera's id names. -/
def hashed (c : Nat) : Option Disk := e.pool[e.md5 c % e.pool.length]?

/-- The disk under a policy with the pin, if the pin is in the pool. -/
def pinnedDisk (c : Nat) (pin : Option Nat) : Option Disk :=
  (pin.bind fun id => e.pool.find? fun d => d.id == id).or (e.hashed c)

end TurnEnv

/-- A pin of 0 counts as none. -/
def StoragePolicy.pin (p : StoragePolicy) : Option Nat := p.pinnedDiskId.filter fun id => id != 0

/-- The policy after a pick under it: one that gives a camera a disk of its own, and has no pin,
gets a pin. -/
def TurnEnv.afterPick (e : TurnEnv) (c : Nat) (p : StoragePolicy) : StoragePolicy :=
  if e.hasDisk = true ∧ p.balanceStrategy = .perCamera ∧ p.pin = none then
    { p with pinnedDiskId := (e.hashed c).map Disk.id }
  else p

section
variable {e : TurnEnv} {cam : RecordedCamera} {s : Picks} {c : Nat} {p q : StoragePolicy}
  {t : StoragePolicies}

theorem pool_eq_nil_iff : e.pool = [] ↔ e.hasDisk = false := by
  unfold TurnEnv.pool TurnEnv.hasDisk
  rw [Disks.writePool_eq_nil_iff, List.any_eq_false]
  simp [Table.mem_rows]

theorem length_pool_pos (h : e.hasDisk = true) : 0 < e.pool.length := by
  refine List.length_pos_iff.2 fun hnil => ?_
  rw [pool_eq_nil_iff.1 hnil] at h
  cases h

theorem StoragePolicies.mem_of_getForCamera (h : t.getForCamera c = some p) : p ∈ t := by
  rcases Option.or_eq_some_iff.1 h with h | ⟨-, h⟩
  · exact List.mem_of_find?_eq_some h
  · exact List.mem_of_find?_eq_some h

/-- A pin changes the policy of the cameras that share it. -/
theorem StoragePolicies.getForCamera_setPin {id : Nat} {pin : Option Nat} :
    (t.setPin id pin).getForCamera c =
      (t.getForCamera c).map fun q => if q.id = id then { q with pinnedDiskId := pin } else q := by
  have hfind : ∀ f : StoragePolicy → Bool, (∀ q, f { q with pinnedDiskId := pin } = f q) →
      (t.setPin id pin).rows.find? f = (t.rows.find? f).map fun q =>
        if q.id = id then { q with pinnedDiskId := pin } else q := by
    intro f hf
    have hcomp : (f ∘ fun q => if decide (q.id = id) then { q with pinnedDiskId := pin } else q) =
        f := by
      funext q
      show f (if decide (q.id = id) then { q with pinnedDiskId := pin } else q) = f q
      split
      · exact hf q
      · rfl
    show (t.rows.map _).find? f = _
    rw [List.find?_map, hcomp]
    simp only [decide_eq_true_eq]
  unfold getForCamera getRawForCamera getGlobal
  rw [hfind _ fun _ => rfl, hfind _ fun _ => rfl, Option.map_or]

/-! ## A pick -/

/-- The disk of a pick. -/
theorem Picks.pick_fst (h : s.policies.getForCamera c = some p) : (s.pick e c).1 =
    match p.balanceStrategy with
    | .perCamera => e.pinnedDisk c p.pin
    | .roundRobin => e.pool[(if e.redis then s.counter + 1 else 0) % e.pool.length]?
    | .leastUsed => leastUsed e.pool := by
  show (pickWriteDisk _ e.headroom e.disks c (s.policies.getForCamera c)).1 = _
  unfold pickWriteDisk TurnEnv.pinnedDisk TurnEnv.hashed
  rw [h, show e.disks.writePool e.headroom = e.pool from rfl]
  dsimp only
  cases hpool : e.pool with
  | nil =>
    cases p.balanceStrategy with
    | perCamera => cases p.pin <;> rfl
    | roundRobin => rfl
    | leastUsed => rfl
  | cons d pool =>
    rw [if_neg (by simp)]
    cases p.balanceStrategy with
    | perCamera =>
      dsimp only
      unfold StoragePolicy.pin
      cases p.pinnedDiskId.filter fun id => id != 0 <;> rfl
    | roundRobin => cases e.redis <;> rfl
    | leastUsed => rfl

theorem Picks.pick_fst_of_none (h : s.policies.getForCamera c = none) :
    (s.pick e c).1 = leastUsed e.pool := by
  show (pickWriteDisk _ e.headroom e.disks c (s.policies.getForCamera c)).1 = _
  unfold pickWriteDisk
  rw [h, show e.disks.writePool e.headroom = e.pool from rfl]
  cases e.pool with
  | nil => rfl
  | cons d pool => rfl

/-- A pick under a round robin policy moves the counter. -/
theorem Picks.counter_pick : (s.pick e c).2.counter = s.counter +
    if (e.redis && e.hasDisk && (s.policies.getForCamera c).any fun p =>
      decide (p.balanceStrategy = .roundRobin)) then 1 else 0 := by
  rw [← pick_isSome e s c]
  show (if (e.redis && (s.pick e c).1.isSome && (s.policies.getForCamera c).any fun p =>
      decide (p.balanceStrategy = .roundRobin)) then s.counter + 1 else s.counter) = _
  generalize (e.redis && (s.pick e c).1.isSome && (s.policies.getForCamera c).any fun p =>
    decide (p.balanceStrategy = .roundRobin)) = counts
  cases counts <;> rfl

/-- The policy that a pick answers. -/
theorem pickWriteDisk_snd {w : PickEnv} {policy : Option StoragePolicy} (hmd : w.md5 = e.md5) :
    (pickWriteDisk w e.headroom e.disks c policy).2 = policy.map (e.afterPick c) := by
  have hempty : e.pool.isEmpty = true ↔ ¬ e.hasDisk = true := by
    rw [List.isEmpty_iff, pool_eq_nil_iff, Bool.not_eq_true]
  unfold pickWriteDisk TurnEnv.afterPick StoragePolicy.pin TurnEnv.hashed PickEnv.hashIndex
  rw [show e.disks.writePool e.headroom = e.pool from rfl, hmd]
  dsimp only
  cases policy with
  | none => split <;> rfl
  | some p =>
    rw [Option.map_some]
    split
    · next hnil => rw [if_neg fun h => hempty.1 hnil h.1]
    · next hsome =>
      have hdisk : e.hasDisk = true := Decidable.not_not.1 fun h => hsome (hempty.2 h)
      dsimp only
      cases p.balanceStrategy with
      | perCamera =>
        dsimp only
        cases p.pinnedDiskId.filter fun id => id != 0 with
        | none => rw [if_pos ⟨hdisk, rfl, rfl⟩]
        | some pin => rw [if_neg (by simp)]
      | roundRobin => rw [if_neg (by simp)]
      | leastUsed => rw [if_neg (by simp)]

theorem TurnEnv.afterPick_eq : e.afterPick c p =
    { p with pinnedDiskId := (e.afterPick c p).pinnedDiskId } := by
  unfold afterPick
  split <;> rfl

/-- What a pick leaves of the policy of each camera. -/
theorem Picks.getForCamera_pick (c' : Nat) : (s.pick e c).2.policies.getForCamera c' =
    (s.policies.getForCamera c').map fun q =>
      if s.policies.getForCamera c = some q then e.afterPick c q else q := by
  have hsnd : (pickWriteDisk ⟨e.md5, if e.redis then some (s.counter + 1) else none⟩ e.headroom
      e.disks c (s.policies.getForCamera c)).2 =
        (s.policies.getForCamera c).map (e.afterPick c) := pickWriteDisk_snd rfl
  unfold Picks.pick
  dsimp only
  rw [hsnd]
  cases hp : s.policies.getForCamera c with
  | none => simp
  | some p =>
    have hid : (e.afterPick c p).id = p.id := by rw [TurnEnv.afterPick_eq]
    rw [Option.map_some]
    dsimp only
    rw [StoragePolicies.getForCamera_setPin, hid]
    refine Option.map_congr fun q hq => ?_
    by_cases hqp : q.id = p.id
    · rw [if_pos hqp, Table.eq_of_key_eq (StoragePolicies.mem_of_getForCamera hq)
        (StoragePolicies.mem_of_getForCamera hp) hqp, if_pos rfl]
      exact TurnEnv.afterPick_eq.symm
    · rw [if_neg hqp, if_neg fun h => hqp (congrArg StoragePolicy.id (Option.some_inj.1 h)).symm]

end

/-! ## The picks of a tick -/

namespace Recorder

section
variable (r : Recorder) (env : Nat → TurnEnv)

/-- A start is due at the turn of a camera. -/
def due (cam : RecordedCamera) : Bool := (r.cell cam.id).due (env cam.id)

/-- The camera picks a disk in this tick. -/
def draws (cam : RecordedCamera) : Bool := r.due env cam && (env cam.id).draws cam

/-- The policy of a camera when the tick begins. -/
def policyOf (c : Nat) : Option StoragePolicy := r.shared.policies.getForCamera c

/-- The pick of a camera moves the counter of the round robin. -/
def counts (cam : RecordedCamera) : Bool :=
  r.draws env cam && (env cam.id).redis &&
    (r.policyOf cam.id).any fun p => decide (p.balanceStrategy = .roundRobin)

/-- The pin that the pick of a camera sets in a policy without one. -/
def pins (p : StoragePolicy) (cam : RecordedCamera) : Option Nat :=
  if r.draws env cam = true ∧ r.policyOf cam.id = some p ∧ p.balanceStrategy = .perCamera then
    (((env cam.id).hashed cam.id).map Disk.id).filter fun id => id != 0
  else none

/-- The shared state after the turns of some cameras: the counter has moved once for each draw, and
a policy has the pin it had, or the first one that was set. -/
structure Drawn (l : List RecordedCamera) (s : Picks) : Prop where
  counter : s.counter = r.shared.counter + l.countP (r.counts env)
  noPolicy : ∀ c, r.policyOf c = none → s.policies.getForCamera c = none
  policy : ∀ c p, r.policyOf c = some p → ∃ pin,
    s.policies.getForCamera c = some { p with pinnedDiskId := pin } ∧
      StoragePolicy.pin { p with pinnedDiskId := pin } = p.pin.or (l.findSome? (r.pins env p))

variable {r env} {l : List RecordedCamera} {s : Picks} {cam : RecordedCamera}

/-- A camera that draws nothing leaves the state as it is. -/
theorem Drawn.quiet (h : r.Drawn env l s) (hdraws : r.draws env cam = false) :
    r.Drawn env (l ++ [cam]) s := by
  have hcounts : r.counts env cam = false := by rw [counts, hdraws]; rfl
  have hpins : ∀ p, r.pins env p cam = none := fun p =>
    if_neg fun hp => Bool.false_ne_true (hdraws.symm.trans hp.1)
  refine ⟨?_, h.noPolicy, fun c p hp => ?_⟩
  · rw [h.counter, List.countP_append, List.countP_singleton, hcounts]
    rfl
  · obtain ⟨pin, hpin, hfirst⟩ := h.policy c p hp
    refine ⟨pin, hpin, ?_⟩
    rw [hfirst, List.findSome?_append, List.findSome?_singleton, hpins, Option.or_none]

/-- The policies of two cameras are the same row when they were at the start. -/
theorem Drawn.shares_iff (h : r.Drawn env l s) {c c' : Nat} {p q : StoragePolicy}
    (hp : r.policyOf c = some p) (hq : s.policies.getForCamera c = some q) :
    s.policies.getForCamera c' = some q ↔ r.policyOf c' = some p := by
  obtain ⟨pin, hpin, -⟩ := h.policy c p hp
  obtain rfl := Option.some_inj.1 (hpin.symm.trans hq)
  constructor
  · intro hc'
    cases hp' : r.policyOf c' with
    | none =>
      rw [h.noPolicy c' hp'] at hc'
      cases hc'
    | some p' =>
      obtain ⟨pin', hpin', -⟩ := h.policy c' p' hp'
      have hrow := Option.some_inj.1 (hpin'.symm.trans hc')
      have hid := congrArg StoragePolicy.id hrow
      rw [Table.eq_of_key_eq (StoragePolicies.mem_of_getForCamera hp')
        (StoragePolicies.mem_of_getForCamera hp) hid]
  · intro hp'
    obtain ⟨pin', hpin', -⟩ := h.policy c' p hp'
    rw [hpin', Table.eq_of_key_eq (StoragePolicies.mem_of_getForCamera hpin')
      (StoragePolicies.mem_of_getForCamera hpin) rfl]

/-- A camera has a policy of the same strategy as at the start. -/
theorem Drawn.any_strategy (h : r.Drawn env l s) (c : Nat) (f : BalanceStrategy → Bool) :
    ((s.policies.getForCamera c).any fun p => f p.balanceStrategy) =
      (r.policyOf c).any fun p => f p.balanceStrategy := by
  cases hp : r.policyOf c with
  | none => rw [h.noPolicy c hp]
  | some p =>
    obtain ⟨pin, hpin, -⟩ := h.policy c p hp
    rw [hpin]
    rfl

/-- The pin of a policy after a pick that finds a disk. -/
theorem pin_afterPick {e : TurnEnv} {c : Nat} {p : StoragePolicy} (hdisk : e.hasDisk = true) :
    (e.afterPick c p).pin = p.pin.or (if p.balanceStrategy = .perCamera then
      ((e.hashed c).map Disk.id).filter fun id => id != 0 else none) := by
  unfold TurnEnv.afterPick
  cases hpin : p.pin with
  | none =>
    rw [Option.none_or]
    by_cases hper : p.balanceStrategy = .perCamera
    · rw [if_pos ⟨hdisk, hper, rfl⟩, if_pos hper]
      rfl
    · rw [if_neg fun hall => hper hall.2.1, if_neg hper, hpin]
  | some i => rw [if_neg (fun hall => by cases hall.2.2), hpin, Option.some_or]

/-- A camera that draws moves the counter, or sets the first pin of its policy. -/
theorem Drawn.pick (h : r.Drawn env l s) (hdraws : r.draws env cam = true) :
    r.Drawn env (l ++ [cam]) (s.pick (env cam.id) cam.id).2 := by
  have hdisk : (env cam.id).hasDisk = true := by
    unfold draws TurnEnv.draws at hdraws
    simp only [Bool.and_eq_true] at hdraws
    exact hdraws.2.2
  refine ⟨?_, fun c hc => by rw [Picks.getForCamera_pick, h.noPolicy c hc]; rfl,
    fun c p hp => ?_⟩
  · rw [Picks.counter_pick, h.counter, h.any_strategy cam.id fun b => decide (b = .roundRobin),
      hdisk, Bool.and_true, List.countP_append, List.countP_singleton, counts, hdraws,
      Bool.true_and, Nat.add_assoc]
  · obtain ⟨pin, hpin, hfirst⟩ := h.policy c p hp
    rw [Picks.getForCamera_pick, hpin, Option.map_some, List.findSome?_append,
      List.findSome?_singleton, ← Option.or_assoc, ← hfirst]
    simp only [h.shares_iff hp hpin]
    by_cases hshare : r.policyOf cam.id = some p
    · have hpins : r.pins env p cam = if p.balanceStrategy = .perCamera then
          (((env cam.id).hashed cam.id).map Disk.id).filter fun id => id != 0 else none :=
        if_congr (by simp [hdraws, hshare]) rfl rfl
      rw [if_pos hshare, hpins, TurnEnv.afterPick_eq]
      exact ⟨_, rfl, (congrArg StoragePolicy.pin TurnEnv.afterPick_eq).symm.trans
        (pin_afterPick hdisk)⟩
    · refine ⟨pin, by rw [if_neg hshare], ?_⟩
      rw [pins, if_neg fun hall => hshare hall.2.1, Option.or_none]

/-- A pick that finds no disk leaves the counter and the policies as they are. -/
theorem Drawn.noDisk (h : r.Drawn env l s) {e : TurnEnv} {c : Nat} (hdisk : e.hasDisk = false) :
    r.Drawn env l (s.pick e c).2 := by
  have hpol : ∀ c', (s.pick e c).2.policies.getForCamera c' = s.policies.getForCamera c' := by
    intro c'
    have hafter : ∀ q, e.afterPick c q = q := fun q =>
      if_neg fun hall => Bool.false_ne_true (hdisk.symm.trans hall.1)
    rw [Picks.getForCamera_pick]
    simp only [hafter, ite_self, Option.map_id']
  refine ⟨?_, fun c' hc' => (hpol c').trans (h.noPolicy c' hc'), fun c' p hp => ?_⟩
  · rw [Picks.counter_pick, hdisk, Bool.and_false, Bool.false_and]
    exact h.counter
  · rw [hpol]
    exact h.policy c' p hp

/-- One turn. -/
theorem Drawn.turn (h : r.Drawn env l s) :
    r.Drawn env (l ++ [cam]) (turn env cam (r.cell cam.id) s).1.2 := by
  unfold Recorder.turn
  rw [RecorderCell.turn_eq]
  split
  · next hdue =>
    have hdraws : r.draws env cam = (env cam.id).draws cam := by
      unfold draws due
      rw [hdue, Bool.true_and]
    rw [RecorderCell.launch_eq]
    dsimp only
    unfold TurnEnv.draws at hdraws
    split
    · next hreaches =>
      rw [hreaches, Bool.true_and] at hdraws
      cases hdisk : (env cam.id).hasDisk with
      | true => exact h.pick (hdraws.trans hdisk)
      | false => exact (h.noDisk hdisk).quiet (hdraws.trans hdisk)
    · next hstops =>
      rw [Bool.eq_false_iff.2 hstops, Bool.false_and] at hdraws
      exact h.quiet hdraws
  · next hdue =>
    refine h.quiet ?_
    unfold draws due
    rw [Bool.eq_false_iff.2 hdue, Bool.false_and]

/-! ## The disk of a camera -/

section
variable (r env)

/-- The cameras before a camera in a loop. -/
def before (cams : RecordedCameras) (c : Nat) : List RecordedCamera :=
  cams.rows.takeWhile fun cam => decide (cam.id ≠ c)

/-- The disk of a camera does not depend on the pick of `x`. Under a round robin over more than one
disk, `x` has not drawn before it; under a policy without a pin, the first pin that is set before it
leads to the same disk with and without the one of `x`. -/
def Undisturbed (cams : RecordedCameras) (x : Nat) (cam : RecordedCamera) : Prop :=
  ∀ p, r.policyOf cam.id = some p →
    (p.balanceStrategy = .roundRobin → (env cam.id).redis = true → 1 < (env cam.id).pool.length →
      ∀ y ∈ before cams cam.id, y.id = x → r.counts env y = false) ∧
    (p.balanceStrategy = .perCamera → p.pin = none →
      ((env cam.id).pinnedDisk cam.id ((before cams cam.id).findSome? (r.pins env p))).map
          Disk.id =
        ((env cam.id).pinnedDisk cam.id (((before cams cam.id).filter fun y =>
          !decide (y.id = x)).findSome? (r.pins env p))).map Disk.id)

end

end

end Recorder

end AeroXProtect
