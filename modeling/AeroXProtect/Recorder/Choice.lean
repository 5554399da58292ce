import AeroXProtect.Recorder.Picks

/-!
# The disk of a camera

What `pick_write_disk` promises each camera: a disk with room (`Disk.Qualifies`), the same one for
as long as it qualifies when the camera's policy is `per_camera` (`Picks.Keeps`), and one that does
not depend on what was picked for another camera (`Picks.Independent`). The first always holds. The
others fail with the pin that a `per_camera` policy holds: it is not moved when its disk drops out
of the pool (`Picks.FallsFromPin`), and in the global policy it is set once for all the cameras
under it (`Picks.PinsShared`).
-/

open Lib

namespace AeroXProtect

/-- A call of `pick_write_disk` for a camera. -/
structure PickCall where
  camera : Nat
  env : TurnEnv

/-- The disk can be written to, and is a record disk only when no cache disk can. -/
structure Disk.Qualifies (e : TurnEnv) (d : Disk) : Prop where
  mem : d ∈ e.disks
  deletedAt : d.deletedAt = none
  enabled : d.enabled = true
  online : d.status = .online
  room : e.headroom < d.usableFreeBytes
  role : d.role = .cache ∨ d.role = .record ∧
    ∀ d' ∈ e.disks, d'.isWritable [.cache] = true → d'.usableFreeBytes ≤ e.headroom

namespace Picks

variable (s : Picks) (e : TurnEnv) (c : Nat)

/-- The state after some calls. -/
def after (calls : List PickCall) : Picks :=
  calls.foldl (fun s k => (s.pick k.env k.camera).2) s

/-- A camera under a `per_camera` policy gets its disk again, whatever is called in between, for as
long as the disk is in the pool when the camera asks. -/
def Keeps : Prop :=
  ∀ p, s.policies.getForCamera c = some p → p.balanceStrategy = .perCamera →
  ∀ d, (s.pick e c).1 = some d →
  ∀ calls : List PickCall, (∀ k ∈ calls, k.camera = c → d.id ∈ k.env.pool.map Disk.id) →
  ∀ e' : TurnEnv, d.id ∈ e'.pool.map Disk.id →
    (((s.pick e c).2.after calls).pick e' c).1.map Disk.id = some d.id

/-- The call leaves the disks of the other cameras as they would be without it, now and after any
calls for these cameras, except under a round robin. -/
def Independent (cams : List Nat) : Prop :=
  ∀ b ∈ cams, b ≠ c →
  (∀ q, s.policies.getForCamera b = some q → q.balanceStrategy ≠ .roundRobin) →
  ∀ calls : List PickCall, (∀ k ∈ calls, k.camera ∈ cams) →
  ∀ e' : TurnEnv, (((s.pick e c).2.after calls).pick e' b).1 = ((s.after calls).pick e' b).1

/-- The policy of the camera has a pin that is not in the pool, so the camera gets another disk,
without a pin. -/
def FallsFromPin : Prop :=
  ∃ p i, s.policies.getForCamera c = some p ∧ p.balanceStrategy = .perCamera ∧ p.pin = some i ∧
    i ∉ e.pool.map Disk.id ∧ e.hasDisk = true

/-- The call sets the first pin of a policy that another camera is under as well. -/
def PinsShared (cams : List Nat) : Prop :=
  ∃ p, s.policies.getForCamera c = some p ∧ p.balanceStrategy = .perCamera ∧ p.pin = none ∧
    e.hasDisk = true ∧ ∃ b ∈ cams, b ≠ c ∧ s.policies.getForCamera b = some p

end Picks

section
variable {s t : Picks} {e : TurnEnv} {c b : Nat} {p q : StoragePolicy} {d : Disk} {cams : List Nat}

/-! ## Disks with room -/

theorem qualifies_of_mem_pool (h : d ∈ e.pool) : d.Qualifies e := by
  unfold TurnEnv.pool Disks.writePool at h
  rw [mem_orderBy] at h
  have hwritable : ∀ role : DiskRole,
      d ∈ (e.disks.getWritable [role]).filter (Disk.hasHeadroom e.headroom) →
      (d ∈ e.disks ∧ d.deletedAt = none ∧ d.enabled = true ∧ d.status = .online ∧
        e.headroom < d.usableFreeBytes) ∧ d.role = role := by
    intro role hd
    obtain ⟨hd, hroom⟩ := List.mem_filter.1 hd
    obtain ⟨hmem, hw⟩ := List.mem_filter.1 hd
    simp only [Disk.isWritable, Bool.and_eq_true, Option.isNone_iff_eq_none, decide_eq_true_iff,
      List.mem_singleton] at hw
    exact ⟨⟨hmem, hw.1.1.1, hw.1.1.2, hw.1.2, of_decide_eq_true hroom⟩, hw.2⟩
  split at h
  · next hempty =>
    obtain ⟨⟨h1, h2, h3, h4, h5⟩, hrole⟩ := hwritable .record h
    refine ⟨h1, h2, h3, h4, h5, .inr ⟨hrole, fun d' hd' hw => ?_⟩⟩
    rw [List.isEmpty_iff, List.filter_eq_nil_iff] at hempty
    have hno := hempty d' (List.mem_filter.2 ⟨hd', hw⟩)
    rw [Disk.hasHeadroom, decide_eq_true_iff] at hno
    exact not_lt.1 hno
  · obtain ⟨⟨h1, h2, h3, h4, h5⟩, hrole⟩ := hwritable .cache h
    exact ⟨h1, h2, h3, h4, h5, .inl hrole⟩

theorem mem_of_leastUsed {pool : List Disk} (h : leastUsed pool = some d) : d ∈ pool := by
  cases pool with
  | nil => cases h
  | cons a pool =>
    cases h
    have hfold : ∀ (l : List Disk) (a : Disk),
        l.foldl (fun best d => if best.weightedRoom < d.weightedRoom then d else best) a ∈
          a :: l := by
      intro l
      induction l with
      | nil => exact fun a => List.mem_cons_self
      | cons x l ih =>
        intro a
        rw [List.foldl_cons]
        rcases List.mem_cons.1 (ih (if a.weightedRoom < x.weightedRoom then x else a)) with h | h
        · rw [h]
          split
          · exact .tail _ (.head _)
          · exact .head _
        · exact .tail _ (.tail _ h)
    exact hfold pool a

theorem mem_of_pinnedDisk {pin : Option Nat} (h : e.pinnedDisk c pin = some d) : d ∈ e.pool := by
  rcases Option.or_eq_some_iff.1 h with h | ⟨-, h⟩
  · obtain ⟨i, -, hi⟩ := Option.bind_eq_some_iff.1 h
    exact List.mem_of_find?_eq_some hi
  · exact List.mem_of_getElem? h

/-- Every strategy answers a disk of the pool. -/
theorem Picks.mem_pool_of_pick (h : (s.pick e c).1 = some d) : d ∈ e.pool := by
  cases hp : s.policies.getForCamera c with
  | none =>
    rw [Picks.pick_fst_of_none hp] at h
    exact mem_of_leastUsed h
  | some p =>
    rw [Picks.pick_fst hp] at h
    split at h
    · exact mem_of_pinnedDisk h
    · exact List.mem_of_getElem? h
    · exact mem_of_leastUsed h

/-! ## Pins -/

theorem Picks.pick_perCamera (h : s.policies.getForCamera c = some p)
    (hper : p.balanceStrategy = .perCamera) : (s.pick e c).1 = e.pinnedDisk c p.pin := by
  rw [Picks.pick_fst h, hper]

theorem afterPick_of_pin {i : Nat} (h : p.pin = some i) : e.afterPick c p = p :=
  if_neg fun hall => by rw [h] at hall; cases hall.2.2

/-- A pin stays. -/
theorem Picks.getForCamera_after_of_pin {i : Nat} (h : s.policies.getForCamera c = some p)
    (hpin : p.pin = some i) (calls : List PickCall) :
    (s.after calls).policies.getForCamera c = some p := by
  induction calls generalizing s with
  | nil => exact h
  | cons k calls ih =>
    refine ih (s := (s.pick k.env k.camera).2) ?_
    rw [Picks.getForCamera_pick, h, Option.map_some, afterPick_of_pin hpin, ite_self]

/-- A pin in the pool is the disk. -/
theorem pinnedDisk_of_mem {i : Nat} (h : i ∈ e.pool.map Disk.id) :
    (e.pinnedDisk c (some i)).map Disk.id = some i := by
  obtain ⟨d, hd, hid⟩ := List.mem_map.1 h
  have hsome : (e.pool.find? fun d => d.id == i).isSome = true := by
    rw [List.find?_isSome]
    exact ⟨d, hd, by simp [hid]⟩
  obtain ⟨d', hd'⟩ := Option.isSome_iff_exists.1 hsome
  have hid' := List.find?_some hd'
  rw [beq_iff_eq] at hid'
  unfold TurnEnv.pinnedDisk
  rw [Option.bind_some, hd', Option.some_or, Option.map_some, hid']

/-- A pin outside the pool leaves the hash. -/
theorem pinnedDisk_of_not_mem {i : Nat} (h : i ∉ e.pool.map Disk.id) :
    e.pinnedDisk c (some i) = e.hashed c := by
  have hnone : (e.pool.find? fun d => d.id == i) = none := by
    rw [List.find?_eq_none]
    intro d hd hid
    exact h (List.mem_map.2 ⟨d, hd, by simpa using hid⟩)
  unfold TurnEnv.pinnedDisk
  rw [Option.bind_some, hnone, Option.none_or]

theorem hashed_isSome (h : e.hasDisk = true) : (e.hashed c).isSome = true := by
  have hlt : e.md5 c % e.pool.length < e.pool.length := Nat.mod_lt _ (length_pool_pos h)
  unfold TurnEnv.hashed
  rw [List.getElem?_eq_getElem hlt]
  rfl

theorem hasDisk_of_pick (h : (s.pick e c).1 = some d) : e.hasDisk = true := by
  rw [← Picks.pick_isSome e s c, h]
  rfl

/-! ## Two disks with room -/

/-- An online cache disk with room. -/
def TurnEnv.roomy (e : TurnEnv) (id : Nat) : Disk where
  id
  name := ""
  role := .cache
  enabled := true
  reservedFreeBytes := 0
  totalBytes := max e.headroom 0 + 1
  freeBytes := max e.headroom 0 + 1
  weight := 100
  status := .online
  lastSeenAt := none
  deletedAt := none

/-- A later call that finds just two disks with room. -/
def TurnEnv.withDisks (e : TurnEnv) {x y : Nat} (h : x < y) : TurnEnv :=
  { e with disks := ⟨[e.roomy x, e.roomy y], by simp [TurnEnv.roomy, h.ne]⟩ }

theorem pool_withDisks {x y : Nat} (h : x < y) :
    (e.withDisks h).pool = [e.roomy x, e.roomy y] := by
  have hwritable : ∀ id, (e.roomy id).isWritable [.cache] = true := fun id => rfl
  have hroom : ∀ id, (e.roomy id).hasHeadroom e.headroom = true := fun id => by
    rw [Disk.hasHeadroom, decide_eq_true_iff]
    show e.headroom < max 0 (max e.headroom 0 + 1 - 0)
    omega
  have hpool : ((e.withDisks h).disks.getWritable [.cache]).filter
      (Disk.hasHeadroom (e.withDisks h).headroom) = [e.roomy x, e.roomy y] := by
    show ([e.roomy x, e.roomy y].filter (Disk.isWritable [.cache])).filter
      (Disk.hasHeadroom e.headroom) = _
    simp [hwritable, hroom]
  unfold TurnEnv.pool Disks.writePool
  rw [hpool]
  dsimp only
  rw [if_neg (by simp)]
  exact List.Pairwise.insertionSort_eq (by simpa [TurnEnv.roomy] using h.le)

theorem ids_withDisks {x y : Nat} (h : x < y) : (e.withDisks h).pool.map Disk.id = [x, y] := by
  rw [pool_withDisks]
  rfl

/-- Of two disks the hash can lead to the other one. -/
theorem exists_hashed_ne (e : TurnEnv) {x : Nat} (hx : x ≠ 0) (b : Nat) : ∃ (e' : TurnEnv),
    x ∈ e'.pool.map Disk.id ∧ (e'.hashed b).map Disk.id ≠ some x := by
  rcases Nat.mod_two_eq_zero_or_one (e.md5 b) with hmod | hmod
  · have hlt : x - 1 < x := by omega
    refine ⟨e.withDisks hlt, by rw [ids_withDisks]; simp, ?_⟩
    unfold TurnEnv.hashed
    rw [pool_withDisks, List.length_cons, List.length_singleton,
      show (e.withDisks hlt).md5 b % (1 + 1) = 0 from hmod]
    show some (x - 1) ≠ some x
    simp [hlt.ne]
  · have hlt : x < x + 1 := x.lt_succ_self
    refine ⟨e.withDisks hlt, by rw [ids_withDisks]; simp, ?_⟩
    unfold TurnEnv.hashed
    rw [pool_withDisks, List.length_cons, List.length_singleton,
      show (e.withDisks hlt).md5 b % (1 + 1) = 1 from hmod]
    show some (x + 1) ≠ some x
    simp

/-! ## Keeping a disk -/

/-- The pin of a policy after a call that answers a disk under it: the disk, unless the call falls
from a pin. -/
theorem pin_afterPick_of_pick (hid : ∀ d ∈ e.disks, d.id ≠ 0)
    (hp : s.policies.getForCamera c = some p) (hper : p.balanceStrategy = .perCamera)
    (hd : (s.pick e c).1 = some d) (hfall : ¬ s.FallsFromPin e c) :
    (e.afterPick c p).pin = some d.id := by
  have hdisk := hasDisk_of_pick hd
  rw [Picks.pick_perCamera hp hper] at hd
  rw [Recorder.pin_afterPick hdisk, if_pos hper]
  cases hpin : p.pin with
  | some i =>
    have hmem : i ∈ e.pool.map Disk.id := by
      by_contra hno
      exact hfall ⟨p, i, hp, hper, hpin, hno, hdisk⟩
    have hsome := pinnedDisk_of_mem (c := c) hmem
    rw [hpin] at hd
    rw [hd, Option.map_some] at hsome
    rw [Option.some_or, hsome]
  | none =>
    have hhash : e.hashed c = some d := by
      rw [hpin] at hd
      exact hd
    have hne : d.id ≠ 0 := hid d (qualifies_of_mem_pool (List.mem_of_getElem? hhash)).mem
    rw [Option.none_or, hhash, Option.map_some]
    simp [Option.filter, hne]

/-- **A camera keeps its disk exactly when its first call does not fall from a pin.** -/
theorem Picks.keeps_iff (hid : ∀ d ∈ e.disks, d.id ≠ 0) :
    s.Keeps e c ↔ ¬ s.FallsFromPin e c := by
  constructor
  · rintro h ⟨p, i, hp, hper, hpin, hno, hdisk⟩
    obtain ⟨d, hd⟩ := Option.isSome_iff_exists.1 (hashed_isSome (c := c) hdisk)
    have hpick : (s.pick e c).1 = some d := by
      rw [pick_perCamera hp hper, hpin, pinnedDisk_of_not_mem hno, hd]
    have hne : i ≠ d.id := fun heq =>
      hno (heq ▸ List.mem_map_of_mem (List.mem_of_getElem? hd))
    have hafter : (s.pick e c).2.policies.getForCamera c = some p := by
      rw [getForCamera_pick, hp, Option.map_some, afterPick_of_pin hpin, ite_self]
    -- the disk of the pin comes back
    have hback : ∀ e' : TurnEnv, i ∈ e'.pool.map Disk.id → d.id ∈ e'.pool.map Disk.id → False := by
      intro e' hi hd'
      have hkeep := h p hp hper d hpick [] (fun _ hk => by cases hk) e' hd'
      rw [show (s.pick e c).2.after [] = (s.pick e c).2 from rfl, pick_perCamera hafter hper, hpin,
        pinnedDisk_of_mem hi] at hkeep
      exact hne (Option.some_inj.1 hkeep)
    rcases lt_or_gt_of_ne hne with hlt | hlt
    · exact hback (e.withDisks hlt) (by rw [ids_withDisks]; simp) (by rw [ids_withDisks]; simp)
    · exact hback (e.withDisks hlt) (by rw [ids_withDisks]; simp) (by rw [ids_withDisks]; simp)
  · intro hfall p hp hper d hd calls _ e' hd'
    have hpin := pin_afterPick_of_pick hid hp hper hd hfall
    have hafter : (s.pick e c).2.policies.getForCamera c = some (e.afterPick c p) := by
      rw [getForCamera_pick, hp, Option.map_some, if_pos rfl]
    have hper' : (e.afterPick c p).balanceStrategy = .perCamera := by
      rw [TurnEnv.afterPick_eq]
      exact hper
    rw [pick_perCamera (getForCamera_after_of_pin hafter hpin calls) hper', hpin]
    exact pinnedDisk_of_mem hd'

/-! ## Calls for other cameras -/

/-- Two states that the same calls lead to the same policies of the cameras in `B`: they agree on
these, and no other camera is under one of them. -/
structure Picks.Agree (B : Nat → Prop) (cams : List Nat) (s t : Picks) : Prop where
  same : ∀ b, B b → s.policies.getForCamera b = t.policies.getForCamera b
  apart : ∀ b, B b → ∀ x ∈ cams, ¬ B x → ∀ q q', s.policies.getForCamera b = some q →
    s.policies.getForCamera x = some q' → q.id ≠ q'.id
  apart' : ∀ b, B b → ∀ x ∈ cams, ¬ B x → ∀ q q', t.policies.getForCamera b = some q →
    t.policies.getForCamera x = some q' → q.id ≠ q'.id

/-- A call changes no row that is apart from the camera's. -/
theorem Picks.getForCamera_pick_of_apart (x : Nat) (h : ∀ q q', s.policies.getForCamera b = some q →
    s.policies.getForCamera x = some q' → q.id ≠ q'.id) :
    (s.pick e x).2.policies.getForCamera b = s.policies.getForCamera b := by
  rw [getForCamera_pick]
  cases hb : s.policies.getForCamera b with
  | none => rfl
  | some q =>
    rw [Option.map_some, if_neg fun hx => h q q hb hx rfl]

theorem Picks.id_of_pick {x : Nat} (h : (s.pick e x).2.policies.getForCamera b = some q) :
    ∃ q₀, s.policies.getForCamera b = some q₀ ∧ q₀.id = q.id := by
  rw [getForCamera_pick] at h
  obtain ⟨q₀, hq₀, rfl⟩ := Option.map_eq_some_iff.1 h
  refine ⟨q₀, hq₀, ?_⟩
  split
  · rw [TurnEnv.afterPick_eq]
  · rfl

theorem Picks.Agree.pick {B : Nat → Prop} (h : Agree B cams s t) {x : Nat} (hx : x ∈ cams) :
    Agree B cams (s.pick e x).2 (t.pick e x).2 := by
  have hkeep : ∀ u : Picks, (∀ b, B b → ∀ x ∈ cams, ¬ B x → ∀ q q',
      u.policies.getForCamera b = some q → u.policies.getForCamera x = some q' → q.id ≠ q'.id) →
      ∀ b, B b → ∀ y ∈ cams, ¬ B y → ∀ q q', (u.pick e x).2.policies.getForCamera b = some q →
        (u.pick e x).2.policies.getForCamera y = some q' → q.id ≠ q'.id := by
    intro u hu b hb y hy hny q q' hq hq'
    obtain ⟨q₀, hq₀, hid⟩ := id_of_pick hq
    obtain ⟨q₀', hq₀', hid'⟩ := id_of_pick hq'
    rw [← hid, ← hid']
    exact hu b hb y hy hny q₀ q₀' hq₀ hq₀'
  refine ⟨fun b hb => ?_, hkeep s h.apart, hkeep t h.apart'⟩
  by_cases hBx : B x
  · rw [getForCamera_pick, getForCamera_pick, h.same b hb, h.same x hBx]
  · rw [getForCamera_pick_of_apart x (h.apart b hb x hx hBx),
      getForCamera_pick_of_apart x (h.apart' b hb x hx hBx), h.same b hb]

theorem Picks.Agree.after {B : Nat → Prop} (h : Agree B cams s t) {calls : List PickCall}
    (hcalls : ∀ k ∈ calls, k.camera ∈ cams) : Agree B cams (s.after calls) (t.after calls) := by
  induction calls generalizing s t with
  | nil => exact h
  | cons k calls ih => exact ih (h.pick (hcalls k (.head _))) fun k' hk' => hcalls k' (.tail _ hk')

/-- Outside a round robin the disk depends on the policy of the camera only. -/
theorem Picks.pick_congr (h : s.policies.getForCamera b = t.policies.getForCamera b)
    (hrobin : ∀ q, t.policies.getForCamera b = some q → q.balanceStrategy ≠ .roundRobin) :
    (s.pick e b).1 = (t.pick e b).1 := by
  cases hq : t.policies.getForCamera b with
  | none => rw [pick_fst_of_none hq, pick_fst_of_none (h.trans hq)]
  | some q =>
    rw [pick_fst hq, pick_fst (h.trans hq)]
    have hne := hrobin q hq
    split
    · rfl
    · next hrr => exact absurd hrr hne
    · rfl

/-- The calls keep the strategy of a camera. -/
theorem Picks.strategy_after {calls : List PickCall} {f : BalanceStrategy → Prop}
    (h : ∀ q, s.policies.getForCamera b = some q → f q.balanceStrategy) :
    ∀ q, (s.after calls).policies.getForCamera b = some q → f q.balanceStrategy := by
  induction calls generalizing s with
  | nil => exact h
  | cons k calls ih =>
    refine ih (s := (s.pick k.env k.camera).2) fun q hq => ?_
    rw [getForCamera_pick] at hq
    obtain ⟨q₀, hq₀, rfl⟩ := Option.map_eq_some_iff.1 hq
    have := h q₀ hq₀
    split
    · rw [TurnEnv.afterPick_eq]
      exact this
    · exact this

/-- **The disks of the other cameras do not depend on a call exactly when it does not set the first
pin of a policy they share.** -/
theorem Picks.independent_iff (hid : ∀ d ∈ e.disks, d.id ≠ 0) :
    s.Independent e c cams ↔ ¬ s.PinsShared e c cams := by
  constructor
  · rintro h ⟨p, hp, hper, hpin, hdisk, b, hb, hne, hshare⟩
    obtain ⟨d, hd⟩ := Option.isSome_iff_exists.1 (hashed_isSome (c := c) hdisk)
    have hd0 : d.id ≠ 0 := hid d (qualifies_of_mem_pool (List.mem_of_getElem? hd)).mem
    have hset : (e.afterPick c p).pin = some d.id := by
      rw [Recorder.pin_afterPick hdisk, hpin, if_pos hper, Option.none_or, hd, Option.map_some]
      simp [Option.filter, hd0]
    have hper' : (e.afterPick c p).balanceStrategy = .perCamera := by
      rw [TurnEnv.afterPick_eq]
      exact hper
    have hafter : (s.pick e c).2.policies.getForCamera b = some (e.afterPick c p) := by
      rw [getForCamera_pick, hshare, Option.map_some, if_pos hp]
    obtain ⟨e', hmem, hother⟩ := exists_hashed_ne e hd0 b
    have hsame := h b hb hne (fun q hq => by
      rw [hshare] at hq
      cases hq
      rw [hper]
      decide) [] (fun _ hk => by cases hk) e'
    rw [show (s.pick e c).2.after [] = (s.pick e c).2 from rfl,
      show s.after [] = s from rfl, pick_perCamera hafter hper', pick_perCamera hshare hper, hset,
      hpin] at hsame
    have := pinnedDisk_of_mem (c := b) hmem
    rw [hsame] at this
    exact hother this
  · intro hshared b hb hne hrobin calls hcalls e'
    refine pick_congr ?_ (strategy_after (f := fun x => x ≠ .roundRobin) hrobin)
    by_cases hset : ∃ p, s.policies.getForCamera c = some p ∧ p.balanceStrategy = .perCamera ∧
        p.pin = none ∧ e.hasDisk = true
    · -- the call sets a pin, in a policy that no other camera is under
      obtain ⟨p, hp, hper, hpin, hdisk⟩ := hset
      have hapart : ∀ b, (b ∈ cams ∧ b ≠ c) → ∀ x ∈ cams, ¬ (x ∈ cams ∧ x ≠ c) → ∀ q q',
          s.policies.getForCamera b = some q → s.policies.getForCamera x = some q' →
          q.id ≠ q'.id := by
        intro b hb x hx hnx q q' hq hq' heq
        obtain rfl : x = c := by
          by_contra hxc
          exact hnx ⟨hx, hxc⟩
        have hrow := Table.eq_of_key_eq (StoragePolicies.mem_of_getForCamera hq)
          (StoragePolicies.mem_of_getForCamera hq') heq
        rw [hp] at hq'
        cases hq'
        exact hshared ⟨p, hp, hper, hpin, hdisk, b, hb.1, hb.2, hrow ▸ hq⟩
      have hagree : Agree (fun x => x ∈ cams ∧ x ≠ c) cams (s.pick e c).2 s := by
        refine ⟨fun b hb => getForCamera_pick_of_apart c fun q q' hq hq' heq => ?_,
          fun b hb x hx hnx q q' hq hq' => ?_, hapart⟩
        · have hrow := Table.eq_of_key_eq (StoragePolicies.mem_of_getForCamera hq)
            (StoragePolicies.mem_of_getForCamera hq') heq
          rw [hp] at hq'
          cases hq'
          exact hshared ⟨p, hp, hper, hpin, hdisk, b, hb.1, hb.2, hrow ▸ hq⟩
        · obtain ⟨q₀, hq₀, hid₀⟩ := id_of_pick hq
          obtain ⟨q₀', hq₀', hid₀'⟩ := id_of_pick hq'
          rw [← hid₀, ← hid₀']
          exact hapart b hb x hx hnx q₀ q₀' hq₀ hq₀'
      exact (hagree.after hcalls).same b ⟨hb, hne⟩
    · -- the call leaves every policy as it is
      have hagree : Agree (fun _ => True) cams (s.pick e c).2 s := by
        refine ⟨fun b _ => ?_, fun _ _ _ _ hn => absurd trivial hn,
          fun _ _ _ _ hn => absurd trivial hn⟩
        rw [getForCamera_pick]
        cases hq : s.policies.getForCamera b with
        | none => rfl
        | some q =>
          rw [Option.map_some]
          split
          · next hc =>
            rw [TurnEnv.afterPick, if_neg fun hall => hset ⟨q, hc, hall.2.1, hall.2.2, hall.1⟩]
          · rfl
      exact (hagree.after hcalls).same b trivial

end

/-- **The choice of a disk.** For every pool and every table of policies, the disk that a camera
gets has room; and the camera keeps it while it qualifies, and no other camera's disk depends on the
call, if and only if the call does not fall from a pin and does not set the first pin of a policy
that another of the cameras shares. -/
theorem disk_choice_iff (s : Picks) (e : TurnEnv) (c : Nat) (cams : List Nat)
    (hid : ∀ d ∈ e.disks, d.id ≠ 0) :
    (∀ d, (s.pick e c).1 = some d → d.Qualifies e) ∧
      (s.Keeps e c ∧ s.Independent e c cams ↔
        ¬ s.FallsFromPin e c ∧ ¬ s.PinsShared e c cams) :=
  ⟨fun _ hd => qualifies_of_mem_pool (Picks.mem_pool_of_pick hd),
    and_congr (Picks.keeps_iff hid) (Picks.independent_iff hid)⟩

namespace ChoiceFixture

/-- A global policy that gives each camera a disk of its own. -/
def policy (pin : Option Nat) : StoragePolicy :=
  { id := 1, cameraId := none, segmentSeconds := 60, container := "mp4",
    recordMode := .continuous, balanceStrategy := .perCamera, pinnedDiskId := pin,
    retentionDays := none, retentionMaxBytes := none, overCapacityPolicy := .deleteOldest,
    cacheBufferSeconds := 60, eventRetentionDays := none, deletedAt := none }

def picks (pin : Option Nat) : Picks := ⟨⟨[policy pin], by simp⟩, 0⟩

def disk (id : Nat) (status : DiskStatus) : Disk :=
  { id, name := "d", role := .record, enabled := true, reservedFreeBytes := 0, totalBytes := 900,
    freeBytes := 500, weight := 100, status, lastSeenAt := none, deletedAt := none }

/-- Two record disks, the second one perhaps offline; the hash of a camera is its id. -/
def env (status : DiskStatus) : TurnEnv where
  segment := 0
  check := 0
  counted := 0
  gate := 0
  start := 0
  utc := 0
  index := none
  flushes := true
  lost := fun _ => false
  saves := fun _ => true
  reads := true
  disks := ⟨[disk 1 .online, disk 2 status], by simp [disk]⟩
  headroom := 100
  md5 := id
  redis := true
  picks := true
  makedirs := true
  log := none
  spawn := none

end ChoiceFixture

/-- A camera under a pin that is in the pool: it gets that disk, and keeps it. -/
theorem disk_choice_fixture :
    ((ChoiceFixture.picks (some 2)).pick (ChoiceFixture.env .online) 10).1 =
        some (ChoiceFixture.disk 2 .online) ∧
      (ChoiceFixture.picks (some 2)).Keeps (ChoiceFixture.env .online) 10 ∧
      (ChoiceFixture.picks (some 2)).Independent (ChoiceFixture.env .online) 10 [10, 11] := by
  have hspec := disk_choice_iff (ChoiceFixture.picks (some 2)) (ChoiceFixture.env .online) 10
    [10, 11] (by decide)
  refine ⟨by decide, hspec.2.2 ⟨?_, ?_⟩⟩
  · rintro ⟨p, i, hp, -, hpin, hno, -⟩
    cases hp
    cases hpin
    exact hno (by decide)
  · rintro ⟨p, hp, -, hpin, -⟩
    cases hp
    cases hpin

/-- Under a global policy without a pin, the call for camera 10 moves camera 11 to the first disk;
and a camera whose pin was offline at its first call loses its first disk when the pin is back. -/
theorem disks_not_kept_apart :
    ¬ (ChoiceFixture.picks none).Independent (ChoiceFixture.env .online) 10 [10, 11] ∧
      ¬ (ChoiceFixture.picks (some 2)).Keeps (ChoiceFixture.env .offline) 10 := by
  constructor
  · intro h
    have hsame := h 11 (by decide) (by decide) (by decide) [] (by decide)
      (ChoiceFixture.env .online)
    revert hsame
    decide
  · intro h
    have hkeep := h (ChoiceFixture.policy (some 2)) rfl rfl (ChoiceFixture.disk 1 .online)
      (by decide) [] (by decide) (ChoiceFixture.env .online) (by decide)
    revert hkeep
    decide

end AeroXProtect
