import AeroXProtect.Storage.Policies
import AeroXProtect.Storage.Progress

/-!
# The order of the capacity pass

What the pass under `delete_oldest` deletes of a camera, and in which order (`CapacityOrder`): the
oldest segments of each class, the protected ones only behind all others, and none that is not
needed to get down to the limit. Repeated, the pass comes to rest with the camera within its limit
(`Engine.CapReached`). The eviction loop works on the 5000 oldest segments of the camera, so it may
reach for the protected ones among them while unprotected ones lie behind them
(`Engine.ReachesPast`). `capacity_pass_iff` says that this, or a limit that no deletion can reach,
is what the order and the limit fail for.
-/

open Lib

namespace AeroXProtect

namespace Engine

variable (s : Engine)

/-- The tables after the capacity pass. -/
def capped (env : Env) : Engine := (capacityPass env s.begin).engine

/-- The tables after `n` capacity passes. -/
def cap (env : Nat → Env) : Nat → Engine
  | 0 => s
  | n + 1 => (cap env n).capped (env n)

/-- The pass leaves the camera as it is. -/
def CapSettled (env : Env) (camId : Nat) : Prop :=
  (s.capped env).segments.ofCamera camId = s.segments.ofCamera camId

/-- Repeated passes come to rest, and at rest the camera is within its limit. -/
def CapReached (env : Nat → Env) (camId : Nat) (m : Int) : Prop :=
  (∃ n, (s.cap env n).CapSettled (env n) camId) ∧
    ∀ n, (s.cap env n).CapSettled (env n) camId →
      (s.cap env n).segments.totalSizeForCamera camId ≤ m

/-- The deletions `victims` of a camera with the limit `m`: within each class they are in the order
of the starts, and what stays of the class is not older; a protected segment goes when every
unprotected one is gone; and before each deletion the camera is still over its limit. -/
structure CapacityOrder (env : Env) (camId : Nat) (m : Int) (victims : List Segment) : Prop where
  sorted : ∀ b, (victims.filter fun g => s.isProtected env.now g == b).Pairwise
    fun g h => g.startTs ≤ h.startTs
  oldest : ∀ v ∈ victims, ∀ g ∈ s.segments.ofCamera camId, g ∉ victims →
    s.isProtected env.now g = s.isProtected env.now v → v.startTs ≤ g.startTs
  unprotectedFirst : ∀ pre v post, victims = pre ++ v :: post → s.isProtected env.now v = true →
    ∀ g ∈ s.segments.ofCamera camId, s.isProtected env.now g = false → g ∈ pre
  needed : ∀ pre v post, victims = pre ++ v :: post →
    m < (s.deleteSegments pre).segments.totalSizeForCamera camId

/-- The segments of a camera behind the window of the eviction loop. -/
def behindWindow (camId : Nat) : List Segment :=
  (orderBy Segment.startTs (s.segments.ofCamera camId)).drop 5000

/-- The unprotected segments of the window are not enough, the window has protected ones, and there
are unprotected ones behind it. -/
def ReachesPast (env : Env) (camId : Nat) (m : Int) : Prop :=
  m < s.segments.totalSizeForCamera camId - total Segment.size
      ((s.segments.oldestForCamera camId 5000).filter fun g => !s.isProtected env.now g) ∧
    (∃ g ∈ s.segments.oldestForCamera camId 5000, s.isProtected env.now g = true) ∧
    ∃ g ∈ s.behindWindow camId, s.isProtected env.now g = false

end Engine

section
variable {s : Engine} {env : Env} {camId : Nat} {pol : StoragePolicy} {m : Int}

/-! ## The window -/

theorem Engine.window_append : s.segments.oldestForCamera camId 5000 ++ s.behindWindow camId =
    orderBy Segment.startTs (s.segments.ofCamera camId) :=
  List.take_append_drop _ _

theorem Engine.mem_window_or {g : Segment} (hg : g ∈ s.segments.ofCamera camId) :
    g ∈ s.segments.oldestForCamera camId 5000 ∨ g ∈ s.behindWindow camId := by
  rw [← List.mem_append, window_append, mem_orderBy]
  exact hg

/-- The segments that satisfy `p` are in order, those behind the window after those in it. -/
theorem Engine.pairwise_window (s : Engine) (camId : Nat) (p : Segment → Bool) :
    ((s.segments.oldestForCamera camId 5000).filter p ++ (s.behindWindow camId).filter p).Pairwise
      fun g h => g.startTs ≤ h.startTs := by
  rw [← List.filter_append, window_append]
  exact (List.pairwise_insertionSort _ _).sublist List.filter_sublist

/-- What a round of the eviction loop takes is in order, and what it leaves of what it may take is
not older. -/
theorem Engine.drain_window (skip : Segment → Bool) (need : Int) :
    ((drain Segment.size skip need (s.segments.oldestForCamera camId 5000)).Pairwise
      fun g h => g.startTs ≤ h.startTs) ∧
    ∀ v ∈ drain Segment.size skip need (s.segments.oldestForCamera camId 5000),
      ∀ g ∈ s.segments.ofCamera camId, skip g = false →
      g ∉ drain Segment.size skip need (s.segments.oldestForCamera camId 5000) →
      v.startTs ≤ g.startTs := by
  have hord := s.pairwise_window camId fun g => !skip g
  obtain ⟨k, hk⟩ : ∃ k, drain Segment.size skip need (s.segments.oldestForCamera camId 5000) =
      ((s.segments.oldestForCamera camId 5000).filter fun g => !skip g).take k :=
    exists_drain_eq_take
  rw [hk]
  refine ⟨(List.pairwise_append.1 hord).1.sublist (List.take_sublist _ _),
    fun v hv g hg hskip hno => ?_⟩
  rw [← List.take_append_drop k (List.filter _ (s.segments.oldestForCamera camId 5000)),
    List.append_assoc] at hord
  refine (List.pairwise_append.1 hord).2.2 v hv g ?_
  rcases mem_window_or hg with hg | hg
  · have hg' : g ∈ (s.segments.oldestForCamera camId 5000).filter fun y => !skip y :=
      List.mem_filter.2 ⟨hg, by rw [hskip]; rfl⟩
    rw [← List.take_append_drop k (List.filter _ _)] at hg'
    exact List.mem_append_left _ ((List.mem_append.1 hg').resolve_left hno)
  · exact List.mem_append_right _ (List.mem_filter.2 ⟨hg, by rw [hskip]; rfl⟩)

/-! ## The deletions for one camera -/

theorem isProtected_of_mem_unprotectedVictims {g : Segment}
    (h : g ∈ s.unprotectedVictims env camId m) : s.isProtected env.now g = false :=
  (mem_of_mem_drain h).2

theorem isProtected_of_mem_protectedVictims {g : Segment}
    (h : g ∈ s.protectedVictims env camId m) : s.isProtected env.now g = true := by
  simpa using (mem_of_mem_drain h).2

/-- The deletions of each class. -/
theorem capacityVictims_filter (b : Bool) :
    (s.capacityVictims env camId m).filter (fun g => s.isProtected env.now g == b) =
      if b then s.protectedVictims env camId m else s.unprotectedVictims env camId m := by
  have hun : ∀ g ∈ s.unprotectedVictims env camId m, s.isProtected env.now g = false :=
    fun g => isProtected_of_mem_unprotectedVictims
  have hprot : ∀ g ∈ s.protectedVictims env camId m, s.isProtected env.now g = true :=
    fun g => isProtected_of_mem_protectedVictims
  rw [capacityVictims_eq, List.filter_append]
  cases b with
  | false =>
    rw [List.filter_eq_self.2 fun g hg => by rw [hun g hg]; rfl,
      List.filter_eq_nil_iff.2 fun g hg => by rw [hprot g hg]; decide, List.append_nil]
    rfl
  | true =>
    rw [List.filter_eq_nil_iff.2 fun g hg => by rw [hun g hg]; decide,
      List.filter_eq_self.2 fun g hg => by rw [hprot g hg]; rfl, List.nil_append]
    rfl

/-- What is taken of a class is in order, and older than what is left of it. -/
theorem capacityVictims_oldest :
    (∀ b, ((s.capacityVictims env camId m).filter fun g => s.isProtected env.now g == b).Pairwise
      fun g h => g.startTs ≤ h.startTs) ∧
    ∀ v ∈ s.capacityVictims env camId m, ∀ g ∈ s.segments.ofCamera camId,
      g ∉ s.capacityVictims env camId m →
      s.isProtected env.now g = s.isProtected env.now v → v.startTs ≤ g.startTs := by
  constructor
  · intro b
    rw [capacityVictims_filter]
    cases b with
    | false => exact (Engine.drain_window _ _).1
    | true => exact (Engine.drain_window _ _).1
  · intro v hv g hg hno hclass
    rw [capacityVictims_eq, List.mem_append] at hno
    rw [capacityVictims_eq] at hv
    rcases List.mem_append.1 hv with hv | hv
    · rw [isProtected_of_mem_unprotectedVictims hv] at hclass
      exact (Engine.drain_window _ _).2 v hv g hg hclass fun h => hno (.inl h)
    · rw [isProtected_of_mem_protectedVictims hv] at hclass
      exact (Engine.drain_window _ _).2 v hv g hg (by rw [hclass]; rfl) fun h => hno (.inr h)

theorem nodup_capacityVictims : (s.capacityVictims env camId m).Nodup := by
  have hnd := s.segments.nodup_oldestForCamera camId 5000
  rw [capacityVictims_eq, List.nodup_append]
  refine ⟨(hnd.filter _).sublist drain_sublist, (hnd.filter _).sublist drain_sublist, ?_⟩
  rintro g hg g' hg' rfl
  have := isProtected_of_mem_protectedVictims hg'
  rw [isProtected_of_mem_unprotectedVictims hg] at this
  cases this

/-- The bytes of a camera after the first of its deletions. -/
theorem totalSize_deleteSegments {pre post : List Segment}
    (h : s.capacityVictims env camId m = pre ++ post) :
    (s.deleteSegments pre).segments.totalSizeForCamera camId =
      s.segments.totalSizeForCamera camId - total Segment.size pre := by
  have hnd : (s.capacityVictims env camId m).Nodup := nodup_capacityVictims
  rw [h, List.nodup_append] at hnd
  refine Engine.total_deleteSegments_filter hnd.1 fun g hg => ?_
  have hv : g ∈ s.capacityVictims env camId m := by
    rw [h]
    exact List.mem_append_left _ hg
  obtain ⟨hmem, hcam⟩ :=
    Segments.mem_of_mem_oldestForCamera (mem_window_of_mem_capacityVictims hv)
  exact ⟨hmem, decide_eq_true hcam⟩

/-- Before each deletion the running count, which is what is left of the camera, is over the
limit. -/
theorem capacityVictims_needed {pre post : List Segment} {v : Segment}
    (h : s.capacityVictims env camId m = pre ++ v :: post) :
    m < (s.deleteSegments pre).segments.totalSizeForCamera camId := by
  rw [totalSize_deleteSegments h]
  rw [capacityVictims_eq, List.append_eq_append_iff] at h
  rcases h with ⟨pre', rfl, h⟩ | ⟨post', h, h'⟩
  · have := total_lt_of_drain_eq h
    rw [total_append]
    omega
  · cases post' with
    | nil =>
      have hneed := total_lt_of_drain_eq (h'.symm.trans (List.nil_append _).symm)
      rw [List.append_nil] at h
      rw [total_nil, h] at hneed
      omega
    | cons w post' =>
      have hneed := total_lt_of_drain_eq h
      omega

/-- A protected segment is deleted only when the unprotected ones of the window are gone. -/
theorem unprotectedVictims_eq {pre post : List Segment} {v : Segment}
    (h : s.capacityVictims env camId m = pre ++ v :: post)
    (hv : s.isProtected env.now v = true) :
    s.unprotectedVictims env camId m =
        (s.segments.oldestForCamera camId 5000).filter (fun g => !s.isProtected env.now g) ∧
      ∃ pre', pre = s.unprotectedVictims env camId m ++ pre' := by
  have hfirst : ∃ pre', pre = s.unprotectedVictims env camId m ++ pre' ∧
      s.protectedVictims env camId m = pre' ++ v :: post := by
    rw [capacityVictims_eq, List.append_eq_append_iff] at h
    rcases h with ⟨pre', hpre, h⟩ | ⟨post', hun, h'⟩
    · exact ⟨pre', hpre, h⟩
    · cases post' with
      | nil => exact ⟨[], by rw [List.append_nil, hun, List.append_nil], h'.symm⟩
      | cons w post' =>
        rw [List.cons_append, List.cons.injEq] at h'
        have hw : w ∈ s.unprotectedVictims env camId m := by
          rw [hun]
          simp
        have hunprot := isProtected_of_mem_unprotectedVictims hw
        rw [← h'.1, hv] at hunprot
        cases hunprot
  obtain ⟨pre', hpre, h⟩ := hfirst
  refine ⟨?_, pre', hpre⟩
  have hneed := total_lt_of_drain_eq h
  have hpos := total_nonneg Segment.size_nonneg pre'
  unfold Engine.unprotectedVictims at hneed ⊢
  exact drain_eq_filter_of_lt (by omega)

/-- **The order of the deletions for a camera over its limit** breaks exactly when the eviction
loop reaches past its window. -/
theorem capacityOrder_iff :
    s.CapacityOrder env camId m (s.capacityVictims env camId m) ↔ ¬ s.ReachesPast env camId m := by
  constructor
  · rintro h ⟨hlt, ⟨p, hp, hprot⟩, g, hg, hun⟩
    -- the loop deletes a protected segment
    have hne : s.protectedVictims env camId m ≠ [] := by
      have hle : total Segment.size (s.unprotectedVictims env camId m) ≤ _ :=
        total_le_of_sublist Segment.size_nonneg drain_sublist
      unfold Engine.protectedVictims
      rw [Ne, drain_eq_nil_iff (by omega)]
      intro hall
      have := hall p hp
      rw [hprot] at this
      cases this
    obtain ⟨v, post, hv⟩ := List.exists_cons_of_ne_nil hne
    have hvict : s.capacityVictims env camId m =
        s.unprotectedVictims env camId m ++ v :: post := by rw [capacityVictims_eq, hv]
    have hvprot : s.isProtected env.now v = true :=
      isProtected_of_mem_protectedVictims (hv ▸ List.mem_cons_self)
    have hgcam : g ∈ s.segments.ofCamera camId :=
      (mem_orderBy (f := Segment.startTs)).1 (List.mem_of_mem_drop hg)
    -- the unprotected segment behind the window is not among the deletions
    have hgwin := (mem_of_mem_drain (h.unprotectedFirst _ v post hvict hvprot g hgcam hun)).1
    have hnd : (orderBy Segment.startTs (s.segments.ofCamera camId)).Nodup :=
      s.segments.nodup_orderBy _ _
    rw [← Engine.window_append, List.nodup_append] at hnd
    exact hnd.2.2 g hgwin g hg rfl
  · intro h
    refine ⟨capacityVictims_oldest.1, capacityVictims_oldest.2, ?_,
      fun pre v post hvict => capacityVictims_needed hvict⟩
    intro pre v post hvict hv g hg hun
    obtain ⟨hall, pre', hpre⟩ := unprotectedVictims_eq hvict hv
    have hneed := capacityVictims_needed hvict
    have hvin : v ∈ s.capacityVictims env camId m := by
      rw [hvict]
      simp
    have hvmem := mem_window_of_mem_capacityVictims hvin
    have hgwin : g ∈ s.segments.oldestForCamera camId 5000 := by
      refine (Engine.mem_window_or hg).resolve_right fun hbehind =>
        h ⟨?_, ⟨v, hvmem, hv⟩, g, hbehind, hun⟩
      rw [totalSize_deleteSegments hvict, hpre, hall, total_append] at hneed
      have := total_nonneg Segment.size_nonneg pre'
      omega
    rw [hpre, hall]
    exact List.mem_append_left _ (List.mem_filter.2 ⟨hgwin, by rw [hun]; rfl⟩)

/-! ## Repeated passes -/

/-- A step of the pass leaves the cameras, and the policy of each camera but the one it stops. -/
theorem capacityCamera_policies {x : Exec} {a : Nat × StoragePolicy}
    (h : camId = a.1 → a.2.overCapacityPolicy = .deleteOldest) :
    (capacityCamera env x a).engine.cameras = x.engine.cameras ∧
      (capacityCamera env x a).engine.policies.getForCamera camId =
        x.engine.policies.getForCamera camId := by
  unfold capacityCamera
  cases a.2.retentionMaxBytes with
  | none => exact ⟨rfl, rfl⟩
  | some m =>
    dsimp only
    split
    · exact ⟨rfl, rfl⟩
    · cases hp : a.2.overCapacityPolicy with
      | deleteOldest =>
        refine ⟨Engine.deleteSegments_cameras, ?_⟩
        exact congrArg (StoragePolicies.getForCamera · camId) Engine.deleteSegments_policies
      | stopRecording =>
        obtain ⟨row, hw, -⟩ := x.engine.wrote_stopRecording a.1 a.2
        refine ⟨rfl, hw.getForCamera_ne fun hid => ?_⟩
        rw [h hid] at hp
        cases hp
      | warnOnly => exact ⟨rfl, rfl⟩

/-- The pass leaves the cameras, and the policy of a camera that it does not stop. -/
theorem mem_effectivePolicies_capped (h : (camId, pol) ∈ s.effectivePolicies)
    (hover : pol.overCapacityPolicy = .deleteOldest) :
    (camId, pol) ∈ (s.capped env).effectivePolicies := by
  have hkeep : ∀ (l : List (Nat × StoragePolicy)) (x : Exec),
      (∀ q, (camId, q) ∈ l → q.overCapacityPolicy = .deleteOldest) →
      (l.foldl (capacityCamera env) x).engine.cameras = x.engine.cameras ∧
        (l.foldl (capacityCamera env) x).engine.policies.getForCamera camId =
          x.engine.policies.getForCamera camId := by
    intro l
    induction l with
    | nil => exact fun _ _ => ⟨rfl, rfl⟩
    | cons a l ih =>
      intro x hl
      obtain ⟨hcam, hget⟩ := ih (capacityCamera env x a) fun q hq => hl q (.tail _ hq)
      rw [List.foldl_cons, hcam, hget]
      exact capacityCamera_policies fun hid => hl a.2 (hid ▸ .head _)
  have hunique : ∀ q, (camId, q) ∈ s.effectivePolicies → q.overCapacityPolicy = .deleteOldest := by
    intro q hq
    have := List.inj_on_of_nodup_map s.nodup_effectivePolicies hq h rfl
    cases this
    exact hover
  obtain ⟨hcams, hget⟩ := hkeep s.effectivePolicies s.begin hunique
  obtain ⟨c, hc, hp⟩ := List.mem_filterMap.1 h
  obtain ⟨p, hp, heq⟩ := Option.map_eq_some_iff.1 hp
  obtain ⟨rfl, rfl⟩ := Prod.mk.inj heq
  refine List.mem_filterMap.2 ⟨c, ?_, ?_⟩
  · show c ∈ (s.capped env).cameras.getAllEnabled
    rw [show (s.capped env).cameras = s.cameras from hcams]
    exact hc
  · rw [show (s.capped env).policies.getForCamera c.id = s.policies.getForCamera c.id from hget, hp]

theorem mem_effectivePolicies_cap {env : Nat → Env} (h : (camId, pol) ∈ s.effectivePolicies)
    (hover : pol.overCapacityPolicy = .deleteOldest) (n : Nat) :
    (camId, pol) ∈ (s.cap env n).effectivePolicies := by
  induction n with
  | zero => exact h
  | succ n ih => exact mem_effectivePolicies_capped ih hover

/-- The pass leaves of a camera what it does not select. -/
theorem capped_ofCamera (h : (camId, pol) ∈ s.effectivePolicies) :
    (s.capped env).segments.ofCamera camId = (s.segments.ofCamera camId).filter fun g =>
      !decide (g.id ∈ (s.overflow env camId pol).map Segment.id) :=
  isCameraSweep_capacity.foldl_ofCamera (x := s.begin) s.nodup_effectivePolicies h

theorem capped_sublist (s : Engine) (env : Env) :
    (s.capped env).segments.rows.Sublist s.segments.rows :=
  isCameraSweep_capacity.toIsSweep.foldl_sublist (x := s.begin) _

/-- A camera over a limit that is in force loses segments to the eviction loop. -/
theorem overflow_of_lt (hmax : pol.retentionMaxBytes = some m)
    (hover : pol.overCapacityPolicy = .deleteOldest) (hm : m ≠ 0)
    (hlt : m < s.segments.totalSizeForCamera camId) :
    s.overflow env camId pol = s.capacityVictims env camId m := by
  rw [Engine.overflow, hmax]
  exact if_neg (by simp [hm, hlt, hover])

/-- The pass leaves a camera as it is exactly when it selects nothing of it. -/
theorem capSettled_iff (h : (camId, pol) ∈ s.effectivePolicies) :
    s.CapSettled env camId ↔ s.overflow env camId pol = [] := by
  rw [Engine.CapSettled, capped_ofCamera h, List.filter_eq_self]
  constructor
  · intro hall
    refine List.eq_nil_iff_forall_not_mem.2 fun g hg => ?_
    have := hall g (Segments.mem_ofCamera.2 (mem_of_mem_overflow hg))
    rw [Bool.not_eq_true', decide_eq_false_iff_not] at this
    exact this (List.mem_map_of_mem hg)
  · intro hnil g _
    rw [hnil]
    rfl

/-- At rest, a camera with a positive limit is within it. -/
theorem total_le_of_settled (h : (camId, pol) ∈ s.effectivePolicies)
    (hmax : pol.retentionMaxBytes = some m) (hover : pol.overCapacityPolicy = .deleteOldest)
    (hpos : 0 < m) (hset : s.CapSettled env camId) :
    s.segments.totalSizeForCamera camId ≤ m := by
  by_contra hlt
  rw [not_le] at hlt
  -- the window is empty, since no segment of it is protected, and none is not
  rw [capSettled_iff h, overflow_of_lt hmax hover hpos.ne' hlt, capacityVictims_eq,
    List.append_eq_nil_iff] at hset
  obtain ⟨hun, hprot⟩ := hset
  rw [Engine.protectedVictims, hun, total_nil, drain_eq_nil_iff (by omega)] at hprot
  rw [Engine.unprotectedVictims, drain_eq_nil_iff (by omega)] at hun
  have hnil : s.segments.oldestForCamera camId 5000 = [] := by
    refine List.eq_nil_iff_forall_not_mem.2 fun g hg => ?_
    have := hprot g hg
    rw [hun g hg] at this
    cases this
  have hall : s.segments.ofCamera camId = [] := by
    rw [Segments.oldestForCamera_eq, List.take_eq_nil_iff] at hnil
    exact List.Perm.eq_nil ((perm_orderBy Segment.startTs _).symm.trans
      (.of_eq (hnil.resolve_left (by omega))))
  rw [Segments.totalSizeForCamera_eq, hall, total_nil] at hlt
  omega

/-- The limits that repeated passes reach: the positive ones, and 0 when nothing is stored. -/
theorem capReached_iff {env : Nat → Env} (h : (camId, pol) ∈ s.effectivePolicies)
    (hmax : pol.retentionMaxBytes = some m) (hover : pol.overCapacityPolicy = .deleteOldest) :
    s.CapReached env camId m ↔
      0 < m ∨ m = 0 ∧ s.segments.totalSizeForCamera camId = 0 := by
  obtain ⟨n, hn⟩ : ∃ n, (s.cap env n).CapSettled (env n) camId :=
    exists_eq_succ_of_sublist (f := fun n => (s.cap env n).segments.ofCamera camId)
      fun n => (capped_sublist _ _).filter _
  constructor
  · rintro ⟨-, hle⟩
    have hpos := total_nonneg Segment.size_nonneg ((s.cap env n).segments.ofCamera camId)
    have hlim := hle n hn
    rw [Segments.totalSizeForCamera_eq] at hlim
    rcases lt_trichotomy m 0 with hm | rfl | hm
    · omega
    · refine .inr ⟨rfl, le_antisymm (hle 0 ?_) (total_nonneg Segment.size_nonneg _)⟩
      refine (capSettled_iff h).2 ?_
      show s.overflow (env 0) camId pol = []
      rw [Engine.overflow, hmax]
      exact if_pos (.inl rfl)
    · exact .inl hm
  · rintro (hm | ⟨rfl, hzero⟩)
    · exact ⟨⟨n, hn⟩, fun k hk =>
        total_le_of_settled (mem_effectivePolicies_cap h hover k) hmax hover hm hk⟩
    · have hsub : ∀ k, (s.cap env k).segments.rows.Sublist s.segments.rows := by
        intro k
        induction k with
        | zero => exact .refl _
        | succ k ih => exact (capped_sublist _ _).trans ih
      exact ⟨⟨n, hn⟩, fun k _ => hzero ▸
        total_le_of_sublist Segment.size_nonneg ((hsub k).filter _)⟩

end

/-! ## The pass -/

/-- **The capacity pass under `delete_oldest`.** For every camera under such a policy with a limit,
the pass deletes exactly its `overflow`; and the deletions are in order and bring the camera within
its limit, repeated, if and only if the limit can be reached and the eviction loop does not reach
past its window. -/
theorem capacity_pass_iff (s : Engine) (env : Nat → Env) {camId : Nat} {pol : StoragePolicy}
    {m : Int} (h : (camId, pol) ∈ s.effectivePolicies) (hmax : pol.retentionMaxBytes = some m)
    (hover : pol.overCapacityPolicy = .deleteOldest) :
    (s.capped (env 0)).segments.ofCamera camId = (s.segments.ofCamera camId).filter (fun g =>
        !decide (g.id ∈ (s.overflow (env 0) camId pol).map Segment.id)) ∧
      (s.CapacityOrder (env 0) camId m (s.overflow (env 0) camId pol) ∧ s.CapReached env camId m ↔
        (0 < m ∨ m = 0 ∧ s.segments.totalSizeForCamera camId = 0) ∧
          ¬ s.ReachesPast (env 0) camId m) := by
  refine ⟨capped_ofCamera h, ?_⟩
  rw [capReached_iff h hmax hover, and_comm]
  refine and_congr_right fun hlim => ?_
  by_cases hfull : m = 0 ∨ s.segments.totalSizeForCamera camId ≤ m
  · have hnil : s.overflow (env 0) camId pol = [] := by
      rw [Engine.overflow, hmax]
      exact if_pos (by tauto)
    have hbytes := total_nonneg Segment.size_nonneg
      ((s.segments.oldestForCamera camId 5000).filter fun g => !s.isProtected (env 0).now g)
    rw [hnil]
    exact iff_of_true ⟨by simp, by simp, by simp, by simp⟩ fun hpast => by
      have := hpast.1
      omega
  · rw [not_or, not_le] at hfull
    rw [overflow_of_lt hmax hover hfull.1 hfull.2, capacityOrder_iff]

namespace CapacityFixture

/-- A byte limit and no limit on days. -/
def policy (limit : Int) : StoragePolicy :=
  { ProgressFixture.policy with retentionDays := none, retentionMaxBytes := some limit }

/-- A camera with `n` segments of eight bytes in a row, of which a locked recording covers the first
`k`. -/
def engine (k n : Nat) (limit : Int) : Engine :=
  { ProgressFixture.engine k n with policies := ⟨[policy limit], by simp⟩ }

theorem isProtected_segment (k n i : Nat) (limit : Int) :
    (engine k n limit).isProtected ProgressFixture.env.now (ProgressFixture.segment i) =
      decide (i < k) :=
  ProgressFixture.isProtected_segment k n i

/-- The query finds the segments in their order. -/
theorem orderBy_segments (k n : Nat) (limit : Int) :
    orderBy Segment.startTs ((engine k n limit).segments.ofCamera 1) =
      (List.range n).map ProgressFixture.segment := by
  have hall : (engine k n limit).segments.ofCamera 1 =
      (List.range n).map ProgressFixture.segment := by
    refine List.filter_eq_self.2 fun g hg => ?_
    obtain ⟨i, -, rfl⟩ := List.mem_map.1 hg
    rfl
  rw [hall]
  exact (ProgressFixture.pairwise_segments n).insertionSort_eq

theorem total_segments (n : Nat) :
    total Segment.size ((List.range n).map ProgressFixture.segment) = 8 * (n : Int) := by
  induction n with
  | zero => rfl
  | succ n ih =>
    rw [List.range_succ, List.map_append, total_append, ih]
    show 8 * (n : Int) + 8 = _
    omega

end CapacityFixture

/-- Of two segments the older one is locked, and the limit has room for one: the other one goes. -/
theorem capacity_pass_fixture :
    (CapacityFixture.engine 1 2 8).overflow ProgressFixture.env 1 (CapacityFixture.policy 8) =
        [ProgressFixture.segment 1] ∧
      (CapacityFixture.engine 1 2 8).CapReached (fun _ => ProgressFixture.env) 1 8 := by
  have hspec := @capacity_pass_iff (CapacityFixture.engine 1 2 8) (fun _ => ProgressFixture.env) 1
    (CapacityFixture.policy 8) 8 (by decide) rfl rfl
  refine ⟨by decide +kernel, (hspec.2.2 ⟨.inl (by decide), fun hpast => ?_⟩).2⟩
  obtain ⟨-, -, g, hg, -⟩ := hpast
  have hnil : (CapacityFixture.engine 1 2 8).behindWindow 1 = [] := by decide
  rw [hnil] at hg
  cases hg

/-- Five thousand locked segments fill the window: to save one byte the pass deletes the oldest of
them, and leaves the segment behind them that is not locked. -/
theorem protected_before_unprotected :
    ¬ (CapacityFixture.engine 5000 5001 40007).CapacityOrder ProgressFixture.env 1 40007
      ((CapacityFixture.engine 5000 5001 40007).overflow ProgressFixture.env 1
        (CapacityFixture.policy 40007)) := by
  set s := CapacityFixture.engine 5000 5001 40007 with hs
  have hord : orderBy Segment.startTs (s.segments.ofCamera 1) =
      (List.range 5001).map ProgressFixture.segment := CapacityFixture.orderBy_segments ..
  have hprot : ∀ i, s.isProtected ProgressFixture.env.now (ProgressFixture.segment i) =
      decide (i < 5000) := fun i => CapacityFixture.isProtected_segment 5000 5001 i 40007
  have htotal : s.segments.totalSizeForCamera 1 = 40008 := by
    rw [Segments.totalSizeForCamera_eq, ← total_orderBy, hord, CapacityFixture.total_segments]
    rfl
  have hwindow : s.segments.oldestForCamera 1 5000 =
      (List.range 5000).map ProgressFixture.segment := by
    rw [Segments.oldestForCamera_eq, hord, ← List.map_take, List.take_range]
    rfl
  have hbehind : s.behindWindow 1 = [ProgressFixture.segment 5000] := by
    rw [Engine.behindWindow, hord, ← List.map_drop, List.range_succ (n := 5000),
      List.drop_left' (List.length_range (n := 5000)), List.map_singleton]
  rw [overflow_of_lt rfl rfl (by decide) (by rw [htotal]; decide), capacityOrder_iff, not_not]
  refine ⟨?_, ⟨ProgressFixture.segment 0, ?_, by rw [hprot]; decide⟩,
    ProgressFixture.segment 5000, ?_, by rw [hprot]; decide⟩
  · have hnone : ((s.segments.oldestForCamera 1 5000).filter fun g =>
        !s.isProtected ProgressFixture.env.now g) = [] := by
      rw [hwindow]
      refine List.filter_eq_nil_iff.2 fun g hg => ?_
      obtain ⟨i, hi, rfl⟩ := List.mem_map.1 hg
      rw [hprot, decide_eq_true (List.mem_range.1 hi)]
      decide
    rw [hnone, htotal, total_nil]
    decide
  · rw [hwindow]
    exact List.mem_map_of_mem (List.mem_range.2 (by omega))
  · rw [hbehind]
    exact List.mem_cons_self

end AeroXProtect
