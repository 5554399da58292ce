import Mathlib.Data.Int.Bitwise
import Mathlib.Tactic.Common

/-!
# Snowflake ids

The id of a row is made by the process that creates it, of the milliseconds since `axpEpoch`, the
number of the process and a sequence number. A generator reads the clock again until it is past the
millisecond of the last id when the clock has gone back, or when the numbers of the millisecond are
used up. The readings of the clock are a list; a call that still waits when they end is `none`.
`snowflake_ids` is about every clock that passes its own readings at some time.
-/

namespace AeroXProtect

/-- 2024-01-01T00:00:00Z -/
def axpEpoch : Int := 1704067200000

def instanceBits : Nat := 10
def sequenceBits : Nat := 12

def maxInstance : Nat := (1 <<< instanceBits) - 1
def maxSequence : Nat := (1 <<< sequenceBits) - 1

def instanceShift : Nat := sequenceBits
def timestampShift : Nat := sequenceBits + instanceBits

/-- A generator. Source: `SnowflakeGenerator` (`server/util/snowflake.py:31`). -/
structure SnowflakeGenerator where
  inst : Nat
  lastTs : Int
  sequence : Nat
  inst_le : inst ≤ maxInstance
  sequence_le : sequence ≤ maxSequence

namespace SnowflakeGenerator

/-- Source: `SnowflakeGenerator.__init__` (`server/util/snowflake.py:32`). -/
def init (inst : Int) : Except String SnowflakeGenerator :=
  if h : inst < 0 ∨ inst > maxInstance then
    .error s!"SNOWFLAKE_INSTANCE must be in 0..{maxInstance} (got {inst})"
  else
    .ok {
      inst := inst.toNat
      lastTs := -1
      sequence := 0
      inst_le := by omega
      sequence_le := Nat.zero_le _ }

/-- Read the clock until it is past `lastTs`. Source: `_wait_next_ms`
(`server/util/snowflake.py:46`). -/
def waitNextMs (lastTs : Int) : List Int → Option (Int × List Int)
  | [] => none
  | ts :: readings => if ts ≤ lastTs then waitNextMs lastTs readings else some (ts, readings)

/-- A reading, or the first one past `lastTs` when it is waited for. -/
def orWait (wait : Bool) (lastTs ts : Int) (readings : List Int) : Option (Int × List Int) :=
  if wait then waitNextMs lastTs readings else some (ts, readings)

/-- The id of a millisecond, an instance and a sequence number. -/
def pack (ts : Int) (inst sequence : Nat) : Int :=
  Int.lor (Int.lor ((ts - axpEpoch) <<< timestampShift) (inst <<< instanceShift : Nat)) sequence

/-- The id that the generator has given out last. -/
def lastId (g : SnowflakeGenerator) : Int := pack g.lastTs g.inst g.sequence

/-- The next id, the generator after it and the readings that are left. Source: `next_id`
(`server/util/snowflake.py:52`). -/
def nextId (g : SnowflakeGenerator) : List Int → Option (Int × SnowflakeGenerator × List Int)
  | [] => none
  | now :: readings =>
    -- the clock may have moved backwards
    (orWait (now < g.lastTs) g.lastTs now readings).bind fun (ts, readings) =>
      if ts = g.lastTs then
        let sequence := (g.sequence + 1) &&& maxSequence
        -- the numbers of this millisecond may be used up
        (orWait (sequence = 0) g.lastTs ts readings).map fun (ts, readings) =>
          let g' := { g with
            lastTs := ts, sequence := sequence, sequence_le := Nat.and_le_right }
          (g'.lastId, g', readings)
      else
        let g' := { g with lastTs := ts, sequence := 0, sequence_le := Nat.zero_le _ }
        some (g'.lastId, g', readings)

/-- So many calls: each id with the generator after it. -/
def nextIds (g : SnowflakeGenerator) :
    Nat → List Int → Option (List (Int × SnowflakeGenerator))
  | 0, _ => some []
  | n + 1, readings => do
    let (id, g', readings) ← g.nextId readings
    let ids ← g'.nextIds n readings
    some ((id, g') :: ids)

end SnowflakeGenerator

/-! ## Taking an id apart -/

def timestampOf (id : Int) : Int := id / 2 ^ timestampShift + axpEpoch

def instanceOf (id : Int) : Int := id / 2 ^ instanceShift % 2 ^ instanceBits

def sequenceOf (id : Int) : Int := id % 2 ^ sequenceBits

namespace SnowflakeGenerator

section
variable {ts : Int} {inst sequence : Nat}

/-- The parts of an id do not overlap. -/
theorem pack_eq (hts : axpEpoch ≤ ts) (hinst : inst ≤ maxInstance) (hseq : sequence ≤ maxSequence) :
    pack ts inst sequence = (ts - axpEpoch) * 4194304 + inst * 4096 + sequence := by
  obtain ⟨d, hd⟩ := Int.eq_ofNat_of_zero_le (Int.sub_nonneg.2 hts)
  have hinst' : inst < 2 ^ 10 := Nat.lt_succ_of_le hinst
  have hseq' : sequence < 2 ^ 12 := Nat.lt_succ_of_le hseq
  have hlow : inst <<< 12 < 2 ^ 22 := by
    rw [Nat.shiftLeft_eq]
    omega
  have hnat : d <<< 22 ||| inst <<< 12 ||| sequence = d * 4194304 + inst * 4096 + sequence := by
    rw [← Nat.shiftLeft_add_eq_or_of_lt hlow]
    have hfactor : d <<< 22 + inst <<< 12 = (d <<< 10 + inst) <<< 12 := by
      simp only [Nat.shiftLeft_eq]
      omega
    rw [hfactor, ← Nat.shiftLeft_add_eq_or_of_lt hseq']
    simp only [Nat.shiftLeft_eq]
    omega
  rw [pack, hd]
  exact (congrArg Int.ofNat hnat).trans rfl

theorem timestampOf_pack (hts : axpEpoch ≤ ts) (hinst : inst ≤ maxInstance)
    (hseq : sequence ≤ maxSequence) : timestampOf (pack ts inst sequence) = ts := by
  rw [pack_eq hts hinst hseq, timestampOf]
  simp only [timestampShift, sequenceBits, instanceBits, maxInstance, maxSequence] at *
  omega

theorem instanceOf_pack (hts : axpEpoch ≤ ts) (hinst : inst ≤ maxInstance)
    (hseq : sequence ≤ maxSequence) : instanceOf (pack ts inst sequence) = inst := by
  rw [pack_eq hts hinst hseq, instanceOf]
  simp only [instanceShift, sequenceBits, instanceBits, maxInstance, maxSequence] at *
  omega

theorem sequenceOf_pack (hts : axpEpoch ≤ ts) (hinst : inst ≤ maxInstance)
    (hseq : sequence ≤ maxSequence) : sequenceOf (pack ts inst sequence) = sequence := by
  rw [pack_eq hts hinst hseq, sequenceOf]
  simp only [sequenceBits, maxSequence] at *
  omega

theorem pack_lt (hts : axpEpoch ≤ ts) (hinst : inst ≤ maxInstance) (hseq : sequence ≤ maxSequence)
    (hsmall : ts - axpEpoch < 2 ^ 41) : pack ts inst sequence < 2 ^ 63 := by
  rw [pack_eq hts hinst hseq]
  simp only [sequenceBits, instanceBits, maxInstance, maxSequence] at *
  omega

end

/-! ## One call -/

/-- The generator has given out an id in this millisecond with a smaller number, or none in it. -/
def Before (g g' : SnowflakeGenerator) : Prop :=
  g.lastTs < g'.lastTs ∨ g'.lastTs = g.lastTs ∧ g.sequence < g'.sequence

section
variable {g g' : SnowflakeGenerator} {readings rest : List Int} {ts id last : Int} {n : Nat}
  {ids : List (Int × SnowflakeGenerator)}

theorem Before.trans {g'' : SnowflakeGenerator} (h : g.Before g') (h' : g'.Before g'') :
    g.Before g'' := by
  unfold Before at *
  omega

/-- The ids of one generator are ordered as its milliseconds and numbers are. -/
theorem Before.lastId_lt (h : g.Before g') (hinst : g'.inst = g.inst) (hg : axpEpoch ≤ g.lastTs) :
    g.lastId < g'.lastId := by
  have hle : g.sequence ≤ 4095 := g.sequence_le
  have hinst' : g.inst ≤ 1023 := g.inst_le
  have hg' : axpEpoch ≤ g'.lastTs := by
    unfold Before at h
    omega
  rw [lastId, lastId, pack_eq hg g.inst_le g.sequence_le, pack_eq hg' g'.inst_le g'.sequence_le,
    hinst]
  unfold Before at h
  omega

/-- Waiting ends with the first reading past `last`. -/
theorem waitNextMs_eq_some : waitNextMs last readings = some (ts, rest) ↔
    ∃ skipped, readings = skipped ++ ts :: rest ∧ (∀ t ∈ skipped, t ≤ last) ∧ last < ts := by
  induction readings with
  | nil => simp [waitNextMs]
  | cons t readings ih =>
    rw [waitNextMs]
    split
    · next hle =>
      rw [ih]
      constructor
      · rintro ⟨skipped, rfl, hall, hlt⟩
        exact ⟨t :: skipped, rfl, List.forall_mem_cons.2 ⟨hle, hall⟩, hlt⟩
      · rintro ⟨skipped, heq, hall, hlt⟩
        cases skipped with
        | nil =>
          cases heq
          omega
        | cons x skipped =>
          cases heq
          exact ⟨skipped, rfl, (List.forall_mem_cons.1 hall).2, hlt⟩
    · next hgt =>
      constructor
      · intro h
        cases h
        exact ⟨[], rfl, nofun, by omega⟩
      · rintro ⟨skipped, heq, hall, hlt⟩
        cases skipped with
        | nil =>
          cases heq
          rfl
        | cons x skipped =>
          cases heq
          exact absurd ((List.forall_mem_cons.1 hall).1) hgt

/-- A reading that is not past the last one is waited for in vain. -/
theorem orWait_spec {wait : Bool} {now : Int}
    (h : orWait wait last now readings = some (ts, rest)) :
    (if wait then last < ts else ts = now) ∧ ∃ consumed, readings = consumed ++ rest ∧
      ts ∈ now :: consumed ∧ ∀ more, orWait wait last now (consumed ++ more) = some (ts, more) := by
  cases wait with
  | false =>
    cases h
    exact ⟨rfl, [], rfl, .head _, fun more => rfl⟩
  | true =>
    obtain ⟨skipped, rfl, hall, hlt⟩ := waitNextMs_eq_some.1 h
    refine ⟨hlt, skipped ++ [ts], by simp, by simp, fun more => ?_⟩
    exact waitNextMs_eq_some.2 ⟨skipped, by simp, hall, hlt⟩

theorem sequence_succ (g : SnowflakeGenerator) :
    (g.sequence + 1) &&& maxSequence = if g.sequence = maxSequence then 0 else g.sequence + 1 := by
  have hle : g.sequence ≤ 4095 := g.sequence_le
  rw [show maxSequence = 2 ^ 12 - 1 from rfl, Nat.and_two_pow_sub_one_eq_mod]
  split <;> omega

/-- What a call does that returns. -/
structure Issues (g : SnowflakeGenerator) (consumed : List Int) (id : Int)
    (g' : SnowflakeGenerator) : Prop where
  id_eq : id = g'.lastId
  inst : g'.inst = g.inst
  before : g.Before g'
  mem : g'.lastTs ∈ consumed
  returns : ∀ more, g.nextId (consumed ++ more) = some (id, g', more)

theorem issues_of_nextId (h : g.nextId readings = some (id, g', rest)) :
    ∃ consumed, readings = consumed ++ rest ∧ g.Issues consumed id g' := by
  cases readings with
  | nil => cases h
  | cons now readings =>
    obtain ⟨⟨ts, left⟩, hfirst, hrest⟩ := Option.bind_eq_some_iff.1 h
    clear h
    obtain ⟨hts, consumed, rfl, hmem, hagain⟩ := orWait_spec hfirst
    have hle : g.lastTs ≤ ts := by
      simp only [decide_eq_true_eq] at hts
      split at hts <;> omega
    dsimp only at hrest
    split at hrest
    · next heq =>
      obtain ⟨⟨ts', left'⟩, hsecond, hg'⟩ := Option.map_eq_some_iff.1 hrest
      clear hrest
      obtain ⟨hts', consumed', rfl, hmem', hagain'⟩ := orWait_spec hsecond
      cases hg'
      refine ⟨now :: consumed ++ consumed', by simp, rfl, rfl, ?_, ?_, fun more => ?_⟩
      · rw [sequence_succ] at hts'
        unfold Before
        dsimp only
        rw [sequence_succ]
        by_cases hmax : g.sequence = maxSequence
        · simp only [hmax, if_true, decide_true] at hts'
          exact .inl hts'
        · simp only [hmax, if_false, Nat.add_one_ne_zero, decide_false,
            Bool.false_eq_true] at hts' ⊢
          omega
      · rcases List.mem_cons.1 hmem' with hmem' | hmem'
        · exact List.mem_append_left _ (hmem' ▸ hmem)
        · exact List.mem_append_right _ hmem'
      · simp only [nextId, List.cons_append, List.append_assoc, hagain, Option.bind_some]
        rw [if_pos heq, hagain']
        rfl
    · next hne =>
      cases hrest
      refine ⟨now :: consumed, rfl, rfl, rfl, .inl (by dsimp only; omega), hmem, fun more => ?_⟩
      simp only [nextId, List.cons_append, hagain, Option.bind_some]
      rw [if_neg hne]

/-! ## Any number of calls -/

/-- Every id comes from the same instance and a reading of the clock, and the generator moves on. -/
structure Issued (g : SnowflakeGenerator) (readings : List Int)
    (ids : List (Int × SnowflakeGenerator)) : Prop where
  before : (g :: ids.map Prod.snd).Pairwise Before
  id_eq : ∀ x ∈ ids, x.1 = x.2.lastId
  inst : ∀ x ∈ ids, x.2.inst = g.inst
  mem : ∀ x ∈ ids, x.2.lastTs ∈ readings

theorem issued_of_nextIds (h : g.nextIds n readings = some ids) :
    ids.length = n ∧ g.Issued readings ids := by
  induction n generalizing g readings ids with
  | zero =>
    cases h
    exact ⟨rfl, List.pairwise_singleton _ _, nofun, nofun, nofun⟩
  | succ n ih =>
    obtain ⟨⟨id, g', left⟩, hnext, h⟩ := Option.bind_eq_some_iff.1 h
    obtain ⟨rest, hrest, h⟩ := Option.bind_eq_some_iff.1 h
    cases h
    obtain ⟨consumed, rfl, hcall⟩ := issues_of_nextId hnext
    obtain ⟨rfl, hbefore, hid, hinst, hmem⟩ := ih hrest
    refine ⟨rfl, ?_, ?_, ?_, ?_⟩
    · refine List.pairwise_cons.2 ⟨fun x hx => ?_, hbefore⟩
      rcases List.mem_cons.1 hx with rfl | hx
      · exact hcall.before
      · exact hcall.before.trans ((List.pairwise_cons.1 hbefore).1 x hx)
    · exact List.forall_mem_cons.2 ⟨hcall.id_eq, hid⟩
    · exact List.forall_mem_cons.2 ⟨hcall.inst, fun x hx => (hinst x hx).trans hcall.inst⟩
    · exact List.forall_mem_cons.2 ⟨List.mem_append_left _ hcall.mem,
        fun x hx => List.mem_append_right _ (hmem x hx)⟩

/-- The ids of one generator at readings from the epoch on. -/
theorem Issued.increasing (h : g.Issued readings ids) (hepoch : ∀ t ∈ readings, axpEpoch ≤ t) :
    (ids.map Prod.fst).Pairwise (· < ·) := by
  have hpair := (List.pairwise_cons.1 h.before).2
  rw [List.pairwise_map] at hpair ⊢
  refine hpair.imp_of_mem fun hx hy hxy => ?_
  rw [h.id_eq _ hx, h.id_eq _ hy]
  exact hxy.lastId_lt ((h.inst _ hy).trans (h.inst _ hx).symm) (hepoch _ (h.mem _ hx))

/-! ## Calls return -/

theorem waitNextMs_returns (h : ∃ t ∈ readings, last < t) :
    ∃ x, waitNextMs last readings = some x := by
  induction readings with
  | nil =>
    obtain ⟨t, ht, -⟩ := h
    cases ht
  | cons t readings ih =>
    rw [waitNextMs]
    split
    · next hle =>
      obtain ⟨t', ht', hlt⟩ := h
      rcases List.mem_cons.1 ht' with rfl | ht'
      · omega
      · exact ih ⟨t', ht', hlt⟩
    · exact ⟨_, rfl⟩

/-- A call waits at most once, for a reading past the last millisecond. -/
theorem nextId_returns (now : Int) (h : ∃ t ∈ readings, g.lastTs < t) :
    ∃ x, g.nextId (now :: readings) = some x := by
  obtain ⟨⟨ts, left⟩, hwait⟩ := waitNextMs_returns h
  obtain ⟨-, -, -, hlt⟩ := waitNextMs_eq_some.1 hwait
  unfold nextId
  by_cases hback : now < g.lastTs
  · simp only [orWait, hback, decide_true, if_true, hwait, Option.bind_some]
    rw [if_neg (by omega)]
    exact ⟨_, rfl⟩
  · simp only [orWait, hback, decide_false, Bool.false_eq_true, if_false, Option.bind_some]
    split
    · split
      · rw [hwait]
        exact ⟨_, rfl⟩
      · exact ⟨_, rfl⟩
    · exact ⟨_, rfl⟩

/-- The next `m` readings of a clock from the reading `k` on. -/
def window (clock : Nat → Int) (k m : Nat) : List Int := (List.range' k m).map clock

theorem window_add (clock : Nat → Int) (k m m' : Nat) :
    window clock k (m + m') = window clock k m ++ window clock (k + m) m' := by
  unfold window
  rw [← List.map_append, List.range'_append_1]

/-- What is consumed of a window is a window. -/
theorem window_prefix {clock : Nat → Int} {k m : Nat} {consumed : List Int}
    (h : window clock k m = consumed ++ rest) : consumed = window clock k consumed.length := by
  have hlen : consumed.length ≤ m := by
    have := congrArg List.length h
    simp only [window, List.length_map, List.length_range', List.length_append] at this
    omega
  obtain ⟨d, rfl⟩ := Nat.exists_eq_add_of_le hlen
  rw [window_add] at h
  exact (List.append_inj h (by simp [window])).1.symm

/-- So many calls return, if the clock passes the last millisecond and each of its readings. -/
theorem nextIds_returns {clock : Nat → Int} (hpasses : ∀ i n, ∃ k, n ≤ k ∧ clock i < clock k)
    (hlast : ∀ n, ∃ k, n ≤ k ∧ g.lastTs < clock k) (n k : Nat) :
    ∃ m ids, g.nextIds n (window clock k m) = some ids := by
  induction n generalizing g k with
  | zero => exact ⟨0, [], rfl⟩
  | succ n ih =>
    obtain ⟨k', hk', hlt⟩ := hlast (k + 1)
    have hmem : clock k' ∈ window clock (k + 1) (k' - k) :=
      List.mem_map_of_mem (List.mem_range'_1.2 (by omega))
    obtain ⟨⟨id, g', rest⟩, hnext⟩ := nextId_returns (clock k) ⟨_, hmem, hlt⟩
    obtain ⟨consumed, heq, hcall⟩ := issues_of_nextId hnext
    have hwin : window clock k (k' - k + 1) = consumed ++ rest := heq
    have hconsumed := window_prefix hwin
    have hlast' : ∀ n, ∃ k, n ≤ k ∧ g'.lastTs < clock k := by
      have hin := hcall.mem
      rw [hconsumed] at hin
      obtain ⟨i, -, hi⟩ := List.mem_map.1 hin
      exact fun n => hi ▸ hpasses i n
    obtain ⟨m, ids, hids⟩ := ih hlast' (k + consumed.length)
    refine ⟨consumed.length + m, (id, g') :: ids, ?_⟩
    rw [window_add, ← hconsumed, nextIds, hcall.returns]
    simp [hids]

end

/-! ## Ids of one generator and of several -/

section
variable {clock : Nat → Int} {n m : Nat} {ids : List (Int × SnowflakeGenerator)}

theorem epoch_le_of_mem_window {k : Nat} (hepoch : ∀ i, axpEpoch ≤ clock i) {t : Int}
    (h : t ∈ window clock k m) : axpEpoch ≤ t := by
  obtain ⟨i, -, rfl⟩ := List.mem_map.1 h
  exact hepoch i

/-- What holds of the ids that a generator has given out by some reading of its clock. -/
structure Sound (inst : Nat) (n : Nat) (ids : List (Int × SnowflakeGenerator)) : Prop where
  length : ids.length = n
  increasing : (ids.map Prod.fst).Pairwise (· < ·)
  timestamp : ∀ x ∈ ids, timestampOf x.1 = x.2.lastTs
  instance_eq : ∀ x ∈ ids, instanceOf x.1 = inst
  sequence : ∀ x ∈ ids, sequenceOf x.1 = x.2.sequence
  small : ∀ x ∈ ids, x.2.lastTs - axpEpoch < 2 ^ 41 → 0 ≤ x.1 ∧ x.1 < 2 ^ 63

theorem sound_of_nextIds {g : SnowflakeGenerator} (hepoch : ∀ i, axpEpoch ≤ clock i)
    (h : g.nextIds n (window clock 0 m) = some ids) : Sound g.inst n ids := by
  obtain ⟨hlen, hissued⟩ := issued_of_nextIds h
  have hts : ∀ x ∈ ids, axpEpoch ≤ x.2.lastTs := fun x hx =>
    epoch_le_of_mem_window hepoch (hissued.mem x hx)
  refine ⟨hlen, hissued.increasing fun t ht => epoch_le_of_mem_window hepoch ht, ?_, ?_, ?_, ?_⟩
    <;> intro x hx <;> rw [hissued.id_eq x hx]
  · exact timestampOf_pack (hts x hx) x.2.inst_le x.2.sequence_le
  · rw [← hissued.inst x hx]
    exact instanceOf_pack (hts x hx) x.2.inst_le x.2.sequence_le
  · exact sequenceOf_pack (hts x hx) x.2.inst_le x.2.sequence_le
  · refine fun hsmall => ⟨?_, pack_lt (hts x hx) x.2.inst_le x.2.sequence_le hsmall⟩
    rw [lastId, pack_eq (hts x hx) x.2.inst_le x.2.sequence_le]
    have := hts x hx
    omega

end

end SnowflakeGenerator

open SnowflakeGenerator in
/-- The ids of two generators, each at a clock that is never before the epoch and passes each of its
readings at some time. -/
theorem snowflake_ids (inst inst' : Int) (g g' : SnowflakeGenerator) (hg : init inst = .ok g)
    (hg' : init inst' = .ok g') (clock clock' : Nat → Int) (hepoch : ∀ i, axpEpoch ≤ clock i)
    (hepoch' : ∀ i, axpEpoch ≤ clock' i) (hpasses : ∀ i n, ∃ k, n ≤ k ∧ clock i < clock k)
    (n : Nat) :
    (∃ m ids, g.nextIds n (window clock 0 m) = some ids) ∧
    ∀ m ids, g.nextIds n (window clock 0 m) = some ids → Sound g.inst n ids ∧
      (inst ≠ inst' → ∀ n' m' ids', g'.nextIds n' (window clock' 0 m') = some ids' →
        ∀ x ∈ ids, ∀ y ∈ ids', x.1 ≠ y.1) := by
  have hstart : ∀ {inst : Int} {g}, init inst = .ok g → (g.inst : Int) = inst ∧ g.lastTs = -1 := by
    intro inst g h
    unfold init at h
    split at h
    · cases h
    · cases h
      exact ⟨by dsimp only; omega, rfl⟩
  refine ⟨nextIds_returns hpasses (fun n => ⟨n, le_refl n, ?_⟩) n 0, fun m ids hids => ?_⟩
  · have h := hepoch n
    rw [(hstart hg).2]
    unfold axpEpoch at h
    omega
  · refine ⟨sound_of_nextIds hepoch hids, fun hne n' m' ids' hids' x hx y hy heq => hne ?_⟩
    rw [← (hstart hg).1, ← (hstart hg').1, ← (sound_of_nextIds hepoch hids).instance_eq x hx,
      ← (sound_of_nextIds hepoch' hids').instance_eq y hy, heq]

namespace SnowflakeFixture

/-- A clock that goes back by two milliseconds at every eighth reading. -/
def clock (i : Nat) : Int := axpEpoch + i - if i % 8 = 7 then 3 else 0

theorem epoch_le_clock (i : Nat) : axpEpoch ≤ clock i := by
  unfold clock
  split <;> omega

theorem clock_passes (i n : Nat) : ∃ k, n ≤ k ∧ clock i < clock k := by
  refine ⟨i + n + 4, by omega, ?_⟩
  unfold clock
  split <;> split <;> push_cast <;> omega

end SnowflakeFixture

open SnowflakeGenerator SnowflakeFixture in
/-- Five ids of the backend's generator and of the worker's. -/
theorem snowflake_ids_fixture : ∃ g g', init 1 = .ok g ∧ init 2 = .ok g' ∧
    (∃ m ids, g.nextIds 5 (window clock 0 m) = some ids) ∧
    ∀ m ids, g.nextIds 5 (window clock 0 m) = some ids → Sound g.inst 5 ids ∧
      ((1 : Int) ≠ 2 → ∀ n' m' ids', g'.nextIds n' (window clock 0 m') = some ids' →
        ∀ x ∈ ids, ∀ y ∈ ids', x.1 ≠ y.1) :=
  ⟨_, _, rfl, rfl, snowflake_ids 1 2 _ _ rfl rfl clock clock epoch_le_clock epoch_le_clock
    clock_passes 5⟩

end AeroXProtect
