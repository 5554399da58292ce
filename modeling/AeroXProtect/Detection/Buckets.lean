import AeroXProtect.Detection.Counting
import AeroXProtect.Lib.Interleave

/-!
# Counts recorded at the same time

Requests that record counts are threads over the table: a thread reads the row of its bucket, and
in a later statement it inserts a row or writes the changed columns back as it has computed them.
Nothing keeps another thread from writing in between. `buckets_iff` says which writes keep the sums
of a bucket and its only row.
-/

open Lib

namespace AeroXProtect

/-- Where a call of `CountingStat.record` is. -/
inductive RecordThread
  | select (c : RecordCall)
  | write (c : RecordCall) (seen : Option CountingStat)
  | done (c : RecordCall)
  deriving DecidableEq, Repr

namespace RecordThread

/-- The next statement of a call. Source: `CountingStat.record` (`server/model/counting.py:104`). -/
def exec (t : CountingStats) (r : RecordThread) (_ : Unit) : CountingStats × RecordThread :=
  match r with
  | .select c => (t, .write c (t.seen c))
  | .write c seen => (t.write c seen, .done c)
  | .done c => (t, .done c)

/-- A call that is not interrupted. -/
theorem alone_record (t : CountingStats) (c : RecordCall) :
    Pool.alone exec () 2 (t, .select c) = (t.record c, .done c) := rfl

/-- The call that a thread has written. -/
def written : RecordThread → List RecordCall
  | .done c => [c]
  | _ => []

end RecordThread

/-- Calls at work, and the table. -/
abbrev CountCalls := Pool CountingStats RecordThread

namespace CountCalls

/-- The calls that have been written. -/
def written (p : CountCalls) : List RecordCall := p.threads.flatMap RecordThread.written

/-- One statement. -/
def step : CountCalls → PoolAct RecordCall Unit → CountCalls :=
  Pool.step RecordThread.select RecordThread.exec

/-- The deltas of the written calls of a bucket, summed up. -/
def deltas (p : CountCalls) (delta : RecordCall → Int) (k : CountBucket) : Int :=
  ((p.written.filter fun c => decide (c.bucket = k)).map delta).sum

/-- The sum of a column over the rows of a bucket. -/
def totalOf (t : CountingStats) (column : CountingStat → Int) (k : CountBucket) : Int :=
  t.total column fun b => decide (b = k)

/-- The number of rows of a bucket. -/
def rowsOf (t : CountingStats) (k : CountBucket) : Nat :=
  t.rows.countP fun g => decide (g.bucket = k)

/-- Nothing is lost since the table was `t`: each bucket has at most one row, and exactly one if a
call of the bucket was written, and its columns have grown by the deltas. -/
structure Exact (t : CountingStats) (p : CountCalls) : Prop where
  inCount : ∀ k, totalOf p.shared CountingStat.inCount k =
    totalOf t CountingStat.inCount k + p.deltas RecordCall.inDelta k
  outCount : ∀ k, totalOf p.shared CountingStat.outCount k =
    totalOf t CountingStat.outCount k + p.deltas RecordCall.outDelta k
  oneRow : ∀ k, rowsOf p.shared k ≤ 1
  row : ∀ c ∈ p.written, rowsOf p.shared c.bucket = 1

/-- A write does what the call asks for: there is no row yet when one is inserted, and a column that
is written back holds what was read. -/
def Fits (t : CountingStats) (c : RecordCall) : Option CountingStat → Prop
  | none => ∀ g ∈ t, g.bucket ≠ c.bucket
  | some seen => ∀ g ∈ t, g.id = seen.id →
    (c.inDelta ≠ 0 → g.inCount = seen.inCount) ∧ (c.outDelta ≠ 0 → g.outCount = seen.outCount)

/-- The write that is next, if any, does what its call asks for. -/
def WriteFits (p : CountCalls) : PoolAct RecordCall Unit → Prop
  | .spawn _ => True
  | .exec i _ => ∀ c seen, p.threads[i]? = some (.write c seen) → Fits p.shared c seen

/-- The rows that threads have read are there. -/
def Reads (p : CountCalls) : Prop := ∀ c seen, .write c (some seen) ∈ p.threads →
  seen.bucket = c.bucket ∧ ∃ g ∈ p.shared, g.id = seen.id ∧ g.bucket = seen.bucket

section
variable {t : CountingStats} {p : CountCalls} {c : RecordCall} {seen g : CountingStat}
  {k : CountBucket} {i : Nat}

theorem rowsOf_insert (h : ∀ x ∈ t, x.id ≠ g.id) :
    rowsOf (t.insert g) k = rowsOf t k + if g.bucket = k then 1 else 0 := by
  unfold rowsOf
  rw [Table.rows_insert h, List.countP_append, List.countP_singleton]
  simp

theorem rowsOf_modify {f : CountingStat → CountingStat} {q : CountingStat → Bool}
    (hid : ∀ x, (f x).id = x.id) (hbucket : ∀ x, (f x).bucket = x.bucket) :
    rowsOf (t.modify q f hid) k = rowsOf t k := by
  show (t.rows.map _).countP _ = _
  rw [List.countP_map]
  refine List.countP_congr fun x _ => ?_
  simp only [Function.comp]
  split <;> simp [hbucket]

theorem rowsOf_eq_zero : rowsOf t k = 0 ↔ ∀ g ∈ t, g.bucket ≠ k := by
  unfold rowsOf
  rw [List.countP_eq_zero]
  simp

/-- A new row adds the deltas of its call to its bucket. -/
theorem totalOf_insert {column : CountingStat → Int} {delta : RecordCall → Int}
    (hnew : ∀ id, column (c.newRow id) = delta c) (k : CountBucket) :
    totalOf (t.write c none) column k =
      totalOf t column k + if c.bucket = k then delta c else 0 := by
  have h : ∀ x ∈ t, x.id ≠ (c.newRow t.freshKey).id := t.ne_freshKey
  have hbucket : (c.newRow t.freshKey).bucket = c.bucket := rfl
  rw [totalOf, CountingStats.write, CountingStats.total_insert h, hnew, hbucket]
  simp [totalOf]

/-- A column that is written back grows by the delta exactly if it held what was read. -/
theorem totalOf_writeBack (column : CountingStat → Int) (delta : RecordCall → Int)
    (hback : ∀ g, column (c.writeBack seen g) =
      if delta c = 0 then column g else column seen + delta c)
    (hg : g ∈ t) (hid : g.id = seen.id) (hbucket : g.bucket = c.bucket) :
    (∀ k, totalOf (t.write c (some seen)) column k =
      totalOf t column k + if c.bucket = k then delta c else 0) ↔
      (delta c ≠ 0 → column g = column seen) := by
  have htotal : ∀ k, totalOf (t.write c (some seen)) column k = totalOf t column k +
      if c.bucket = k then column (c.writeBack seen g) - column g else 0 := by
    intro k
    have h := CountingStats.total_modify column (fun b => decide (b = k)) (f := c.writeBack seen)
      (fun _ => rfl) (fun _ => rfl) hg
    rw [hid, hbucket] at h
    rw [totalOf, CountingStats.write, h]
    simp [totalOf]
  have hiff : column (c.writeBack seen g) - column g = delta c ↔
      (delta c ≠ 0 → column g = column seen) := by
    rw [hback]
    split <;> omega
  rw [← hiff]
  constructor
  · intro h
    have hk := h c.bucket
    rw [htotal, if_pos rfl, if_pos rfl] at hk
    omega
  · intro h k
    rw [htotal, h]

/-- The deltas after one more call was written. -/
theorem deltas_append {p' : CountCalls} (hw : p'.written.Perm ([c] ++ p.written))
    (delta : RecordCall → Int) (k : CountBucket) :
    p'.deltas delta k = p.deltas delta k + if c.bucket = k then delta c else 0 := by
  unfold deltas
  rw [((hw.filter _).map _).sum_eq, List.filter_append, List.map_append, List.sum_append, add_comm]
  by_cases h : c.bucket = k <;> simp [h]

/-- A write keeps the counts exact exactly if it does what its call asks for. -/
theorem Exact.write_iff {t₀ : CountingStats} {p' : CountCalls} {s : Option CountingStat}
    (h : Exact t₀ p)
    (hread : ∀ seen, s = some seen → seen.bucket = c.bucket ∧
      ∃ g ∈ p.shared, g.id = seen.id ∧ g.bucket = seen.bucket)
    (hshared : p'.shared = p.shared.write c s) (hw : p'.written.Perm ([c] ++ p.written)) :
    Exact t₀ p' ↔ Fits p.shared c s := by
  have hcolumn : ∀ (column : CountingStat → Int) (delta : RecordCall → Int),
      (∀ k, totalOf p.shared column k = totalOf t₀ column k + p.deltas delta k) →
      ((∀ k, totalOf p'.shared column k = totalOf t₀ column k + p'.deltas delta k) ↔
        ∀ k, totalOf (p.shared.write c s) column k =
          totalOf p.shared column k + if c.bucket = k then delta c else 0) := by
    intro column delta hbefore
    refine forall_congr' fun k => ?_
    rw [hshared, deltas_append hw, hbefore, add_assoc]
  have hin := hcolumn _ _ h.inCount
  have hout := hcolumn _ _ h.outCount
  cases s with
  | none =>
    have hrows : ∀ k, rowsOf p'.shared k = rowsOf p.shared k + if c.bucket = k then 1 else 0 := by
      intro k
      have hfresh : ∀ x ∈ p.shared, x.id ≠ (c.newRow p.shared.freshKey).id := p.shared.ne_freshKey
      rw [hshared, CountingStats.write, rowsOf_insert hfresh]
      rfl
    have hzero : rowsOf p.shared c.bucket = 0 ↔ Fits p.shared c none := rowsOf_eq_zero
    rw [← hzero]
    constructor
    · intro h'
      have hone := h'.oneRow c.bucket
      rw [hrows, if_pos rfl] at hone
      omega
    · intro hnone
      refine ⟨hin.2 (totalOf_insert fun _ => rfl), hout.2 (totalOf_insert fun _ => rfl),
        fun k => ?_, fun d hd => ?_⟩
      · have hone := h.oneRow k
        rw [hrows]
        split
        · next hk => rw [← hk, hnone]
        · exact hone
      · rw [hrows]
        rcases List.mem_append.1 (hw.subset hd) with hd | hd
        · rw [List.mem_singleton.1 hd, hnone, if_pos rfl]
        · have hone := h.row d hd
          split
          · next hk => rw [← hk] at hone; omega
          · exact hone
  | some seen =>
    obtain ⟨hseen, g, hg, hid, hbucket⟩ := hread seen rfl
    have hback := hbucket.trans hseen
    have hrows : ∀ k, rowsOf p'.shared k = rowsOf p.shared k := by
      intro k
      rw [hshared]
      exact rowsOf_modify (f := c.writeBack seen) (fun _ => rfl) fun _ => rfl
    have hfits : Fits p.shared c (some seen) ↔ (c.inDelta ≠ 0 → g.inCount = seen.inCount) ∧
        (c.outDelta ≠ 0 → g.outCount = seen.outCount) := by
      refine ⟨fun hf => hf g hg hid, fun hf g' hg' hid' => ?_⟩
      rw [Table.eq_of_key_eq hg' hg (hid'.trans hid.symm)]
      exact hf
    rw [hfits,
      ← totalOf_writeBack CountingStat.inCount RecordCall.inDelta (fun _ => rfl) hg hid hback,
      ← totalOf_writeBack CountingStat.outCount RecordCall.outDelta (fun _ => rfl) hg hid hback,
      ← hin, ← hout]
    refine ⟨fun h' => ⟨h'.inCount, h'.outCount⟩,
      fun hf => ⟨hf.1, hf.2, fun k => ?_, fun d hd => ?_⟩⟩
    · rw [hrows]
      exact h.oneRow k
    · rw [hrows]
      rcases List.mem_append.1 (hw.subset hd) with hd | hd
      · rw [List.mem_singleton.1 hd]
        have hone := h.oneRow c.bucket
        have hpos : rowsOf p.shared c.bucket ≠ 0 := fun hzero => rowsOf_eq_zero.1 hzero g hg hback
        omega
      · exact h.row d hd

/-! ## Steps -/

/-- Rows are not removed and stay in their buckets. -/
theorem exec_keeps (u : RecordThread) (e : Unit) (hg : g ∈ t) :
    ∃ g' ∈ (u.exec t e).1, g'.id = g.id ∧ g'.bucket = g.bucket := by
  cases u with
  | select c => exact ⟨g, hg, rfl, rfl⟩
  | done c => exact ⟨g, hg, rfl, rfl⟩
  | write c s =>
    cases s with
    | none => exact ⟨g, Table.mem_insert_of_mem hg, rfl, rfl⟩
    | some seen =>
      refine ⟨_, Table.mem_modify_of_mem (f := c.writeBack seen) (fun _ => rfl) hg, ?_⟩
      split <;> exact ⟨rfl, rfl⟩

theorem reads_step (h : Reads p) (a : PoolAct RecordCall Unit) : Reads (p.step a) := by
  rcases @Pool.step_cases _ _ _ _ RecordThread.select RecordThread.exec p a with
    heq | ⟨r, -, heq⟩ | ⟨i, e, u, -, hu, heq⟩ <;> (rw [step, heq]; intro c seen hmem)
  · exact h c seen hmem
  · rcases List.mem_append.1 hmem with hmem | hmem
    · exact h c seen hmem
    · cases List.mem_singleton.1 hmem
  · rcases List.mem_or_eq_of_mem_set hmem with hmem | hmem
    · obtain ⟨hseen, g, hg, hid, hbucket⟩ := h c seen hmem
      obtain ⟨g', hg', hid', hbucket'⟩ := exec_keeps u e hg
      exact ⟨hseen, g', hg', hid'.trans hid, hbucket'.trans hbucket⟩
    · cases u with
      | select d =>
        obtain ⟨rfl, hseen⟩ := RecordThread.write.inj hmem
        obtain ⟨hg, hbucket⟩ := CountingStats.seen_eq_some hseen.symm
        exact ⟨hbucket, seen, hg, rfl, rfl⟩
      | write d s => cases hmem
      | done d => cases hmem

/-- What was written and the table decide whether the counts are exact. -/
theorem Exact.congr {t₀ : CountingStats} {p' : CountCalls} (h : Exact t₀ p)
    (hshared : p'.shared = p.shared) (hw : p'.written.Perm p.written) : Exact t₀ p' := by
  have hdeltas : ∀ delta k, p'.deltas delta k = p.deltas delta k := fun delta k =>
    ((hw.filter _).map _).sum_eq
  refine ⟨fun k => ?_, fun k => ?_, ?_, fun c hc => ?_⟩
  · rw [hshared, hdeltas, h.inCount]
  · rw [hshared, hdeltas, h.outCount]
  · rw [hshared]
    exact h.oneRow
  · rw [hshared]
    exact h.row c (hw.subset hc)

/-- A step keeps the counts exact exactly if its write, if any, does what its call asks for. -/
theorem exact_step {t₀ : CountingStats} (h : Exact t₀ p) (hreads : Reads p)
    (a : PoolAct RecordCall Unit) : Exact t₀ (p.step a) ↔ p.WriteFits a := by
  cases a with
  | spawn r =>
    refine iff_of_true (h.congr rfl (.of_eq ?_)) trivial
    simp [written, step, Pool.step, List.flatMap_append, RecordThread.written]
  | exec i e =>
    cases hi : p.threads[i]? with
    | none =>
      have heq : p.step (.exec i e) = p := by simp [step, Pool.step, hi]
      rw [heq]
      exact iff_of_true h fun c s hcs => by rw [hi] at hcs; cases hcs
    | some u =>
      have heq := @Pool.step_exec _ _ _ _ RecordThread.select RecordThread.exec p i u hi e
      have hshared : (p.step (.exec i e)).shared = (u.exec p.shared e).1 := by rw [step, heq]
      have hwritten : ∀ new, (u.exec p.shared e).2.written.Perm (new ++ u.written) →
          (p.step (.exec i e)).written.Perm (new ++ p.written) := by
        intro new hnew
        rw [step, heq]
        exact Pool.perm_flatMap_exec RecordThread.written hi hnew
      cases u with
      | select c =>
        exact iff_of_true (h.congr hshared (hwritten [] (.refl _)))
          fun c s hcs => by rw [hi] at hcs; cases hcs
      | done c =>
        exact iff_of_true (h.congr hshared (hwritten [] (.refl _)))
          fun c s hcs => by rw [hi] at hcs; cases hcs
      | write c s =>
        rw [h.write_iff (fun seen hs => hreads c seen (hs ▸ List.mem_of_getElem? hi)) hshared
          (hwritten [c] (.refl _))]
        refine ⟨fun hf c' s' hcs => ?_, fun hf => hf c s hi⟩
        cases hi.symm.trans hcs
        exact hf

end

end CountCalls

/-- In a run of calls of `CountingStat.record`, in any interleaving of their statements, no delta is
lost and no bucket gets a second row exactly if every insertion finds no row of its bucket and every
column that is written back still holds what was read. -/
theorem buckets_iff (t₀ : CountingStats) (hrows : ∀ k, CountCalls.rowsOf t₀ k ≤ 1)
    (as : List (PoolAct RecordCall Unit)) :
    (∀ pre, pre <+: as → CountCalls.Exact t₀ (pre.foldl CountCalls.step ⟨t₀, []⟩)) ↔
      ∀ pre a, pre ++ [a] <+: as → (pre.foldl CountCalls.step ⟨t₀, []⟩).WriteFits a := by
  have hreads : ∀ pre : List (PoolAct RecordCall Unit),
      CountCalls.Reads (pre.foldl CountCalls.step ⟨t₀, []⟩) := fun pre =>
    List.foldlRecOn pre _ (fun _ _ h => by cases h) fun _ h a _ => CountCalls.reads_step h a
  have hstart : CountCalls.Exact t₀ ⟨t₀, []⟩ :=
    ⟨fun _ => (add_zero _).symm, fun _ => (add_zero _).symm, hrows, fun c hc => by cases hc⟩
  refine Iff.trans ?_ (forall_prefix_iff
    (I := fun p => CountCalls.Exact t₀ p ∧ CountCalls.Reads p) (fun p a h => ?_)
    ⟨hstart, hreads []⟩)
  · exact forall₂_congr fun pre _ => (and_iff_left (hreads pre)).symm
  · rw [and_iff_left (CountCalls.reads_step h.2 a)]
    exact CountCalls.exact_step h.1 h.2 a

namespace BucketFixture

/-- A person that goes in over a line, in the first minute. -/
def goesIn : RecordCall := ⟨1, 1, 0, 1, 0, none, some "person"⟩

/-- Two calls, each of which looks for the row before the other has inserted it. -/
def together : List (PoolAct RecordCall Unit) :=
  [.spawn goesIn, .spawn goesIn, .exec 0 (), .exec 1 (), .exec 0 (), .exec 1 ()]

/-- Two calls that read the same row. -/
def lost : List (PoolAct RecordCall Unit) :=
  [.spawn goesIn, .exec 0 (), .exec 0 (), .spawn goesIn, .spawn goesIn, .exec 1 (), .exec 2 (),
    .exec 1 (), .exec 2 ()]

/-- Two calls, one after the other. -/
def inTurn : List (PoolAct RecordCall Unit) :=
  [.spawn goesIn, .exec 0 (), .exec 0 (), .spawn goesIn, .exec 1 (), .exec 1 ()]

end BucketFixture

open BucketFixture in
theorem buckets_inTurn :
    (∀ pre, pre <+: inTurn → CountCalls.Exact ∅ (pre.foldl CountCalls.step ⟨∅, []⟩)) ↔
      ∀ pre a, pre ++ [a] <+: inTurn → (pre.foldl CountCalls.step ⟨∅, []⟩).WriteFits a :=
  buckets_iff ∅ (fun _ => Nat.zero_le 1) inTurn

open BucketFixture in
/-- Two calls at the same time leave two rows, or a row that has lost a delta. -/
theorem not_exact : ¬ CountCalls.Exact ∅ (together.foldl CountCalls.step ⟨∅, []⟩) ∧
    ¬ CountCalls.Exact ∅ (lost.foldl CountCalls.step ⟨∅, []⟩) := by
  constructor
  · intro h
    have hrows := h.oneRow goesIn.bucket
    revert hrows
    decide +kernel
  · intro h
    have hin := h.inCount goesIn.bucket
    revert hin
    decide +kernel

end AeroXProtect
