import AeroXProtect.Detection.Counting
import Mathlib.Data.List.Chain

/-!
# In and out across a line

A track that changes sides is counted in or out. What a line records for a track is a function of
the rows of that track alone, `crossingCalls`, and its balance is half of the change of the side
(`line_balance`). Rows that the line does not count, because counting is off or because of their
label, are passed over, so that the balance is that of the counted rows.
-/

open Lib

namespace AeroXProtect

/-! ## The crossings of a sequence of rows -/

/-- What is recorded for the rows of a track: one call for each change of sides. -/
def crossingCalls (line : CountingLine) (p q : Double × Double) : List CountRow → List RecordCall
  | r :: r' :: rest =>
    if lineSide r'.position p q = lineSide r.position p q then crossingCalls line p q (r' :: rest)
    else
      Counting.crossCall line (lineSide r'.position p q) r' :: crossingCalls line p q (r' :: rest)
  | _ => []

/-- People in minus people out. -/
def RecordCall.net (c : RecordCall) : Int := c.inDelta - c.outDelta

section
variable {line : CountingLine} {p q : Double × Double} {r : CountRow} {rows : List CountRow}
  {c : RecordCall}

theorem lineSide_cases (pos p q : Double × Double) :
    lineSide pos p q = 1 ∨ lineSide pos p q = -1 := by
  unfold lineSide
  dsimp only
  split
  · exact .inl rfl
  · exact .inr rfl

/-- A crossing counts one in or one out, by the side that is entered. -/
theorem crossCall_cases (line : CountingLine) (r : CountRow) {side : Int}
    (h : side = 1 ∨ side = -1) :
    (side = 1 ∧ (Counting.crossCall line side r).inDelta = 1 ∧
      (Counting.crossCall line side r).outDelta = 0) ∨
    (side = -1 ∧ (Counting.crossCall line side r).inDelta = 0 ∧
      (Counting.crossCall line side r).outDelta = 1) := by
  rcases h with rfl | rfl
  · exact .inl ⟨rfl, rfl, rfl⟩
  · exact .inr ⟨rfl, rfl, rfl⟩

/-- The first crossing leaves the side of the first row. -/
theorem net_head_crossingCalls (h : (crossingCalls line p q (r :: rows)).head? = some c) :
    c.net = -lineSide r.position p q := by
  induction rows generalizing r with
  | nil => cases h
  | cons r' rest ih =>
    rw [crossingCalls] at h
    split at h
    · next heq => rw [ih h, heq]
    · next hne =>
      cases h
      have hside := lineSide_cases r'.position p q
      have hother := lineSide_cases r.position p q
      rcases crossCall_cases line r' hside with ⟨h1, h2, h3⟩ | ⟨h1, h2, h3⟩ <;>
        (unfold RecordCall.net; omega)

/-- In and out alternate. -/
theorem chain_crossingCalls (line : CountingLine) (p q : Double × Double) (rows : List CountRow) :
    (crossingCalls line p q rows).IsChain fun c d => d.net = -c.net := by
  induction rows with
  | nil => exact .nil
  | cons r rest ih =>
    cases rest with
    | nil => exact .nil
    | cons r' rest =>
      rw [crossingCalls]
      split
      · exact ih
      · refine ih.cons fun d hd => ?_
        rw [net_head_crossingCalls hd]
        rcases crossCall_cases line r' (lineSide_cases r'.position p q) with
          ⟨h1, h2, h3⟩ | ⟨h1, h2, h3⟩ <;> (unfold RecordCall.net; omega)

theorem crossingCalls_cases (h : c ∈ crossingCalls line p q rows) :
    (c.inDelta = 1 ∧ c.outDelta = 0) ∨ (c.inDelta = 0 ∧ c.outDelta = 1) := by
  induction rows with
  | nil => cases h
  | cons r rest ih =>
    cases rest with
    | nil => cases h
    | cons r' rest =>
      rw [crossingCalls] at h
      split at h
      · exact ih h
      · rcases List.mem_cons.1 h with rfl | h
        · exact (crossCall_cases line r' (lineSide_cases r'.position p q)).imp And.right And.right
        · exact ih h

/-- The balance of the crossings is half of the change of the side. -/
theorem sum_crossingCalls (line : CountingLine) (p q : Double × Double) {last : CountRow}
    (h : (r :: rows).getLast? = some last) :
    2 * ((crossingCalls line p q (r :: rows)).map RecordCall.net).sum =
      lineSide last.position p q - lineSide r.position p q := by
  induction rows generalizing r with
  | nil =>
    cases h
    simp [crossingCalls]
  | cons r' rest ih =>
    rw [List.getLast?_cons_cons] at h
    have hrest := ih h
    rw [crossingCalls]
    split
    · next heq => rw [hrest, heq]
    · next hne =>
      rw [List.map_cons, List.sum_cons, mul_add, hrest]
      have hother := lineSide_cases r.position p q
      rcases crossCall_cases line r' (lineSide_cases r'.position p q) with
        ⟨h1, h2, h3⟩ | ⟨h1, h2, h3⟩ <;> (unfold RecordCall.net; omega)

theorem sum_net (calls : List RecordCall) : (calls.map RecordCall.net).sum =
    (calls.map RecordCall.inDelta).sum - (calls.map RecordCall.outDelta).sum := by
  induction calls with
  | nil => rfl
  | cons c calls ih =>
    simp only [List.map_cons, List.sum_cons, ih, RecordCall.net]
    omega

end

/-! ## The engine -/

/-- The rows of a track that a line counts, each with the instant at which Redis is asked. -/
def CountBatch.crossed (b : CountBatch) (line : CountingLine) (track : Nat) :
    List (Int × CountRow) :=
  if b.cameraId = line.cameraId ∧ b.flags.counting = true then
    (b.seen line.id).filter fun x =>
      decide (x.2.trackId = some track) && line.counts x.2.label
  else []

/-- The side of a track does not expire from one of its rows to the next. -/
def SideLives (seen : List (Int × CountRow)) : Prop :=
  seen.IsChain fun x y => y.1 ≤ x.1 + seconds countTtl

instance (seen : List (Int × CountRow)) : Decidable (SideLives seen) :=
  inferInstanceAs (Decidable (seen.IsChain fun x y => y.1 ≤ x.1 + seconds countTtl))

namespace Counting

/-- What a counted row does to its track. -/
def crossMove (line : CountingLine) (p q : Double × Double) (track : Nat) (v : TrackView)
    (x : Int × CountRow) : TrackView :=
  let side := lineSide x.2.position p q
  { v with
    side := some (side, x.1 + seconds countTtl)
    log := v.log ++
      if (Timed.valueAt x.1 v.side).any fun prev => prev != side then
        [⟨line.id, some track, .record (crossCall line side x.2)⟩]
      else [] }

section
variable {zone : Int → Int} {lines : CountingLines} {line : CountingLine} {p q : Double × Double}
  {s : Counting} {track : Nat} {b : CountBatch} {v : TrackView} {x : Int × CountRow}
  {rest : List (Int × CountRow)}

/-- A counted row of the track. -/
theorem trackView_cross (s : Counting) (x : Int × CountRow) :
    (cross line p q s x.1 track x.2).trackView line.id track =
      crossMove line p q track (s.trackView line.id track) x := by
  unfold cross
  dsimp only
  split
  · next hprev =>
    simp only [Timed.get] at hprev
    simp [crossMove, trackView, record, crossCall, List.filter_append, hprev]
  · next hprev =>
    simp only [Timed.get] at hprev
    simp [crossMove, trackView, hprev]

theorem trackView_batch_line (hline : line ∈ lines) (hon : line.enabled = true)
    (hlive : line.deletedAt = none) (hgeometry : line.geometry = .line p q) :
    (s.processBatch zone lines b).trackView line.id track =
      (b.crossed line track).foldl (crossMove line p q track) (s.trackView line.id track) := by
  have hrow : ∀ (y : Counting × List Nat) (x : Int × CountRow), x.2.trackId = some track →
      (processRow zone line b.flags y x).1.trackView line.id track =
        if line.counts x.2.label ∧ b.flags.counting = true then
          crossMove line p q track (y.1.trackView line.id track) x
        else y.1.trackView line.id track := by
    intro y x htrack
    unfold processRow
    rw [htrack]
    dsimp only
    split
    · next hlabel =>
      rw [hgeometry]
      dsimp only
      split
      · next hflag => rw [if_pos ⟨hlabel, hflag⟩, trackView_cross]
      · next hflag => rw [if_neg fun h => hflag h.2]
    · next hlabel => rw [if_neg fun h => hlabel h.1]
  rw [trackView_processBatch hline hon hlive (fun x => decide (x.2.trackId = some track) &&
    line.counts x.2.label && b.flags.counting) (crossMove line p q track)]
  · unfold CountBatch.crossed
    cases hflag : b.flags.counting <;> simp
  · intro _ y x _ hx
    simp only [Bool.and_eq_true, decide_eq_true_eq] at hx
    rw [hrow y x hx.1.1, if_pos ⟨hx.1.2, hx.2⟩]
  · intro _ y x _ hx
    by_cases htrack : x.2.trackId = some track
    · rw [hrow y x htrack, if_neg]
      rintro ⟨hlabel, hflag⟩
      simp [htrack, hlabel, hflag] at hx
    · exact trackView_processRow fun h => htrack h.2

/-- The log of a track whose side is known. -/
theorem log_foldl_crossMove (hlives : SideLives (x :: rest))
    (hside : v.side = some (lineSide x.2.position p q, x.1 + seconds countTtl)) :
    (rest.foldl (crossMove line p q track) v).log =
      v.log ++ (crossingCalls line p q (x.2 :: rest.map Prod.snd)).map fun c =>
        ⟨line.id, some track, .record c⟩ := by
  induction rest generalizing x v with
  | nil => simp [crossingCalls]
  | cons y rest ih =>
    obtain ⟨hnow, hrest⟩ := List.isChain_cons_cons.1 hlives
    rw [List.foldl_cons, ih hrest rfl, List.map_cons, crossingCalls]
    simp only [crossMove, hside, Timed.valueAt, if_pos hnow, Option.any_some]
    by_cases hsame : lineSide y.2.position p q = lineSide x.2.position p q
    · simp [hsame]
    · simp [hsame, Ne.symm hsame]

/-- The log of a track that is new to the line. -/
theorem log_crossings {seen : List (Int × CountRow)} (hlives : SideLives seen)
    (hnew : v.side = none) :
    (seen.foldl (crossMove line p q track) v).log =
      v.log ++ (crossingCalls line p q (seen.map Prod.snd)).map fun c =>
        ⟨line.id, some track, .record c⟩ := by
  cases seen with
  | nil => simp [crossingCalls]
  | cons x rest =>
    rw [List.foldl_cons, log_foldl_crossMove hlives rfl, List.map_cons]
    simp [crossMove, hnew, Timed.valueAt]

/-! ### The table -/

/-- All calls of `CountingStat.record`. -/
def calls (s : Counting) : List RecordCall := s.log.filterMap fun e =>
  match e.effect with
  | .record c => some c
  | .emit _ => none

/-- The rows hold what the calls have added to those of the table `t`. -/
def Adds (t : CountingStats) (s : Counting) : Prop := ∀ sel : CountBucket → Bool,
  s.stats.total CountingStat.inCount sel = t.total CountingStat.inCount sel +
    ((s.calls.filter fun c => sel c.bucket).map RecordCall.inDelta).sum ∧
  s.stats.total CountingStat.outCount sel = t.total CountingStat.outCount sel +
    ((s.calls.filter fun c => sel c.bucket).map RecordCall.outDelta).sum

section
variable {t : CountingStats} {m : Option Nat} {other : CountingLine} {flags : CountFlags}

theorem Adds.record (h : Adds t s) (c : RecordCall) : Adds t (s.record m c) := by
  intro sel
  obtain ⟨hin, hout⟩ := h sel
  have hcalls : (s.record m c).calls = s.calls ++ [c] := by
    simp [calls, Counting.record, List.filterMap_append]
  rw [hcalls, List.filter_append]
  simp only [Counting.record, CountingStats.total_inCount_record,
    CountingStats.total_outCount_record, hin, hout, List.map_append, List.sum_append]
  cases hsel : sel c.bucket <;> simp [hsel, add_assoc]

theorem Adds.emit (h : Adds t s) (e : CountEvent) : Adds t (s.emit m e) := by
  intro sel
  have hcalls : (s.emit m e).calls = s.calls := by
    simp [calls, Counting.emit, List.filterMap_append]
  rw [hcalls]
  exact h sel

theorem Adds.keys (h : Adds t s) (keys : Timed CountKey Int) : Adds t { s with keys } := h

theorem Adds.processRow {x : Counting × List Nat} (h : Adds t x.1) (seen : Int × CountRow) :
    Adds t (processRow zone other flags x seen).1 := by
  unfold Counting.processRow
  split
  · exact h
  · split
    · split
      · split
        · dsimp only [cross]
          split
          · exact (h.keys _).record _
          · exact h.keys _
        · exact h
      · split
        · dsimp only
          split
          · unfold dwell
            split
            · exact h
            · split
              · exact h
              · split
                · exact h.keys _
                · dsimp only
                  split
                  · exact (h.keys _).emit _
                  · exact h
          · exact h
        · exact h.keys _
    · exact h

theorem Adds.occupied (h : Adds t s) (bucketTs : Int) (members : List Nat) :
    Adds t (occupied other flags s bucketTs members) := by
  have hrec : Adds t (if flags.counting then s.record none ⟨other.cameraId, other.id, bucketTs,
      0, 0, some (members.length : Int), none⟩ else s) := by
    split
    · exact h.record _
    · exact h
  unfold Counting.occupied
  dsimp only
  split
  · exact hrec.emit _
  · exact hrec

theorem Adds.processLine (h : Adds t s) (seen : List (Int × CountRow)) :
    Adds t (s.processLine zone other flags seen) := by
  have hfold : Adds t (seen.foldl (Counting.processRow zone other flags) (s, [])).1 :=
    List.foldlRecOn (motive := fun x : Counting × List Nat => Adds t x.1) seen _ h
      fun _ hx r _ => hx.processRow r
  unfold Counting.processLine
  dsimp only
  split
  · split
    · exact hfold
    · exact hfold.occupied _ _
  · exact hfold

theorem Adds.processBatches (h : Adds t s) (batches : List CountBatch) :
    Adds t (batches.foldl (processBatch zone lines) s) := by
  refine List.foldlRecOn batches _ h fun s hs b _ => ?_
  unfold processBatch
  split
  · exact List.foldlRecOn _ _ hs fun _ hs l _ => hs.processLine _
  · exact hs

end

end

end Counting

/-- What a line records for a track depends on the rows of the track that the line counts, and on
nothing else: not on the batches, the other tracks or the other lines. In and out alternate, their
difference is half of the change of the side, and the table sums them up. -/
theorem line_balance (zone : Int → Int) (lines : CountingLines) (line : CountingLine)
    (p q : Double × Double) (track : Nat) (s : Counting) (batches : List CountBatch)
    (hline : line ∈ lines) (hon : line.enabled = true) (hlive : line.deletedAt = none)
    (hgeometry : line.geometry = .line p q)
    (hnew : s.keys.cell (.side line.id track) = none) (hlog : s.log = [])
    (hlives : SideLives (batches.flatMap fun b => b.crossed line track)) :
    let s' := batches.foldl (Counting.processBatch zone lines) s
    let rows := (batches.flatMap fun b => b.crossed line track).map Prod.snd
    let calls := s'.callsOf line.id track
    calls = crossingCalls line p q rows ∧
      (calls.IsChain fun c d => d.inDelta = c.outDelta ∧ d.outDelta = c.inDelta) ∧
      (∀ c ∈ calls, c.inDelta = 1 ∧ c.outDelta = 0 ∨ c.inDelta = 0 ∧ c.outDelta = 1) ∧
      (∀ first last, rows.head? = some first → rows.getLast? = some last →
        (calls.map RecordCall.inDelta).sum - (calls.map RecordCall.outDelta).sum =
          (lineSide last.position p q - lineSide first.position p q) / 2) ∧
      s'.Adds s.stats := by
  have hlogged : (batches.foldl (Counting.processBatch zone lines) s).callsOf line.id track =
      crossingCalls line p q ((batches.flatMap fun b => b.crossed line track).map Prod.snd) := by
    have hview : (batches.foldl (Counting.processBatch zone lines) s).trackView line.id track =
        (batches.flatMap fun b => b.crossed line track).foldl (Counting.crossMove line p q track)
          (s.trackView line.id track) :=
      foldl_view_flatMap (fun s : Counting => s.trackView line.id track)
        (fun b : CountBatch => b.crossed line track) (Counting.crossMove line p q track)
        fun s b _ => Counting.trackView_batch_line hline hon hlive hgeometry
    unfold Counting.callsOf
    rw [hview, Counting.log_crossings hlives hnew]
    simp [Counting.trackView, hlog, List.filterMap_map]
  dsimp only
  rw [hlogged]
  refine ⟨rfl, ?_, fun c hc => crossingCalls_cases hc, fun first last hfirst hlast => ?_, ?_⟩
  · refine (chain_crossingCalls line p q _).imp_of_mem_imp fun c d hc hd hnet => ?_
    rcases crossingCalls_cases hc with ⟨h1, h2⟩ | ⟨h1, h2⟩ <;>
      rcases crossingCalls_cases hd with ⟨h3, h4⟩ | ⟨h3, h4⟩ <;>
      (unfold RecordCall.net at hnet; omega)
  · cases hrows : (batches.flatMap fun b => b.crossed line track).map Prod.snd with
    | nil => rw [hrows] at hfirst; cases hfirst
    | cons r rest =>
      rw [hrows] at hfirst hlast
      cases hfirst
      have hsum := sum_crossingCalls line p q hlast
      rw [sum_net] at hsum
      omega
  · refine Counting.Adds.processBatches (fun sel => ?_) batches
    simp [Counting.calls, hlog]

namespace BalanceFixture

/-- The line from the top to the bottom in the middle of the picture. -/
def gate (classFilter : List String) : CountingLine where
  id := 1
  cameraId := 1
  geometry := .line (.finite (1 / 2), .finite 0) (.finite (1 / 2), .finite 1)
  classFilter := classFilter
  loiterThresholdS := none
  occupancyThreshold := none
  enabled := true
  deletedAt := none

def lines (classFilter : List String) : CountingLines := ⟨[gate classFilter], by simp⟩

/-- A box at the left or at the right of the line. -/
def row (label : String) (right : Bool) (ts : Int) : CountRow where
  trackId := some 7
  label := some label
  x1 := .finite (if right then 5 / 8 else 1 / 8)
  y1 := .finite (1 / 8)
  x2 := .finite (if right then 7 / 8 else 3 / 8)
  y2 := .finite (1 / 2)
  ts := ts

/-- One row a batch, a second apart. -/
def batches (rows : List CountRow) : List CountBatch :=
  rows.map fun r => ⟨1, [r], ⟨true, true⟩, fun _ _ => r.ts⟩

def start : Counting := ⟨∅, ∅, []⟩

/-- A person that goes to the left and back. -/
def walk : List CountBatch :=
  batches [row "person" false (seconds 0), row "person" true (seconds 1),
    row "person" true (seconds 2), row "person" false (seconds 3)]

/-- A track that is called a car on the other side. -/
def relabelled : List CountBatch :=
  batches [row "person" false (seconds 0), row "car" true (seconds 1)]

end BalanceFixture

open BalanceFixture in
/-- There and back is one in and one out. -/
theorem line_balance_walk :
    let s' := walk.foldl (Counting.processBatch (fun _ => 0) (lines ["person"])) start
    let rows := (walk.flatMap fun b => b.crossed (gate ["person"]) 7).map Prod.snd
    let calls := s'.callsOf 1 7
    let p := (.finite (1 / 2), .finite 0)
    let q := (.finite (1 / 2), .finite 1)
    calls = crossingCalls (gate ["person"]) p q rows ∧
      (calls.IsChain fun c d => d.inDelta = c.outDelta ∧ d.outDelta = c.inDelta) ∧
      (∀ c ∈ calls, c.inDelta = 1 ∧ c.outDelta = 0 ∨ c.inDelta = 0 ∧ c.outDelta = 1) ∧
      (∀ first last, rows.head? = some first → rows.getLast? = some last →
        (calls.map RecordCall.inDelta).sum - (calls.map RecordCall.outDelta).sum =
          (lineSide last.position p q - lineSide first.position p q) / 2) ∧
      s'.Adds start.stats :=
  line_balance (fun _ => 0) (lines ["person"]) (gate ["person"]) _ _ 7 start walk (.head _) rfl rfl
    rfl rfl rfl (by decide +kernel)

open BalanceFixture in
/-- A track that changes its label as it changes sides is not counted by a line that filters by
label. -/
theorem line_balance_relabelled :
    let s' := relabelled.foldl (Counting.processBatch (fun _ => 0) (lines ["person"])) start
    let calls := s'.callsOf 1 7
    (calls.map RecordCall.inDelta).sum - (calls.map RecordCall.outDelta).sum ≠
      (lineSide (row "car" true (seconds 1)).position (.finite (1 / 2), .finite 0)
          (.finite (1 / 2), .finite 1) -
        lineSide (row "person" false (seconds 0)).position (.finite (1 / 2), .finite 0)
          (.finite (1 / 2), .finite 1)) / 2 := by
  decide +kernel

end AeroXProtect
