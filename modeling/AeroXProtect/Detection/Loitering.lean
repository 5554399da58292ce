import AeroXProtect.Detection.Counting

/-!
# Loitering

A region with a threshold reports a track that stays. The keys that remember the entry and the
report live for two minutes and are not refreshed: a row of the stay after that renews the entry,
and the report is forgotten. `loiter_iff` says for which stays a track is reported when its stay has
lasted the threshold, and not again.
-/

open Lib

namespace AeroXProtect

/-! ## Cutting a run after a row -/

/-- A batch up to a row. -/
def CountBatch.cut (b : CountBatch) (n : Nat) : CountBatch := { b with rows := b.rows.take n }

/-- The batches up to a row of one of them. -/
def upToRow (batches : List CountBatch) (i n : Nat) : List CountBatch :=
  batches.take i ++ ((batches.drop i).take 1).map fun b => b.cut n

/-- The rows of a track that a region looks at, each with the instant at which Redis is asked. -/
def CountBatch.dwelling (b : CountBatch) (line : CountingLine) (track : Nat) :
    List (Int × CountRow) :=
  if b.cameraId = line.cameraId ∧ b.flags.loiter = true then
    (b.seen line.id).filter fun x =>
      decide (x.2.trackId = some track) && line.counts x.2.label
  else []

section
variable {line : CountingLine} {track : Nat} {b : CountBatch} {batches : List CountBatch}
  {pre : List (Int × CountRow)}

@[simp] theorem cameraId_cut (b : CountBatch) (n : Nat) : (b.cut n).cameraId = b.cameraId := rfl

@[simp] theorem flags_cut (b : CountBatch) (n : Nat) : (b.cut n).flags = b.flags := rfl

@[simp] theorem seen_cut (b : CountBatch) (lineId n : Nat) :
    (b.cut n).seen lineId = (b.seen lineId).take n := by
  unfold CountBatch.seen CountBatch.cut
  rw [← List.map_take]
  congr 1
  refine List.ext_getElem? fun i => ?_
  rw [List.getElem?_zipIdx, List.getElem?_take, List.getElem?_take, List.getElem?_zipIdx]
  split <;> rfl

theorem dwelling_cut (b : CountBatch) (n : Nat) :
    (b.cut n).dwelling line track <+: b.dwelling line track := by
  unfold CountBatch.dwelling
  rw [seen_cut, cameraId_cut, flags_cut]
  split
  · exact (List.take_prefix n _).filter _
  · exact List.prefix_rfl

theorem exists_cut (h : pre <+: b.dwelling line track) :
    ∃ n, (b.cut n).dwelling line track = pre := by
  unfold CountBatch.dwelling at h ⊢
  simp only [seen_cut, cameraId_cut, flags_cut]
  split at h
  · next hb =>
    obtain ⟨l, hl, rfl⟩ := List.prefix_filter_iff.1 h
    refine ⟨l.length, ?_⟩
    rw [if_pos hb, ← List.prefix_iff_eq_take.1 hl]
  · next hb => exact ⟨0, by rw [if_neg hb, List.prefix_nil.1 h]⟩

theorem mem_upToRow {i n : Nat} (h : b ∈ upToRow batches i n) :
    ∃ b' ∈ batches, b'.cameraId = b.cameraId ∧ ∀ r ∈ b.rows, r ∈ b'.rows := by
  rcases List.mem_append.1 h with h | h
  · exact ⟨b, List.mem_of_mem_take h, rfl, fun _ hr => hr⟩
  · obtain ⟨b', hb', rfl⟩ := List.mem_map.1 h
    exact ⟨b', List.mem_of_mem_drop (List.mem_of_mem_take hb'), rfl,
      fun _ hr => List.mem_of_mem_take hr⟩

/-- What a track does up to a row is a part of its stay from the beginning. -/
theorem isPrefix_upToRow (batches : List CountBatch) (i n : Nat) :
    (upToRow batches i n).flatMap (fun b => b.dwelling line track) <+:
      batches.flatMap fun b => b.dwelling line track := by
  induction batches generalizing i with
  | nil => simp [upToRow]
  | cons b batches ih =>
    cases i with
    | zero =>
      simpa [upToRow] using (dwelling_cut b n).trans (List.prefix_append _ _)
    | succ i =>
      simpa [upToRow] using ih i

/-- Each part of the stay from the beginning is what the track does up to some row. -/
theorem exists_upToRow (h : pre <+: batches.flatMap fun b => b.dwelling line track) :
    ∃ i n, (upToRow batches i n).flatMap (fun b => b.dwelling line track) = pre := by
  induction batches generalizing pre with
  | nil => exact ⟨0, 0, by simpa [upToRow, eq_comm] using h⟩
  | cons b batches ih =>
    rw [List.flatMap_cons] at h
    rcases List.prefix_or_prefix_of_prefix h (List.prefix_append _ _) with hb | hb
    · obtain ⟨n, hn⟩ := exists_cut hb
      exact ⟨0, n, by simpa [upToRow] using hn⟩
    · obtain ⟨rest, rfl⟩ := hb
      rw [List.prefix_append_right_inj] at h
      obtain ⟨i, n, hrest⟩ := ih h
      exact ⟨i + 1, n, by simpa [upToRow] using hrest⟩

end

/-! ## Stays -/

/-- The entry after some rows of a stay: its first row, and after two minutes the next one. -/
def entryOf (first : Int × CountRow) (rest : List (Int × CountRow)) : Int × CountRow :=
  rest.foldl (fun e x => if x.1 ≤ e.1 + seconds countTtl then e else x) first

/-- From one row to another the threshold has passed. -/
def Past (zone : Int → Int) (threshold : Int) (e x : Int × CountRow) : Prop :=
  1000 * threshold ≤ tsMs zone x.2.ts - tsMs zone e.2.ts

instance {zone : Int → Int} {threshold : Int} {e x : Int × CountRow} :
    Decidable (Past zone threshold e x) :=
  inferInstanceAs (Decidable (_ ≤ _))

/-- The stay has lasted the threshold. -/
def Lasted (zone : Int → Int) (threshold : Int) (stay : List (Int × CountRow)) : Prop :=
  ∃ first, stay.head? = some first ∧ ∃ x ∈ stay, Past zone threshold first x

instance {zone : Int → Int} {threshold : Int} {stay : List (Int × CountRow)} :
    Decidable (Lasted zone threshold stay) :=
  match stay with
  | [] => .isFalse fun ⟨_, h, _⟩ => by cases h
  | first :: rest =>
    decidable_of_iff (∃ x ∈ first :: rest, Past zone threshold first x)
      ⟨fun h => ⟨first, rfl, h⟩, fun ⟨_, h, hx⟩ => by cases h; exact hx⟩

/-- The next row of a stay is reported in time and not a second time: as long as the threshold has
not passed, it passes for the stay when it passes for the entry that is in force, and afterwards it
does not pass for the entry unless the report is remembered. -/
def ReportsRow (zone : Int → Int) (threshold : Int) (first : Int × CountRow)
    (pre : List (Int × CountRow)) (x : Int × CountRow) : Prop :=
  match pre.find? fun y => decide (Past zone threshold first y) with
  | none => Past zone threshold first x ↔ Past zone threshold (entryOf first (pre ++ [x])) x
  | some y => Past zone threshold (entryOf first (pre ++ [x])) x → x.1 ≤ y.1 + seconds countTtl

/-- The stays that are reported once. -/
def ReportsOnce (zone : Int → Int) (threshold : Int) : List (Int × CountRow) → Prop
  | [] => True
  | first :: rest =>
    0 < threshold ∧ ∀ pre x, pre ++ [x] <+: rest → ReportsRow zone threshold first pre x

/-! ## The engine -/

namespace Counting

/-- What a row in the region does to its track. -/
def dwellMove (zone : Int → Int) (line : CountingLine) (track : Nat) (threshold : Int)
    (v : TrackView) (x : Int × CountRow) : TrackView :=
  if threshold = 0 then v
  else
    match Timed.valueAt x.1 v.enter with
    | none => { v with enter := some (tsMs zone x.2.ts, x.1 + seconds countTtl) }
    | some enter =>
      if 1000 * threshold ≤ tsMs zone x.2.ts - enter ∧ Timed.valueAt x.1 v.loiter = none then
        { v with
          loiter := some (1, x.1 + seconds countTtl)
          log := v.log ++ [⟨line.id, some track,
            .emit (loiterEvent line track (tsMs zone x.2.ts - enter) x.2.label)⟩] }
      else v

section
variable {zone : Int → Int} {lines : CountingLines} {line : CountingLine} {threshold : Int}
  {s : Counting} {track : Nat} {b : CountBatch} {polygon : List (Double × Double)}

/-- A row of the track in the region. -/
theorem trackView_dwell (hthreshold : line.loiterThresholdS = some threshold) (s : Counting)
    (x : Int × CountRow) :
    (dwell zone line s x.1 track x.2).trackView line.id track =
      dwellMove zone line track threshold (s.trackView line.id track) x := by
  have henter : Timed.valueAt x.1 (s.trackView line.id track).enter =
      s.keys.get x.1 (.enter line.id track) := rfl
  have hloiter : Timed.valueAt x.1 (s.trackView line.id track).loiter =
      s.keys.get x.1 (.loiter line.id track) := rfl
  unfold dwell dwellMove
  rw [hthreshold, henter, hloiter]
  dsimp only
  split
  · rfl
  · cases s.keys.get x.1 (.enter line.id track) with
    | none => simp [trackView]
    | some enter =>
      dsimp only
      split
      · simp [trackView, emit, loiterEvent, List.filter_append]
      · rfl

/-- Where a row of the track stands. -/
def Inside (line : CountingLine) (track : Nat) (polygon : List (Double × Double))
    (r : CountRow) : Prop :=
  r.trackId = some track → line.counts r.label = true →
    pointInPolygon (Double.ofRat (1 / 10 ^ 12)) r.position.1 r.position.2 polygon = true

instance {r : CountRow} : Decidable (Inside line track polygon r) :=
  inferInstanceAs (Decidable (r.trackId = some track → line.counts r.label = true →
    pointInPolygon (Double.ofRat (1 / 10 ^ 12)) r.position.1 r.position.2 polygon = true))

theorem trackView_batch_region (hline : line ∈ lines) (hon : line.enabled = true)
    (hlive : line.deletedAt = none) (hgeometry : line.geometry = .region polygon)
    (hthreshold : line.loiterThresholdS = some threshold)
    (hinside : b.cameraId = line.cameraId → ∀ r ∈ b.rows, Inside line track polygon r) :
    (s.processBatch zone lines b).trackView line.id track =
      (b.dwelling line track).foldl (dwellMove zone line track threshold)
        (s.trackView line.id track) := by
  have hrow : b.cameraId = line.cameraId → ∀ (y : Counting × List Nat), ∀ x ∈ b.seen line.id,
      x.2.trackId = some track →
      (processRow zone line b.flags y x).1.trackView line.id track =
        if line.counts x.2.label ∧ b.flags.loiter = true then
          dwellMove zone line track threshold (y.1.trackView line.id track) x
        else y.1.trackView line.id track := by
    intro hcamera y x hx htrack
    have hmem : x.2 ∈ b.rows := by
      obtain ⟨r, hr, rfl⟩ := List.mem_map.1 hx
      exact List.fst_mem_of_mem_zipIdx hr
    unfold processRow
    rw [htrack]
    dsimp only
    split
    · next hlabel =>
      rw [hgeometry]
      dsimp only
      rw [if_pos (hinside hcamera x.2 hmem htrack hlabel)]
      dsimp only
      split
      · next hflag => rw [if_pos ⟨hlabel, hflag⟩, trackView_dwell hthreshold]
      · next hflag => rw [if_neg fun h => hflag h.2]
    · next hlabel => rw [if_neg fun h => hlabel h.1]
  rw [trackView_processBatch hline hon hlive (fun x => decide (x.2.trackId = some track) &&
    line.counts x.2.label && b.flags.loiter) (dwellMove zone line track threshold)]
  · unfold CountBatch.dwelling
    cases hflag : b.flags.loiter <;> simp
  · intro hcamera y x hseen hx
    simp only [Bool.and_eq_true, decide_eq_true_eq] at hx
    rw [hrow hcamera y x hseen hx.1.1, if_pos ⟨hx.1.2, hx.2⟩]
  · intro hcamera y x hseen hx
    by_cases htrack : x.2.trackId = some track
    · rw [hrow hcamera y x hseen htrack, if_neg]
      rintro ⟨hlabel, hflag⟩
      simp [htrack, hlabel, hflag] at hx
    · exact trackView_processRow fun h => htrack h.2

end

/-! ### Row by row -/

section
variable {zone : Int → Int} {line : CountingLine} {threshold : Int} {track : Nat}
  {v : TrackView} {first x : Int × CountRow} {pre rest : List (Int × CountRow)}

/-- The track after its first rows, as it should be: the entry is in force, and the track has been
reported if the threshold has passed. -/
structure Reported (zone : Int → Int) (threshold : Int) (first : Int × CountRow)
    (pre : List (Int × CountRow)) (v : TrackView) : Prop where
  enter : v.enter = some (tsMs zone (entryOf first pre).2.ts,
    (entryOf first pre).1 + seconds countTtl)
  loiter : v.loiter = (pre.find? fun y => decide (Past zone threshold first y)).map fun y =>
    (1, y.1 + seconds countTtl)
  events : v.events.length =
    if (pre.find? fun y => decide (Past zone threshold first y)).isSome then 1 else 0

theorem entryOf_append_singleton (first x : Int × CountRow) (pre : List (Int × CountRow)) :
    entryOf first (pre ++ [x]) =
      if x.1 ≤ (entryOf first pre).1 + seconds countTtl then entryOf first pre else x := by
  rw [entryOf, List.foldl_append]
  rfl

theorem not_past_self (h : 0 < threshold) : ¬ Past zone threshold x x := by
  unfold Past; omega

/-- The stay has lasted the threshold once some row after the first is past it. -/
theorem lasted_cons (h : 0 < threshold) : Lasted zone threshold (first :: pre) ↔
    (pre.find? fun y => decide (Past zone threshold first y)).isSome := by
  rw [List.find?_isSome]
  constructor
  · rintro ⟨_, hfirst, y, hy, hpast⟩
    cases hfirst
    rcases List.mem_cons.1 hy with rfl | hy
    · exact absurd hpast (not_past_self h)
    · exact ⟨y, hy, by simpa using hpast⟩
  · rintro ⟨y, hy, hpast⟩
    exact ⟨first, rfl, y, .tail _ hy, by simpa using hpast⟩

/-- What the next row emits: an event, if the threshold has passed for the entry in force and the
report is not remembered. -/
theorem dwellMove_reported (line : CountingLine) (track : Nat) (x : Int × CountRow)
    (hpos : 0 < threshold) (h : Reported zone threshold first pre v) :
    ∃ v', dwellMove zone line track threshold v x = v' ∧
      v'.enter = some (tsMs zone (entryOf first (pre ++ [x])).2.ts,
        (entryOf first (pre ++ [x])).1 + seconds countTtl) ∧
      if Past zone threshold (entryOf first (pre ++ [x])) x ∧ Timed.valueAt x.1 v.loiter = none then
        v'.loiter = some (1, x.1 + seconds countTtl) ∧ v'.events.length = v.events.length + 1
      else v'.loiter = v.loiter ∧ v'.events.length = v.events.length := by
  refine ⟨_, rfl, ?_⟩
  rw [entryOf_append_singleton]
  unfold dwellMove
  rw [if_neg hpos.ne', h.enter, Timed.valueAt_some]
  by_cases hnow : x.1 ≤ (entryOf first pre).1 + seconds countTtl
  · rw [if_pos hnow, if_pos hnow]
    dsimp only
    by_cases hemit : 1000 * threshold ≤ tsMs zone x.2.ts - tsMs zone (entryOf first pre).2.ts ∧
        Timed.valueAt x.1 v.loiter = none
    · have hpast : Past zone threshold (entryOf first pre) x ∧ Timed.valueAt x.1 v.loiter = none :=
        hemit
      rw [if_pos hemit, if_pos hpast]
      simp [TrackView.events, List.filterMap_append]
    · have hpast : ¬ (Past zone threshold (entryOf first pre) x ∧
          Timed.valueAt x.1 v.loiter = none) := hemit
      rw [if_neg hemit, if_neg hpast]
      exact ⟨h.enter, rfl, rfl⟩
  · rw [if_neg hnow, if_neg hnow, if_neg fun hp => not_past_self hpos hp.1]
    exact ⟨rfl, rfl, rfl⟩

/-- The next row is in order exactly if it emits an event when it is the first past the
threshold. -/
theorem reportsRow_iff (h : Reported zone threshold first pre v) :
    ReportsRow zone threshold first pre x ↔
      (Past zone threshold (entryOf first (pre ++ [x])) x ∧ Timed.valueAt x.1 v.loiter = none ↔
        pre.find? (fun y => decide (Past zone threshold first y)) = none ∧
          Past zone threshold first x) := by
  rw [h.loiter, ReportsRow]
  cases pre.find? fun y => decide (Past zone threshold first y) with
  | none => simp [iff_comm]
  | some y => simp [Timed.valueAt_some]

theorem find?_append_singleton :
    (pre ++ [x]).find? (fun y => decide (Past zone threshold first y)) =
      (pre.find? fun y => decide (Past zone threshold first y)).or
        (if Past zone threshold first x then some x else none) := by
  rw [List.find?_append]
  by_cases hx : Past zone threshold first x <;> simp [hx]

/-- The next row leaves the right number of events exactly if it is in order. -/
theorem events_step (line : CountingLine) (track : Nat) (hpos : 0 < threshold)
    (h : Reported zone threshold first pre v) :
    ((dwellMove zone line track threshold v x).events.length =
      if ((pre ++ [x]).find? fun y => decide (Past zone threshold first y)).isSome then 1 else 0) ↔
      ReportsRow zone threshold first pre x := by
  obtain ⟨v', hv', -, hmove⟩ := dwellMove_reported line track x hpos h
  have hevents := h.events
  rw [hv', reportsRow_iff h, find?_append_singleton]
  by_cases hemit : Past zone threshold (entryOf first (pre ++ [x])) x ∧
      Timed.valueAt x.1 v.loiter = none
  · rw [if_pos hemit] at hmove
    rw [hmove.2, hevents, iff_true_left hemit]
    cases pre.find? fun y => decide (Past zone threshold first y) <;>
      by_cases hx : Past zone threshold first x <;> simp [hx]
  · rw [if_neg hemit] at hmove
    rw [hmove.2, hevents, iff_false_left hemit]
    cases pre.find? fun y => decide (Past zone threshold first y) <;>
      by_cases hx : Past zone threshold first x <;> simp [hx]

/-- The next row leaves the track as it should be exactly if it is in order. -/
theorem reported_step (hpos : 0 < threshold) (h : Reported zone threshold first pre v) :
    Reported zone threshold first (pre ++ [x]) (dwellMove zone line track threshold v x) ↔
      ReportsRow zone threshold first pre x := by
  refine ⟨fun h' => (events_step line track hpos h).1 h'.events, fun hrow => ?_⟩
  obtain ⟨v', hv', henter, hmove⟩ := dwellMove_reported line track x hpos h
  have hevents := (events_step line track hpos h).2 hrow
  rw [hv'] at hevents ⊢
  refine ⟨henter, ?_, hevents⟩
  rw [reportsRow_iff h] at hrow
  rw [find?_append_singleton]
  by_cases hemit : Past zone threshold (entryOf first (pre ++ [x])) x ∧
      Timed.valueAt x.1 v.loiter = none
  · rw [if_pos hemit] at hmove
    obtain ⟨hnone, hx⟩ := hrow.1 hemit
    rw [hmove.1, hnone, if_pos hx]
    rfl
  · rw [if_neg hemit] at hmove
    rw [hmove.1, h.loiter]
    cases hpre : pre.find? fun y => decide (Past zone threshold first y) with
    | none =>
      have hx : ¬ Past zone threshold first x := fun hx => hemit (hrow.2 ⟨hpre, hx⟩)
      rw [if_neg hx]
      rfl
    | some y => rfl

/-- The first row of a stay enters. -/
theorem reported_first (zone : Int → Int) (line : CountingLine) (track : Nat)
    (first : Int × CountRow) (hpos : 0 < threshold) (henter : v.enter = none)
    (hloiter : v.loiter = none) (hlog : v.log = []) : Reported zone threshold first []
      (dwellMove zone line track threshold v first) := by
  unfold dwellMove
  rw [if_neg hpos.ne', henter]
  exact ⟨rfl, hloiter, by simp [TrackView.events, hlog]⟩

/-- After each row of a stay the number of events is right exactly if the stay is reported once. -/
theorem events_iff (line : CountingLine) (track : Nat) {stay : List (Int × CountRow)}
    (henter : v.enter = none) (hloiter : v.loiter = none) (hlog : v.log = []) :
    (∀ pre, pre <+: stay → (pre.foldl (dwellMove zone line track threshold) v).events.length =
      if Lasted zone threshold pre then 1 else 0) ↔ ReportsOnce zone threshold stay := by
  have hzero : v.events.length = 0 := by rw [TrackView.events, hlog]; rfl
  cases stay with
  | nil =>
    refine iff_of_true (fun pre hpre => ?_) trivial
    obtain rfl := List.prefix_nil.1 hpre
    rw [if_neg fun ⟨_, h, _⟩ => by cases h]
    exact hzero
  | cons first rest =>
    by_cases hpos : 0 < threshold
    · have hfirst := reported_first zone line track first hpos henter hloiter hlog
      set v₁ := dwellMove zone line track threshold v first
      have hmove : ∀ pre x, (pre ++ [x]).foldl (dwellMove zone line track threshold) v₁ =
          dwellMove zone line track threshold
            (pre.foldl (dwellMove zone line track threshold) v₁) x := fun pre x => by
        rw [List.foldl_append]
        rfl
      have hlasted : ∀ pre, (if Lasted zone threshold (first :: pre) then 1 else 0) =
          if (pre.find? fun y => decide (Past zone threshold first y)).isSome then 1 else 0 :=
        fun pre => if_congr (lasted_cons hpos) rfl rfl
      -- both sides say that the track is as it should be after every row
      have hrows : (∀ pre, pre <+: rest → Reported zone threshold first pre
          (pre.foldl (dwellMove zone line track threshold) v₁)) ↔
          ∀ pre x, pre ++ [x] <+: rest → ReportsRow zone threshold first pre x :=
        forall_history_iff (fun pre x h => by rw [hmove]; exact reported_step hpos h) hfirst
      have hcounts : (∀ pre, pre <+: rest → Reported zone threshold first pre
          (pre.foldl (dwellMove zone line track threshold) v₁)) ↔
          ∀ pre x, pre ++ [x] <+: rest →
            (dwellMove zone line track threshold
              (pre.foldl (dwellMove zone line track threshold) v₁) x).events.length =
              if Lasted zone threshold (first :: (pre ++ [x])) then 1 else 0 :=
        forall_history_iff (fun pre x h => by
          rw [hmove, hlasted]
          exact (reported_step hpos h).trans (events_step line track hpos h).symm) hfirst
      refine Iff.trans ?_ ((hcounts.symm.trans hrows).trans (and_iff_right hpos).symm)
      constructor
      · intro h pre x hpre
        have hcount := h (first :: (pre ++ [x])) ((List.prefix_cons_inj first).2 hpre)
        rwa [List.foldl_cons, hmove] at hcount
      · intro h pre hpre
        cases pre with
        | nil =>
          rw [if_neg fun ⟨_, h, _⟩ => by cases h]
          exact hzero
        | cons c pre =>
          obtain ⟨rfl, htail⟩ := List.cons_prefix_cons.1 hpre
          rw [List.foldl_cons]
          rcases List.eq_nil_or_concat pre with rfl | ⟨pre, x, rfl⟩
          · rw [hlasted]
            exact hfirst.events
          · rw [List.concat_eq_append] at htail ⊢
            rw [hmove]
            exact h pre x htail
    · refine iff_of_false (fun h => ?_) fun h => hpos h.1
      have hone := h [first] ⟨rest, rfl⟩
      have hlasted : Lasted zone threshold [first] :=
        ⟨first, rfl, first, .head _, by unfold Past; omega⟩
      rw [if_pos hlasted, List.foldl_cons, List.foldl_nil] at hone
      unfold dwellMove at hone
      rw [henter] at hone
      split at hone
      · omega
      · have : v.events.length = 1 := hone
        omega

end

end Counting

/-- After every row of a stay in a region the track has been reported once if its stay has lasted
the threshold, and not at all before, exactly if the threshold is positive and no row finds an entry
that was renewed or a report that was forgotten at the wrong time. -/
theorem loiter_iff (zone : Int → Int) (lines : CountingLines) (line : CountingLine)
    (polygon : List (Double × Double)) (threshold : Int) (track : Nat) (s : Counting)
    (batches : List CountBatch) (hline : line ∈ lines) (hon : line.enabled = true)
    (hlive : line.deletedAt = none) (hgeometry : line.geometry = .region polygon)
    (hthreshold : line.loiterThresholdS = some threshold)
    (henter : s.keys.cell (.enter line.id track) = none)
    (hloiter : s.keys.cell (.loiter line.id track) = none) (hlog : s.log = [])
    (hinside : ∀ b ∈ batches, b.cameraId = line.cameraId →
      ∀ r ∈ b.rows, Counting.Inside line track polygon r) :
    (∀ i n,
      (((upToRow batches i n).foldl (Counting.processBatch zone lines) s).eventsOf
        line.id track).length =
        if Lasted zone threshold
          ((upToRow batches i n).flatMap fun b => b.dwelling line track) then 1 else 0) ↔
      ReportsOnce zone threshold (batches.flatMap fun b => b.dwelling line track) := by
  have hview : ∀ i n, ((upToRow batches i n).foldl (Counting.processBatch zone lines) s).trackView
      line.id track = ((upToRow batches i n).flatMap fun b => b.dwelling line track).foldl
        (Counting.dwellMove zone line track threshold) (s.trackView line.id track) := by
    intro i n
    refine foldl_view_flatMap (fun s : Counting => s.trackView line.id track)
      (fun b : CountBatch => b.dwelling line track) (Counting.dwellMove zone line track threshold)
      fun s b hb => Counting.trackView_batch_region hline hon hlive hgeometry hthreshold ?_
    obtain ⟨b', hb', hcamera, hrows⟩ := mem_upToRow hb
    exact fun hcam r hr => hinside b' hb' (hcamera.trans hcam) r (hrows r hr)
  have hnolog : (s.trackView line.id track).log = [] := by simp [Counting.trackView, hlog]
  rw [← Counting.events_iff line track (v := s.trackView line.id track) henter hloiter hnolog]
  unfold Counting.eventsOf
  simp only [hview]
  constructor
  · intro h pre hpre
    obtain ⟨i, n, rfl⟩ := exists_upToRow hpre
    exact h i n
  · exact fun h i n => h _ (isPrefix_upToRow batches i n)

namespace LoiterFixture

/-- A region that is the whole picture. -/
def lobby (threshold : Int) : CountingLine where
  id := 1
  cameraId := 1
  geometry := .region [(.finite 0, .finite 0), (.finite 1, .finite 0), (.finite 1, .finite 1),
    (.finite 0, .finite 1)]
  classFilter := []
  loiterThresholdS := some threshold
  occupancyThreshold := none
  enabled := true
  deletedAt := none

def lines (threshold : Int) : CountingLines := ⟨[lobby threshold], by simp⟩

/-- A person in the middle of the picture, at a second. -/
def row (second : Int) : CountRow where
  trackId := some 7
  label := some "person"
  x1 := .finite (1 / 4)
  y1 := .finite (1 / 4)
  x2 := .finite (3 / 4)
  y2 := .finite (1 / 2)
  ts := seconds second

/-- One row a batch, at the seconds of the list. -/
def batches (times : List Int) : List CountBatch :=
  times.map fun second => ⟨1, [row second], ⟨true, true⟩, fun _ _ => seconds second⟩

def start : Counting := ⟨∅, ∅, []⟩

/-- More than two minutes with a row every six seconds. -/
def longStay : List Int := (List.range 23).map fun k => 6 * (k : Int)

end LoiterFixture

open LoiterFixture in
/-- A stay of a quarter of a minute, with a threshold of five seconds. -/
theorem loiter_lobby :
    (∀ i n,
      (((upToRow (batches [0, 6, 12]) i n).foldl (Counting.processBatch (fun _ => 0) (lines 5))
        start).eventsOf 1 7).length =
        if Lasted (fun _ => 0) 5
          ((upToRow (batches [0, 6, 12]) i n).flatMap fun b => b.dwelling (lobby 5) 7) then 1
        else 0) ↔
      ReportsOnce (fun _ => 0) 5 ((batches [0, 6, 12]).flatMap fun b => b.dwelling (lobby 5) 7) :=
  loiter_iff (fun _ => 0) (lines 5) (lobby 5) _ 5 7 start (batches [0, 6, 12]) (.head _) rfl rfl rfl
    rfl rfl rfl rfl (by decide +kernel)

open LoiterFixture in
/-- A stay of 132 seconds is not reported by a threshold of 130: the row at second 126 has renewed
the entry. -/
theorem not_loiter : ¬ ∀ i n,
    (((upToRow (batches longStay) i n).foldl (Counting.processBatch (fun _ => 0) (lines 130))
      start).eventsOf 1 7).length =
      if Lasted (fun _ => 0) 130
        ((upToRow (batches longStay) i n).flatMap fun b => b.dwelling (lobby 130) 7) then 1
      else 0 := by
  intro h
  have hall := h 22 1
  revert hall
  decide +kernel

end AeroXProtect
