import AeroXProtect.Detection.Zones
import AeroXProtect.Lib.Clock
import AeroXProtect.Lib.Run

/-!
# Counting lines and regions

The counting engine is given every batch of accepted detections. A line counts the tracks that
change sides, a region counts the tracks that stand in it and reports those that stay. What is
remembered of a track lies in Redis under keys that live for two minutes: the side it was last seen
on, when it entered a region, and that its stay has been reported. The counts are rows of a table,
one for each minute and label.

The log of `Counting` is not in the program: it lists, oldest first, what the engine records and
emits, with the track that it is about, which the rows of the table do not name.
-/

open Lib

namespace AeroXProtect

/-! ## Lines -/

/-- The geometry of a line, which has two points, or the polygon of a region. -/
inductive CountGeometry
  | line (p q : Double × Double)
  | region (polygon : List (Double × Double))
  deriving DecidableEq, Repr

/-- A row of `counting_lines`. -/
structure CountingLine where
  id : Nat
  cameraId : Nat
  geometry : CountGeometry
  classFilter : List String
  loiterThresholdS : Option Int
  occupancyThreshold : Option Int
  enabled : Bool
  deletedAt : Option Int
  deriving DecidableEq, Repr

abbrev CountingLines := Table CountingLine.id

/-- Source: `CountingLine.get_for_camera` (`server/model/counting.py:35`). -/
def CountingLines.getForCamera (t : CountingLines) (cameraId : Nat) : List CountingLine :=
  orderBy CountingLine.id (t.rows.filter fun l =>
    decide (l.cameraId = cameraId) && l.deletedAt.isNone && l.enabled)

/-- What the engine reads of a detection; `ts` is the UTC reading of its time. -/
structure CountRow where
  trackId : Option Nat
  label : Option String
  x1 : Double
  y1 : Double
  x2 : Double
  y2 : Double
  ts : Int
  deriving DecidableEq, Repr

/-- Where a detection stands. -/
def CountRow.position (r : CountRow) : Double × Double :=
  bottomCenter (.finite 2) r.x1 r.y1 r.x2 r.y2

/-- The line does not look at other labels than those of its filter, if it has one. -/
def CountingLine.counts (line : CountingLine) (label : Option String) : Bool :=
  line.classFilter.isEmpty || label.any fun l => line.classFilter.contains l

/-- Source: `_line_side` (`server/service/counting.py:32`). -/
def lineSide (pos p q : Double × Double) : Int :=
  let cross := (q.1 - p.1) * (pos.2 - p.2) - (q.2 - p.2) * (pos.1 - p.1)
  if Double.le 0 cross then 1 else -1

/-- Source: `_ts_ms` (`server/service/counting.py:38`). The UTC reading is taken for one of the
server's time zone, whose offset at that reading is `zone`. -/
def tsMs (zone : Int → Int) (ts : Int) : Int :=
  let timestamp : Double :=
    .finite (epochSeconds (ts - zone ts)) +
      .finite ((ts - zone ts) % 1000000 : Int) / .finite 1000000
  match timestamp * .finite 1000 with
  | .finite q => Int.tdiv q.num q.den
  | _ => 0

/-! ## The table of counts -/

/-- A row of `counting_stats`. -/
structure CountingStat where
  id : Nat
  cameraId : Nat
  lineId : Nat
  bucketTs : Int
  inCount : Int
  outCount : Int
  occupancy : Int
  label : Option String
  deriving DecidableEq, Repr

abbrev CountingStats := Table CountingStat.id

/-- The arguments of `CountingStat.record`. -/
structure RecordCall where
  cameraId : Nat
  lineId : Nat
  ts : Int
  inDelta : Int
  outDelta : Int
  occupancy : Option Int
  label : Option String
  deriving DecidableEq, Repr

/-- The minute of an instant. Source: `CountingStat._bucket` (`server/model/counting.py:100`). -/
def bucketOf (ts : Int) : Int := ts - ts % seconds 60

/-- What a row counts: the camera, the line, the minute and the label. -/
abbrev CountBucket := Nat × Nat × Int × Option String

def CountingStat.bucket (g : CountingStat) : CountBucket :=
  (g.cameraId, g.lineId, g.bucketTs, g.label)

def RecordCall.bucket (c : RecordCall) : CountBucket :=
  (c.cameraId, c.lineId, bucketOf c.ts, c.label)

/-- What a call makes of the occupancy of a row. -/
def RecordCall.occupancyOf (c : RecordCall) (occupancy : Int) : Int :=
  match c.occupancy with
  | some n => max occupancy n
  | none => occupancy

/-- The new row of a call. -/
def RecordCall.newRow (c : RecordCall) (id : Nat) : CountingStat where
  id := id
  cameraId := c.cameraId
  lineId := c.lineId
  bucketTs := bucketOf c.ts
  inCount := c.inDelta
  outCount := c.outDelta
  occupancy := c.occupancyOf 0
  label := c.label

/-- The columns of a row that a call found as `seen` are written back where they change. -/
def RecordCall.writeBack (c : RecordCall) (seen g : CountingStat) : CountingStat :=
  { g with
    inCount := if c.inDelta = 0 then g.inCount else seen.inCount + c.inDelta
    outCount := if c.outDelta = 0 then g.outCount else seen.outCount + c.outDelta
    occupancy :=
      if c.occupancyOf seen.occupancy = seen.occupancy then g.occupancy
      else c.occupancyOf seen.occupancy }

namespace CountingStats

/-- The row that a call finds. -/
def seen (t : CountingStats) (c : RecordCall) : Option CountingStat :=
  t.rows.find? fun g => decide (g.bucket = c.bucket)

/-- What a call writes after it has found a row, or none. -/
def write (t : CountingStats) (c : RecordCall) : Option CountingStat → CountingStats
  | none => t.insert (c.newRow t.freshKey)
  | some g => t.modify (fun g' => decide (g'.id = g.id)) (c.writeBack g)

/-- Source: `CountingStat.record` (`server/model/counting.py:104`), alone. -/
def record (t : CountingStats) (c : RecordCall) : CountingStats := t.write c (t.seen c)

/-- The sum of a column over the rows of some of the buckets. -/
def total (t : CountingStats) (column : CountingStat → Int) (sel : CountBucket → Bool) : Int :=
  ((t.rows.filter fun g => sel g.bucket).map column).sum

section
variable {t : CountingStats} {c : RecordCall} {g : CountingStat} {sel : CountBucket → Bool}
  {column : CountingStat → Int} {delta : RecordCall → Int}

theorem seen_eq_some (h : t.seen c = some g) : g ∈ t ∧ g.bucket = c.bucket :=
  ⟨List.mem_of_find?_eq_some h, by simpa using List.find?_some h⟩

theorem total_insert (h : ∀ x ∈ t, x.id ≠ g.id) :
    total (t.insert g) column sel =
      t.total column sel + if sel g.bucket then column g else 0 := by
  unfold total
  rw [Table.rows_insert h, List.filter_append, List.map_append, List.sum_append]
  cases hsel : sel g.bucket <;> simp [hsel]

/-- What a column sums up to after one row was rewritten within its bucket. -/
theorem total_modify (column : CountingStat → Int) (sel : CountBucket → Bool)
    {f : CountingStat → CountingStat} (hid : ∀ x, (f x).id = x.id)
    (hbucket : ∀ x, (f x).bucket = x.bucket) (hg : g ∈ t) :
    total (t.modify (fun x => decide (x.id = g.id)) f hid) column sel =
      t.total column sel + if sel g.bucket then column (f g) - column g else 0 := by
  have hrows : ∀ rows : List CountingStat, (rows.map CountingStat.id).Nodup → g ∈ rows →
      (((rows.map fun x => if decide (x.id = g.id) then f x else x).filter
        fun x => sel x.bucket).map column).sum =
        ((rows.filter fun x => sel x.bucket).map column).sum +
          if sel g.bucket then column (f g) - column g else 0 := by
    intro rows hnd hmem
    induction rows with
    | nil => cases hmem
    | cons x rows ih =>
      rw [List.map_cons, List.nodup_cons] at hnd
      rcases List.mem_cons.1 hmem with rfl | hrest
      · have hsame : (rows.map fun x => if decide (x.id = g.id) then f x else x) = rows := by
          refine (List.map_congr_left fun x hx => if_neg ?_).trans (List.map_id _)
          simpa using fun heq : x.id = g.id => hnd.1 (heq ▸ List.mem_map_of_mem hx)
        rw [List.map_cons, hsame]
        cases hsel : sel g.bucket <;> simp [hsel, hbucket]
        ring
      · have hne : x.id ≠ g.id := fun heq => hnd.1 (heq ▸ List.mem_map_of_mem hrest)
        rw [List.map_cons, if_neg (by simpa using hne), List.filter_cons, List.filter_cons]
        split
        · rw [List.map_cons, List.map_cons, List.sum_cons, List.sum_cons, ih hnd.2 hrest]
          ring
        · exact ih hnd.2 hrest
  exact hrows t.rows t.nodup hg

/-- A call alone adds its delta to a column of its bucket. -/
theorem total_record (hnew : ∀ c id, column (c.newRow id) = delta c)
    (hback : ∀ c g, column (c.writeBack g g) = column g + delta c) :
    (t.record c).total column sel = t.total column sel + if sel c.bucket then delta c else 0 := by
  unfold record
  cases hseen : t.seen c with
  | none =>
    have h : ∀ x ∈ t, x.id ≠ (c.newRow t.freshKey).id := t.ne_freshKey
    rw [write, total_insert h, hnew]
    rfl
  | some g =>
    obtain ⟨hmem, hbucket⟩ := seen_eq_some hseen
    have h := total_modify column sel (f := c.writeBack g) (fun _ => rfl) (fun _ => rfl) hmem
    rw [write, h, hback, hbucket, add_sub_cancel_left]

theorem total_inCount_record : (t.record c).total CountingStat.inCount sel =
    t.total CountingStat.inCount sel + if sel c.bucket then c.inDelta else 0 :=
  total_record (fun _ _ => rfl) fun c g => by
    show (if c.inDelta = 0 then g.inCount else g.inCount + c.inDelta) = _
    split <;> omega

theorem total_outCount_record : (t.record c).total CountingStat.outCount sel =
    t.total CountingStat.outCount sel + if sel c.bucket then c.outDelta else 0 :=
  total_record (fun _ _ => rfl) fun c g => by
    show (if c.outDelta = 0 then g.outCount else g.outCount + c.outDelta) = _
    split <;> omega

end

end CountingStats

/-! ## The engine -/

/-- The keys of a track. Source: `_side_key`, `_enter_key`, `_loiter_key`
(`server/service/counting.py:20`). -/
inductive CountKey
  | side (lineId track : Nat)
  | enter (lineId track : Nat)
  | loiter (lineId track : Nat)
  deriving DecidableEq, Repr

/-- `_TTL` -/
def countTtl : Int := 120

inductive CountEventType
  | loitering | occupancy
  deriving DecidableEq, Repr

/-- A call of `_emit`. -/
structure CountEvent where
  cameraId : Nat
  etype : CountEventType
  value : Int
  label : Option String
  lineId : Nat
  dedupExtra : String
  deriving DecidableEq, Repr

inductive CountEffect
  | record (c : RecordCall)
  | emit (e : CountEvent)
  deriving DecidableEq, Repr

/-- What the engine did for a line, and the track that it was about. -/
structure Counted where
  lineId : Nat
  track : Option Nat
  effect : CountEffect
  deriving DecidableEq, Repr

/-- Redis, the table of counts, and the log. -/
structure Counting where
  keys : Timed CountKey Int
  stats : CountingStats
  log : List Counted

/-- Which of the features are on. -/
structure CountFlags where
  counting : Bool
  loiter : Bool
  deriving DecidableEq, Repr

namespace Counting

def record (s : Counting) (track : Option Nat) (c : RecordCall) : Counting :=
  { s with stats := s.stats.record c, log := s.log ++ [⟨c.lineId, track, .record c⟩] }

def emit (s : Counting) (track : Option Nat) (e : CountEvent) : Counting :=
  { s with log := s.log ++ [⟨e.lineId, track, .emit e⟩] }

/-- The call of `CountingStat.record` for a track that has changed to a side. -/
def crossCall (line : CountingLine) (side : Int) (r : CountRow) : RecordCall where
  cameraId := line.cameraId
  lineId := line.id
  ts := r.ts
  inDelta := if 0 < side then 1 else 0
  outDelta := if 0 < side then 0 else 1
  occupancy := none
  label := r.label

/-- Source: `_cross` (`server/service/counting.py:91`). -/
def cross (line : CountingLine) (p q : Double × Double) (s : Counting) (now : Int) (track : Nat)
    (r : CountRow) : Counting :=
  let side := lineSide r.position p q
  let prev := s.keys.get now (.side line.id track)
  let s := { s with keys := s.keys.setex now (.side line.id track) countTtl side }
  if prev.any fun prev => prev != side then s.record (some track) (crossCall line side r)
  else s

/-- The event of a track that has been in a region for `ms` milliseconds. -/
def loiterEvent (line : CountingLine) (track : Nat) (ms : Int) (label : Option String) :
    CountEvent where
  cameraId := line.cameraId
  etype := .loitering
  value := ms.tdiv 1000
  label := label
  lineId := line.id
  dedupExtra := s!"{line.id}:{track}"

/-- Source: `_dwell` (`server/service/counting.py:103`). The quotient by 1000 is compared with a
whole number, so that its rounding does not matter. -/
def dwell (zone : Int → Int) (line : CountingLine) (s : Counting) (now : Int) (track : Nat)
    (r : CountRow) : Counting :=
  match line.loiterThresholdS with
  | none => s
  | some threshold =>
    if threshold = 0 then s
    else
      match s.keys.get now (.enter line.id track) with
      | none =>
        { s with keys := s.keys.setex now (.enter line.id track) countTtl (tsMs zone r.ts) }
      | some enter =>
        let ms := tsMs zone r.ts - enter
        if 1000 * threshold ≤ ms ∧ s.keys.get now (.loiter line.id track) = none then
          let s := { s with keys := s.keys.setex now (.loiter line.id track) countTtl 1 }
          s.emit (some track) (loiterEvent line track ms r.label)
        else s

/-- The body of the loop of `_process_line` (`server/service/counting.py:61`), with the tracks that
stand in the region. -/
def processRow (zone : Int → Int) (line : CountingLine) (flags : CountFlags)
    (x : Counting × List Nat) (seen : Int × CountRow) : Counting × List Nat :=
  match seen.2.trackId with
  | none => x
  | some track =>
    if line.counts seen.2.label then
      match line.geometry with
      | .line p q => if flags.counting then (cross line p q x.1 seen.1 track seen.2, x.2) else x
      | .region polygon =>
        if pointInPolygon (Double.ofRat (1 / 10 ^ 12)) seen.2.position.1 seen.2.position.2 polygon
        then
          (if flags.loiter then dwell zone line x.1 seen.1 track seen.2 else x.1,
            x.2.insert track)
        else
          ({ x.1 with keys := (x.1.keys.del (.enter line.id track)).del (.loiter line.id track) },
            x.2)
    else x

/-- What a region records and emits for the tracks that stand in it. -/
def occupied (line : CountingLine) (flags : CountFlags) (s : Counting) (bucketTs : Int)
    (members : List Nat) : Counting :=
  let occ : Int := members.length
  let s := if flags.counting then
      s.record none ⟨line.cameraId, line.id, bucketTs, 0, 0, some occ, none⟩
    else s
  if line.occupancyThreshold.any fun n => decide (n ≠ 0 ∧ n < occ) then
    s.emit none ⟨line.cameraId, .occupancy, occ, none, line.id, toString line.id⟩
  else s

/-- Source: `_process_line` (`server/service/counting.py:58`); each row comes with the instant at
which Redis is asked. -/
def processLine (zone : Int → Int) (line : CountingLine) (flags : CountFlags) (s : Counting)
    (seen : List (Int × CountRow)) : Counting :=
  let x := seen.foldl (processRow zone line flags) (s, [])
  match line.geometry, seen.head? with
  | .region _, some first =>
    if x.2.isEmpty then x.1 else occupied line flags x.1 first.2.ts x.2
  | _, _ => x.1

end Counting

/-- A batch of detections of a camera, the flags when it comes, and the clock of Redis when a line
comes to the row at a position. -/
structure CountBatch where
  cameraId : Nat
  rows : List CountRow
  flags : CountFlags
  clock : Nat → Nat → Int

/-- The rows as a line sees them. -/
def CountBatch.seen (b : CountBatch) (lineId : Nat) : List (Int × CountRow) :=
  b.rows.zipIdx.map fun r => (b.clock lineId r.2, r.1)

/-- Source: `process_batch` (`server/service/counting.py:42`). -/
def Counting.processBatch (zone : Int → Int) (lines : CountingLines) (s : Counting)
    (b : CountBatch) : Counting :=
  if b.flags.counting || b.flags.loiter then
    (lines.getForCamera b.cameraId).foldl
      (fun s line => s.processLine zone line b.flags (b.seen line.id)) s
  else s

/-! ## What concerns one track -/

/-- What is remembered and logged of a track at a line. -/
structure TrackView where
  side : Option (Int × Int)
  enter : Option (Int × Int)
  loiter : Option (Int × Int)
  log : List Counted

/-- The events in the log. -/
def TrackView.events (v : TrackView) : List CountEvent := v.log.filterMap fun e =>
  match e.effect with
  | .record _ => none
  | .emit e => some e

namespace Counting

def trackView (s : Counting) (lineId track : Nat) : TrackView where
  side := s.keys.cell (.side lineId track)
  enter := s.keys.cell (.enter lineId track)
  loiter := s.keys.cell (.loiter lineId track)
  log := s.log.filter fun e => decide (e.lineId = lineId ∧ e.track = some track)

/-- The calls of `CountingStat.record` for a track at a line. -/
def callsOf (s : Counting) (lineId track : Nat) : List RecordCall :=
  (s.trackView lineId track).log.filterMap fun e =>
    match e.effect with
    | .record c => some c
    | .emit _ => none

/-- The events of a track at a line. -/
def eventsOf (s : Counting) (lineId track : Nat) : List CountEvent :=
  (s.trackView lineId track).events

section
variable {zone : Int → Int} {lines : CountingLines} {line other : CountingLine}
  {flags : CountFlags} {s : Counting} {lineId track : Nat} {m : Option Nat}

theorem trackView_record {c : RecordCall} (h : ¬ (c.lineId = lineId ∧ m = some track)) :
    (s.record m c).trackView lineId track = s.trackView lineId track := by
  simp [trackView, record, List.filter_append, h]

theorem trackView_emit {e : CountEvent} (h : ¬ (e.lineId = lineId ∧ m = some track)) :
    (s.emit m e).trackView lineId track = s.trackView lineId track := by
  simp [trackView, emit, List.filter_append, h]

/-- A row of another track, or at another line, leaves a track at a line alone. -/
theorem trackView_processRow {x : Counting × List Nat} {seen : Int × CountRow}
    (h : ¬ (other.id = lineId ∧ seen.2.trackId = some track)) :
    (processRow zone other flags x seen).1.trackView lineId track =
      x.1.trackView lineId track := by
  unfold processRow
  split
  · rfl
  · next u hu =>
    rw [hu, Option.some_inj] at h
    have hkeys : ∀ (t : Counting) (c : CountKey) ttl v,
        c = .side other.id u ∨ c = .enter other.id u ∨ c = .loiter other.id u →
        trackView { t with keys := t.keys.setex seen.1 c ttl v } lineId track =
          t.trackView lineId track := by
      rintro t c ttl v hc
      simp only [trackView, Timed.cell_setex, TrackView.mk.injEq, and_true]
      rcases hc with rfl | rfl | rfl <;>
        simp only [CountKey.side.injEq, CountKey.enter.injEq, CountKey.loiter.injEq,
          eq_comm (a := lineId), eq_comm (a := track), h, reduceCtorEq, if_false, and_self]
    split
    · split
      · split
        · dsimp only [cross]
          split
          · rw [trackView_record (by simpa [crossCall] using h), hkeys _ _ _ _ (.inl rfl)]
          · exact hkeys _ _ _ _ (.inl rfl)
        · rfl
      · split
        · dsimp only
          split
          · unfold dwell
            split
            · rfl
            · split
              · rfl
              · split
                · exact hkeys _ _ _ _ (.inr (.inl rfl))
                · dsimp only
                  split
                  · rw [trackView_emit (by simpa [loiterEvent] using h),
                      hkeys _ _ _ _ (.inr (.inr rfl))]
                  · rfl
          · rfl
        · simp [trackView, eq_comm (a := lineId), eq_comm (a := track), h]
    · rfl

/-- What a region records for all tracks leaves each track alone. -/
theorem trackView_occupied {bucketTs : Int} {members : List Nat} :
    (occupied other flags s bucketTs members).trackView lineId track =
      s.trackView lineId track := by
  have hrec : (if flags.counting then s.record none ⟨other.cameraId, other.id, bucketTs, 0, 0,
      some (members.length : Int), none⟩ else s).trackView lineId track =
        s.trackView lineId track := by
    split
    · exact trackView_record (by simp)
    · rfl
  unfold occupied
  dsimp only
  split
  · rw [trackView_emit (by simp), hrec]
  · exact hrec

/-- A batch at a line is, for a track, the rows of the track. -/
theorem trackView_processLine {seen : List (Int × CountRow)} {mine : Int × CountRow → Bool}
    {move : TrackView → Int × CountRow → TrackView}
    (hmine : ∀ x, ∀ r ∈ seen, mine r = true →
      (processRow zone other flags x r).1.trackView lineId track =
        move (x.1.trackView lineId track) r)
    (hother : ∀ x, ∀ r ∈ seen, mine r = false →
      (processRow zone other flags x r).1.trackView lineId track =
        x.1.trackView lineId track) :
    (s.processLine zone other flags seen).trackView lineId track =
      (seen.filter mine).foldl move (s.trackView lineId track) := by
  have hfold := foldl_view (s := (s, ([] : List Nat))) (fun x => x.1.trackView lineId track) mine
    move hmine hother
  unfold processLine
  dsimp only
  split
  · split
    · exact hfold
    · rw [trackView_occupied, hfold]
  · exact hfold

/-- Another line leaves a track at a line alone. -/
theorem trackView_processLine_of_ne {seen : List (Int × CountRow)} (h : other.id ≠ lineId) :
    (s.processLine zone other flags seen).trackView lineId track = s.trackView lineId track := by
  have hrows : (s.processLine zone other flags seen).trackView lineId track =
      (seen.filter fun _ => false).foldl (fun v _ => v) (s.trackView lineId track) :=
    trackView_processLine (fun _ _ _ hr => absurd hr Bool.false_ne_true)
      fun x r _ _ => trackView_processRow fun hr => h hr.1
  rwa [List.filter_false] at hrows

/-- A line of the table that is in use is found once for its camera, and not for another one. -/
theorem filter_getForCamera (hline : line ∈ lines) (hon : line.enabled = true)
    (hlive : line.deletedAt = none) (cameraId : Nat) :
    (lines.getForCamera cameraId).filter (fun l => decide (l.id = line.id)) =
      if cameraId = line.cameraId then [line] else [] := by
  have hmem : ∀ l, l ∈ lines.getForCamera cameraId ↔
      l ∈ lines ∧ l.cameraId = cameraId ∧ l.deletedAt = none ∧ l.enabled = true := by
    intro l
    rw [CountingLines.getForCamera, mem_orderBy, List.mem_filter]
    simp [and_assoc]
  have hall : ∀ l ∈ (lines.getForCamera cameraId).filter (fun l => decide (l.id = line.id)),
      l = line := by
    intro l hl
    obtain ⟨hget, hid⟩ := List.mem_filter.1 hl
    exact Table.eq_of_key_eq ((hmem l).1 hget).1 hline (of_decide_eq_true hid)
  split
  · next hcamera =>
    have hnodup : (lines.getForCamera cameraId).Nodup := lines.nodup_orderBy _ _
    have hin : line ∈ (lines.getForCamera cameraId).filter fun l => decide (l.id = line.id) :=
      List.mem_filter.2 ⟨(hmem line).2 ⟨hline, hcamera.symm, hlive, hon⟩, by simp⟩
    obtain ⟨n, hn⟩ : ∃ n, (lines.getForCamera cameraId).filter (fun l => decide (l.id = line.id)) =
        List.replicate n line := ⟨_, List.eq_replicate_of_mem hall⟩
    have hnd := hnodup.sublist (List.filter_sublist (p := fun l => decide (l.id = line.id)))
    rw [hn] at hin hnd ⊢
    have hle : n ≤ 1 := List.nodup_replicate.1 hnd
    obtain ⟨hpos, -⟩ := List.mem_replicate.1 hin
    obtain rfl : n = 1 := by omega
    rfl
  · next hcamera =>
    refine List.eq_nil_iff_forall_not_mem.2 fun l hl => hcamera ?_
    have heq := hall l hl
    obtain ⟨-, hcam, -⟩ := (hmem l).1 (List.mem_filter.1 hl).1
    rw [← hcam, heq]

/-- A batch is, for a track at a line that is in use, the rows of the track. -/
theorem trackView_processBatch (hline : line ∈ lines) (hon : line.enabled = true)
    (hlive : line.deletedAt = none) {b : CountBatch} (mine : Int × CountRow → Bool)
    (move : TrackView → Int × CountRow → TrackView)
    (hmine : b.cameraId = line.cameraId → ∀ x, ∀ r ∈ b.seen line.id, mine r = true →
      (processRow zone line b.flags x r).1.trackView line.id track =
        move (x.1.trackView line.id track) r)
    (hother : b.cameraId = line.cameraId → ∀ x, ∀ r ∈ b.seen line.id, mine r = false →
      (processRow zone line b.flags x r).1.trackView line.id track =
        x.1.trackView line.id track) :
    (s.processBatch zone lines b).trackView line.id track =
      (if b.cameraId = line.cameraId ∧ (b.flags.counting || b.flags.loiter) = true then
        (b.seen line.id).filter mine
      else []).foldl move (s.trackView line.id track) := by
  unfold processBatch
  split
  · next hflags =>
    have hget := filter_getForCamera hline hon hlive b.cameraId
    rw [foldl_view (fun s : Counting => s.trackView line.id track)
      (fun l : CountingLine => decide (l.id = line.id))
      fun v _ => ((b.seen line.id).filter mine).foldl move v, hget]
    · by_cases hcamera : b.cameraId = line.cameraId <;> simp [hcamera, hflags]
    · intro s l hl hid
      have hmem : l ∈ (lines.getForCamera b.cameraId).filter fun l => decide (l.id = line.id) :=
        List.mem_filter.2 ⟨hl, hid⟩
      rw [hget] at hmem
      split at hmem
      · next hcamera =>
        cases List.mem_singleton.1 hmem
        exact trackView_processLine (hmine hcamera) (hother hcamera)
      · cases hmem
    · intro s l _ hid
      exact trackView_processLine_of_ne (of_decide_eq_false hid)
  · next hflags => simp [hflags]

end

end Counting

end AeroXProtect
