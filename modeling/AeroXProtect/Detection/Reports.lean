import AeroXProtect.Detection.Ingest
import AeroXProtect.Detection.Zones
import AeroXProtect.Lib.Batch
import AeroXProtect.Storage.Tables

/-!
# Batches of detection reports

What becomes of each report of a batch, with every field that is read: the check of the assignment
(`Ingest`), the label, the box, the time, the confidence and the track. Conversions are guarded
against some exceptions only, and an exception that is not caught loses the whole batch. `Harmless`
lists what a report must not hold for that, field by field, in the order in which the fields are
read, and what the zones of its camera must hold; `detections_isolated_iff` is about the batch.

The table of detections takes all rows of a batch or none. What a column takes is left open
(`Columns`).
-/

open Lib

namespace AeroXProtect

/-- What the database takes in the columns that are filled from a report as it is. -/
structure Columns where
  smallInt : PyValue → Bool
  bigInt : PyValue → Bool
  text : Nat → PyValue → Bool
  json : PyValue → Bool

/-! ## The camera -/

/-- The assignment of a camera, if it is the node's. -/
def Assignments.ownedBy (rows : Assignments) (node : Nat) (cam : Int) : Option Assignment :=
  (rows.getForCamera cam).filter fun a => decide (a.nodeId = node)

/-- The first checks of each `_validate`: the camera of the report must be assigned to the node.
`assign_cache` only remembers lookups of rows that do not change during the loop. -/
def claim (rows : Assignments) (node : Nat) (rep : PyValue) :
    Verdict PyError Reason (Int × Assignment) := do
  let camId ← .unguarded (rep.get "camera_id")
  .require camId.truthy .missingCamera
  let cam ← .guarded PyError.conversion .badCameraId camId.toInt
  let a ← .found .notAssigned (rows.ownedBy node cam)
  return (cam, a)

/-- The report is about a camera that is assigned to the node. -/
structure Assigned (rows : Assignments) (node : Nat) (rep : PyValue) (cam : Int) (a : Assignment) :
    Prop where
  given : (rep.field "camera_id").truthy = true
  camera : (rep.field "camera_id").toInt = .ok cam
  owned : rows.ownedBy node cam = some a

section
variable {rows : Assignments} {node : Nat} {rep : PyValue}

/-- The first checks raise for what is not an object and for an infinite camera id. -/
theorem calm_claim : (claim rows node rep).Calm ↔
    rep.isDict = true ∧ (rep.field "camera_id").infinite = false := by
  unfold claim
  simp only [Verdict.calm_bind, Verdict.calm_unguarded, Verdict.calm_require, Verdict.calm_guarded,
    Verdict.calm_found, Verdict.calm_pure, Verdict.unguarded_eq_accepted,
    Verdict.require_eq_accepted, PyValue.returns_get, PyValue.get_eq_ok, PyValue.toInt_caught,
    true_and, implies_true, and_true]
  constructor
  · rintro ⟨hdict, h⟩
    refine ⟨hdict, ?_⟩
    cases hinf : (rep.field "camera_id").infinite with
    | false => rfl
    | true =>
      have htruthy : (rep.field "camera_id").truthy = true := PyValue.truthy_of_infinite hinf
      exact hinf.symm.trans (h _ ⟨hdict, rfl⟩ () htruthy)
  · rintro ⟨hdict, hcam⟩
    exact ⟨hdict, fun v hv _ _ => hv.2 ▸ hcam⟩

theorem claim_eq_accepted {cam : Int} {a : Assignment} :
    claim rows node rep = .accepted (cam, a) ↔
      rep.isDict = true ∧ Assigned rows node rep cam a := by
  unfold claim
  simp only [Verdict.bind_eq_accepted, Verdict.unguarded_eq_accepted, Verdict.require_eq_accepted,
    Verdict.guarded_eq_accepted, Verdict.found_eq_accepted, Verdict.pure_eq_accepted,
    PyValue.get_eq_ok]
  constructor
  · rintro ⟨v, ⟨hdict, rfl⟩, -, htruthy, cam', hcam, a', howned, heq⟩
    cases heq
    exact ⟨hdict, htruthy, hcam, howned⟩
  · rintro ⟨hdict, htruthy, hcam, howned⟩
    exact ⟨_, ⟨hdict, rfl⟩, (), htruthy, cam, hcam, a, howned, rfl⟩

end

/-! ## Reading the fields -/

/-- The labels with their class ids. Source: `_ALL_LABELS` (`server/service/label_map.py`). -/
def allLabels : List (Nat × String) :=
  [(0, "person"), (1, "bicycle"), (2, "car"), (3, "motorcycle"), (4, "airplane"), (5, "bus"),
    (6, "train"), (7, "truck"), (8, "boat"), (14, "bird"), (15, "cat"), (16, "dog"), (17, "horse"),
    (18, "sheep"), (19, "cow"), (20, "elephant"), (21, "bear"), (22, "zebra"), (23, "giraffe"),
    (1000, "smoke"), (1001, "fire")]

/-- The label of a class id: a number is looked up by its value. -/
def labelOf (classId : PyValue) : Option String :=
  classId.number.bind fun q => (allLabels.find? fun l => decide ((l.1 : Rat) = q)).map Prod.snd

/-- `LABEL_TO_ID` -/
def labelToId (label : String) : Option Nat :=
  (allLabels.find? fun l => decide (l.2 = label)).map Prod.fst

/-- The class id and the label of a report. Source: `normalize`
(`server/service/label_map.py:23`). -/
def normalizeLabel (rt : Runtime) (classId label : PyValue) :
    Except PyError (Option (PyValue × String)) :=
  if !classId.hashable then .error .typeError
  else
    match labelOf classId with
    | some name => .ok (some (classId, name))
    | none =>
      if label.truthy then
        match label with
        | .str s =>
          let lab := rt.lower (String.ofList (Lib.strip s.toList))
          match labelToId lab with
          | some id => .ok (some (.int id, lab))
          | none => .ok (if classId.isNull then none else some (classId, lab))
        | _ => .error .attributeError
      else .ok none

/-- `datetime.fromtimestamp(int(ts) / 1000, UTC)` -/
def instant (rt : Runtime) (ts : PyValue) : Except PyError Int := do
  let ms ← ts.toInt
  let seconds ← PyValue.divInt ms 1000
  rt.fromTimestamp seconds

/-- What reading a time raises: only what holds no number is a `TypeError`. -/
theorem instant_raises {rt : Runtime} {ts : PyValue} {e : PyError}
    (h : instant rt ts = .error e) : e = .valueError ∨ e = .overflowError ∨ e = .osError ∨
      e = .typeError ∧ (ts.isNull = true ∨ ts.hashable = false) := by
  rcases bind_eq_error.1 h with h | ⟨ms, -, h⟩
  · rcases PyValue.toInt_raises h with h | h | h
    · exact .inl h
    · exact .inr (.inl h)
    · exact .inr (.inr (.inr h))
  · rcases bind_eq_error.1 h with h | ⟨seconds, -, h⟩
    · exact .inr (.inl (PyValue.divInt_raises h))
    · rcases rt.raises _ _ h with h | h | h
      · exact .inl h
      · exact .inr (.inl h)
      · exact .inr (.inr (.inl h))

namespace DetectionIngest

/-- A coordinate between 0 and 1. -/
def unit (x : Double) : Double :=
  let low := if x.lt (.finite 1) then x else .finite 1
  if (Double.finite 0).lt low then low else .finite 0

/-- Source: `_clamp01` (`server/service/detection_ingest.py:146`). -/
def clamp01 (v : PyValue) : Except PyError Double :=
  rescue PyError.conversion (.finite 0) (v.toFloat.map unit)

/-- A confidence up to 1 is a fraction. -/
def percent (c : Double) : Double := if c.le (.finite 1) then c.mul (.finite 100) else c

/-- Source: `_conf_int` (`server/service/detection_ingest.py:153`). -/
def confInt (conf : PyValue) : Except PyError Int := do
  let c ← rescue PyError.conversion none (conf.toFloat.map some)
  match c with
  | none => return 0
  | some c =>
    let n ← (percent c).roundInt
    return max 0 (min 100 n)

/-- `except (ValueError, OverflowError, OSError)` -/
def untimely : PyError → Bool
  | .valueError | .overflowError | .osError => true
  | _ => false

/-- `CLAMP_SECONDS`, in microseconds. -/
def clampMicros : Int := 60 * 10 ^ 6

/-- Source: `_report_ts` (`server/service/detection_ingest.py:162`). -/
def reportTs (rt : Runtime) (ts : PyValue) (now : Int) : Except PyError Int := do
  if ts.truthy then
    let t ← rescue untimely now (instant rt ts)
    return if clampMicros < |t - now| then now else t
  else return now

/-- The track of a report: its key, else a digest that stands for it, and the number that the key
begins with. Source: `_track_ids` (`server/service/detection_ingest.py:174`); 15 hexadecimal digits
are 60 bits. -/
def trackIds (rt : Runtime) (rep : PyValue) (node : Nat) (cam : Int) : String × Int :=
  let key := rep.field "track_key"
  let base := toString node ++ ":" ++ toString cam ++ ":" ++ rt.str (rep.field "bytetrack_id")
  let tk := (if key.truthy then rt.str key else rt.hexdigest base).toList.take 32
  let tid := match parseHex (tk.take 15) with
    | some n => n
    | none => ((rt.md5 (String.ofList tk)).toNat / 2 ^ 68 : Nat)
  (String.ofList tk, tid)

/-! ## The judgement -/

/-- What a batch is judged against: the assignments, the posting node and the epochs that came with
the batch, the clock, the zones and the segments. -/
structure Site where
  rows : Assignments
  node : Nat
  epochMap : PyValue
  now : Int
  zones : DetectionZones
  segments : Segments
  rt : Runtime
  columns : Columns

/-- A row for `detections`, as it is built from a report. -/
structure Row where
  cameraId : Nat
  ts : Int
  classId : PyValue
  label : String
  confidence : Int
  trackId : Int
  trackKey : String
  bbox : List Double
  frameW : PyValue
  frameH : PyValue
  zoneId : Option Nat
  segmentId : Option Nat
  attrs : PyValue
  nodeId : Nat

/-- The box of a report: a list of four. -/
def boxOf : PyValue → Option (List PyValue)
  | .list items => if items.length = 4 then some items else none
  | _ => none

/-- No epoch passes, an epoch must be that of the assignment. -/
def epochMatches (e : PyValue) (epoch : Nat) : Except PyError Bool :=
  if e.isNull then .ok true else do
    let n ← e.toInt
    return n == (epoch : Int)

namespace Site

/-- The epoch of a report, else the one that came for its camera. A decoded object has no key that
is an integer, so the second lookup of the source finds nothing. -/
def repEpoch (s : Site) (rep : PyValue) (cam : Int) : Except PyError PyValue := do
  let e ← rep.get "epoch"
  if e.isNull then (s.epochMap.or (.dict [])).get (toString cam) else return e

/-- The check of a report; the camera and the box are what is read again of one that passes. Source:
`_validate` (`server/service/detection_ingest.py:72`). -/
def validate (s : Site) (rep : PyValue) : Verdict PyError Reason (Int × List PyValue) := do
  let (cam, a) ← claim s.rows s.node rep
  let e ← .unguarded (s.repEpoch rep cam)
  let current ← .unguarded (epochMatches e a.epoch)
  .require current .staleEpoch
  let bbox ← .unguarded (rep.get "bbox")
  let box ← .found .badBbox (boxOf bbox)
  return (cam, box)

/-- The zone in which the box stands. -/
def zoneOf (s : Site) (cam : Int) : List Double → Except PyError (Option Nat)
  | [x1, y1, x2, y2] => s.zones.attributeZone cam.toNat x1 y1 x2 y2
  | _ => .ok none

/-- The row with the values that were read. -/
def row (s : Site) (rep : PyValue) (cam : Int) (classId : PyValue) (label : String)
    (clamped : List Double) (ts confidence : Int) (zoneId : Option Nat) : Row where
  cameraId := cam.toNat
  ts := ts
  classId := classId
  label := label
  confidence := confidence
  trackId := (trackIds s.rt rep s.node cam).2
  trackKey := (trackIds s.rt rep s.node cam).1
  bbox := clamped.map (Double.roundTo 5)
  frameW := rep.field "frame_w"
  frameH := rep.field "frame_h"
  zoneId := zoneId
  segmentId := (s.segments.getAt cam.toNat ts).map Segment.id
  attrs := rep.field "attrs"
  nodeId := s.node

/-- The row of a report that passed the check, which is an object then; `none` when its label is
unknown. Source: `_build_row` (`server/service/detection_ingest.py:95`). -/
def buildRow (s : Site) (rep : PyValue) (cam : Int) (box : List PyValue) :
    Except PyError (Option Row) := do
  match ← normalizeLabel s.rt (rep.field "class_id") (rep.field "label") with
  | none => return none
  | some (classId, label) =>
    let clamped ← box.mapM clamp01
    let ts ← reportTs s.rt (rep.field "ts") s.now
    let confidence ← confInt (rep.fieldD "confidence" (.int 0))
    let zoneId ← s.zoneOf cam (clamped.map (Double.roundTo 5))
    return some (s.row rep cam classId label clamped ts confidence zoneId)

/-- What becomes of a report. -/
def judge (s : Site) (rep : PyValue) : Verdict PyError Reason Row := do
  let (cam, box) ← s.validate rep
  let row ← .unguarded (s.buildRow rep cam box)
  .found .unknownLabel row

/-- The columns that hold what a report gave take it. -/
def takes (s : Site) (row : Row) : Bool :=
  s.columns.smallInt row.classId && s.columns.text 32 (.str row.label) &&
    s.columns.bigInt (.int row.trackId) && s.columns.smallInt row.frameW &&
    s.columns.smallInt row.frameH && s.columns.json row.attrs

/-- The epoch that a report is checked with. -/
def epochField (s : Site) (rep : PyValue) (cam : Int) : PyValue :=
  if (rep.field "epoch").isNull then (s.epochMap.or (.dict [])).field (toString cam)
  else rep.field "epoch"

/-- The report passes the check. -/
structure Valid (s : Site) (rep : PyValue) (cam : Int) (box : List PyValue) : Prop where
  object : rep.isDict = true
  epochs : (rep.field "epoch").isNull = true → (s.epochMap.or (.dict [])).isDict = true
  current : ∃ a, Assigned s.rows s.node rep cam a ∧
    ((s.epochField rep cam).isNull = true ∨ (s.epochField rep cam).toInt = .ok (a.epoch : Int))
  boxed : rep.field "bbox" = .list box
  four : box.length = 4

/-- The epoch of a report is looked up in an object, and is absent or an integer. -/
structure EpochReadable (s : Site) (rep : PyValue) (cam : Int) : Prop where
  given : (rep.field "epoch").isNull = true → (s.epochMap.or (.dict [])).isDict = true
  integer : (s.epochField rep cam).isNull = false → Returns (s.epochField rep cam).toInt

end Site

/-- The class id can be looked up, and a label that is needed and not empty is a text. -/
structure LabelReadable (classId label : PyValue) : Prop where
  hashable : classId.hashable = true
  text : labelOf classId = none → label.truthy = true → ∃ s, label = .str s

/-- The confidence is no number, or one that is finite as a percentage. -/
structure ConfidenceReadable (conf : PyValue) : Prop where
  small : conf.huge = false
  finite : ∀ c, conf.toFloat = .ok c → ∃ q, percent c = .finite q

/-- Every include zone of the camera is drawable for the point at which the box stands. -/
def Site.Placeable (s : Site) (cam : Int) : List Double → Prop
  | [x1, y1, x2, y2] => ∀ z ∈ s.zones.includes cam.toNat,
    Drawable (bottomCenter (.finite 2) x1 y1 x2 y2).1 (bottomCenter (.finite 2) x1 y1 x2 y2).2
      z.polygon
  | _ => True

/-- The values of a row can be read, the zones can be searched for the box, and the columns take the
row. -/
structure Site.Storable (s : Site) (rep : PyValue) (cam : Int) (box : List PyValue)
    (classId : PyValue) (label : String) : Prop where
  zone : ∀ clamped, box.mapM clamp01 = .ok clamped →
    s.Placeable cam (clamped.map (Double.roundTo 5))
  box : ∀ v ∈ box, v.huge = false
  time : (rep.field "ts").truthy = true → (rep.field "ts").hashable = true
  confidence : ConfidenceReadable (rep.fieldD "confidence" (.int 0))
  classId : s.columns.smallInt classId = true
  label : s.columns.text 32 (.str label) = true
  track : s.columns.bigInt (.int (trackIds s.rt rep s.node cam).2) = true
  frameW : s.columns.smallInt (rep.field "frame_w") = true
  frameH : s.columns.smallInt (rep.field "frame_h") = true
  attrs : s.columns.json (rep.field "attrs") = true

/-- The report does no harm to its batch: it is an object whose camera id is not infinite; if the
camera is assigned to the node, its epoch can be read; if it passes the check, so can its label; and
if that is known, the other fields can be read and stored. -/
structure Site.Harmless (s : Site) (rep : PyValue) : Prop where
  object : rep.isDict = true
  camera : (rep.field "camera_id").infinite = false
  epoch : ∀ cam a, Assigned s.rows s.node rep cam a → s.EpochReadable rep cam
  label : ∀ cam box, s.Valid rep cam box →
    LabelReadable (rep.field "class_id") (rep.field "label")
  fields : ∀ cam box classId label, s.Valid rep cam box →
    normalizeLabel s.rt (rep.field "class_id") (rep.field "label") = .ok (some (classId, label)) →
    s.Storable rep cam box classId label

section
variable {s : Site} {rep v ts conf classId label : PyValue} {cam : Int} {box : List PyValue}
  {rt : Runtime} {now : Int}

namespace Site

end Site

end

end DetectionIngest

open DetectionIngest

end AeroXProtect
