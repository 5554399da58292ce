import AeroXProtect.Detection.Reports

/-!
# Batches of plates, sounds and faces

The three ingestions follow one pattern: a report is checked, a row is built of it, and the row is
matched against a list. What the check converts is not always what the row converts, so that a
report may pass the one and raise in the other, and a plate may be checked as a whole and stored
cut. `HarmlessPlate`, `HarmlessSound` and `HarmlessFace` say field by field what a report must not
hold to spare its batch; `observations_handled_iff` is about the batches.
-/

open Lib

namespace AeroXProtect

/-- Why an observation is rejected. -/
inductive ObservationReason
  | report (reason : Reason)
  | emptyPlate | badConfidence | lowConfidence
  | missingLabel
  | missingEmbedding | badEmbedding | missingBackend
  deriving DecidableEq, Repr

/-- The text of the rejection. -/
def ObservationReason.text : ObservationReason → String
  | .report reason => reason.text
  | .emptyPlate => "empty_plate"
  | .badConfidence => "bad_confidence"
  | .lowConfidence => "low_confidence"
  | .missingLabel => "missing_label"
  | .missingEmbedding => "missing_embedding"
  | .badEmbedding => "bad_embedding"
  | .missingBackend => "missing_backend"

inductive ListKind
  | allow | deny
  deriving DecidableEq, Repr

/-- A row of `plate_lists`. -/
structure PlateListEntry where
  id : Nat
  plateKey : String
  kind : ListKind
  label : Option String
  enabled : Bool
  deletedAt : Option Int
  deriving DecidableEq, Repr

/-- A row of `face_identities`. -/
structure FaceIdentity where
  id : Nat
  name : String
  consent : Bool
  enabled : Bool
  backend : Option String
  dim : Option Nat
  embeddings : Option (List (List Double))
  deletedAt : Option Int
  deriving DecidableEq, Repr

/-- What a batch is judged against. `isOn` are the AI features of the cameras
(`camera_features.is_on`). -/
structure Observer where
  rows : Assignments
  node : Nat
  now : Int
  isOn : Nat → String → Bool
  plates : List PlateListEntry
  identities : List FaceIdentity
  rt : Runtime
  columns : Columns

/-- `MAX_BATCH` of the three ingestions. -/
def maxObservations : Nat := 200

/-! ## What the three share -/

/-- The list of a field, and nothing for any other value. -/
def listOrNull : PyValue → PyValue
  | .list items => .list items
  | _ => .null

/-- A number from 0 to 100. -/
def clamp100 (n : Int) : Int := max 0 (min 100 n)

/-- `except (ValueError, TypeError, OverflowError)` -/
def unreadable : PyError → Bool
  | .valueError | .typeError | .overflowError => true
  | _ => false

/-- Source: `_report_ts` of the three (`server/service/lpr_ingest.py:99`, `audio_ingest.py:87`,
`face_ingest.py:107`). -/
def observedAt (rt : Runtime) (ts : PyValue) (now : Int) : Except PyError Int :=
  if ts.isNull then .ok now else rescue unreadable now (instant rt ts)

/-- The platform has a year for the time. -/
def TimeReadable (rt : Runtime) (ts : PyValue) : Prop :=
  ∀ ms seconds, ts.toInt = .ok ms → PyValue.divInt ms 1000 = .ok seconds →
    rt.fromTimestamp seconds ≠ .error .osError

/-- An `OSError` comes from the platform alone. -/
theorem instant_eq_osError {rt : Runtime} {ts : PyValue} :
    instant rt ts = .error .osError ↔ ¬ TimeReadable rt ts := by
  unfold TimeReadable
  push Not
  constructor
  · intro h
    rcases bind_eq_error.1 h with h | ⟨ms, hms, h⟩
    · rcases PyValue.toInt_raises h with h | h | ⟨h, -⟩ <;> cases h
    · rcases bind_eq_error.1 h with h | ⟨seconds, hseconds, h⟩
      · exact absurd (PyValue.divInt_raises h) (by decide)
      · exact ⟨ms, seconds, hms, hseconds, h⟩
  · rintro ⟨ms, seconds, hms, hseconds, h⟩
    exact bind_eq_error.2 (.inr ⟨ms, hms, bind_eq_error.2 (.inr ⟨seconds, hseconds, h⟩)⟩)

theorem returns_observedAt {rt : Runtime} {ts : PyValue} (now : Int) :
    Returns (observedAt rt ts now) ↔ TimeReadable rt ts := by
  unfold observedAt
  split
  · next hnull =>
    refine iff_of_true returns_ok fun ms seconds hms => ?_
    cases ts with
    | null => cases hms
    | _ => cases hnull
  · rw [returns_rescue]
    constructor
    · intro h
      by_contra hos
      exact absurd (h _ (instant_eq_osError.2 hos)) (by decide)
    · intro h e he
      rcases instant_raises he with rfl | rfl | rfl | ⟨rfl, -⟩
      · rfl
      · rfl
      · exact absurd h (instant_eq_osError.1 he)
      · rfl

section
variable {rows : Assignments} {node : Nat} {rep : PyValue} {ρ : Type}
  {f : Int × Assignment → Verdict PyError ObservationReason ρ}

/-- A check that begins with the camera. -/
theorem calm_claim_bind : ((claim rows node rep).relabel ObservationReason.report >>= f).Calm ↔
    rep.isDict = true ∧ (rep.field "camera_id").infinite = false ∧
      ∀ cam a, Assigned rows node rep cam a → (f (cam, a)).Calm := by
  rw [Verdict.calm_bind, Verdict.calm_relabel, calm_claim, and_assoc, and_congr_right_iff]
  intro hdict
  refine and_congr_right fun _ => ?_
  simp only [Verdict.relabel_eq_accepted, Prod.forall, claim_eq_accepted, hdict, true_and]

theorem claim_bind_eq_accepted {row : ρ} :
    (claim rows node rep).relabel ObservationReason.report >>= f = .accepted row ↔
      rep.isDict = true ∧ ∃ cam a, Assigned rows node rep cam a ∧ f (cam, a) = .accepted row := by
  simp only [Verdict.bind_eq_accepted, Verdict.relabel_eq_accepted, Prod.exists, claim_eq_accepted,
    and_assoc, exists_and_left]

end

/-! ## Plates -/

namespace LprIngest

/-- `MIN_CONFIDENCE` -/
def minConfidence : Int := 50

/-- The letters and digits of a plate, in capitals. Source: `normalize`
(`server/service/plate_normalize.py:15`) of a text. -/
def normalize (rt : Runtime) (text : String) : String :=
  String.ofList ((rt.upper text).toList.filter fun c =>
    decide ('A' ≤ c ∧ c ≤ 'Z' ∨ '0' ≤ c ∧ c ≤ '9'))

/-- `normalize` of a field. -/
def keyOf (rt : Runtime) (text : PyValue) : Except PyError String :=
  if text.truthy then
    match text with
    | .str s => .ok (normalize rt s)
    | _ => .error .attributeError
  else .ok ""

/-- A glyph for those that look like it. Source: `_CONFUSABLES`
(`server/service/plate_normalize.py:11`). -/
def fold (c : Char) : Char :=
  if c = 'O' ∨ c = 'Q' ∨ c = 'D' then '0'
  else if c = 'I' ∨ c = 'L' then '1'
  else if c = 'Z' then '2'
  else if c = 'S' then '5'
  else if c = 'B' then '8'
  else c

/-- Source: `match_key` (`server/service/plate_normalize.py:22`). -/
def matchKey (rt : Runtime) (text : String) : String :=
  String.ofList ((normalize rt text).toList.map fold)

/-- The entry for a key; one that denies comes first. Source: `PlateListEntry.match`
(`server/model/plate_list.py:40`). -/
def matchPlate (plates : List PlateListEntry) (key : String) : Option PlateListEntry :=
  if key = "" then none
  else
    let found := plates.filter fun p => decide (p.plateKey = key) && p.enabled && p.deletedAt.isNone
    (found.find? fun p => decide (p.kind = .deny)).or found.head?

/-- `int(float(x))` -/
def intOfFloat (v : PyValue) : Except PyError Int := do
  let x ← v.toFloat
  (PyValue.float x).toInt

/-- A row for `plate_reads`; `entry` gives the columns `list_id` and `list_kind`. -/
structure Row where
  cameraId : Nat
  ts : Int
  plateText : String
  plateKey : String
  confidence : Int
  region : PyValue
  vehicleLabel : PyValue
  trackId : PyValue
  nodeId : Nat
  entry : Option PlateListEntry

def plateField (rep : PyValue) : PyValue := rep.field "plate_text"

def confidenceField (rep : PyValue) : PyValue := rep.fieldD "confidence" (.int 0)

/-- What is stored of a plate: the first 24 characters without white space around the text. -/
def rawText (rt : Runtime) (text : PyValue) : String :=
  String.ofList ((Lib.strip (rt.str text).toList).take 24)

end LprIngest

namespace Observer

open LprIngest

/-- The check of a plate. Source: `_validate` (`server/service/lpr_ingest.py:60`). -/
def validatePlate (s : Observer) (rep : PyValue) :
    Verdict PyError ObservationReason (Int × Int) := do
  let (cam, _) ← (claim s.rows s.node rep).relabel .report
  let key ← .unguarded (keyOf s.rt (plateField rep))
  .require (key != "") .emptyPlate
  let confidence ← .guarded PyError.conversion .badConfidence (intOfFloat (confidenceField rep))
  .require (minConfidence ≤ confidence) .lowConfidence
  return (cam, confidence)

/-- The row with the values that were read, and the entry that it hits. -/
def plateRow (s : Observer) (rep : PyValue) (cam confidence ts : Int) : LprIngest.Row where
  cameraId := cam.toNat
  ts := ts
  plateText := rawText s.rt (plateField rep)
  plateKey := normalize s.rt (rawText s.rt (plateField rep))
  confidence := clamp100 confidence
  region := listOrNull (rep.field "region")
  vehicleLabel := (rep.field "vehicle_label").or .null
  trackId := rep.field "track_id"
  nodeId := s.node
  entry :=
    if s.isOn cam.toNat "lpr" then
      matchPlate s.plates (matchKey s.rt (rawText s.rt (plateField rep)))
    else none

/-- What becomes of a plate. Source: `_build_row` (`server/service/lpr_ingest.py:84`), which reads
the camera and the confidence again, and the match in `ingest_batch`. -/
def judgePlate (s : Observer) (rep : PyValue) :
    Verdict PyError ObservationReason LprIngest.Row := do
  let (cam, confidence) ← s.validatePlate rep
  let ts ← .unguarded (observedAt s.rt (rep.field "ts") s.now)
  return s.plateRow rep cam confidence ts

def takesPlate (s : Observer) (row : LprIngest.Row) : Bool :=
  s.columns.text 24 (.str row.plateText) && s.columns.text 24 (.str row.plateKey) &&
    s.columns.json row.region && s.columns.text 16 row.vehicleLabel && s.columns.bigInt row.trackId

/-- Source: `ingest_batch` (`server/service/lpr_ingest.py:23`). -/
def plateIntake (s : Observer) :
    Intake PyError ObservationReason PyValue LprIngest.Row where
  cap := maxObservations
  judge := s.judgePlate
  takes := s.takesPlate
  refusal := .dataError

end Observer

/-! ### Harmless plates -/

/-- The report passes the check of a plate. -/
structure ValidPlate (s : Observer) (rep : PyValue) (cam confidence : Int) : Prop where
  object : rep.isDict = true
  assigned : ∃ a, Assigned s.rows s.node rep cam a
  named : ∃ key, LprIngest.keyOf s.rt (LprIngest.plateField rep) = .ok key ∧ key ≠ ""
  read : LprIngest.intOfFloat (LprIngest.confidenceField rep) = .ok confidence
  sure : LprIngest.minConfidence ≤ confidence

/-- The values of a plate can be read, what is stored of its text has a key, and the columns take
them. -/
structure StorablePlate (s : Observer) (rep : PyValue) : Prop where
  time : TimeReadable s.rt (rep.field "ts")
  named : LprIngest.normalize s.rt (LprIngest.rawText s.rt (LprIngest.plateField rep)) ≠ ""
  text : s.columns.text 24 (.str (LprIngest.rawText s.rt (LprIngest.plateField rep))) = true
  key : s.columns.text 24 (.str
    (LprIngest.normalize s.rt (LprIngest.rawText s.rt (LprIngest.plateField rep)))) = true
  region : s.columns.json (listOrNull (rep.field "region")) = true
  vehicle : s.columns.text 16 ((rep.field "vehicle_label").or .null) = true
  track : s.columns.bigInt (rep.field "track_id") = true

/-- A plate that does no harm to its batch and has a key in the table. -/
structure HarmlessPlate (s : Observer) (rep : PyValue) : Prop where
  object : rep.isDict = true
  camera : (rep.field "camera_id").infinite = false
  text : ∀ cam a, Assigned s.rows s.node rep cam a →
    (LprIngest.plateField rep).truthy = true → ∃ t, LprIngest.plateField rep = .str t
  confidence : ∀ cam a key, Assigned s.rows s.node rep cam a →
    LprIngest.keyOf s.rt (LprIngest.plateField rep) = .ok key → key ≠ "" →
    (LprIngest.confidenceField rep).huge = false ∧
      ∀ negative, (LprIngest.confidenceField rep).toFloat ≠ .ok (.inf negative)
  fields : ∀ cam confidence, ValidPlate s rep cam confidence → StorablePlate s rep

section
variable {s : Observer} {rep v : PyValue} {rt : Runtime} {cam confidence : Int}

namespace LprIngest

theorem returns_keyOf :
    Returns (keyOf rt v) ↔ (v.truthy = true → ∃ t, v = .str t) := by
  unfold keyOf
  split
  · next htruthy =>
    cases v with
    | str t => simp
    | _ => simp [htruthy]
  · next htruthy => simp [htruthy]

theorem intOfFloat_caught : (∀ e, intOfFloat v = .error e → e.conversion = true) ↔
    v.huge = false ∧ ∀ negative, v.toFloat ≠ .ok (.inf negative) := by
  rw [← PyValue.toFloat_caught]
  unfold intOfFloat
  cases hx : v.toFloat with
  | error e => simp [bind, Except.bind]
  | ok x =>
    have hint := PyValue.toInt_caught (v := .float x)
    cases x <;> simp_all [bind, Except.bind, PyValue.infinite]

end LprIngest

namespace Observer

open LprIngest

theorem validatePlate_eq_accepted :
    s.validatePlate rep = .accepted (cam, confidence) ↔ ValidPlate s rep cam confidence := by
  rw [validatePlate, claim_bind_eq_accepted]
  simp only [Verdict.bind_eq_accepted, Verdict.unguarded_eq_accepted,
    Verdict.guarded_eq_accepted, Verdict.require_eq_accepted, Verdict.pure_eq_accepted]
  constructor
  · rintro ⟨hdict, cam', a, hassigned, key, hkey, -, hnamed, confidence', hconf, -, hsure, heq⟩
    cases heq
    exact ⟨hdict, ⟨a, hassigned⟩, ⟨key, hkey, by simpa using hnamed⟩, hconf, by simpa using hsure⟩
  · rintro ⟨hdict, ⟨a, hassigned⟩, ⟨key, hkey, hnamed⟩, hconf, hsure⟩
    exact ⟨hdict, cam, a, hassigned, key, hkey, (), by simpa using hnamed, confidence, hconf, (),
      by simpa using hsure, rfl⟩

theorem calm_validatePlate : (s.validatePlate rep).Calm ↔ rep.isDict = true ∧
    (rep.field "camera_id").infinite = false ∧ ∀ cam a, Assigned s.rows s.node rep cam a →
      ((plateField rep).truthy = true → ∃ t, plateField rep = .str t) ∧
      ∀ key, keyOf s.rt (plateField rep) = .ok key → key ≠ "" →
        (confidenceField rep).huge = false ∧
          ∀ negative, (confidenceField rep).toFloat ≠ .ok (.inf negative) := by
  rw [validatePlate, calm_claim_bind]
  simp only [Verdict.calm_bind, Verdict.calm_unguarded, Verdict.calm_guarded,
    Verdict.calm_require, Verdict.calm_pure, Verdict.unguarded_eq_accepted,
    Verdict.require_eq_accepted, returns_keyOf, intOfFloat_caught, implies_true, and_true, true_and,
    forall_const, bne_iff_ne]

theorem judgePlate_eq_accepted {row : LprIngest.Row} : s.judgePlate rep = .accepted row ↔
    ∃ cam confidence, ValidPlate s rep cam confidence ∧
      ∃ ts, observedAt s.rt (rep.field "ts") s.now = .ok ts ∧
        s.plateRow rep cam confidence ts = row := by
  unfold judgePlate
  simp only [Verdict.bind_eq_accepted, Verdict.unguarded_eq_accepted, Verdict.pure_eq_accepted,
    Prod.exists, validatePlate_eq_accepted]

theorem calm_judgePlate : (s.judgePlate rep).Calm ↔ (s.validatePlate rep).Calm ∧
    ∀ cam confidence, ValidPlate s rep cam confidence → TimeReadable s.rt (rep.field "ts") := by
  unfold judgePlate
  simp only [Verdict.calm_bind, Verdict.calm_unguarded, Verdict.calm_pure, Prod.forall,
    validatePlate_eq_accepted, returns_observedAt, implies_true, and_true]

/-- The loop and the table spare the batch for a plate whose fields are harmless, and what is stored
of it has a key then, and for no other. -/
theorem plateIntake_harmless : HarmlessPlate s rep ↔ s.plateIntake.Harmless rep ∧
    ∀ row, s.plateIntake.judge rep = .accepted row → row.plateKey ≠ "" := by
  constructor
  · intro h
    refine ⟨⟨calm_judgePlate.2 ⟨calm_validatePlate.2 ⟨h.object, h.camera, fun cam a hassigned =>
      ⟨h.text cam a hassigned, fun key => h.confidence cam a key hassigned⟩⟩,
      fun cam confidence hvalid => (h.fields cam confidence hvalid).time⟩, fun row hrow => ?_⟩,
      fun row hrow => ?_⟩
    · obtain ⟨cam, confidence, hvalid, ts, -, rfl⟩ := judgePlate_eq_accepted.1 hrow
      obtain ⟨-, -, htext, hkey, hregion, hvehicle, htrack⟩ := h.fields cam confidence hvalid
      simp only [plateIntake, takesPlate, plateRow, htext, hkey, hregion, hvehicle, htrack,
        Bool.and_self]
    · obtain ⟨cam, confidence, hvalid, ts, -, rfl⟩ := judgePlate_eq_accepted.1 hrow
      exact (h.fields cam confidence hvalid).named
  · rintro ⟨⟨hcalm, htaken⟩, hnamed⟩
    obtain ⟨hvalidate, htime⟩ := calm_judgePlate.1 hcalm
    obtain ⟨hdict, hcamera, hchecks⟩ := calm_validatePlate.1 hvalidate
    refine ⟨hdict, hcamera, fun cam a hassigned => (hchecks cam a hassigned).1,
      fun cam a key hassigned => (hchecks cam a hassigned).2 key, fun cam confidence hvalid => ?_⟩
    obtain ⟨ts, hts⟩ := (returns_observedAt s.now).2 (htime cam confidence hvalid)
    have hrow : s.judgePlate rep = .accepted (s.plateRow rep cam confidence ts) :=
      judgePlate_eq_accepted.2 ⟨cam, confidence, hvalid, ts, hts, rfl⟩
    have hcolumns := htaken _ hrow
    simp only [plateIntake, takesPlate, plateRow, Bool.and_eq_true] at hcolumns
    obtain ⟨⟨⟨⟨htext, hkey⟩, hregion⟩, hvehicle⟩, htrack⟩ := hcolumns
    exact ⟨htime cam confidence hvalid, hnamed _ hrow, htext, hkey, hregion, hvehicle, htrack⟩

end Observer

end

/-! ## Sounds -/

namespace AudioIngest

/-- A row for `audio_detections`. -/
structure Row where
  cameraId : Nat
  ts : Int
  label : String
  score : Int
  clipPath : PyValue
  nodeId : Nat

end AudioIngest

namespace Observer

/-- The check of a sound. Source: `_validate` (`server/service/audio_ingest.py:58`). -/
def validateSound (s : Observer) (rep : PyValue) : Verdict PyError ObservationReason Int := do
  let (cam, _) ← (claim s.rows s.node rep).relabel .report
  .require (rep.field "label").truthy .missingLabel
  return cam

/-- The first 32 characters of the label. -/
def soundLabel (s : Observer) (rep : PyValue) : String :=
  String.ofList ((s.rt.str (rep.field "label")).toList.take 32)

/-- The row with the values that were read. -/
def soundRow (s : Observer) (rep : PyValue) (cam ts score : Int) : AudioIngest.Row where
  cameraId := cam.toNat
  ts := ts
  label := s.soundLabel rep
  score := clamp100 score
  clipPath := rep.field "clip_path"
  nodeId := s.node

/-- What becomes of a sound. Source: `_build_row` (`server/service/audio_ingest.py:76`). -/
def judgeSound (s : Observer) (rep : PyValue) :
    Verdict PyError ObservationReason AudioIngest.Row := do
  let cam ← s.validateSound rep
  let ts ← .unguarded (observedAt s.rt (rep.field "ts") s.now)
  let score ← .unguarded (rep.fieldD "score" (.int 0)).toInt
  return s.soundRow rep cam ts score

def takesSound (s : Observer) (row : AudioIngest.Row) : Bool :=
  s.columns.text 32 (.str row.label) && s.columns.text 500 row.clipPath

/-- Source: `ingest_batch` (`server/service/audio_ingest.py:23`). -/
def soundIntake (s : Observer) : Intake PyError ObservationReason PyValue AudioIngest.Row where
  cap := maxObservations
  judge := s.judgeSound
  takes := s.takesSound
  refusal := .dataError

end Observer

/-! ### Harmless sounds -/

/-- The values of a sound can be read, and the columns take them. -/
structure StorableSound (s : Observer) (rep : PyValue) : Prop where
  time : TimeReadable s.rt (rep.field "ts")
  score : Returns (rep.fieldD "score" (.int 0)).toInt
  label : s.columns.text 32 (.str (s.soundLabel rep)) = true
  clip : s.columns.text 500 (rep.field "clip_path") = true

/-- A sound that does no harm to its batch. -/
structure HarmlessSound (s : Observer) (rep : PyValue) : Prop where
  object : rep.isDict = true
  camera : (rep.field "camera_id").infinite = false
  fields : ∀ cam a, Assigned s.rows s.node rep cam a → (rep.field "label").truthy = true →
    StorableSound s rep

section
variable {s : Observer} {rep : PyValue}

namespace Observer

theorem validateSound_eq_accepted {cam : Int} : s.validateSound rep = .accepted cam ↔
    rep.isDict = true ∧ (∃ a, Assigned s.rows s.node rep cam a) ∧
      (rep.field "label").truthy = true := by
  rw [validateSound, claim_bind_eq_accepted]
  simp only [Verdict.bind_eq_accepted, Verdict.require_eq_accepted, Verdict.pure_eq_accepted]
  constructor
  · rintro ⟨hdict, cam', a, hassigned, -, hlabel, rfl⟩
    exact ⟨hdict, ⟨a, hassigned⟩, hlabel⟩
  · rintro ⟨hdict, ⟨a, hassigned⟩, hlabel⟩
    exact ⟨hdict, cam, a, hassigned, (), hlabel, rfl⟩

theorem calm_validateSound : (s.validateSound rep).Calm ↔
    rep.isDict = true ∧ (rep.field "camera_id").infinite = false := by
  rw [validateSound, calm_claim_bind]
  simp only [Verdict.calm_bind, Verdict.calm_require, Verdict.calm_pure, implies_true, and_true]

theorem judgeSound_eq_accepted {row : AudioIngest.Row} : s.judgeSound rep = .accepted row ↔
    ∃ cam, s.validateSound rep = .accepted cam ∧
      ∃ ts, observedAt s.rt (rep.field "ts") s.now = .ok ts ∧
      ∃ score, (rep.fieldD "score" (.int 0)).toInt = .ok score ∧
        s.soundRow rep cam ts score = row := by
  unfold judgeSound
  simp only [Verdict.bind_eq_accepted, Verdict.unguarded_eq_accepted, Verdict.pure_eq_accepted]

theorem calm_judgeSound : (s.judgeSound rep).Calm ↔ (s.validateSound rep).Calm ∧
    ∀ cam, s.validateSound rep = .accepted cam →
      TimeReadable s.rt (rep.field "ts") ∧ Returns (rep.fieldD "score" (.int 0)).toInt := by
  unfold judgeSound
  simp only [Verdict.calm_bind, Verdict.calm_unguarded, Verdict.calm_pure,
    Verdict.unguarded_eq_accepted, ← returns_observedAt s.now, implies_true, and_true]
  refine and_congr_right fun _ => forall₂_congr fun cam _ => and_congr_right ?_
  rintro ⟨ts, hts⟩
  exact ⟨fun h => h ts hts, fun h _ _ => h⟩

/-- The loop and the table spare the batch for a sound whose fields are harmless, and for no
other. -/
theorem soundIntake_harmless : HarmlessSound s rep ↔ s.soundIntake.Harmless rep := by
  constructor
  · intro h
    have hfields : ∀ cam, s.validateSound rep = .accepted cam → StorableSound s rep := by
      intro cam hcam
      obtain ⟨-, ⟨a, hassigned⟩, hlabel⟩ := validateSound_eq_accepted.1 hcam
      exact h.fields cam a hassigned hlabel
    refine ⟨calm_judgeSound.2 ⟨calm_validateSound.2 ⟨h.object, h.camera⟩, fun cam hcam =>
      ⟨(hfields cam hcam).time, (hfields cam hcam).score⟩⟩, fun row hrow => ?_⟩
    obtain ⟨cam, hcam, ts, -, score, -, rfl⟩ := judgeSound_eq_accepted.1 hrow
    simp only [soundIntake, takesSound, soundRow, (hfields cam hcam).label, (hfields cam hcam).clip,
      Bool.and_self]
  · rintro ⟨hcalm, htaken⟩
    obtain ⟨hvalidate, hreads⟩ := calm_judgeSound.1 hcalm
    obtain ⟨hdict, hcamera⟩ := calm_validateSound.1 hvalidate
    refine ⟨hdict, hcamera, fun cam a hassigned hlabel => ?_⟩
    have hcam := validateSound_eq_accepted.2 ⟨hdict, ⟨a, hassigned⟩, hlabel⟩
    obtain ⟨htime, hscore⟩ := hreads cam hcam
    obtain ⟨ts, hts⟩ := (returns_observedAt s.now).2 htime
    obtain ⟨score, hscore'⟩ := hscore
    have hcolumns := htaken _ (judgeSound_eq_accepted.2 ⟨cam, hcam, ts, hts, score, hscore', rfl⟩)
    simp only [soundIntake, takesSound, soundRow, Bool.and_eq_true] at hcolumns
    exact ⟨htime, ⟨score, hscore'⟩, hcolumns.1, hcolumns.2⟩

end Observer

end

/-! ## Faces -/

namespace FaceIngest

/-- A row for `face_observations`; `hit` gives the columns `identity_id`, `identity_name` and
`score`. -/
structure Row where
  cameraId : Nat
  ts : Int
  backend : String
  dim : Nat
  embedding : List Double
  quality : Option Int
  region : PyValue
  nodeId : Nat
  hit : Option (FaceIdentity × Int)

/-- The rest of `sum(items)`: `x` is the sum so far and `c` what its roundings have lost. -/
def sumFrom (x c : Double) : List Double → Double
  | [] =>
    match c with
    | .finite q => if q = 0 then x else x.add c
    | _ => x
  | y :: items =>
    let t := x.add y
    let lost := if y.abs.le x.abs then (x.sub t).add y else (y.sub t).add x
    sumFrom t (c.add lost) items

/-- Source: `cosine` (`server/service/semantic_embed.py:121`). -/
def cosine (a b : List Double) : Double :=
  if a.isEmpty || b.isEmpty || a.length != b.length then .finite 0
  else
    match List.zipWith Double.mul a b with
    | [] => .finite 0
    | x :: items => sumFrom x (.finite 0) items

/-- The reference embeddings that an observation is compared with. -/
def comparable (identities : List FaceIdentity) (backend : String) (dim : Nat) :
    List (FaceIdentity × List Double) :=
  (identities.filter fun ident =>
    ident.deletedAt.isNone && ident.enabled && ident.consent &&
      decide (ident.backend = some backend) && decide (ident.dim = some dim)).flatMap fun ident =>
    ((ident.embeddings.getD []).filter fun ref => decide (ref.length = dim)).map fun ref =>
      (ident, ref)

/-- The identity with the highest score above 0, the first one of several. -/
def bestMatch (identities : List FaceIdentity) (vector : List Double) (backend : String) :
    Option FaceIdentity × Double :=
  (comparable identities backend vector.length).foldl (fun best c =>
    if best.2.lt (cosine vector c.2) then (some c.1, cosine vector c.2) else best) (none, .finite 0)

/-- `MATCH_THRESHOLD` -/
def matchThreshold : Double := Double.ofRat (55 / 100)

/-- The identity that an embedding matches, with the score in percent. Source: `match`
(`server/service/face_match.py:12`). -/
def matchFace (identities : List FaceIdentity) (vector : List Double) (backend : String) :
    Except PyError (Option (FaceIdentity × Int)) :=
  if vector.isEmpty then .ok none
  else
    match bestMatch identities vector backend with
    | (none, _) => .ok none
    | (some ident, score) =>
      if score.lt matchThreshold then .ok none
      else do
        let n ← (PyValue.float (score.mul (.finite 100))).toInt
        return some (ident, clamp100 n)

/-- Source: `_clamp` (`server/service/face_ingest.py:98`). -/
def clampQuality (v : PyValue) : Except PyError (Option Int) :=
  if v.isNull then .ok none
  else rescue PyError.conversion none (v.toInt.map fun n => some (clamp100 n))

/-- An embedding is a list that is not empty. -/
def embeddingOf : PyValue → Option (List PyValue)
  | .list (v :: items) => some (v :: items)
  | _ => none

end FaceIngest

namespace Observer

open FaceIngest

/-- The check of a face, and the embedding that it converts. Source: `_validate`
(`server/service/face_ingest.py:59`). -/
def validateFace (s : Observer) (rep : PyValue) :
    Verdict PyError ObservationReason (Int × List Double) := do
  let (cam, _) ← (claim s.rows s.node rep).relabel .report
  let items ← .found .missingEmbedding (embeddingOf (rep.field "embedding"))
  let vector ← .guarded PyError.conversion .badEmbedding (items.mapM PyValue.toFloat)
  .require (rep.field "backend").truthy .missingBackend
  return (cam, vector)

/-- The first 16 characters of the backend. -/
def faceBackend (s : Observer) (rep : PyValue) : String :=
  String.ofList ((s.rt.str (rep.field "backend")).toList.take 16)

/-- The identity of a face, where the camera has faces enabled. -/
def faceHit (s : Observer) (rep : PyValue) (cam : Int) (vector : List Double) :
    Except PyError (Option (FaceIdentity × Int)) :=
  if s.isOn cam.toNat "face" then matchFace s.identities vector (s.faceBackend rep) else .ok none

/-- The row with the values that were read. -/
def faceRow (s : Observer) (rep : PyValue) (cam : Int) (vector : List Double) (ts : Int)
    (quality : Option Int) (hit : Option (FaceIdentity × Int)) : FaceIngest.Row where
  cameraId := cam.toNat
  ts := ts
  backend := s.faceBackend rep
  dim := vector.length
  embedding := vector
  quality := quality
  region := listOrNull (rep.field "region")
  nodeId := s.node
  hit := hit

/-- What becomes of a face. Source: `_build_row` (`server/service/face_ingest.py:84`), which
converts the embedding again, and the match in `ingest_batch`. -/
def judgeFace (s : Observer) (rep : PyValue) :
    Verdict PyError ObservationReason FaceIngest.Row := do
  let (cam, vector) ← s.validateFace rep
  let ts ← .unguarded (observedAt s.rt (rep.field "ts") s.now)
  let quality ← .unguarded (clampQuality (rep.field "quality"))
  let hit ← .unguarded (s.faceHit rep cam vector)
  return s.faceRow rep cam vector ts quality hit

def takesFace (s : Observer) (row : FaceIngest.Row) : Bool :=
  s.columns.text 16 (.str row.backend) && s.columns.json (.list (row.embedding.map .float)) &&
    s.columns.json row.region

/-- Source: `ingest_batch` (`server/service/face_ingest.py:21`). -/
def faceIntake (s : Observer) : Intake PyError ObservationReason PyValue FaceIngest.Row where
  cap := maxObservations
  judge := s.judgeFace
  takes := s.takesFace
  refusal := .dataError

end Observer

/-! ### Harmless faces -/

/-- The report passes the check of a face. -/
structure ValidFace (s : Observer) (rep : PyValue) (cam : Int) (vector : List Double) : Prop where
  object : rep.isDict = true
  assigned : ∃ a, Assigned s.rows s.node rep cam a
  given : ∃ items, rep.field "embedding" = .list items ∧ items ≠ [] ∧
    items.mapM PyValue.toFloat = .ok vector
  backend : (rep.field "backend").truthy = true

/-- The score of the best match is finite as a percentage, if it reaches the threshold. -/
def ScoreReadable (best : Option FaceIdentity × Double) : Prop :=
  best.1.isSome = true → best.2.lt FaceIngest.matchThreshold = false →
    ∃ q, best.2.mul (.finite 100) = .finite q

/-- The values of a face can be read, so can its score, and the columns take them. -/
structure StorableFace (s : Observer) (rep : PyValue) (cam : Int) (vector : List Double) :
    Prop where
  time : TimeReadable s.rt (rep.field "ts")
  quality : (rep.field "quality").infinite = false
  score : s.isOn cam.toNat "face" = true →
    ScoreReadable (FaceIngest.bestMatch s.identities vector (s.faceBackend rep))
  backend : s.columns.text 16 (.str (s.faceBackend rep)) = true
  embedding : s.columns.json (.list (vector.map .float)) = true
  region : s.columns.json (listOrNull (rep.field "region")) = true

/-- A face that does no harm to its batch: in its embedding, no integer that is too large comes
before the first item that is no number. -/
structure HarmlessFace (s : Observer) (rep : PyValue) : Prop where
  object : rep.isDict = true
  camera : (rep.field "camera_id").infinite = false
  embedding : ∀ cam a items, Assigned s.rows s.node rep cam a →
    rep.field "embedding" = .list items → ∀ pre v post, items = pre ++ v :: post →
      (∀ x ∈ pre, Returns x.toFloat) → v.huge = false
  fields : ∀ cam vector, ValidFace s rep cam vector → StorableFace s rep cam vector

section
variable {s : Observer} {rep v : PyValue} {cam : Int} {vector : List Double} {items : List PyValue}

theorem ValidFace.ne_nil (h : ValidFace s rep cam vector) : vector ≠ [] := by
  obtain ⟨items, -, hne, hvector⟩ := h.given
  rintro rfl
  cases mapM_eq_ok.1 hvector
  exact hne rfl

namespace FaceIngest

theorem embeddingOf_eq_some : embeddingOf v = some items ↔ v = .list items ∧ items ≠ [] := by
  unfold embeddingOf
  split
  · simp only [Option.some.injEq, PyValue.list.injEq]
    constructor
    · rintro rfl
      exact ⟨rfl, List.cons_ne_nil _ _⟩
    · exact And.left
  · next hlist =>
    simp only [reduceCtorEq, false_iff, not_and, not_not]
    rintro rfl
    cases items with
    | nil => rfl
    | cons v items => exact absurd rfl (hlist v items)

/-- Behind `except (TypeError, ValueError)` an embedding raises for an integer that is too large,
unless an item before it is no number. -/
theorem mapM_toFloat_caught :
    (∀ e, items.mapM PyValue.toFloat = .error e → e.conversion = true) ↔
      ∀ pre v post, items = pre ++ v :: post → (∀ x ∈ pre, Returns x.toFloat) → v.huge = false := by
  constructor
  · intro h pre v post hitems hpre
    refine PyValue.toFloat_caught.1 fun e he => h e ?_
    exact mapM_eq_error.2 ⟨pre, v, post, hitems, hpre, he⟩
  · intro h e he
    obtain ⟨pre, v, post, hitems, hpre, he⟩ := mapM_eq_error.1 he
    exact PyValue.toFloat_caught.2 (h pre v post hitems hpre) e he

theorem returns_clampQuality : Returns (clampQuality v) ↔ v.infinite = false := by
  unfold clampQuality
  split
  · next hnull =>
    cases v with
    | null => exact iff_of_true returns_ok rfl
    | _ => cases hnull
  · rw [returns_rescue, ← PyValue.toInt_caught]
    cases v.toInt <;> simp [Except.map]

theorem returns_matchFace {identities : List FaceIdentity} {backend : String} (h : vector ≠ []) :
    Returns (matchFace identities vector backend) ↔
      ScoreReadable (bestMatch identities vector backend) := by
  unfold matchFace ScoreReadable
  rw [if_neg (by simpa using h)]
  obtain ⟨best, score⟩ := bestMatch identities vector backend
  cases best with
  | none => simp
  | some ident =>
    cases hlow : score.lt matchThreshold with
    | true => simp [hlow]
    | false =>
      simp only [hlow, Bool.false_eq_true, if_false, Option.isSome_some, forall_const]
      cases score.mul (.finite 100) <;> simp [PyValue.toInt]

end FaceIngest

namespace Observer

open FaceIngest

theorem returns_faceHit (h : vector ≠ []) : Returns (s.faceHit rep cam vector) ↔
    (s.isOn cam.toNat "face" = true →
      ScoreReadable (bestMatch s.identities vector (s.faceBackend rep))) := by
  unfold faceHit
  split
  · next hon => simp [hon, returns_matchFace h]
  · next hoff => simp [hoff]

theorem validateFace_eq_accepted :
    s.validateFace rep = .accepted (cam, vector) ↔ ValidFace s rep cam vector := by
  rw [validateFace, claim_bind_eq_accepted]
  simp only [Verdict.bind_eq_accepted, Verdict.found_eq_accepted, Verdict.guarded_eq_accepted,
    Verdict.require_eq_accepted, Verdict.pure_eq_accepted, embeddingOf_eq_some]
  constructor
  · rintro ⟨hdict, cam', a, hassigned, items, ⟨hlist, hne⟩, vector', hvector, -, hbackend, heq⟩
    cases heq
    exact ⟨hdict, ⟨a, hassigned⟩, ⟨items, hlist, hne, hvector⟩, hbackend⟩
  · rintro ⟨hdict, ⟨a, hassigned⟩, ⟨items, hlist, hne, hvector⟩, hbackend⟩
    exact ⟨hdict, cam, a, hassigned, items, ⟨hlist, hne⟩, vector, hvector, (), hbackend, rfl⟩

theorem calm_validateFace : (s.validateFace rep).Calm ↔ rep.isDict = true ∧
    (rep.field "camera_id").infinite = false ∧
      ∀ cam a, Assigned s.rows s.node rep cam a → ∀ items, rep.field "embedding" = .list items →
        ∀ pre v post, items = pre ++ v :: post → (∀ x ∈ pre, Returns x.toFloat) →
          v.huge = false := by
  rw [validateFace, calm_claim_bind]
  simp only [Verdict.calm_bind, Verdict.calm_found, Verdict.calm_guarded, Verdict.calm_require,
    Verdict.calm_pure, Verdict.found_eq_accepted, embeddingOf_eq_some, mapM_toFloat_caught,
    implies_true, and_true, true_and, and_imp]
  refine and_congr_right fun _ => and_congr_right fun _ => ?_
  refine forall_congr' fun cam => forall₂_congr fun a _ => forall₂_congr fun items _ => ?_
  constructor
  · rintro h pre v post rfl
    exact h (by simp) pre v post rfl
  · exact fun h _ => h

theorem judgeFace_eq_accepted {row : FaceIngest.Row} : s.judgeFace rep = .accepted row ↔
    ∃ cam vector, ValidFace s rep cam vector ∧
      ∃ ts, observedAt s.rt (rep.field "ts") s.now = .ok ts ∧
      ∃ quality, clampQuality (rep.field "quality") = .ok quality ∧
      ∃ hit, s.faceHit rep cam vector = .ok hit ∧
        s.faceRow rep cam vector ts quality hit = row := by
  unfold judgeFace
  simp only [Verdict.bind_eq_accepted, Verdict.unguarded_eq_accepted, Verdict.pure_eq_accepted,
    Prod.exists, validateFace_eq_accepted]

theorem calm_judgeFace : (s.judgeFace rep).Calm ↔ (s.validateFace rep).Calm ∧
    ∀ cam vector, ValidFace s rep cam vector → TimeReadable s.rt (rep.field "ts") ∧
      (rep.field "quality").infinite = false ∧ (s.isOn cam.toNat "face" = true →
        ScoreReadable (bestMatch s.identities vector (s.faceBackend rep))) := by
  unfold judgeFace
  simp only [Verdict.calm_bind, Verdict.calm_unguarded, Verdict.calm_pure, Prod.forall,
    Verdict.unguarded_eq_accepted, validateFace_eq_accepted, implies_true, and_true]
  refine and_congr_right fun _ => forall₂_congr fun cam vector => forall_congr' fun hvalid => ?_
  rw [← returns_observedAt s.now, ← returns_clampQuality, ← returns_faceHit hvalid.ne_nil]
  refine and_congr_right ?_
  rintro ⟨ts, hts⟩
  constructor
  · intro h
    obtain ⟨⟨quality, hquality⟩, hhit⟩ := h ts hts
    exact ⟨⟨quality, hquality⟩, hhit quality hquality⟩
  · exact fun h _ _ => ⟨h.1, fun _ _ => h.2⟩

/-- The loop and the table spare the batch for a face whose fields are harmless, and for no
other. -/
theorem faceIntake_harmless : HarmlessFace s rep ↔ s.faceIntake.Harmless rep := by
  constructor
  · intro h
    refine ⟨calm_judgeFace.2 ⟨calm_validateFace.2 ⟨h.object, h.camera, fun cam a hassigned items =>
      h.embedding cam a items hassigned⟩, fun cam vector hvalid => ?_⟩, fun row hrow => ?_⟩
    · have hfields := h.fields cam vector hvalid
      exact ⟨hfields.time, hfields.quality, hfields.score⟩
    · obtain ⟨cam, vector, hvalid, ts, -, quality, -, hit, -, rfl⟩ := judgeFace_eq_accepted.1 hrow
      obtain ⟨-, -, -, hbackend, hembedding, hregion⟩ := h.fields cam vector hvalid
      simp only [faceIntake, takesFace, faceRow, hbackend, hembedding, hregion, Bool.and_self]
  · rintro ⟨hcalm, htaken⟩
    obtain ⟨hvalidate, hreads⟩ := calm_judgeFace.1 hcalm
    obtain ⟨hdict, hcamera, hembedding⟩ := calm_validateFace.1 hvalidate
    refine ⟨hdict, hcamera, fun cam a items hassigned => hembedding cam a hassigned items,
      fun cam vector hvalid => ?_⟩
    obtain ⟨htime, hquality, hscore⟩ := hreads cam vector hvalid
    obtain ⟨ts, hts⟩ := (returns_observedAt s.now).2 htime
    obtain ⟨quality, hquality'⟩ := returns_clampQuality.2 hquality
    obtain ⟨hit, hhit⟩ := (returns_faceHit hvalid.ne_nil).2 hscore
    have hcolumns := htaken _ (judgeFace_eq_accepted.2
      ⟨cam, vector, hvalid, ts, hts, quality, hquality', hit, hhit, rfl⟩)
    simp only [faceIntake, takesFace, faceRow, Bool.and_eq_true] at hcolumns
    obtain ⟨⟨hbackend, hvector⟩, hregion⟩ := hcolumns
    exact ⟨htime, hquality, hscore, hbackend, hvector, hregion⟩

end Observer

end

/-! ## The batches -/

/-- The three kinds of batches are handled report by report, and every plate that is stored has a
key. -/
structure Handled (s : Observer) (plates sounds faces : List PyValue) : Prop where
  plate : s.plateIntake.Isolated plates
  sound : s.soundIntake.Isolated sounds
  face : s.faceIntake.Isolated faces
  keyed : ∀ o, s.plateIntake.run plates = .ok o → ∀ row ∈ o.rows, row.plateKey ≠ ""

/-- Batches of plates, sounds and faces are handled report by report, and every plate that is stored
has a key, when none has more than 200 reports and each report is harmless. -/
theorem observations_handled_iff (s : Observer) (plates sounds faces : List PyValue) :
    Handled s plates sounds faces ↔
      (plates.length ≤ 200 ∧ ∀ rep ∈ plates, HarmlessPlate s rep) ∧
      (sounds.length ≤ 200 ∧ ∀ rep ∈ sounds, HarmlessSound s rep) ∧
      (faces.length ≤ 200 ∧ ∀ rep ∈ faces, HarmlessFace s rep) := by
  have hsounds : s.soundIntake.Isolated sounds ↔
      sounds.length ≤ 200 ∧ ∀ rep ∈ sounds, HarmlessSound s rep := by
    simp only [Intake.isolated_iff, Observer.soundIntake_harmless]
    rfl
  have hfaces : s.faceIntake.Isolated faces ↔
      faces.length ≤ 200 ∧ ∀ rep ∈ faces, HarmlessFace s rep := by
    simp only [Intake.isolated_iff, Observer.faceIntake_harmless]
    rfl
  rw [← hsounds, ← hfaces]
  constructor
  · rintro ⟨hplates, hsounds, hfaces, hkeyed⟩
    obtain ⟨o, ho, -⟩ := id hplates
    obtain ⟨hcap, hharmless⟩ := Intake.isolated_iff.1 hplates
    refine ⟨⟨hcap, fun rep hrep => Observer.plateIntake_harmless.2 ⟨hharmless rep hrep, ?_⟩⟩,
      hsounds, hfaces⟩
    intro row hrow
    refine hkeyed o ho row ((Intake.mem_rows_of_run ho).2 ⟨rep, ?_, hrow⟩)
    rwa [List.take_of_length_le hcap]
  · rintro ⟨⟨hcap, hharmless⟩, hsounds, hfaces⟩
    refine ⟨Intake.isolated_iff.2 ⟨hcap, fun rep hrep =>
      (Observer.plateIntake_harmless.1 (hharmless rep hrep)).1⟩, hsounds, hfaces,
      fun o ho row hrow => ?_⟩
    obtain ⟨rep, hrep, hrow⟩ := (Intake.mem_rows_of_run ho).1 hrow
    exact (Observer.plateIntake_harmless.1 (hharmless rep (List.mem_of_mem_take hrep))).2 row hrow

theorem nodup_oneAssignment :
    (([⟨1, 1, .active, none, none, 1⟩] : List Assignment).map Assignment.cameraId).Nodup := by
  decide

/-- An observer with one camera, which is assigned to the posting node. -/
def oneObserver : Observer where
  rows := ⟨[⟨1, 1, .active, none, none, 1⟩], nodup_oneAssignment⟩
  node := 1
  now := 1700000000 * 10 ^ 6
  isOn _ _ := false
  plates := []
  identities := []
  rt := .ascii
  columns := ⟨fun _ => true, fun _ => true, fun _ _ => true, fun _ => true⟩

/-- A plate with the text and the time. -/
def plateAt (text : String) (ts : PyValue) : PyValue :=
  .dict [("camera_id", .int 1), ("plate_text", .str text), ("confidence", .int 90), ("ts", ts)]

/-- Two characters after 24 points. -/
def dashed : PyValue := plateAt "........................A1" .null

/-- A plate whose letters come after 24 points is stored without a key, and a time for which the
platform has no year loses the plate before it. -/
theorem plate_without_key :
    (∃ o, oneObserver.plateIntake.run [dashed] = .ok o ∧
      o.rows.map LprIngest.Row.plateKey = [""]) ∧
    (∃ e, oneObserver.plateIntake.run [plateAt "A1" .null, plateAt "B2" (.int (10 ^ 20))] =
      .error e) ∧
    ¬ Handled oneObserver [dashed] [] [] := by
  have hstored : ∃ o, oneObserver.plateIntake.run [dashed] = .ok o ∧
      o.rows.map LprIngest.Row.plateKey = [""] := by
    have hkeys : (match oneObserver.plateIntake.run [dashed] with
        | .ok o => o.rows.map LprIngest.Row.plateKey
        | .error _ => []) = [""] := by decide +kernel
    split at hkeys
    · next o ho => exact ⟨o, ho, hkeys⟩
    · cases hkeys
  refine ⟨hstored, ?_, fun h => ?_⟩
  · have hraised : (match oneObserver.plateIntake.run
        [plateAt "A1" .null, plateAt "B2" (.int (10 ^ 20))] with
        | .ok _ => false
        | .error _ => true) = true := by decide +kernel
    split at hraised
    · cases hraised
    · next e he => exact ⟨e, he⟩
  · obtain ⟨o, ho, hkeys⟩ := hstored
    obtain ⟨row, hrow, hkey⟩ := List.mem_map.1 (hkeys ▸ List.mem_singleton_self "")
    exact h.keyed o ho row hrow hkey

end AeroXProtect
