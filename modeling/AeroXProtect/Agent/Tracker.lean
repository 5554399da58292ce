import AeroXProtect.Lib.Greedy
import Mathlib.Data.Rat.Floor
import Mathlib.Data.List.Sort
import Mathlib.Data.List.Perm.Basic

/-!
# The tracker of a pipeline

A tracker follows what a camera's detector finds from frame to frame: the detections of a frame are
matched with the tracks by the overlap of their boxes, the best pairs first, and a detection without
a track starts one. Overlaps are exact rational numbers here.
-/

open Lib

namespace AeroXProtect

/-- A box by two of its corners. -/
structure Box where
  x1 : Rat
  y1 : Rat
  x2 : Rat
  y2 : Rat
  deriving DecidableEq, Repr

/-- Source: `_iou` (`worker/detector/tracker.py:9`). -/
def iou (a b : Box) : Rat :=
  let iw := max 0 (min a.x2 b.x2 - max a.x1 b.x1)
  let ih := max 0 (min a.y2 b.y2 - max a.y1 b.y1)
  let inter := iw * ih
  if inter ≤ 0 then 0
  else
    let areaA := max 0 (a.x2 - a.x1) * max 0 (a.y2 - a.y1)
    let areaB := max 0 (b.x2 - b.x1) * max 0 (b.y2 - b.y1)
    let union := areaA + areaB - inter
    if 0 < union then inter / union else 0

/-- What the detector finds in a frame. -/
structure Found where
  bbox : Box
  label : String
  classId : Int
  confidence : Rat
  deriving DecidableEq, Repr

structure TrackedObject where
  localId : Nat
  trackKey : String
  bbox : Box
  label : String
  classId : Int
  confidence : Rat
  firstTs : Int
  lastTs : Int
  isNew : Bool
  isLost : Bool
  deriving DecidableEq, Repr

namespace TrackedObject

/-- Source: `TrackedObject.__init__` (`worker/detector/tracker.py:25`). -/
def start (localId : Nat) (det : Found) (ts : Int) (trackKey : String) : TrackedObject where
  localId := localId
  trackKey := trackKey
  bbox := det.bbox
  label := det.label
  classId := det.classId
  confidence := det.confidence
  firstTs := ts
  lastTs := ts
  isNew := true
  isLost := false

/-- Source: `TrackedObject.update` (`worker/detector/tracker.py:42`). -/
def update (t : TrackedObject) (det : Found) (ts : Int) : TrackedObject :=
  { t with
    bbox := det.bbox
    label := det.label
    classId := det.classId
    confidence := det.confidence
    lastTs := ts
    isNew := false }

/-- The state of the track is a detection of the frame at `ts`. -/
def Holds (t : TrackedObject) (det : Found) (ts : Int) : Prop :=
  t.bbox = det.bbox ∧ t.label = det.label ∧ t.classId = det.classId ∧
    t.confidence = det.confidence ∧ t.lastTs = ts

end TrackedObject

/-- A tracker: the live tracks in the order of their creation, and the next number. The camera's id
is kept as the text that it has in a key. -/
structure Tracker where
  session : String
  cameraId : String
  iouThresh : Rat
  maxAgeMs : Int
  tracks : List TrackedObject
  next : Nat
  deriving DecidableEq, Repr

/-- A track and a detection that overlap, with their positions. -/
structure MatchPair where
  iou : Rat
  ti : Nat
  di : Nat
  track : TrackedObject
  det : Found
  deriving DecidableEq, Repr

namespace MatchPair

/-- The order of the sorted pairs: the tuples `(iou, ti, di)` from the largest on. -/
def ge (p q : MatchPair) : Bool :=
  decide (q.iou < p.iou ∨ q.iou = p.iou ∧ (q.ti < p.ti ∨ q.ti = p.ti ∧ q.di ≤ p.di))

/-- One of the two is used by the other pair. -/
def clash (p q : MatchPair) : Bool := decide (p.ti = q.ti ∨ p.di = q.di)

end MatchPair

namespace Tracker

/-- Source: `SimpleTracker.__init__` (`worker/detector/tracker.py:52`). -/
def init (session cameraId : String) (iouThresh : Rat) (maxAgeMs : Int) : Tracker :=
  ⟨session, cameraId, iouThresh, maxAgeMs, [], 1⟩

/-- The text of a key. -/
def keyText (session cameraId : String) (localId : Nat) : String :=
  s!"{session}:{cameraId}:{localId}"

section
variable (md5 : String → String) (tr : Tracker) (detections : List Found) (ts : Int)

/-- Source: `SimpleTracker._key` (`worker/detector/tracker.py:60`); `md5` answers 32 digits. -/
def key (localId : Nat) : String := md5 (keyText tr.session tr.cameraId localId)

/-- The pairs that overlap enough, the best first. -/
def pairs : List MatchPair :=
  (tr.tracks.zipIdx.flatMap fun t => detections.zipIdx.filterMap fun d =>
    if tr.iouThresh ≤ iou t.1.bbox d.1.bbox then
      some ⟨iou t.1.bbox d.1.bbox, t.2, d.2, t.1, d.1⟩
    else none).mergeSort MatchPair.ge

/-- The pairs that are matched: `used_t` and `used_d` are their positions. -/
def chosen : List MatchPair := greedy MatchPair.clash (tr.pairs detections)

/-- The live tracks after the loop over the pairs. -/
def matched : List TrackedObject :=
  tr.tracks.zipIdx.map fun t =>
    match (tr.chosen detections).find? fun p => decide (p.ti = t.2) with
    | some p => t.1.update p.det ts
    | none => { t.1 with isNew := false }

/-- The detections without a track, each with its position. -/
def unmatched : List (Found × Nat) :=
  detections.zipIdx.filter fun d => !(tr.chosen detections).any fun p => decide (p.di = d.2)

/-- The tracks that start. -/
def created : List TrackedObject :=
  ((tr.unmatched detections).zipIdx tr.next).map fun d =>
    .start d.2 d.1.1 ts (tr.key md5 d.2)

/-- The track has grown too old. -/
def aged (t : TrackedObject) : Bool := decide (tr.maxAgeMs < ts - t.lastTs)

/-- Source: `SimpleTracker.update` (`worker/detector/tracker.py:63`), with the active tracks and the
ones just lost. -/
def update : Tracker × List TrackedObject :=
  let all := tr.matched detections ts ++ tr.created md5 detections ts
  let kept := all.filter fun t => !tr.aged ts t
  let lost := (all.filter fun t => tr.aged ts t).map fun t => { t with isLost := true }
  ({ tr with tracks := kept, next := tr.next + (tr.unmatched detections).length }, kept ++ lost)

/-- Which track took which detection, as the position of the detection and the number of the
track. -/
def assigned : List (Nat × Nat) :=
  (tr.chosen detections).map (fun p => (p.di, p.track.localId)) ++
    ((tr.unmatched detections).zipIdx tr.next).map fun d => (d.1.2, d.2)

end

/-- The tracks have different numbers that were handed out, and none is lost. -/
structure Wf (tr : Tracker) : Prop where
  nodup : (tr.tracks.map TrackedObject.localId).Nodup
  lt_next : ∀ t ∈ tr.tracks, t.localId < tr.next
  not_lost : ∀ t ∈ tr.tracks, t.isLost = false

/-! ## The pairs -/

section
variable {md5 : String → String} {tr : Tracker} {detections : List Found} {ts : Int}
  {p q : MatchPair} {t : TrackedObject} {det : Found} {ti di : Nat}

theorem mem_pairs : p ∈ tr.pairs detections ↔ tr.tracks[p.ti]? = some p.track ∧
    detections[p.di]? = some p.det ∧ p.iou = iou p.track.bbox p.det.bbox ∧
    tr.iouThresh ≤ p.iou := by
  unfold pairs
  rw [List.mem_mergeSort, List.mem_flatMap]
  constructor
  · rintro ⟨⟨t, ti⟩, ht, hp⟩
    obtain ⟨⟨d, di⟩, hd, hif⟩ := List.mem_filterMap.1 hp
    split at hif
    · next hle =>
      cases hif
      exact ⟨List.mk_mem_zipIdx_iff_getElem?.1 ht, List.mk_mem_zipIdx_iff_getElem?.1 hd, rfl, hle⟩
    · cases hif
  · rintro ⟨ht, hd, hiou, hle⟩
    refine ⟨(p.track, p.ti), List.mk_mem_zipIdx_iff_getElem?.2 ht, List.mem_filterMap.2
      ⟨(p.det, p.di), List.mk_mem_zipIdx_iff_getElem?.2 hd, ?_⟩⟩
    rw [if_pos (hiou ▸ hle), ← hiou]

/-- The best pairs come first. -/
theorem pairwise_pairs : (tr.pairs detections).Pairwise fun p q => q.iou ≤ p.iou := by
  have hsorted : (tr.pairs detections).Pairwise fun p q => MatchPair.ge p q = true := by
    refine List.pairwise_mergeSort (fun a b c hab hbc => ?_) (fun a b => ?_) _
    · simp only [MatchPair.ge, decide_eq_true_eq] at hab hbc ⊢
      grind
    · simp only [MatchPair.ge, Bool.or_eq_true, decide_eq_true_eq]
      grind
  refine hsorted.imp fun {p q} h => ?_
  simp only [MatchPair.ge, decide_eq_true_eq] at h
  rcases h with h | ⟨h, -⟩
  · exact h.le
  · exact h.le

theorem mem_chosen (h : p ∈ tr.chosen detections) : tr.tracks[p.ti]? = some p.track ∧
    detections[p.di]? = some p.det ∧ p.iou = iou p.track.bbox p.det.bbox ∧
    tr.iouThresh ≤ p.iou := mem_pairs.1 (mem_of_mem_greedy h)

/-- The positions of the matched tracks are different, and so are those of the detections. -/
theorem nodup_chosen : ((tr.chosen detections).map MatchPair.ti).Nodup ∧
    ((tr.chosen detections).map MatchPair.di).Nodup := by
  have h := pairwise_greedy MatchPair.clash (tr.pairs detections)
  constructor <;> refine List.pairwise_map.2 (h.imp fun {p q} hpq heq => ?_)
  · simp [MatchPair.clash, heq] at hpq
  · simp [MatchPair.clash, heq] at hpq

/-- A pair that overlaps enough is matched, or one of its sides is in a matched pair that is at
least as good. -/
theorem chosen_covers (ht : tr.tracks[ti]? = some t) (hd : detections[di]? = some det)
    (h : tr.iouThresh ≤ iou t.bbox det.bbox) :
    ∃ q ∈ tr.chosen detections, (q.ti = ti ∨ q.di = di) ∧ iou t.bbox det.bbox ≤ q.iou := by
  have hp : (⟨iou t.bbox det.bbox, ti, di, t, det⟩ : MatchPair) ∈ tr.pairs detections :=
    mem_pairs.2 ⟨ht, hd, rfl, h⟩
  rcases greedy_covers MatchPair.clash pairwise_pairs hp with hin | ⟨q, hq, hclash, hle⟩
  · exact ⟨_, hin, .inl rfl, le_rfl⟩
  · simp only [MatchPair.clash, decide_eq_true_eq] at hclash
    exact ⟨q, hq, hclash.imp Eq.symm Eq.symm, hle⟩

/-- The pair of a track that was matched. -/
theorem find?_chosen_ti (hp : p ∈ tr.chosen detections) :
    (tr.chosen detections).find? (fun q => decide (q.ti = p.ti)) = some p := by
  cases hfind : (tr.chosen detections).find? fun q => decide (q.ti = p.ti) with
  | none => simpa using List.find?_eq_none.1 hfind p hp
  | some q =>
    have hti : q.ti = p.ti := by simpa using List.find?_some hfind
    rw [List.inj_on_of_nodup_map nodup_chosen.1 (List.mem_of_find?_eq_some hfind) hp hti]

/-! ## Numbers -/

/-- The position of a track follows from its number. -/
theorem ti_eq_of_localId (h : tr.Wf) {i j : Nat} {t u : TrackedObject}
    (ht : tr.tracks[i]? = some t) (hu : tr.tracks[j]? = some u) (hid : t.localId = u.localId) :
    i = j := by
  have hlt : i < (tr.tracks.map TrackedObject.localId).length := by
    rw [List.length_map]
    exact (List.getElem?_eq_some_iff.1 ht).1
  refine (List.getElem?_inj hlt h.nodup).1 ?_
  rw [List.getElem?_map, List.getElem?_map, ht, hu, Option.map_some, Option.map_some, hid]

theorem localId_matched : (tr.matched detections ts).map TrackedObject.localId =
    tr.tracks.map TrackedObject.localId := by
  unfold matched
  rw [List.map_map]
  conv_rhs => rw [← List.zipIdx_map_fst 0 tr.tracks, List.map_map]
  refine List.map_congr_left fun x _ => ?_
  simp only [Function.comp]
  split <;> rfl

theorem localId_created : (tr.created md5 detections ts).map TrackedObject.localId =
    List.range' tr.next (tr.unmatched detections).length := by
  unfold created
  rw [List.map_map, ← List.zipIdx_map_snd tr.next (tr.unmatched detections)]
  rfl

/-- The tracks before the old ones are taken out have different numbers, all handed out. -/
theorem nodup_all (md5 : String → String) (detections : List Found) (ts : Int) (h : tr.Wf) :
    ((tr.matched detections ts ++ tr.created md5 detections ts).map
      TrackedObject.localId).Nodup ∧
    ∀ t ∈ tr.matched detections ts ++ tr.created md5 detections ts,
      t.localId < tr.next + (tr.unmatched detections).length := by
  have hold : ∀ i ∈ (tr.matched detections ts).map TrackedObject.localId, i < tr.next := by
    rw [localId_matched]
    intro i hi
    obtain ⟨t, ht, rfl⟩ := List.mem_map.1 hi
    exact h.lt_next t ht
  rw [List.map_append]
  constructor
  · refine List.nodup_append.2 ⟨localId_matched ▸ h.nodup, ?_, fun i hi j hj => ?_⟩
    · rw [localId_created]
      exact List.nodup_range'
    · rw [localId_created, List.mem_range'_1] at hj
      have := hold i hi
      omega
  · intro t ht
    rcases List.mem_append.1 ht with ht | ht
    · have := hold _ (List.mem_map_of_mem ht)
      omega
    · have hid := List.mem_map_of_mem (f := TrackedObject.localId) ht
      rw [localId_created, List.mem_range'_1] at hid
      exact hid.2

/-! ## Who took what -/

theorem mem_unmatched {d : Found × Nat} : d ∈ tr.unmatched detections ↔
    detections[d.2]? = some d.1 ∧ ∀ p ∈ tr.chosen detections, p.di ≠ d.2 := by
  unfold unmatched
  rw [List.mem_filter, List.mem_zipIdx_iff_getElem?]
  simp

/-- A detection was taken by a matched track, or by one that starts. -/
theorem mem_assigned {di id : Nat} : (di, id) ∈ tr.assigned detections ↔
    (∃ p ∈ tr.chosen detections, p.di = di ∧ p.track.localId = id) ∨
    ∃ det, ((det, di), id) ∈ (tr.unmatched detections).zipIdx tr.next := by
  unfold assigned
  rw [List.mem_append, List.mem_map, List.mem_map]
  refine or_congr ?_ ?_
  · simp [Prod.ext_iff]
  · constructor
    · rintro ⟨⟨⟨det, j⟩, k⟩, hmem, heq⟩
      cases heq
      exact ⟨det, hmem⟩
    · rintro ⟨det, hmem⟩
      exact ⟨_, hmem, rfl⟩

/-- Each detection was taken once. -/
theorem assigned_fst : ((tr.assigned detections).map Prod.fst).Perm
    (List.range detections.length) := by
  have hunmatched : (tr.unmatched detections).map Prod.snd =
      (List.range detections.length).filter fun di =>
        !(tr.chosen detections).any fun p => decide (p.di = di) := by
    rw [List.range_eq_range', ← List.zipIdx_map_snd 0 detections, List.filter_map]
    rfl
  have hfst : (tr.assigned detections).map Prod.fst =
      (tr.chosen detections).map MatchPair.di ++ (tr.unmatched detections).map Prod.snd := by
    unfold assigned
    rw [List.map_append, List.map_map, List.map_map]
    conv_rhs => rw [← List.zipIdx_map_fst tr.next (tr.unmatched detections), List.map_map]
    rfl
  rw [hfst, hunmatched]
  refine (List.perm_ext_iff_of_nodup ?_ List.nodup_range).2 fun di => ?_
  · refine List.nodup_append.2 ⟨nodup_chosen.2, List.nodup_range.filter _, ?_⟩
    rintro i hi j hj rfl
    obtain ⟨p, hp, rfl⟩ := List.mem_map.1 hi
    have hno := (List.mem_filter.1 hj).2
    simp only [Bool.not_eq_true', List.any_eq_false, decide_eq_true_eq] at hno
    exact hno p hp rfl
  · rw [List.mem_append, List.mem_map, List.mem_filter, List.mem_range]
    constructor
    · rintro (⟨p, hp, rfl⟩ | h)
      · exact (List.getElem?_eq_some_iff.1 (mem_chosen hp).2.1).1
      · exact h.1
    · intro hlt
      by_cases hany : (tr.chosen detections).any (fun p => decide (p.di = di)) = true
      · obtain ⟨p, hp, hdi⟩ := List.any_eq_true.1 hany
        exact .inl ⟨p, hp, of_decide_eq_true hdi⟩
      · exact .inr ⟨hlt, by simpa using hany⟩

/-- No track took two detections. -/
theorem assigned_snd (h : tr.Wf) : ((tr.assigned detections).map Prod.snd).Nodup := by
  have hsnd : (tr.assigned detections).map Prod.snd =
      (tr.chosen detections).map (fun p => p.track.localId) ++
        List.range' tr.next (tr.unmatched detections).length := by
    unfold assigned
    rw [List.map_append, List.map_map, List.map_map, ← List.zipIdx_map_snd tr.next
      (tr.unmatched detections)]
    rfl
  rw [hsnd]
  refine List.nodup_append.2 ⟨?_, List.nodup_range', ?_⟩
  · refine List.pairwise_map.2 ?_
    have hti : (tr.chosen detections).Pairwise fun p q => p.ti ≠ q.ti :=
      List.pairwise_map.1 nodup_chosen.1
    refine (List.Pairwise.and_mem.1 hti).imp fun {p q} hpq heq => ?_
    obtain ⟨hp, hq, hne⟩ := hpq
    exact hne (ti_eq_of_localId h (mem_chosen hp).1 (mem_chosen hq).1 heq)
  · intro i hi j hj
    obtain ⟨p, hp, rfl⟩ := List.mem_map.1 hi
    have hlt := h.lt_next _ (List.mem_of_getElem? (mem_chosen hp).1)
    have hge := (List.mem_range'_1.1 hj).1
    omega

/-- A track that took a detection holds it. -/
theorem holds_of_assigned (md5 : String → String) (ts : Int) {id : Nat}
    (hmem : (di, id) ∈ tr.assigned detections)
    (hd : detections[di]? = some det) :
    ∃ t ∈ tr.matched detections ts ++ tr.created md5 detections ts,
      t.localId = id ∧ t.Holds det ts := by
  rcases mem_assigned.1 hmem with ⟨p, hp, rfl, rfl⟩ | ⟨d, hnew⟩
  · obtain ⟨ht, hdet, -⟩ := mem_chosen hp
    cases hd.symm.trans hdet
    refine ⟨p.track.update p.det ts, List.mem_append_left _ (List.mem_map.2
      ⟨(p.track, p.ti), List.mk_mem_zipIdx_iff_getElem?.2 ht, ?_⟩), rfl, rfl, rfl, rfl, rfl, rfl⟩
    rw [find?_chosen_ti hp]
  · obtain ⟨hdet, -⟩ := mem_unmatched.1 (List.fst_mem_of_mem_zipIdx hnew)
    cases hd.symm.trans hdet
    exact ⟨.start id d ts (tr.key md5 id), List.mem_append_right _ (List.mem_map.2
      ⟨_, hnew, rfl⟩), rfl, rfl, rfl, rfl, rfl, rfl⟩

/-- A track that took nothing is one of the tracks from before. -/
theorem kept_of_not_assigned
    (ht : t ∈ tr.matched detections ts ++ tr.created md5 detections ts)
    (hno : t.localId ∉ (tr.assigned detections).map Prod.snd) :
    ∃ u ∈ tr.tracks, t = { u with isNew := false } := by
  have hassigned : ∀ di id, (di, id) ∈ tr.assigned detections → t.localId ≠ id := by
    rintro di id hmem rfl
    exact hno (List.mem_map.2 ⟨_, hmem, rfl⟩)
  rcases List.mem_append.1 ht with ht | ht
  · obtain ⟨⟨u, ti⟩, hu, rfl⟩ := List.mem_map.1 ht
    dsimp only at hassigned ⊢
    split at hassigned
    · next p hfind =>
      have hp := List.mem_of_find?_eq_some hfind
      have hti : p.ti = ti := by simpa using List.find?_some hfind
      obtain ⟨htrack, -⟩ := mem_chosen hp
      rw [hti, List.mk_mem_zipIdx_iff_getElem?.1 hu] at htrack
      cases htrack
      exact absurd rfl (hassigned p.di p.track.localId (mem_assigned.2 (.inl ⟨p, hp, rfl, rfl⟩)))
    · exact ⟨u, List.mem_of_getElem? (List.mk_mem_zipIdx_iff_getElem?.1 hu), rfl⟩
  · obtain ⟨⟨⟨det, di⟩, id⟩, hnew, rfl⟩ := List.mem_map.1 ht
    exact absurd rfl (hassigned di id (mem_assigned.2 (.inr ⟨det, hnew⟩)))

/-! ## One update -/

theorem isLost_all (h : tr.Wf) {e : TrackedObject}
    (he : e ∈ tr.matched detections ts ++ tr.created md5 detections ts) : e.isLost = false := by
  rcases List.mem_append.1 he with he | he
  · obtain ⟨⟨u, ti⟩, hu, rfl⟩ := List.mem_map.1 he
    have hlost := h.not_lost u (List.mem_of_getElem? (List.mk_mem_zipIdx_iff_getElem?.1 hu))
    dsimp only
    split <;> exact hlost
  · obtain ⟨d, -, rfl⟩ := List.mem_map.1 he
    rfl

/-- A track is new exactly if its number was not handed out before. -/
theorem isNew_all (h : tr.Wf) {e : TrackedObject}
    (he : e ∈ tr.matched detections ts ++ tr.created md5 detections ts) :
    e.isNew = true ↔ tr.next ≤ e.localId := by
  rcases List.mem_append.1 he with he | he
  · have hlt : e.localId < tr.next := by
      have hid := List.mem_map_of_mem (f := TrackedObject.localId) he
      rw [localId_matched] at hid
      obtain ⟨u, hu, heq⟩ := List.mem_map.1 hid
      exact heq ▸ h.lt_next u hu
    refine iff_of_false (fun hnew => ?_) (by omega)
    obtain ⟨⟨u, ti⟩, -, rfl⟩ := List.mem_map.1 he
    dsimp only at hnew
    split at hnew <;> cases hnew
  · have hid := List.mem_map_of_mem (f := TrackedObject.localId) he
    rw [localId_created, List.mem_range'_1] at hid
    obtain ⟨d, -, rfl⟩ := List.mem_map.1 he
    exact iff_of_true rfl hid.1

theorem mem_update_tracks {e : TrackedObject} : e ∈ (tr.update md5 detections ts).1.tracks ↔
    e ∈ tr.matched detections ts ++ tr.created md5 detections ts ∧ tr.aged ts e = false := by
  unfold update
  rw [List.mem_filter, Bool.not_eq_true']

/-- What an update answers: the tracks that stay, and the ones that it takes out, marked as lost. -/
theorem mem_update_out : t ∈ (tr.update md5 detections ts).2 ↔
    ∃ e ∈ tr.matched detections ts ++ tr.created md5 detections ts,
      t = if tr.aged ts e then { e with isLost := true } else e := by
  unfold update
  dsimp only
  rw [List.mem_append, List.mem_filter, List.mem_map]
  constructor
  · rintro (⟨he, hage⟩ | ⟨e, he, rfl⟩)
    · refine ⟨t, he, ?_⟩
      rw [if_neg (by simpa using hage)]
    · obtain ⟨he, hage⟩ := List.mem_filter.1 he
      exact ⟨e, he, by rw [if_pos hage]⟩
  · rintro ⟨e, he, rfl⟩
    split
    · next hage => exact .inr ⟨e, List.mem_filter.2 ⟨he, hage⟩, rfl⟩
    · next hage => exact .inl ⟨he, by simpa using hage⟩

/-- What an update answers is new exactly if its number was not handed out before. -/
theorem isNew_out (h : tr.Wf) (ht : t ∈ (tr.update md5 detections ts).2) :
    t.isNew = true ↔ tr.next ≤ t.localId := by
  obtain ⟨e, he, rfl⟩ := mem_update_out.1 ht
  have hnew := isNew_all h he
  split <;> exact hnew

/-- What an update answers is lost exactly if it is not live afterwards. -/
theorem mem_update_tracks_iff (h : tr.Wf) : t ∈ (tr.update md5 detections ts).1.tracks ↔
    t ∈ (tr.update md5 detections ts).2 ∧ t.isLost = false := by
  rw [mem_update_tracks, mem_update_out]
  constructor
  · rintro ⟨he, hage⟩
    exact ⟨⟨t, he, by rw [hage]; rfl⟩, isLost_all h he⟩
  · rintro ⟨⟨e, he, rfl⟩, hlive⟩
    split at hlive
    · cases hlive
    · next hage =>
      rw [if_neg hage]
      exact ⟨he, Bool.eq_false_iff.2 hage⟩

/-- A tracker without tracks is in order. -/
theorem wf_of_nil (h : tr.tracks = []) : tr.Wf := by
  constructor <;> simp [h]

theorem update_wf (h : tr.Wf) : (tr.update md5 detections ts).1.Wf where
  nodup := (nodup_all md5 _ _ h).1.sublist (List.filter_sublist.map _)
  lt_next e he := (nodup_all md5 _ _ h).2 e (mem_update_tracks.1 he).1
  not_lost _ he := isLost_all h (mem_update_tracks.1 he).1

theorem exists_of_assigned {id : Nat} (hmem : (di, id) ∈ tr.assigned detections) :
    ∃ det, detections[di]? = some det := by
  have hlt : di ∈ List.range detections.length :=
    assigned_fst.subset (List.mem_map_of_mem (f := Prod.fst) hmem)
  exact ⟨_, List.getElem?_eq_getElem (List.mem_range.1 hlt)⟩

/-- A track is as old as the last detection that it took. -/
theorem lastTs_all (h : tr.Wf) {id : Nat} {last : Int} :
    (∃ e ∈ tr.matched detections ts ++ tr.created md5 detections ts,
      e.localId = id ∧ e.lastTs = last) ↔
    id ∈ (tr.assigned detections).map Prod.snd ∧ last = ts ∨
    id ∉ (tr.assigned detections).map Prod.snd ∧
      ∃ t ∈ tr.tracks, t.localId = id ∧ t.lastTs = last := by
  have hinj := List.inj_on_of_nodup_map (nodup_all md5 detections ts h).1
  by_cases hid : id ∈ (tr.assigned detections).map Prod.snd
  · obtain ⟨⟨di, _⟩, hmem, rfl⟩ := List.mem_map.1 hid
    obtain ⟨det, hdet⟩ := exists_of_assigned hmem
    obtain ⟨t, ht, hlocal, -, -, -, -, hts⟩ := holds_of_assigned md5 ts hmem hdet
    constructor
    · rintro ⟨e, he, heid, rfl⟩
      rw [hinj he ht (heid.trans hlocal.symm)]
      exact .inl ⟨hid, hts⟩
    · rintro (⟨-, rfl⟩ | ⟨hno, -⟩)
      · exact ⟨t, ht, hlocal, hts⟩
      · exact absurd hid hno
  · rw [or_iff_right fun hyes => hid hyes.1, and_iff_right hid]
    constructor
    · rintro ⟨e, he, rfl, rfl⟩
      obtain ⟨u, hu, rfl⟩ := kept_of_not_assigned he hid
      exact ⟨u, hu, rfl, rfl⟩
    · rintro ⟨t, ht, rfl, rfl⟩
      have hmem : t.localId ∈ (tr.matched detections ts).map TrackedObject.localId := by
        rw [localId_matched]
        exact List.mem_map_of_mem ht
      obtain ⟨e, he, heid⟩ := List.mem_map.1 hmem
      have hall := List.mem_append_left (tr.created md5 detections ts) he
      obtain ⟨u, hu, heq⟩ := kept_of_not_assigned hall (heid ▸ hid)
      have hut : u = t := List.inj_on_of_nodup_map h.nodup hu ht (by rw [← heid, heq])
      exact ⟨e, hall, heid, by rw [heq, hut]⟩

/-- What an update does with the detections of a frame. -/
structure Matches (tr : Tracker) (detections : List Found) (ts : Int)
    (out : List TrackedObject) : Prop where
  /-- Each detection was taken by one track. -/
  each : ((tr.assigned detections).map Prod.fst).Perm (List.range detections.length)
  /-- No track took two. -/
  one : ((tr.assigned detections).map Prod.snd).Nodup
  distinct : (out.map TrackedObject.localId).Nodup
  /-- A track that took a detection is in its state. -/
  holds : ∀ di id det, (di, id) ∈ tr.assigned detections → detections[di]? = some det →
    ∃ t ∈ out, t.localId = id ∧ t.Holds det ts
  /-- A track that took none is in its old state. -/
  others : ∀ t ∈ out, t.localId ∉ (tr.assigned detections).map Prod.snd →
    ∃ u ∈ tr.tracks, t = { u with isNew := false, isLost := t.isLost }
  overlap : ∀ t ∈ tr.tracks, ∀ di det, (di, t.localId) ∈ tr.assigned detections →
    detections[di]? = some det → tr.iouThresh ≤ iou t.bbox det.bbox
  /-- A track and a detection that overlap enough are matched, or one of them is matched at least as
  well. -/
  maximal : ∀ t ∈ tr.tracks, ∀ di det, detections[di]? = some det →
    tr.iouThresh ≤ iou t.bbox det.bbox →
    (∃ dj det', (dj, t.localId) ∈ tr.assigned detections ∧ detections[dj]? = some det' ∧
      iou t.bbox det.bbox ≤ iou t.bbox det'.bbox) ∨
    ∃ u ∈ tr.tracks, (di, u.localId) ∈ tr.assigned detections ∧
      iou t.bbox det.bbox ≤ iou u.bbox det.bbox

theorem matches_update (h : tr.Wf) :
    Matches tr detections ts (tr.update md5 detections ts).2 := by
  refine ⟨assigned_fst, assigned_snd h, ?_, ?_, ?_, ?_, ?_⟩
  · have hperm : (tr.update md5 detections ts).2.map TrackedObject.localId |>.Perm
        ((tr.matched detections ts ++ tr.created md5 detections ts).map
          TrackedObject.localId) := by
      unfold update
      dsimp only
      rw [List.map_append, List.map_map]
      refine List.Perm.trans ?_ ((List.filter_append_perm (fun t => !tr.aged ts t) _).map _)
      rw [List.map_append]
      refine List.Perm.of_eq (congrArg _ ?_)
      simp only [Bool.not_not]
      rfl
    exact hperm.nodup_iff.2 (nodup_all md5 _ _ h).1
  · intro di id det hmem hdet
    obtain ⟨e, he, hid, hholds⟩ := holds_of_assigned md5 ts hmem hdet
    refine ⟨_, mem_update_out.2 ⟨e, he, rfl⟩, ?_⟩
    split <;> exact ⟨hid, hholds⟩
  · intro t ht hno
    obtain ⟨e, he, rfl⟩ := mem_update_out.1 ht
    have hid : e.localId ∉ (tr.assigned detections).map Prod.snd := by
      split at hno <;> exact hno
    obtain ⟨u, hu, heq⟩ := kept_of_not_assigned he hid
    refine ⟨u, hu, ?_⟩
    split <;> simp [heq]
  · intro t ht di det hmem hdet
    rcases mem_assigned.1 hmem with ⟨p, hp, rfl, hid⟩ | ⟨d, hnew⟩
    · obtain ⟨htrack, hpdet, hiou, hle⟩ := mem_chosen hp
      cases hdet.symm.trans hpdet
      have heq : p.track = t :=
        List.inj_on_of_nodup_map h.nodup (List.mem_of_getElem? htrack) ht hid
      rw [← heq, ← hiou]
      exact hle
    · have hge := (List.le_snd_of_mem_zipIdx hnew)
      have hlt := h.lt_next t ht
      exact absurd hge (not_le.2 hlt)
  · intro t ht di det hdet hle
    obtain ⟨ti, hti⟩ := List.mem_iff_getElem?.1 ht
    obtain ⟨q, hq, hside, hbetter⟩ := chosen_covers hti hdet hle
    obtain ⟨htrack, hqdet, hiou, -⟩ := mem_chosen hq
    rw [hiou] at hbetter
    rcases hside with rfl | rfl
    · cases hti.symm.trans htrack
      exact .inl ⟨q.di, q.det, mem_assigned.2 (.inl ⟨q, hq, rfl, rfl⟩), hqdet, hbetter⟩
    · cases hdet.symm.trans hqdet
      exact .inr ⟨q.track, List.mem_of_getElem? htrack,
        mem_assigned.2 (.inl ⟨q, hq, rfl, rfl⟩), hbetter⟩

end

/-! ## Runs -/

section
variable (md5 : String → String) (tr : Tracker) (frames : List (List Found × Int))

/-- The tracker after so many frames. -/
def after (k : Nat) : Tracker :=
  (frames.take k).foldl (fun tr x => (tr.update md5 x.1 x.2).1) tr

/-- What the update for a frame answers. -/
def reported (k : Nat) : List TrackedObject :=
  match frames[k]? with
  | some x => ((tr.after md5 frames k).update md5 x.1 x.2).2
  | none => []

/-- The tracks that took a detection of a frame. -/
def took (k : Nat) : List Nat :=
  match frames[k]? with
  | some x => ((tr.after md5 frames k).assigned x.1).map Prod.snd
  | none => []

/-- The last frame up to which a track took a detection, and when: in none of the later ones it took
one, and it was not too old at any frame from then on. -/
def LastTook (k id m : Nat) (last : Int) : Prop :=
  (∃ x, frames[m]? = some x ∧ x.2 = last) ∧ id ∈ tr.took md5 frames m ∧
    (∀ j, m < j → j < k → id ∉ tr.took md5 frames j) ∧
    ∀ j x, m ≤ j → j < k → frames[j]? = some x → x.2 - last ≤ tr.maxAgeMs

variable {md5 tr frames} {k id : Nat} {last : Int} {x : List Found × Int}

theorem after_succ (hx : frames[k]? = some x) :
    tr.after md5 frames (k + 1) = ((tr.after md5 frames k).update md5 x.1 x.2).1 := by
  unfold after
  rw [List.take_add_one, hx, List.foldl_append]
  rfl

theorem after_wf (md5 : String → String) (frames : List (List Found × Int)) (h : tr.Wf) (k : Nat) :
    (tr.after md5 frames k).Wf :=
  List.foldlRecOn _ _ h fun _ hwf _ _ => update_wf hwf

theorem settings_after (k : Nat) : (tr.after md5 frames k).iouThresh = tr.iouThresh ∧
    (tr.after md5 frames k).maxAgeMs = tr.maxAgeMs :=
  List.foldlRecOn (motive := fun s : Tracker => s.iouThresh = tr.iouThresh ∧
    s.maxAgeMs = tr.maxAgeMs) _ _ ⟨rfl, rfl⟩ fun _ h _ _ => h

/-- Numbers are handed out upwards. -/
theorem next_mono (md5 : String → String) (tr : Tracker) (frames : List (List Found × Int))
    {j : Nat} (h : j ≤ k) :
    (tr.after md5 frames j).next ≤ (tr.after md5 frames k).next := by
  induction k, h using Nat.le_induction with
  | base => exact le_rfl
  | succ k _ ih =>
    refine ih.trans ?_
    cases hx : frames[k]? with
    | none =>
      have heq : frames.take (k + 1) = frames.take k := by
        rw [List.take_add_one, hx]
        simp
      rw [after, after, heq]
    | some x =>
      rw [after_succ hx]
      exact Nat.le_add_right _ _

theorem lt_next_of_reported (h : tr.Wf) {t : TrackedObject} (ht : t ∈ tr.reported md5 frames k) :
    t.localId < (tr.after md5 frames (k + 1)).next := by
  unfold reported at ht
  split at ht
  · next x hx =>
    obtain ⟨e, he, rfl⟩ := mem_update_out.1 ht
    rw [after_succ hx]
    split <;> exact (nodup_all md5 _ _ (after_wf md5 frames h k)).2 e he
  · cases ht

/-- The live tracks after some frames are the ones that took a detection and did not grow too old
since. -/
theorem live_iff (htr : tr.tracks = []) (hwf : tr.Wf) (hk : k ≤ frames.length) :
    (∃ t ∈ (tr.after md5 frames k).tracks, t.localId = id ∧ t.lastTs = last) ↔
      ∃ m, m < k ∧ tr.LastTook md5 frames k id m last := by
  induction k generalizing id last with
  | zero =>
    refine iff_of_false ?_ fun ⟨m, hm, _⟩ => absurd hm (Nat.not_lt_zero m)
    rintro ⟨t, ht, -⟩
    rw [after, List.take_zero, List.foldl_nil, htr] at ht
    cases ht
  | succ k ih =>
    have hlt : k < frames.length := hk
    have hx : frames[k]? = some frames[k] := List.getElem?_eq_getElem hlt
    have htook : tr.took md5 frames k =
        ((tr.after md5 frames k).assigned frames[k].1).map Prod.snd := by
      rw [took, hx]
    have hlive : (∃ t ∈ (tr.after md5 frames (k + 1)).tracks, t.localId = id ∧ t.lastTs = last) ↔
        (∃ e ∈ (tr.after md5 frames k).matched frames[k].1 frames[k].2 ++
          (tr.after md5 frames k).created md5 frames[k].1 frames[k].2,
          e.localId = id ∧ e.lastTs = last) ∧ frames[k].2 - last ≤ tr.maxAgeMs := by
      rw [after_succ hx]
      constructor
      · rintro ⟨t, ht, hid, rfl⟩
        obtain ⟨hall, hage⟩ := mem_update_tracks.1 ht
        refine ⟨⟨t, hall, hid, rfl⟩, ?_⟩
        simpa [aged, settings_after] using hage
      · rintro ⟨⟨e, he, hid, rfl⟩, hage⟩
        refine ⟨e, mem_update_tracks.2 ⟨he, ?_⟩, hid, rfl⟩
        simpa [aged, settings_after] using hage
    rw [hlive, lastTs_all (after_wf md5 frames hwf k), ← htook, ih (Nat.le_of_succ_le hk)]
    constructor
    · rintro ⟨⟨hid, rfl⟩ | ⟨hid, m, hm, hframe, htk, hlater, hages⟩, hage⟩
      · refine ⟨k, Nat.lt_succ_self k, ⟨_, hx, rfl⟩, hid, fun j h1 h2 => by omega,
          fun j y h1 h2 hy => ?_⟩
        obtain rfl : j = k := by omega
        cases hx.symm.trans hy
        exact hage
      · refine ⟨m, by omega, hframe, htk, fun j h1 h2 => ?_, fun j y h1 h2 hy => ?_⟩
        · rcases Nat.lt_succ_iff_lt_or_eq.1 h2 with h2 | rfl
          · exact hlater j h1 h2
          · exact hid
        · rcases Nat.lt_succ_iff_lt_or_eq.1 h2 with h2 | rfl
          · exact hages j y h1 h2 hy
          · cases hx.symm.trans hy
            exact hage
    · rintro ⟨m, hm, ⟨y, hy, rfl⟩, htk, hlater, hages⟩
      refine ⟨?_, hages k _ (by omega) (Nat.lt_succ_self k) hx⟩
      rcases Nat.lt_succ_iff_lt_or_eq.1 hm with hm | rfl
      · exact .inr ⟨hlater k hm (Nat.lt_succ_self k), m, hm, ⟨y, hy, rfl⟩, htk,
          fun j h1 h2 => hlater j h1 (by omega), fun j z h1 h2 => hages j z h1 (by omega)⟩
      · cases hx.symm.trans hy
        exact .inl ⟨htk, rfl⟩

/-- A track that is reported lost has grown too old since it took a detection for the last time, and
had not at any frame before. -/
theorem lost_iff (htr : tr.tracks = []) (hwf : tr.Wf) (hx : frames[k]? = some x) :
    (∃ t ∈ tr.reported md5 frames k, t.isLost = true ∧ t.localId = id) ↔
      ∃ m last, m ≤ k ∧ tr.LastTook md5 frames k id m last ∧ (m = k ∨ id ∉ tr.took md5 frames k) ∧
        tr.maxAgeMs < x.2 - last := by
  have hk : k < frames.length := (List.getElem?_eq_some_iff.1 hx).1
  have htook : tr.took md5 frames k = ((tr.after md5 frames k).assigned x.1).map Prod.snd := by
    rw [took, hx]
  have hlost : (∃ t ∈ tr.reported md5 frames k, t.isLost = true ∧ t.localId = id) ↔
      ∃ last, (∃ e ∈ (tr.after md5 frames k).matched x.1 x.2 ++
        (tr.after md5 frames k).created md5 x.1 x.2, e.localId = id ∧ e.lastTs = last) ∧
        tr.maxAgeMs < x.2 - last := by
    rw [reported, hx]
    constructor
    · rintro ⟨t, ht, hislost, rfl⟩
      obtain ⟨e, he, rfl⟩ := mem_update_out.1 ht
      split at hislost
      · next hage =>
        rw [if_pos hage]
        refine ⟨e.lastTs, ⟨e, he, rfl, rfl⟩, ?_⟩
        simpa [aged, settings_after] using hage
      · rw [isLost_all (after_wf md5 frames hwf k) he] at hislost
        cases hislost
    · rintro ⟨last, ⟨e, he, rfl, rfl⟩, hage⟩
      refine ⟨_, mem_update_out.2 ⟨e, he, rfl⟩, ?_⟩
      rw [if_pos (by simpa [aged, settings_after] using hage)]
      exact ⟨rfl, rfl⟩
  rw [hlost]
  simp only [lastTs_all (after_wf md5 frames hwf k), ← htook, live_iff htr hwf hk.le]
  constructor
  · rintro ⟨last, ⟨hid, rfl⟩ | ⟨hid, m, hm, htk⟩, hage⟩
    · exact ⟨k, x.2, le_rfl, ⟨⟨x, hx, rfl⟩, hid, fun j h1 h2 => by omega,
        fun j y h1 h2 => by omega⟩, .inl rfl, hage⟩
    · exact ⟨m, last, hm.le, htk, .inr hid, hage⟩
  · rintro ⟨m, last, hm, htk, hno, hage⟩
    rcases hm.lt_or_eq with hlt | rfl
    · exact ⟨last, .inr ⟨hno.resolve_left hlt.ne, m, hlt, htk⟩, hage⟩
    · obtain ⟨⟨y, hy, rfl⟩, hid, -⟩ := htk
      cases hx.symm.trans hy
      exact ⟨_, .inl ⟨hid, rfl⟩, hage⟩

/-- The numbers of an update are those of the tracks before and new ones. -/
theorem localId_all {e : TrackedObject} {detections : List Found} {ts : Int}
    (he : e ∈ tr.matched detections ts ++ tr.created md5 detections ts) :
    e.localId ∈ tr.tracks.map TrackedObject.localId ∨ tr.next ≤ e.localId := by
  have hid := List.mem_map_of_mem (f := TrackedObject.localId) he
  rw [List.map_append, localId_matched, localId_created, List.mem_append,
    List.mem_range'_1] at hid
  exact hid.imp_right And.left

/-- A track that is not new was live before the update. -/
theorem exists_of_isNew_false {t : TrackedObject} {detections : List Found} {ts : Int}
    (h : tr.Wf) (ht : t ∈ (tr.update md5 detections ts).2) (hold : t.isNew = false) :
    ∃ u ∈ tr.tracks, u.localId = t.localId := by
  obtain ⟨e, he, heq⟩ := mem_update_out.1 ht
  have hid : t.localId = e.localId := by
    rw [heq]
    split <;> rfl
  have hlt : ¬ tr.next ≤ e.localId := fun hge =>
    Bool.false_ne_true (hold.symm.trans ((isNew_out h ht).2 (hid ▸ hge)))
  obtain ⟨u, hu, hue⟩ := List.mem_map.1 ((localId_all he).resolve_right hlt)
  exact ⟨u, hu, hue.trans hid.symm⟩

/-- A number that was handed out and is no longer live is not seen again. -/
theorem gone {j : Nat} (hj : k ≤ j)
    (hid : id < (tr.after md5 frames k).next)
    (hno : id ∉ (tr.after md5 frames k).tracks.map TrackedObject.localId) :
    id ∉ (tr.after md5 frames j).tracks.map TrackedObject.localId ∧
      ∀ t ∈ tr.reported md5 frames j, t.localId ≠ id := by
  have hout : ∀ j, k ≤ j → id ∉ (tr.after md5 frames j).tracks.map TrackedObject.localId →
      ∀ x, frames[j]? = some x → ∀ e ∈ (tr.after md5 frames j).matched x.1 x.2 ++
        (tr.after md5 frames j).created md5 x.1 x.2, e.localId ≠ id := by
    rintro j hj hnone x - e he rfl
    rcases localId_all he with hold | hnew
    · exact hnone hold
    · have := next_mono md5 tr frames hj
      omega
  have hlive : id ∉ (tr.after md5 frames j).tracks.map TrackedObject.localId := by
    induction j, hj using Nat.le_induction with
    | base => exact hno
    | succ j hj ih =>
      cases hx : frames[j]? with
      | none =>
        have heq : frames.take (j + 1) = frames.take j := by
          rw [List.take_add_one, hx]
          simp
        rw [after, heq]
        exact ih
      | some x =>
        rw [after_succ hx]
        intro hmem
        obtain ⟨e, he, heq⟩ := List.mem_map.1 hmem
        exact hout j hj ih x hx e (mem_update_tracks.1 he).1 heq
  refine ⟨hlive, fun t ht => ?_⟩
  unfold reported at ht
  split at ht
  · next x hx =>
    obtain ⟨e, he, rfl⟩ := mem_update_out.1 ht
    have hne := hout j hj hlive x hx e he
    split <;> exact hne
  · cases ht

end

end Tracker

/-- In every run of a new tracker, whatever is found in the frames and whatever their times: each
update matches the detections with the tracks, a new track has a number that was not seen before,
and a track is reported lost exactly in the first update in which its last detection is too old,
and not seen again. -/
theorem tracker_laws (md5 : String → String) (session cameraId : String) (iouThresh : Rat)
    (maxAgeMs : Int) (frames : List (List Found × Int)) (k : Nat) (x : List Found × Int)
    (hx : frames[k]? = some x) :
    let tr := Tracker.init session cameraId iouThresh maxAgeMs
    (tr.after md5 frames k).iouThresh = iouThresh ∧
    Tracker.Matches (tr.after md5 frames k) x.1 x.2 (tr.reported md5 frames k) ∧
    (∀ t ∈ tr.reported md5 frames k, t.isNew = true → ∀ j, j < k →
      ∀ u ∈ tr.reported md5 frames j, u.localId ≠ t.localId) ∧
    (∀ t ∈ tr.reported md5 frames k, t.isNew = false →
      ∃ u ∈ (tr.after md5 frames k).tracks, u.localId = t.localId) ∧
    ∀ id,
      ((∃ t ∈ tr.reported md5 frames k, t.isLost = true ∧ t.localId = id) ↔
        ∃ m last, m ≤ k ∧ tr.LastTook md5 frames k id m last ∧
          (m = k ∨ id ∉ tr.took md5 frames k) ∧ maxAgeMs < x.2 - last) ∧
      ((∃ t ∈ tr.reported md5 frames k, t.isLost = true ∧ t.localId = id) → ∀ j, k < j →
        ∀ u ∈ tr.reported md5 frames j, u.localId ≠ id) := by
  intro tr
  have hwf : tr.Wf := Tracker.wf_of_nil rfl
  have hk := Tracker.after_wf md5 frames hwf k
  have hreported : tr.reported md5 frames k =
      ((tr.after md5 frames k).update md5 x.1 x.2).2 := by rw [Tracker.reported, hx]
  refine ⟨Tracker.settings_after k |>.1, hreported ▸ Tracker.matches_update hk, ?_, ?_,
    fun id => ⟨Tracker.lost_iff rfl hwf hx, ?_⟩⟩
  · intro t ht hnew j hj u hu
    rw [hreported] at ht
    have hge : (tr.after md5 frames k).next ≤ t.localId := (Tracker.isNew_out hk ht).1 hnew
    have hlt := Tracker.lt_next_of_reported hwf hu
    have hmono : (tr.after md5 frames (j + 1)).next ≤ (tr.after md5 frames k).next :=
      Tracker.next_mono md5 tr frames hj
    omega
  · intro t ht hold
    rw [hreported] at ht
    exact Tracker.exists_of_isNew_false hk ht hold
  · rintro ⟨t, ht, hlost, rfl⟩ j hj u hu
    have hlt := Tracker.lt_next_of_reported hwf ht
    rw [hreported] at ht
    have hno : t.localId ∉ (tr.after md5 frames (k + 1)).tracks.map TrackedObject.localId := by
      rw [Tracker.after_succ hx]
      intro hmem
      obtain ⟨v, hv, heq⟩ := List.mem_map.1 hmem
      obtain ⟨hout, hlive⟩ := (Tracker.mem_update_tracks_iff hk).1 hv
      rw [List.inj_on_of_nodup_map (Tracker.matches_update hk).distinct hout ht heq,
        hlost] at hlive
      cases hlive
    exact (Tracker.gone hj hlt hno).2 u hu

/-- A person walks on from one frame to the next, and is lost two frames later. -/
theorem tracker_laws_walk :
    let frames : List (List Found × Int) :=
      [([⟨⟨0, 0, 10, 10⟩, "person", 0, 1⟩], 0), ([⟨⟨1, 0, 11, 10⟩, "person", 0, 1⟩], 1000),
        ([], 2500), ([], 3500)]
    let tr := Tracker.init "s" "1" (3 / 10) 2000
    frames[3]? = some ([], 3500) ∧
      ((tr.reported id frames 3).map fun t => (t.localId, t.isLost)) = [(1, true)] ∧
      ∀ j, 3 < j → ∀ u ∈ tr.reported id frames j, u.localId ≠ 1 := by
  intro frames tr
  have hlost : ((tr.reported id frames 3).map fun t => (t.localId, t.isLost)) = [(1, true)] := by
    decide +kernel
  refine ⟨rfl, hlost, ?_⟩
  refine ((tracker_laws id "s" "1" (3 / 10) 2000 frames 3 ([], 3500) rfl).2.2.2.2 1).2 ?_
  obtain ⟨t, ht, heq⟩ := List.mem_map.1 (hlost ▸ List.mem_singleton.2 rfl :
    (1, true) ∈ (tr.reported id frames 3).map fun t => (t.localId, t.isLost))
  obtain ⟨hid, hislost⟩ := Prod.mk.inj heq
  exact ⟨t, ht, hislost, hid⟩

end AeroXProtect
