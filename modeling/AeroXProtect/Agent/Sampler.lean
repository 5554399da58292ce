import AeroXProtect.Agent.TrackKeys
import AeroXProtect.Agent.Zones

/-!
# The samples of a pipeline

A pipeline reports a track when it starts, when it is lost, and once per interval while it goes on.
The sampler remembers for the key of a track when it was reported last, and forgets the key of a
lost track. `Remembers` ties this memory to the run: for a live track it has the time of the last
turn in which the track was reported.
-/

open Lib

namespace AeroXProtect

/-- When a track was reported last, by its key. -/
structure TrackSampler where
  interval : Int
  last : String → Option Int

namespace TrackSampler

/-- Source: `TrackSampler.__init__` (`worker/detector/sampler.py:7`). -/
def init (interval : Int) : TrackSampler := ⟨interval, fun _ => none⟩

section
variable (force : TrackedObject → Bool) (ts : Int)

/-- The track is reported: it is new, lost or forced, or was reported an interval ago or more. A key
that is not known is one of long ago. -/
def due (s : TrackSampler) (t : TrackedObject) : Bool :=
  t.isNew || t.isLost || force t ||
    decide (s.interval ≤ ts - (s.last t.trackKey).getD (-10 ^ 15))

/-- `self._last[key] = ts_ms` -/
def put (s : TrackSampler) (key : String) : TrackSampler :=
  { s with last := Function.update s.last key (some ts) }

/-- `self._last.pop(key, None)` -/
def pop (s : TrackSampler) (key : String) : TrackSampler :=
  { s with last := Function.update s.last key none }

/-- The first loop: the tracks that are reported. -/
def visit (s : TrackSampler) : List TrackedObject → TrackSampler × List TrackedObject
  | [] => (s, [])
  | t :: tracks =>
    if due force ts s t then
      let r := visit (s.put ts t.trackKey) tracks
      (r.1, t :: r.2)
    else visit s tracks

/-- The second loop: the keys of lost tracks are forgotten. -/
def forget (s : TrackSampler) (tracks : List TrackedObject) : TrackSampler :=
  tracks.foldl (fun s t => if t.isLost then s.pop t.trackKey else s) s

/-- Source: `TrackSampler.sample` (`worker/detector/sampler.py:11`). -/
def sample (s : TrackSampler) (tracks : List TrackedObject) : TrackSampler × List TrackedObject :=
  let r := visit force ts s tracks
  (r.1.forget tracks, r.2)

variable {force ts} {s : TrackSampler} {t u : TrackedObject} {tracks : List TrackedObject}
  {key : String}

@[simp] theorem interval_put : (s.put ts key).interval = s.interval := rfl

@[simp] theorem interval_pop : (s.pop key).interval = s.interval := rfl

@[simp] theorem last_put_self : (s.put ts key).last key = some ts := Function.update_self ..

theorem last_put_of_ne {key' : String} (h : key' ≠ key) : (s.put ts key).last key' = s.last key' :=
  Function.update_of_ne h ..

@[simp] theorem last_pop_self : (s.pop key).last key = none := Function.update_self ..

theorem last_pop_of_ne {key' : String} (h : key' ≠ key) : (s.pop key).last key' = s.last key' :=
  Function.update_of_ne h ..

theorem due_of_flag (h : t.isNew = true ∨ t.isLost = true ∨ force t = true) :
    due force ts s t = true := by
  rcases h with h | h | h <;> simp [due, h]

theorem flags_of_not_due (h : ¬ due force ts s t = true) :
    t.isNew = false ∧ t.isLost = false ∧ force t = false := by
  have hflag : ¬ (t.isNew = true ∨ t.isLost = true ∨ force t = true) := mt due_of_flag h
  rw [not_or, not_or] at hflag
  simpa only [Bool.not_eq_true] using hflag

/-- A track that is not new, not lost and not forced is due by the time since its last report. -/
theorem due_iff {last : Int} (hnew : t.isNew = false) (hlost : t.isLost = false)
    (hforce : force t = false) (hlast : s.last t.trackKey = some last) :
    due force ts s t = true ↔ s.interval ≤ ts - last := by
  simp [due, hnew, hlost, hforce, hlast]

/-! ## The first loop -/

theorem interval_visit (s : TrackSampler) (tracks : List TrackedObject) :
    (visit force ts s tracks).1.interval = s.interval := by
  induction tracks generalizing s with
  | nil => rfl
  | cons t tracks ih =>
    unfold visit
    split
    · exact ih _
    · exact ih _

/-- Only tracks that were handed over are reported. -/
theorem visit_sublist (s : TrackSampler) (tracks : List TrackedObject) :
    (visit force ts s tracks).2.Sublist tracks := by
  induction tracks generalizing s with
  | nil => exact .slnil
  | cons t tracks ih =>
    unfold visit
    split
    · exact (ih _).cons_cons t
    · exact (ih _).cons t

theorem mem_visit_of_flag (ht : t ∈ tracks)
    (h : t.isNew = true ∨ t.isLost = true ∨ force t = true) :
    t ∈ (visit force ts s tracks).2 := by
  induction tracks generalizing s with
  | nil => cases ht
  | cons u tracks ih =>
    unfold visit
    rcases List.mem_cons.1 ht with rfl | ht
    · rw [if_pos (due_of_flag h)]
      exact List.mem_cons_self
    · split
      · exact List.mem_cons_of_mem _ (ih ht)
      · exact ih ht

/-- The loop writes the keys of its tracks only. -/
theorem last_visit_of_not_mem (h : key ∉ tracks.map TrackedObject.trackKey) :
    (visit force ts s tracks).1.last key = s.last key := by
  induction tracks generalizing s with
  | nil => rfl
  | cons t tracks ih =>
    rw [List.map_cons, List.mem_cons, not_or] at h
    unfold visit
    split
    · exact (ih h.2).trans (last_put_of_ne h.1)
    · exact ih h.2

/-- Writing the key of one track leaves tracks with other keys alone. -/
theorem last_put_of_mem (h : u.trackKey ∉ tracks.map TrackedObject.trackKey) (ht : t ∈ tracks) :
    (s.put ts u.trackKey).last t.trackKey = s.last t.trackKey :=
  last_put_of_ne fun heq => h (heq ▸ List.mem_map_of_mem ht)

theorem due_put_of_mem (h : u.trackKey ∉ tracks.map TrackedObject.trackKey) (ht : t ∈ tracks) :
    due force ts (s.put ts u.trackKey) t = due force ts s t := by
  rw [due, due, interval_put, last_put_of_mem h ht]

/-- Of tracks with different keys those are reported that are due before the loop. -/
theorem mem_visit_iff (hkeys : (tracks.map TrackedObject.trackKey).Nodup) :
    t ∈ (visit force ts s tracks).2 ↔ t ∈ tracks ∧ due force ts s t = true := by
  induction tracks generalizing s with
  | nil => simp [visit]
  | cons u tracks ih =>
    rw [List.map_cons, List.nodup_cons] at hkeys
    have hdue : t ∈ tracks → due force ts (s.put ts u.trackKey) t = due force ts s t :=
      due_put_of_mem hkeys.1
    unfold visit
    split
    · next h =>
      rw [List.mem_cons, List.mem_cons, ih hkeys.2]
      constructor
      · rintro (rfl | ⟨ht, hd⟩)
        · exact ⟨.inl rfl, h⟩
        · exact ⟨.inr ht, hdue ht ▸ hd⟩
      · rintro ⟨rfl | ht, hd⟩
        · exact .inl rfl
        · exact .inr ⟨ht, hdue ht ▸ hd⟩
    · next h =>
      rw [ih hkeys.2, List.mem_cons]
      constructor
      · rintro ⟨ht, hd⟩
        exact ⟨.inr ht, hd⟩
      · rintro ⟨rfl | ht, hd⟩
        · exact absurd hd h
        · exact ⟨ht, hd⟩

/-- A track that is reported is remembered, and the memory of another one stays. -/
theorem last_visit (hkeys : (tracks.map TrackedObject.trackKey).Nodup) (ht : t ∈ tracks) :
    (visit force ts s tracks).1.last t.trackKey =
      if due force ts s t then some ts else s.last t.trackKey := by
  induction tracks generalizing s with
  | nil => cases ht
  | cons u tracks ih =>
    rw [List.map_cons, List.nodup_cons] at hkeys
    unfold visit
    rcases List.mem_cons.1 ht with rfl | ht
    · split
      · exact (last_visit_of_not_mem hkeys.1).trans last_put_self
      · exact last_visit_of_not_mem hkeys.1
    · split
      · rw [ih hkeys.2 ht, due_put_of_mem hkeys.1 ht, last_put_of_mem hkeys.1 ht]
      · exact ih hkeys.2 ht

/-! ## The second loop -/

theorem interval_forget (s : TrackSampler) (tracks : List TrackedObject) :
    (s.forget tracks).interval = s.interval :=
  List.foldlRecOn (motive := fun s' : TrackSampler => s'.interval = s.interval) _ _ rfl
    fun _ h t _ => by split <;> exact h

/-- What is remembered after the loop was before, and is the key of no lost track. -/
theorem last_forget (s : TrackSampler) (tracks : List TrackedObject) (key : String) :
    (s.forget tracks).last key =
      if tracks.any fun t => t.isLost && decide (t.trackKey = key) then none else s.last key := by
  induction tracks generalizing s with
  | nil => rfl
  | cons t tracks ih =>
    have hcons : s.forget (t :: tracks) =
        (if t.isLost then s.pop t.trackKey else s).forget tracks := rfl
    rw [hcons, ih, List.any_cons]
    by_cases hlost : t.isLost = true
    · by_cases hkey : t.trackKey = key
      · subst hkey
        simp [hlost]
      · simp [hlost, hkey, last_pop_of_ne (Ne.symm hkey)]
    · simp [hlost]

/-! ## One update -/

theorem interval_sample (s : TrackSampler) (tracks : List TrackedObject) :
    (sample force ts s tracks).1.interval = s.interval :=
  (interval_forget _ tracks).trans (interval_visit s tracks)

/-- What is remembered after an update was remembered before or is the key of a track of it, and is
the key of no lost track. -/
theorem last_sample {last : Int} (h : (sample force ts s tracks).1.last key = some last) :
    (s.last key = some last ∨ ∃ t ∈ tracks, t.trackKey = key) ∧
      ∀ t ∈ tracks, t.isLost = true → t.trackKey ≠ key := by
  unfold sample at h
  rw [last_forget] at h
  split at h
  · cases h
  · next hlost =>
    constructor
    · by_cases hmem : key ∈ tracks.map TrackedObject.trackKey
      · exact .inr (List.mem_map.1 hmem)
      · exact .inl (last_visit_of_not_mem hmem ▸ h)
    · intro t ht hislost hkey
      exact hlost (List.any_eq_true.2 ⟨t, ht, by simp [hislost, hkey]⟩)

/-- A live track is remembered by its last report. -/
theorem last_sample_of_live (hkeys : (tracks.map TrackedObject.trackKey).Nodup) (ht : t ∈ tracks)
    (hlive : t.isLost = false) : (sample force ts s tracks).1.last t.trackKey =
      if due force ts s t then some ts else s.last t.trackKey := by
  unfold sample
  rw [last_forget, last_visit hkeys ht, if_neg]
  intro hany
  obtain ⟨u, hu, hlost⟩ := List.any_eq_true.1 hany
  rw [Bool.and_eq_true, decide_eq_true_eq] at hlost
  cases List.inj_on_of_nodup_map hkeys hu ht hlost.2
  exact Bool.false_ne_true (hlive.symm.trans hlost.1)

end

end TrackSampler

/-! ## The tracks of an update -/

namespace Tracker

/-- The live tracks have the keys of their numbers. -/
def Keyed (md5 : String → String) (tr : Tracker) : Prop :=
  ∀ t ∈ tr.tracks, t.trackKey = tr.key md5 t.localId

section
variable {md5 : String → String} {tr : Tracker} {detections : List Found} {ts : Int}
  {t : TrackedObject}

theorem trackKey_all (hkeyed : tr.Keyed md5)
    (ht : t ∈ tr.matched detections ts ++ tr.created md5 detections ts) :
    t.trackKey = tr.key md5 t.localId := by
  rcases List.mem_append.1 ht with ht | ht
  · obtain ⟨⟨u, ti⟩, hu, rfl⟩ := List.mem_map.1 ht
    have hkey := hkeyed u (List.mem_of_getElem? (List.mk_mem_zipIdx_iff_getElem?.1 hu))
    dsimp only
    split <;> exact hkey
  · exact DetectorAgent.trackKey_created ht

theorem trackKey_out (hkeyed : tr.Keyed md5) (ht : t ∈ (tr.update md5 detections ts).2) :
    t.trackKey = tr.key md5 t.localId := by
  obtain ⟨e, he, rfl⟩ := mem_update_out.1 ht
  have hkey := trackKey_all hkeyed he
  split <;> exact hkey

theorem keyed_update (hkeyed : tr.Keyed md5) : (tr.update md5 detections ts).1.Keyed md5 := by
  intro t ht
  have hkey := trackKey_all hkeyed (mem_update_tracks.1 ht).1
  exact hkey

/-- Where their texts do not collide, the tracks that an update answers have different keys. -/
theorem nodup_keys (h : tr.Wf) (hkeyed : tr.Keyed md5)
    (hmd5 : Set.InjOn md5 {text | ∃ t ∈ (tr.update md5 detections ts).2,
      keyText tr.session tr.cameraId t.localId = text}) :
    ((tr.update md5 detections ts).2.map TrackedObject.trackKey).Nodup := by
  have hids : ((tr.update md5 detections ts).2.map TrackedObject.localId).Nodup :=
    (matches_update h).distinct
  refine List.Nodup.map_on (fun t ht u hu heq => ?_) hids.of_map
  rw [trackKey_out hkeyed ht, trackKey_out hkeyed hu] at heq
  have hid := keyText_inj.1 (hmd5 ⟨t, ht, rfl⟩ ⟨u, hu, rfl⟩ heq)
  exact List.inj_on_of_nodup_map hids ht hu hid

/-- A live track is in the answer of the next update. -/
theorem exists_out_of_live {u : TrackedObject} (hu : u ∈ tr.tracks) :
    ∃ t ∈ (tr.update md5 detections ts).2, t.localId = u.localId := by
  have hid : u.localId ∈ (tr.matched detections ts).map TrackedObject.localId := by
    rw [localId_matched]
    exact List.mem_map_of_mem hu
  obtain ⟨e, he, heq⟩ := List.mem_map.1 hid
  refine ⟨_, mem_update_out.2 ⟨e, List.mem_append_left _ he, rfl⟩, ?_⟩
  split <;> exact heq

end

end Tracker

/-! ## The loop of a pipeline -/

/-- A turn of the loop: what the detector found in a frame of that time and size, the settings that
are in force, and the tracks that are forced. -/
structure Turn where
  labels : List String
  zones : ZoneFilter
  found : List Found
  ts : Int
  width : Int
  height : Int
  force : TrackedObject → Bool

/-- The detections that are tracked: of the labels that are set, if any, and in the zones. -/
def Turn.detections (x : Turn) : List Found :=
  x.zones.filter x.width x.height
    (if x.labels.isEmpty then x.found else x.found.filter fun d => x.labels.contains d.label)

/-- What a pipeline keeps from turn to turn. -/
structure PipelineState where
  tracker : Tracker
  sampler : TrackSampler

namespace PipelineState

/-- Source: `CameraPipeline.apply` (`worker/detector/camera_pipeline.py:26`), before the pipeline
has a thread. -/
def init (session cameraId : String) (iouThresh : Rat) (maxAgeMs interval : Int) :
    PipelineState :=
  ⟨.init session cameraId iouThresh maxAgeMs, .init interval⟩

section
variable (md5 : String → String)

/-- One turn, with the tracks that are reported. Source: `CameraPipeline._loop`
(`worker/detector/camera_pipeline.py:50`). -/
def step (p : PipelineState) (x : Turn) : PipelineState × List TrackedObject :=
  let r := p.tracker.update md5 x.detections x.ts
  let s := p.sampler.sample x.force x.ts r.2
  (⟨r.1, s.1⟩, s.2)

variable (p : PipelineState) (turns : List Turn)

/-- The state after so many turns. -/
def after (k : Nat) : PipelineState := (turns.take k).foldl (fun p x => (p.step md5 x).1) p

/-- What the tracker answers in a turn. -/
def tracked (k : Nat) : List TrackedObject :=
  match turns[k]? with
  | some x => ((p.after md5 turns k).tracker.update md5 x.detections x.ts).2
  | none => []

/-- What is reported in a turn. -/
def reports (k : Nat) : List TrackedObject :=
  match turns[k]? with
  | some x => ((p.after md5 turns k).step md5 x).2
  | none => []

/-- The last turn before the `k`-th in which a track was reported. -/
def LastReport (k id j : Nat) : Prop :=
  j < k ∧ (∃ t ∈ p.reports md5 turns j, t.localId = id) ∧
    ∀ m, j < m → m < k → ∀ t ∈ p.reports md5 turns m, t.localId ≠ id

/-- The texts of the keys of a run's tracks. -/
def texts : Set String :=
  {text | ∃ k, ∃ t ∈ p.tracked md5 turns k,
    Tracker.keyText p.tracker.session p.tracker.cameraId t.localId = text}

/-- The memory has the last report of each live track. -/
def Remembers (k : Nat) : Prop :=
  ∀ t ∈ (p.after md5 turns k).tracker.tracks, ∃ j y, p.LastReport md5 turns k t.localId j ∧
    turns[j]? = some y ∧ (p.after md5 turns k).sampler.last t.trackKey = some y.ts

end

/-- The tracker is in order, and the memory has keys of live tracks only. -/
structure Ok (md5 : String → String) (session cameraId : String) (interval : Int)
    (p : PipelineState) : Prop where
  wf : p.tracker.Wf
  keyed : p.tracker.Keyed md5
  session : p.tracker.session = session
  cameraId : p.tracker.cameraId = cameraId
  interval : p.sampler.interval = interval
  live : ∀ key last, p.sampler.last key = some last →
    ∃ t ∈ p.tracker.tracks, t.trackKey = key

section
variable {md5 : String → String} {session cameraId : String} {interval : Int} {p : PipelineState}
  {x : Turn} {turns : List Turn} {k : Nat} {t : TrackedObject}

theorem ok_init (md5 : String → String) (session cameraId : String) (iouThresh : Rat)
    (maxAgeMs interval : Int) :
    Ok md5 session cameraId interval (init session cameraId iouThresh maxAgeMs interval) where
  wf := Tracker.wf_of_nil rfl
  keyed _ ht := absurd ht List.not_mem_nil
  session := rfl
  cameraId := rfl
  interval := rfl
  live _ _ h := nomatch h

theorem ok_step (h : Ok md5 session cameraId interval p) (x : Turn) :
    Ok md5 session cameraId interval (p.step md5 x).1 where
  wf := Tracker.update_wf h.wf
  keyed := Tracker.keyed_update h.keyed
  session := h.session
  cameraId := h.cameraId
  interval := (TrackSampler.interval_sample ..).trans h.interval
  live := by
    intro key last hlast
    obtain ⟨hkey, hlost⟩ := TrackSampler.last_sample hlast
    have hout : ∃ t ∈ (p.tracker.update md5 x.detections x.ts).2, t.trackKey = key := by
      refine hkey.elim (fun hbefore => ?_) id
      obtain ⟨u, hu, rfl⟩ := h.live key last hbefore
      obtain ⟨t, ht, hid⟩ := Tracker.exists_out_of_live hu
      exact ⟨t, ht, by rw [Tracker.trackKey_out h.keyed ht, hid, h.keyed u hu]⟩
    obtain ⟨t, ht, rfl⟩ := hout
    have hlive : t.isLost = false := Bool.eq_false_iff.2 fun hl => hlost t ht hl rfl
    exact ⟨t, (Tracker.mem_update_tracks_iff h.wf).2 ⟨ht, hlive⟩, rfl⟩

theorem ok_after (h : Ok md5 session cameraId interval p) (turns : List Turn) (k : Nat) :
    Ok md5 session cameraId interval (p.after md5 turns k) :=
  List.foldlRecOn _ _ h fun _ hok x _ => ok_step hok x

theorem after_succ (hx : turns[k]? = some x) :
    p.after md5 turns (k + 1) = ((p.after md5 turns k).step md5 x).1 := by
  unfold after
  rw [List.take_add_one, hx, List.foldl_append]
  rfl

theorem tracked_eq (hx : turns[k]? = some x) : p.tracked md5 turns k =
    ((p.after md5 turns k).tracker.update md5 x.detections x.ts).2 := by rw [tracked, hx]

theorem reports_eq (hx : turns[k]? = some x) :
    p.reports md5 turns k = ((p.after md5 turns k).step md5 x).2 := by rw [reports, hx]

/-- Only what the tracker answers is reported. -/
theorem tracked_of_reports (ht : t ∈ p.reports md5 turns k) : t ∈ p.tracked md5 turns k := by
  unfold reports at ht
  split at ht
  · next x hx =>
    rw [tracked_eq hx]
    exact (TrackSampler.visit_sublist ..).subset ht
  · cases ht

theorem reports_of_flag (hx : turns[k]? = some x) (ht : t ∈ p.tracked md5 turns k)
    (h : t.isNew = true ∨ t.isLost = true ∨ x.force t = true) : t ∈ p.reports md5 turns k := by
  rw [reports_eq hx]
  exact TrackSampler.mem_visit_of_flag (tracked_eq hx ▸ ht) h

/-- There is one last report. -/
theorem LastReport.unique {id i j : Nat} (hi : p.LastReport md5 turns k id i)
    (hj : p.LastReport md5 turns k id j) : i = j := by
  obtain ⟨hik, ⟨t, ht, htid⟩, hafteri⟩ := hi
  obtain ⟨hjk, ⟨u, hu, huid⟩, hafterj⟩ := hj
  rcases Nat.lt_trichotomy i j with hlt | heq | hlt
  · exact absurd huid (hafteri j hlt hjk u hu)
  · exact heq
  · exact absurd htid (hafterj i hlt hik t ht)

/-- A live track was answered by the tracker before. -/
theorem exists_tracked_of_live (hk : k ≤ turns.length) (hnone : p.tracker.tracks = [])
    (h : Ok md5 session cameraId interval p) (ht : t ∈ (p.after md5 turns k).tracker.tracks) :
    ∃ j < k, t ∈ p.tracked md5 turns j := by
  cases k with
  | zero => exact absurd (hnone ▸ ht : t ∈ []) List.not_mem_nil
  | succ k =>
    have hx : turns[k]? = some turns[k] := List.getElem?_eq_getElem hk
    rw [after_succ hx] at ht
    refine ⟨k, Nat.lt_succ_self k, ?_⟩
    rw [tracked_eq hx]
    exact ((Tracker.mem_update_tracks_iff (ok_after h turns k).wf).1 ht).1

/-! ## The memory and the run -/

section
variable (h : Ok md5 session cameraId interval p) (hmd5 : Set.InjOn md5 (p.texts md5 turns))
  (hx : turns[k]? = some x)

include h hmd5 hx

theorem nodup_tracked : ((p.tracked md5 turns k).map TrackedObject.trackKey).Nodup := by
  have hk := ok_after h turns k
  rw [tracked_eq hx]
  refine Tracker.nodup_keys hk.wf hk.keyed (hmd5.mono ?_)
  rintro text ⟨t, ht, rfl⟩
  refine ⟨k, t, tracked_eq hx ▸ ht, ?_⟩
  rw [hk.session, hk.cameraId, h.session, h.cameraId]

theorem mem_reports_iff : t ∈ p.reports md5 turns k ↔ t ∈ p.tracked md5 turns k ∧
    TrackSampler.due x.force x.ts (p.after md5 turns k).sampler t = true := by
  have hkeys := nodup_tracked h hmd5 hx
  rw [reports_eq hx, tracked_eq hx] at *
  exact TrackSampler.mem_visit_iff hkeys

/-- What a turn remembers of a live track. -/
theorem last_after_succ (ht : t ∈ p.tracked md5 turns k) (hlive : t.isLost = false) :
    (p.after md5 turns (k + 1)).sampler.last t.trackKey =
      if TrackSampler.due x.force x.ts (p.after md5 turns k).sampler t then some x.ts
      else (p.after md5 turns k).sampler.last t.trackKey := by
  have hkeys := nodup_tracked h hmd5 hx
  rw [tracked_eq hx] at ht hkeys
  rw [after_succ hx]
  exact TrackSampler.last_sample_of_live hkeys ht hlive

omit hmd5 in
/-- What is remembered of a track that is not new is its last report. -/
theorem exists_lastReport (hmem : p.Remembers md5 turns k) (ht : t ∈ p.tracked md5 turns k)
    (hold : t.isNew = false) : ∃ j y, p.LastReport md5 turns k t.localId j ∧
      turns[j]? = some y ∧ (p.after md5 turns k).sampler.last t.trackKey = some y.ts := by
  have hk := ok_after h turns k
  rw [tracked_eq hx] at ht
  obtain ⟨u, hu, hid⟩ := Tracker.exists_of_isNew_false hk.wf ht hold
  have hkey : u.trackKey = t.trackKey := by
    rw [hk.keyed u hu, Tracker.trackKey_out hk.keyed ht, hid]
  rw [← hid, ← hkey]
  exact hmem u hu

/-- A turn keeps the memory in step with the reports. -/
theorem remembers_succ (hmem : p.Remembers md5 turns k) : p.Remembers md5 turns (k + 1) := by
  intro t ht
  have hk := ok_after h turns k
  rw [after_succ hx] at ht
  obtain ⟨hout, hlive⟩ := (Tracker.mem_update_tracks_iff hk.wf).1 ht
  rw [← tracked_eq hx] at hout
  have hlast := last_after_succ h hmd5 hx hout hlive
  by_cases hdue : TrackSampler.due x.force x.ts (p.after md5 turns k).sampler t = true
  · rw [if_pos hdue] at hlast
    have hreport := (mem_reports_iff h hmd5 hx).2 ⟨hout, hdue⟩
    exact ⟨k, x, ⟨Nat.lt_succ_self k, ⟨t, hreport, rfl⟩, fun m h1 h2 => by omega⟩, hx, hlast⟩
  · rw [if_neg hdue] at hlast
    have hold : t.isNew = false := (TrackSampler.flags_of_not_due hdue).1
    obtain ⟨j, y, ⟨hjk, hreport, hafter⟩, hy, hyts⟩ := exists_lastReport h hx hmem hout hold
    refine ⟨j, y, ⟨by omega, hreport, fun m h1 h2 u hu hid => ?_⟩, hy, hlast.trans hyts⟩
    rcases Nat.lt_succ_iff_lt_or_eq.1 h2 with h2 | rfl
    · exact hafter m h1 h2 u hu hid
    · obtain ⟨huout, hudue⟩ := (mem_reports_iff h hmd5 hx).1 hu
      rw [tracked_eq hx] at hout huout
      cases List.inj_on_of_nodup_map (Tracker.matches_update hk.wf).distinct huout hout hid
      exact hdue hudue

end

/-- After every turn the memory has the last report of each live track. -/
theorem remembers (h : Ok md5 session cameraId interval p) (hnone : p.tracker.tracks = [])
    (hmd5 : Set.InjOn md5 (p.texts md5 turns)) (hk : k ≤ turns.length) :
    p.Remembers md5 turns k := by
  induction k with
  | zero => exact fun t ht => absurd (hnone ▸ ht : t ∈ []) List.not_mem_nil
  | succ k ih =>
    exact remembers_succ h hmd5 (List.getElem?_eq_getElem hk) (ih (Nat.le_of_succ_le hk))

end

end PipelineState

/-- In every run of a new pipeline, whatever is found in the frames, whatever their times and
whichever tracks are forced: a track is reported in the turn in which it is seen for the first time,
in the one in which it is lost and in each in which it is forced, only what is tracked is reported,
and the memory has keys of live tracks only. Where the hash does not collide on the texts of the
run's tracks, a report of a track that is not new, lost or forced is at least an interval after the
last one, and a track that is not reported was reported less than an interval ago. -/
theorem sampler_laws (md5 : String → String) (session cameraId : String) (iouThresh : Rat)
    (maxAgeMs interval : Int) (turns : List Turn) (k : Nat) (x : Turn) (hx : turns[k]? = some x) :
    let p := PipelineState.init session cameraId iouThresh maxAgeMs interval
    (∀ t ∈ p.tracked md5 turns k,
      (∀ j < k, ∀ u ∈ p.tracked md5 turns j, u.localId ≠ t.localId) ∨ t.isNew = true ∨
        t.isLost = true ∨ x.force t = true → t ∈ p.reports md5 turns k) ∧
    (∀ t ∈ p.reports md5 turns k, t ∈ p.tracked md5 turns k) ∧
    (∀ key last, (p.after md5 turns (k + 1)).sampler.last key = some last →
      ∃ t ∈ (p.after md5 turns (k + 1)).tracker.tracks, t.trackKey = key) ∧
    (Set.InjOn md5 (p.texts md5 turns) →
      (∀ t ∈ p.reports md5 turns k, t.isNew = false → t.isLost = false → x.force t = false →
        ∀ j y, p.LastReport md5 turns k t.localId j → turns[j]? = some y →
          interval ≤ x.ts - y.ts) ∧
      ∀ t ∈ p.tracked md5 turns k, t ∉ p.reports md5 turns k →
        ∃ j y, p.LastReport md5 turns k t.localId j ∧ turns[j]? = some y ∧
          x.ts - y.ts < interval) := by
  intro p
  have hok : p.Ok md5 session cameraId interval :=
    PipelineState.ok_init md5 session cameraId iouThresh maxAgeMs interval
  have hk := PipelineState.ok_after hok turns k
  have hlt : k ≤ turns.length := (List.getElem?_eq_some_iff.1 hx).1.le
  refine ⟨?_, fun t => PipelineState.tracked_of_reports,
    (PipelineState.ok_after hok turns (k + 1)).live, fun hmd5 => ?_⟩
  · rintro t ht (hfirst | hflag)
    · refine PipelineState.reports_of_flag hx ht (.inl ?_)
      by_contra hold
      obtain ⟨u, hu, hid⟩ := Tracker.exists_of_isNew_false hk.wf
        (PipelineState.tracked_eq hx ▸ ht) (Bool.not_eq_true _ ▸ hold)
      obtain ⟨j, hj, huj⟩ := PipelineState.exists_tracked_of_live hlt rfl hok hu
      exact hfirst j hj u huj hid
    · exact PipelineState.reports_of_flag hx ht hflag
  · have hmem := PipelineState.remembers hok rfl hmd5 hlt
    constructor
    · intro t ht hnew hlost hforce j y hj hy
      obtain ⟨htracked, hdue⟩ := (PipelineState.mem_reports_iff hok hmd5 hx).1 ht
      obtain ⟨j', y', hj', hy', hlast⟩ :=
        PipelineState.exists_lastReport hok hx hmem htracked hnew
      cases hj.unique hj'
      cases hy.symm.trans hy'
      rw [TrackSampler.due_iff hnew hlost hforce hlast, hk.interval] at hdue
      exact hdue
    · intro t ht hno
      have hdue : ¬ TrackSampler.due x.force x.ts (p.after md5 turns k).sampler t = true :=
        fun hdue => hno ((PipelineState.mem_reports_iff hok hmd5 hx).2 ⟨ht, hdue⟩)
      obtain ⟨hnew, hlost, hforce⟩ := TrackSampler.flags_of_not_due hdue
      obtain ⟨j, y, hj, hy, hlast⟩ := PipelineState.exists_lastReport hok hx hmem ht hnew
      refine ⟨j, y, hj, hy, ?_⟩
      rw [TrackSampler.due_iff hnew hlost hforce hlast, hk.interval] at hdue
      exact not_le.1 hdue

/-! ## A run -/

namespace PipelineState.Fixture

open DetectorAgent.Fixture

def turn (found : List Found) (ts : Int) : Turn :=
  ⟨["person"], .init none none, found, ts, 640, 360, fun _ => false⟩

/-- A second person comes when the first is not due. -/
def turns : List Turn :=
  [turn [left] 0, turn [left, right] 400, turn [right] 1000, turn [] 4000]

def start : PipelineState := .init session "1" (3 / 10) 2000 1000

end PipelineState.Fixture

open DetectorAgent.Fixture PipelineState.Fixture in
/-- After a second the first person is due again and the second is not. -/
theorem sampler_laws_two : turns[2]? = some (turn [right] 1000) ∧
    (start.tracked md5 turns 2).map TrackedObject.localId = [1, 2] ∧
    (start.reports md5 turns 2).map TrackedObject.localId = [1] ∧
    (∀ j y, start.LastReport md5 turns 2 1 j → turns[j]? = some y → 1000 ≤ 1000 - y.ts) ∧
    ∃ j y, start.LastReport md5 turns 2 2 j ∧ turns[j]? = some y ∧ 1000 - y.ts < 1000 := by
  have htracked : (start.tracked md5 turns 2).map TrackedObject.localId = [1, 2] := by
    decide +kernel
  have hreports : (start.reports md5 turns 2).map (fun t => (t.localId, t.isNew, t.isLost)) =
      [(1, false, false)] := by decide +kernel
  have hids : ∀ k < 4, (start.tracked md5 turns k).all (fun t =>
      decide (t.localId = 1) || decide (t.localId = 2)) = true := by decide +kernel
  have htext : ∀ text ∈ start.texts md5 turns, text = "0f8b2c6e4d1a49d39a7e5b60c2f1d384:1:1" ∨
      text = "0f8b2c6e4d1a49d39a7e5b60c2f1d384:1:2" := by
    rintro text ⟨k, t, ht, rfl⟩
    have hk : k < 4 := by
      by_contra hge
      rw [PipelineState.tracked, List.getElem?_eq_none (not_lt.1 hge)] at ht
      cases ht
    have hid := List.all_eq_true.1 (hids k hk) t ht
    rw [Bool.or_eq_true, decide_eq_true_eq, decide_eq_true_eq] at hid
    rcases hid with hid | hid <;> rw [hid]
    · exact .inl (by decide +kernel)
    · exact .inr (by decide +kernel)
  have hmd5 : Set.InjOn md5 (start.texts md5 turns) := by
    intro text ht text' ht' heq
    revert heq
    rcases htext text ht with rfl | rfl <;> rcases htext text' ht' with rfl | rfl <;> decide
  obtain ⟨hapart, hsoon⟩ :=
    (sampler_laws md5 session "1" (3 / 10) 2000 1000 turns 2 _ rfl).2.2.2 hmd5
  have hfirst : (1, false, false) ∈ (start.reports md5 turns 2).map
      fun t => (t.localId, t.isNew, t.isLost) := by simp [hreports]
  have hsecond : 2 ∈ (start.tracked md5 turns 2).map TrackedObject.localId := by simp [htracked]
  obtain ⟨t, ht, heq⟩ := List.mem_map.1 hfirst
  obtain ⟨u, hu, hid⟩ := List.mem_map.1 hsecond
  simp only [Prod.mk.injEq] at heq
  refine ⟨rfl, htracked, ?_, ?_, ?_⟩
  · simpa [Function.comp_def] using congrArg (List.map Prod.fst) hreports
  · exact heq.1 ▸ hapart t ht heq.2.1 heq.2.2 rfl
  · refine hid ▸ hsoon u hu fun (hreport : u ∈ start.reports md5 turns 2) => ?_
    have hmem := List.mem_map_of_mem (f := fun t => (t.localId, t.isNew, t.isLost)) hreport
    rw [hreports, List.mem_singleton, Prod.mk.injEq, hid] at hmem
    exact absurd hmem.1 (by decide)

end AeroXProtect
