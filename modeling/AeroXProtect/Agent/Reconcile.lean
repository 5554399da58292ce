import AeroXProtect.Agent.Poll
import Mathlib.Data.List.Find

/-!
# Reconciling what runs

`applySpecs` of `AeroXProtect.Agent.Poll` with the objects it works on. `Fleet` keeps every pipeline
or session that an agent has made, so that a position is an object for good; the ones that are filed
are in the dictionary. What the loops do for well formed specs is one change of the objects that are
there, and new objects behind them (`applySpecs_eq`): all of `reconcile_exact` is read off that.
-/

open Lib

namespace AeroXProtect

/-- A pipeline or session that an agent has made; `filed` while it is in the dictionary, with the
number of calls of its `stop`. -/
structure Instance where
  job : Job
  filed : Bool
  stops : Nat
  deriving DecidableEq

namespace Instance

/-- A new object. -/
def new (job : Job) : Instance := ⟨job, true, 0⟩

/-- The object is in the dictionary under the key. -/
def isAt (cameraId : Json) (o : Instance) : Bool := o.filed && decide (o.job.cameraId = cameraId)

/-- Another object takes its place in the dictionary. -/
def unfile (o : Instance) : Instance := { o with filed := false }

/-- The object is popped and stopped. -/
def stop (o : Instance) : Instance := { o with filed := false, stops := o.stops + 1 }

end Instance

/-- The dictionary of a list of objects. -/
def filedJobs (made : List Instance) : List Job := (made.filter Instance.filed).map Instance.job

/-- All objects that an agent has made, the oldest first. -/
structure Fleet where
  made : List Instance
  nodup : ((filedJobs made).map Job.cameraId).Nodup

/-- The dictionary when some objects are popped. -/
theorem filedJobs_map {p : Instance → Bool} {g : Instance → Instance}
    (hg : ∀ o, (g o).filed = false) (made : List Instance) :
    filedJobs (made.map fun o => if p o then g o else o) =
      filedJobs (made.filter fun o => !p o) := by
  unfold filedJobs
  induction made with
  | nil => rfl
  | cons o made ih =>
    rw [List.map_cons, List.filter_cons, List.filter_cons]
    cases hp : p o with
    | true => simp [hg, ih]
    | false => cases ho : o.filed <;> simp [ho, ih]

theorem nodup_filedJobs_map {p : Instance → Bool} {g : Instance → Instance}
    (hg : ∀ o, (g o).filed = false) {made : List Instance}
    (h : ((filedJobs made).map Job.cameraId).Nodup) :
    ((filedJobs (made.map fun o => if p o then g o else o)).map Job.cameraId).Nodup := by
  rw [filedJobs_map hg]
  exact (((List.filter_sublist.filter _).map _).map _).nodup h

namespace Fleet

/-- The `pipelines` or `sessions` dictionary. -/
def jobs (fleet : Fleet) : Jobs := ⟨filedJobs fleet.made, fleet.nodup⟩

/-- `d.pop(cameraId).stop()`; `none` when there is no such key. -/
def popStop (fleet : Fleet) (cameraId : Json) : Option Fleet :=
  if fleet.made.any (Instance.isAt cameraId) then
    some ⟨fleet.made.map fun o => if o.isAt cameraId then o.stop else o,
      nodup_filedJobs_map (fun _ => rfl) fleet.nodup⟩
  else none

/-- `d[cameraId] = ` a new object for the job. -/
def file (fleet : Fleet) (job : Job) : Fleet where
  made := (fleet.made.map fun o => if o.isAt job.cameraId then o.unfile else o) ++ [.new job]
  nodup := by
    have h := nodup_filedJobs_map (p := Instance.isAt job.cameraId) (g := Instance.unfile)
      (fun _ => rfl) fleet.nodup
    unfold filedJobs at h ⊢
    rw [List.filter_append, List.map_append, List.map_append, List.nodup_append]
    refine ⟨h, List.nodup_singleton _, ?_⟩
    intro a ha k hk
    obtain rfl : k = job.cameraId := by simpa [Instance.new] using hk
    obtain ⟨j, hj, rfl⟩ := List.mem_map.1 ha
    obtain ⟨o, ho, rfl⟩ := List.mem_map.1 hj
    obtain ⟨hmem, hfiled⟩ := List.mem_filter.1 ho
    obtain ⟨o', -, rfl⟩ := List.mem_map.1 hmem
    split at hfiled
    · cases hfiled
    · next hnot =>
      rw [if_neg hnot]
      intro heq
      exact hnot (by simpa [Instance.isAt, heq] using hfiled)

/-- The loop over what is to be stopped; the flag is false when a `KeyError` ends it. -/
def stopAll : Fleet → List Json → Fleet × Bool
  | fleet, [] => (fleet, true)
  | fleet, cameraId :: rest =>
    match fleet.popStop cameraId with
    | none => (fleet, false)
    | some fleet => stopAll fleet rest

/-- The loop over what is to be restarted. -/
def updateAll (builds : Json → Bool) : Fleet → List Job → Fleet × Bool
  | fleet, [] => (fleet, true)
  | fleet, job :: rest =>
    match fleet.popStop job.cameraId with
    | none => (fleet, false)
    | some fleet =>
      if builds job.spec then updateAll builds (fleet.file job) rest else (fleet, false)

/-- The loop over what is to be started. -/
def startAll (builds : Json → Bool) : Fleet → List Job → Fleet × Bool
  | fleet, [] => (fleet, true)
  | fleet, job :: rest =>
    if builds job.spec then startAll builds (fleet.file job) rest else (fleet, false)

/-- Source: `NodeAgent.apply_specs` (`worker/detector/node_agent.py:115`,
`worker/encoder/node_agent.py:182`). The flag is false when an exception ends it. -/
def applySpecs (builds : Json → Bool) (fleet : Fleet) (specs : Json) : Fleet × Bool :=
  match want specs with
  | none => (fleet, false)
  | some wanted =>
    let changes := reconcile wanted fleet.jobs
    match fleet.stopAll changes.toStop with
    | (stopped, false) => (stopped, false)
    | (stopped, true) =>
      match stopped.updateAll builds changes.toUpdate with
      | (updated, false) => (updated, false)
      | (updated, true) => updated.startAll builds changes.toStart

/-! ## What the loops do -/

/-- The object is filed under one of the keys. -/
def isAmong (keys : List Json) (o : Instance) : Bool := o.filed && decide (o.job.cameraId ∈ keys)

/-- The objects that are filed under one of the keys are stopped. -/
def stopAmong (keys : List Json) (made : List Instance) : List Instance :=
  made.map fun o => if isAmong keys o then o.stop else o

@[simp] theorem stopAmong_nil (made : List Instance) : stopAmong [] made = made := by
  simp [stopAmong, isAmong]

theorem stopAmong_singleton (k : Json) (made : List Instance) :
    stopAmong [k] made = made.map fun o => if o.isAt k then o.stop else o := by
  unfold stopAmong isAmong Instance.isAt
  simp only [List.mem_singleton]

/-- An object that is stopped is not filed any more, so it is stopped once. -/
theorem stopAmong_cons (k : Json) (keys : List Json) (made : List Instance) :
    stopAmong (k :: keys) made = stopAmong keys (stopAmong [k] made) := by
  rw [stopAmong_singleton]
  unfold stopAmong
  rw [List.map_map]
  refine List.map_congr_left fun o _ => ?_
  cases hf : o.filed with
  | false => simp [Instance.isAt, isAmong, hf]
  | true =>
    by_cases hk : o.job.cameraId = k
    · simp [Instance.isAt, isAmong, hf, hk, Instance.stop]
    · simp [Instance.isAt, isAmong, hf, hk]

theorem stopAmong_append_keys (keys keys' : List Json) (made : List Instance) :
    stopAmong (keys ++ keys') made = stopAmong keys' (stopAmong keys made) := by
  induction keys generalizing made with
  | nil => rw [stopAmong_nil, List.nil_append]
  | cons k keys ih => rw [List.cons_append, stopAmong_cons, ih, ← stopAmong_cons]

theorem stopAmong_append (keys : List Json) (made new : List Instance)
    (h : ∀ o ∈ new, o.job.cameraId ∉ keys) :
    stopAmong keys (made ++ new) = stopAmong keys made ++ new := by
  unfold stopAmong
  rw [List.map_append]
  congr 1
  conv_rhs => rw [← List.map_id new]
  exact List.map_congr_left fun o ho => if_neg (by simp [isAmong, h o ho])

section
variable {fleet : Fleet} {builds : Json → Bool}

theorem mem_jobs {j : Job} : j ∈ fleet.jobs ↔ ∃ o ∈ fleet.made, o.filed = true ∧ o.job = j := by
  change j ∈ (fleet.made.filter Instance.filed).map Instance.job ↔ _
  simp only [List.mem_map, List.mem_filter, and_assoc]

theorem any_isAt {k : Json} : fleet.made.any (Instance.isAt k) = (fleet.jobs.get? k).isSome := by
  rw [Bool.eq_iff_iff, List.any_eq_true, Option.isSome_iff_exists]
  constructor
  · rintro ⟨o, ho, hat⟩
    rw [Instance.isAt, Bool.and_eq_true, decide_eq_true_eq] at hat
    exact ⟨o.job, Table.get?_eq_some.2 ⟨mem_jobs.2 ⟨o, ho, hat.1, rfl⟩, hat.2⟩⟩
  · rintro ⟨j, hj⟩
    obtain ⟨hmem, rfl⟩ := Table.get?_eq_some.1 hj
    obtain ⟨o, ho, hfiled, rfl⟩ := mem_jobs.1 hmem
    exact ⟨o, ho, by simp [Instance.isAt, hfiled]⟩

/-- An object is filed only if there is none under its key. -/
theorem made_file {job : Job} (h : fleet.jobs.get? job.cameraId = none) :
    (fleet.file job).made = fleet.made ++ [.new job] := by
  have hnot : ∀ o ∈ fleet.made, ¬ o.isAt job.cameraId = true := by
    have hany : fleet.made.any (Instance.isAt job.cameraId) = false := any_isAt.trans (h ▸ rfl)
    exact List.any_eq_false.1 hany
  have hsame : (fleet.made.map fun o => if o.isAt job.cameraId then o.unfile else o) =
      fleet.made.map id := List.map_congr_left fun o ho => if_neg (hnot o ho)
  rw [List.map_id] at hsame
  exact congrArg (· ++ [Instance.new job]) hsame

theorem filedJobs_popStop (k : Json) (made : List Instance) :
    filedJobs (made.map fun o => if o.isAt k then o.stop else o) =
      (filedJobs made).filter fun j => !decide (j.cameraId = k) := by
  rw [filedJobs_map fun _ => rfl]
  unfold filedJobs
  rw [List.filter_map, List.filter_filter, List.filter_filter]
  congr 1
  refine List.filter_congr fun o _ => ?_
  cases hf : o.filed <;> simp [Instance.isAt, hf]

/-- The object under a key is popped and stopped. -/
theorem popStop_eq {k : Json} (h : (fleet.jobs.get? k).isSome) :
    ∃ popped, fleet.popStop k = some popped ∧ popped.made = stopAmong [k] fleet.made ∧
      ∀ k', popped.jobs.get? k' = if k' = k then none else fleet.jobs.get? k' := by
  refine ⟨_, if_pos (any_isAt.trans h), ?_, fun k' => ?_⟩
  · exact (stopAmong_singleton k fleet.made).symm
  · rw [← Jobs.get?_pop]
    exact congrArg (fun jobs : Jobs => jobs.get? k')
      (Table.eq_of_rows (filedJobs_popStop k fleet.made))

/-- A new object is filed behind the others. -/
theorem get?_file {job : Job} (h : fleet.jobs.get? job.cameraId = none) (k : Json) :
    (fleet.file job).jobs.get? k = if k = job.cameraId then some job else fleet.jobs.get? k := by
  have hrows : (fleet.file job).jobs = fleet.jobs.insert job := by
    refine Table.eq_of_rows ?_
    rw [Table.rows_insert (Table.get?_eq_none.1 h)]
    change filedJobs (fleet.file job).made = filedJobs fleet.made ++ [job]
    rw [made_file h]
    unfold filedJobs
    rw [List.filter_append, List.map_append]
    rfl
  rw [hrows, Table.get?_insert h]

/-- Keys that are all there are popped and stopped. -/
theorem stopAll_eq {l : List Json} (hl : l.Nodup) (h : ∀ k ∈ l, (fleet.jobs.get? k).isSome) :
    ∃ stopped, fleet.stopAll l = (stopped, true) ∧ stopped.made = stopAmong l fleet.made ∧
      ∀ k, stopped.jobs.get? k = if k ∈ l then none else fleet.jobs.get? k := by
  induction l generalizing fleet with
  | nil => exact ⟨fleet, rfl, (stopAmong_nil _).symm, fun k => (if_neg List.not_mem_nil).symm⟩
  | cons k l ih =>
    rw [List.nodup_cons] at hl
    obtain ⟨popped, hpop, hmade, hget⟩ := popStop_eq (h k (.head _))
    have hrest : ∀ k' ∈ l, (popped.jobs.get? k').isSome := by
      intro k' hk'
      rw [hget, if_neg (ne_of_mem_of_not_mem hk' hl.1)]
      exact h k' (.tail _ hk')
    obtain ⟨stopped, hstop, hmade', hget'⟩ := ih hl.2 hrest
    refine ⟨stopped, ?_, ?_, fun k' => ?_⟩
    · rw [stopAll, hpop]
      exact hstop
    · rw [hmade', hmade, stopAmong_cons k l]
    · rw [hget', hget]
      by_cases hk' : k' ∈ l
      · simp [hk']
      · by_cases heq : k' = k <;> simp [hk', heq]

/-- Jobs whose keys are all there are restarted, as new objects behind the others. -/
theorem updateAll_eq {l : List Job} (hl : (l.map Job.cameraId).Nodup)
    (h : ∀ j ∈ l, (fleet.jobs.get? j.cameraId).isSome) (hb : ∀ j ∈ l, builds j.spec = true) :
    ∃ updated, fleet.updateAll builds l = (updated, true) ∧
      updated.made = stopAmong (l.map Job.cameraId) fleet.made ++ l.map .new ∧
      ∀ k ∉ l.map Job.cameraId, updated.jobs.get? k = fleet.jobs.get? k := by
  induction l generalizing fleet with
  | nil => exact ⟨fleet, rfl, by simp, fun k _ => rfl⟩
  | cons job l ih =>
    rw [List.map_cons, List.nodup_cons] at hl
    obtain ⟨popped, hpop, hmade, hget⟩ := popStop_eq (h job (.head _))
    have hnone : popped.jobs.get? job.cameraId = none := (hget _).trans (if_pos rfl)
    have hother : ∀ k, k ≠ job.cameraId →
        (popped.file job).jobs.get? k = fleet.jobs.get? k := by
      intro k hk
      rw [get?_file hnone, if_neg hk, hget, if_neg hk]
    have hrest : ∀ j ∈ l, ((popped.file job).jobs.get? j.cameraId).isSome := by
      intro j hj
      rw [hother _ (ne_of_mem_of_not_mem (List.mem_map_of_mem hj) hl.1)]
      exact h j (.tail _ hj)
    obtain ⟨updated, hupdate, hmade', hget'⟩ := ih hl.2 hrest fun j hj => hb j (.tail _ hj)
    refine ⟨updated, ?_, ?_, fun k hk => ?_⟩
    · rw [updateAll, hpop]
      exact (if_pos (hb job (.head _))).trans hupdate
    · rw [hmade', made_file hnone, hmade, List.map_cons,
        stopAmong_append _ _ _ (by simpa [Instance.new] using hl.1), List.append_assoc,
        stopAmong_cons _ (l.map Job.cameraId)]
      rfl
    · rw [List.map_cons, List.mem_cons, not_or] at hk
      rw [hget' k hk.2, hother k hk.1]

/-- Jobs whose keys are not there are started, as new objects behind the others. -/
theorem startAll_eq {l : List Job} (hl : (l.map Job.cameraId).Nodup)
    (h : ∀ j ∈ l, fleet.jobs.get? j.cameraId = none) (hb : ∀ j ∈ l, builds j.spec = true) :
    ∃ started, fleet.startAll builds l = (started, true) ∧
      started.made = fleet.made ++ l.map .new := by
  induction l generalizing fleet with
  | nil => exact ⟨fleet, rfl, (List.append_nil _).symm⟩
  | cons job l ih =>
    rw [List.map_cons, List.nodup_cons] at hl
    have hnone := h job (.head _)
    have hrest : ∀ j ∈ l, (fleet.file job).jobs.get? j.cameraId = none := by
      intro j hj
      rw [get?_file hnone, if_neg (ne_of_mem_of_not_mem (List.mem_map_of_mem hj) hl.1)]
      exact h j (.tail _ hj)
    obtain ⟨started, hstart, hmade⟩ := ih hl.2 hrest fun j hj => hb j (.tail _ hj)
    refine ⟨started, ?_, ?_⟩
    · rw [startAll, if_pos (hb job (.head _)), hstart]
    · rw [hmade, made_file hnone, List.append_assoc]
      rfl

end

end Fleet

/-! ## What is listed -/

/-- The spec that a list has for a camera, which is the last one. -/
def lastListed (specs : List Json) (cameraId : Json) : Option Json :=
  specs.reverse.find? fun s => decide (s.index? "camera_id" = some cameraId)

/-- A spec names its camera, and what it describes can be made. -/
structure WellFormedSpec (builds : Json → Bool) (s : Json) : Prop where
  camera : (Job.ofSpec s).isSome = true
  builds : builds s = true

theorem Jobs.get?_put (jobs : Jobs) (job : Job) (k : Json) :
    (jobs.put job).get? k = if k = job.cameraId then some job else jobs.get? k := by
  unfold put
  cases h : jobs.get? job.cameraId with
  | none => exact Table.get?_insert h
  | some c =>
    have hkey : c.cameraId = job.cameraId := (Table.get?_eq_some.1 h).2
    simp only [Table.get?_modify]
    split
    · next hk =>
      subst hk
      rw [h, Option.map_some, hkey]
    · rfl

theorem Jobs.get?_foldl_put (l : List Job) (jobs : Jobs) (k : Json) :
    (l.foldl put jobs).get? k =
      (l.reverse.find? fun j => decide (j.cameraId = k)).or (jobs.get? k) := by
  induction l generalizing jobs with
  | nil => rfl
  | cons job l ih =>
    rw [List.foldl_cons, ih, get?_put, List.reverse_cons, List.find?_append, Option.or_assoc]
    congr 1
    by_cases hk : k = job.cameraId
    · subst hk
      simp
    · rw [if_neg hk, List.find?_singleton, if_neg (by simpa using Ne.symm hk), Option.none_or]

theorem Job.ofSpec_eq_some {s : Json} {job : Job} (h : Job.ofSpec s = some job) :
    job.spec = s ∧ s.index? "camera_id" = some job.cameraId := by
  obtain ⟨cid, hcid, h⟩ := Option.bind_eq_some_iff.1 h
  split at h
  · cases h
    exact ⟨rfl, hcid⟩
  · cases h

/-- Specs that all name their cameras are wanted, for each camera the last one. -/
theorem want_eq_some {specs : List Json} (h : ∀ s ∈ specs, (Job.ofSpec s).isSome = true) :
    ∃ wanted, want (.arr specs) = some wanted ∧
      ∀ k, (wanted.get? k).map Job.spec = lastListed specs k := by
  obtain ⟨l, hl, rfl, hkeys⟩ : ∃ l : List Job, specs.mapM Job.ofSpec = some l ∧
      l.map Job.spec = specs ∧ ∀ j ∈ l, j.spec.index? "camera_id" = some j.cameraId := by
    induction specs with
    | nil => exact ⟨[], rfl, rfl, fun j hj => absurd hj List.not_mem_nil⟩
    | cons s specs ih =>
      obtain ⟨job, hjob⟩ := Option.isSome_iff_exists.1 (h s (.head _))
      obtain ⟨l, hl, hspecs, hkeys⟩ := ih fun s hs => h s (.tail _ hs)
      obtain ⟨rfl, hkey⟩ := Job.ofSpec_eq_some hjob
      refine ⟨job :: l, by rw [List.mapM_cons, hjob, hl]; rfl, by rw [List.map_cons, hspecs], ?_⟩
      exact List.forall_mem_cons.2 ⟨hkey, hkeys⟩
  refine ⟨l.foldl Jobs.put ∅, by simp [want, Json.iter?, hl], fun k => ?_⟩
  have hsame : (l.reverse.find? fun j => decide (j.spec.index? "camera_id" = some k)) =
      l.reverse.find? fun j => decide (j.cameraId = k) := by
    refine List.find?_congr fun j hj => ?_
    exact decide_eq_decide.2 (by rw [hkeys j (List.mem_reverse.1 hj), Option.some.injEq])
  rw [Jobs.get?_foldl_put, lastListed, ← List.map_reverse, List.find?_map, ← hsame]
  exact congrArg (Option.map Job.spec) (Option.or_none ..)

namespace Fleet

section
variable {fleet : Fleet} {builds : Json → Bool} {wanted : Jobs} {specs : Json}

/-- What becomes of an object: it is stopped if it is filed and its job is not wanted any more. -/
def retire (wanted : Jobs) (o : Instance) : Instance :=
  if o.filed && decide (wanted.get? o.job.cameraId ≠ some o.job) then o.stop else o

/-- A filed object is to be stopped or restarted when its job is not wanted. -/
theorem mem_changes_iff {o : Instance} (ho : o ∈ fleet.made) (hfiled : o.filed = true) :
    o.job.cameraId ∈ (reconcile wanted fleet.jobs).toStop ++
        (reconcile wanted fleet.jobs).toUpdate.map Job.cameraId ↔
      wanted.get? o.job.cameraId ≠ some o.job := by
  have hget : fleet.jobs.get? o.job.cameraId = some o.job :=
    Table.get?_eq_some.2 ⟨mem_jobs.2 ⟨o, ho, hfiled, rfl⟩, rfl⟩
  rw [List.mem_append, mem_toStop, hget, List.mem_map]
  cases hw : wanted.get? o.job.cameraId with
  | none => exact iff_of_true (.inl ⟨rfl, rfl⟩) nofun
  | some j =>
    obtain ⟨hj, hkey⟩ := Table.get?_eq_some.1 hw
    have hupdate : (∃ j' ∈ (reconcile wanted fleet.jobs).toUpdate, j'.cameraId = o.job.cameraId) ↔
        o.job.spec ≠ j.spec := by
      constructor
      · rintro ⟨j', hj', hkey'⟩
        obtain ⟨hwanted, c, hc, hne⟩ := mem_toUpdate.1 hj'
        rw [hkey', hget] at hc
        cases hc
        rwa [Table.eq_of_key_eq hj hwanted (hkey.trans hkey'.symm)]
      · intro hne
        exact ⟨j, mem_toUpdate.2 ⟨hj, o.job, by rw [hkey, hget], hne⟩, hkey⟩
    rw [hupdate]
    constructor
    · rintro (⟨hnone, -⟩ | hne) heq
      · cases hnone
      · exact hne (by rw [Option.some.inj heq])
    · intro hne
      refine .inr fun heq => hne ?_
      rw [Option.some.injEq]
      cases hjob : o.job with
      | mk cameraId spec =>
        cases j
        rw [hjob] at hkey heq
        cases hkey
        cases heq
        rfl

/-- **What the loops do.** When all that is wanted can be made, the objects that are not wanted are
stopped, and a new object is filed for every job that does not run. -/
theorem applySpecs_eq (hw : want specs = some wanted) (hb : ∀ j ∈ wanted, builds j.spec = true) :
    ∃ after, fleet.applySpecs builds specs = (after, true) ∧
      after.made = fleet.made.map (retire wanted) ++
        ((reconcile wanted fleet.jobs).toUpdate ++ (reconcile wanted fleet.jobs).toStart).map
          .new := by
  have hnodup := nodup_toUpdate wanted fleet.jobs
  have hstopNodup : (reconcile wanted fleet.jobs).toStop.Nodup :=
    (List.filter_sublist.map _).nodup fleet.jobs.nodup
  obtain ⟨stopped, hstop, hmade, hget⟩ := stopAll_eq hstopNodup fun k hk => (mem_toStop.1 hk).2
  have hupdated : ∀ j ∈ (reconcile wanted fleet.jobs).toUpdate,
      (stopped.jobs.get? j.cameraId).isSome := by
    intro j hj
    obtain ⟨hmem, c, hc, -⟩ := mem_toUpdate.1 hj
    have hnot : j.cameraId ∉ (reconcile wanted fleet.jobs).toStop := by
      intro hk
      exact Table.get?_eq_none.1 (mem_toStop.1 hk).1 j hmem rfl
    rw [hget, if_neg hnot, hc]
    rfl
  obtain ⟨updated, hupdate, hmade', hget'⟩ := updateAll_eq hnodup hupdated
    fun j hj => hb j (mem_toUpdate.1 hj).1
  have hstarted : ∀ j ∈ (reconcile wanted fleet.jobs).toStart,
      updated.jobs.get? j.cameraId = none := by
    intro j hj
    have hnone := (mem_toStart.1 hj).2
    have hnot : j.cameraId ∉ (reconcile wanted fleet.jobs).toUpdate.map Job.cameraId := by
      intro hk
      obtain ⟨j', hj', hkey⟩ := List.mem_map.1 hk
      obtain ⟨-, c, hc, -⟩ := mem_toUpdate.1 hj'
      rw [hkey, hnone] at hc
      cases hc
    rw [hget' _ hnot, hget, hnone, ite_self]
  obtain ⟨started, hstart, hmade''⟩ := startAll_eq (nodup_toStart wanted fleet.jobs) hstarted
    fun j hj => hb j (mem_toStart.1 hj).1
  refine ⟨started, ?_, ?_⟩
  · simp only [applySpecs, hw, hstop, hupdate, hstart]
  · rw [hmade'', hmade', hmade, ← stopAmong_append_keys, List.append_assoc, List.map_append]
    congr 1
    refine List.map_congr_left fun o ho => ?_
    unfold retire isAmong
    cases hfiled : o.filed with
    | false => rfl
    | true => rw [Bool.true_and, Bool.true_and, decide_eq_decide.2 (mem_changes_iff ho hfiled)]

/-- The dictionary after the loops is what is wanted. -/
theorem get?_of_made {after : Fleet}
    (hmade : after.made = fleet.made.map (retire wanted) ++
      ((reconcile wanted fleet.jobs).toUpdate ++ (reconcile wanted fleet.jobs).toStart).map .new)
    (k : Json) : after.jobs.get? k = wanted.get? k := by
  have hmem (j : Job) : j ∈ after.jobs ↔ j ∈ wanted := by
    rw [mem_jobs, hmade]
    simp only [List.mem_append, List.mem_map]
    constructor
    · rintro ⟨o, ⟨o', ho', rfl⟩ | ⟨j', hj', rfl⟩, hfiled, rfl⟩
      · unfold retire at hfiled ⊢
        split at hfiled
        · cases hfiled
        · next hnot =>
          rw [hfiled, Bool.true_and, decide_eq_true_eq, not_not] at hnot
          rw [hfiled, Bool.true_and, if_neg (by simp [hnot])]
          exact (Table.get?_eq_some.1 hnot).1
      · exact hj'.elim (fun h => (mem_toUpdate.1 h).1) fun h => (mem_toStart.1 h).1
    · intro hj
      cases hget : fleet.jobs.get? j.cameraId with
      | none => exact ⟨.new j, .inr ⟨j, .inr (mem_toStart.2 ⟨hj, hget⟩), rfl⟩, rfl, rfl⟩
      | some c =>
        by_cases hspec : c.spec = j.spec
        · obtain ⟨hc, hkey⟩ := Table.get?_eq_some.1 hget
          obtain rfl : c = j := by
            cases c
            cases j
            cases hkey
            cases hspec
            rfl
          obtain ⟨o, ho, hfiled, rfl⟩ := mem_jobs.1 hc
          have hwanted : wanted.get? o.job.cameraId = some o.job := Table.get?_eq_some.2 ⟨hj, rfl⟩
          refine ⟨o, .inl ⟨o, ho, if_neg ?_⟩, hfiled, rfl⟩
          simp [hwanted]
        · exact ⟨.new j, .inr ⟨j, .inl (mem_toUpdate.2 ⟨hj, c, hget, hspec⟩), rfl⟩, rfl, rfl⟩
  have hrow (j : Job) : after.jobs.get? k = some j ↔ wanted.get? k = some j := by
    rw [Table.get?_eq_some, Table.get?_eq_some, hmem]
  exact Option.ext hrow

/-- **The connection**: the dictionary is that of the agents that poll. -/
theorem get?_applySpecs (hw : want specs = some wanted) (hb : ∀ j ∈ wanted, builds j.spec = true)
    (k : Json) : (fleet.applySpecs builds specs).1.jobs.get? k =
      (AeroXProtect.applySpecs builds fleet.jobs specs).1.get? k := by
  obtain ⟨after, happly, hmade⟩ := applySpecs_eq hw hb
  rw [happly, AeroXProtect.applySpecs_get? hw hb]
  exact get?_of_made hmade k

/-- Where what is wanted runs, there is nothing to do. -/
theorem applySpecs_self (hw : want specs = some wanted)
    (hrun : ∀ k, fleet.jobs.get? k = wanted.get? k) :
    fleet.applySpecs builds specs = (fleet, true) := by
  have hstop : (reconcile wanted fleet.jobs).toStop = [] := by
    refine List.eq_nil_iff_forall_not_mem.2 fun k hk => ?_
    obtain ⟨hnone, hsome⟩ := mem_toStop.1 hk
    rw [hrun, hnone] at hsome
    cases hsome
  have hupdate : (reconcile wanted fleet.jobs).toUpdate = [] := by
    refine List.eq_nil_iff_forall_not_mem.2 fun j hj => ?_
    obtain ⟨hmem, c, hc, hne⟩ := mem_toUpdate.1 hj
    rw [hrun, Table.get?_eq_some.2 ⟨hmem, rfl⟩] at hc
    cases hc
    exact hne rfl
  have hstart : (reconcile wanted fleet.jobs).toStart = [] := by
    refine List.eq_nil_iff_forall_not_mem.2 fun j hj => ?_
    obtain ⟨hmem, hnone⟩ := mem_toStart.1 hj
    rw [hrun, Table.get?_eq_some.2 ⟨hmem, rfl⟩] at hnone
    cases hnone
  simp only [applySpecs, hw, hstop, hupdate, hstart, stopAll, updateAll, startAll]

end

end Fleet

/-! ## What an agent runs afterwards -/

/-- What the loops make of the objects of an agent for a list of specs. -/
structure Fleet.Reconciled (before after : Fleet) (specs : List Json) : Prop where
  running : ∀ k, (after.jobs.get? k).map Job.spec = lastListed specs k
  kept : ∀ (i : Nat) (o : Instance), before.made[i]? = some o → o.filed = true →
    lastListed specs o.job.cameraId = some o.job.spec → after.made[i]? = some o
  stopped : ∀ (i : Nat) (o : Instance), before.made[i]? = some o → o.filed = true →
    lastListed specs o.job.cameraId ≠ some o.job.spec →
    after.made[i]? = some { o with filed := false, stops := o.stops + 1 }
  gone : ∀ (i : Nat) (o : Instance), before.made[i]? = some o → o.filed = false →
    after.made[i]? = some o
  new : ∀ (i : Nat) (o : Instance), before.made.length ≤ i → after.made[i]? = some o →
    o.filed = true ∧ o.stops = 0 ∧ ∀ c, before.jobs.get? o.job.cameraId = some c →
      c.spec ≠ o.job.spec

/-- **Reconciliation is exact.** An agent is given well formed specs, whatever it runs: nothing
raises; then it runs the cameras of the list, each with the last spec for it; the objects whose spec
is listed are left alone, and those that are not are stopped once; nothing is made anew for a camera
whose spec is listed already; and the same list again changes nothing. This is the agent of either
kind, by what can be made of a spec. -/
theorem reconcile_exact (builds : Json → Bool) (fleet : Fleet) (specs : List Json)
    (hspecs : ∀ s ∈ specs, WellFormedSpec builds s) :
    ∃ after, fleet.applySpecs builds (.arr specs) = (after, true) ∧
      fleet.Reconciled after specs ∧ after.applySpecs builds (.arr specs) = (after, true) := by
  obtain ⟨wanted, hw, hlisted⟩ := want_eq_some fun s hs => (hspecs s hs).camera
  have hb : ∀ j ∈ wanted, builds j.spec = true := by
    intro j hj
    have hlast := hlisted j.cameraId
    rw [Table.get?_eq_some.2 ⟨hj, rfl⟩, Option.map_some] at hlast
    exact (hspecs _ (List.mem_reverse.1 (List.mem_of_find?_eq_some hlast.symm))).builds
  obtain ⟨after, happly, hmade⟩ := Fleet.applySpecs_eq hw hb
  have hget := Fleet.get?_of_made hmade
  have hsame (o : Instance) : wanted.get? o.job.cameraId = some o.job ↔
      lastListed specs o.job.cameraId = some o.job.spec := by
    rw [← hlisted]
    constructor
    · intro h
      rw [h, Option.map_some]
    · intro h
      obtain ⟨j, hj, hspec⟩ := Option.map_eq_some_iff.1 h
      have hkey := (Table.get?_eq_some.1 hj).2
      rw [hj]
      cases j
      cases ho : o.job
      rw [ho] at hspec hkey
      cases hspec
      cases hkey
      rfl
  have hold {i : Nat} {o : Instance} (ho : fleet.made[i]? = some o) :
      after.made[i]? = some (Fleet.retire wanted o) := by
    have hlt := (List.getElem?_eq_some_iff.1 ho).1
    rw [hmade, List.getElem?_append_left (by rwa [List.length_map]), List.getElem?_map, ho]
    rfl
  refine ⟨after, happly, ⟨fun k => by rw [hget, hlisted], ?_, ?_, ?_, ?_⟩,
    Fleet.applySpecs_self hw hget⟩
  · intro i o ho hfiled hlast
    rw [hold ho, Fleet.retire, (hsame o).2 hlast, if_neg (by simp)]
  · intro i o ho hfiled hlast
    rw [hold ho, Fleet.retire, if_pos (by simp [hfiled, hsame o, hlast])]
    rfl
  · intro i o ho hfiled
    rw [hold ho, Fleet.retire, hfiled, Bool.false_and, if_neg Bool.false_ne_true]
  · intro i o hi ho
    rw [hmade, List.getElem?_append_right (by rwa [List.length_map])] at ho
    obtain ⟨j, hj, rfl⟩ := List.mem_map.1 (List.mem_of_getElem? ho)
    refine ⟨rfl, rfl, fun c hc => ?_⟩
    rcases List.mem_append.1 hj with hj | hj
    · obtain ⟨-, c', hc', hne⟩ := mem_toUpdate.1 hj
      cases hc.symm.trans hc'
      exact hne
    · cases hc.symm.trans (mem_toStart.1 hj).2

namespace FleetFixture

/-- A spec of a camera with an epoch. -/
def spec (camera epoch : Nat) : Json :=
  .obj [("camera_id", .num camera), ("epoch", .num epoch), ("rtsp_url", .str "rtsp://go2rtc/cam")]

/-- Cameras 1, 2 and 3 run. -/
def fleet : Fleet where
  made := [.new ⟨.num 1, spec 1 0⟩, .new ⟨.num 2, spec 2 0⟩, .new ⟨.num 3, spec 3 0⟩]
  nodup := by decide

/-- Camera 1 stays, camera 2 has another epoch, camera 3 is gone and camera 4 is listed twice. -/
def specs : List Json := [spec 4 1, spec 2 1, spec 1 0, spec 4 2]

end FleetFixture

open FleetFixture in
theorem reconcile_exact_fixture :
    (∃ after, fleet.applySpecs CameraPipeline.builds (.arr specs) = (after, true) ∧
      fleet.Reconciled after specs ∧
      after.applySpecs CameraPipeline.builds (.arr specs) = (after, true)) ∧
    ∃ after, fleet.applySpecs EncodeSession.builds (.arr specs) = (after, true) ∧
      fleet.Reconciled after specs ∧
      after.applySpecs EncodeSession.builds (.arr specs) = (after, true) := by
  have hdetector : ∀ s ∈ specs, WellFormedSpec CameraPipeline.builds s := by
    have h : ∀ s ∈ specs, (Job.ofSpec s).isSome = true ∧ CameraPipeline.builds s = true := by
      decide +kernel
    exact fun s hs => ⟨(h s hs).1, (h s hs).2⟩
  exact ⟨reconcile_exact _ fleet specs hdetector,
    reconcile_exact _ fleet specs fun s hs => ⟨(hdetector s hs).camera, rfl⟩⟩

end AeroXProtect
