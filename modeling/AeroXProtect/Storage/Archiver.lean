import AeroXProtect.External.Api
import AeroXProtect.Lib.Text
import AeroXProtect.Playback.Timeline
import AeroXProtect.Storage.Files

/-!
# Archiving a recording

`ArchiveWorld.run` uploads the segments of a recording to a target, one by one, and writes a
manifest onto the job. It passes over a segment whose disk is gone or whose file is missing, and
asks for the segments of an open recording as if it ended where it starts. `archive_complete_iff`
says when a job that is done has archived every segment of the recording and a job that is not has
failed with a reason. The tables, the files and the answers of the target stand still while the job
runs. The percentage of progress is left out.
-/

open Lib

namespace AeroXProtect

/-! ## Jobs -/

/-- Source: `server/model/archive_job.py:11`. -/
inductive ArchiveStatus
  | queued | running | done | failed
  deriving DecidableEq, Repr

/-- An entry of a manifest. -/
structure ManifestItem where
  segmentId : Nat
  remote : String
  bytes : Nat
  startTs : Int
  deriving DecidableEq, Repr

structure Manifest where
  recordingId : Nat
  count : Nat
  items : List ManifestItem
  deriving DecidableEq, Repr

/-- A row of `archive_jobs`. -/
structure ArchiveJob where
  id : Nat
  targetId : Nat
  sourceRef : String
  status : ArchiveStatus
  bytesTotal : Nat
  bytesDone : Nat
  manifest : Option Manifest
  errorMessage : Option String
  deletedAt : Option Int
  deriving DecidableEq, Repr

abbrev ArchiveJobs := Table ArchiveJob.id

/-- Source: `ArchiveJob.get_by_id` (`server/model/archive_job.py:34`). -/
def ArchiveJobs.getById (t : ArchiveJobs) (id : Nat) : Option ArchiveJob :=
  t.rows.find? fun j => j.id == id && j.deletedAt.isNone

/-- `job.update(status=STATUS_FAILED, error_message=...)`. -/
def ArchiveJob.fail (job : ArchiveJob) (text : String) : ArchiveJob :=
  { job with status := .failed, errorMessage := some text }

/-- The job has failed and says why. -/
def ArchiveJob.HasFailed (job : ArchiveJob) : Prop :=
  job.status = .failed ∧ ∃ text ∈ job.errorMessage, text ≠ ""

/-- The columns of `archive_targets` that the run checks. -/
structure ArchiveTarget where
  id : Nat
  enabled : Bool
  deletedAt : Option Int
  deriving DecidableEq, Repr

abbrev ArchiveTargets := Table ArchiveTarget.id

/-- Source: `ArchiveTarget.get_by_id` (`server/model/archive_target.py:30`). -/
def ArchiveTargets.getById (t : ArchiveTargets) (id : Nat) : Option ArchiveTarget :=
  t.rows.find? fun x => x.id == id && x.deletedAt.isNone

/-- Source: `Disk.get_by_id` (`server/model/disk.py:46`). -/
def Disks.getById (t : Disks) (id : Nat) : Option Disk :=
  t.rows.find? fun d => d.id == id && d.deletedAt.isNone

/-! ## The run -/

/-- What a run reads: the tables, the files that exist, the column `container` of the segments and
what the driver answers to an upload, a number of bytes or the text of what it raises. -/
structure ArchiveWorld where
  targets : ArchiveTargets
  recordings : Recordings
  segments : Segments
  disks : Disks
  fileExists : FileKey → Bool
  container : Nat → String
  upload : ArchiveTarget → FileKey → String → Except String Nat

/-- The variables of the loop, with the row of the job. -/
structure ArchiveLoop where
  job : ArchiveJob
  manifest : List ManifestItem
  bytesDone : Nat
  deriving DecidableEq, Repr

/-- Where the `i`-th segment of a recording goes: `'%s/seg_%05d.%s'`. -/
def remoteName (recording : Recording) (i : Nat) (container : String) : String :=
  let ext := if container = "mpegts" then "ts" else "mp4"
  let number := String.ofList (List.leftpad 5 '0' (Nat.toDigits 10 i))
  "recording_" ++ toString recording.id ++ "/seg_" ++ number ++ "." ++ ext

namespace ArchiveWorld

/-- The file of a segment, if its disk is registered and the file exists. -/
def source (w : ArchiveWorld) (seg : Segment) : Option FileKey :=
  match w.disks.getById seg.diskId with
  | none => none
  | some disk =>
    if w.fileExists (disk.id, seg.relPath) then some (disk.id, seg.relPath) else none

/-- The loop over the numbered segments, and the text of what it raises. -/
def offload (w : ArchiveWorld) (target : ArchiveTarget) (recording : Recording) :
    List (Segment × Nat) → ArchiveLoop → ArchiveLoop × Option String
  | [], x => (x, none)
  | (seg, i) :: rest, x =>
    match w.source seg with
    | none => w.offload target recording rest x
    | some src =>
      let remote := remoteName recording i (w.container seg.id)
      match w.upload target src remote with
      | .error text => (x, some text)
      | .ok n =>
        let bytesDone := x.bytesDone + n
        w.offload target recording rest
          { job := { x.job with bytesDone }
            manifest := x.manifest ++ [⟨seg.id, remote, n, toEpochMs seg.startTs⟩]
            bytesDone }

/-- The segments that a run asks for. -/
def asked (w : ArchiveWorld) (recording : Recording) : List Segment :=
  w.segments.getRange recording.cameraId recording.startTs
    (recording.endTs.getD recording.startTs) (some .main)

/-- The recording with an id; it may have been deleted. -/
def recording? (w : ArchiveWorld) (id : Int) : Option Recording :=
  w.recordings.rows.find? fun r => decide ((r.id : Int) = id)

/-- A target that can be used. -/
def usableTarget (w : ArchiveWorld) (targetId : Nat) : Option ArchiveTarget :=
  (w.targets.getById targetId).filter fun target => target.enabled && target.deletedAt.isNone

/-- The row of a job after its run. -/
def runRow (w : ArchiveWorld) (job : ArchiveJob) : ArchiveJob :=
  match w.usableTarget job.targetId with
  | none => job.fail "target_unavailable"
  | some target =>
    match parseInt job.sourceRef.toList with
    -- `int` raises before anything is written
    | none => job
    | some n =>
      match w.recording? n with
      | none => job.fail "recording_not_found"
      | some recording =>
        if (w.asked recording).isEmpty then job.fail "no_segments"
        else
          match w.offload target recording (w.asked recording).zipIdx
            ⟨{ job with status := .running }, [], 0⟩ with
          | (x, none) =>
            { x.job with
              status := .done
              bytesTotal := x.bytesDone
              manifest := some ⟨recording.id, x.manifest.length, x.manifest⟩ }
          | (x, some text) => x.job.fail (String.ofList (text.toList.take 1000))

/-- The loop writes nothing but the number of bytes into the row. -/
theorem exists_job_offload (w : ArchiveWorld) (target : ArchiveTarget) (recording : Recording)
    (l : List (Segment × Nat)) (x : ArchiveLoop) :
    ∃ n, (w.offload target recording l x).1.job = { x.job with bytesDone := n } := by
  induction l generalizing x with
  | nil => exact ⟨_, rfl⟩
  | cons p l ih =>
    obtain ⟨seg, i⟩ := p
    rw [offload]
    cases w.source seg with
    | none => exact ih x
    | some src =>
      simp only
      cases w.upload target src (remoteName recording i (w.container seg.id)) with
      | error text => exact ⟨_, rfl⟩
      | ok n => exact ih _

/-- A run keeps the id of its job and does not delete it. -/
theorem runRow_keeps (w : ArchiveWorld) (job : ArchiveJob) :
    (w.runRow job).id = job.id ∧ (w.runRow job).deletedAt = job.deletedAt := by
  unfold runRow
  split
  · exact ⟨rfl, rfl⟩
  next target _ =>
    split
    · exact ⟨rfl, rfl⟩
    split
    · exact ⟨rfl, rfl⟩
    next recording _ =>
      split
      · exact ⟨rfl, rfl⟩
      obtain ⟨n, hjob⟩ := w.exists_job_offload target recording (w.asked recording).zipIdx
        ⟨{ job with status := .running }, [], 0⟩
      split
      next x hx =>
        rw [hx] at hjob
        dsimp only at hjob ⊢
        rw [hjob]
        exact ⟨rfl, rfl⟩
      next x text hx =>
        rw [hx] at hjob
        dsimp only [ArchiveJob.fail] at hjob ⊢
        rw [hjob]
        exact ⟨rfl, rfl⟩

/-- Source: `run` (`server/service/archiver.py:19`). -/
def run (w : ArchiveWorld) (jobs : ArchiveJobs) (jobId : Nat) : ArchiveJobs :=
  match jobs.getById jobId with
  | none => jobs
  | some job => jobs.modify (fun j => decide (j.id = job.id)) w.runRow fun j => (w.runRow_keeps j).1

theorem getById_run (w : ArchiveWorld) (jobs : ArchiveJobs) (jobId : Nat) :
    (w.run jobs jobId).getById jobId = (jobs.getById jobId).map w.runRow := by
  unfold run
  cases hjob : jobs.getById jobId with
  | none => exact hjob
  | some job =>
    have hlive : ∀ j, ((w.runRow j).id == jobId && (w.runRow j).deletedAt.isNone) =
        (j.id == jobId && j.deletedAt.isNone) := by
      intro j
      obtain ⟨hid, hdel⟩ := w.runRow_keeps j
      rw [hid, hdel]
    refine (Table.find?_modify hlive).trans ?_
    change (jobs.getById jobId).map _ = _
    rw [hjob, Option.map_some, if_pos (decide_eq_true rfl)]
    rfl

/-! ## Completeness -/

/-- The recording that a job names. -/
def recordingOf (w : ArchiveWorld) (job : ArchiveJob) : Option Recording :=
  (parseInt job.sourceRef.toList).bind w.recording?

/-- The segments that overlap a recording, up to `now` for one in progress. -/
def overlapping (w : ArchiveWorld) (now : Int) (recording : Recording) : List Segment :=
  w.segments.getRange recording.cameraId recording.startTs (recording.endTs.getD now) (some .main)

/-- The job is done and its manifest has one entry for every segment that overlaps the recording. -/
def HasArchived (w : ArchiveWorld) (now : Int) (job : ArchiveJob) : Prop :=
  job.status = .done ∧ ∃ recording ∈ w.recordingOf job, ∃ manifest ∈ job.manifest,
    (manifest.items.map ManifestItem.segmentId).Perm
      ((w.overlapping now recording).map Segment.id)

/-- The text of what the upload of a segment raises, if it is made and fails. -/
def refusal (w : ArchiveWorld) (target : ArchiveTarget) (recording : Recording)
    (p : Segment × Nat) : Option String :=
  match w.source p.1 with
  | none => none
  | some src =>
    match w.upload target src (remoteName recording p.2 (w.container p.1.id)) with
    | .error text => some text
    | .ok _ => none

/-- The text of what the first upload that fails raises. -/
def firstRefusal (w : ArchiveWorld) (target : ArchiveTarget) (recording : Recording) :
    Option String :=
  (w.asked recording).zipIdx.findSome? (w.refusal target recording)

/-- Every segment that overlaps a recording is there; and of the segments that are there and end
after the start of an open recording, those that overlap it are those that start before it. -/
def Covered (w : ArchiveWorld) (now : Int) (recording : Recording) : Prop :=
  (∀ seg ∈ w.overlapping now recording, w.source seg ≠ none) ∧
    (recording.endTs = none → ∀ seg ∈ w.segments, seg.Recorded recording.cameraId →
      w.source seg ≠ none → recording.startTs < seg.endTs →
      (seg.startTs < now ↔ seg.startTs < recording.startTs))

/-- The condition under which a run ends as it should. -/
def Archivable (w : ArchiveWorld) (now : Int) (job : ArchiveJob) : Prop :=
  ∀ target ∈ w.usableTarget job.targetId,
    match parseInt job.sourceRef.toList with
    | none => job.HasFailed
    | some n => ∀ recording ∈ w.recording? n, w.asked recording ≠ [] →
      match w.firstRefusal target recording with
      | some text => text ≠ ""
      | none => w.Covered now recording

section
variable {w : ArchiveWorld} {now : Int} {target : ArchiveTarget} {recording : Recording}

/-- What the loop comes to: it stops at the first upload that fails, and otherwise the manifest has
an entry for every segment with a file. -/
theorem offload_spec (target : ArchiveTarget) (recording : Recording) (l : List (Segment × Nat))
    (x : ArchiveLoop) :
    (w.offload target recording l x).2 = l.findSome? (w.refusal target recording) ∧
    ((w.offload target recording l x).2 = none →
      (w.offload target recording l x).1.manifest.map ManifestItem.segmentId =
        x.manifest.map ManifestItem.segmentId ++
          ((l.map Prod.fst).filter fun seg => (w.source seg).isSome).map Segment.id) := by
  induction l generalizing x with
  | nil => exact ⟨rfl, fun _ => (List.append_nil _).symm⟩
  | cons p l ih =>
    obtain ⟨seg, i⟩ := p
    rw [offload, List.findSome?_cons, List.map_cons, refusal]
    cases hsrc : w.source seg with
    | none => simpa [hsrc] using ih x
    | some src =>
      cases hup : w.upload target src (remoteName recording i (w.container seg.id)) with
      | error text => simp [hup]
      | ok n =>
        simp only [hup]
        refine ⟨(ih _).1, fun hnone => ((ih _).2 hnone).trans ?_⟩
        simp [hsrc]

/-- The segments that overlap a closed recording are asked for. -/
theorem mem_asked {seg : Segment} : seg ∈ w.asked recording ↔ seg ∈ w.segments ∧
    seg.Recorded recording.cameraId ∧ seg.startTs < recording.endTs.getD recording.startTs ∧
    recording.startTs < seg.endTs := Segments.mem_getRange_main

theorem mem_overlapping {seg : Segment} : seg ∈ w.overlapping now recording ↔ seg ∈ w.segments ∧
    seg.Recorded recording.cameraId ∧ seg.startTs < recording.endTs.getD now ∧
    recording.startTs < seg.endTs := Segments.mem_getRange_main

/-- A recording is covered when the segments that are asked for and there are those that overlap it.
-/
theorem covered_iff : w.Covered now recording ↔ ∀ seg,
    seg ∈ (w.asked recording).filter (fun seg => (w.source seg).isSome) ↔
      seg ∈ w.overlapping now recording := by
  unfold Covered
  simp only [List.mem_filter, mem_asked, mem_overlapping, Option.isSome_iff_ne_none]
  cases recording.endTs with
  | some e =>
    constructor
    · rintro ⟨hall, -⟩ seg
      exact ⟨fun h => h.1, fun h => ⟨h, hall seg h⟩⟩
    · intro h
      exact ⟨fun seg hseg => ((h seg).2 hseg).2, fun hopen => nomatch hopen⟩
  | none =>
    simp only [Option.getD_none, true_imp_iff]
    constructor
    · rintro ⟨hall, hstart⟩ seg
      constructor
      · rintro ⟨⟨hseg, hrec, hbefore, hafter⟩, hsource⟩
        exact ⟨hseg, hrec, (hstart seg hseg hrec hsource hafter).2 hbefore, hafter⟩
      · rintro ⟨hseg, hrec, hnow, hafter⟩
        have hsource := hall seg ⟨hseg, hrec, hnow, hafter⟩
        exact ⟨⟨hseg, hrec, (hstart seg hseg hrec hsource hafter).1 hnow, hafter⟩, hsource⟩
    · intro h
      refine ⟨fun seg hseg => ((h seg).2 hseg).2, fun seg hseg hrec hsource hafter => ?_⟩
      constructor
      · intro hnow
        exact ((h seg).2 ⟨hseg, hrec, hnow, hafter⟩).1.2.2.1
      · intro hbefore
        exact ((h seg).1 ⟨⟨hseg, hrec, hbefore, hafter⟩, hsource⟩).2.2.1

/-- A manifest of the segments that are asked for and there has one entry for every segment if the
recording is covered. -/
theorem perm_iff_covered :
    (((w.asked recording).filter fun seg => (w.source seg).isSome).map Segment.id).Perm
      ((w.overlapping now recording).map Segment.id) ↔ w.Covered now recording := by
  rw [covered_iff]
  have hasked : ∀ seg ∈ (w.asked recording).filter (fun seg => (w.source seg).isSome),
      seg ∈ w.segments := fun seg hseg => (mem_asked.1 (List.mem_of_mem_filter hseg)).1
  have hoverlap : ∀ seg ∈ w.overlapping now recording, seg ∈ w.segments :=
    fun seg hseg => (mem_overlapping.1 hseg).1
  exact Table.perm_map_key_iff hasked hoverlap
    ((List.filter_sublist.map _).nodup (Segments.nodup_getRange ..)) (Segments.nodup_getRange ..)

/-- A failure with a reason is one. -/
theorem failed_iff {job : ArchiveJob} {text : String} :
    w.HasArchived now (job.fail text) ∨ (job.fail text).HasFailed ↔ text ≠ "" := by
  constructor
  · rintro (⟨hdone, -⟩ | ⟨-, t, ht, hne⟩)
    · cases hdone
    · cases ht
      exact hne
  · exact fun h => .inr ⟨rfl, text, rfl, h⟩

theorem truncate_ne_empty {text : String} :
    String.ofList (text.toList.take 1000) ≠ "" ↔ text ≠ "" := by
  refine not_congr ?_
  rw [← String.toList_inj, String.toList_ofList, ← @String.toList_inj text]
  simp

/-- The row of a job whose segments are uploaded. -/
theorem runRow_iff_of_asked {job : ArchiveJob} (htarget : w.usableTarget job.targetId = some target)
    {n : Int} (hn : parseInt job.sourceRef.toList = some n) (hrec : w.recording? n = some recording)
    (hasked : w.asked recording ≠ []) :
    w.HasArchived now (w.runRow job) ∨ (w.runRow job).HasFailed ↔
      match w.firstRefusal target recording with
      | some text => text ≠ ""
      | none => w.Covered now recording := by
  obtain ⟨m, hjob⟩ := w.exists_job_offload target recording (w.asked recording).zipIdx
    ⟨{ job with status := .running }, [], 0⟩
  have hspec := w.offload_spec target recording (w.asked recording).zipIdx
    ⟨{ job with status := .running }, [], 0⟩
  rw [← firstRefusal, List.zipIdx_map_fst] at hspec
  unfold runRow
  simp only [htarget, hn, hrec]
  rw [if_neg (by simpa using hasked)]
  cases hloop : w.offload target recording (w.asked recording).zipIdx
      ⟨{ job with status := .running }, [], 0⟩ with
  | mk x raised =>
    rw [hloop] at hspec hjob
    obtain ⟨hstop, hitems⟩ := hspec
    rw [← hstop]
    cases raised with
    | some text => exact failed_iff.trans truncate_ne_empty
    | none =>
      have hof : w.recordingOf x.job = some recording := by
        rw [recordingOf, hjob, hn]
        exact hrec
      rw [← perm_iff_covered, ← (hitems rfl).trans (List.nil_append _)]
      constructor
      · rintro (⟨-, r, hr, manifest, hmanifest, hperm⟩ | ⟨hfailed, -⟩)
        · cases hof.symm.trans hr
          cases hmanifest
          exact hperm
        · cases hfailed
      · exact fun hperm => .inl ⟨rfl, recording, hof, _, rfl, hperm⟩

/-- A job is not done with a manifest of another length. -/
theorem not_archived_of_length (recording : Recording) {job : ArchiveJob} {manifest : Manifest}
    (hdone : job.status = .done) (hmanifest : job.manifest = some manifest)
    (hrec : w.recordingOf job = some recording)
    (hlength : manifest.items.length ≠ (w.overlapping now recording).length) :
    ¬ (w.HasArchived now job ∨ job.HasFailed) := by
  rintro (⟨-, r, hr, m, hm, hperm⟩ | ⟨hfailed, -⟩)
  · cases hrec.symm.trans hr
    cases hmanifest.symm.trans hm
    have heq := hperm.length_eq
    rw [List.length_map, List.length_map] at heq
    exact hlength heq
  · cases hdone.symm.trans hfailed

/-- **A run** ends as it should exactly under the condition. -/
theorem runRow_iff (job : ArchiveJob) :
    w.HasArchived now (w.runRow job) ∨ (w.runRow job).HasFailed ↔ w.Archivable now job := by
  unfold Archivable
  cases htarget : w.usableTarget job.targetId with
  | none =>
    have hrow : w.runRow job = job.fail "target_unavailable" := by
      unfold runRow
      rw [htarget]
    rw [hrow, failed_iff]
    simp
  | some target =>
    cases hn : parseInt job.sourceRef.toList with
    | none =>
      have hrow : w.runRow job = job := by
        unfold runRow
        simp only [htarget, hn]
      have hnot : ¬ w.HasArchived now job := by
        rintro ⟨-, recording, hrec, -⟩
        rw [recordingOf, hn] at hrec
        cases hrec
      rw [hrow, or_iff_right hnot]
      simp
    | some n =>
      cases hrec : w.recording? n with
      | none =>
        have hrow : w.runRow job = job.fail "recording_not_found" := by
          unfold runRow
          simp only [htarget, hn, hrec]
        rw [hrow, failed_iff]
        simp [hrec]
      | some recording =>
        by_cases hasked : w.asked recording = []
        · have hrow : w.runRow job = job.fail "no_segments" := by
            unfold runRow
            simp [htarget, hn, hrec, hasked]
          rw [hrow, failed_iff]
          simp [hrec, hasked]
        · rw [runRow_iff_of_asked htarget hn hrec hasked]
          simp [hrec, hasked]

end

end ArchiveWorld

/-- **When an archive is complete.** For every world and every job, the row after a run is done with
an entry for each segment that overlaps the recording, or failed with a reason, exactly if, when the
target can be used and the recording has segments in the range that is asked for, the first upload
that fails has a text, or none fails and the recording is covered; a job that names no number must
have failed before. -/
theorem archive_complete_iff (w : ArchiveWorld) (now : Int) (jobs : ArchiveJobs) (jobId : Nat) :
    (∀ job ∈ (w.run jobs jobId).getById jobId, w.HasArchived now job ∨ job.HasFailed) ↔
      ∀ job ∈ jobs.getById jobId, w.Archivable now job := by
  rw [w.getById_run]
  simp [w.runRow_iff]

namespace ArchiverFixture

def segment (i : Nat) : Segment :=
  ⟨i, 1, 1, toString i ++ ".mp4", 10 * i, 10 * i + 10, 8, .main, false⟩

/-- A recording of two segments, which starts within the first one. -/
def recording (endTs : Option Int) : Recording :=
  ⟨5, 1, .manual, .classDefault, 15, endTs, none, none⟩

def world (endTs : Option Int) (fileExists : FileKey → Bool) : ArchiveWorld where
  targets := ⟨[⟨1, true, none⟩], by decide⟩
  recordings := ⟨[recording endTs], List.nodup_singleton _⟩
  segments := ⟨[segment 1, segment 2], by decide⟩
  disks := ⟨[⟨1, "disk", .record, true, 0, 1000, 500, 100, .online, none, none⟩], by decide⟩
  fileExists
  container _ := "mp4"
  upload _ _ _ := .ok 8

def job : ArchiveJob := ⟨7, 1, "5", .queued, 0, 0, none, none, none⟩

def jobs : ArchiveJobs := ⟨[job], by decide⟩

/-- The manifest of the first segment alone. -/
def manifest : Manifest := ⟨5, 1, [⟨1, "recording_5/seg_00000.mp4", 8, 0⟩]⟩

end ArchiverFixture

open ArchiverFixture in
/-- The file of the second segment is missing; and a recording in progress, of which the first
segment alone is asked for. Both jobs are done. -/
theorem not_archive_complete :
    (¬ ∀ (w : ArchiveWorld) (now : Int) (jobs : ArchiveJobs) (jobId : Nat),
      (∀ r ∈ w.recordings, r.endTs ≠ none) →
      ∀ job ∈ (w.run jobs jobId).getById jobId, w.HasArchived now job ∨ job.HasFailed) ∧
    ¬ ∀ (w : ArchiveWorld) (now : Int) (jobs : ArchiveJobs) (jobId : Nat),
      (∀ seg ∈ w.segments, w.source seg ≠ none) →
      ∀ job ∈ (w.run jobs jobId).getById jobId, w.HasArchived now job ∨ job.HasFailed := by
  constructor
  · intro h
    have hrun : ((world (some 30) fun k => decide (k = (1, "1.mp4"))).run jobs 7).getById 7 =
        some { job with status := .done, bytesTotal := 8, bytesDone := 8,
                        manifest := some manifest } := by
      decide +kernel
    exact ArchiveWorld.not_archived_of_length (recording (some 30)) rfl rfl (by decide +kernel)
      (by decide +kernel) (h _ 30 _ 7 (by decide) _ hrun)
  · intro h
    have hrun : ((world none fun _ => true).run jobs 7).getById 7 =
        some { job with status := .done, bytesTotal := 8, bytesDone := 8,
                        manifest := some manifest } := by
      decide +kernel
    exact ArchiveWorld.not_archived_of_length (recording none) rfl rfl (by decide +kernel)
      (by decide +kernel) (h _ 30 _ 7 (by decide) _ hrun)

end AeroXProtect
