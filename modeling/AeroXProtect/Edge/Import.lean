import AeroXProtect.Edge.Gaps
import AeroXProtect.Storage.Files

/-!
# Import from the camera's card

`runImport` looks for the gaps of a job's range, asks the camera for the clips on its card,
downloads the clips that overlap a gap and enters them as segments. Before a download it looks for
the file name among the rows of the camera, and the name is made of the start of the clip alone: a
clip whose start is taken, by a row of the table or by an earlier clip of the answer, is passed
over, even where it reaches further. `Imported` are the clips that are not passed over.
`import_fills_iff` says that an import fills what the clips cover of its gaps exactly if those clips
do. Whether it does or not, the same import has nothing left to do.
-/

open Lib Lib.Interval

namespace AeroXProtect

/-- A clip on a camera's card; the search drops what does not end after it starts. Source:
`EdgeClip` (`server/driver/edge.py:24`). -/
structure EdgeClip where
  startTs : Int
  endTs : Int
  uri : String
  lt : startTs < endTs
  deriving DecidableEq, Repr

namespace EdgeClip

/-- Source: `EdgeClip.overlaps` (`server/driver/edge.py:30`). -/
def overlaps (c : EdgeClip) (start stop : Int) : Bool :=
  decide (c.startTs < stop) && decide (c.endTs > start)

def span (c : EdgeClip) : Int × Int := (c.startTs, c.endTs)

/-- The name of the file that a clip is downloaded to. -/
def filename (c : EdgeClip) : String := "edge-" ++ toString (c.startTs / 1000) ++ ".mp4"

/-- The path of that file. -/
def relPath (c : EdgeClip) (cameraId : Nat) : String := relPathOf cameraId "edge" c.filename

/-- The row of a downloaded clip. -/
def row (c : EdgeClip) (segments : Segments) (cameraId diskId size : Nat) : Segment where
  id := segments.freshKey
  cameraId := cameraId
  diskId := diskId
  relPath := c.relPath cameraId
  startTs := c.startTs
  endTs := c.endTs
  sizeBytes := size
  streamRole := .main
  corrupt := false

end EdgeClip

/-- The clips in the order in which the driver answers them. Source: `search_clips`
(`server/driver/edge.py:35`). -/
def searchClips (clips : List EdgeClip) : List EdgeClip := orderBy EdgeClip.startTs clips

inductive ImportStatus
  | queued | running | done | failed
  deriving DecidableEq, Repr

/-- An entry of a job's manifest. -/
structure ManifestEntry where
  startTs : Int
  endTs : Int
  sizeBytes : Nat
  relPath : String
  deriving DecidableEq, Repr

/-- A row of `edge_import_jobs`. -/
structure EdgeImportJob where
  id : Nat
  cameraId : Nat
  rangeStart : Int
  rangeEnd : Int
  status : ImportStatus
  progress : Nat
  clipsFound : Nat
  clipsImported : Nat
  bytesDone : Nat
  manifest : Option (List ManifestEntry)
  errorMessage : Option String
  deletedAt : Option Int
  deriving DecidableEq, Repr

abbrev EdgeImportJobs := Table EdgeImportJob.id

/-- The tables that an import reads and writes. -/
structure EdgeWorld where
  cameras : Cameras
  segments : Segments
  recordings : Recordings
  jobs : EdgeImportJobs

/-- What the world answers during an import: the clips on the card or the failure of the search, the
disk that is picked, and the size of a download, which may fail. -/
structure ImportEnv where
  search : Except String (List EdgeClip)
  disk : Option Nat
  download : EdgeClip → Option Nat

/-- The variables of the loop over the clips. `downloads` lists the calls of the driver. -/
structure ImportLoop where
  segments : Segments
  imported : Nat
  bytesDone : Nat
  manifest : List ManifestEntry
  progress : Nat
  downloads : List EdgeClip

/-- One clip of the loop. -/
def ImportLoop.step (env : ImportEnv) (cameraId diskId total : Nat) (x : ImportLoop)
    (item : EdgeClip × Nat) : ImportLoop :=
  let (clip, idx) := item
  if x.segments.existsRelPath cameraId (clip.relPath cameraId) then x
  else
    match env.download clip with
    | none => { x with downloads := x.downloads ++ [clip] }
    | some size =>
      { segments := x.segments.insert (clip.row x.segments cameraId diskId size)
        imported := x.imported + 1
        bytesDone := x.bytesDone + size
        manifest := x.manifest ++
          [⟨clip.startTs / 1000, clip.endTs / 1000, size, clip.relPath cameraId⟩]
        progress := idx * 100 / total
        downloads := x.downloads ++ [clip] }

/-- The clips that overlap a gap. -/
def toImport (gaps : List (Int × Int)) (clips : List EdgeClip) : List EdgeClip :=
  clips.filter fun c => gaps.any fun x => c.overlaps x.1 x.2

/-- The loop over the clips that overlap a gap. -/
def importClips (env : ImportEnv) (cameraId diskId : Nat) (segments : Segments)
    (clips : List EdgeClip) : ImportLoop :=
  clips.zipIdx.foldl (ImportLoop.step env cameraId diskId clips.length) ⟨segments, 0, 0, [], 0, []⟩

namespace EdgeWorld

/-- `job.update(…)` -/
def updateJob (w : EdgeWorld) (jobId : Nat) (f : EdgeImportJob → EdgeImportJob)
    (hf : ∀ j, (f j).id = j.id := by intro; rfl) : EdgeWorld :=
  { w with jobs := w.jobs.modify (fun j => decide (j.id = jobId)) f hf }

/-- The recording that spans an import. -/
def recordImport (w : EdgeWorld) (cameraId imported : Nat) (clips : List EdgeClip) : Recordings :=
  match clips with
  | [] => w.recordings
  | c :: rest =>
    if imported = 0 then w.recordings
    else
      w.recordings.create cameraId .edge .classDefault
        (rest.foldl (fun m c => min m c.startTs) c.startTs)
        (some (rest.foldl (fun m c => max m c.endTs) c.endTs)) (some "edge import")

/-- One import, with the clips that it downloads. Source: `run_import`
(`server/service/edge_recording.py:89`). -/
def runImport (w : EdgeWorld) (env : ImportEnv) (jobId : Nat) : EdgeWorld × List EdgeClip :=
  match w.jobs.rows.find? fun j => j.id == jobId && j.deletedAt.isNone with
  | none => (w, [])
  | some job =>
    match w.cameras.rows.find? fun c => c.id == job.cameraId && c.deletedAt.isNone with
    | none => (w.updateJob jobId fun j =>
        { j with status := .failed, errorMessage := some "camera_not_found" }, [])
    | some camera =>
      let w := w.updateJob jobId fun j => { j with status := .running, progress := 0 }
      let gaps := computeGaps w.segments camera.id job.rangeStart job.rangeEnd minGapSeconds
      if gaps.isEmpty then
        (w.updateJob jobId fun j =>
          { j with status := .done, progress := 100, clipsFound := 0, clipsImported := 0,
                   manifest := some [], errorMessage := none }, [])
      else
        match env.search with
        | .error e => (w.updateJob jobId fun j =>
            { j with status := .failed, errorMessage := some ("search_failed: " ++ e) }, [])
        | .ok found =>
          let clips := searchClips found
          let selected := toImport gaps clips
          let w := w.updateJob jobId fun j => { j with clipsFound := clips.length }
          if selected.isEmpty then
            (w.updateJob jobId fun j =>
              { j with status := .done, progress := 100, clipsImported := 0, manifest := some [] },
              [])
          else
            match env.disk with
            | none => (w.updateJob jobId fun j =>
                { j with status := .failed, errorMessage := some "no_writable_disk" }, [])
            | some diskId =>
              let x := importClips env camera.id diskId w.segments selected
              let w := { w with
                segments := x.segments
                recordings := w.recordImport camera.id x.imported selected }
              (w.updateJob jobId fun j =>
                { j with status := .done, progress := 100, clipsImported := x.imported,
                         bytesDone := x.bytesDone, manifest := some x.manifest,
                         errorMessage := none }, x.downloads)

end EdgeWorld

/-! ## What the loop imports -/

/-- The clip is the first of its name, and no row of the camera has the name. -/
def Imported (t : Segments) (cameraId : Nat) (clips : List EdgeClip) (c : EdgeClip) : Prop :=
  ∃ before after, clips = before ++ c :: after ∧
    t.existsRelPath cameraId (c.relPath cameraId) = false ∧
    ∀ c' ∈ before, c'.relPath cameraId ≠ c.relPath cameraId

/-- What a loop over clips makes of the segments when every download succeeds. -/
structure ImportsClips (t : Segments) (cameraId : Nat) (clips : List EdgeClip) (t' : Segments) :
    Prop where
  keeps : ∀ g ∈ t, g ∈ t'
  adds : ∀ g ∈ t', g ∈ t ∨ ∃ c, Imported t cameraId clips c ∧ g.Recorded cameraId ∧ g.span = c.span
  imports : ∀ c, Imported t cameraId clips c → ∃ g ∈ t', g.Recorded cameraId ∧ g.span = c.span
  named : ∀ c ∈ clips, t'.existsRelPath cameraId (c.relPath cameraId) = true

section
variable {t t' : Segments} {cameraId diskId size : Nat} {c c' : EdgeClip} {clips : List EdgeClip}
  {env : ImportEnv} {path : String}

theorem existsRelPath_iff : t.existsRelPath cameraId path = true ↔
    ∃ g ∈ t, g.cameraId = cameraId ∧ g.relPath = path := by
  simp [Segments.existsRelPath]

theorem existsRelPath_mono (hkeeps : ∀ g ∈ t, g ∈ t') (h : t.existsRelPath cameraId path = true) :
    t'.existsRelPath cameraId path = true := by
  obtain ⟨g, hg, heq⟩ := existsRelPath_iff.1 h
  exact existsRelPath_iff.2 ⟨g, hkeeps g hg, heq⟩

theorem mem_insert_row {g : Segment} : g ∈ t.insert (c.row t cameraId diskId size) ↔
    g ∈ t ∨ g = c.row t cameraId diskId size :=
  Table.mem_insert t.ne_freshKey

theorem existsRelPath_insert :
    Segments.existsRelPath (t.insert (c.row t cameraId diskId size)) cameraId path = true ↔
      t.existsRelPath cameraId path = true ∨ c.relPath cameraId = path := by
  simp only [existsRelPath_iff, mem_insert_row]
  constructor
  · rintro ⟨g, hg | rfl, hcam, heq⟩
    · exact .inl ⟨g, hg, hcam, heq⟩
    · exact .inr heq
  · rintro (⟨g, hg, heq⟩ | heq)
    · exact ⟨g, .inl hg, heq⟩
    · exact ⟨_, .inr rfl, rfl, heq⟩

theorem not_imported_nil : ¬ Imported t cameraId [] c := by
  rintro ⟨before, after, heq, -⟩
  simp at heq

/-- A clip whose name is taken is passed over. -/
theorem imported_cons_of_taken (h : t.existsRelPath cameraId (c.relPath cameraId) = true) :
    Imported t cameraId (c :: clips) c' ↔ Imported t cameraId clips c' := by
  constructor
  · rintro ⟨before, after, heq, hfree, hfirst⟩
    cases before with
    | nil =>
      obtain ⟨rfl, -⟩ := List.cons.inj heq
      rw [h] at hfree
      cases hfree
    | cons _ before =>
      exact ⟨before, after, (List.cons.inj heq).2, hfree, fun d hd => hfirst d (.tail _ hd)⟩
  · rintro ⟨before, after, rfl, hfree, hfirst⟩
    refine ⟨c :: before, after, rfl, hfree, fun d hd => ?_⟩
    rcases List.mem_cons.1 hd with rfl | hd
    · intro heq
      rw [heq, hfree] at h
      cases h
    · exact hfirst d hd

/-- A clip whose name is free is imported, and the name is taken from then on. -/
theorem imported_cons_of_free (h : t.existsRelPath cameraId (c.relPath cameraId) = false) :
    Imported t cameraId (c :: clips) c' ↔
      c' = c ∨ Imported (t.insert (c.row t cameraId diskId size)) cameraId clips c' := by
  have hfree : Segments.existsRelPath (t.insert (c.row t cameraId diskId size)) cameraId
      (c'.relPath cameraId) = false ↔ t.existsRelPath cameraId (c'.relPath cameraId) = false ∧
        c.relPath cameraId ≠ c'.relPath cameraId := by
    rw [← Bool.not_eq_true, existsRelPath_insert, not_or, Bool.not_eq_true]
  constructor
  · rintro ⟨before, after, heq, hno, hfirst⟩
    cases before with
    | nil => exact .inl (List.cons.inj heq).1.symm
    | cons d before =>
      obtain ⟨rfl, hrest⟩ := List.cons.inj heq
      exact .inr ⟨before, after, hrest, hfree.2 ⟨hno, hfirst _ (.head _)⟩,
        fun d hd => hfirst d (.tail _ hd)⟩
  · rintro (rfl | ⟨before, after, rfl, hno, hfirst⟩)
    · exact ⟨[], clips, rfl, h, nofun⟩
    · obtain ⟨hno, hne⟩ := hfree.1 hno
      refine ⟨c :: before, after, rfl, hno, fun d hd => ?_⟩
      rcases List.mem_cons.1 hd with rfl | hd
      · exact hne
      · exact hfirst d hd

theorem ImportsClips.nil : ImportsClips t cameraId [] t :=
  ⟨fun _ hg => hg, fun _ hg => .inl hg, fun _ h => absurd h not_imported_nil, nofun⟩

/-- The loop imports what it should. -/
theorem importsClips_foldl (total : Nat) (hdown : ∀ c ∈ clips, (env.download c).isSome = true)
    (x : ImportLoop) (k : Nat) : ImportsClips x.segments cameraId clips
      ((clips.zipIdx k).foldl (ImportLoop.step env cameraId diskId total) x).segments := by
  induction clips generalizing x k with
  | nil => exact .nil
  | cons c clips ih =>
    have hrest : ∀ d ∈ clips, (env.download d).isSome = true := fun d hd => hdown d (.tail _ hd)
    rw [List.zipIdx_cons, List.foldl_cons]
    cases htaken : x.segments.existsRelPath cameraId (c.relPath cameraId) with
    | true =>
      have hstep : ImportLoop.step env cameraId diskId total x (c, k) = x := by
        simp only [ImportLoop.step, htaken, if_true]
      rw [hstep]
      obtain ⟨hkeeps, hadds, himports, hnamed⟩ := ih hrest x (k + 1)
      refine ⟨hkeeps, fun g hg => ?_, fun d hd => ?_, fun d hd => ?_⟩
      · rcases hadds g hg with h | ⟨d, hd, h⟩
        · exact .inl h
        · exact .inr ⟨d, (imported_cons_of_taken htaken).2 hd, h⟩
      · exact himports d ((imported_cons_of_taken htaken).1 hd)
      · rcases List.mem_cons.1 hd with rfl | hd
        · exact existsRelPath_mono hkeeps htaken
        · exact hnamed d hd
    | false =>
      obtain ⟨size, hsize⟩ := Option.isSome_iff_exists.1 (hdown c (.head _))
      have hstep : (ImportLoop.step env cameraId diskId total x (c, k)).segments =
          x.segments.insert (c.row x.segments cameraId diskId size) := by
        simp only [ImportLoop.step, htaken, Bool.false_eq_true, if_false, hsize]
      obtain ⟨hkeeps, hadds, himports, hnamed⟩ :=
        ih hrest (ImportLoop.step env cameraId diskId total x (c, k)) (k + 1)
      rw [hstep] at hkeeps hadds himports
      have hrow : c.row x.segments cameraId diskId size ∈
          x.segments.insert (c.row x.segments cameraId diskId size) := mem_insert_row.2 (.inr rfl)
      have hrec : (c.row x.segments cameraId diskId size).Recorded cameraId := ⟨rfl, rfl, rfl⟩
      have hiff := @imported_cons_of_free x.segments cameraId diskId size c
      refine ⟨fun g hg => hkeeps g (mem_insert_row.2 (.inl hg)), fun g hg => ?_, fun d hd => ?_,
        fun d hd => ?_⟩
      · rcases hadds g hg with h | ⟨d, hd, h⟩
        · rcases mem_insert_row.1 h with h | rfl
          · exact .inl h
          · exact .inr ⟨c, (hiff htaken).2 (.inl rfl), hrec, rfl⟩
        · exact .inr ⟨d, (hiff htaken).2 (.inr hd), h⟩
      · rcases (hiff htaken).1 hd with rfl | hd
        · exact ⟨_, hkeeps _ hrow, hrec, rfl⟩
        · exact himports d hd
      · rcases List.mem_cons.1 hd with rfl | hd
        · exact existsRelPath_mono hkeeps (existsRelPath_insert.2 (.inr rfl))
        · exact hnamed d hd

/-- Clips whose names are taken leave everything as it is. -/
theorem importClips_of_taken
    (h : ∀ c ∈ clips, t.existsRelPath cameraId (c.relPath cameraId) = true) :
    importClips env cameraId diskId t clips = ⟨t, 0, 0, [], 0, []⟩ := by
  have key : ∀ (total k : Nat) (l : List EdgeClip),
      (∀ c ∈ l, t.existsRelPath cameraId (c.relPath cameraId) = true) →
      (l.zipIdx k).foldl (ImportLoop.step env cameraId diskId total) ⟨t, 0, 0, [], 0, []⟩ =
        ⟨t, 0, 0, [], 0, []⟩ := by
    intro total k l
    induction l generalizing k with
    | nil => exact fun _ => rfl
    | cons c l ih =>
      intro hl
      have hstep : ImportLoop.step env cameraId diskId total ⟨t, 0, 0, [], 0, []⟩ (c, k) =
          ⟨t, 0, 0, [], 0, []⟩ := by
        simp only [ImportLoop.step, hl c (.head _), if_true]
      rw [List.zipIdx_cons, List.foldl_cons, hstep]
      exact ih (k + 1) fun d hd => hl d (.tail _ hd)
  exact key _ _ _ h

theorem mem_toImport {gaps : List (Int × Int)} : c ∈ toImport gaps clips ↔
    c ∈ clips ∧ ∃ x ∈ gaps, c.startTs < x.2 ∧ x.1 < c.endTs := by
  simp [toImport, EdgeClip.overlaps]

/-- An import keeps the segments proper. -/
theorem ImportsClips.proper (h : ImportsClips t cameraId clips t') (hproper : t.Proper) :
    t'.Proper := by
  intro g hg hsound
  rcases h.adds g hg with hold | ⟨c, -, -, hspan⟩
  · exact hproper g hold hsound
  · obtain ⟨h₁, h₂⟩ := Prod.mk.inj hspan
    rw [h₁, h₂]
    exact c.lt

/-- The indexer keeps the segments proper, as long as no duration is negative. -/
theorem Scan.proper_indexCameraDir (scan : Scan) (r : SegmentStore)
    (hduration : ∀ f, 0 ≤ scan.durationMs f) (hproper : r.segments.Proper) :
    (scan.indexCameraDir r).1.segments.Proper := by
  refine scan.indexCameraDir_induct r hproper fun t f startTs ht g hg hsound => ?_
  rcases (Table.mem_insert t.ne_freshKey).1 hg with hold | rfl
  · exact ht g hold hsound
  · have hpos : scan.durationMs f ≠ 0 := (by simpa [Scan.row] using hsound : _ ∧ _).2
    have hnonneg := hduration f
    simp only [Scan.row]
    omega

/-- After an import, an instant is recorded if it was or if an imported clip covers it. -/
theorem ImportsClips.recordedAt_iff (h : ImportsClips t cameraId clips t') {start stop ts : Int}
    (h₁ : start ≤ ts) (h₂ : ts < stop) : t'.RecordedAt cameraId start stop ts ↔
      t.RecordedAt cameraId start stop ts ∨
        ∃ c, Imported t cameraId clips c ∧ Covers c.span ts := by
  constructor
  · rintro ⟨g, hg, hcov⟩
    obtain ⟨hmem, hrec, hlt, hgt⟩ := Segments.mem_getRange_main.1 hg
    rcases h.adds g hmem with hold | ⟨c, hc, -, hspan⟩
    · exact .inl ⟨g, Segments.mem_getRange_main.2 ⟨hold, hrec, hlt, hgt⟩, hcov⟩
    · exact .inr ⟨c, hc, hspan ▸ hcov⟩
  · rintro (⟨g, hg, hcov⟩ | ⟨c, hc, hcov⟩)
    · obtain ⟨hmem, hrest⟩ := Segments.mem_getRange_main.1 hg
      exact ⟨g, Segments.mem_getRange_main.2 ⟨h.keeps g hmem, hrest⟩, hcov⟩
    · obtain ⟨g, hg, hrec, hspan⟩ := h.imports c hc
      rw [← hspan] at hcov
      exact ⟨g, Segments.mem_getRange_main.2 ⟨hg, hrec, hcov.1.trans_lt h₂, h₁.trans_lt hcov.2⟩,
        hcov⟩

/-- What overlaps a gap after an import has overlapped one before. -/
theorem ImportsClips.toImport_subset (h : ImportsClips t cameraId clips t') (hproper : t.Proper)
    {start stop : Int} {found : List EdgeClip}
    (hc : c ∈ toImport (computeGaps t' cameraId start stop minGapSeconds) found) :
    c ∈ toImport (computeGaps t cameraId start stop minGapSeconds) found := by
  obtain ⟨hmem, x, hx, h₁, h₂⟩ := mem_toImport.1 hc
  obtain ⟨hmax, hlong⟩ := (mem_computeGaps_iff (h.proper hproper)).1 hx
  have hfree : Free (t.RecordedAt cameraId start stop) x.1 x.2 := by
    intro ts hts hts' hcov
    exact hmax.free ts hts hts' ((h.recordedAt_iff (hmax.lo_le.trans hts)
      (hts'.trans_le hmax.le_hi)).2 (.inl hcov))
  obtain ⟨y, hy, hy₁, hy₂⟩ :=
    exists_gap_of_unrecorded hproper hmax.lt hmax.lo_le hmax.le_hi hfree hlong
  exact mem_toImport.2 ⟨hmem, y, hy, h₁.trans_le hy₂, hy₁.trans_lt h₂⟩

end

/-! ## An import -/

namespace EdgeWorld

section
variable {w : EdgeWorld} {env : ImportEnv} {jobId : Nat} {job : EdgeImportJob} {camera : Camera}
  {found : List EdgeClip}

@[simp] theorem updateJob_segments {f : EdgeImportJob → EdgeImportJob} {hf : ∀ j, (f j).id = j.id} :
    (w.updateJob jobId f hf).segments = w.segments := rfl

/-- The job and its camera are there. -/
structure Starts (w : EdgeWorld) (jobId : Nat) (job : EdgeImportJob) (camera : Camera) : Prop where
  found : (w.jobs.rows.find? fun j => j.id == jobId && j.deletedAt.isNone) = some job
  live : (w.cameras.rows.find? fun c => c.id == job.cameraId && c.deletedAt.isNone) = some camera

/-- The clips that a job's import goes through. -/
def selected (w : EdgeWorld) (job : EdgeImportJob) (found : List EdgeClip) : List EdgeClip :=
  toImport (computeGaps w.segments job.cameraId job.rangeStart job.rangeEnd minGapSeconds)
    (searchClips found)

/-- An import goes through the selected clips, if there are any and a disk is found. -/
theorem runImport_cases (h : w.Starts jobId job camera) (hsearch : env.search = .ok found) :
    ((w.selected job found = [] ∨ env.disk = none) ∧ (w.runImport env jobId).2 = [] ∧
      (w.runImport env jobId).1.segments = w.segments ∧
      (w.runImport env jobId).1.recordings = w.recordings) ∨
    ∃ diskId, env.disk = some diskId ∧ w.selected job found ≠ [] ∧
      (w.runImport env jobId).2 =
        (importClips env job.cameraId diskId w.segments (w.selected job found)).downloads ∧
      (w.runImport env jobId).1.segments =
        (importClips env job.cameraId diskId w.segments (w.selected job found)).segments ∧
      (w.runImport env jobId).1.recordings = w.recordImport job.cameraId
        (importClips env job.cameraId diskId w.segments (w.selected job found)).imported
        (w.selected job found) := by
  have hid : camera.id = job.cameraId := (Table.find?_live_eq_some.1 h.live).2.1
  unfold selected runImport
  simp only [h.found, h.live, updateJob_segments, hid, hsearch]
  by_cases hgaps : (computeGaps w.segments job.cameraId job.rangeStart job.rangeEnd
      minGapSeconds).isEmpty = true
  · rw [if_pos hgaps]
    refine .inl ⟨.inl ?_, rfl, rfl, rfl⟩
    rw [List.isEmpty_iff.1 hgaps]
    exact List.filter_eq_nil_iff.2 fun _ _ => by simp
  rw [if_neg hgaps]
  by_cases hempty : (toImport (computeGaps w.segments job.cameraId job.rangeStart job.rangeEnd
      minGapSeconds) (searchClips found)).isEmpty = true
  · rw [if_pos hempty]
    exact .inl ⟨.inl (List.isEmpty_iff.1 hempty), rfl, rfl, rfl⟩
  · rw [if_neg hempty]
    cases hdisk : env.disk with
    | none => exact .inl ⟨.inr rfl, rfl, rfl, rfl⟩
    | some diskId =>
      exact .inr ⟨diskId, rfl, fun h => hempty (List.isEmpty_iff.2 h), rfl, rfl, rfl⟩

/-- The instant lies in a gap of the job's range. -/
def InGap (w : EdgeWorld) (job : EdgeImportJob) (ts : Int) : Prop :=
  ∃ x ∈ computeGaps w.segments job.cameraId job.rangeStart job.rangeEnd minGapSeconds, Covers x ts

/-- After the import, what lay in a gap and in a clip is recorded. -/
def Fills (w w' : EdgeWorld) (job : EdgeImportJob) (found : List EdgeClip) : Prop :=
  ∀ ts, w.InGap job ts → (∃ c ∈ found, Covers c.span ts) →
    w'.segments.RecordedAt job.cameraId job.rangeStart job.rangeEnd ts

/-- An import of the same range with the same answer of the camera does nothing. -/
def Settled (w : EdgeWorld) (job : EdgeImportJob) (found : List EdgeClip) : Prop :=
  ∀ env jobs jobId' job' camera', Starts { w with jobs } jobId' job' camera' →
    env.search = .ok found → job'.cameraId = job.cameraId → job'.rangeStart = job.rangeStart →
    job'.rangeEnd = job.rangeEnd →
    (runImport { w with jobs } env jobId').2 = [] ∧
      (runImport { w with jobs } env jobId').1.segments = w.segments ∧
      (runImport { w with jobs } env jobId').1.recordings = w.recordings

theorem mem_found_of_selected {c : EdgeClip} (h : c ∈ w.selected job found) : c ∈ found := by
  obtain ⟨hmem, -⟩ := mem_toImport.1 h
  exact mem_orderBy.1 hmem

/-- An instant of a gap is in the range and is not recorded. -/
theorem InGap.unrecorded (hproper : w.segments.Proper) {ts : Int} (h : w.InGap job ts) :
    job.rangeStart ≤ ts ∧ ts < job.rangeEnd ∧
      ¬ w.segments.RecordedAt job.cameraId job.rangeStart job.rangeEnd ts := by
  obtain ⟨x, hx, h₁, h₂⟩ := h
  obtain ⟨hmax, -⟩ := (mem_computeGaps_iff hproper).1 hx
  exact ⟨hmax.lo_le.trans h₁, h₂.trans_le hmax.le_hi, hmax.free ts h₁ h₂⟩

/-- A clip that is selected has an instant in a gap. -/
theorem exists_inGap (hproper : w.segments.Proper) {c : EdgeClip}
    (h : c ∈ w.selected job found) : ∃ ts, w.InGap job ts ∧ c ∈ found ∧ Covers c.span ts := by
  obtain ⟨-, x, hx, h₁, h₂⟩ := mem_toImport.1 h
  have hlt := ((mem_computeGaps_iff hproper).1 hx).1.lt
  refine ⟨max c.startTs x.1, ⟨x, hx, le_max_right _ _, max_lt h₁ hlt⟩, mem_found_of_selected h,
    le_max_left _ _, max_lt c.lt h₂⟩

/-- An import whose selected clips are all named has nothing left to do. -/
theorem settled_of_named (h : ∀ c ∈ w.selected job found,
    w.segments.existsRelPath job.cameraId (c.relPath job.cameraId) = true) :
    w.Settled job found := by
  intro env jobs jobId' job' camera' hstarts hsearch hcam hstart hstop
  rcases runImport_cases hstarts hsearch with ⟨-, h⟩ | ⟨diskId, -, -, h₁, h₂, h₃⟩
  · exact h
  · have hsel : ({ w with jobs } : EdgeWorld).selected job' found = w.selected job found := by
      rw [selected, hcam, hstart, hstop]
      rfl
    rw [hsel, hcam] at h₁ h₂ h₃
    rw [importClips_of_taken h] at h₁ h₂ h₃
    refine ⟨h₁, h₂, h₃.trans ?_⟩
    unfold recordImport
    split <;> simp

/-- With a disk, or with nothing to import, an import leaves nothing to do. -/
theorem settled_runImport (hproper : w.segments.Proper) (h : w.Starts jobId job camera)
    (hsearch : env.search = .ok found) (hdown : ∀ c ∈ found, (env.download c).isSome = true)
    (hdisk : w.selected job found ≠ [] → env.disk.isSome = true) :
    ImportsClips w.segments job.cameraId (w.selected job found)
      (w.runImport env jobId).1.segments ∧ (w.runImport env jobId).1.Settled job found := by
  have himports : ImportsClips w.segments job.cameraId (w.selected job found)
      (w.runImport env jobId).1.segments := by
    rcases runImport_cases h hsearch with ⟨hno, -, hsegs, -⟩ | ⟨diskId, -, -, -, hsegs, -⟩
    · have hnil : w.selected job found = [] := hno.elim id fun hnone => by
        simpa [hnone] using hdisk
      rw [hsegs, hnil]
      exact .nil
    · have hselected : ∀ c ∈ w.selected job found, (env.download c).isSome = true :=
        fun c hc => hdown c (mem_found_of_selected hc)
      rw [hsegs]
      exact importsClips_foldl _ hselected ⟨w.segments, 0, 0, [], 0, []⟩ 0
  exact ⟨himports, settled_of_named fun c hc =>
    himports.named c (himports.toImport_subset hproper hc)⟩

/-- An import fills what the clips cover of its gaps, and leaves nothing to do, exactly if a disk is
found for the selected clips and the imported ones among them cover what all of them cover. -/
theorem import_fills_iff (hproper : w.segments.Proper) (h : w.Starts jobId job camera)
    (hsearch : env.search = .ok found) (hdown : ∀ c ∈ found, (env.download c).isSome = true) :
    (w.Fills (w.runImport env jobId).1 job found ∧ (w.runImport env jobId).1.Settled job found) ↔
      (w.selected job found ≠ [] → env.disk.isSome = true) ∧
        ∀ ts, w.InGap job ts → (∃ c ∈ found, Covers c.span ts) →
          ∃ c, Imported w.segments job.cameraId (w.selected job found) c ∧ Covers c.span ts := by
  constructor
  · rintro ⟨hfills, -⟩
    have hdisk : w.selected job found ≠ [] → env.disk.isSome = true := by
      intro hne
      obtain ⟨c, hc⟩ := List.exists_mem_of_ne_nil _ hne
      obtain ⟨ts, hgap, hfound, hcov⟩ := exists_inGap hproper hc
      have hrec := hfills ts hgap ⟨c, hfound, hcov⟩
      rcases runImport_cases h hsearch with ⟨-, -, hsegs, -⟩ | ⟨diskId, hdisk, -⟩
      · rw [hsegs] at hrec
        exact absurd hrec (hgap.unrecorded hproper).2.2
      · exact hdisk ▸ rfl
    refine ⟨hdisk, fun ts hgap hclip => ?_⟩
    obtain ⟨hlo, hhi, hno⟩ := hgap.unrecorded hproper
    have himports := (settled_runImport hproper h hsearch hdown hdisk).1
    exact ((himports.recordedAt_iff hlo hhi).1 (hfills ts hgap hclip)).resolve_left hno
  · rintro ⟨hdisk, hcover⟩
    obtain ⟨himports, hsettled⟩ := settled_runImport hproper h hsearch hdown hdisk
    refine ⟨fun ts hgap hclip => ?_, hsettled⟩
    obtain ⟨hlo, hhi, -⟩ := hgap.unrecorded hproper
    exact (himports.recordedAt_iff hlo hhi).2 (.inr (hcover ts hgap hclip))

end

end EdgeWorld

namespace ImportFixture

def camera : Camera := ⟨1, "c1", "Door", true, none⟩

/-- A job for twenty seconds without a recording. -/
def job : EdgeImportJob := ⟨1, 1, 0, 20000000, .queued, 0, 0, 0, 0, none, none, none⟩

def world : EdgeWorld where
  cameras := ⟨[camera], by decide⟩
  segments := ⟨[], List.nodup_nil⟩
  recordings := ⟨[], List.nodup_nil⟩
  jobs := ⟨[job], by decide⟩

def short : EdgeClip := ⟨0, 10000000, "rtsp://short", by decide⟩

def long : EdgeClip := ⟨0, 20000000, "rtsp://long", by decide⟩

def answer (clips : List EdgeClip) : ImportEnv := ⟨.ok clips, some 1, fun _ => some 8⟩

theorem starts : world.Starts 1 job camera := ⟨rfl, rfl⟩

theorem proper_segments : world.segments.Proper := nofun

end ImportFixture

open ImportFixture EdgeWorld in
/-- Of two clips that start at once the second is passed over, also where it is the longer one: its
last ten seconds stay unrecorded. -/
theorem import_passes_over :
    world.Starts 1 job camera ∧ world.segments.Proper ∧
      (∀ c ∈ [short, long], ((answer [short, long]).download c).isSome = true) ∧
      ¬ (world.Fills (world.runImport (answer [short, long]) 1).1 job [short, long] ∧
        (world.runImport (answer [short, long]) 1).1.Settled job [short, long]) := by
  refine ⟨starts, proper_segments, by decide, fun ⟨hfills, _⟩ => ?_⟩
  have hgap : world.InGap job 15000000 := ⟨(0, 20000000), by decide +kernel, by decide⟩
  obtain ⟨g, hg, hcov⟩ := hfills 15000000 hgap ⟨long, by decide, by decide⟩
  have hnone : ∀ g ∈ (world.runImport (answer [short, long]) 1).1.segments.getRange 1 0 20000000
      (some .main), ¬ Covers g.span 15000000 := by
    decide +kernel
  exact hnone g hg hcov

open ImportFixture EdgeWorld in
/-- With the long clip alone, or first, the gap is filled. -/
theorem import_fills_fixture :
    world.Fills (world.runImport (answer [long, short]) 1).1 job [long, short] ∧
      (world.runImport (answer [long, short]) 1).1.Settled job [long, short] := by
  refine (import_fills_iff proper_segments starts rfl (by decide)).2 ⟨fun _ => rfl, ?_⟩
  rintro ts ⟨x, hx, hcov⟩ -
  have hselected : world.selected job [long, short] = long :: [short] := by decide +kernel
  have hgaps : computeGaps world.segments job.cameraId job.rangeStart job.rangeEnd minGapSeconds =
      [(0, 20000000)] := by
    decide +kernel
  rw [hgaps, List.mem_singleton] at hx
  subst hx
  exact ⟨long, ⟨[], [short], hselected, rfl, nofun⟩, hcov⟩

end AeroXProtect
