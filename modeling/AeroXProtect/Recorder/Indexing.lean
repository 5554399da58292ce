import AeroXProtect.Lib.Run
import AeroXProtect.Recorder.Names

/-!
# From the recorder to the index

ffmpeg writes the stream of a camera to files, one after the other. The recorder starts it, notices
its exit, and again and again lists the directory and goes through the files by name, one by one;
retention deletes meanwhile. The last file of the directory is left out, since it is still being
written, until ffmpeg has exited.

`recording_index` says what the index tells in every run: of finished files only, of each at most
once, with the second in which the file was begun and with its size. `pass_indexes` says that a pass
reaches every finished file of its directory, and `indexCameraDir_alone` that a pass that nothing
interrupts is `index_camera_dir`. The runs are those of an ffmpeg that has exited when the next one
is started and when its newest file is taken up (`State.orderly`).
-/

open Lib

namespace AeroXProtect

namespace Recording

/-! ## The recorder -/

/-- The stream of a camera that is recorded. -/
structure Stream where
  cameraId : Nat
  subdir : String
  streamRole : StreamRole
  deriving DecidableEq

/-- The ffmpeg that was started last: the disk, the container, and whether it runs. -/
structure Proc where
  diskId : Nat
  container : String
  alive : Bool
  deriving DecidableEq, Repr

/-- The index and the files of a stream, ffmpeg with the file it writes and the second in which it
began the last one, and the files that a pass of the indexer has still to look at. -/
structure State where
  now : Int
  store : SegmentStore
  proc : Option Proc
  writing : Option FileKey
  begun : Int
  todo : List (Scan × StoredFile)

/-- What happens: the clock goes on, ffmpeg is started, begins a file, writes to it or exits, a pass
of the indexer begins, goes on with the next file or fails, and a row is deleted with its file. -/
inductive Act
  | tick (now : Int)
  | start (diskId : Nat) (container : String)
  | roll
  | write (bytes : Nat)
  | exit
  | list (c : Scan)
  | index
  | abort
  | delete (u : Unlink) (seg : Segment)

namespace State

/-- The file that ffmpeg begins. -/
def newFile (s : Stream) (now : Int) (p : Proc) : StoredFile :=
  ⟨p.diskId, s.cameraId, s.subdir, segmentName p.container now, 0, now⟩

/-- ffmpeg has begun a file, and truncated one of the same name. -/
def rolled (s : Stream) (r : State) (p : Proc) : State where
  now := r.now
  store := ⟨r.store.segments, Archive.write r.store.files (newFile s r.now p)⟩
  proc := r.proc
  writing := some (newFile s r.now p).key
  begun := epochSeconds r.now
  todo := r.todo

/-- ffmpeg begins a file, if it runs. -/
def roll (s : Stream) (r : State) : State :=
  match r.proc with
  | some p => if p.alive then r.rolled s p else r
  | none => r

/-- What a write does to a file. -/
def grow (now : Int) (bytes : Nat) (f : StoredFile) : StoredFile :=
  { f with sizeBytes := f.sizeBytes + bytes, mtime := now }

def grown (r : State) (bytes : Nat) (k : FileKey) : State :=
  { r with store := ⟨r.store.segments, r.store.files.modify (fun f => decide (f.key = k))
    (grow r.now bytes) fun _ => rfl⟩ }

def write (r : State) (bytes : Nat) : State := r.writing.elim r (r.grown bytes)

/-- The next file of a pass: it is looked up again, and one that is gone is left out. -/
def index (r : State) : State :=
  match r.todo with
  | [] => r
  | x :: rest =>
    { r with
      store := ⟨((r.store.files.get? x.2.key).elim r.store.segments fun f =>
        (x.1.indexFile (r.store.segments, 0) f).1), r.store.files⟩
      todo := rest }

/-- One step. Source: `Supervisor._start` (`worker/recorder/supervisor.py:173`), `_stop`
(`worker/recorder/supervisor.py:215`), `_on_dead` (`worker/recorder/supervisor.py:231`) and
`_maintain` (`worker/recorder/supervisor.py:255`). -/
def step (s : Stream) (r : State) : Act → State
  | .tick now => { r with now }
  | .start diskId container => { r with proc := some ⟨diskId, container, true⟩ }
  | .roll => r.roll s
  | .write bytes => r.write bytes
  | .exit => { r with proc := r.proc.map ({ · with alive := false }), writing := none }
  | .list c => { r with todo := (c.candidates r.store.files).map (c, ·) }
  | .index => r.index
  | .abort => { r with todo := [] }
  | .delete u seg => { r with store := r.store.deleteSegment u seg }

/-- The pass is one of the stream, on the disk of the ffmpeg that was started last. -/
def lists (s : Stream) (r : State) (c : Scan) : Bool :=
  decide (c.cameraId = s.cameraId) && decide (c.subdir = s.subdir) && decide (c.now = r.now) &&
    r.proc.any fun p => decide (c.diskId = p.diskId) && decide (c.container = p.container)

/-- The recorder does one thing after the other, and only a row that is there is deleted. -/
def admits (s : Stream) (r : State) : Act → Bool
  | .tick now => decide (r.now ≤ now)
  | .start _ _ => r.todo.isEmpty
  | .roll => decide (IsDatetime r.now)
  | .list c => r.todo.isEmpty && r.lists s c
  | .delete _ seg => decide (seg ∈ r.store.segments)
  | _ => true

/-- What is assumed of ffmpeg: it has exited when the next one is started and when its newest file
is taken up, and begins each file in a later second than the last one. The recorder does not see to
it: `_maintain` kills an ffmpeg that stalls and does not wait for it, nor does `_stop` after five
seconds. -/
def orderly (r : State) : Act → Bool
  | .start _ _ => !(r.proc.any (·.alive))
  | .roll => decide (r.begun < epochSeconds r.now)
  | .list c => !(c.includeNewest && r.proc.any (·.alive))
  | _ => true

/-- A step of the recorder, with such an ffmpeg. -/
def ok (s : Stream) (r : State) (a : Act) : Bool := r.admits s a && r.orderly a

/-- Before the first start. -/
def init (now : Int) : State := ⟨now, ⟨∅, ∅⟩, none, none, epochSeconds now - 1, []⟩

end State

/-! ## What holds between two steps -/

/-- The name of a file that was begun in the second `n` or before. -/
def NamedBy (n : Int) (filename : String) : Prop :=
  ∃ container t, IsDatetime t ∧ epochSeconds t ≤ n ∧ filename = segmentName container t

/-- A file in the directory of the stream that was begun in the second `n` or before. -/
structure OfStream (s : Stream) (n : Int) (f : StoredFile) : Prop where
  camera : f.cameraId = s.cameraId
  subdir : f.subdir = s.subdir
  name : NamedBy n f.filename

/-- The file that ffmpeg writes was begun in the second `n`. -/
structure IsWriting (s : Stream) (files : Files) (proc : Option Proc) (n : Int) (w : StoredFile) :
    Prop where
  mem : w ∈ files
  camera : w.cameraId = s.cameraId
  subdir : w.subdir = s.subdir
  proc : ∃ p, proc = some p ∧ p.alive = true ∧ w.diskId = p.diskId ∧
    ∃ t, IsDatetime t ∧ epochSeconds t = n ∧ w.filename = segmentName p.container t

/-- A row about a file of the stream that was begun in the second `n` or before; it says when. -/
structure RowOf (s : Stream) (n : Int) (g : Segment) : Prop where
  camera : g.cameraId = s.cameraId
  path : ∃ container t, IsDatetime t ∧ epochSeconds t ≤ n ∧
    g.relPath = relPathOf s.cameraId s.subdir (segmentName container t) ∧
    g.startTs = seconds (epochSeconds t)

/-- The second in which the last finished file was begun, at the latest. -/
def State.finished (r : State) : Int := if r.writing.isSome then r.begun - 1 else r.begun

/-- A recorder between two steps. -/
structure Sound (s : Stream) (r : State) : Prop where
  writing : ∀ k ∈ r.writing, ∃ w, IsWriting s r.store.files r.proc r.begun w ∧ w.key = k
  files : ∀ f ∈ r.store.files, (∀ k ∈ r.writing, f.key ≠ k) → OfStream s r.finished f
  todo : ∀ x ∈ r.todo, x.1.cameraId = s.cameraId ∧ x.1.subdir = s.subdir ∧
    x.2.diskId = x.1.diskId ∧ OfStream s r.finished x.2
  rows : ∀ g ∈ r.store.segments, RowOf s r.finished g
  sizes : ∀ g ∈ r.store.segments, ∀ f ∈ r.store.files, f.key = g.fileKey →
    f.sizeBytes = g.sizeBytes
  unique : ∀ g ∈ r.store.segments, ∀ h ∈ r.store.segments, g.relPath = h.relPath → g = h

section
variable {s : Stream} {r : State} {m n : Int} {f w : StoredFile} {g : Segment} {k : FileKey}
  {c : Scan}

theorem relPathOf_inj {cameraId : Nat} {subdir filename filename' : String}
    (h : relPathOf cameraId subdir filename = relPathOf cameraId subdir filename') :
    filename = filename' := by
  unfold relPathOf at h
  split at h <;> rw [← String.toList_inj] at h <;> simp only [String.toList_append] at h <;>
    exact String.toList_inj.1 (List.append_cancel_left h)

theorem NamedBy.lt {filename container : String} {t : Int} (h : NamedBy n filename)
    (ht : IsDatetime t) (hlt : n < epochSeconds t) : filename < segmentName container t := by
  obtain ⟨container', t', ht', hle, rfl⟩ := h
  exact segmentName_lt ht' ht (by omega)

theorem OfStream.mono (h : OfStream s m f) (hle : m ≤ n) : OfStream s n f := by
  obtain ⟨hcam, hsub, container, t, ht, hm, hname⟩ := h
  exact ⟨hcam, hsub, container, t, ht, Int.le_trans hm hle, hname⟩

theorem RowOf.mono (h : RowOf s m g) (hle : m ≤ n) : RowOf s n g := by
  obtain ⟨hcam, container, t, ht, hm, hpath⟩ := h
  exact ⟨hcam, container, t, ht, Int.le_trans hm hle, hpath⟩

theorem State.finished_le (r : State) : r.finished ≤ r.begun := by
  unfold finished
  split <;> omega

theorem State.finished_lt (h : k ∈ r.writing) : r.finished < r.begun := by
  rw [finished, Option.mem_def.1 h]
  change r.begun - 1 < r.begun
  omega

/-- A finished file is not the one that is written: its name is earlier. -/
theorem OfStream.key_ne (h : OfStream s r.finished f)
    (hw : IsWriting s r.store.files r.proc r.begun w) (hk : w.key ∈ r.writing) :
    f.filename < w.filename ∧ f.key ≠ w.key := by
  obtain ⟨p, -, -, -, t, ht, hbegun, hname⟩ := hw.proc
  have hlt : f.filename < w.filename := by
    rw [hname]
    exact h.name.lt ht (hbegun ▸ State.finished_lt hk)
  refine ⟨hlt, fun heq => ?_⟩
  have hpath := (Prod.mk.inj heq).2
  rw [h.camera, h.subdir, hw.camera, hw.subdir] at hpath
  exact absurd (relPathOf_inj hpath) hlt.ne

theorem Sound.key_ne (hr : Sound s r) (h : OfStream s r.finished f) :
    ∀ k ∈ r.writing, f.key ≠ k := by
  intro k hk
  obtain ⟨w, hw, rfl⟩ := hr.writing k hk
  exact (h.key_ne hw hk).2

/-- No row is about the file that is written. -/
theorem Sound.row_ne (hr : Sound s r) (hg : g ∈ r.store.segments) :
    ∀ k ∈ r.writing, g.fileKey ≠ k := by
  rintro k hk heq
  obtain ⟨w, hw, rfl⟩ := hr.writing k hk
  obtain ⟨-, container, t', ht', hle, hpath, -⟩ := hr.rows g hg
  obtain ⟨p, -, -, -, t, ht, hbegun, hname⟩ := hw.proc
  have hpath' : g.relPath = relPathOf w.cameraId w.subdir w.filename := (Prod.mk.inj heq).2
  rw [hpath, hw.camera, hw.subdir] at hpath'
  have hfin := State.finished_lt hk
  have hlt : segmentName container t' < segmentName p.container t :=
    segmentName_lt ht' ht (by omega)
  exact absurd (hname ▸ relPathOf_inj hpath') hlt.ne

/-- Every file is in the directory of the stream. -/
theorem Sound.ofStream (hr : Sound s r) (hf : f ∈ r.store.files) : OfStream s r.begun f := by
  by_cases hk : f.key ∈ r.writing
  · obtain ⟨w, hw, hkey⟩ := hr.writing _ hk
    obtain rfl : w = f := Table.eq_of_key_eq hw.mem hf hkey
    obtain ⟨p, -, -, -, t, ht, hbegun, hname⟩ := hw.proc
    exact ⟨hw.camera, hw.subdir, p.container, t, ht, hbegun.le, hname⟩
  · exact (hr.files f hf fun k hk' heq => hk (heq ▸ hk')).mono r.finished_le

/-! ## One step -/

theorem mem_write {files : Files} {f₀ : StoredFile} :
    f ∈ Archive.write files f₀ ↔ f ∈ files ∧ f.key ≠ f₀.key ∨ f = f₀ := by
  rw [Archive.write, Table.mem_insert, Table.mem_delete, decide_eq_false_iff_not]
  intro x hx
  exact of_decide_eq_false (Table.mem_delete.1 hx).2

/-- ffmpeg begins a file, or it does not run. -/
theorem State.roll_cases (s : Stream) (r : State) : r.roll s = r ∨
    ∃ p, r.proc = some p ∧ p.alive = true ∧ r.roll s = r.rolled s p := by
  unfold roll
  split
  · next p hp =>
    split
    · next halive => exact .inr ⟨p, hp, halive, rfl⟩
    · exact .inl rfl
  · exact .inl rfl

/-- ffmpeg begins a file. -/
theorem Sound.roll (hr : Sound s r) (hdate : IsDatetime r.now)
    (hlt : r.begun < epochSeconds r.now) : Sound s (r.roll s) := by
  rcases r.roll_cases s with heq | ⟨p, hp, halive, heq⟩ <;> rw [heq]
  · exact hr
  · have hle := r.finished_le
    refine ⟨fun k hk => ?_, fun f hf hk => ?_, fun x hx => ?_, fun g hg => ?_,
      fun g hg f hf heq => ?_, hr.unique⟩
    · obtain rfl : (State.newFile s r.now p).key = k := Option.some_inj.1 hk
      exact ⟨_, ⟨mem_write.2 (.inr rfl), rfl, rfl, p, hp, halive, rfl, r.now, hdate, rfl, rfl⟩,
        rfl⟩
    · rcases mem_write.1 hf with ⟨hf, -⟩ | rfl
      · refine (hr.ofStream hf).mono ?_
        change r.begun ≤ epochSeconds r.now - 1
        omega
      · exact absurd rfl (hk _ rfl)
    · obtain ⟨hcam, hsub, hdisk, hx⟩ := hr.todo x hx
      refine ⟨hcam, hsub, hdisk, hx.mono ?_⟩
      change r.finished ≤ epochSeconds r.now - 1
      omega
    · refine (hr.rows g hg).mono ?_
      change r.finished ≤ epochSeconds r.now - 1
      omega
    · rcases mem_write.1 hf with ⟨hf, -⟩ | rfl
      · exact hr.sizes g hg f hf heq
      · -- the name is later than that of every row
        obtain ⟨-, container, t, ht, hn, hpath, -⟩ := hr.rows g hg
        have hpath' : relPathOf s.cameraId s.subdir (segmentName p.container r.now) = g.relPath :=
          (Prod.mk.inj heq).2
        have hname : segmentName container t < segmentName p.container r.now :=
          segmentName_lt ht hdate (by omega)
        exact absurd (relPathOf_inj (hpath'.trans hpath)).symm hname.ne

/-- The files after a write. -/
theorem State.mem_grown {bytes : Nat} : f ∈ (r.grown bytes k).store.files ↔
    ∃ f' ∈ r.store.files, f = if decide (f'.key = k) = true then grow r.now bytes f' else f' :=
  @Table.mem_modify StoredFile FileKey StoredFile.key (fun f => decide (f.key = k))
    (grow r.now bytes) (fun _ => rfl) r.store.files f

/-- ffmpeg writes to its file, if there is one. -/
theorem State.write_cases (r : State) (bytes : Nat) : r.write bytes = r ∨
    ∃ k, r.writing = some k ∧ r.write bytes = r.grown bytes k := by
  unfold write
  cases hk : r.writing with
  | none => exact .inl rfl
  | some k => exact .inr ⟨k, rfl, rfl⟩

/-- ffmpeg writes to its file. -/
theorem Sound.write (hr : Sound s r) (bytes : Nat) : Sound s (r.write bytes) := by
  rcases r.write_cases bytes with heq | ⟨k, hk, heq⟩ <;> rw [heq]
  · exact hr
  · refine ⟨fun k' hk' => ?_, fun f hf hne => ?_, hr.todo, hr.rows, fun g hg f hf heq => ?_,
      hr.unique⟩
    · obtain ⟨w, hw, hkey⟩ := hr.writing k' hk'
      have hmem : (if decide (w.key = k) = true then State.grow r.now bytes w else w) ∈
          (r.grown bytes k).store.files := State.mem_grown.2 ⟨w, hw.mem, rfl⟩
      refine ⟨_, ⟨hmem, ?_, ?_, ?_⟩, ?_⟩
      · split <;> exact hw.camera
      · split <;> exact hw.subdir
      · split <;> exact hw.proc
      · split <;> exact hkey
    · obtain ⟨f', hf', rfl⟩ := State.mem_grown.1 hf
      by_cases hfk : f'.key = k
      · rw [if_pos (decide_eq_true hfk)] at hne
        exact absurd hfk (hne k hk)
      · rw [if_neg (by simpa using hfk)] at hne ⊢
        exact hr.files f' hf' hne
    · obtain ⟨f', hf', rfl⟩ := State.mem_grown.1 hf
      by_cases hfk : f'.key = k
      · rw [if_pos (decide_eq_true hfk)] at heq
        exact absurd (heq.symm.trans hfk) (hr.row_ne hg k hk)
      · rw [if_neg (by simpa using hfk)] at heq ⊢
        exact hr.sizes g hg f' hf' heq

/-- ffmpeg exits. -/
theorem Sound.exit (hr : Sound s r) :
    Sound s { r with proc := r.proc.map ({ · with alive := false }), writing := none } := by
  refine ⟨fun k hk => (nomatch hk), fun f hf _ => hr.ofStream hf, fun x hx => ?_, fun g hg => ?_,
    hr.sizes, hr.unique⟩
  · obtain ⟨hcam, hsub, hdisk, hx⟩ := hr.todo x hx
    exact ⟨hcam, hsub, hdisk, hx.mono r.finished_le⟩
  · exact (hr.rows g hg).mono r.finished_le

/-- A row is deleted, with its file or without. -/
theorem Sound.delete (hr : Sound s r) (u : Unlink) {seg : Segment} (hseg : seg ∈ r.store.segments) :
    Sound s { r with store := r.store.deleteSegment u seg } := by
  have hfiles : ∀ f ∈ (r.store.deleteSegment u seg).files, f ∈ r.store.files := fun f hf =>
    (SegmentStore.mem_deleteSegment_files.1 hf).1
  have hrows : ∀ g ∈ (r.store.deleteSegment u seg).segments, g ∈ r.store.segments := fun g hg =>
    (Table.mem_delete.1 hg).1
  refine ⟨fun k hk => ?_, fun f hf hk => hr.files f (hfiles f hf) hk, hr.todo,
    fun g hg => hr.rows g (hrows g hg), fun g hg f hf => hr.sizes g (hrows g hg) f (hfiles f hf),
    fun g hg h hh => hr.unique g (hrows g hg) h (hrows h hh)⟩
  obtain ⟨w, hw, rfl⟩ := hr.writing k hk
  refine ⟨w, ⟨SegmentStore.mem_deleteSegment_files.2 ⟨hw.mem, fun hu => ?_⟩, hw.camera, hw.subdir,
    hw.proc⟩, rfl⟩
  exact hr.row_ne hseg _ hk hu.2.2.symm

/-! ## A pass -/

theorem nodup_listing (c : Scan) (files : Files) : (c.listing files).Nodup :=
  files.nodup_rows.filter _

theorem State.lists_iff : r.lists s c = true ↔ c.cameraId = s.cameraId ∧ c.subdir = s.subdir ∧
    c.now = r.now ∧ ∃ p, r.proc = some p ∧ c.diskId = p.diskId ∧ c.container = p.container := by
  unfold lists
  cases r.proc with
  | none => simp
  | some p =>
    simp only [Bool.and_eq_true, decide_eq_true_eq, Option.any_some, and_assoc, Option.some.injEq,
      exists_eq_left']

theorem State.ok_iff {a : Act} :
    r.ok s a = true ↔ r.admits s a = true ∧ r.orderly a = true := Bool.and_eq_true_iff

/-- Where ffmpeg writes a file, it is in the directory, and last. -/
theorem Sound.last (hr : Sound s r) (hc : r.lists s c = true)
    (horderly : r.orderly (.list c) = true) (hk : k ∈ r.writing) :
    c.includeNewest = false ∧ ∃ w, IsWriting s r.store.files r.proc r.begun w ∧ w.key = k ∧
      w ∈ c.listing r.store.files ∧
      ∀ f ∈ c.listing r.store.files, f ≠ w → f.filename < w.filename := by
  obtain ⟨hcam, hsub, -, p, hp, hdisk, hcont⟩ := State.lists_iff.1 hc
  obtain ⟨w, hw, rfl⟩ := hr.writing k hk
  obtain ⟨p', hp', halive, hwdisk, t, ht, hbegun, hname⟩ := hw.proc
  obtain rfl : p = p' := Option.some_inj.1 (hp.symm.trans hp')
  have hnew : c.includeNewest = false := by simpa [State.orderly, hp, halive] using horderly
  refine ⟨hnew, w, hw, rfl, Scan.mem_listing.2 ?_,
    fun f hf hne => ?_⟩
  · refine ⟨hw.mem, hwdisk.trans hdisk.symm, hw.camera.trans hcam.symm, hw.subdir.trans hsub.symm,
      ?_, ?_⟩
    · rw [hname, hcont]
      exact endsWith_segmentName
    · rw [hname]
      exact isSome_searchName ht
  · have hf := (Scan.mem_listing.1 hf).mem
    exact ((hr.files f hf fun k hk' heq => hne (Table.eq_of_key_eq hf hw.mem (heq.trans
      (Option.mem_unique hk' hk)))).key_ne hw hk).1

/-- A pass begins. -/
theorem Sound.list (hr : Sound s r) (hc : r.lists s c = true)
    (horderly : r.orderly (.list c) = true) :
    Sound s { r with todo := (c.candidates r.store.files).map (c, ·) } := by
  refine ⟨hr.writing, hr.files, fun x hx => ?_, hr.rows, hr.sizes, hr.unique⟩
  obtain ⟨f, hf, rfl⟩ := List.mem_map.1 hx
  have hlisted := Scan.listed_of_mem_candidates hf
  obtain ⟨hcam, hsub, -⟩ := State.lists_iff.1 hc
  refine ⟨hcam, hsub, hlisted.disk, hr.files f hlisted.mem fun k hk heq => ?_⟩
  -- the file that is written is left out
  obtain ⟨hnew, w, hw, rfl, hwl, hmax⟩ := hr.last hc horderly hk
  obtain rfl : f = w := Table.eq_of_key_eq hlisted.mem hw.mem heq
  rw [Scan.candidates_eq, hnew, if_neg Bool.false_ne_true] at hf
  split at hf
  · exact not_mem_dropLast_orderBy (nodup_listing c _) hmax hf
  · cases hf

/-- The row of a finished file is inserted. -/
theorem Sound.insert (hr : Sound s r) (hcam : c.cameraId = s.cameraId) (hsub : c.subdir = s.subdir)
    (hf : f ∈ r.store.files) (hdisk : f.diskId = c.diskId) (hof : OfStream s r.finished f)
    {startTs : Int} (hts : parseStartTs f.filename = some startTs)
    (hno : r.store.segments.existsRelPath c.cameraId
      (relPathOf c.cameraId c.subdir f.filename) = false) :
    Sound s { r with
      store := ⟨r.store.segments.insert (c.row r.store.segments f startTs), r.store.files⟩ } := by
  have hnone : ∀ g ∈ r.store.segments, g.relPath ≠ relPathOf c.cameraId c.subdir f.filename := by
    intro g hg heq
    have hg' := List.any_eq_false.1 hno g hg
    rw [heq, (hr.rows g hg).camera, hcam] at hg'
    simp at hg'
  refine ⟨hr.writing, hr.files, hr.todo, fun g hg => ?_, fun g hg f' hf' heq => ?_,
    fun g hg h hh heq => ?_⟩
  · rcases (Scan.mem_insert_row ..).1 hg with hg | rfl
    · exact hr.rows g hg
    · obtain ⟨container, t, ht, hle, hname⟩ := hof.name
      rw [hname, parseStartTs_segmentName ht] at hts
      refine ⟨hcam, container, t, ht, hle, ?_, (Option.some_inj.1 hts).symm⟩
      change relPathOf c.cameraId c.subdir f.filename = _
      rw [hcam, hsub, hname]
  · rcases (Scan.mem_insert_row ..).1 hg with hg | rfl
    · exact hr.sizes g hg f' hf' heq
    · have hkey : f'.key = f.key := by
        rw [heq, StoredFile.key, hdisk, hof.camera, hof.subdir, ← hcam, ← hsub]
        rfl
      rw [Table.eq_of_key_eq hf' hf hkey]
      rfl
  · rcases (Scan.mem_insert_row ..).1 hg with hg | rfl <;>
      rcases (Scan.mem_insert_row ..).1 hh with hh | rfl
    · exact hr.unique g hg h hh heq
    · exact absurd heq (hnone g hg)
    · exact absurd heq.symm (hnone h hh)
    · rfl

theorem indexFile_fst (c : Scan) (t : Segments) (n : Nat) (f : StoredFile) :
    (c.indexFile (t, n) f).1 = (c.indexFile (t, 0) f).1 := by
  unfold Scan.indexFile
  split
  · rfl
  · split
    · rfl
    · split
      · rfl
      · split <;> rfl

/-- The files of a pass one after the other, without an interruption. -/
theorem foldl_index {l : List StoredFile} (hl : ∀ f ∈ l, f ∈ r.store.files) (n : Nat) :
    (List.replicate l.length Act.index).foldl (State.step s) { r with todo := l.map (c, ·) } =
      { r with
        store := ⟨(l.foldl c.indexFile (r.store.segments, n)).1, r.store.files⟩, todo := [] } := by
  induction l generalizing r n with
  | nil => rfl
  | cons f l ih =>
    have hget : r.store.files.get? f.key = some f := Table.get?_eq_some.2 ⟨hl f (.head _), rfl⟩
    have hstep : State.step s { r with todo := (f :: l).map (c, ·) } .index =
        { r with
          store := ⟨(c.indexFile (r.store.segments, n) f).1, r.store.files⟩
          todo := l.map (c, ·) } := by
      rw [indexFile_fst]
      simp only [State.step, State.index, List.map_cons, hget, Option.elim_some]
    rw [List.length_cons, List.replicate_succ, List.foldl_cons, hstep, List.foldl_cons]
    exact @ih { r with store := ⟨(c.indexFile (r.store.segments, n) f).1, r.store.files⟩ }
      (fun f hf => hl f (.tail _ hf)) (c.indexFile (r.store.segments, n) f).2

/-- A pass that nothing interrupts is `index_camera_dir`. -/
theorem indexCameraDir_alone (s : Stream) (r : State) (c : Scan) :
    ((List.replicate (c.candidates r.store.files).length Act.index).foldl (State.step s)
      (r.step s (.list c))).store = (c.indexCameraDir r.store).1 := by
  have hall := @foldl_index s r c (c.candidates r.store.files)
    (fun f hf => (Scan.listed_of_mem_candidates hf).mem) 0
  exact congrArg State.store hall

/-- A pass goes on with the next file. -/
theorem Sound.index (hr : Sound s r) : Sound s r.index := by
  unfold State.index
  split
  · exact hr
  · next x rest htodo =>
    have hrest : Sound s { r with todo := rest } := ⟨hr.writing, hr.files,
      fun y hy => hr.todo y (htodo ▸ .tail _ hy), hr.rows, hr.sizes, hr.unique⟩
    obtain ⟨hcam, hsub, hdisk, hx⟩ := hr.todo x (htodo ▸ List.mem_cons_self)
    cases hget : r.store.files.get? x.2.key with
    | none => exact hrest
    | some f =>
      obtain ⟨hf, hkey⟩ := Table.get?_eq_some.1 hget
      have hof := hr.files f hf fun k hk heq => hr.key_ne hx k hk (hkey.symm.trans heq)
      rw [Option.elim_some]
      rcases Scan.indexFile_cases x.1 (r.store.segments, 0) f with heq | ⟨startTs, hts, hno, -, heq⟩
      · rw [heq]
        exact hrest
      · rw [heq]
        exact hrest.insert hcam hsub hf ((Prod.mk.inj hkey).1.trans hdisk) hof hts hno

/-- **What one step keeps.** -/
theorem Sound.step (hr : Sound s r) {a : Act} (hok : r.ok s a = true) :
    Sound s (r.step s a) := by
  obtain ⟨ha, horderly⟩ := State.ok_iff.1 hok
  cases a with
  | tick now => exact ⟨hr.writing, hr.files, hr.todo, hr.rows, hr.sizes, hr.unique⟩
  | start diskId container =>
    -- ffmpeg has exited, so no file is written
    have hnone : ∀ k, k ∉ r.writing := by
      intro k hk
      obtain ⟨w, hw, -⟩ := hr.writing k hk
      obtain ⟨p, hp, halive, -⟩ := hw.proc
      simp [State.orderly, hp, halive] at horderly
    exact ⟨fun k hk => absurd hk (hnone k), hr.files, hr.todo, hr.rows, hr.sizes, hr.unique⟩
  | roll => exact hr.roll (of_decide_eq_true ha) (of_decide_eq_true horderly)
  | write bytes => exact hr.write bytes
  | exit => exact hr.exit
  | list c => exact hr.list ((Bool.and_eq_true _ _).mp ha).2 horderly
  | index => exact hr.index
  | abort =>
    exact ⟨hr.writing, hr.files, fun _ hx => absurd hx List.not_mem_nil, hr.rows, hr.sizes,
      hr.unique⟩
  | delete u seg => exact hr.delete u (of_decide_eq_true ha)

theorem sound_init (s : Stream) (now : Int) : Sound s (.init now) :=
  ⟨fun _ hk => (nomatch hk), fun f hf => absurd hf (Table.not_mem_empty f),
    fun _ hx => absurd hx List.not_mem_nil, fun g hg => absurd hg (Table.not_mem_empty g),
    fun g hg => absurd hg (Table.not_mem_empty g), fun g hg => absurd hg (Table.not_mem_empty g)⟩

theorem sound_run {now : Int} {as : List Act}
    (h : Run (State.step s) (fun r a => r.ok s a = true) (.init now) as r) : Sound s r :=
  h.invariant (fun _ _ hr hok => hr.step hok) (sound_init s now)

end

namespace Fixture

def stream : Stream := ⟨3, "", .main⟩

/-- A pass fifteen seconds after the first file was begun. -/
def pass : Scan where
  cameraId := 3
  diskId := 1
  container := "mpegts"
  subdir := ""
  streamRole := .main
  includeNewest := false
  now := seconds 1709251215
  listable := true
  statFails := fun _ => false
  durationMs := fun _ => 10000

/-- Two files, the second still being written. -/
def acts : List Act :=
  [.start 1 "mpegts", .roll, .write 100, .tick (seconds 1709251210), .roll, .write 40,
    .tick (seconds 1709251215)]

def before : State := acts.foldl (State.step stream) (.init (seconds 1709251200))

def after : State :=
  (acts ++ [Act.list pass, .index]).foldl (State.step stream) (.init (seconds 1709251200))

/-- The first file. -/
def file : StoredFile :=
  ⟨1, 3, "", segmentName "mpegts" (seconds 1709251200), 100, seconds 1709251200⟩

/-- The file that is being written. -/
def second : StoredFile :=
  ⟨1, 3, "", segmentName "mpegts" (seconds 1709251210), 40, seconds 1709251210⟩

end Fixture

/-- **The index tells of finished files, and of each once.** In every run of a recorder with an
orderly ffmpeg, whatever becomes of the passes and of the rows: each row names the second in which
its file was begun, is not about the file that is being written, and says the size that its file
has, if it is still there; and no two rows are about one path. -/
theorem recording_index {s : Stream} {r : State} {now : Int} {as : List Act}
    (h : Run (State.step s) (fun r a => r.ok s a = true) (.init now) as r) :
    (∀ g ∈ r.store.segments, ∃ container t, IsDatetime t ∧
      g.relPath = relPathOf s.cameraId s.subdir (segmentName container t) ∧
      g.startTs = seconds (epochSeconds t)) ∧
    (∀ g ∈ r.store.segments, ∀ k ∈ r.writing, g.fileKey ≠ k) ∧
    (∀ g ∈ r.store.segments, ∀ f ∈ r.store.files, f.key = g.fileKey → f.sizeBytes = g.sizeBytes) ∧
    ∀ g ∈ r.store.segments, ∀ g' ∈ r.store.segments, g.relPath = g'.relPath → g = g' := by
  have hr := sound_run h
  refine ⟨fun g hg => ?_, fun g hg => hr.row_ne hg, hr.sizes, hr.unique⟩
  obtain ⟨container, t, ht, -, hpath, hts⟩ := (hr.rows g hg).path
  exact ⟨container, t, ht, hpath, hts⟩

open Fixture in
/-- The recorder of the fixture, after a pass. -/
theorem recording_index_fixture :
    (∀ g ∈ after.store.segments, ∃ container t, IsDatetime t ∧
      g.relPath = relPathOf 3 "" (segmentName container t) ∧ g.startTs = seconds (epochSeconds t)) ∧
    (∀ g ∈ after.store.segments, ∀ k ∈ after.writing, g.fileKey ≠ k) ∧
    (∀ g ∈ after.store.segments, ∀ f ∈ after.store.files, f.key = g.fileKey →
      f.sizeBytes = g.sizeBytes) ∧
    ∀ g ∈ after.store.segments, ∀ g' ∈ after.store.segments, g.relPath = g'.relPath → g = g' :=
  recording_index (s := stream) (Run.of_admits (by decide +kernel))

/-! ## What a pass reaches -/

/-- An action that goes on with the pass and deletes no row about the path. -/
def keeps (path : String) : Act → Bool
  | .list _ => false
  | .abort => false
  | .delete _ seg => decide (seg.relPath ≠ path)
  | _ => true

section
variable {s : Stream} {r : State} {f : StoredFile} {c : Scan}

/-- What a pass is to reach: the file is there and still to come, or it has its row. -/
structure Reaches (s : Stream) (c : Scan) (f : StoredFile) (r : State) : Prop where
  sound : Sound s r
  file : OfStream s r.finished f
  coming : f ∈ r.store.files ∧ (c, f) ∈ r.todo ∨
    ∃ g ∈ r.store.segments, g.relPath = relPathOf s.cameraId s.subdir f.filename

/-- The indexer gives a row to a file that it can read and that has settled. -/
theorem exists_row_indexFile {t : Segments} {container : String} {d : Int} (ht : IsDatetime d)
    (hname : f.filename = segmentName container d) (hstat : c.statFails f = false)
    (hsettled : c.includeNewest = true ∨ f.mtime ≤ c.now - seconds 3) :
    ∃ g ∈ (c.indexFile (t, 0) f).1, g.relPath = relPathOf c.cameraId c.subdir f.filename := by
  unfold Scan.indexFile
  split
  · next hexists =>
    obtain ⟨g, hg, hpath⟩ := List.any_eq_true.1 hexists
    rw [Bool.and_eq_true, decide_eq_true_eq, decide_eq_true_eq] at hpath
    exact ⟨g, hg, hpath.2⟩
  · rw [if_neg (by rw [hstat]; exact Bool.false_ne_true)]
    split
    · next hnew =>
      rw [Bool.and_eq_true, Bool.not_eq_true', decide_eq_true_eq] at hnew
      rcases hsettled with h | h
      · rw [h] at hnew
        exact absurd hnew.1 (by decide)
      · omega
    · split
      · next hnone =>
        rw [hname, parseStartTs_segmentName ht] at hnone
        cases hnone
      · next startTs _ => exact ⟨_, (Scan.mem_insert_row ..).2 (.inr rfl), rfl⟩

/-- The next file of a pass, with the one that is to be reached. -/
theorem Reaches.index (h : Reaches s c f r) (hcam : c.cameraId = s.cameraId)
    (hsub : c.subdir = s.subdir) (hstat : c.statFails f = false)
    (hsettled : c.includeNewest = true ∨ f.mtime ≤ c.now - seconds 3) : Reaches s c f r.index := by
  refine ⟨h.sound.index, ?_, ?_⟩
  · have hfile := h.file
    unfold State.index
    split <;> exact hfile
  · have hcoming := h.coming
    obtain ⟨container, d, hd, -, hname⟩ := h.file.name
    unfold State.index
    split
    · exact hcoming
    · next x rest htodo =>
      rcases hcoming with ⟨hf, hmem⟩ | ⟨g, hg, hpath⟩
      · rw [htodo] at hmem
        rcases List.mem_cons.1 hmem with rfl | hmem
        · have hget : r.store.files.get? f.key = some f := Table.get?_eq_some.2 ⟨hf, rfl⟩
          obtain ⟨g, hg, hpath⟩ :=
            exists_row_indexFile (t := r.store.segments) hd hname hstat hsettled
          rw [hcam, hsub] at hpath
          refine .inr ⟨g, ?_, hpath⟩
          rw [hget]
          exact hg
        · exact .inl ⟨hf, hmem⟩
      · refine .inr ⟨g, ?_, hpath⟩
        cases r.store.files.get? x.2.key with
        | none => exact hg
        | some f' => exact Scan.mem_indexFile hg

/-- A step that goes on with the pass. -/
theorem Reaches.step (h : Reaches s c f r) (hcam : c.cameraId = s.cameraId)
    (hsub : c.subdir = s.subdir) (hstat : c.statFails f = false)
    (hsettled : c.includeNewest = true ∨ f.mtime ≤ c.now - seconds 3) {a : Act}
    (hok : r.ok s a = true)
    (hkeeps : keeps (relPathOf s.cameraId s.subdir f.filename) a = true) :
    Reaches s c f (r.step s a) := by
  have hsound := h.sound.step hok
  have hcoming := h.coming
  obtain ⟨ha, horderly⟩ := State.ok_iff.1 hok
  cases a with
  | tick now => exact ⟨hsound, h.file, hcoming⟩
  | start diskId container => exact ⟨hsound, h.file, hcoming⟩
  | roll =>
    have hdate : IsDatetime r.now := of_decide_eq_true ha
    have hlt : r.begun < epochSeconds r.now := of_decide_eq_true horderly
    have hle := r.finished_le
    have hroll := h.sound.roll hdate hlt
    change Reaches s c f (r.roll s)
    rcases r.roll_cases s with heq | ⟨p, -, -, heq⟩ <;> rw [heq] at hroll ⊢
    · exact h
    · have hfile : OfStream s (epochSeconds r.now - 1) f := h.file.mono (by omega)
      refine ⟨hroll, hfile, hcoming.imp_left fun hf => ⟨mem_write.2 (.inl ⟨hf.1, ?_⟩), hf.2⟩⟩
      exact hroll.key_ne hfile _ rfl
  | write bytes =>
    have hwrite := h.sound.write bytes
    change Reaches s c f (r.write bytes)
    rcases r.write_cases bytes with heq | ⟨k, hk, heq⟩ <;> rw [heq] at hwrite ⊢
    · exact h
    · refine ⟨hwrite, h.file, hcoming.imp_left fun hf => ⟨?_, hf.2⟩⟩
      have hne := h.sound.key_ne h.file k hk
      exact State.mem_grown.2 ⟨f, hf.1, by rw [if_neg (by simpa using hne)]⟩
  | exit => exact ⟨hsound, h.file.mono r.finished_le, hcoming⟩
  | list c' => cases hkeeps
  | index => exact h.index hcam hsub hstat hsettled
  | abort => cases hkeeps
  | delete u seg =>
    have hseg : seg ∈ r.store.segments := of_decide_eq_true ha
    have hne : seg.relPath ≠ relPathOf s.cameraId s.subdir f.filename := of_decide_eq_true hkeeps
    refine ⟨hsound, h.file, ?_⟩
    rcases hcoming with ⟨hf, htodo⟩ | ⟨g, hg, hpath⟩
    · refine .inl ⟨SegmentStore.mem_deleteSegment_files.2 ⟨hf, fun hu => hne ?_⟩, htodo⟩
      have hpath := (Prod.mk.inj hu.2.2).2
      rw [h.file.camera, h.file.subdir] at hpath
      exact hpath.symm
    · refine .inr ⟨g, Table.mem_delete.2 ⟨hg, decide_eq_false fun hid => hne ?_⟩, hpath⟩
      rw [← Table.eq_of_key_eq hg hseg hid]
      exact hpath

end

/-- **A pass indexes what is finished.** When a pass that begins in a run of a recorder with an
orderly ffmpeg is over and was not broken off, every file that was in its directory, had the
extension of its container, was not being written and can be read has a row, unless the row was
deleted meanwhile; a pass with the newest file takes it at once, another one when it has not changed
for three seconds and the directory has a later one. -/
theorem pass_indexes {s : Stream} {r q : State} {now : Int} {pre as : List Act} {c : Scan}
    {f : StoredFile} (hpre : Run (State.step s) (fun r a => r.ok s a = true) (.init now) pre r)
    (hc : r.ok s (.list c) = true)
    (h : Run (State.step s) (fun r a => r.ok s a = true ∧
      keeps (relPathOf s.cameraId s.subdir f.filename) a = true) (r.step s (.list c)) as q)
    (hdone : q.todo = []) (hf : f ∈ r.store.files) (hwriting : ∀ k ∈ r.writing, f.key ≠ k)
    (hdisk : f.diskId = c.diskId)
    (hext : f.filename.endsWith ("." ++ segmentExt c.container) = true) (hlist : c.listable = true)
    (hstat : c.statFails f = false)
    (hsettled : c.includeNewest = true ∨
      (∃ w ∈ c.listing r.store.files, f.filename < w.filename) ∧ f.mtime ≤ c.now - seconds 3) :
    ∃ g ∈ q.store.segments, g.relPath = relPathOf s.cameraId s.subdir f.filename := by
  have hr := sound_run hpre
  obtain ⟨hcam, hsub, -⟩ :=
    State.lists_iff.1 ((Bool.and_eq_true _ _).mp (State.ok_iff.1 hc).1).2
  have hof := hr.files f hf hwriting
  obtain ⟨container, d, hd, -, hname⟩ := hof.name
  have hfound : (searchName f.filename).isSome = true := by
    rw [hname]
    exact isSome_searchName hd
  have hlisted : f ∈ c.listing r.store.files := Scan.mem_listing.2
    ⟨hf, hdisk, hof.camera.trans hcam.symm, hof.subdir.trans hsub.symm, hext, hfound⟩
  have hcand : f ∈ c.candidates r.store.files := by
    rw [Scan.candidates_eq, if_pos hlist]
    split
    · exact mem_orderBy.2 hlisted
    · next hnew =>
      obtain ⟨w, hwl, hlater⟩ := (hsettled.resolve_left hnew).1
      exact mem_dropLast_orderBy hlisted hwl hlater
  have hstart : Reaches s c f (r.step s (.list c)) :=
    ⟨hr.step hc, hof, .inl ⟨hf, List.mem_map.2 ⟨f, hcand, rfl⟩⟩⟩
  have hend : Reaches s c f q := h.invariant (fun _ _ hr ha =>
    hr.step hcam hsub hstat (hsettled.imp_right And.right) ha.1 ha.2) hstart
  rcases hend.coming with ⟨-, htodo⟩ | hrow
  · rw [hdone] at htodo
    cases htodo
  · exact hrow

open Fixture in
/-- The pass of the fixture reaches the first file, while the second one is being written. -/
theorem pass_indexes_fixture :
    ∃ g ∈ ((before.step stream (.list pass)).step stream .index).store.segments,
      g.relPath = relPathOf stream.cameraId stream.subdir file.filename := by
  have hpre : Run (State.step stream) (fun r a => r.ok stream a = true)
      (.init (seconds 1709251200)) acts before := Run.of_admits (by decide +kernel)
  have hdone : ((before.step stream (.list pass)).step stream .index).todo.isEmpty = true := by
    decide +kernel
  have hsettled : file.mtime ≤ pass.now - seconds 3 := by decide
  exact pass_indexes (c := pass) (f := file) hpre (by decide +kernel)
    (Run.cons ⟨rfl, rfl⟩ .nil) (List.isEmpty_iff.1 hdone) (by decide +kernel) (by decide +kernel)
    rfl endsWith_segmentName rfl rfl
    (.inr ⟨⟨second, by decide +kernel, by decide +kernel⟩, hsettled⟩)

end Recording

end AeroXProtect
