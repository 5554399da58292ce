import AeroXProtect.Detection.Linker
import AeroXProtect.Lib.Clock
import AeroXProtect.Lib.Cluster
import Mathlib.Data.Finset.Sort
import Mathlib.Data.List.Perm.Basic
import Mathlib.Data.String.Basic

/-!
# Clips

The search shows detections as clips: for each camera the detections are scanned by time, and a
clip is closed where the next detection is more than `CLIP_GAP_MS` later. The scan keeps one open
clip and changes it in place. `Clip.Of` says which detections a clip was made of, and the lists so
obtained are the clusters of the detections (`groupClips_clustered`), so that they do not depend on
the order in which the detections come. The gap is compared as a floating-point number of
milliseconds (`elapsedMs_le_iff`).
-/

open Lib

namespace AeroXProtect

/-! ## The gap -/

/-- `d.total_seconds() * 1000`. -/
def elapsedMs (d : Int) : Double := (Double.ofRat (totalSeconds d)).mul (.finite 1000)

/-- `CLIP_GAP_MS` -/
def clipGapMs : Double := .finite 30000

def clipPre : Int := seconds 5

def clipPost : Int := seconds 10

/-- Whether a detection at `ts` continues a clip whose last one is at `last`. -/
def withinGap (last ts : Int) : Bool := (elapsedMs (ts - last)).le clipGapMs

/-- The product is up to the gap exactly when the difference is: rounding does not carry it over. -/
theorem elapsedMs_le_iff (d : Int) : (elapsedMs d).le clipGapMs = true ↔ d ≤ 30000000 := by
  have hq : totalSeconds d ≤ 30 ↔ d ≤ 30000000 := by
    unfold totalSeconds
    rw [div_le_iff₀ (by norm_num)]
    norm_num
    exact_mod_cast Iff.rfl
  by_cases heq : d = 30000000
  · subst heq
    decide +kernel
  have hfar : 1 / 10 ^ 6 ≤ |totalSeconds d - 30| := by
    have hcast : totalSeconds d - 30 = ((d - 30000000 : Int) : Rat) / 10 ^ 6 := by
      unfold totalSeconds
      push_cast
      ring
    have hone : (1 : Rat) ≤ |((d - 30000000 : Int) : Rat)| := by
      exact_mod_cast Int.one_le_abs (sub_ne_zero.2 heq)
    rw [hcast, abs_div, abs_of_pos (by norm_num : (0 : Rat) < 10 ^ 6)]
    exact div_le_div_of_nonneg_right hone (by norm_num)
  rw [← hq]
  unfold elapsedMs clipGapMs
  rcases Double.ofRat_cases (totalSeconds d) with ⟨r, hr, herror⟩ | ⟨hr, hlarge⟩
  · rw [hr]
    show (Double.ofRat (r * 1000)).le (.finite 30000) = true ↔ _
    rw [abs_le] at herror
    norm_num at hfar herror
    rcases le_or_gt (totalSeconds d) 30 with hqb | hqb
    · rw [abs_of_nonpos (by linarith)] at hfar
      have hr' : r ≤ 30 - 1 / 10 ^ 7 := by
        rcases le_total 0 (totalSeconds d) with hq | hq
        · rw [abs_of_nonneg hq] at herror
          norm_num
          linarith
        · rw [abs_of_nonpos hq] at herror
          norm_num
          linarith
      norm_num at hr'
      rw [Double.le_ofRat_iff (by norm_num) (by norm_num) (by
        rw [abs_of_nonpos (by linarith)]
        norm_num
        linarith)]
      exact iff_of_true (by linarith) hqb
    · rw [abs_of_nonneg (by linarith)] at hfar
      rw [abs_of_nonneg (by linarith)] at herror
      rw [Double.le_ofRat_iff (by norm_num) (by norm_num) (by
        rw [abs_of_nonneg (by linarith)]
        norm_num
        linarith)]
      exact iff_of_false (by linarith) (not_le.2 hqb)
  · rw [hr]
    norm_num at hlarge
    by_cases hneg : totalSeconds d < 0
    · simp only [hneg, decide_true]
      exact iff_of_true (by decide) (by linarith)
    · simp only [hneg, decide_false]
      rw [abs_of_nonneg (not_lt.1 hneg)] at hlarge
      exact iff_of_false (by decide) (by linarith)

/-- `int(dt.timestamp() * 1000)`, the product of which is finite for every datetime. Source:
`to_epoch_ms` (`server/model/__init__.py:66`). -/
def epochMillis (t : Int) : Int :=
  match elapsedMs t with
  | .finite q => q.num.tdiv q.den
  | _ => 0

/-! ## The scan -/

/-- The clip the scan is at, or one it has closed. -/
structure Clip where
  cameraId : Nat
  first : Int
  last : Int
  count : Nat
  labels : Finset String
  trackIds : Finset (Option Int)
  top : Int
  rep : Detection

/-- What the search shows of a clip. -/
structure ClipDto where
  cameraId : String
  startTs : Int
  endTs : Int
  labels : List String
  count : Nat
  trackCount : Nat
  topConfidence : Int
  repDetectionId : String
  segmentId : Option String
  bbox : List Double
  deriving DecidableEq

/-- The clip of one detection. -/
def Clip.start (cameraId : Nat) (d : Detection) : Clip where
  cameraId := cameraId
  first := d.ts
  last := d.ts
  count := 1
  labels := {d.label}
  trackIds := {d.trackId}
  top := d.confidence
  rep := d

/-- A clip with the next detection. -/
def Clip.extend (c : Clip) (d : Detection) : Clip :=
  { c with
    last := d.ts
    count := c.count + 1
    labels := insert d.label c.labels
    trackIds := insert d.trackId c.trackIds
    top := if c.top ≤ d.confidence then d.confidence else c.top
    rep := if c.top ≤ d.confidence then d else c.rep }

/-- The closed clips and the open one. -/
abbrev ClipScan := List Clip × Option Clip

/-- One round of the inner loop. -/
def scanStep (cameraId : Nat) (s : ClipScan) (d : Detection) : ClipScan :=
  match s.2 with
  | some cur =>
    if withinGap cur.last d.ts then (s.1, some (cur.extend d))
    else (s.1 ++ [cur], some (Clip.start cameraId d))
  | none => (s.1, some (Clip.start cameraId d))

/-- The open clip is closed after the last detection. -/
def closeScan (s : ClipScan) : List Clip := s.1 ++ s.2.toList

/-- The clips with those of one camera. -/
def scanCamera (clips : List Clip) (entry : Nat × List Detection) : List Clip :=
  closeScan ((orderBy Detection.ts entry.2).foldl (scanStep entry.1) (clips, none))

/-- `by_cam[d.camera_id].append(d)` -/
def fileByCamera : List (Nat × List Detection) → Detection → List (Nat × List Detection)
  | [], d => [(d.cameraId, [d])]
  | (cameraId, ds) :: rest, d =>
    if cameraId = d.cameraId then (cameraId, ds ++ [d]) :: rest
    else (cameraId, ds) :: fileByCamera rest d

/-- The truth value of the id of a track. -/
def truthyTrack : Option Int → Bool
  | some n => n != 0
  | none => false

/-- `str(id) if id else None` -/
def shownId (id : Option Nat) : Option String := (id.filter (· != 0)).map toString

/-- Source: `_clip_dto` (`server/service/detection_search.py:61`). -/
def Clip.dto (c : Clip) : ClipDto where
  cameraId := toString c.cameraId
  startTs := epochMillis (c.first - clipPre)
  endTs := epochMillis (c.last + clipPost)
  labels := (c.labels.filter (· ≠ "")).sort
  count := c.count
  trackCount := (c.trackIds.filter fun t => truthyTrack t = true).card
  topConfidence := c.top
  repDetectionId := toString c.rep.id
  segmentId := shownId c.rep.segmentId
  bbox := c.rep.bbox

/-- Source: `_group_clips` (`server/service/detection_search.py:33`). -/
def groupClips (rows : List Detection) : List ClipDto :=
  let clips := (rows.foldl fileByCamera []).foldl scanCamera []
  (orderBy (fun c => -c.first) clips).map Clip.dto

/-! ## The members of a clip -/

/-- The clip was made of the detections `g`, in their order. -/
structure Clip.Of (c : Clip) (g : List Detection) : Prop where
  camera : ∀ d ∈ g, d.cameraId = c.cameraId
  first : g.head?.map Detection.ts = some c.first
  last : g.getLast?.map Detection.ts = some c.last
  count : c.count = g.length
  labels : c.labels = (g.map Detection.label).toFinset
  trackIds : c.trackIds = (g.map Detection.trackId).toFinset
  top : ∀ d ∈ g, d.confidence ≤ c.top
  rep : c.rep ∈ g ∧ c.rep.confidence = c.top

section
variable {c : Clip} {g : List Detection} {d : Detection} {cameraId : Nat}

theorem Clip.of_start (hd : d.cameraId = cameraId) : (Clip.start cameraId d).Of [d] where
  camera := by simpa [start] using hd
  first := rfl
  last := rfl
  count := rfl
  labels := by simp [start]
  trackIds := by simp [start]
  top := by simp [start]
  rep := ⟨List.mem_singleton_self d, rfl⟩

theorem Clip.Of.extend (h : c.Of g) (hd : d.cameraId = c.cameraId) :
    (c.extend d).Of (g ++ [d]) where
  camera := by
    intro x hx
    rcases List.mem_append.1 hx with hx | hx
    · exact h.camera x hx
    · rw [List.mem_singleton.1 hx, hd]
      rfl
  first := by
    have hne : g ≠ [] := List.ne_nil_of_mem h.rep.1
    rw [List.head?_append_of_ne_nil g hne, h.first]
    rfl
  last := by simp [Clip.extend]
  count := by simp [Clip.extend, h.count]
  labels := by
    ext l
    simp [Clip.extend, h.labels]
  trackIds := by
    ext t
    simp [Clip.extend, h.trackIds]
  top := by
    intro x hx
    unfold Clip.extend
    simp only
    rcases List.mem_append.1 hx with hx | hx
    · have := h.top x hx
      split <;> omega
    · rw [List.mem_singleton.1 hx]
      split <;> omega
  rep := by
    unfold Clip.extend
    simp only
    split
    · exact ⟨by simp, rfl⟩
    · exact ⟨List.mem_append_left _ h.rep.1, h.rep.2⟩

/-- The scan makes its clips of the pieces of the list of detections. `m` and `a` are the
detections of the open clip, `a` the last of them. -/
theorem forall₂_foldl_scanStep {ds m : List Detection} {a : Detection} {clips : List Clip}
    {pieces : List (List Detection)} (hds : ∀ d ∈ ds, d.cameraId = cameraId)
    (hc : c.cameraId = cameraId) (hclips : List.Forall₂ Clip.Of clips pieces.reverse)
    (hcur : c.Of (a :: m).reverse) :
    List.Forall₂ Clip.Of (closeScan (ds.foldl (scanStep cameraId) (clips, some c)))
      (List.splitBy.loop (fun a b => withinGap a.ts b.ts) ds a m pieces) := by
  induction ds generalizing m a c clips pieces with
  | nil =>
    rw [List.splitBy.loop, List.reverse_cons]
    exact List.rel_append hclips (.cons hcur .nil)
  | cons d ds ih =>
    have hd : d.cameraId = cameraId := hds d (.head _)
    have hlast : c.last = a.ts := by simpa using hcur.last.symm
    have hds' := fun x hx => hds x (.tail d hx)
    rw [List.splitBy.loop]
    cases hgap : withinGap a.ts d.ts with
    | true =>
      have hstep : scanStep cameraId (clips, some c) d = (clips, some (c.extend d)) := by
        simp [scanStep, hlast, hgap]
      have hext : (c.extend d).Of (d :: a :: m).reverse := by
        rw [List.reverse_cons]
        exact hcur.extend (hd.trans hc.symm)
      rw [List.foldl_cons, hstep]
      exact ih hds' (show (c.extend d).cameraId = cameraId from hc) hclips hext
    | false =>
      have hstep : scanStep cameraId (clips, some c) d =
          (clips ++ [c], some (Clip.start cameraId d)) := by
        simp [scanStep, hlast, hgap]
      have hclosed : List.Forall₂ Clip.Of (clips ++ [c]) ((a :: m).reverse :: pieces).reverse := by
        rw [List.reverse_cons]
        exact List.rel_append hclips (.cons hcur .nil)
      rw [List.foldl_cons, hstep]
      exact ih hds' rfl hclosed (Clip.of_start hd)

/-- What a scan has closed before stays in front. -/
theorem foldl_scanStep_append {ds : List Detection} {clips : List Clip} {cur : Option Clip} :
    ds.foldl (scanStep cameraId) (clips, cur) =
      (clips ++ (ds.foldl (scanStep cameraId) ([], cur)).1,
        (ds.foldl (scanStep cameraId) ([], cur)).2) := by
  have hstep : ∀ (clips : List Clip) (cur : Option Clip) (d : Detection),
      scanStep cameraId (clips, cur) d =
        (clips ++ (scanStep cameraId ([], cur) d).1, (scanStep cameraId ([], cur) d).2) := by
    intro clips cur d
    cases cur with
    | none => simp [scanStep]
    | some c =>
      unfold scanStep
      simp only
      split <;> simp
  induction ds generalizing clips cur with
  | nil => simp
  | cons d ds ih =>
    rw [List.foldl_cons, List.foldl_cons, hstep clips cur d, ih,
      @ih (scanStep cameraId ([], cur) d).1]
    simp

/-- The clips of one camera are made of the pieces of its detections. -/
theorem forall₂_scanCamera {clips : List Clip} {groups : List (List Detection)}
    {ds : List Detection} (hds : ∀ d ∈ ds, d.cameraId = cameraId)
    (hclips : List.Forall₂ Clip.Of clips groups) :
    List.Forall₂ Clip.Of (scanCamera clips (cameraId, ds))
      (groups ++ (orderBy Detection.ts ds).splitBy fun a b => withinGap a.ts b.ts) := by
  have hsorted : ∀ d ∈ orderBy Detection.ts ds, d.cameraId = cameraId :=
    fun d hd => hds d (mem_orderBy.1 hd)
  unfold scanCamera
  rw [foldl_scanStep_append]
  unfold closeScan
  rw [List.append_assoc]
  refine List.rel_append hclips ?_
  cases horder : orderBy Detection.ts ds with
  | nil => exact .nil
  | cons d rest =>
    rw [horder] at hsorted
    exact forall₂_foldl_scanStep (fun x hx => hsorted x (.tail d hx)) rfl .nil
      (Clip.of_start (hsorted d (.head _)))

end

/-! ## The detections of the cameras -/

/-- The entries hold the detections of different cameras, together all of them. -/
structure FiledByCamera (rows : List Detection) (entries : List (Nat × List Detection)) : Prop where
  keys : entries.Pairwise fun e e' => e.1 ≠ e'.1
  camera : ∀ e ∈ entries, ∀ d ∈ e.2, d.cameraId = e.1
  perm : (entries.flatMap Prod.snd).Perm rows

section
variable {rows : List Detection} {entries : List (Nat × List Detection)} {d : Detection}

theorem key_of_mem_fileByCamera {e : Nat × List Detection} (h : e ∈ fileByCamera entries d) :
    e.1 = d.cameraId ∨ ∃ e' ∈ entries, e'.1 = e.1 := by
  induction entries with
  | nil =>
    rw [List.mem_singleton.1 h]
    exact .inl rfl
  | cons x entries ih =>
    unfold fileByCamera at h
    split at h
    · rcases List.mem_cons.1 h with rfl | h
      · exact .inr ⟨x, .head _, rfl⟩
      · exact .inr ⟨e, .tail _ h, rfl⟩
    · rcases List.mem_cons.1 h with rfl | h
      · exact .inr ⟨_, .head _, rfl⟩
      · exact (ih h).imp_right fun ⟨e', he', hkey⟩ => ⟨e', .tail _ he', hkey⟩

theorem FiledByCamera.file (h : FiledByCamera rows entries) :
    FiledByCamera (rows ++ [d]) (fileByCamera entries d) := by
  obtain ⟨hkeys, hcam, hperm⟩ := h
  suffices hfile : (fileByCamera entries d).Pairwise (fun e e' => e.1 ≠ e'.1) ∧
      (∀ e ∈ fileByCamera entries d, ∀ x ∈ e.2, x.cameraId = e.1) ∧
      ((fileByCamera entries d).flatMap Prod.snd).Perm (entries.flatMap Prod.snd ++ [d]) from
    ⟨hfile.1, hfile.2.1, hfile.2.2.trans (hperm.append_right [d])⟩
  clear hperm
  induction entries with
  | nil => simp [fileByCamera]
  | cons x entries ih =>
    obtain ⟨cameraId, ds⟩ := x
    rw [List.pairwise_cons] at hkeys
    obtain ⟨ih₁, ih₂, ih₃⟩ := ih hkeys.2 fun e he => hcam e (.tail _ he)
    have hhead := hcam _ (List.mem_cons_self (a := (cameraId, ds)))
    unfold fileByCamera
    split
    · next heq =>
      refine ⟨List.pairwise_cons.2 hkeys, fun e he => ?_, ?_⟩
      · rcases List.mem_cons.1 he with rfl | he
        · intro x hx
          rcases List.mem_append.1 hx with hx | hx
          · exact hhead x hx
          · rw [List.mem_singleton.1 hx, heq]
        · exact hcam e (.tail _ he)
      · simp only [List.flatMap_cons, List.append_assoc]
        exact List.perm_append_comm.append_left ds
    · next hne =>
      refine ⟨List.pairwise_cons.2 ⟨fun e he hkey => ?_, ih₁⟩, fun e he => ?_, ?_⟩
      · rcases key_of_mem_fileByCamera he with h | ⟨e', he', h⟩
        · exact hne (hkey.trans h)
        · exact hkeys.1 e' he' (hkey.trans h.symm)
      · rcases List.mem_cons.1 he with rfl | he
        · exact hhead
        · exact ih₂ e he
      · simp only [List.flatMap_cons, List.append_assoc]
        exact ih₃.append_left ds

theorem filedByCamera (rows : List Detection) :
    FiledByCamera rows (rows.foldl fileByCamera []) := by
  induction rows using List.reverseRecOn with
  | nil => exact ⟨.nil, fun _ he => absurd he List.not_mem_nil, .nil⟩
  | append_singleton rows d ih =>
    rw [List.foldl_append]
    exact ih.file

/-! ## The clusters -/

theorem withinGap_iff {last ts : Int} : withinGap last ts = true ↔ ts - last ≤ 30000000 :=
  elapsedMs_le_iff _

theorem nearness_withinGap : Nearness withinGap where
  refl a := by
    rw [withinGap_iff]
    omega
  shrink h₁ h₂ h := by
    rw [withinGap_iff] at h ⊢
    omega

/-- The clips of the entries of different cameras are made of the clusters of their detections. -/
theorem clustered_foldl_scanCamera {seen : List Detection} {clips : List Clip}
    {groups : List (List Detection)} (hkeys : entries.Pairwise fun e e' => e.1 ≠ e'.1)
    (hcam : ∀ e ∈ entries, ∀ d ∈ e.2, d.cameraId = e.1)
    (hseen : ∀ e ∈ entries, ∀ d ∈ seen, d.cameraId ≠ e.1)
    (hclips : List.Forall₂ Clip.Of clips groups)
    (hgroups : Clustered withinGap Detection.cameraId Detection.ts seen groups) :
    ∃ groups', List.Forall₂ Clip.Of (entries.foldl scanCamera clips) groups' ∧
      Clustered withinGap Detection.cameraId Detection.ts (seen ++ entries.flatMap Prod.snd)
        groups' := by
  induction entries generalizing seen clips groups with
  | nil => exact ⟨groups, hclips, by simpa using hgroups⟩
  | cons e entries ih =>
    obtain ⟨cameraId, ds⟩ := e
    rw [List.pairwise_cons] at hkeys
    have hds : ∀ d ∈ ds, d.cameraId = cameraId := hcam _ (.head _)
    have hpiece := clustered_splitBy nearness_withinGap (pairwise_orderBy Detection.ts ds)
      fun a ha b hb => (hds a (mem_orderBy.1 ha)).trans (hds b (mem_orderBy.1 hb)).symm
    have hboth := hgroups.append (hpiece.of_perm (perm_orderBy _ _) (.refl _)) fun a ha b hb => by
      rw [hds b hb]
      exact hseen _ (.head _) a ha
    rw [List.flatMap_cons, ← List.append_assoc]
    refine ih hkeys.2 (fun e he => hcam e (.tail _ he)) (fun e he d hd => ?_)
      (forall₂_scanCamera hds hclips) hboth
    rcases List.mem_append.1 hd with hd | hd
    · exact hseen e (.tail _ he) d hd
    · rw [hds d hd]
      exact hkeys.1 e he

/-- The clips of a list of detections are made of its clusters. -/
theorem clustered_groupClips (rows : List Detection) :
    ∃ clips groups, groupClips rows = clips.map Clip.dto ∧ List.Forall₂ Clip.Of clips groups ∧
      Clustered withinGap Detection.cameraId Detection.ts rows groups := by
  obtain ⟨hkeys, hcam, hperm⟩ := filedByCamera rows
  obtain ⟨groups, hclips, hgroups⟩ :=
    clustered_foldl_scanCamera hkeys hcam (fun _ _ _ hd => absurd hd List.not_mem_nil) .nil .nil
  obtain ⟨groups', hclips', hsame⟩ :=
    List.perm_comp_forall₂ (perm_orderBy (fun c => -c.first) _) hclips
  exact ⟨_, groups', rfl, hclips', hgroups.of_perm (by simpa using hperm) hsame.symm⟩

end

/-! ## What a clip shows -/

/-- What the search shows of the detections `g`. -/
structure ClipDto.Describes (c : ClipDto) (g : List Detection) : Prop where
  camera : ∀ d ∈ g, c.cameraId = toString d.cameraId
  startTs : ∃ d ∈ g, (∀ e ∈ g, d.ts ≤ e.ts) ∧ c.startTs = epochMillis (d.ts - clipPre)
  endTs : ∃ d ∈ g, (∀ e ∈ g, e.ts ≤ d.ts) ∧ c.endTs = epochMillis (d.ts + clipPost)
  labels : c.labels = ((g.map Detection.label).toFinset.filter (· ≠ "")).sort
  count : c.count = g.length
  trackCount : c.trackCount =
    ((g.map Detection.trackId).toFinset.filter fun t => truthyTrack t = true).card
  top : ∀ d ∈ g, d.confidence ≤ c.topConfidence
  rep : ∃ d ∈ g, d.confidence = c.topConfidence ∧ c.repDetectionId = toString d.id ∧
    c.segmentId = shownId d.segmentId ∧ c.bbox = d.bbox

/-- A clip without what it shows of its representative. -/
def ClipDto.withoutRep (c : ClipDto) : ClipDto :=
  { c with repDetectionId := "", segmentId := none, bbox := [] }

section
variable {c : Clip} {g g' : List Detection} {dto dto' : ClipDto}

theorem Clip.Of.describes (h : c.Of g) (hsorted : g.Pairwise fun a b => a.ts ≤ b.ts) :
    c.dto.Describes g where
  camera := by
    intro d hd
    rw [h.camera d hd]
    rfl
  startTs := by
    obtain ⟨d, hd, hts⟩ := Option.map_eq_some_iff.1 h.first
    obtain ⟨rest, rfl⟩ := List.head?_eq_some_iff.1 hd
    refine ⟨d, .head _, fun e he => ?_, by rw [hts]; rfl⟩
    rcases List.mem_cons.1 he with rfl | he
    · exact le_rfl
    · exact (List.pairwise_cons.1 hsorted).1 e he
  endTs := by
    obtain ⟨d, hd, hts⟩ := Option.map_eq_some_iff.1 h.last
    obtain ⟨before, rfl⟩ := List.getLast?_eq_some_iff.1 hd
    refine ⟨d, by simp, fun e he => ?_, by rw [hts]; rfl⟩
    rcases List.mem_append.1 he with he | he
    · exact (List.pairwise_append.1 hsorted).2.2 e he d (.head _)
    · rw [List.mem_singleton.1 he]
  labels := by
    rw [← h.labels]
    rfl
  count := h.count
  trackCount := by
    rw [← h.trackIds]
    rfl
  top := h.top
  rep := ⟨c.rep, h.rep.1, h.rep.2, rfl, rfl, rfl⟩

/-- Two clips of the same detections show the same, but for the representative. -/
theorem ClipDto.Describes.withoutRep_eq (h : dto.Describes g) (h' : dto'.Describes g')
    (hg : g.Perm g') : dto.withoutRep = dto'.withoutRep := by
  obtain ⟨d, hd, hmin, hstart⟩ := h.startTs
  obtain ⟨d', hd', hmin', hstart'⟩ := h'.startTs
  obtain ⟨e, he, hmax, hend⟩ := h.endTs
  obtain ⟨e', he', hmax', hend'⟩ := h'.endTs
  obtain ⟨r, hr, htop, -⟩ := h.rep
  obtain ⟨r', hr', htop', -⟩ := h'.rep
  have hcam : dto.cameraId = dto'.cameraId := by
    rw [h.camera d hd, h'.camera d (hg.subset hd)]
  have hfirst : d.ts = d'.ts := le_antisymm (hmin d' (hg.symm.subset hd')) (hmin' d (hg.subset hd))
  have hlast : e.ts = e'.ts := le_antisymm (hmax' e (hg.subset he)) (hmax e' (hg.symm.subset he'))
  have hconf : dto.topConfidence = dto'.topConfidence := by
    refine le_antisymm ?_ ?_
    · exact htop ▸ h'.top r (hg.subset hr)
    · exact htop' ▸ h.top r' (hg.symm.subset hr')
  have hlabels : dto.labels = dto'.labels := by
    rw [h.labels, h'.labels, List.toFinset_eq_of_perm _ _ (hg.map Detection.label)]
  have htracks : dto.trackCount = dto'.trackCount := by
    rw [h.trackCount, h'.trackCount, List.toFinset_eq_of_perm _ _ (hg.map Detection.trackId)]
  have hcount : dto.count = dto'.count := by rw [h.count, h'.count, hg.length_eq]
  unfold ClipDto.withoutRep
  rw [hcam, hstart, hstart', hfirst, hend, hend', hlast, hconf, hlabels, htracks, hcount]

end

/-! ## The clips of a list -/

/-- No detection of the camera of two detections is between them. -/
structure Consecutive (rows : List Detection) (d e : Detection) : Prop where
  camera : d.cameraId = e.cameraId
  le : d.ts ≤ e.ts
  none : ∀ x ∈ rows, x.cameraId = d.cameraId → ¬ (d.ts < x.ts ∧ x.ts < e.ts)

/-- The groups are the detections of the clips. -/
structure ClipGroups (rows : List Detection) (groups : List (List Detection)) : Prop where
  partition : groups.flatten.Perm rows
  nonempty : [] ∉ groups
  disjoint : groups.Pairwise List.Disjoint
  camera : ∀ g ∈ groups, ∀ d ∈ g, ∀ e ∈ g, d.cameraId = e.cameraId
  gap : ∀ d ∈ rows, ∀ e ∈ rows, Consecutive rows d e →
    ((∃ g ∈ groups, d ∈ g ∧ e ∈ g) ↔ e.ts - d.ts ≤ 30000000)

theorem clipGroups_of_clustered {rows : List Detection} {groups : List (List Detection)}
    (h : Clustered withinGap Detection.cameraId Detection.ts rows groups) :
    ClipGroups rows groups where
  partition := h.perm
  nonempty := h.nonempty
  disjoint := h.disjoint nearness_withinGap
  camera := fun _ hg _ hd _ he => h.same_key hg hd he
  gap := by
    intro d hd e he hnext
    rw [h.same_iff nearness_withinGap hd he hnext.camera hnext.le hnext.none, withinGap_iff]

/-- The clips that are shown describe the clusters. -/
theorem groupClips_describes (rows : List Detection) :
    ∃ groups, List.Forall₂ ClipDto.Describes (groupClips rows) groups ∧
      Clustered withinGap Detection.cameraId Detection.ts rows groups := by
  obtain ⟨clips, groups, heq, hof, hgroups⟩ := clustered_groupClips rows
  refine ⟨groups, ?_, hgroups⟩
  rw [heq, List.forall₂_map_left_iff]
  refine List.forall₂_iff_zip.2 ⟨hof.length_eq, fun hmem => ?_⟩
  exact ((List.forall₂_iff_zip.1 hof).2 hmem).describes (hgroups.sorted (List.of_mem_zip hmem).2)

/-- What is shown, but for the representative, of the detections `m` in whatever order. -/
def ClipDto.Shows (c : ClipDto) (m : Multiset Detection) : Prop :=
  ∃ dto : ClipDto, ∃ g, dto.Describes g ∧ c = dto.withoutRep ∧ m = Multiset.ofList g

theorem ClipDto.leftUnique_shows : Relator.LeftUnique ClipDto.Shows := by
  rintro c m c' ⟨dto, g, hdto, rfl, rfl⟩ ⟨dto', g', hdto', rfl, hg⟩
  exact hdto.withoutRep_eq hdto' (Multiset.coe_eq_coe.1 hg)

theorem forall₂_shows {dtos : List ClipDto} {groups : List (List Detection)}
    (h : List.Forall₂ ClipDto.Describes dtos groups) :
    List.Forall₂ ClipDto.Shows (dtos.map ClipDto.withoutRep) (groups.map Multiset.ofList) := by
  rw [List.forall₂_map_left_iff, List.forall₂_map_right_iff]
  exact h.imp fun dto g hdto => ⟨dto, g, hdto, rfl, rfl⟩

/-- Clips that describe the same groups show the same, but for the representatives. -/
theorem withoutRep_perm {dtos dtos' : List ClipDto} {groups groups' : List (List Detection)}
    (h : List.Forall₂ ClipDto.Describes dtos groups)
    (h' : List.Forall₂ ClipDto.Describes dtos' groups')
    (hgroups : (groups.map Multiset.ofList).Perm (groups'.map Multiset.ofList)) :
    (dtos.map ClipDto.withoutRep).Perm (dtos'.map ClipDto.withoutRep) := by
  have hcomp : Relation.Comp List.Perm (List.Forall₂ ClipDto.Shows)
      (dtos.map ClipDto.withoutRep) (groups'.map Multiset.ofList) := by
    rw [← List.forall₂_comp_perm_eq_perm_comp_forall₂]
    exact ⟨_, forall₂_shows h, hgroups⟩
  obtain ⟨shown, hperm, hshown⟩ := hcomp
  rwa [List.left_unique_forall₂' ClipDto.leftUnique_shows hshown (forall₂_shows h')] at hperm

/-- **Clips.** For every list of detections, in any order: the clips that are shown describe groups
that partition the list, each of one camera, such that two consecutive detections of a camera are in
one group exactly when they are at most the gap apart; and any other order of the list shows the
same clips of the same groups, but for the representatives. -/
theorem group_clips_exact (rows : List Detection) :
    ∃ groups, List.Forall₂ ClipDto.Describes (groupClips rows) groups ∧ ClipGroups rows groups ∧
      ∀ rows', List.Perm rows' rows →
        ((groupClips rows').map ClipDto.withoutRep).Perm
            ((groupClips rows).map ClipDto.withoutRep) ∧
          ∃ groups', List.Forall₂ ClipDto.Describes (groupClips rows') groups' ∧
            (groups'.map Multiset.ofList).Perm (groups.map Multiset.ofList) := by
  obtain ⟨groups, hdtos, hgroups⟩ := groupClips_describes rows
  refine ⟨groups, hdtos, clipGroups_of_clustered hgroups, fun rows' hrows => ?_⟩
  obtain ⟨groups', hdtos', hgroups'⟩ := groupClips_describes rows'
  have hperm := hgroups'.unique nearness_withinGap hgroups hrows
  exact ⟨withoutRep_perm hdtos' hdtos hperm, groups', hdtos', hperm⟩

/-- A person seen by camera 1. -/
def SearchFixture.seen (id : Nat) (ts : Int) : Detection :=
  ⟨id, 1, ts, "person", 80, none, [], none⟩

example : (groupClips [SearchFixture.seen 2 30000000, SearchFixture.seen 1 0]).map ClipDto.count =
    [2] := by
  decide +kernel

example : (groupClips [SearchFixture.seen 2 30000001, SearchFixture.seen 1 0]).map ClipDto.count =
    [1, 1] := by
  decide +kernel

end AeroXProtect
