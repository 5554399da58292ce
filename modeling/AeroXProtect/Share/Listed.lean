import AeroXProtect.Share.Link

/-!
# What is listed and what is served

A view lists the segments of the clip with a range query, and a fetch authorises one segment with a
test of its own. The query takes the playable segments of the main stream that overlap the window;
the test takes every segment of the camera that overlaps the window or touches it. So every listed
segment is served, and `listedServed_iff` says which segments are served besides.
-/

open Lib

namespace AeroXProtect

/-- The token of the link serves exactly the segments that its view lists. -/
structure ListedServed (c : ShareConfig) (w : ShareWorld) (l : ShareLink) : Prop where
  authorized : ∀ g ∈ w.segments,
    authorizeSegment l (some g) = true ↔ g ∈ segmentsFor w.segments l
  fetched : ∀ token now, w.resolve c token = some l → l.isLive now = true → ∀ id g,
    w.publicSegmentPath c token id now = .ok g ↔ g ∈ segmentsFor w.segments l ∧ g.id = id

/-- The segments of the camera in the closed window of the link are playable segments of the main
stream, and none of them begins at its end or ends at its beginning. -/
def CleanWindow (t : Segments) (l : ShareLink) : Prop :=
  ∀ start stop, l.rangeStart = some start → l.rangeEnd = some stop → ∀ g ∈ t,
    g.cameraId = l.cameraId → g.startTs ≤ stop → start ≤ g.endTs →
    g.streamRole = .main ∧ g.corrupt = false ∧ g.startTs ≠ stop ∧ g.endTs ≠ start

section
variable {c : ShareConfig} {w : ShareWorld} {t : Segments} {l : ShareLink}

/-- In a clean window every segment that is authorised is listed. -/
theorem mem_of_authorizeSegment (h : CleanWindow t l) {g : Segment} (hg : g ∈ t)
    (hauth : authorizeSegment l (some g) = true) : g ∈ segmentsFor t l := by
  obtain ⟨hcam, start, stop, hstart, hstop, hle, hge⟩ := authorizeSegment_some.1 hauth
  obtain ⟨hrole, hcorrupt, hne, hne'⟩ := h start stop hstart hstop g hg hcam hle hge
  have hlt : g.startTs < stop := lt_of_le_of_ne hle hne
  have hgt : start < g.endTs := lt_of_le_of_ne hge hne'.symm
  exact mem_segmentsFor.2 ⟨hg, hcam, hcorrupt, hrole, start, stop, hstart, hstop, hlt, hgt⟩

/-- If every segment that is authorised is listed, the window is clean. -/
theorem cleanWindow_of_listed
    (h : ∀ g ∈ t, authorizeSegment l (some g) = true → g ∈ segmentsFor t l) : CleanWindow t l := by
  intro start stop hstart hstop g hg hcam hle hge
  have hlisted := h g hg (authorizeSegment_some.2 ⟨hcam, start, stop, hstart, hstop, hle, hge⟩)
  obtain ⟨-, -, hcorrupt, hrole, start', stop', hstart', hstop', hlt, hgt⟩ :=
    mem_segmentsFor.1 hlisted
  cases hstart.symm.trans hstart'
  cases hstop.symm.trans hstop'
  exact ⟨hrole, hcorrupt, by omega, by omega⟩

/-- A token serves what is listed when the two tests agree. -/
theorem fetched_of_authorized
    (h : ∀ g ∈ w.segments, authorizeSegment l (some g) = true ↔ g ∈ segmentsFor w.segments l)
    {token : String} {now : Int} (hres : w.resolve c token = some l) (hlive : l.isLive now = true)
    (id : Nat) (g : Segment) : w.publicSegmentPath c token id now = .ok g ↔
      g ∈ segmentsFor w.segments l ∧ g.id = id := by
  rw [publicSegmentPath_ok]
  constructor
  · rintro ⟨l', hres', -, hg, hid, hauth⟩
    cases hres.symm.trans hres'
    exact ⟨(h g hg).1 hauth, hid⟩
  · rintro ⟨hlisted, hid⟩
    have hg := (mem_segmentsFor.1 hlisted).1
    exact ⟨l, hres, hlive, hg, hid, (h g hg).2 hlisted⟩

end

/-- **Listed equals served.** The token of a link serves exactly the segments that are listed if and
only if its window is clean: no segment of another stream, no corrupt one, and none that only
touches the window. -/
theorem listedServed_iff (c : ShareConfig) (w : ShareWorld) (l : ShareLink) :
    ListedServed c w l ↔ CleanWindow w.segments l := by
  constructor
  · intro h
    exact cleanWindow_of_listed fun g hg => (h.authorized g hg).1
  · intro h
    have hauth : ∀ g ∈ w.segments,
        authorizeSegment l (some g) = true ↔ g ∈ segmentsFor w.segments l := fun g hg =>
      ⟨mem_of_authorizeSegment h hg, fun hlisted => (authorizeSegment_of_mem hlisted).2⟩
    exact ⟨hauth, fun token now hres hlive => fetched_of_authorized hauth hres hlive⟩

namespace ListedFixture

open ShareFixture

/-- A segment of the minute before the window, one of the sub stream, and a corrupt one. -/
def before : Segment := ⟨21, 1, 1, "before.mp4", -60, 0, 8, .main, false⟩

def sub : Segment := ⟨22, 1, 1, "sub/seg.mp4", 10, 70, 2, .sub, false⟩

def corrupt : Segment := ⟨23, 1, 1, "zero.mp4", 70, 70, 0, .main, true⟩

def world : ShareWorld :=
  { ShareFixture.world (openLink none) 1 with segments := ⟨[before, sub, corrupt], by decide⟩ }

end ListedFixture

section
open ListedFixture ShareFixture

/-- The token fetches a segment that ends where the window begins, one of the sub stream and a
corrupt one, and none of them is listed. -/
theorem unlisted_served : (openLink none).isLive 5 = true ∧
    segmentsFor ListedFixture.world.segments (openLink none) = [] ∧
    (∀ g ∈ [before, sub, corrupt],
      ListedFixture.world.publicSegmentPath config "tok" g.id 5 = .ok g) ∧
    ¬ ListedServed config ListedFixture.world (openLink none) := by
  have hlisted : segmentsFor ListedFixture.world.segments (openLink none) = [] := by decide +kernel
  have hauth : authorizeSegment (openLink none) (some before) = true := by decide
  refine ⟨by decide, hlisted, by decide +kernel, fun h => ?_⟩
  have hmem := (h.authorized before (by decide)).1 hauth
  rw [hlisted] at hmem
  cases hmem

end

end AeroXProtect
