import AeroXProtect.Playback.Timeline

/-!
# The segment at an instant

`Segment.get_at` links a detection and opens the player at an instant; `Segment.get_range` draws the
timeline. The range keeps the playable segments of the main stream, the lookup takes whatever the
camera has. `getAt_agrees_iff` says when the two agree, and `Segments.Agrees.on_timeline` that then
a lookup points into a range of the timeline.
-/

open Lib Lib.Interval

namespace AeroXProtect

/-- A segment the timeline leaves out. -/
def Segment.Hidden (g : Segment) : Prop := g.corrupt = true ∨ g.streamRole ≠ .main

/-- The lookup of an instant against the segments of the windows around it. -/
structure Segments.Agrees (t : Segments) (cameraId : Nat) (ts : Int) : Prop where
  none_iff : ∀ start stop, start ≤ ts → ts < stop →
    (t.getAt cameraId ts = none ↔
      ∀ g ∈ t.getRange cameraId start stop (some .main), ¬ Covers g.span ts)
  listed : ∀ g, t.getAt cameraId ts = some g → Covers g.span ts ∧
    ∀ start stop, start ≤ ts → ts < stop → g ∈ t.getRange cameraId start stop (some .main)

/-- A hidden segment is passed over for a playable one that contains the instant and comes first:
it starts later, or at the same time and is earlier in the table. -/
def Segments.Superseded (t : Segments) (cameraId : Nat) (ts : Int) (g : Segment) : Prop :=
  ∃ g' ∈ t, g'.Recorded cameraId ∧ Covers g'.span ts ∧
    Precedes (fun s => -s.startTs) t.rows g' g

section
variable {t : Segments} {cameraId : Nat} {ts : Int} {g g' : Segment}

theorem Segment.recorded_or_hidden (hcam : g.cameraId = cameraId) :
    g.Recorded cameraId ∨ g.Hidden := by
  by_cases hsound : g.corrupt = true
  · exact .inr (.inl hsound)
  by_cases hmain : g.streamRole = .main
  · exact .inl ⟨hcam, Bool.not_eq_true _ ▸ hsound, hmain⟩
  · exact .inr (.inr hmain)

theorem Segment.Recorded.not_hidden (h : g.Recorded cameraId) : ¬ g.Hidden := by
  rintro (hcorrupt | hrole)
  · rw [h.sound] at hcorrupt
    cases hcorrupt
  · exact hrole h.main

namespace Segments

/-- The segments of a camera that contain an instant, in the order of the table. -/
def containing (t : Segments) (cameraId : Nat) (ts : Int) : List Segment :=
  t.rows.filter fun s =>
    decide (s.cameraId = cameraId) && decide (s.startTs ≤ ts) && decide (s.endTs > ts)

theorem mem_containing :
    g ∈ t.containing cameraId ts ↔ g ∈ t ∧ g.cameraId = cameraId ∧ Covers g.span ts := by
  simp [containing, Covers, Segment.span, and_assoc]

theorem nodup_containing : (t.containing cameraId ts).Nodup := t.nodup_rows.filter _

theorem mem_of_getAt (h : t.getAt cameraId ts = some g) : g ∈ t.containing cameraId ts :=
  mem_orderBy.1 (List.mem_of_head? h)

theorem getAt_eq_none_iff : t.getAt cameraId ts = none ↔ t.containing cameraId ts = [] := by
  unfold getAt
  rw [List.head?_eq_none_iff, ← List.length_eq_zero_iff, (perm_orderBy _ _).length_eq,
    List.length_eq_zero_iff]
  rfl

/-- The segment of a lookup comes before the others that contain the instant. -/
theorem precedes_of_getAt (h : t.getAt cameraId ts = some g)
    (hg' : g' ∈ t.containing cameraId ts) (hne : g' ≠ g) :
    Precedes (fun s => -s.startTs) t.rows g g' := by
  rcases precedes_of_head? nodup_containing h hg' hne with hlt | ⟨heq, hpair⟩
  · exact .inl hlt
  · exact .inr ⟨heq, hpair.trans List.filter_sublist⟩

/-- A window around an instant shows the playable segments that contain it. -/
theorem mem_getRange_of_covers {start stop : Int} (hmem : g ∈ t) (hrec : g.Recorded cameraId)
    (hcov : Covers g.span ts) (hstart : start ≤ ts) (hstop : ts < stop) :
    g ∈ t.getRange cameraId start stop (some .main) :=
  mem_getRange_main.2 ⟨hmem, hrec, hcov.1.trans_lt hstop, hstart.trans_lt hcov.2⟩

/-- The lookup agrees when what it answers is playable. -/
theorem agrees_of_recorded (h : ∀ g, t.getAt cameraId ts = some g → g.Recorded cameraId) :
    t.Agrees cameraId ts where
  none_iff := by
    intro start stop hstart hstop
    constructor
    · intro hnone g hg hcov
      obtain ⟨hmem, hrec, -⟩ := mem_getRange_main.1 hg
      have hin := mem_containing.2 ⟨hmem, hrec.camera, hcov⟩
      rw [getAt_eq_none_iff.1 hnone] at hin
      cases hin
    · intro hall
      cases hat : t.getAt cameraId ts with
      | none => rfl
      | some g =>
        obtain ⟨hmem, -, hcov⟩ := mem_containing.1 (mem_of_getAt hat)
        exact absurd hcov (hall g (mem_getRange_of_covers hmem (h g hat) hcov hstart hstop))
  listed := by
    intro g hat
    obtain ⟨hmem, -, hcov⟩ := mem_containing.1 (mem_of_getAt hat)
    exact ⟨hcov, fun _ _ => mem_getRange_of_covers hmem (h g hat) hcov⟩

/-- Where the lookup agrees, it answers a playable segment. -/
theorem Agrees.recorded (h : t.Agrees cameraId ts) (hat : t.getAt cameraId ts = some g) :
    g.Recorded cameraId :=
  (mem_getRange_main.1 ((h.listed g hat).2 ts (ts + 1) le_rfl (by omega))).2.1

/-- A lookup that agrees points into a range of the timeline of every window around the instant. -/
theorem Agrees.on_timeline (h : t.Agrees cameraId ts) (hat : t.getAt cameraId ts = some g)
    (durationMs : Segment → Int) {start stop : Int} (hstart : start ≤ ts) (hstop : ts < stop) :
    Covered (buildTimeline durationMs t cameraId start stop).ranges ts := by
  obtain ⟨hcov, hlisted⟩ := h.listed g hat
  obtain ⟨r, hr, h₁, h₂⟩ :=
    buildTimeline_inside durationMs t cameraId start stop (hlisted start stop hstart hstop)
  exact ⟨r, hr, h₁.trans hcov.1, hcov.2.trans_le h₂⟩

end Segments

/-- **When a point lookup agrees with the range lookup.** For every table, camera and instant: the
lookup answers nothing exactly when no window around the instant shows a segment that contains it,
and otherwise a segment that every such window shows, if and only if every hidden segment of the
camera that contains the instant is superseded. -/
theorem getAt_agrees_iff (t : Segments) (cameraId : Nat) (ts : Int) :
    t.Agrees cameraId ts ↔
      ∀ g ∈ t, g.cameraId = cameraId → Covers g.span ts → g.Hidden →
        t.Superseded cameraId ts g := by
  constructor
  · intro h g hmem hcam hcov hhidden
    have hin := Segments.mem_containing.2 ⟨hmem, hcam, hcov⟩
    cases hat : t.getAt cameraId ts with
    | none =>
      rw [Segments.getAt_eq_none_iff.1 hat] at hin
      cases hin
    | some g' =>
      have hrec := h.recorded hat
      obtain ⟨hmem', -, hcov'⟩ := Segments.mem_containing.1 (Segments.mem_of_getAt hat)
      have hne : g ≠ g' := fun heq => hrec.not_hidden (heq ▸ hhidden)
      exact ⟨g', hmem', hrec, hcov', Segments.precedes_of_getAt hat hin hne⟩
  · refine fun h => Segments.agrees_of_recorded fun g hat => ?_
    obtain ⟨hmem, hcam, hcov⟩ := Segments.mem_containing.1 (Segments.mem_of_getAt hat)
    refine (Segment.recorded_or_hidden hcam).resolve_right fun hhidden => ?_
    obtain ⟨g', hmem', hrec, hcov', hbefore⟩ := h g hmem hcam hcov hhidden
    have hne : g' ≠ g := fun heq => hrec.not_hidden (heq ▸ hhidden)
    exact hbefore.asymm t.nodup_rows
      (Segments.precedes_of_getAt hat (Segments.mem_containing.2 ⟨hmem', hrec.camera, hcov'⟩) hne)

end

namespace PointFixture

/-- A segment of the main stream and one of the sub stream that starts a little later. -/
def table : Segments :=
  ⟨[⟨1, 1, 1, "1/main/a.ts", 0, 10, 100, .main, false⟩,
    ⟨2, 1, 1, "1/sub/a.ts", 1, 11, 100, .sub, false⟩], by decide⟩

end PointFixture

/-- With dual recording the lookup answers the sub stream, which no window shows. -/
theorem getAt_not_agrees :
    (PointFixture.table.getAt 1 5).map Segment.id = some 2 ∧
      (PointFixture.table.getRange 1 0 20 (some .main)).map Segment.id = [1] ∧
      ¬ PointFixture.table.Agrees 1 5 := by
  have hat : (PointFixture.table.getAt 1 5).map Segment.streamRole = some .sub := by decide
  refine ⟨by decide, by decide, fun h => ?_⟩
  obtain ⟨g, hg, hrole⟩ := Option.map_eq_some_iff.1 hat
  rw [(h.recorded hg).main] at hrole
  cases hrole

end AeroXProtect
