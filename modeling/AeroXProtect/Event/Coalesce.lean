import AeroXProtect.Event.Coverage
import AeroXProtect.Lib.Interval

/-!
# Coalesced clips

`materialize` extends the earliest clip of the camera that overlaps the interval of an event, or
makes one. The extended clip then spans the interval too, and no other clip is looked at: where the
interval reaches into a second one, the two overlap from then on. `clips_coalesced_iff` is about
runs of calls for events that are written in between: the clips stay apart exactly as long as every
interval shares its instants with the clip it extends only. That a clip covers what was asked for
and does not shrink holds in every run.
-/

open Lib Lib.Interval

namespace AeroXProtect

/-! ## The clips of a camera -/

/-- The instant lies in the recording. -/
def Recording.At (c : Recording) (ts : Int) : Prop :=
  c.startTs ≤ ts ∧ ∀ x, c.endTs = some x → ts < x

/-- A live event recording of the camera. -/
structure Recording.IsClip (c : Recording) (cameraId : Nat) : Prop where
  camera : c.cameraId = cameraId
  event : c.reason = .event
  live : c.deletedAt = none

theorem Recording.isClip_iff {c : Recording} {cameraId : Nat} :
    c.IsClip cameraId ↔ c.cameraId = cameraId ∧ c.reason = .event ∧ c.deletedAt = none :=
  ⟨fun h => ⟨h.camera, h.event, h.live⟩, fun ⟨hcam, hev, hlive⟩ => ⟨hcam, hev, hlive⟩⟩

instance (c : Recording) (cameraId : Nat) : Decidable (c.IsClip cameraId) :=
  decidable_of_iff _ Recording.isClip_iff.symm

instance (c : Recording) (ts : Int) : Decidable (c.At ts) :=
  decidable_of_iff (c.startTs ≤ ts ∧ (c.endTs.all fun x => decide (ts < x)) = true)
    (by unfold Recording.At; cases c.endTs <;> simp)

/-- The second recording reaches as far as the first one on both sides. -/
def Recording.Within (c c' : Recording) : Prop :=
  c'.startTs ≤ c.startTs ∧ ∀ x', c'.endTs = some x' → ∃ x, c.endTs = some x ∧ x ≤ x'

theorem Recording.Within.refl {c : Recording} : c.Within c :=
  ⟨le_refl _, fun x hx => ⟨x, hx, le_refl _⟩⟩

namespace Recordings

/-- No two clips of a camera share an instant. -/
def Apart (t : Recordings) : Prop :=
  ∀ c ∈ t, ∀ c' ∈ t, ∀ cameraId, c.IsClip cameraId → c'.IsClip cameraId →
    ∀ ts, c.At ts → c'.At ts → c = c'

/-- Every recording is still there and reaches as far. -/
def Keeps (t t' : Recordings) : Prop := ∀ c ∈ t, ∃ c' ∈ t', c'.id = c.id ∧ c.Within c'

/-- Every event recording has an end. -/
def Ended (t : Recordings) : Prop := ∀ c ∈ t, c.reason = .event → c.endTs ≠ none

/-- The clip that the interval shares an instant with, if there is one, is the clip that is found.
-/
def Fits (t : Recordings) (cameraId : Nat) (start stop : Int) : Prop :=
  ∀ c ∈ t, c.IsClip cameraId → ∀ ts, c.At ts → Covers (start, stop) ts →
    t.findOverlapping cameraId start stop .event = some c

section
variable {t : Recordings} {c : Recording} {cameraId : Nat} {start stop ts : Int}

theorem Keeps.refl : t.Keeps t := fun c hc => ⟨c, hc, rfl, .refl⟩

theorem overlapping_iff : overlapping cameraId start stop .event c = true ↔
    c.IsClip cameraId ∧ c.startTs < stop ∧ ∀ x, c.endTs = some x → start < x := by
  rw [Recording.isClip_iff]
  unfold overlapping
  cases c.endTs <;> simp [and_assoc]

theorem overlapping_of_findOverlapping
    (h : t.findOverlapping cameraId start stop .event = some c) :
    c ∈ t ∧ overlapping cameraId start stop .event c = true := by
  have hmem := List.mem_of_mem_head? h
  rw [mem_orderBy] at hmem
  exact List.mem_filter.1 hmem

/-- A clip that shares an instant with the interval overlaps it. -/
theorem overlapping_of_shared (hc : c.IsClip cameraId) (h : c.At ts)
    (hcov : Covers (start, stop) ts) : overlapping cameraId start stop .event c = true :=
  overlapping_iff.2 ⟨hc, h.1.trans_lt hcov.2, fun x hx => hcov.1.trans_lt (h.2 x hx)⟩

theorem fits_of_none (h : ∀ c ∈ t, overlapping cameraId start stop .event c = false) :
    t.Fits cameraId start stop := by
  intro c hc hclip ts hts hcov
  have hover := overlapping_of_shared hclip hts hcov
  rw [h c hc] at hover
  cases hover

/-- Something is found when a row overlaps. -/
theorem findOverlapping_ne_none (hc : c ∈ t)
    (h : overlapping cameraId start stop .event c = true) :
    t.findOverlapping cameraId start stop .event ≠ none := by
  intro hnone
  have hnil := List.head?_eq_none_iff.1 hnone
  have hmem : c ∈ orderBy Recording.startTs
      (t.rows.filter (overlapping cameraId start stop .event)) :=
    mem_orderBy.2 (List.mem_filter.2 ⟨hc, h⟩)
  rw [hnil] at hmem
  cases hmem

/-- A clip that overlaps an interval has its own instants and those of the interval after it is
extended. -/
theorem at_extended (h : overlapping cameraId start stop .event c = true) (hend : c.endTs ≠ none) :
    (extended start stop c).At ts ↔ c.At ts ∨ Covers (start, stop) ts := by
  obtain ⟨-, hstart, hstop⟩ := overlapping_iff.1 h
  obtain ⟨x, hx⟩ := Option.ne_none_iff_exists'.1 hend
  have hlt := hstop x hx
  unfold extended Recording.At Covers
  simp only [hx, Option.some.injEq, forall_eq']
  split <;> split <;> simp only [Option.some.injEq, forall_eq'] <;> omega

theorem endTs_extended : (extended start stop c).endTs ≠ none := by
  unfold extended
  dsimp only
  split
  · exact nofun
  · split <;> exact nofun

theorem within_extended (hend : c.endTs ≠ none) : c.Within (extended start stop c) := by
  obtain ⟨x, hx⟩ := Option.ne_none_iff_exists'.1 hend
  unfold extended Recording.Within
  simp only [hx]
  refine ⟨by split <;> omega, fun x' hx' => ⟨x, rfl, ?_⟩⟩
  split at hx' <;> cases hx' <;> omega

theorem isClip_extended : (extended start stop c).IsClip cameraId ↔ c.IsClip cameraId :=
  ⟨fun h => ⟨h.camera, h.event, h.live⟩, fun h => ⟨h.camera, h.event, h.live⟩⟩

/-- A row that a clip extends or leaves alone. -/
theorem mem_extend_iff (hc : c ∈ t) {d : Recording} :
    d ∈ t.extend c.id start stop ↔ d = extended start stop c ∨ d ∈ t ∧ d ≠ c := by
  rw [mem_extend]
  constructor
  · rintro ⟨x, hx, rfl⟩
    by_cases hid : x.id = c.id
    · rw [if_pos hid, Table.eq_of_key_eq hx hc hid]
      exact .inl rfl
    · rw [if_neg hid]
      exact .inr ⟨hx, fun heq => hid (congrArg Recording.id heq)⟩
  · rintro (rfl | ⟨hd, hne⟩)
    · exact ⟨c, hc, by rw [if_pos rfl]⟩
    · exact ⟨d, hd, by rw [if_neg fun hid => hne (Table.eq_of_key_eq hd hc hid)]⟩

end

end Recordings

/-! ## One call -/

namespace Pipeline

section
variable {s : Pipeline} {ev : Event} {start stop : Int}

/-- The row that a clip makes. -/
def clipRow (s : Pipeline) (ev : Event) (start stop : Int) : Recording :=
  ⟨s.recordings.freshKey, ev.cameraId, .event, .classEvent, start, some stop,
    some ("event:" ++ ev.type), none⟩

/-- A clip extends the earliest clip that overlaps, or makes one when none does. -/
theorem clip_cases (s : Pipeline) (ev : Event) (start stop : Int) :
    (∃ c ∈ s.recordings, s.recordings.findOverlapping ev.cameraId start stop .event = some c ∧
      Recordings.overlapping ev.cameraId start stop .event c = true ∧
      ∀ d, d ∈ (s.clip ev start stop).1 ↔
        d = Recordings.extended start stop c ∨ d ∈ s.recordings ∧ d ≠ c) ∨
    (∀ c ∈ s.recordings, Recordings.overlapping ev.cameraId start stop .event c = false) ∧
      ∀ d, d ∈ (s.clip ev start stop).1 ↔ d ∈ s.recordings ∨ d = s.clipRow ev start stop := by
  unfold Pipeline.clip
  cases hf : s.recordings.findOverlapping ev.cameraId start stop .event with
  | some c =>
    obtain ⟨hc, hover⟩ := Recordings.overlapping_of_findOverlapping hf
    exact .inl ⟨c, hc, rfl, hover, fun d => Recordings.mem_extend_iff hc⟩
  | none =>
    refine .inr ⟨fun c hc => ?_, fun d => Table.mem_insert s.recordings.ne_freshKey⟩
    by_contra hover
    exact Recordings.findOverlapping_ne_none hc (by simpa using hover) hf

theorem ended_clip (h : s.recordings.Ended) : (s.clip ev start stop).1.Ended := by
  intro d hd hevent
  rcases clip_cases s ev start stop with ⟨c, hc, -, -, hmem⟩ | ⟨-, hmem⟩
  · rcases (hmem d).1 hd with rfl | ⟨hold, -⟩
    · exact Recordings.endTs_extended
    · exact h d hold hevent
  · rcases (hmem d).1 hd with hold | rfl
    · exact h d hold hevent
    · exact nofun

/-- A clip keeps every recording, and only moves its ends outwards. -/
theorem keeps_clip (h : s.recordings.Ended) : s.recordings.Keeps (s.clip ev start stop).1 := by
  intro d hd
  rcases clip_cases s ev start stop with ⟨c, hc, -, hover, hmem⟩ | ⟨-, hmem⟩
  · by_cases heq : d = c
    · subst heq
      have hclip := (Recordings.overlapping_iff.1 hover).1
      exact ⟨_, (hmem _).2 (.inl rfl), rfl, Recordings.within_extended (h d hd hclip.event)⟩
    · exact ⟨d, (hmem d).2 (.inr ⟨hd, heq⟩), rfl, .refl⟩
  · exact ⟨d, (hmem d).2 (.inl hd), rfl, .refl⟩

/-- Clips that are apart stay apart exactly if the interval fits. -/
theorem apart_clip_iff (hended : s.recordings.Ended) (h : s.recordings.Apart) :
    (s.clip ev start stop).1.Apart ↔ s.recordings.Fits ev.cameraId start stop := by
  rcases clip_cases s ev start stop with ⟨c, hc, hfound, hover, hmem⟩ | ⟨hnone, hmem⟩
  · have hclip := (Recordings.overlapping_iff.1 hover).1
    have hat : ∀ ts, (Recordings.extended start stop c).At ts ↔
        c.At ts ∨ Covers (start, stop) ts :=
      fun ts => Recordings.at_extended hover (hended c hc hclip.event)
    constructor
    · intro hapart d hd hd' ts hts hcov
      by_contra hne
      have hdc : d ≠ c := fun heq => hne (heq ▸ hfound)
      have heq := hapart d ((hmem d).2 (.inr ⟨hd, hdc⟩)) _ ((hmem _).2 (.inl rfl)) ev.cameraId hd'
        (Recordings.isClip_extended.2 hclip) ts hts ((hat ts).2 (.inr hcov))
      have hid : d.id = c.id := by
        rw [heq]
        rfl
      exact hdc (Table.eq_of_key_eq hd hc hid)
    · intro hfits
      -- a row other than the extended one shares no instant with it
      have hother : ∀ d ∈ s.recordings, d ≠ c → ∀ cameraId, d.IsClip cameraId →
          (Recordings.extended start stop c).IsClip cameraId → ∀ ts, d.At ts →
          ¬ (Recordings.extended start stop c).At ts := by
        intro d hd hne cameraId hd' hc' ts hts hext
        rcases (hat ts).1 hext with hold | hcov
        · exact hne (h d hd c hc cameraId hd' (Recordings.isClip_extended.1 hc') ts hts hold)
        · have hcam : cameraId = ev.cameraId := hc'.camera.symm.trans hclip.camera
          have hfound' := hfits d hd (hcam ▸ hd') ts hts hcov
          exact hne (Option.some.inj (hfound'.symm.trans hfound))
      intro d hd d' hd' cameraId hclip₁ hclip₂ ts hts hts'
      rcases (hmem d).1 hd with rfl | ⟨hold, hne⟩ <;>
        rcases (hmem d').1 hd' with rfl | ⟨hold', hne'⟩
      · rfl
      · exact absurd hts (hother d' hold' hne' cameraId hclip₂ hclip₁ ts hts')
      · exact absurd hts' (hother d hold hne cameraId hclip₁ hclip₂ ts hts)
      · exact h d hold d' hold' cameraId hclip₁ hclip₂ ts hts hts'
  · refine iff_of_true ?_ (Recordings.fits_of_none hnone)
    · have hother : ∀ d ∈ s.recordings, ∀ cameraId, d.IsClip cameraId →
          (s.clipRow ev start stop).IsClip cameraId → ∀ ts, d.At ts →
          ¬ (s.clipRow ev start stop).At ts := by
        intro d hd cameraId hd' hrow ts hts hts'
        have hcam : ev.cameraId = cameraId := hrow.camera
        have hover := Recordings.overlapping_of_shared (hcam ▸ hd') hts
          (show Covers (start, stop) ts from ⟨hts'.1, hts'.2 stop rfl⟩)
        rw [hnone d hd] at hover
        cases hover
      intro d hd d' hd' cameraId hclip₁ hclip₂ ts hts hts'
      rcases (hmem d).1 hd with hold | rfl <;> rcases (hmem d').1 hd' with hold' | rfl
      · exact h d hold d' hold' cameraId hclip₁ hclip₂ ts hts hts'
      · exact absurd hts' (hother d hold cameraId hclip₁ hclip₂ ts hts)
      · exact absurd hts (hother d' hold' cameraId hclip₂ hclip₁ ts hts')
      · rfl

end

/-- The event that a call is about and the interval it asks for. -/
def requestFor (s : Pipeline) (r : Rules) (eventId : Nat) (preS postS now : Int) :
    Option (Event × Int × Int) :=
  match s.events.get? eventId with
  | none => none
  | some ev =>
    if ev.deletedAt.isSome then none
    else
      some (ev, ev.startTs - seconds (min preS (r.cacheSeconds ev.cameraId)),
        ev.endTs.getD now + seconds postS)

/-- A call without a request does nothing; else it makes the clip and names it at the event. -/
theorem materialize_cases (s : Pipeline) (r : Rules) (eventId : Nat) (preS postS now : Int) :
    (s.requestFor r eventId preS postS now = none ∧
      s.materialize r eventId preS postS now = s) ∨
    ∃ ev start stop, s.requestFor r eventId preS postS now = some (ev, start, stop) ∧
      ev ∈ s.events ∧ ev.id = eventId ∧
      (s.materialize r eventId preS postS now).recordings = (s.clip ev start stop).1 ∧
      (s.materialize r eventId preS postS now).events =
        s.events.setRecordingId eventId (s.clip ev start stop).2 := by
  unfold requestFor materialize
  cases hget : s.events.get? eventId with
  | none => exact .inl ⟨rfl, rfl⟩
  | some ev =>
    obtain ⟨hev, hid⟩ := Table.get?_eq_some.1 hget
    cases hdel : ev.deletedAt.isSome with
    | true => exact .inl ⟨if_pos hdel, if_pos hdel⟩
    | false =>
      exact .inr ⟨ev, _, _, if_neg (by simp [hdel]), hev, hid, by simp [hdel], by simp [hdel]⟩

end Pipeline

/-! ## Runs -/

/-- The tables, with the interval that was last asked for each event. -/
structure ClipHistory where
  pipe : Pipeline
  requested : Nat → Option (Int × Int)

/-- A call, a new event, or a write of the events, which leaves `recording_id` alone. -/
inductive ClipStep
  | call (r : Rules) (eventId : Nat) (preS postS now : Int)
  | create (ev : Event)
  | rewrite (f : Event → Event) (hid : ∀ e, (f e).id = e.id)
      (hrec : ∀ e, (f e).recordingId = e.recordingId)

namespace ClipHistory

def step (h : ClipHistory) : ClipStep → ClipHistory
  | .call r eventId preS postS now =>
    { pipe := h.pipe.materialize r eventId preS postS now
      requested :=
        match h.pipe.requestFor r eventId preS postS now with
        | none => h.requested
        | some (_, interval) => fun id => if id = eventId then some interval else h.requested id }
  | .create ev => { h with pipe.events := h.pipe.events.insert ev }
  | .rewrite f hid _ => { h with pipe.events := h.pipe.events.modify (fun _ => true) f hid }

/-- Every event names a recording that covers what was asked for it. -/
def Linked (h : ClipHistory) : Prop :=
  ∀ id start stop, h.requested id = some (start, stop) → ∃ e ∈ h.pipe.events, e.id = id ∧
    ∃ c ∈ h.pipe.recordings, e.recordingId = some c.id ∧ c.Covers start stop

/-- What every run keeps. -/
structure Sound (h : ClipHistory) : Prop where
  ended : h.pipe.recordings.Ended
  linked : h.Linked

/-- The clips are apart, and the events name clips that cover them. -/
structure Coalesced (h : ClipHistory) : Prop extends h.Sound where
  apart : h.pipe.recordings.Apart

/-- The interval that a call asks for shares an instant at most with the clip it extends. -/
def Fits (h : ClipHistory) : ClipStep → Prop
  | .call r eventId preS postS now => ∀ ev start stop,
    h.pipe.requestFor r eventId preS postS now = some (ev, start, stop) →
      h.pipe.recordings.Fits ev.cameraId start stop
  | .create _ | .rewrite _ _ _ => True

section
variable {h : ClipHistory} {a : ClipStep}

/-- A link outlives a step that keeps the recording ids and grows the recordings. -/
theorem Linked.keep {events : Events} {recordings : Recordings} {id : Nat} {start stop : Int}
    (hlinked : h.Linked) (hreq : h.requested id = some (start, stop))
    (hevents : ∀ e ∈ h.pipe.events, e.id = id →
      ∃ e' ∈ events, e'.id = e.id ∧ e'.recordingId = e.recordingId)
    (hgrows : h.pipe.recordings.Grows recordings) :
    ∃ e ∈ events, e.id = id ∧
      ∃ c ∈ recordings, e.recordingId = some c.id ∧ c.Covers start stop := by
  obtain ⟨e, he, hid, c, hc, hrec, hcov⟩ := hlinked id start stop hreq
  obtain ⟨e', he', hid', hrec'⟩ := hevents e he hid
  obtain ⟨c', hc', hcid, hcov'⟩ := hgrows c hc
  exact ⟨e', he', hid'.trans hid, c', hc', by rw [hrec', hrec, hcid], hcov' _ _ hcov⟩

/-- Every step keeps the links, whatever the interval is. -/
theorem Linked.step (hlinked : h.Linked) : (h.step a).Linked := by
  intro id start stop hreq
  cases a with
  | create ev =>
    exact hlinked.keep hreq (fun e he _ => ⟨e, Table.mem_insert_of_mem he, rfl, rfl⟩) .refl
  | rewrite f hid hrec =>
    refine hlinked.keep hreq (fun e he _ => ?_) .refl
    have hmem : f e ∈ h.pipe.events.modify (fun _ => true) f hid := Table.mem_modify.2 ⟨e, he, rfl⟩
    exact ⟨f e, hmem, hid e, hrec e⟩
  | call r eventId preS postS now =>
    rcases h.pipe.materialize_cases r eventId preS postS now with
      ⟨hnone, heq⟩ | ⟨ev, first, last, hsome, hev, rfl, hrecs, hevents⟩
    · have hreq' : h.requested id = some (start, stop) := by
        simpa only [ClipHistory.step, hnone] using hreq
      have := hlinked id start stop hreq'
      simpa only [ClipHistory.step, heq] using this
    · obtain ⟨hgrows, c, hc, hcid, hcov⟩ := clip_spec h.pipe ev first last
      simp only [ClipHistory.step, hsome] at hreq
      simp only [ClipHistory.step, hrecs, hevents]
      split at hreq
      · next heq =>
        cases hreq
        subst heq
        exact ⟨_, Events.mem_setRecordingId hev _, rfl, c, hc, congrArg some hcid.symm, hcov⟩
      · next hne =>
        refine hlinked.keep hreq (fun e he heq => ⟨e, ?_, rfl, rfl⟩) hgrows
        refine Table.mem_modify_of_neg he ?_
        simpa [heq] using hne

theorem Sound.step (hs : h.Sound) : (h.step a).Sound := by
  refine ⟨?_, hs.linked.step⟩
  cases a with
  | create ev => exact hs.ended
  | rewrite f hid hrec => exact hs.ended
  | call r eventId preS postS now =>
    rcases h.pipe.materialize_cases r eventId preS postS now with
      ⟨-, heq⟩ | ⟨ev, start, stop, -, -, -, hrecs, -⟩
    · rw [ClipHistory.step, heq]
      exact hs.ended
    · rw [ClipHistory.step, hrecs]
      exact Pipeline.ended_clip hs.ended

/-- In every run the events name clips that cover them. -/
theorem Sound.run (hs : h.Sound) (as : List ClipStep) : (as.foldl ClipHistory.step h).Sound := by
  induction as generalizing h with
  | nil => exact hs
  | cons a as ih => exact ih hs.step

/-- Every step keeps the recordings. -/
theorem Sound.keeps (hs : h.Sound) : h.pipe.recordings.Keeps (h.step a).pipe.recordings := by
  cases a with
  | create ev => exact .refl
  | rewrite f hid hrec => exact .refl
  | call r eventId preS postS now =>
    rcases h.pipe.materialize_cases r eventId preS postS now with
      ⟨-, heq⟩ | ⟨ev, start, stop, -, -, -, hrecs, -⟩
    · rw [ClipHistory.step, heq]
      exact .refl
    · rw [ClipHistory.step, hrecs]
      exact Pipeline.keeps_clip hs.ended

/-- A step keeps the clips apart exactly if its interval fits. -/
theorem Coalesced.step_iff (hc : h.Coalesced) : (h.step a).Coalesced ↔ h.Fits a := by
  have hiff : (h.step a).Coalesced ↔ (h.step a).pipe.recordings.Apart :=
    ⟨Coalesced.apart, fun hapart => ⟨hc.toSound.step, hapart⟩⟩
  rw [hiff]
  cases a with
  | create ev => exact iff_of_true hc.apart trivial
  | rewrite f hid hrec => exact iff_of_true hc.apart trivial
  | call r eventId preS postS now =>
    rcases h.pipe.materialize_cases r eventId preS postS now with
      ⟨hnone, heq⟩ | ⟨ev, start, stop, hsome, -, -, hrecs, -⟩
    · refine iff_of_true ?_ fun ev start stop hsome => ?_
      · rw [ClipHistory.step, heq]
        exact hc.apart
      · rw [hnone] at hsome
        cases hsome
    · rw [ClipHistory.step, hrecs, Pipeline.apart_clip_iff hc.ended hc.apart]
      constructor
      · intro hfits ev' start' stop' hsome'
        cases hsome.symm.trans hsome'
        exact hfits
      · exact fun hfits => hfits ev start stop hsome

end

end ClipHistory

/-- In a run of calls the clips stay apart, every event names a clip that covers what was asked for
it and no recording shrinks exactly if every interval fits. -/
theorem clips_coalesced_iff (h₀ : ClipHistory) (hstart : h₀.Coalesced) (steps : List ClipStep) :
    ((∀ pre, pre <+: steps → (pre.foldl ClipHistory.step h₀).Coalesced) ∧
      ∀ pre a, pre ++ [a] <+: steps → (pre.foldl ClipHistory.step h₀).pipe.recordings.Keeps
        ((pre ++ [a]).foldl ClipHistory.step h₀).pipe.recordings) ↔
    ∀ pre a, pre ++ [a] <+: steps → (pre.foldl ClipHistory.step h₀).Fits a := by
  have hkeeps : ∀ (pre : List ClipStep) a, (pre.foldl ClipHistory.step h₀).pipe.recordings.Keeps
      ((pre ++ [a]).foldl ClipHistory.step h₀).pipe.recordings := by
    intro pre a
    rw [List.foldl_append]
    exact (hstart.toSound.run pre).keeps
  rw [← forall_prefix_iff (fun _ _ => ClipHistory.Coalesced.step_iff) hstart]
  exact and_iff_left fun pre a _ => hkeeps pre a

namespace ClipFixture

def rules : Rules := ⟨∅, ∅, ∅, fun _ => (0, 0), id⟩

def history : ClipHistory := ⟨⟨∅, ∅, ∅, [], 0⟩, fun _ => none⟩

theorem coalesced_history : history.Coalesced where
  ended c hc := absurd hc (Table.not_mem_empty c)
  linked _ _ _ hreq := (Option.some_ne_none _ hreq.symm).elim
  apart c hc := absurd hc (Table.not_mem_empty c)

/-- A live event of a type that starts at a second. -/
def event (id : Nat) (type : String) (state : EventState) (start : Int) : Event :=
  ⟨id, 1, type, none, state, seconds start, none, none, none, "test", none, none, none, type, none,
    none⟩

def pulses : List ClipStep :=
  [.create (event 1 "io" .pulse 5), .call rules 1 5 10 (seconds 5),
    .create (event 2 "io" .pulse 35), .call rules 2 5 10 (seconds 35)]

/-- Motion from second 16 to 36 between two pulses, each recorded from five seconds before. -/
def around : List ClipStep :=
  [.create (event 1 "io" .pulse 5), .call rules 1 5 10 (seconds 5),
    .create (event 3 "motion" .active 16), .call rules 3 5 10 (seconds 16),
    .create (event 2 "io" .pulse 35), .call rules 2 5 10 (seconds 35),
    .rewrite (fun e => if e.id = 3 then Events.closed (seconds 36) e else e)
      (fun e => by split <;> rfl) (fun e => by split <;> rfl),
    .call rules 3 5 10 (seconds 36)]

end ClipFixture

open ClipFixture in
/-- Two clips that do not meet. -/
theorem clips_coalesced_fixture :
    ((∀ pre, pre <+: pulses → (pre.foldl ClipHistory.step history).Coalesced) ∧
      ∀ pre a, pre ++ [a] <+: pulses → (pre.foldl ClipHistory.step history).pipe.recordings.Keeps
        ((pre ++ [a]).foldl ClipHistory.step history).pipe.recordings) := by
  refine (clips_coalesced_iff history coalesced_history pulses).2 ?_
  have hfirst : (history.step (.create (event 1 "io" .pulse 5))).Fits
      (.call rules 1 5 10 (seconds 5)) := fun _ _ _ _ c hc => absurd hc (Table.not_mem_empty c)
  refine forall_prefix_cons.2 ⟨trivial, forall_prefix_cons.2 ⟨hfirst,
    forall_prefix_cons.2 ⟨trivial, forall_prefix_cons.2 ⟨?_, forall_prefix_nil⟩⟩⟩⟩
  intro ev start stop hreq
  have hinterval : (ev, start, stop) = (event 2 "io" .pulse 35, seconds 30, seconds 45) :=
    Option.some.inj (hreq.symm.trans (by decide +kernel))
  cases hinterval
  exact Recordings.fits_of_none (by decide +kernel)

open ClipFixture in
/-- The clip of the first pulse is extended over the motion, into the clip of the second pulse. -/
theorem clips_overlap :
    history.Coalesced ∧
      ¬ ∀ pre, pre <+: around → (pre.foldl ClipHistory.step history).Coalesced := by
  refine ⟨coalesced_history, fun h => ?_⟩
  have hapart := (h around (List.prefix_refl _)).apart
  have hshared : ∃ c ∈ (around.foldl ClipHistory.step history).pipe.recordings,
      ∃ c' ∈ (around.foldl ClipHistory.step history).pipe.recordings, c.IsClip 1 ∧ c'.IsClip 1 ∧
        c.At (seconds 40) ∧ c'.At (seconds 40) ∧ c ≠ c' := by
    decide +kernel
  obtain ⟨c, hc, c', hc', hclip, hclip', hat, hat', hne⟩ := hshared
  exact hne (hapart c hc c' hc' 1 hclip hclip' _ hat hat')

end AeroXProtect
