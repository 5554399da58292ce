import AeroXProtect.Event.StateMachine
import AeroXProtect.Lib.Run

/-!
# Vendor ids

The pipeline drops a message whose vendor id a row of the camera has, before it looks at the state
of the message. So the end of an occurrence is dropped with the id of its start, and the event stays
open; and a message that makes no row leaves no id, so that its repeat is processed again.
`vendor_dedup_iff` is the exact condition, step by step: an end that finds its event active is new
and its id is on no row, and any other repeat has its id on a row or finds nothing to do.
`repeat_of_created` is what the filter is good for.
-/

open Lib

namespace AeroXProtect

/-- The same message of the same camera again. -/
def EventInput.Repeats (m m' : EventInput) : Prop :=
  m.cameraId = m'.cameraId ∧ m.n = m'.n ∧ m.source = m'.source

/-- The pipeline with the messages it has processed. -/
structure EventLog where
  pipe : Pipeline
  seen : List EventInput

namespace EventLog

def step (r : Rules) (h : EventLog) (a : EventStep) : EventLog where
  pipe := h.pipe.step r a
  seen :=
    match a with
    | .message m => m :: h.seen
    | .sweep _ _ | .cleanup _ => h.seen

def Repeated (h : EventLog) (m : EventInput) : Prop := ∃ m' ∈ h.seen, m.Repeats m'

/-- An end closes the active event of its key, and a repeat changes nothing but the clock. -/
def Faithful (r : Rules) (h : EventLog) : EventStep → Prop
  | .message m =>
    (m.n.state = .stop → ∀ ev, h.pipe.events.getActiveByDedup r.collate m.key = some ev →
      HasEnded (h.pipe.process r m).1.events ev.id (some m.now)) ∧
    (h.Repeated m → (h.pipe.process r m).1 = { h.pipe with clock := m.now })
  | .sweep _ _ | .cleanup _ => True

/-- An end that finds its event active is no repeat and its id is on no row; a start that repeats
finds its event active or its id on a row, and so does another message with its id. -/
def Told (r : Rules) (h : EventLog) : EventStep → Prop
  | .message m =>
    match m.n.state with
    | .stop => h.pipe.events.getActiveByDedup r.collate m.key ≠ none →
      m.vendorDuplicate r h.pipe.events = false ∧ ¬ h.Repeated m
    | .start => h.Repeated m →
      m.vendorDuplicate r h.pipe.events = true ∨
        h.pipe.events.getActiveByDedup r.collate m.key ≠ none
    | .pulse => h.Repeated m → m.vendorDuplicate r h.pipe.events = true
  | .sweep _ _ | .cleanup _ => True

section
variable {s : Pipeline} {r : Rules} {m : EventInput} {h : EventLog} {a : EventStep}

theorem process_of_duplicate (h : m.vendorDuplicate r s.events = true) :
    (s.process r m).1 = { s with clock := m.now } := by
  unfold Pipeline.process
  exact congrArg Prod.fst (if_pos h)

/-- A message that makes a row changes more than the clock. -/
theorem create_ne {state : EventState} :
    ({ s with clock := m.now }.create m m.key state).1.applyPolicy r m m.key
      ({ s with clock := m.now }.create m m.key state).2 ≠ { s with clock := m.now } := by
  intro heq
  have hann : Annotates ({ s with clock := m.now }.create m m.key state).2.id
      ({ s with clock := m.now }.create m m.key state).1.events
      (({ s with clock := m.now }.create m m.key state).1.applyPolicy r m m.key
        ({ s with clock := m.now }.create m m.key state).2).events := applyPolicy_annotates
  rw [heq] at hann
  have hrow : ({ s with clock := m.now }.create m m.key state).2 ∈
      ({ s with clock := m.now }.create m m.key state).1.events :=
    (Table.mem_insert s.events.ne_freshKey).2 (.inr rfl)
  obtain ⟨e, he, hcore⟩ := hann.symm_mem_core hrow
  have hid : e.id = s.events.freshKey := congrArg Event.id hcore
  exact s.events.ne_freshKey e he hid

/-- An end that finds its event closes it. -/
theorem hasEnded_close {ev : Event} (hev : ev ∈ s.events) :
    HasEnded ({ s with clock := m.now, events := s.events.close ev.id m.now }.applyPolicy r m m.key
      ev).events ev.id (some m.now) := by
  have hann : Annotates ev.id (s.events.close ev.id m.now)
      ({ s with clock := m.now, events := s.events.close ev.id m.now }.applyPolicy r m m.key
        ev).events :=
    applyPolicy_annotates (s := { s with clock := m.now, events := s.events.close ev.id m.now })
  refine HasEnded.annotates ?_ hann
  exact ⟨Events.closed m.now ev, Events.mem_close.2 ⟨ev, hev, by rw [if_pos rfl]⟩, rfl, rfl, rfl⟩

/-- An active event has not ended. -/
theorem not_hasEnded {ev : Event} {endTs : Option Int}
    (hev : s.events.getActiveByDedup r.collate m.key = some ev) :
    ¬ HasEnded s.events ev.id endTs := by
  intro hended
  obtain ⟨hmem, hact⟩ := getActiveByDedup_some hev
  exact hended.ne_of_active hmem (isActive_iff.1 hact).2.1 rfl

/-- A message that changes nothing is right unless it is an end with an active event. -/
theorem faithful_of_nothing (heq : (h.pipe.process r m).1 = { h.pipe with clock := m.now }) :
    h.Faithful r (.message m) ↔
      (m.n.state = .stop → h.pipe.events.getActiveByDedup r.collate m.key = none) := by
  constructor
  · rintro ⟨hends, -⟩ hst
    by_contra hsome
    obtain ⟨ev, hev⟩ := Option.ne_none_iff_exists'.1 hsome
    have hended := hends hst ev hev
    rw [heq] at hended
    exact not_hasEnded hev hended
  · intro hnone
    refine ⟨fun hst ev hev => ?_, fun _ => heq⟩
    rw [hnone hst] at hev
    cases hev

/-- A message that makes a row is right unless it is a repeat. -/
theorem faithful_of_created (hst : m.n.state ≠ .stop)
    (hne : (h.pipe.process r m).1 ≠ { h.pipe with clock := m.now }) :
    h.Faithful r (.message m) ↔ ¬ h.Repeated m :=
  ⟨fun hfaith hrep => hne (hfaith.2 hrep),
    fun hrep => ⟨fun hstop => absurd hstop hst, fun h => absurd h hrep⟩⟩

/-- A step is faithful exactly if it is told apart. -/
theorem faithful_iff : h.Faithful r a ↔ h.Told r a := by
  cases a with
  | sweep now closedAt => exact Iff.rfl
  | cleanup now => exact Iff.rfl
  | message m =>
    rcases process_cases h.pipe r m with
      ⟨hwhy, heq⟩ | ⟨state, hstate, heq⟩ | ⟨ev, hdup, hst, hev, heq⟩
    · rw [faithful_of_nothing heq, Told]
      cases hst : m.n.state with
      | start => exact iff_of_true nofun fun _ => by simpa [hst] using hwhy
      | pulse => exact iff_of_true nofun fun _ => by simpa [hst] using hwhy
      | stop =>
        dsimp only
        constructor
        · exact fun hnone hsome => absurd (hnone rfl) hsome
        · intro htold _
          by_contra hsome
          have hdup : m.vendorDuplicate r h.pipe.events = true := by simpa [hst, hsome] using hwhy
          rw [(htold hsome).1] at hdup
          cases hdup
    · have hne : (h.pipe.process r m).1 ≠ { h.pipe with clock := m.now } := heq ▸ create_ne
      have hdup : m.vendorDuplicate r h.pipe.events ≠ true :=
        fun hdup => hne (process_of_duplicate hdup)
      rcases hstate with ⟨hst, -⟩ | ⟨hst, -, hnone⟩
      · rw [faithful_of_created (by simp [hst]) hne, Told]
        simp [hst, hdup]
      · rw [faithful_of_created (by simp [hst]) hne, Told]
        simp [hst, hdup, hnone]
    · have hended : HasEnded (h.pipe.process r m).1.events ev.id (some m.now) :=
        heq ▸ hasEnded_close (getActiveByDedup_some hev).1
      have hne : (h.pipe.process r m).1 ≠ { h.pipe with clock := m.now } := by
        intro hsame
        rw [hsame] at hended
        exact not_hasEnded hev hended
      rw [Told, hst]
      dsimp only
      constructor
      · rintro ⟨-, hrepeat⟩ -
        exact ⟨hdup, fun hrep => hne (hrepeat hrep)⟩
      · intro htold
        have hnew := (htold (by simp [hev])).2
        refine ⟨fun _ ev' hev' => ?_, fun hrep => absurd hrep hnew⟩
        cases hev.symm.trans hev'
        exact hended

end

end EventLog

/-- In a run of messages, sweeps and cleanups every end closes its active event and every repeat
changes nothing exactly if every message can be told apart. -/
theorem vendor_dedup_iff (r : Rules) (s₀ : Pipeline) (steps : List EventStep) :
    (∀ pre a, pre ++ [a] <+: steps → (pre.foldl (EventLog.step r) ⟨s₀, []⟩).Faithful r a) ↔
      ∀ pre a, pre ++ [a] <+: steps → (pre.foldl (EventLog.step r) ⟨s₀, []⟩).Told r a := by
  simp only [EventLog.faithful_iff]

/-! ## What the filter keeps out -/

/-- Every row is still there with its camera and vendor id. -/
def Events.KeepsVendors (t t' : Events) : Prop :=
  ∀ e ∈ t, ∃ e' ∈ t', e'.cameraId = e.cameraId ∧ e'.vendorEventId = e.vendorEventId

section
variable {t t' t'' : Events} {s : Pipeline} {r : Rules} {m m' : EventInput}

theorem Events.KeepsVendors.refl : t.KeepsVendors t := fun e he => ⟨e, he, rfl, rfl⟩

theorem Events.KeepsVendors.trans (h : t.KeepsVendors t') (h' : t'.KeepsVendors t'') :
    t.KeepsVendors t'' := by
  intro e he
  obtain ⟨e', he', hcam, hid⟩ := h e he
  obtain ⟨e'', he'', hcam', hid'⟩ := h' e' he'
  exact ⟨e'', he'', hcam'.trans hcam, hid'.trans hid⟩

theorem Annotates.keepsVendors {id : Nat} (h : Annotates id t t') : t.KeepsVendors t' := by
  intro e he
  obtain ⟨e', he', hcore⟩ := h.symm_mem_core he
  exact ⟨e', he', (congrArg Event.cameraId hcore : _), (congrArg Event.vendorEventId hcore : _)⟩

theorem Events.KeepsVendors.close {id : Nat} {endTs : Int} :
    t.KeepsVendors (t.close id endTs) := by
  intro e he
  refine ⟨_, Events.mem_close.2 ⟨e, he, rfl⟩, ?_⟩
  split <;> exact ⟨rfl, rfl⟩

/-- Every step keeps the vendor ids. -/
theorem keepsVendors_step {a : EventStep} : s.events.KeepsVendors (s.step r a).events := by
  cases a with
  | message m =>
    rcases process_cases s r m with ⟨-, heq⟩ | ⟨state, -, heq⟩ | ⟨ev, -, -, -, heq⟩
    · rw [Pipeline.step, heq]
      exact .refl
    · rw [Pipeline.step, heq]
      refine Events.KeepsVendors.trans (fun e he => ?_) applyPolicy_annotates.keepsVendors
      exact ⟨e, Table.mem_insert_of_mem he, rfl, rfl⟩
    · have hclose : s.events.KeepsVendors (s.events.close ev.id m.now) := .close
      rw [Pipeline.step, heq]
      exact hclose.trans (applyPolicy_annotates
        (s := { s with clock := m.now, events := s.events.close ev.id m.now })).keepsVendors
  | sweep now closedAt =>
    have hfold : ∀ (l : List Event) (t : Events),
        t.KeepsVendors (l.foldl (fun t e => t.close e.id (closedAt e.id)) t) := by
      intro l
      induction l with
      | nil => exact fun t => .refl
      | cons e l ih => exact fun t => Events.KeepsVendors.close.trans (ih _)
    exact hfold _ _
  | cleanup now =>
    intro e he
    refine ⟨_, Events.mem_deleteBefore.2 ⟨e, he, rfl⟩, ?_⟩
    split <;> exact ⟨rfl, rfl⟩

theorem existsVendor_iff {collate : String → String} {cameraId : Nat} {id : String} :
    t.existsVendor collate cameraId id = true ↔
      ∃ e ∈ t, e.cameraId = cameraId ∧ e.vendorEventId.map collate = some (collate id) := by
  simp [Events.existsVendor]

theorem Events.KeepsVendors.existsVendor {collate : String → String} {cameraId : Nat} {id : String}
    (h : t.KeepsVendors t') (hid : t.existsVendor collate cameraId id = true) :
    t'.existsVendor collate cameraId id = true := by
  obtain ⟨e, he, hcam, hvendor⟩ := existsVendor_iff.1 hid
  obtain ⟨e', he', hcam', hvendor'⟩ := h e he
  exact existsVendor_iff.2 ⟨e', he', hcam'.trans hcam, by rw [hvendor', hvendor]⟩

/-- A message that makes a row leaves its vendor id. -/
theorem existsVendor_of_created {id : String} (hid : m.n.vendorEventId = some id)
    (hpulse : m.n.state = .pulse ∨
      m.n.state = .start ∧ s.events.getActiveByDedup r.collate m.key = none)
    (hnew : m.vendorDuplicate r s.events = false) :
    (s.process r m).1.events.existsVendor r.collate m.cameraId id = true := by
  rcases process_cases s r m with ⟨hwhy, -⟩ | ⟨state, -, heq⟩ | ⟨ev, -, hst, -, -⟩
  · rcases hpulse with hst | ⟨hst, hnone⟩ <;> simp_all
  · rw [heq]
    refine applyPolicy_annotates.keepsVendors.existsVendor ?_
    exact existsVendor_iff.2 ⟨_, (Table.mem_insert s.events.ne_freshKey).2 (.inr rfl), rfl,
      by rw [← Option.map_some, ← hid]⟩
  · rcases hpulse with hst' | ⟨hst', -⟩ <;> rw [hst] at hst' <;> cases hst'

/-- The repeats of a message that has made a row change nothing, whatever has happened since. -/
theorem repeat_of_created {id : String} (hid : m.n.vendorEventId = some id) (hne : id ≠ "")
    (hpulse : m.n.state = .pulse ∨
      m.n.state = .start ∧ s.events.getActiveByDedup r.collate m.key = none)
    (hnew : m.vendorDuplicate r s.events = false) (hrep : m'.Repeats m) (steps : List EventStep) :
    ((steps.foldl (Pipeline.step r) (s.step r (.message m))).process r m').1 =
      { steps.foldl (Pipeline.step r) (s.step r (.message m)) with clock := m'.now } := by
  have hrun : ∀ s : Pipeline, s.events.existsVendor r.collate m.cameraId id = true →
      (steps.foldl (Pipeline.step r) s).events.existsVendor r.collate m.cameraId id = true := by
    induction steps with
    | nil => exact fun _ h => h
    | cons a steps ih => exact fun s h => ih _ (keepsVendors_step.existsVendor h)
  refine EventLog.process_of_duplicate ?_
  obtain ⟨hcam, hn, -⟩ := hrep
  have hstored := hrun (s.step r (.message m)) (existsVendor_of_created hid hpulse hnew)
  rw [EventInput.vendorDuplicate, hcam, hn, hid, Option.getD_some]
  simpa [truthy, hne] using hstored

end

namespace VendorFixture

/-- A motion message with a vendor id. -/
def message (state : EventMsg) (id : String) (now : Int) : EventStep :=
  .message { EventFixture.motion state now with n.vendorEventId := some id }

/-- The start and the end of one occurrence. -/
def occurrence : List EventStep := [message .start "7c1" 5, message .stop "7c1" 7]

/-- An end that is delivered again while the next occurrence lasts. -/
def repeated : List EventStep :=
  [message .start "7c1" 5, message .stop "7c2" 7, message .start "7c3" 9, message .stop "7c2" 10]

end VendorFixture

open VendorFixture in
/-- The end with the id of its start is dropped, and the repeat of an end closes the next event. -/
theorem transition_swallowed :
    (¬ ∀ pre a, pre ++ [a] <+: occurrence → (pre.foldl (EventLog.step EventFixture.rules)
      ⟨EventFixture.pipeline, []⟩).Faithful EventFixture.rules a) ∧
    ¬ ∀ pre a, pre ++ [a] <+: repeated → (pre.foldl (EventLog.step EventFixture.rules)
      ⟨EventFixture.pipeline, []⟩).Faithful EventFixture.rules a := by
  constructor
  · intro h
    have hfaith := h [message .start "7c1" 5] (message .stop "7c1" 7) (List.prefix_refl _)
    obtain ⟨ev, hev⟩ := Option.isSome_iff_exists.1 (by decide +kernel :
      (([message .start "7c1" 5].foldl (EventLog.step EventFixture.rules)
        ⟨EventFixture.pipeline, []⟩).pipe.events.getActiveByDedup EventFixture.rules.collate
          (EventFixture.motion .stop 7).key).isSome = true)
    obtain ⟨e, he, -, hst, -⟩ := hfaith.1 rfl ev hev
    have hactive : ∀ e ∈ (occurrence.foldl (Pipeline.step EventFixture.rules)
        EventFixture.pipeline).events, e.state ≠ .ended := by
      decide +kernel
    exact hactive e he hst
  · intro h
    have hfaith := h [message .start "7c1" 5, message .stop "7c2" 7, message .start "7c3" 9]
      (message .stop "7c2" 10) (List.prefix_refl _)
    have hsame := hfaith.2 ⟨_, .tail _ (.head _), rfl, rfl, rfl⟩
    have hrows := congrArg (fun s => s.events.rows.map Event.state) hsame
    revert hrows
    decide +kernel

end AeroXProtect
