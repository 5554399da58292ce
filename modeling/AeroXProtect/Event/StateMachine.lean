import AeroXProtect.Event.Pipeline
import AeroXProtect.Lib.Run

/-!
# The event state machine

`EventsOk` is the invariant of the event rows: at most one live active event per key, no event
starts after the clock, and an ended event ends no earlier than it started. Policy, clip and outbox
only annotate the event they are about (`Annotates`), so the invariant is about the state machine
alone: `EventsOk.create`, `EventsOk.close` and `EventsOk.cleanup` are the three ways the rows
change. `event_state_machine` collects the laws over whole runs.
-/

open Lib

namespace AeroXProtect

/-! ## Annotations -/

/-- The event without what the policy writes into it. -/
def Event.core (e : Event) : Event := { e with policyAction := none, recordingId := none }

/-- The tables agree up to the policy's columns of the event `id`. -/
structure Annotates (id : Nat) (t t' : Events) : Prop where
  cores : t'.rows.map Event.core = t.rows.map Event.core
  others : ∀ e ∈ t, e.id ≠ id → e ∈ t'

section
variable {id : Nat} {t t' t'' : Events} {s : Pipeline} {r : Rules} {m : EventInput}

theorem Annotates.refl : Annotates id t t := ⟨rfl, fun _ he _ => he⟩

theorem Annotates.trans (h : Annotates id t t') (h' : Annotates id t' t'') : Annotates id t t'' :=
  ⟨h'.cores.trans h.cores, fun e he hne => h'.others e (h.others e he hne) hne⟩

/-- An update of the event that leaves its core alone annotates it. -/
theorem Annotates.modify {f : Event → Event} (hcore : ∀ e, (f e).core = e.core)
    (hf : ∀ e, (f e).id = e.id := by intro; rfl) :
    Annotates id t (t.modify (fun e => decide (e.id = id)) f hf) := by
  refine ⟨?_, fun e he hne => Table.mem_modify_of_neg he (by simpa using hne)⟩
  show (t.rows.map fun e => if decide (e.id = id) then f e else e).map Event.core = _
  rw [List.map_map]
  refine List.map_congr_left fun e _ => ?_
  show (if decide (e.id = id) then f e else e).core = e.core
  split
  · exact hcore e
  · rfl

/-- An annotated table has the same events up to annotations. -/
theorem Annotates.mem_core (h : Annotates id t t') {e : Event} (he : e ∈ t') :
    ∃ e' ∈ t, e'.core = e.core := by
  have : e.core ∈ t.rows.map Event.core := h.cores ▸ List.mem_map_of_mem he
  exact List.mem_map.1 this

theorem Annotates.symm_mem_core (h : Annotates id t t') {e : Event} (he : e ∈ t) :
    ∃ e' ∈ t', e'.core = e.core := by
  have : e.core ∈ t'.rows.map Event.core := h.cores ▸ List.mem_map_of_mem he
  exact List.mem_map.1 this

theorem setPolicyAction_annotates {a : PolicyAction} : Annotates id t (t.setPolicyAction id a) :=
  .modify (f := fun e => { e with policyAction := some a }) fun _ => rfl

theorem setRecordingId_annotates {k : Nat} : Annotates id t (t.setRecordingId id k) :=
  .modify (f := fun e => { e with recordingId := some k }) fun _ => rfl

theorem materialize_annotates {preS postS now : Int} :
    Annotates id s.events (s.materialize r id preS postS now).events := by
  unfold Pipeline.materialize
  split
  · exact .refl
  · split
    · exact .refl
    · exact setRecordingId_annotates

/-- Everything after the state machine only annotates the event. -/
theorem applyPolicy_annotates {dedup : String} {ev : Event} :
    Annotates ev.id s.events (s.applyPolicy r m dedup ev).events := by
  have hset : ∀ a, Annotates ev.id s.events (s.setAction ev.id a).events :=
    fun _ => setPolicyAction_annotates
  have hmark : ∀ (s : Pipeline) c now up, (s.markTrigger dedup c now up).events = s.events := by
    intro s c now up
    unfold Pipeline.markTrigger
    split <;> rfl
  unfold Pipeline.applyPolicy
  split
  · exact .refl
  · next policy _ =>
    split
    · exact .refl
    · split
      · exact hset _
      · split
        · exact hset _
        · simp only
          generalize combine policy.action _ m.n.type = action
          have hrec : Annotates ev.id s.events (if action = .record then
              ((s.setAction ev.id action).materialize r ev.id policy.preBufferS policy.postBufferS
                m.clippedAt).markTrigger dedup policy.cooldownS m.markedAt m.markUp
              else s.setAction ev.id action).events := by
            split
            · rw [hmark]
              exact (hset action).trans materialize_annotates
            · exact hset action
          split
          · exact hrec
          · exact hrec

/-- The policy does not touch the clock. -/
theorem applyPolicy_clock {dedup : String} {ev : Event} :
    (s.applyPolicy r m dedup ev).clock = s.clock := by
  have hmat : ∀ (s : Pipeline) id preS postS now,
      (s.materialize r id preS postS now).clock = s.clock := by
    intro s id preS postS now
    unfold Pipeline.materialize
    split
    · rfl
    · split <;> rfl
  have hmark : ∀ (s : Pipeline) c now up, (s.markTrigger dedup c now up).clock = s.clock := by
    intro s c now up
    unfold Pipeline.markTrigger
    split <;> rfl
  unfold Pipeline.applyPolicy
  split
  · rfl
  · split
    · rfl
    · split
      · rfl
      · split
        · rfl
        · simp only
          split <;> split <;> simp [Pipeline.publish, Pipeline.setAction, hmat, hmark]

end

/-! ## The active event of a key -/

section
variable {collate : String → String} {t : Events} {dedup : String} {e : Event}

theorem isActive_iff :
    Events.isActive collate dedup e = true ↔
      collate e.dedupKey = collate dedup ∧ e.state = .active ∧ e.deletedAt = none := by
  simp [Events.isActive, and_assoc]

theorem getActiveByDedup_some (h : t.getActiveByDedup collate dedup = some e) :
    e ∈ t ∧ Events.isActive collate dedup e = true := by
  have := List.mem_of_mem_head? h
  rw [mem_orderBy, List.mem_filter] at this
  exact this

theorem getActiveByDedup_none :
    t.getActiveByDedup collate dedup = none ↔
      ∀ e ∈ t, ¬ Events.isActive collate dedup e = true := by
  rw [Events.getActiveByDedup, List.head?_eq_none_iff]
  constructor
  · intro h e he hact
    have : e ∈ orderBy (fun e => -e.startTs) (t.rows.filter (Events.isActive collate dedup)) := by
      rw [mem_orderBy]; exact List.mem_filter.2 ⟨he, hact⟩
    rw [h] at this
    cases this
  · intro h
    refine List.eq_nil_iff_forall_not_mem.2 fun e he => ?_
    rw [mem_orderBy, List.mem_filter] at he
    exact h e he.1 he.2

end

/-! ## The invariant -/

/-- At most one live active event per key, where keys that the collation takes for equal are one; no
event starts after the clock, and an ended event ends no earlier than it started. -/
structure EventsOk (collate : String → String) (t : Events) (clock : Int) : Prop where
  unique : ∀ dedup, ∀ e ∈ t, ∀ e' ∈ t, Events.isActive collate dedup e = true →
    Events.isActive collate dedup e' = true → e.id = e'.id
  started : ∀ e ∈ t, e.startTs ≤ clock
  ended : ∀ e ∈ t, e.state = .ended → ∃ x, e.endTs = some x ∧ e.startTs ≤ x

section
variable {collate : String → String} {t t' : Events} {clock now : Int}

theorem EventsOk.empty (clock : Int) : EventsOk collate ∅ clock where
  unique := fun _ e he => absurd he (Table.not_mem_empty e)
  started := fun e he => absurd he (Table.not_mem_empty e)
  ended := fun e he => absurd he (Table.not_mem_empty e)

theorem EventsOk.mono (h : EventsOk collate t clock) (hle : clock ≤ now) : EventsOk collate t now :=
  { h with started := fun e he => (h.started e he).trans hle }

/-- Rewriting rows keeps the invariant when no row becomes active or is moved in time, and a row
that becomes ended does so not before the clock. -/
theorem EventsOk.rewrite (h : EventsOk collate t clock)
    (hrow : ∀ e' ∈ t', ∃ e ∈ t, e'.id = e.id ∧ e'.startTs = e.startTs ∧
      (∀ dedup, Events.isActive collate dedup e' = true →
        Events.isActive collate dedup e = true) ∧
      (e'.state = .ended → (e.state = .ended ∧ e'.endTs = e.endTs) ∨
        ∃ x, e'.endTs = some x ∧ clock ≤ x)) :
    EventsOk collate t' clock where
  unique := fun dedup e₁ he₁ e₂ he₂ hact₁ hact₂ => by
    obtain ⟨x₁, hx₁, hid₁, -, hk₁, -⟩ := hrow e₁ he₁
    obtain ⟨x₂, hx₂, hid₂, -, hk₂, -⟩ := hrow e₂ he₂
    rw [hid₁, hid₂]
    exact h.unique dedup x₁ hx₁ x₂ hx₂ (hk₁ dedup hact₁) (hk₂ dedup hact₂)
  started := fun e he => by
    obtain ⟨x, hx, -, hst, -⟩ := hrow e he
    exact hst ▸ h.started x hx
  ended := fun e he hend => by
    obtain ⟨x, hx, -, hst, -, hx'⟩ := hrow e he
    rcases hx' hend with ⟨h1, h2⟩ | ⟨y, hy, hle⟩
    · rw [h2, hst]; exact h.ended x hx h1
    · exact ⟨y, hy, hst ▸ (h.started x hx).trans hle⟩

/-- The invariant does not see annotations. -/
theorem EventsOk.annotates {id : Nat} (h : EventsOk collate t clock) (ha : Annotates id t t') :
    EventsOk collate t' clock := by
  refine h.rewrite fun e' he' => ?_
  obtain ⟨e, he, hcore⟩ := ha.mem_core he'
  simp only [Event.core, Event.mk.injEq] at hcore
  exact ⟨e, he, by simp [hcore], by simp [hcore], by simp [Events.isActive, hcore],
    fun hst => .inl (by simp [hcore, hst])⟩

/-- A new event that is not ended, started by now, and active only when its key has no active event,
keeps the invariant. -/
theorem EventsOk.insert (h : EventsOk collate t clock) {ev : Event} (hid : ev.id = t.freshKey)
    (hstart : ev.startTs ≤ clock) (hstate : ev.state ≠ .ended)
    (hfree : ev.state = .active → ∀ e ∈ t, ¬ Events.isActive collate ev.dedupKey e = true) :
    EventsOk collate (t.insert ev) clock := by
  have hfresh : ∀ x ∈ t, x.id ≠ ev.id := fun x hx => hid ▸ t.ne_freshKey x hx
  refine ⟨?_, ?_, ?_⟩
  · intro dedup e he e' he' hact hact'
    rw [Table.mem_insert hfresh] at he he'
    rcases he with he | rfl <;> rcases he' with he' | rfl
    · exact h.unique dedup e he e' he' hact hact'
    · obtain ⟨hk, hst, -⟩ := isActive_iff.1 hact'
      exact absurd (isActive_iff.2 ⟨(isActive_iff.1 hact).1.trans hk.symm,
        (isActive_iff.1 hact).2⟩) (hfree hst e he)
    · obtain ⟨hk, hst, -⟩ := isActive_iff.1 hact
      exact absurd (isActive_iff.2 ⟨(isActive_iff.1 hact').1.trans hk.symm,
        (isActive_iff.1 hact').2⟩) (hfree hst e' he')
    · rfl
  · intro e he
    rw [Table.mem_insert hfresh] at he
    rcases he with he | rfl
    · exact h.started e he
    · exact hstart
  · intro e he hst
    rw [Table.mem_insert hfresh] at he
    rcases he with he | rfl
    · exact h.ended e he hst
    · exact absurd hst hstate

/-- Closing an event, not before the clock, keeps the invariant. -/
theorem EventsOk.close (h : EventsOk collate t clock) {id : Nat} {endTs : Int}
    (hend : clock ≤ endTs) :
    EventsOk collate (t.close id endTs) clock := by
  refine h.rewrite fun e' he' => ?_
  obtain ⟨e, he, rfl⟩ := Events.mem_close.1 he'
  refine ⟨e, he, ?_⟩
  split
  · exact ⟨rfl, rfl, fun dedup ha => by simp [Events.isActive, Events.closed] at ha,
      fun _ => .inr ⟨endTs, rfl, hend⟩⟩
  · exact ⟨rfl, rfl, fun _ ha => ha, fun hst => .inl ⟨hst, rfl⟩⟩

/-- Soft deletion keeps the invariant. -/
theorem EventsOk.deleteBefore (h : EventsOk collate t clock) {cutoff : Int} :
    EventsOk collate (t.deleteBefore cutoff now) clock := by
  refine h.rewrite fun e' he' => ?_
  obtain ⟨e, he, rfl⟩ := Events.mem_deleteBefore.1 he'
  refine ⟨e, he, ?_⟩
  split
  · exact ⟨rfl, rfl, fun dedup ha => by simp [Events.isActive] at ha,
      fun hst => .inl ⟨hst, rfl⟩⟩
  · exact ⟨rfl, rfl, fun _ ha => ha, fun hst => .inl ⟨hst, rfl⟩⟩

/-- The sweeper keeps the invariant. -/
theorem EventsOk.sweep (h : EventsOk collate t clock) {closedAt : Nat → Int}
    (hat : ∀ id, clock ≤ closedAt id) (l : List Event) :
    EventsOk collate (l.foldl (fun t e => t.close e.id (closedAt e.id)) t) clock := by
  induction l generalizing t with
  | nil => exact h
  | cons e l ih => exact ih (h.close (hat e.id))

end

/-! ## The messages -/

/-- Whether a message repeats a vendor id of its camera. -/
def EventInput.vendorDuplicate (m : EventInput) (r : Rules) (t : Events) : Bool :=
  truthy m.n.vendorEventId && t.existsVendor r.collate m.cameraId (m.n.vendorEventId.getD "")

/-- The key of a message. -/
def EventInput.key (m : EventInput) : String := dedupKey m.cameraId m.n

section
variable {s : Pipeline} {r : Rules} {m : EventInput}

/-- What a message does to the event rows: nothing (a vendor duplicate, a start that finds its event
active, an end that finds none), a new event with its policy, or the close of the active event of
its key with its policy. -/
theorem process_cases (s : Pipeline) (r : Rules) (m : EventInput) :
    ((m.vendorDuplicate r s.events = true ∨
        (m.n.state = .start ∧ s.events.getActiveByDedup r.collate m.key ≠ none) ∨
        (m.n.state = .stop ∧ s.events.getActiveByDedup r.collate m.key = none)) ∧
      (s.process r m).1 = { s with clock := m.now }) ∨
    (∃ state, ((m.n.state = .pulse ∧ state = .pulse) ∨
        (m.n.state = .start ∧ state = .active ∧ s.events.getActiveByDedup r.collate m.key = none)) ∧
      (s.process r m).1 = ({ s with clock := m.now }.create m m.key state).1.applyPolicy r m m.key
        ({ s with clock := m.now }.create m m.key state).2) ∨
    (∃ ev, m.vendorDuplicate r s.events = false ∧ m.n.state = .stop ∧
      s.events.getActiveByDedup r.collate m.key = some ev ∧
      (s.process r m).1 =
        { s with clock := m.now, events := s.events.close ev.id m.now }.applyPolicy r m m.key
          ev) := by
  unfold Pipeline.process EventInput.key
  simp only
  split
  · next hdup => exact .inl ⟨.inl hdup, rfl⟩
  · next hdup =>
    cases hst : m.n.state with
    | start =>
      cases hact : s.events.getActiveByDedup r.collate (dedupKey m.cameraId m.n) with
      | some e => exact .inl ⟨.inr (.inl ⟨rfl, by simp⟩), rfl⟩
      | none => exact .inr (.inl ⟨.active, .inr ⟨rfl, rfl, rfl⟩, rfl⟩)
    | stop =>
      cases hact : s.events.getActiveByDedup r.collate (dedupKey m.cameraId m.n) with
      | some e => exact .inr (.inr ⟨e, Bool.not_eq_true _ ▸ hdup, rfl, rfl, rfl⟩)
      | none => exact .inl ⟨.inr (.inr ⟨rfl, rfl⟩), rfl⟩
    | pulse => exact .inr (.inl ⟨.pulse, .inl ⟨rfl, rfl⟩, rfl⟩)

/-- A message keeps the invariant. -/
theorem EventsOk.process (h : EventsOk r.collate s.events s.clock) (hle : s.clock ≤ m.now) :
    EventsOk r.collate (s.process r m).1.events (s.process r m).1.clock := by
  have h' : EventsOk r.collate s.events m.now := h.mono hle
  rcases process_cases s r m with ⟨-, heq⟩ | ⟨state, hstate, heq⟩ | ⟨ev, -, -, -, heq⟩
  · rw [heq]; exact h'
  · rw [heq, applyPolicy_clock]
    refine EventsOk.annotates ?_ applyPolicy_annotates
    refine h'.insert rfl (le_refl _) ?_ ?_
    · rcases hstate with ⟨-, rfl⟩ | ⟨-, rfl, -⟩ <;> simp
    · intro hact e he
      rcases hstate with ⟨-, rfl⟩ | ⟨-, rfl, hnone⟩
      · cases hact
      · exact getActiveByDedup_none.1 hnone e he
  · rw [heq, applyPolicy_clock]
    refine EventsOk.annotates ?_ applyPolicy_annotates
    exact h'.close (le_refl _)

/-- Every step keeps the invariant. -/
theorem EventsOk.step {a : EventStep} (h : EventsOk r.collate s.events s.clock) (ha : a.InOrder s) :
    EventsOk r.collate (s.step r a).events (s.step r a).clock := by
  cases a with
  | message m => exact h.process ha.1
  | sweep now closedAt => exact (h.mono ha.1).sweep ha.2 _
  | cleanup now => exact (h.mono ha).deleteBefore

end

/-! ## Ended events -/

/-- The table has an ended event with this id and this end. -/
def HasEnded (t : Events) (id : Nat) (endTs : Option Int) : Prop :=
  ∃ e ∈ t, e.id = id ∧ e.state = .ended ∧ e.endTs = endTs

section
variable {t t' : Events} {s : Pipeline} {r : Rules} {id : Nat} {endTs : Option Int}

theorem HasEnded.annotates {k : Nat} (h : HasEnded t id endTs) (ha : Annotates k t t') :
    HasEnded t' id endTs := by
  obtain ⟨e, he, hid, hst, hend⟩ := h
  obtain ⟨e', he', hcore⟩ := ha.symm_mem_core he
  simp only [Event.core, Event.mk.injEq] at hcore
  exact ⟨e', he', by simp [hcore, hid], by simp [hcore, hst], by simp [hcore, hend]⟩

/-- Closing another event leaves the ended one alone. -/
theorem HasEnded.close (h : HasEnded t id endTs) {k : Nat} {x : Int} (hk : k ≠ id) :
    HasEnded (t.close k x) id endTs := by
  obtain ⟨e, he, hid, hst, hend⟩ := h
  exact ⟨e, Events.mem_close.2 ⟨e, he, by rw [if_neg fun hek => hk (hek.symm.trans hid)]⟩, hid, hst,
    hend⟩

/-- An active event is not the ended one. -/
theorem HasEnded.ne_of_active (h : HasEnded t id endTs) {e : Event} (he : e ∈ t)
    (hact : e.state = .active) : e.id ≠ id := by
  obtain ⟨e', he', hid, hst, -⟩ := h
  intro heq
  rw [Table.eq_of_key_eq he he' (heq.trans hid.symm), hst] at hact
  cases hact

/-- Every step leaves an ended event ended, with the end it has. -/
theorem HasEnded.step {a : EventStep} (h : HasEnded s.events id endTs) :
    HasEnded (s.step r a).events id endTs := by
  cases a with
  | message m =>
    rcases process_cases s r m with ⟨-, heq⟩ | ⟨state, -, heq⟩ | ⟨ev, -, -, hev, heq⟩
    · rw [Pipeline.step, heq]; exact h
    · rw [Pipeline.step, heq]
      refine HasEnded.annotates ?_ applyPolicy_annotates
      obtain ⟨e, he, hrow⟩ := h
      exact ⟨e, (Table.mem_insert (s.events.ne_freshKey)).2 (.inl he), hrow⟩
    · rw [Pipeline.step, heq]
      refine HasEnded.annotates ?_ applyPolicy_annotates
      obtain ⟨hmem, hact⟩ := getActiveByDedup_some hev
      exact h.close (h.ne_of_active hmem (isActive_iff.1 hact).2.1)
  | sweep now closedAt =>
    have key : ∀ (l : List Event) (t : Events), (∀ e ∈ l, e.id ≠ id) → HasEnded t id endTs →
        HasEnded (l.foldl (fun t e => t.close e.id (closedAt e.id)) t) id endTs := by
      intro l
      induction l with
      | nil => exact fun _ _ ht => ht
      | cons e l ih =>
        exact fun t hl ht => ih _ (fun x hx => hl x (.tail _ hx)) (ht.close (hl e (.head _)))
    refine key _ _ (fun e he => ?_) h
    have hstale := List.mem_filter.1 (List.mem_of_mem_take he)
    simp only [Bool.and_eq_true, decide_eq_true_eq] at hstale
    exact h.ne_of_active hstale.1 hstale.2.1.1
  | cleanup now =>
    obtain ⟨e, he, hid, hst, hend⟩ := h
    refine ⟨_, Events.mem_deleteBefore.2 ⟨e, he, rfl⟩, ?_⟩
    split <;> exact ⟨hid, hst, hend⟩

/-- An end message that is not a vendor duplicate closes the active event of its key, and changes
and creates no other event. -/
theorem stop_closes {m : EventInput} (hok : EventsOk r.collate s.events s.clock)
    (hst : m.n.state = .stop)
    (hdup : m.vendorDuplicate r s.events = false) :
    (∀ e ∈ s.events, Events.isActive r.collate m.key e = true →
      HasEnded (s.process r m).1.events e.id (some m.now)) ∧
    (∀ e ∈ s.events, ¬ Events.isActive r.collate m.key e = true →
      e ∈ (s.process r m).1.events) ∧
    (∀ e' ∈ (s.process r m).1.events, ∃ e ∈ s.events, e.id = e'.id) := by
  rcases process_cases s r m with ⟨hwhy, heq⟩ | ⟨state, hstate, -⟩ | ⟨ev, -, -, hev, heq⟩
  · rw [hdup, hst] at hwhy
    simp only [Bool.false_eq_true, reduceCtorEq, false_and, true_and, false_or] at hwhy
    rw [heq]
    exact ⟨fun e he hact => absurd hact (getActiveByDedup_none.1 hwhy e he), fun e he _ => he,
      fun e he => ⟨e, he, rfl⟩⟩
  · rcases hstate with ⟨hp, -⟩ | ⟨hp, -, -⟩ <;> rw [hst] at hp <;> cases hp
  · obtain ⟨hmem, hact⟩ := getActiveByDedup_some hev
    have hann : Annotates ev.id (s.events.close ev.id m.now)
        ({ s with clock := m.now, events := s.events.close ev.id m.now }.applyPolicy r m m.key
          ev).events :=
      applyPolicy_annotates (s := { s with clock := m.now, events := s.events.close ev.id m.now })
    rw [heq]
    refine ⟨?_, ?_, ?_⟩
    · intro e he hae
      have hid : e.id = ev.id := hok.unique m.key e he ev hmem hae hact
      refine HasEnded.annotates ?_ hann
      exact ⟨Events.closed m.now e, Events.mem_close.2 ⟨e, he, by rw [if_pos hid]⟩, rfl, rfl, rfl⟩
    · intro e he hne
      have hid : e.id ≠ ev.id := fun h => by
        rw [Table.eq_of_key_eq he hmem h] at hne
        exact hne hact
      exact hann.others e (Events.mem_close.2 ⟨e, he, by rw [if_neg hid]⟩) hid
    · intro e' he'
      obtain ⟨x, hx, hcore⟩ := hann.mem_core he'
      obtain ⟨e, he, rfl⟩ := Events.mem_close.1 hx
      refine ⟨e, he, ?_⟩
      show e.id = e'.core.id
      rw [← hcore]
      split <;> rfl

end

/-! ## The laws over runs -/

/-- **The event state machine.** In every state reached from an empty event table by messages,
sweeps and cleanups in any number and order, the clock not going back: at most one live event per
key is active, and an ended event ends no earlier than it started; a start that finds an active
event of its key leaves the events as they are; an end that is not a vendor duplicate closes the
active event of its key, and leaves every other event as it is and creates none; an end without an
active event leaves the events as they are; and an ended event stays ended, with the same end, in
every continuation. Which keys are the same is for the collation of the column to say. -/
theorem event_state_machine (r : Rules) (s₀ s : Pipeline) (steps : List EventStep)
    (hempty : s₀.events = ∅)
    (hrun : Run (Pipeline.step r) (fun s a => a.InOrder s) s₀ steps s) :
    (∀ e ∈ s.events, ∀ e' ∈ s.events, r.collate e.dedupKey = r.collate e'.dedupKey →
      e.state = .active → e.deletedAt = none → e'.state = .active → e'.deletedAt = none → e = e') ∧
    (∀ e ∈ s.events, e.state = .ended → ∃ x, e.endTs = some x ∧ e.startTs ≤ x) ∧
    (∀ m, m.n.state = .start → (∃ e ∈ s.events, Events.isActive r.collate m.key e = true) →
      (s.process r m).1.events = s.events) ∧
    (∀ m, m.n.state = .stop → m.vendorDuplicate r s.events = false →
      (∀ e ∈ s.events, Events.isActive r.collate m.key e = true →
        HasEnded (s.process r m).1.events e.id (some m.now)) ∧
      (∀ e ∈ s.events, ¬ Events.isActive r.collate m.key e = true →
        e ∈ (s.process r m).1.events) ∧
      (∀ e' ∈ (s.process r m).1.events, ∃ e ∈ s.events, e.id = e'.id)) ∧
    (∀ m, m.n.state = .stop → (∀ e ∈ s.events, ¬ Events.isActive r.collate m.key e = true) →
      (s.process r m).1.events = s.events) ∧
    (∀ steps' t, Run (Pipeline.step r) (fun s a => a.InOrder s) s steps' t →
      ∀ e ∈ s.events, e.state = .ended → HasEnded t.events e.id e.endTs) := by
  have hok : EventsOk r.collate s.events s.clock :=
    hrun.invariant (I := fun s => EventsOk r.collate s.events s.clock) (fun s a h ha => h.step ha)
      (hempty ▸ EventsOk.empty s₀.clock)
  refine ⟨?_, hok.ended, ?_, ?_, ?_, ?_⟩
  · intro e he e' he' hkey hst hdel hst' hdel'
    exact Table.eq_of_key_eq he he'
      (hok.unique e'.dedupKey e he e' he' (isActive_iff.2 ⟨hkey, hst, hdel⟩)
        (isActive_iff.2 ⟨rfl, hst', hdel'⟩))
  · rintro m hst ⟨e, he, hact⟩
    rcases process_cases s r m with ⟨-, heq⟩ | ⟨state, hstate, -⟩ | ⟨ev, -, hstop, -, -⟩
    · rw [heq]
    · rcases hstate with ⟨hp, -⟩ | ⟨-, -, hnone⟩
      · rw [hst] at hp; cases hp
      · exact absurd hact (getActiveByDedup_none.1 hnone e he)
    · rw [hst] at hstop; cases hstop
  · exact fun m hst hdup => stop_closes hok hst hdup
  · intro m hst hnone
    rcases process_cases s r m with ⟨-, heq⟩ | ⟨state, hstate, -⟩ | ⟨ev, -, -, hev, -⟩
    · rw [heq]
    · rcases hstate with ⟨hp, -⟩ | ⟨hp, -, -⟩ <;> rw [hst] at hp <;> cases hp
    · obtain ⟨hmem, hact⟩ := getActiveByDedup_some hev
      exact absurd hact (hnone ev hmem)
  · intro steps' t hrun' e he hst
    exact hrun'.invariant (I := fun s => HasEnded s.events e.id e.endTs) (fun s a h _ => h.step)
      ⟨e, he, rfl, hst, rfl⟩

namespace EventFixture

def rules : Rules := ⟨∅, ∅, ∅, fun _ => (0, 0), id⟩

def pipeline : Pipeline := ⟨∅, ∅, ∅, [], 0⟩

/-- A motion message of camera 1 at an instant. -/
def motion (state : EventMsg) (now : Int) : EventInput :=
  { cameraId := 1
    n := ⟨"motion", state, some "vmd", none, some 1, none, none⟩
    source := "isapi"
    now, checkedAt := now, clippedAt := now, markedAt := now, checkUp := true, markUp := true }

end EventFixture

/-- A start, the same start again, an end, and the same end again: one event, ended once. -/
theorem event_state_machine_fixture :
    let s := [EventStep.message (EventFixture.motion .start 5),
      .message (EventFixture.motion .start 6), .message (EventFixture.motion .stop 7),
      .message (EventFixture.motion .stop 8)].foldl (Pipeline.step EventFixture.rules)
      EventFixture.pipeline
    s.events.rows.map (fun e => (e.state, e.startTs, e.endTs)) = [(.ended, 5, some 7)] ∧
      ∀ e ∈ s.events, e.state = .ended → ∃ x, e.endTs = some x ∧ e.startTs ≤ x := by
  refine ⟨by decide +kernel, ?_⟩
  refine (event_state_machine EventFixture.rules EventFixture.pipeline _
    [.message (EventFixture.motion .start 5), .message (EventFixture.motion .start 6),
      .message (EventFixture.motion .stop 7), .message (EventFixture.motion .stop 8)] rfl
    (.cons ?_ (.cons ?_ (.cons ?_ (.cons ?_ .nil))))).2.1
  all_goals exact ⟨by decide +kernel, le_refl _, le_refl _, le_refl _⟩

end AeroXProtect
