import AeroXProtect.Event.StateMachine

/-!
# Coverage of recorded events

An event whose start was decided `record` gets a recording from its pre-buffer on. When it closes,
the recording should reach its end and the post-buffer. The end message decides again, with its own
score and under the cooldown its start has set, and the sweeper closes without looking at the
recording: `KeepsRecord` is the condition on the state before a step under which neither loses the
record. `recorded_events_covered` is the law over every run whose steps meet it.
-/

open Lib

namespace AeroXProtect

/-! ## Recordings only grow -/

/-- Every recording is still there and covers what it covered. -/
def Recordings.Grows (t t' : Recordings) : Prop :=
  ∀ c ∈ t, ∃ c' ∈ t', c'.id = c.id ∧ ∀ a b, c.Covers a b → c'.Covers a b

section
variable {t : Recordings} {s : Pipeline} {r : Rules} {m : EventInput} {ev : Event}

theorem Recordings.Grows.refl : t.Grows t := fun c hc => ⟨c, hc, rfl, fun _ _ h => h⟩

theorem Recordings.mem_extend {id : Nat} {start stop : Int} {c : Recording} :
    c ∈ t.extend id start stop ↔ ∃ x ∈ t, c = if x.id = id then extended start stop x else x := by
  simpa [extend] using Table.mem_modify (t := t) (x := c) (p := fun r => decide (r.id = id))
    (f := extended start stop)

theorem Recordings.Grows.extend {id : Nat} {start stop : Int} :
    t.Grows (t.extend id start stop) := by
  intro c hc
  refine ⟨_, mem_extend.2 ⟨c, hc, rfl⟩, ?_⟩
  split
  · exact ⟨rfl, fun _ _ h => h.extended start stop⟩
  · exact ⟨rfl, fun _ _ h => h⟩

theorem Recordings.findOverlapping_mem {cameraId : Nat} {start stop : Int}
    {reason : RecordingReason} {c : Recording}
    (h : t.findOverlapping cameraId start stop reason = some c) : c ∈ t := by
  have := List.mem_of_mem_head? h
  rw [mem_orderBy, List.mem_filter] at this
  exact this.1

/-- A clip leaves a recording of the interval under the id it answers, and shrinks none. -/
theorem clip_spec (s : Pipeline) (ev : Event) (start stop : Int) :
    s.recordings.Grows (s.clip ev start stop).1 ∧
      ∃ c ∈ (s.clip ev start stop).1, c.id = (s.clip ev start stop).2 ∧ c.Covers start stop := by
  unfold Pipeline.clip
  cases hf : s.recordings.findOverlapping ev.cameraId start stop .event with
  | some c =>
    refine ⟨.extend, _, Recordings.mem_extend.2 ⟨c, Recordings.findOverlapping_mem hf, rfl⟩, ?_⟩
    rw [if_pos rfl]
    exact ⟨rfl, c.covers_extended start stop⟩
  | none =>
    refine ⟨fun c hc => ?_, _, (Table.mem_insert s.recordings.ne_freshKey).2 (.inr rfl), rfl,
      le_refl _, stop, rfl, le_refl _⟩
    exact ⟨c, (Table.mem_insert s.recordings.ne_freshKey).2 (.inl hc), rfl, fun _ _ h => h⟩

/-! ## The outcome of a policy -/

/-- The message passes the policy it resolves to and is decided `record`. -/
structure DecidesRecord (s : Pipeline) (r : Rules) (m : EventInput) (startTs : Int)
    (policy : EventPolicy) : Prop where
  resolve : EventPolicyResolver.resolve r.collate r.policies m.cameraId m.n.type m.n.subtype =
    some policy
  score : ∀ min, policy.minScore = some min → min ≤ m.n.score.getD 0
  cooldown : s.withinCooldown m.key m.checkedAt m.checkUp = false
  action : combine policy.action (ScheduleResolver.mode r.schedules r.siteLocal m.cameraId startTs)
    m.n.type = .record

theorem resolve_enabled {collate : String → String} {t : EventPolicies} {cameraId : Nat}
    {eventType : String} {subtype : Option String} {policy : EventPolicy}
    (h : EventPolicyResolver.resolve collate t cameraId eventType subtype = some policy) :
    policy.enabled = true := by
  have := (List.mem_filter.1 (EventPolicyResolver.resolve_mem h)).2
  simp only [Bool.and_eq_true] at this
  exact this.1.1.2

/-- A message decided `record` writes the action and the clip. -/
theorem applyPolicy_of_decidesRecord {policy : EventPolicy}
    (h : DecidesRecord s r m ev.startTs policy) :
    (s.applyPolicy r m m.key ev).events = ((s.setAction ev.id .record).materialize r ev.id
        policy.preBufferS policy.postBufferS m.clippedAt).events ∧
      (s.applyPolicy r m m.key ev).recordings = ((s.setAction ev.id .record).materialize r ev.id
        policy.preBufferS policy.postBufferS m.clippedAt).recordings := by
  have hmark : ∀ (s : Pipeline) c now up, (s.markTrigger m.key c now up).events = s.events ∧
      (s.markTrigger m.key c now up).recordings = s.recordings := by
    intro s c now up
    unfold Pipeline.markTrigger
    split <;> exact ⟨rfl, rfl⟩
  have hscore : (policy.minScore.any fun min => decide (m.n.score.getD 0 < min)) = false := by
    cases hmin : policy.minScore with
    | none => rfl
    | some min =>
      have := h.score min hmin
      simpa using this
  unfold Pipeline.applyPolicy
  rw [h.resolve]
  simp only [resolve_enabled h.resolve, Bool.not_true, Bool.false_eq_true, if_false, hscore,
    h.cooldown, h.action, if_true]
  split <;> exact hmark _ _ _ _

/-- What a policy does: it leaves the rows alone, it writes an action other than `record`, or it is
decided `record`. -/
theorem applyPolicy_cases (s : Pipeline) (r : Rules) (m : EventInput) (ev : Event) :
    ((s.applyPolicy r m m.key ev).events = s.events ∧
      (s.applyPolicy r m m.key ev).recordings = s.recordings) ∨
    (∃ a, a ≠ .record ∧ (s.applyPolicy r m m.key ev).events = s.events.setPolicyAction ev.id a ∧
      (s.applyPolicy r m m.key ev).recordings = s.recordings) ∨
    ∃ policy, DecidesRecord s r m ev.startTs policy := by
  unfold Pipeline.applyPolicy
  cases hres : EventPolicyResolver.resolve r.collate r.policies m.cameraId m.n.type m.n.subtype with
  | none => exact .inl ⟨rfl, rfl⟩
  | some policy =>
    simp only [resolve_enabled hres, Bool.not_true, Bool.false_eq_true, if_false]
    split
    · exact .inr (.inl ⟨.discardScore, by simp, rfl, rfl⟩)
    · next hscore =>
      split
      · exact .inr (.inl ⟨.discardCooldown, by simp, rfl, rfl⟩)
      · next hcool =>
        by_cases ha : combine policy.action
            (ScheduleResolver.mode r.schedules r.siteLocal m.cameraId ev.startTs) m.n.type = .record
        · refine .inr (.inr ⟨policy, hres, fun min hmin => ?_, by simpa using hcool, ha⟩)
          simpa [hmin] using hscore
        · refine .inr (.inl ⟨_, ha, ?_⟩)
          rw [if_neg ha]
          split <;> exact ⟨rfl, rfl⟩

theorem materialize_grows {id : Nat} {preS postS now : Int} :
    s.recordings.Grows (s.materialize r id preS postS now).recordings := by
  unfold Pipeline.materialize
  split
  · exact .refl
  · split
    · exact .refl
    · exact (clip_spec _ _ _ _).1

theorem applyPolicy_grows : s.recordings.Grows (s.applyPolicy r m m.key ev).recordings := by
  rcases applyPolicy_cases s r m ev with ⟨-, h⟩ | ⟨a, -, -, h⟩ | ⟨policy, hd⟩
  · rw [h]; exact .refl
  · rw [h]; exact .refl
  · rw [(applyPolicy_of_decidesRecord hd).2]
    exact materialize_grows (s := s.setAction ev.id .record)

/-- The start of the clip of an event. -/
def clipStart (r : Rules) (policy : EventPolicy) (e : Event) : Int :=
  e.startTs - seconds (min policy.preBufferS (r.cacheSeconds e.cameraId))

/-- The event is marked `record` and its recording covers the clip up to `stop`. -/
def Recorded (s : Pipeline) (r : Rules) (policy : EventPolicy) (e : Event) (stop : Int) : Prop :=
  e.policyAction = some .record ∧
    ∃ c ∈ s.recordings, e.recordingId = some c.id ∧ c.Covers (clipStart r policy e) stop

theorem Recorded.grows {s' : Pipeline} {policy : EventPolicy} {e : Event} {stop : Int}
    (h : Recorded s r policy e stop) (hg : s.recordings.Grows s'.recordings) :
    Recorded s' r policy e stop := by
  obtain ⟨ha, c, hc, hid, hcov⟩ := h
  obtain ⟨c', hc', hid', hcov'⟩ := hg c hc
  exact ⟨ha, c', hc', hid'.symm ▸ hid, hcov' _ _ hcov⟩

/-- An event decided `record` is marked, and its recording covers it up to its end, or up to now,
and the post-buffer. -/
theorem applyPolicy_recorded {policy : EventPolicy} {e : Event}
    (h : DecidesRecord s r m ev.startTs policy) (he : e ∈ s.events) (hid : e.id = ev.id)
    (hlive : e.deletedAt = none) :
    ∃ e' ∈ (s.applyPolicy r m m.key ev).events, e'.core = e.core ∧
      Recorded (s.applyPolicy r m m.key ev) r policy e'
        (e.endTs.getD m.clippedAt + seconds policy.postBufferS) := by
  obtain ⟨hevents, hrecs⟩ := applyPolicy_of_decidesRecord h
  rw [← hid] at hevents hrecs
  set s₁ := s.setAction e.id .record
  set e₁ : Event := { e with policyAction := some .record }
  have hset : e₁ ∈ s₁.events := Events.mem_setPolicyAction he .record
  have hget : s₁.events.get? e.id = some e₁ := Table.get?_eq_some.2 ⟨hset, rfl⟩
  have hmat : s₁.materialize r e.id policy.preBufferS policy.postBufferS m.clippedAt =
      let clip := s₁.clip e₁ (clipStart r policy e)
        (e.endTs.getD m.clippedAt + seconds policy.postBufferS)
      { s₁ with recordings := clip.1, events := s₁.events.setRecordingId e.id clip.2 } := by
    have hlive₁ : e₁.deletedAt.isSome = false := by
      show e.deletedAt.isSome = false
      rw [hlive]
      rfl
    unfold Pipeline.materialize
    rw [hget]
    simp only [hlive₁, Bool.false_eq_true, if_false]
    rfl
  obtain ⟨-, c, hc, hcid, hcov⟩ := clip_spec s₁ e₁ (clipStart r policy e)
    (e.endTs.getD m.clippedAt + seconds policy.postBufferS)
  rw [hmat] at hevents hrecs
  refine ⟨{ e₁ with recordingId := some c.id }, ?_, rfl, rfl, c, ?_, rfl, hcov⟩
  · rw [hevents, hcid]
    exact Events.mem_setRecordingId hset _
  · rw [hrecs]
    exact hc

end

/-! ## Histories -/

/-- The pipeline with the events whose start was decided `record`, and the policy that did. -/
structure EventHistory where
  pipe : Pipeline
  recorded : List (Nat × EventPolicy)

/-- The event a start message creates, when it is decided `record`. -/
def Pipeline.decidedAtStart (s : Pipeline) (r : Rules) (m : EventInput) :
    Option (Nat × EventPolicy) :=
  if m.n.state = .start ∧ m.vendorDuplicate r s.events = false ∧
      s.events.getActiveByDedup r.collate m.key = none then
    match (s.process r m).1.events.get? s.events.freshKey with
    | some e =>
      if e.policyAction = some .record then
        (EventPolicyResolver.resolve r.collate r.policies m.cameraId m.n.type
          m.n.subtype).map fun p =>
          (e.id, p)
      else none
    | none => none
  else none

/-- One step, with its decision. -/
def EventHistory.step (r : Rules) (h : EventHistory) (a : EventStep) : EventHistory where
  pipe := h.pipe.step r a
  recorded :=
    match a with
    | .message m => h.recorded ++ (h.pipe.decidedAtStart r m).toList
    | .sweep _ _ | .cleanup _ => h.recorded

/-- Every event whose start was decided `record` and that has ended is still marked `record`, and
its recording covers the event from the pre-buffer, as far as the cache reaches, to the post-buffer.
-/
def EventHistory.Covered (r : Rules) (h : EventHistory) : Prop :=
  ∀ id policy, (id, policy) ∈ h.recorded → ∀ e ∈ h.pipe.events, e.id = id → e.state = .ended →
    ∃ endTs, e.endTs = some endTs ∧
      Recorded h.pipe r policy e (endTs + seconds policy.postBufferS)

/-- The step does not lose a record: an end message that closes an event decided `record` is decided
`record` by the same policy again (it meets the score, and the key is not in its cooldown), and an
event decided `record` that the sweeper closes has a recording that reaches that far already. -/
def KeepsRecord (r : Rules) (h : EventHistory) : EventStep → Prop
  | .message m => m.n.state = .stop → m.vendorDuplicate r h.pipe.events = false →
    ∀ ev, h.pipe.events.getActiveByDedup r.collate m.key = some ev →
    ∀ policy, (ev.id, policy) ∈ h.recorded →
      DecidesRecord h.pipe r m ev.startTs policy
  | .sweep now closedAt =>
    ∀ ev ∈ h.pipe.events.getStaleActive (now - seconds Pipeline.maxActiveAgeS) 1000,
      ∀ policy, (ev.id, policy) ∈ h.recorded →
        ∃ c ∈ h.pipe.recordings, ev.recordingId = some c.id ∧
          ∃ x, c.endTs = some x ∧ closedAt ev.id + seconds policy.postBufferS ≤ x
  | .cleanup _ => True

/-- The invariant of an event decided `record`: marked, and covered up to its end or, while it is
active, up to its start. -/
def Kept (r : Rules) (s : Pipeline) (x : Nat × EventPolicy) : Prop :=
  ∃ e ∈ s.events, e.id = x.1 ∧ (e.state = .ended → e.endTs ≠ none) ∧
    Recorded s r x.2 e (e.endTs.getD e.startTs + seconds x.2.postBufferS)

section
variable {r : Rules} {s s' : Pipeline} {m : EventInput} {x : Nat × EventPolicy}

/-- An event that a step leaves alone stays kept. -/
theorem Kept.of_mem {e : Event} (he : e ∈ s'.events) (hid : e.id = x.1)
    (hend : e.state = .ended → e.endTs ≠ none)
    (hrec : Recorded s r x.2 e (e.endTs.getD e.startTs + seconds x.2.postBufferS))
    (hg : s.recordings.Grows s'.recordings) : Kept r s' x :=
  ⟨e, he, hid, hend, hrec.grows hg⟩

/-- A start or pulse message keeps the records of the events there are. -/
theorem Kept.create {state : EventState} (h : Kept r s x) :
    Kept r ((s.create m m.key state).1.applyPolicy r m m.key (s.create m m.key state).2) x := by
  obtain ⟨e, he, hid, hend, hrec⟩ := h
  have hins : e ∈ (s.create m m.key state).1.events :=
    (Table.mem_insert s.events.ne_freshKey).2 (.inl he)
  have hne : e.id ≠ (s.create m m.key state).2.id := s.events.ne_freshKey e he
  refine Kept.of_mem (applyPolicy_annotates.others e hins hne) hid hend hrec ?_
  exact applyPolicy_grows (s := (s.create m m.key state).1)

/-- An end message keeps the record of the event it closes when it is decided `record` again, and
those of the others. -/
theorem Kept.close {ev : Event} (h : Kept r s x)
    (hev : s.events.getActiveByDedup r.collate m.key = some ev)
    (hkeep : x.1 = ev.id → DecidesRecord s r m ev.startTs x.2) :
    Kept r ({ s with events := s.events.close ev.id m.now }.applyPolicy r m m.key ev) x := by
  obtain ⟨e, he, hid, hend, hrec⟩ := h
  obtain ⟨hmem, hact⟩ := getActiveByDedup_some hev
  by_cases hxe : e.id = ev.id
  · obtain rfl : e = ev := Table.eq_of_key_eq he hmem hxe
    have hdec := hkeep hid.symm
    have hclosed : Events.closed m.now e ∈ s.events.close e.id m.now :=
      Events.mem_close.2 ⟨e, he, by rw [if_pos rfl]⟩
    have hdec' : DecidesRecord { s with events := s.events.close e.id m.now } r m e.startTs x.2 :=
      ⟨hdec.resolve, hdec.score, hdec.cooldown, hdec.action⟩
    obtain ⟨e', he', hcore, hrec'⟩ := applyPolicy_recorded hdec' hclosed rfl
      (isActive_iff.1 hact).2.2
    simp only [Event.core, Events.closed, Event.mk.injEq] at hcore
    refine ⟨e', he', by rw [hcore.1, hid], fun _ => by simp [hcore], ?_⟩
    rw [show e'.endTs = some m.now from hcore.2.2.2.2.2.2.1]
    exact hrec'
  · have hopen : e ∈ s.events.close ev.id m.now := Events.mem_close.2 ⟨e, he, by rw [if_neg hxe]⟩
    refine Kept.of_mem ?_ hid hend hrec
      (applyPolicy_grows (s := { s with events := s.events.close ev.id m.now }))
    exact (applyPolicy_annotates
      (s := { s with events := s.events.close ev.id m.now })).others e hopen hxe

theorem Recorded.mono {policy : EventPolicy} {e : Event} {stop stop' : Int}
    (h : Recorded s r policy e stop) (hle : stop' ≤ stop) : Recorded s r policy e stop' := by
  obtain ⟨ha, c, hc, hid, hstart, y, hy, hle'⟩ := h
  exact ⟨ha, c, hc, hid, hstart, y, hy, hle.trans hle'⟩

/-- The event of a start decided `record` is kept. -/
theorem Kept.start (hclock : m.now ≤ m.clippedAt) (h : s.decidedAtStart r m = some x) :
    Kept r (s.process r m).1 x := by
  unfold Pipeline.decidedAtStart at h
  split at h
  swap
  · cases h
  next hcond =>
  obtain ⟨hst, hdup, hnone⟩ := hcond
  have hproc : (s.process r m).1 =
      ({ s with clock := m.now }.create m m.key .active).1.applyPolicy r m m.key
        ({ s with clock := m.now }.create m m.key .active).2 := by
    rcases process_cases s r m with ⟨hwhy, -⟩ | ⟨state, hstate, heq⟩ | ⟨ev, -, hstop, -, -⟩
    · simp [hdup, hst, hnone] at hwhy
    · rcases hstate with ⟨hp, -⟩ | ⟨-, rfl, -⟩
      · rw [hst] at hp; cases hp
      · exact heq
    · rw [hst] at hstop; cases hstop
  set s₁ := ({ s with clock := m.now }.create m m.key .active).1
  set ev := ({ s with clock := m.now }.create m m.key .active).2
  have hev : ev ∈ s₁.events := (Table.mem_insert s.events.ne_freshKey).2 (.inr rfl)
  cases hget : (s.process r m).1.events.get? s.events.freshKey with
  | none => rw [hget] at h; cases h
  | some e =>
    rw [hget] at h
    simp only at h
    split at h
    swap
    · cases h
    next hact =>
    obtain ⟨p, hres, rfl⟩ := Option.map_eq_some_iff.1 h
    obtain ⟨he, heid⟩ := Table.get?_eq_some.1 hget
    rw [hproc] at he ⊢
    rcases applyPolicy_cases s₁ r m ev with ⟨hsame, -⟩ | ⟨a, hne, hset, -⟩ | ⟨policy, hdec⟩
    · rw [hsame] at he
      rw [Table.eq_of_key_eq he hev heid] at hact
      cases hact
    · rw [hset, Events.setPolicyAction, Table.mem_modify] at he
      obtain ⟨e₀, he₀, rfl⟩ := he
      split at hact
      · cases hact
        exact absurd rfl hne
      · next hid =>
        rw [if_neg hid] at heid
        exact absurd (decide_eq_true heid) hid
    · have hpol : p = policy := Option.some.inj (hres.symm.trans hdec.resolve)
      subst hpol
      obtain ⟨e', he', hcore, hrec⟩ := applyPolicy_recorded hdec hev rfl rfl
      simp only [Event.core, Event.mk.injEq] at hcore
      have hend : e'.endTs = none := hcore.2.2.2.2.2.2.1
      have hstart : e'.startTs = m.now := hcore.2.2.2.2.2.1
      have hstate : e'.state = .active := hcore.2.2.2.2.1
      refine ⟨e', he', hcore.1.trans heid.symm, fun hst => ?_, hrec.mono ?_⟩
      · rw [hstate] at hst; cases hst
      · rw [hend, hstart]
        exact Int.add_le_add_right hclock _

/-- The rows a sweep leaves: each event, closed if it was selected. -/
theorem mem_sweep (closedAt : Nat → Int) (l : List Event) {t : Events} {e : Event} (he : e ∈ t) :
    (if e.id ∈ l.map Event.id then Events.closed (closedAt e.id) e else e) ∈
      l.foldl (fun t e => t.close e.id (closedAt e.id)) t := by
  induction l generalizing t e with
  | nil => simpa using he
  | cons a l ih =>
    rw [List.foldl_cons]
    by_cases ha : e.id = a.id
    · have hmem : Events.closed (closedAt e.id) e ∈ t.close a.id (closedAt a.id) :=
        Events.mem_close.2 ⟨e, he, by rw [if_pos ha, ha]⟩
      have := ih hmem
      rw [if_pos (by simp [ha])]
      -- closing a second time at the same instant changes nothing
      have hid : (Events.closed (closedAt e.id) e).id = e.id := rfl
      rw [hid] at this
      split at this
      · exact this
      · exact this
    · have hmem : e ∈ t.close a.id (closedAt a.id) :=
        Events.mem_close.2 ⟨e, he, by rw [if_neg ha]⟩
      have := ih hmem
      simpa [ha] using this

/-- A sweep keeps a record when the recording reaches the close already. -/
theorem Kept.sweep {now : Int} {closedAt : Nat → Int} (h : Kept r s x)
    (hkeep : ∀ ev ∈ s.events.getStaleActive (now - seconds Pipeline.maxActiveAgeS) 1000,
      ev.id = x.1 → ∃ c ∈ s.recordings, ev.recordingId = some c.id ∧
        ∃ y, c.endTs = some y ∧ closedAt ev.id + seconds x.2.postBufferS ≤ y) :
    Kept r (s.activeEventSweeper now closedAt) x := by
  obtain ⟨e, he, hid, hend, hrec⟩ := h
  have hmem := mem_sweep closedAt
    (s.events.getStaleActive (now - seconds Pipeline.maxActiveAgeS) 1000) he
  split at hmem
  · next hsel =>
    obtain ⟨ev, hev, heq⟩ := List.mem_map.1 hsel
    have hevs : ev ∈ s.events := (List.mem_filter.1 (List.mem_of_mem_take hev)).1
    obtain rfl : ev = e := Table.eq_of_key_eq hevs he heq
    obtain ⟨c, hc, hcid, y, hy, hle⟩ := hkeep ev hev hid
    obtain ⟨hact, c', hc', hcid', hcov⟩ := hrec
    obtain rfl : c' = c :=
      Table.eq_of_key_eq hc' hc (Option.some.inj (hcid'.symm.trans hcid))
    exact ⟨_, hmem, hid, fun _ => Option.some_ne_none _, hact, c', hc', hcid', hcov.1, y, hy, hle⟩
  · exact ⟨e, hmem, hid, hend, hrec⟩

/-- A cleanup keeps every record. -/
theorem Kept.cleanup {now : Int} (h : Kept r s x) : Kept r (s.cleanupEvents now) x := by
  obtain ⟨e, he, hid, hend, hrec⟩ := h
  have hmem : _ ∈ (s.cleanupEvents now).events := Events.mem_deleteBefore.2 ⟨e, he, rfl⟩
  split at hmem
  · exact ⟨_, hmem, hid, hend, hrec⟩
  · exact ⟨e, hmem, hid, hend, hrec⟩

/-- Every step that does not lose a record keeps the records, and adds the one of its own start. -/
theorem kept_step {h : EventHistory} {a : EventStep} (hkept : ∀ x ∈ h.recorded, Kept r h.pipe x)
    (horder : a.InOrder h.pipe) (hkeep : KeepsRecord r h a) :
    ∀ x ∈ (h.step r a).recorded, Kept r (h.step r a).pipe x := by
  intro x hx
  cases a with
  | message m =>
    rcases List.mem_append.1 hx with hx | hx
    · have hk := hkept x hx
      show Kept r (h.pipe.process r m).1 x
      rcases process_cases h.pipe r m with ⟨-, heq⟩ | ⟨state, -, heq⟩ | ⟨ev, hdup, hst, hev, heq⟩
      · rw [heq]; exact hk
      · rw [heq]; exact Kept.create (s := { h.pipe with clock := m.now }) hk
      · rw [heq]
        refine Kept.close (s := { h.pipe with clock := m.now }) hk hev fun hid => ?_
        have hdec := hkeep hst hdup ev hev x.2 (hid ▸ hx)
        exact ⟨hdec.resolve, hdec.score, hdec.cooldown, hdec.action⟩
    · rw [Option.mem_toList] at hx
      exact Kept.start (horder.2.1.trans horder.2.2.1) hx
  | sweep now closedAt =>
    exact (hkept x hx).sweep fun ev hev hid => hkeep ev hev x.2 (hid ▸ hx)
  | cleanup now => exact (hkept x hx).cleanup

end

/-- **Recorded events are covered.** In every run of messages, sweeps and cleanups, the clock not
going back, whose steps do not lose a record, every event whose start was decided `record` and that
has ended is marked `record`, and its recording covers it with its buffers. -/
theorem recorded_events_covered (r : Rules) (h₀ h : EventHistory) (steps : List EventStep)
    (hnew : h₀.recorded = [])
    (hrun : Run (EventHistory.step r) (fun h a => a.InOrder h.pipe ∧ KeepsRecord r h a) h₀ steps
      h) :
    h.Covered r := by
  have hkept : ∀ x ∈ h.recorded, Kept r h.pipe x :=
    hrun.invariant (I := fun h => ∀ x ∈ h.recorded, Kept r h.pipe x)
      (fun h a hk ha => kept_step hk ha.1 ha.2) (by rw [hnew]; intro x hx; cases hx)
  intro id policy hx e he hid hst
  obtain ⟨e', he', hid', hend, hrec⟩ := hkept _ hx
  obtain rfl : e' = e := Table.eq_of_key_eq he' he (hid'.trans hid.symm)
  cases hx : e'.endTs with
  | none => exact absurd hx (hend hst)
  | some endTs =>
    rw [hx] at hrec
    exact ⟨endTs, rfl, hrec⟩

namespace CoverageFixture

/-- Record motion with five seconds before and ten after, and a cooldown of ten seconds. -/
def policy : EventPolicy :=
  { id := 1, cameraId := none, eventType := "motion", subtype := none, action := .record,
    preBufferS := 5, postBufferS := 10, cooldownS := 10, minScore := none, notify := true,
    enabled := true, deletedAt := none }

def rules : Rules := ⟨⟨[policy], by decide⟩, ∅, ∅, fun _ => (0, 0), id⟩

def history : EventHistory := ⟨EventFixture.pipeline, []⟩

/-- A motion event of camera 1 that lasts `n` seconds. -/
def steps (n : Int) : List EventStep :=
  [.message (EventFixture.motion .start (seconds 100)),
    .message (EventFixture.motion .stop (seconds (100 + n)))]

def final (n : Int) : EventHistory := (steps n).foldl (EventHistory.step rules) history

end CoverageFixture

/-- An event of thirty seconds outlives its cooldown: its end is decided `record` again, and it is
covered. -/
theorem recorded_events_covered_fixture :
    (1, CoverageFixture.policy) ∈ (CoverageFixture.final 30).recorded ∧
      (CoverageFixture.final 30).Covered CoverageFixture.rules := by
  refine ⟨by decide +kernel, recorded_events_covered CoverageFixture.rules CoverageFixture.history _
    (CoverageFixture.steps 30) rfl (.cons ⟨?_, ?_⟩ (.cons ⟨?_, ?_⟩ .nil))⟩
  · exact ⟨by decide, le_refl _, le_refl _, le_refl _⟩
  · intro hst
    cases hst
  · exact ⟨by decide +kernel, le_refl _, le_refl _, le_refl _⟩
  · intro _ _ ev _ policy hx
    have hrec : (EventHistory.step CoverageFixture.rules CoverageFixture.history
        (.message (EventFixture.motion .start (seconds 100)))).recorded =
        [(1, CoverageFixture.policy)] := by decide +kernel
    rw [hrec, List.mem_singleton, Prod.mk.injEq] at hx
    obtain ⟨-, rfl⟩ := hx
    refine ⟨by decide +kernel, fun _ hmin => ?_, by decide +kernel, rfl⟩
    cases hmin

/-- An event of three seconds ends within its cooldown: its end overwrites the action, and the
recording stops three seconds short. -/
theorem ended_within_cooldown_not_covered :
    Run (EventHistory.step CoverageFixture.rules) (fun h a => a.InOrder h.pipe)
        CoverageFixture.history (CoverageFixture.steps 3) (CoverageFixture.final 3) ∧
      ¬ (CoverageFixture.final 3).Covered CoverageFixture.rules := by
  refine ⟨.cons ?_ (.cons ?_ .nil), fun h => ?_⟩
  · exact ⟨by decide, le_refl _, le_refl _, le_refl _⟩
  · exact ⟨by decide +kernel, le_refl _, le_refl _, le_refl _⟩
  · have hrows : (CoverageFixture.final 3).pipe.events.rows.map
        (fun e => (e.id, e.state, e.policyAction)) = [(1, .ended, some .discardCooldown)] := by
      decide +kernel
    have hmem := List.mem_map.1 (hrows ▸ List.mem_singleton_self _)
    obtain ⟨e, he, heq⟩ := hmem
    simp only [Prod.mk.injEq] at heq
    obtain ⟨-, -, hact, -⟩ := h 1 CoverageFixture.policy (by decide +kernel) e he heq.1 heq.2.1
    rw [heq.2.2] at hact
    cases hact

end AeroXProtect
