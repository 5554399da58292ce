import AeroXProtect.Monitor.Pairing

/-!
# Revocation of a monitor

A monitor is revoked by an operator (`revoke`, `delete`), and a change of its dashboard revokes its
tokens. Each raises the version of the monitor, and a token carries the version it was signed with,
so the tokens that are out are refused from then on. The codes that are out are another matter: a
code that was issued before the revocation can still be claimed, for a pair with the new version
(`revoked_claimed`). `revocation_final` is what holds of every run in which a monitor is revoked
only while it has no code to claim; a deleted monitor needs no such condition.
-/

open Lib

namespace AeroXProtect

/-! ## Runs -/

/-- A request of an operator or of a display. -/
inductive MonitorAct
  | pairCode (uuid : String) (digits : Nat)
  | claim (code : String) (ip ua : Option String)
  | refresh (c : Claims)
  | update (uuid : String) (data : Json) (commits : Bool)
  | revoke (uuid : String)
  | delete (uuid : String)

namespace PairingWorld

/-- A request, executed at a reading of the clock. -/
def act (cfg : PairingConfig) (w : PairingWorld) (a : Int × MonitorAct) : PairingWorld :=
  (match a.2 with
    | .pairCode uuid digits => (w.pairCode cfg a.1 uuid digits).1
    | .claim code ip ua => (w.claim cfg a.1 code ip ua).1
    | .refresh c => (w.refresh cfg a.1 c).1
    | .update uuid data commits => (w.update uuid data commits).1
    | .revoke uuid => (w.revoke uuid).1
    | .delete uuid => (w.delete a.1 uuid).1).tick a.1

/-- The monitor an update gives another dashboard to. -/
def redirected (w : PairingWorld) (uuid : String) (data : Json) (commits : Bool) : Option Monitor :=
  match w.tokens.monitors.getByUuid uuid, data with
  | some m, .obj fields =>
    match w.requestedDashboard fields with
    | .ok (some d) => if commits && decide (d.id ≠ m.dashboardId) then some m else none
    | _ => none
  | _, _ => none

/-- The monitor whose tokens a request revokes. -/
def revoked (w : PairingWorld) : MonitorAct → Option Monitor
  | .revoke uuid | .delete uuid => w.tokens.monitors.getByUuid uuid
  | .update uuid data commits => w.redirected uuid data commits
  | _ => none

/-- There is a code to claim for the monitor. -/
def claimable (w : PairingWorld) (now : Int) (m : Monitor) : Bool :=
  m.enabled && w.codes.rows.any fun c => c.monitorId == m.id && c.active now

/-- The clock does not go back, and a monitor that is revoked and not deleted has no code to
claim. -/
def codesSpent (w : PairingWorld) (a : Int × MonitorAct) : Bool :=
  decide (w.clock ≤ a.1) &&
  match a.2 with
  | .delete _ => true
  | x => (w.revoked x).all fun m => !w.claimable a.1 m

end PairingWorld

/-! ## What a request does -/

/-- What a request may do to a monitor: its version grows, and a deleted one stays deleted. -/
structure Monitor.Ages (m m' : Monitor) : Prop where
  id : m'.id = m.id
  uuid : m'.uuid = m.uuid
  enabled : m'.enabled = m.enabled
  tokenVersion : m.tokenVersion ≤ m'.tokenVersion
  deletedAt : m'.deletedAt = none → m.deletedAt = none

namespace Monitor

variable {m m' m'' : Monitor}

theorem Ages.refl (m : Monitor) : m.Ages m := ⟨rfl, rfl, rfl, le_rfl, fun h => h⟩

theorem Ages.trans (h : m.Ages m') (h' : m'.Ages m'') : m.Ages m'' :=
  ⟨h'.id.trans h.id, h'.uuid.trans h.uuid, h'.enabled.trans h.enabled,
    h.tokenVersion.trans h'.tokenVersion, fun hn => h.deletedAt (h'.deletedAt hn)⟩

end Monitor

/-- Every monitor of the second table is an aged monitor of the first. -/
def Monitors.Ages (t t' : Monitors) : Prop := ∀ m' ∈ t', ∃ m ∈ t, m.Ages m'

namespace Monitors

variable {t t' t'' : Monitors}

theorem Ages.refl (t : Monitors) : t.Ages t := fun m hm => ⟨m, hm, .refl m⟩

theorem Ages.trans (h : t.Ages t') (h' : t'.Ages t'') : t.Ages t'' := by
  intro m'' hm''
  obtain ⟨m', hm', ha'⟩ := h' m'' hm''
  obtain ⟨m, hm, ha⟩ := h m' hm'
  exact ⟨m, hm, ha.trans ha'⟩

/-- The rows after the update of one. -/
theorem mem_updateRow {id : Nat} {f : Monitor → Monitor} {hf : ∀ m, (f m).id = m.id}
    {m' : Monitor} :
    m' ∈ t.updateRow id f hf ↔ ∃ m ∈ t, m' = if m.id = id then f m else m := by
  unfold updateRow
  rw [Table.mem_modify]
  simp only [beq_iff_eq]

theorem ages_updateRow {id : Nat} {f : Monitor → Monitor} (hf : ∀ m, (f m).id = m.id)
    (h : ∀ m ∈ t, m.id = id → m.Ages (f m)) : t.Ages (t.updateRow id f hf) := by
  intro m' hm'
  obtain ⟨m, hm, rfl⟩ := mem_updateRow.1 hm'
  refine ⟨m, hm, ?_⟩
  split
  · next hid => exact h m hm hid
  · exact .refl m

/-- The rows after an update of a monitor that raises its version, by the version loaded before. -/
theorem mem_bumped {m r' : Monitor} {f : Monitor → Monitor} {hf : ∀ m, (f m).id = m.id} :
    r' ∈ (t.updateRow m.id f hf).bumpTokenVersion m ↔
      ∃ r ∈ t, r' = if r.id = m.id then { f r with tokenVersion := m.tokenVersion + 1 } else r := by
  unfold bumpTokenVersion
  rw [mem_updateRow]
  constructor
  · rintro ⟨r, hr, rfl⟩
    obtain ⟨r₀, hr₀, rfl⟩ := mem_updateRow.1 hr
    refine ⟨r₀, hr₀, ?_⟩
    by_cases hid : r₀.id = m.id
    · rw [if_pos hid, if_pos ((hf r₀).trans hid), if_pos hid]
    · rw [if_neg hid, if_neg hid, if_neg hid]
  · rintro ⟨r₀, hr₀, rfl⟩
    refine ⟨_, mem_updateRow.2 ⟨r₀, hr₀, rfl⟩, ?_⟩
    by_cases hid : r₀.id = m.id
    · rw [if_pos hid, if_pos hid, if_pos ((hf r₀).trans hid)]
    · rw [if_neg hid, if_neg hid, if_neg hid]

theorem ages_bumped {m : Monitor} (hm : m ∈ t) {f : Monitor → Monitor} {hf : ∀ m, (f m).id = m.id}
    (h : ∀ r : Monitor, r.Ages (f r)) : t.Ages ((t.updateRow m.id f hf).bumpTokenVersion m) := by
  intro r' hr'
  obtain ⟨r, hr, rfl⟩ := mem_bumped.1 hr'
  refine ⟨r, hr, ?_⟩
  split
  · next hid =>
    obtain rfl := Table.eq_of_key_eq hr hm hid
    have hage := h r
    exact ⟨hage.id, hage.uuid, hage.enabled, Int.le_of_lt (Int.lt_succ _), hage.deletedAt⟩
  · exact .refl r

theorem ages_softDelete {m : Monitor} (hm : m ∈ t) (now : Int) : t.Ages (t.softDelete m now) := by
  refine ages_updateRow (by intro; rfl) fun r hr hid => ?_
  obtain rfl := Table.eq_of_key_eq hr hm hid
  exact ⟨rfl, rfl, rfl, Int.le_of_lt (Int.lt_succ _), nofun⟩

theorem ages_markPaired (t : Monitors) (m : Monitor) (now : Int) (ip ua : Option String) :
    t.Ages (t.markPaired m now ip ua) :=
  ages_updateRow (by intro; rfl) fun _ _ _ => ⟨rfl, rfl, rfl, le_rfl, fun h => h⟩

end Monitors

theorem updateFields_ages (fields : List (String × Json)) (m : Monitor) :
    m.Ages (PairingWorld.updateFields fields m) := ⟨rfl, rfl, rfl, le_rfl, fun h => h⟩

namespace PairingWorld

section
variable (cfg : PairingConfig) (w : PairingWorld) (a : Int × MonitorAct)

/-- The requests of an operator that issue no code age the monitors and do nothing else. -/
theorem update_eq (uuid : String) (data : Json) (commits : Bool) :
    ∃ t, (w.update uuid data commits).1 = w.setMonitors t ∧ w.tokens.monitors.Ages t := by
  unfold update
  split
  · exact ⟨_, rfl, .refl _⟩
  · next m fields hm =>
    obtain ⟨hmem, -, -⟩ := Monitors.getByUuid_eq_some hm
    split
    · exact ⟨_, rfl, .refl _⟩
    · split
      · exact ⟨_, rfl, .refl _⟩
      · split
        · split
          · exact ⟨_, rfl, Monitors.ages_bumped hmem fun r => ⟨rfl, rfl, rfl, le_rfl, fun h => h⟩⟩
          · exact ⟨_, rfl, Monitors.ages_updateRow _ fun r _ _ => updateFields_ages fields r⟩
        · exact ⟨_, rfl, Monitors.ages_updateRow _ fun r _ _ => updateFields_ages fields r⟩
  · exact ⟨_, rfl, .refl _⟩

theorem revoke_eq (uuid : String) :
    ∃ t, (w.revoke uuid).1 = w.setMonitors t ∧ w.tokens.monitors.Ages t := by
  unfold revoke
  split
  · exact ⟨_, rfl, .refl _⟩
  · next m hm =>
    exact ⟨_, rfl, Monitors.ages_bumped (Monitors.getByUuid_eq_some hm).1
      fun r => ⟨rfl, rfl, rfl, le_rfl, fun h => h⟩⟩

theorem delete_eq (now : Int) (uuid : String) :
    ∃ t, (w.delete now uuid).1 = w.setMonitors t ∧ w.tokens.monitors.Ages t := by
  unfold delete
  split
  · exact ⟨_, rfl, .refl _⟩
  · next m hm => exact ⟨_, rfl, Monitors.ages_softDelete (Monitors.getByUuid_eq_some hm).1 now⟩

end

/-- A monitor that a pair can be issued for: there is a code to claim, or a token to exchange. -/
def Entitled (w : PairingWorld) (now : Int) (m : Monitor) : Prop :=
  m ∈ w.tokens.monitors ∧ m.enabled = true ∧ m.deletedAt = none ∧
    ((∃ c ∈ w.codes, c.monitorId = m.id ∧ c.active now = true) ∨
      ∃ p ∈ w.tokens.minted, p.2.sub = m.uuid ∧ p.2.mv = some m.tokenVersion)

section
variable {cfg : PairingConfig} {w : PairingWorld} {a : Int × MonitorAct}

/-- An accepted token of a monitor carries its version. -/
theorem entitled_of_verifyMonitor {now now' : Int} {c : Claims} {typ : String}
    {x : Monitor × Claims} (h : w.tokens.verifyMonitor now c typ = .ok x) :
    w.Entitled now' x.1 := by
  obtain ⟨m, d⟩ := x
  obtain ⟨hd, -, -, hl⟩ := TokenWorld.verifyMonitor_eq_ok h
  obtain ⟨hm, hen, hv⟩ := TokenWorld.liveMonitor_eq_ok hl
  obtain ⟨hmem, huuid, hdel⟩ := Monitors.getByUuid_eq_some hm
  obtain ⟨rfl, ⟨k, hk⟩, -⟩ := TokenWorld.decode_eq_ok.1 hd
  exact ⟨hmem, hen, hdel, .inr ⟨(k, d), hk, huuid.symm, hv.symm⟩⟩

/-- What a request does to the tables: the monitors age, a code is an older one or is issued by the
request, and a token is an older one or is issued for a monitor that is entitled to it. -/
structure Effects (w : PairingWorld) (a : Int × MonitorAct) (w' : PairingWorld) : Prop where
  monitors : w.tokens.monitors.Ages w'.tokens.monitors
  codes : ∀ c' ∈ w'.codes, (∃ c ∈ w.codes, c.Ages c') ∨ ∃ uuid digits m,
    a.2 = .pairCode uuid digits ∧ w.tokens.monitors.getByUuid uuid = some m ∧ c'.monitorId = m.id
  minted : ∀ p ∈ w'.tokens.minted, p ∈ w.tokens.minted ∨
    ∃ m, w.Entitled a.1 m ∧ p.2.sub = m.uuid ∧ p.2.mv = some m.tokenVersion

/-- Only the monitors are written. -/
theorem effects_setMonitors {t : Monitors} (h : w.tokens.monitors.Ages t) :
    w.Effects a (w.setMonitors t) :=
  ⟨h, fun c hc => .inl ⟨c, hc, .refl c⟩, fun _ hp => .inl hp⟩

theorem effects_refl : w.Effects a w := effects_setMonitors (.refl _)

/-- A pair is issued for a monitor that is entitled to it. -/
theorem minted_issueMonitorPair {w₀ : TokenWorld} {now : Int} {m : Monitor} {dash : String}
    {fid : Option Nat} (h : w.Entitled now m) (hw : w₀.minted = w.tokens.minted)
    {p : TokenKind × Claims}
    (hp : p ∈ (w₀.issueMonitorPair cfg.jwt now m dash fid).1.minted) :
    p ∈ w.tokens.minted ∨
      ∃ m, w.Entitled now m ∧ p.2.sub = m.uuid ∧ p.2.mv = some m.tokenVersion := by
  rcases List.mem_cons.1 hp with rfl | hp
  · exact .inr ⟨m, h, rfl, rfl⟩
  · rcases List.mem_cons.1 hp with rfl | hp
    · exact .inr ⟨m, h, rfl, rfl⟩
    · exact .inl (hw ▸ hp)

theorem effects_claim {now : Int} (code : String) (ip ua : Option String) (ha : a.1 = now) :
    w.Effects a (w.claim cfg now code ip ua).1 := by
  subst ha
  unfold claim
  split
  · exact effects_refl
  · split
    · exact effects_refl
    · next row hrow =>
      obtain ⟨hmem, -, hact⟩ := lookupCode_eq_some hrow
      have hcodes : w.codes.Ages (w.codes.consume row.id a.1).1 := PairingCodes.ages_consume row.id
      have spent : w.Effects a { w with codes := (w.codes.consume row.id a.1).1 } :=
        ⟨.refl _, fun c hc => .inl (hcodes c hc), fun _ hp => .inl hp⟩
      dsimp only
      split
      · exact spent
      · split
        · exact spent
        · next m hm =>
          obtain ⟨hmon, hid, hdel, hen⟩ := pairable_eq_some hm
          have hent : w.Entitled a.1 m := ⟨hmon, hen, hdel, .inl ⟨row, hmem, hid.symm, hact⟩⟩
          exact ⟨Monitors.ages_markPaired _ _ _ _ _, fun c hc => .inl (hcodes c hc),
            fun p hp => minted_issueMonitorPair hent rfl hp⟩

theorem effects_pairCode {now : Int} {uuid : String} {digits : Nat}
    (ha : a.2 = .pairCode uuid digits) : w.Effects a (w.pairCode cfg now uuid digits).1 := by
  unfold pairCode
  split
  · exact effects_refl
  · next m hm =>
    refine ⟨Monitors.ages_updateRow (by intro; rfl)
        fun _ _ _ => ⟨rfl, rfl, rfl, le_rfl, fun h => h⟩, fun c hc => ?_, fun _ hp => .inl hp⟩
    rcases Table.mem_or_eq_of_mem_insert hc with hc | rfl
    · exact .inl (PairingCodes.ages_expireActiveForMonitor m.id c hc)
    · exact .inr ⟨uuid, digits, m, ha, hm, rfl⟩

theorem effects_refresh {now : Int} (c : Claims) (ha : a.1 = now) :
    w.Effects a (w.refresh cfg now c).1 := by
  subst ha
  change w.Effects a { w with tokens := (w.tokens.rotateMonitorRefresh cfg.jwt a.1 c).1 }
  unfold TokenWorld.rotateMonitorRefresh
  split
  · exact effects_refl
  · next m d hv =>
    have hent : w.Entitled a.1 m := entitled_of_verifyMonitor hv
    exact ⟨.refl _, fun c hc => .inl ⟨c, hc, .refl c⟩,
      fun p hp => minted_issueMonitorPair hent rfl hp⟩

theorem effects_act (cfg : PairingConfig) (w : PairingWorld) (a : Int × MonitorAct) :
    w.Effects a (w.act cfg a) := by
  have tick : ∀ {w'}, w.Effects a w' → w.Effects a (w'.tick a.1) :=
    fun h => ⟨h.monitors, h.codes, h.minted⟩
  have written : ∀ {w'}, (∃ t, w' = w.setMonitors t ∧ w.tokens.monitors.Ages t) →
      w.Effects a w' := by
    rintro _ ⟨t, rfl, hage⟩
    exact effects_setMonitors hage
  refine tick ?_
  obtain ⟨now, x⟩ := a
  cases x with
  | pairCode uuid digits => exact effects_pairCode rfl
  | claim code ip ua => exact effects_claim code ip ua rfl
  | refresh c => exact effects_refresh c rfl
  | update uuid data commits => exact written (w.update_eq uuid data commits)
  | revoke uuid => exact written (w.revoke_eq uuid)
  | delete uuid => exact written (w.delete_eq now uuid)

/-! ## What a revocation does -/

/-- A request that revokes the tokens of a monitor deletes it or raises its version. -/
theorem revoked_act (cfg : PairingConfig) {m : Monitor} (h : w.revoked a.2 = some m) :
    m ∈ w.tokens.monitors ∧
    ∃ t, w.act cfg a = (w.setMonitors t).tick a.1 ∧ ∀ r ∈ t, r.id = m.id →
      r.tokenVersion = m.tokenVersion + 1 ∧
      ((∃ uuid, a.2 = .delete uuid) → r.deletedAt ≠ none) := by
  obtain ⟨now, x⟩ := a
  cases x with
  | revoke uuid =>
    have hm : w.tokens.monitors.getByUuid uuid = some m := h
    refine ⟨(Monitors.getByUuid_eq_some hm).1, _, by dsimp only [act, revoke]; rw [hm],
      fun r' hr' => ?_⟩
    obtain ⟨r, -, rfl⟩ := Monitors.mem_bumped.1 hr'
    split
    · exact fun _ => ⟨rfl, nofun⟩
    · next hne => exact fun hid => absurd hid hne
  | delete uuid =>
    have hm : w.tokens.monitors.getByUuid uuid = some m := h
    refine ⟨(Monitors.getByUuid_eq_some hm).1, _, by dsimp only [act, delete]; rw [hm],
      fun r' hr' => ?_⟩
    obtain ⟨r, -, rfl⟩ := Monitors.mem_updateRow.1 hr'
    split
    · exact fun _ => ⟨rfl, fun _ => Option.some_ne_none now⟩
    · next hne => exact fun hid => absurd hid hne
  | update uuid data commits =>
    have hm : w.redirected uuid data commits = some m := h
    unfold redirected at hm
    split at hm
    · next m' fields hm' =>
      split at hm
      · next d hd =>
        split at hm
        · next hc =>
          cases hm
          rw [Bool.and_eq_true, decide_eq_true_eq] at hc
          refine ⟨(Monitors.getByUuid_eq_some hm').1,
            (w.tokens.monitors.updateRow m.id fun r =>
              { updateFields fields r with dashboardId := d.id }).bumpTokenVersion m,
            ?_, fun r' hr' => ?_⟩
          · simp [act, update, hm', hd, hc.1, hc.2]
          · obtain ⟨r, -, rfl⟩ := Monitors.mem_bumped.1 hr'
            split
            · exact fun _ => ⟨rfl, nofun⟩
            · next hne => exact fun hid => absurd hid hne
        · cases hm
      · cases hm
    · cases hm
  | _ => cases h

end

end PairingWorld

/-! ## Invariants -/

/-- Uuids are unique, and no token is ahead of the version of its monitor. -/
structure VersionInv (w : PairingWorld) : Prop where
  uuids : ∀ m ∈ w.tokens.monitors, ∀ m' ∈ w.tokens.monitors, m.uuid = m'.uuid → m.id = m'.id
  versions : ∀ p ∈ w.tokens.minted, ∀ m ∈ w.tokens.monitors, p.2.sub = m.uuid →
    ∃ v, p.2.mv = some v ∧ v ≤ m.tokenVersion

/-- The monitor `m` has been revoked: no token for it has been signed since `old`, and its row is
deleted, disabled, or ahead of every token and without a code to claim. -/
structure Final (m : Monitor) (old : List (TokenKind × Claims)) (w : PairingWorld) : Prop where
  uuid : ∀ r ∈ w.tokens.monitors, r.id = m.id ↔ r.uuid = m.uuid
  minted : ∀ p ∈ w.tokens.minted, p.2.sub = m.uuid → p ∈ old
  row : ∀ r ∈ w.tokens.monitors, r.id = m.id → r.deletedAt ≠ none ∨ r.enabled = false ∨
    (∀ p ∈ w.tokens.minted, p.2.sub = m.uuid → ∃ v, p.2.mv = some v ∧ v < r.tokenVersion) ∧
      ∀ c ∈ w.codes, c.monitorId = m.id → c.active w.clock = false

section
variable {cfg : PairingConfig} {w w' : PairingWorld} {a : Int × MonitorAct} {m : Monitor}
  {old : List (TokenKind × Claims)}

theorem VersionInv.effects (h : VersionInv w) (he : w.Effects a w') : VersionInv w' where
  uuids := by
    intro m hm m' hm' huuid
    obtain ⟨r, hr, hage⟩ := he.monitors m hm
    obtain ⟨r', hr', hage'⟩ := he.monitors m' hm'
    rw [hage.uuid, hage'.uuid] at huuid
    rw [hage.id, hage'.id]
    exact h.uuids r hr r' hr' huuid
  versions := by
    intro p hp m' hm' hsub
    obtain ⟨m, hm, hage⟩ := he.monitors m' hm'
    rw [hage.uuid] at hsub
    rcases he.minted p hp with hp | ⟨r, ⟨hr, -⟩, hsub', hmv⟩
    · obtain ⟨v, hv, hle⟩ := h.versions p hp m hm hsub
      exact ⟨v, hv, hle.trans hage.tokenVersion⟩
    · obtain rfl := Table.eq_of_key_eq hr hm (h.uuids r hr m hm (hsub'.symm.trans hsub))
      exact ⟨r.tokenVersion, hmv, hage.tokenVersion⟩

/-- A revoked monitor is entitled to nothing. -/
theorem Final.not_entitled (h : Final m old w) {now : Int} (hclock : w.clock ≤ now) {r : Monitor}
    (hr : w.Entitled now r) : r.id ≠ m.id := by
  intro hid
  obtain ⟨hmem, hen, hdel, hwhy⟩ := hr
  rcases h.row r hmem hid with hd | he | ⟨hold, hcodes⟩
  · exact hd hdel
  · rw [hen] at he
    cases he
  · rcases hwhy with ⟨c, hc, hcm, hact⟩ | ⟨p, hp, hsub, hmv⟩
    · have hact' := PairingCode.active_mono hact hclock
      rw [hcodes c hc (hcm.trans hid)] at hact'
      cases hact'
    · obtain ⟨v, hv, hlt⟩ := hold p hp (hsub.trans ((h.uuid r hmem).1 hid))
      rw [hmv] at hv
      cases hv
      exact lt_irrefl _ hlt

/-- No request changes that, as long as no code is issued for the monitor. -/
theorem Final.act (h : Final m old w) (hclock : w.clock ≤ a.1)
    (ha : ∀ digits, a.2 ≠ .pairCode m.uuid digits) : Final m old (w.act cfg a) := by
  have he := PairingWorld.effects_act cfg w a
  have hminted : ∀ p ∈ (w.act cfg a).tokens.minted, p.2.sub = m.uuid → p ∈ w.tokens.minted := by
    intro p hp hsub
    rcases he.minted p hp with hp | ⟨r, hent, hsub', -⟩
    · exact hp
    · exact absurd ((h.uuid r hent.1).2 (hsub'.symm.trans hsub)) (h.not_entitled hclock hent)
  refine ⟨fun r' hr' => ?_, fun p hp hsub => h.minted p (hminted p hp hsub) hsub,
    fun r' hr' hid => ?_⟩
  · obtain ⟨r, hr, hage⟩ := he.monitors r' hr'
    rw [hage.id, hage.uuid]
    exact h.uuid r hr
  · obtain ⟨r, hr, hage⟩ := he.monitors r' hr'
    rcases h.row r hr (hage.id.symm.trans hid) with hd | hen | ⟨hold, hcodes⟩
    · exact .inl fun hnone => hd (hage.deletedAt hnone)
    · exact .inr (.inl (hage.enabled.trans hen))
    · refine .inr (.inr ⟨fun p hp hsub => ?_, fun c' hc' hcm => ?_⟩)
      · obtain ⟨v, hv, hlt⟩ := hold p (hminted p hp hsub) hsub
        exact ⟨v, hv, hlt.trans_le hage.tokenVersion⟩
      · rcases he.codes c' hc' with ⟨c, hc, hcage⟩ | ⟨uuid, digits, m₁, hpair, hm₁, hid₁⟩
        · rw [Bool.eq_false_iff]
          intro hact
          have hact' := PairingCode.active_mono (hcage.active hact) hclock
          rw [hcodes c hc (hcage.monitorId.symm.trans hcm)] at hact'
          cases hact'
        · obtain ⟨hmem₁, rfl, -⟩ := Monitors.getByUuid_eq_some hm₁
          rw [(h.uuid m₁ hmem₁).1 (hid₁.symm.trans hcm)] at hpair
          exact absurd hpair (ha digits)

/-- What is admitted of a revocation. -/
theorem codesSpent_of_revoked (ha : w.codesSpent a = true) (hm : w.revoked a.2 = some m) :
    (∃ uuid, a.2 = .delete uuid) ∨ m.enabled = false ∨
      ∀ c ∈ w.codes, c.monitorId = m.id → c.active a.1 = false := by
  obtain ⟨now, x⟩ := a
  unfold PairingWorld.codesSpent at ha
  rw [Bool.and_eq_true] at ha
  have hspent : (∃ uuid, x = .delete uuid) ∨ w.claimable now m = false := by
    cases x with
    | delete uuid => exact .inl ⟨uuid, rfl⟩
    | _ =>
      right
      have hall := ha.2
      dsimp only at hall hm
      rw [hm] at hall
      simpa using hall
  refine hspent.imp_right fun hc => ?_
  unfold PairingWorld.claimable at hc
  rw [Bool.and_eq_false_iff] at hc
  refine hc.imp_right fun hnone c hmem hid => ?_
  rw [List.any_eq_false] at hnone
  simpa [hid] using hnone c hmem

/-- A revocation, while there is no code to claim. -/
theorem Final.of_revoked (h : VersionInv w) (hm : w.revoked a.2 = some m)
    (ha : w.codesSpent a = true) : Final m w.tokens.minted (w.act cfg a) := by
  obtain ⟨hmem, t, hact, hrow⟩ := PairingWorld.revoked_act cfg hm
  have hage := (PairingWorld.effects_act cfg w a).monitors
  rw [hact] at hage ⊢
  refine ⟨fun r' hr' => ?_, fun p hp _ => hp, fun r' hr' hid => ?_⟩
  · obtain ⟨r, hr, ha⟩ := hage r' hr'
    rw [ha.id, ha.uuid]
    refine ⟨fun hid => ?_, fun huuid => h.uuids r hr m hmem huuid⟩
    rw [Table.eq_of_key_eq hr hmem hid]
  · obtain ⟨hv, hdel⟩ := hrow r' hr' hid
    obtain ⟨r, hr, hage'⟩ := hage r' hr'
    obtain rfl := Table.eq_of_key_eq hr hmem (hage'.id.symm.trans hid)
    rcases codesSpent_of_revoked ha hm with hdeleted | hen | hcodes
    · exact .inl (hdel hdeleted)
    · exact .inr (.inl (hage'.enabled.trans hen))
    · refine .inr (.inr ⟨fun p hp hsub => ?_, hcodes⟩)
      obtain ⟨v, hmv, hle⟩ := h.versions p hp r hmem hsub
      exact ⟨v, hmv, by omega⟩

end

/-- No monitor has two rows. -/
def TokenTables.UniqueUuids (t : TokenTables) : Prop :=
  ∀ m ∈ t.monitors, ∀ m' ∈ t.monitors, m.uuid = m'.uuid → m.id = m'.id

theorem VersionInv.start {t : TokenTables} (ht : t.UniqueUuids) (now : Int) :
    VersionInv (.start t now) :=
  ⟨ht, fun _ hp => absurd hp List.not_mem_nil⟩

/-- **A revocation is final.** In every run in which a monitor that is revoked or given another
dashboard has no code to claim at that time, from the revocation (or the deletion) of a monitor on
and for as long as no code is issued for it, no access and no refresh token is accepted for the
monitor, and no token for it is signed. -/
theorem revocation_final (cfg : PairingConfig) {t : TokenTables} (ht : t.UniqueUuids) (start : Int)
    {as bs : List (Int × MonitorAct)} {w v : PairingWorld} {a : Int × MonitorAct} {m : Monitor}
    (hw : Run (PairingWorld.act cfg) (fun w a => w.codesSpent a = true) (.start t start) as w)
    (ha : w.codesSpent a = true) (hm : w.revoked a.2 = some m)
    (hv : Run (PairingWorld.act cfg)
      (fun w b => w.codesSpent b = true ∧ ∀ digits, b.2 ≠ .pairCode m.uuid digits)
      (w.act cfg a) bs v) :
    (∀ now c x, v.tokens.verifyMonitorAccess now c = .ok x → x.1.uuid ≠ m.uuid) ∧
    (∀ now c x, (v.refresh cfg now c).2 = .ok x → x.1.uuid ≠ m.uuid) ∧
    ∀ p ∈ v.tokens.minted, p.2.sub = m.uuid → p ∈ w.tokens.minted := by
  have hclock : ∀ {w : PairingWorld} {a}, w.codesSpent a = true → w.clock ≤ a.1 := by
    intro w a ha
    exact of_decide_eq_true (Bool.and_eq_true _ _ ▸ ha).1
  have hinv : VersionInv w :=
    hw.invariant (fun w a h _ => h.effects (PairingWorld.effects_act cfg w a)) (.start ht start)
  have hfinal : Final m w.tokens.minted v :=
    hv.invariant (fun w b h hb => h.act (hclock hb.1) hb.2) (.of_revoked hinv hm ha)
  have hrefused : ∀ {now c typ x}, v.tokens.verifyMonitor now c typ = .ok x →
      x.1.uuid ≠ m.uuid := by
    intro now c typ x hx huuid
    have hent : v.Entitled v.clock x.1 := PairingWorld.entitled_of_verifyMonitor hx
    exact hfinal.not_entitled le_rfl hent ((hfinal.uuid x.1 hent.1).2 huuid)
  refine ⟨fun now c x hx => hrefused hx, fun now c x hx => ?_, hfinal.minted⟩
  have hrot : v.tokens.rotateMonitorRefresh cfg.jwt now c =
      ((v.tokens.rotateMonitorRefresh cfg.jwt now c).1, .ok x) :=
    Prod.ext rfl hx
  exact hrefused (TokenWorld.rotateMonitorRefresh_eq_ok hrot)

namespace RevokedFixture

def config : PairingConfig :=
  { hash := fun code => "pepper:" ++ code, isdigit := Char.isDigit, codeTtlS := 60,
    jwt := { KindsFixture.config with accessTtl := 300 } }

def monitor : Monitor :=
  { id := 21, uuid := "dock", name := .str "dock", dashboardId := 3, rotation := .null,
    status := .unpaired, tokenVersion := 0, pairedAt := none, lastSeenAt := none, lastIp := none,
    userAgent := none, deviceLabel := .null, settings := .null, enabled := true, deletedAt := none }

def tables : TokenTables :=
  { users := ∅, refreshTokens := ∅, monitors := ⟨[monitor], by decide⟩, dashboards := ∅,
    aiNodes := ∅, encodingNodes := ∅, nodejoin := ∅, denylist := ∅ }

def after (as : List (Int × MonitorAct)) : PairingWorld :=
  as.foldl (PairingWorld.act config) (.start tables 0)

/-- A display is paired. -/
def paired : List (Int × MonitorAct) :=
  [(seconds 1, .pairCode "dock" 7), (seconds 2, .claim "000007" none none)]

/-- A code is out. -/
def pending : List (Int × MonitorAct) := [(seconds 1, .pairCode "dock" 7)]

def revoke : Int × MonitorAct := (seconds 3, .revoke "dock")

/-- The refresh token of the display. -/
def refreshToken : Claims :=
  { sub := "dock", aud := "monitor", typ := "refresh", tv := none, mv := some 0, scope := none,
    fid := some 2, iat := 2, exp := 2592002, jti := 1 }

/-- After the revocation the display tries to exchange its token, and the code is claimed again. -/
def attempts : List (Int × MonitorAct) :=
  [(seconds 4, .refresh refreshToken), (seconds 5, .claim "000007" none none)]

theorem uniqueUuids : tables.UniqueUuids := by
  unfold TokenTables.UniqueUuids
  decide

end RevokedFixture

section
open RevokedFixture

/-- A paired display is revoked: its token was accepted before, and no token is signed after. -/
theorem revocation_final_fixture :
    ((after paired).refresh config (seconds 3) refreshToken).2.isOk = true ∧
    (after paired).revoked revoke.2 = some { monitor with
      status := .paired, pairedAt := some (seconds 2), lastSeenAt := some (seconds 2) } ∧
    ∀ p ∈ (after (paired ++ revoke :: attempts)).tokens.minted, p.2.sub = "dock" →
      p ∈ (after paired).tokens.minted := by
  have hw : Run (PairingWorld.act config) (fun w a => w.codesSpent a = true) (.start tables 0)
      paired (after paired) := .of_admits (by decide +kernel)
  have ha : (after paired).codesSpent revoke = true := by decide +kernel
  have hm : (after paired).revoked revoke.2 = some { monitor with
      status := .paired, pairedAt := some (seconds 2), lastSeenAt := some (seconds 2) } := by
    decide +kernel
  have hv : Run (PairingWorld.act config)
      (fun w b => w.codesSpent b = true ∧ ∀ digits, b.2 ≠ .pairCode "dock" digits)
      ((after paired).act config revoke) attempts (after (paired ++ revoke :: attempts)) :=
    .cons ⟨by decide +kernel, nofun⟩ (.cons ⟨by decide +kernel, nofun⟩ .nil)
  exact ⟨by decide +kernel, hm, (revocation_final config uniqueUuids 0 hw ha hm hv).2.2⟩

/-- A code that was issued before the revocation is claimed after it. -/
theorem revoked_claimed :
    ((after (pending ++ [revoke])).claim config (seconds 5) "000007" none none).2.isOk = true ∧
    ¬ ∀ p ∈ (after (pending ++ revoke :: attempts)).tokens.minted, p.2.sub = "dock" →
      p ∈ (after pending).tokens.minted := by
  constructor <;> decide +kernel

end

end AeroXProtect
