import AeroXProtect.Monitor.Pairing
import AeroXProtect.Lib.OneShot

/-!
# One winner for a pairing code

The pairing service at the granularity of its statements. A claim looks a code up with one statement
and consumes it with another, a conditional update that one claim wins; the issue of a code expires
the older codes of the monitor with one statement and inserts the new code with another. Two issues
that take turns leave two active codes for one monitor (`superseded_claimed`), because the two
statements are two transactions. `one_winner` is what holds of every interleaving in which a code is
inserted only while the monitor has no active one.
-/

open Lib

namespace AeroXProtect

/-! ## The statements of the requests -/

/-- What a claim has seen: the row, when, and the newest code of the monitor at that time. -/
structure Lookup where
  code : String
  row : PairingCode
  time : Int
  latest : Option PairingCode
  deriving DecidableEq, Repr

/-- A request. `write` is anything else that is done to the monitors and dashboards. -/
inductive PairingRequest
  | pairCode (uuid : String) (digits : Nat)
  | claim (code : String) (ip ua : Option String)
  | cleanup
  | write (monitors : Monitors) (dashboards : Dashboards)

/-- Where a request stands: the statement it executes next, or its answer. -/
inductive PairingThread
  | pairCode (uuid : String) (digits : Nat)
  | expire (m : Monitor) (digits : Nat)
  | create (m : Monitor) (digits : Nat)
  | pending (m : Monitor) (code : IssuedCode)
  | claim (code : String) (ip ua : Option String)
  | consume (l : Lookup) (ip ua : Option String)
  | monitor (l : Lookup) (ip ua : Option String)
  | paired (l : Lookup) (m : Monitor) (ip ua : Option String)
  | dashboard (l : Lookup) (m : Monitor)
  | cleanup
  | write (monitors : Monitors) (dashboards : Dashboards)
  | issued (code : IssuedCode)
  | claimed (l : Lookup) (m : Monitor) (pair : ClaimsPair)
  | refused (e : PairingError)
  | written

/-- The newest code of a monitor. -/
def PairingWorld.latest (w : PairingWorld) (monitorId : Nat) : Option PairingCode :=
  w.issued.find? fun c => c.monitorId == monitorId

namespace PairingThread

/-- The start of a request. -/
def start : PairingRequest → PairingThread
  | .pairCode uuid digits => .pairCode uuid digits
  | .claim code ip ua => .claim code ip ua
  | .cleanup => .cleanup
  | .write monitors dashboards => .write monitors dashboards

/-- One statement. Source: `issue` and `claim` (`server/service/pairing_code.py:20`, `:29`), cut at
their statements, and `PairingCode.cleanup` (`server/model/pairing_code.py:67`). -/
def statement (cfg : PairingConfig) (w : PairingWorld) (t : PairingThread) (now : Int) :
    PairingWorld × PairingThread :=
  match t with
  | .pairCode uuid digits =>
    match w.tokens.monitors.getByUuid uuid with
    | none => (w, .refused .rowNotFound)
    | some m => (w, .expire m digits)
  | .expire m digits =>
    ({ w with codes := w.codes.expireActiveForMonitor m.id now }, .create m digits)
  | .create m digits =>
    (w.createCode cfg now m.id (sixDigits digits),
      .pending m ⟨sixDigits digits, cfg.codeTtlS, now + seconds cfg.codeTtlS⟩)
  | .pending m code =>
    (w.setMonitors (w.tokens.monitors.updateStatus m .pending), .issued code)
  | .claim code ip ua =>
    if !PairingWorld.wellFormed cfg code then (w, .refused .invalidOrExpired)
    else
      match w.lookupCode cfg now code with
      | none => (w, .refused .invalidOrExpired)
      | some row => (w, .consume ⟨code, row, now, w.latest row.monitorId⟩ ip ua)
  | .consume l ip ua =>
    let (codes, won) := w.codes.consume l.row.id now
    ({ w with codes }, if won then .monitor l ip ua else .refused .invalidOrExpired)
  | .monitor l ip ua =>
    match w.pairable l.row with
    | none => (w, .refused .invalidOrExpired)
    | some m => (w, .paired l m ip ua)
  | .paired l m ip ua =>
    (w.setMonitors (w.tokens.monitors.markPaired m now ip ua), .dashboard l m)
  | .dashboard l m =>
    let (w', pair) := w.signPair cfg now m (w.tokens.dashUuid m)
    (w', .claimed l m pair)
  | .cleanup => ({ w with codes := w.codes.cleanup now }, .written)
  | .write monitors dashboards =>
    ({ w with tokens := { w.tokens with monitors, dashboards } }, .written)
  | .issued code => (w, .issued code)
  | .claimed l m pair => (w, .claimed l m pair)
  | .refused e => (w, .refused e)
  | .written => (w, .written)

/-- A statement and the reading of the clock it is executed at. -/
def exec (cfg : PairingConfig) (w : PairingWorld) (t : PairingThread) (now : Int) :
    PairingWorld × PairingThread :=
  let (w', t') := statement cfg w t now
  (w'.tick now, t')

/-- The code a claim has won. -/
def won : PairingThread → Option Lookup
  | .monitor l _ _ | .paired l _ _ _ | .dashboard l _ | .claimed l _ _ => some l
  | _ => none

/-- The code a claim has looked up. -/
def lookup : PairingThread → Option Lookup
  | .consume l _ _ => some l
  | t => t.won

/-- The code a claim was answered with a pair for. -/
def claimedCode : PairingThread → Option Lookup
  | .claimed l _ _ => some l
  | _ => none

end PairingThread

abbrev PairingPool := Pool PairingWorld PairingThread

/-- The scheduler of the requests. -/
def pairingStep (cfg : PairingConfig) : PairingPool → PoolAct PairingRequest Int → PairingPool :=
  Pool.step PairingThread.start (PairingThread.exec cfg)

/-- The clock does not go back, and a code is inserted only while its monitor has no active one. -/
def insertsAlone (p : PairingPool) : PoolAct PairingRequest Int → Bool
  | .spawn _ => true
  | .exec i now =>
    decide (p.shared.clock ≤ now) &&
    match p.threads[i]? with
    | some (.create m _) => !p.shared.codes.rows.any fun c => c.monitorId == m.id && c.active now
    | _ => true

/-! ## One request alone -/

section
variable (cfg : PairingConfig) (w : PairingWorld) (now : Int)

/-- What a request has been answered. -/
def PairingThread.answer : PairingThread → Except PairingError Unit
  | .issued _ | .claimed _ _ _ => .ok ()
  | .refused e => .error e
  | _ => .error .raised

/-- A request for a code that runs alone does what `pairCode` does. -/
theorem alone_pairCode (uuid : String) (digits : Nat) :
    let r := Pool.alone (PairingThread.exec cfg) now 4 (w, .pairCode uuid digits)
    r.1 = (w.pairCode cfg now uuid digits).1.tick now ∧
      r.2.answer = (w.pairCode cfg now uuid digits).2.map fun _ => () := by
  unfold PairingWorld.pairCode
  cases hm : w.tokens.monitors.getByUuid uuid with
  | none =>
    simp [Pool.alone, PairingThread.exec, PairingThread.statement, hm, PairingThread.answer,
      Except.map, PairingWorld.tick]
  | some m =>
    simp [Pool.alone, PairingThread.exec, PairingThread.statement, hm, PairingThread.answer,
      Except.map, PairingWorld.tick, PairingWorld.issue, PairingWorld.createCode,
      PairingWorld.setMonitors, PairingWorld.newCode]

/-- A claim that runs alone does what `claim` does. -/
theorem alone_claim (code : String) (ip ua : Option String) :
    let r := Pool.alone (PairingThread.exec cfg) now 5 (w, .claim code ip ua)
    r.1 = (w.claim cfg now code ip ua).1.tick now ∧
      r.2.answer = (w.claim cfg now code ip ua).2.map fun _ => () := by
  unfold PairingWorld.claim
  cases hf : PairingWorld.wellFormed cfg code with
  | false =>
    simp [Pool.alone, PairingThread.exec, PairingThread.statement, hf, PairingThread.answer,
      Except.map, PairingWorld.tick]
  | true =>
    cases hl : w.lookupCode cfg now code with
    | none =>
      simp [Pool.alone, PairingThread.exec, PairingThread.statement, hf, hl, PairingThread.answer,
        Except.map, PairingWorld.tick]
    | some row =>
      cases hc : (w.codes.consume row.id now).2 with
      | false =>
        simp [Pool.alone, PairingThread.exec, PairingThread.statement, hf, hl, hc,
          PairingThread.answer, Except.map, PairingWorld.tick]
      | true =>
        cases hp : w.pairable row with
        | none =>
          have hp' : ∀ codes clock, PairingWorld.pairable { w with codes, clock } row = none :=
            fun _ _ => hp
          simp [Pool.alone, PairingThread.exec, PairingThread.statement, hf, hl, hc, hp',
            PairingThread.answer, Except.map, PairingWorld.tick]
        | some m =>
          have hp' : ∀ codes clock, PairingWorld.pairable { w with codes, clock } row = some m :=
            fun _ _ => hp
          simp [Pool.alone, PairingThread.exec, PairingThread.statement, hf, hl, hc, hp',
            PairingThread.answer, Except.map, PairingWorld.tick, PairingWorld.setMonitors,
            PairingWorld.signPair]

end

/-! ## What statements do to the codes -/

section
variable {cfg : PairingConfig} {w : PairingWorld} {t : PairingThread} {now : Int}

/-- A statement inserts a code, or ages the codes. -/
theorem statement_cases (cfg : PairingConfig) (w : PairingWorld) (t : PairingThread) (now : Int) :
    (∃ m digits, t = .create m digits ∧
      (PairingThread.statement cfg w t now).1 = w.createCode cfg now m.id (sixDigits digits)) ∨
    (w.codes.Ages (PairingThread.statement cfg w t now).1.codes ∧
      (PairingThread.statement cfg w t now).1.issued = w.issued) := by
  cases t with
  | create m digits => exact .inl ⟨m, digits, rfl, rfl⟩
  | pairCode uuid digits =>
    refine .inr ?_
    dsimp only [PairingThread.statement]
    split <;> exact ⟨.refl _, rfl⟩
  | expire m digits => exact .inr ⟨PairingCodes.ages_expireActiveForMonitor _, rfl⟩
  | claim code ip ua =>
    refine .inr ?_
    dsimp only [PairingThread.statement]
    split
    · exact ⟨.refl _, rfl⟩
    · split <;> exact ⟨.refl _, rfl⟩
  | consume l ip ua => exact .inr ⟨PairingCodes.ages_consume _, rfl⟩
  | monitor l ip ua =>
    refine .inr ?_
    dsimp only [PairingThread.statement]
    split <;> exact ⟨.refl _, rfl⟩
  | cleanup => exact .inr ⟨PairingCodes.ages_cleanup, rfl⟩
  | _ => exact .inr ⟨.refl _, rfl⟩

/-! ## The invariant of the codes -/

/-- What holds between the codes of the table and all that were ever issued. -/
structure PairingInv (w : PairingWorld) : Prop where
  lt : ∀ c ∈ w.issued, c.id < w.issued.length
  rows : ∀ c' ∈ w.codes, ∃ c ∈ w.issued, c.Ages c'
  latest : ∀ c ∈ w.codes, c.active w.clock = true →
    (w.latest c.monitorId).map PairingCode.id = some c.id

theorem PairingInv.start (t : TokenTables) (now : Int) : PairingInv (.start t now) :=
  ⟨fun _ h => absurd h List.not_mem_nil, fun c h => absurd h (Table.not_mem_empty c),
    fun c h => absurd h (Table.not_mem_empty c)⟩

theorem PairingInv.id_lt (h : PairingInv w) {c : PairingCode} (hc : c ∈ w.codes) :
    c.id < w.issued.length := by
  obtain ⟨c₀, hc₀, ha⟩ := h.rows c hc
  rw [ha.id]
  exact h.lt c₀ hc₀

/-- The codes after an insertion. -/
theorem PairingInv.mem_createCode (h : PairingInv w) {monitorId : Nat} {code : String}
    {c : PairingCode} :
    c ∈ (w.createCode cfg now monitorId code).codes ↔
      c ∈ w.codes ∨ c = w.newCode cfg now monitorId code :=
  Table.mem_insert (r := w.newCode cfg now monitorId code) fun _ hc => (h.id_lt hc).ne

/-- A code is inserted while its monitor has no active one. -/
theorem PairingInv.createCode (h : PairingInv w) {monitorId : Nat} {code : String}
    (hclock : w.clock ≤ now)
    (hfree : ∀ c ∈ w.codes, c.monitorId = monitorId → c.active now = false) :
    PairingInv ((w.createCode cfg now monitorId code).tick now) where
  lt := by
    intro c hc
    rcases List.mem_cons.1 hc with rfl | hc
    · exact Nat.lt_succ_self _
    · exact (h.lt c hc).trans (Nat.lt_succ_self _)
  rows := by
    intro c hc
    rcases h.mem_createCode.1 hc with hc | rfl
    · obtain ⟨c₀, hc₀, ha⟩ := h.rows c hc
      exact ⟨c₀, List.mem_cons_of_mem _ hc₀, ha⟩
    · exact ⟨_, List.mem_cons_self, .refl _⟩
  latest := by
    intro c hc hact
    have hlatest : ((w.createCode cfg now monitorId code).tick now).latest c.monitorId =
        if c.monitorId = monitorId then some (w.newCode cfg now monitorId code)
        else w.latest c.monitorId := by
      change List.find? _ (_ :: _) = _
      rw [List.find?_cons]
      by_cases hm : monitorId = c.monitorId
      · simp [PairingWorld.newCode, hm]
      · have hm' : (monitorId == c.monitorId) = false := beq_eq_false_iff_ne.2 hm
        simp [PairingWorld.newCode, hm', Ne.symm hm, PairingWorld.latest]
    rw [hlatest]
    rcases h.mem_createCode.1 hc with hc | rfl
    · rw [if_neg]
      · exact h.latest c hc (PairingCode.active_mono hact hclock)
      · intro hm
        have hact' : c.active now = true := hact
        rw [hfree c hc hm] at hact'
        cases hact'
    · rw [if_pos (by rfl)]
      rfl

/-- A statement that ages the codes. -/
theorem PairingInv.ages (h : PairingInv w) {w' : PairingWorld} (hclock : w.clock ≤ w'.clock)
    (hc : w.codes.Ages w'.codes) (hi : w'.issued = w.issued) : PairingInv w' where
  lt := by rw [hi]; exact h.lt
  rows := by
    rw [hi]
    intro c' hc'
    obtain ⟨c, hmem, ha⟩ := hc c' hc'
    obtain ⟨c₀, hc₀, ha₀⟩ := h.rows c hmem
    exact ⟨c₀, hc₀, ha₀.trans ha⟩
  latest := by
    intro c' hc' hact
    obtain ⟨c, hmem, ha⟩ := hc c' hc'
    have hlast := h.latest c hmem (ha.active (PairingCode.active_mono hact hclock))
    rw [PairingWorld.latest, hi, ha.monitorId, ha.id]
    exact hlast

/-- A statement that is admitted keeps the invariant. -/
theorem PairingInv.exec (h : PairingInv w) (hclock : w.clock ≤ now)
    (hfree : ∀ m digits, t = .create m digits →
      ∀ c ∈ w.codes, c.monitorId = m.id → c.active now = false) :
    PairingInv (PairingThread.exec cfg w t now).1 := by
  rcases statement_cases cfg w t now with ⟨m, digits, ht, heq⟩ | ⟨hc, hi⟩
  · change PairingInv ((PairingThread.statement cfg w t now).1.tick now)
    rw [heq]
    exact h.createCode hclock (hfree m digits ht)
  · exact h.ages hclock hc hi

/-! ## A code is won once -/

/-- A code is burned: it was issued, and no row of it is left to consume. -/
def codeShot (id : Nat) : OneShot PairingWorld PairingThread where
  burned w := id < w.issued.length ∧ ∀ c ∈ w.codes, c.id = id → c.consumedAt ≠ none
  holds _ := false
  won t := t.won.any fun l => l.row.id == id

theorem codeBurned_exec (h : PairingInv w) {id : Nat} (hb : (codeShot id).burned w) :
    (codeShot id).burned (PairingThread.exec cfg w t now).1 := by
  obtain ⟨hlt, hrows⟩ := hb
  rcases statement_cases cfg w t now with ⟨m, digits, -, heq⟩ | ⟨hc, hi⟩
  · change (codeShot id).burned ((PairingThread.statement cfg w t now).1.tick now)
    rw [heq]
    refine ⟨hlt.trans (Nat.lt_succ_self _), fun c hc hid => ?_⟩
    rcases h.mem_createCode.1 hc with hc | rfl
    · exact hrows c hc hid
    · exact absurd hid hlt.ne'
  · refine ⟨hi ▸ hlt, fun c' hc' hid => ?_⟩
    obtain ⟨c, hmem, ha⟩ := hc c' hc'
    exact fun hn => hrows c hmem (ha.id.symm.trans hid) (ha.consumedAt hn)

/-- What a statement does to a code. -/
theorem moves_code (h : PairingInv w) {id : Nat} {free : Prop} (hfree : free) :
    (codeShot id).Moves free w (PairingThread.exec cfg w t now).1 t
      (PairingThread.exec cfg w t now).2 := by
  have hburn : (codeShot id).burned w → (codeShot id).burned (PairingThread.exec cfg w t now).1 :=
    codeBurned_exec h
  cases t with
  | pairCode uuid digits =>
    refine .idle hburn rfl ?_
    dsimp only [PairingThread.exec, PairingThread.statement]
    cases w.tokens.monitors.getByUuid uuid <;> rfl
  | claim code ip ua =>
    refine .idle hburn rfl ?_
    dsimp only [PairingThread.exec, PairingThread.statement]
    split
    · rfl
    · cases w.lookupCode cfg now code <;> rfl
  | consume l ip ua =>
    cases hw : (w.codes.consume l.row.id now).2 with
    | false =>
      refine .idle hburn rfl ?_
      simp [PairingThread.exec, PairingThread.statement, codeShot, PairingThread.won, hw]
    | true =>
      by_cases hid : l.row.id = id
      · obtain ⟨c, hc, hcid, hnone⟩ := PairingCodes.exists_of_consume hw
        refine .take hfree (fun hb => hb.2 c hc (hcid.trans hid) hnone) ⟨?_, ?_⟩ rfl rfl rfl
        · exact (hcid.trans hid) ▸ h.id_lt hc
        · intro c' hc' hcid'
          exact PairingCodes.consumed_of_consume hc' (hcid'.trans hid.symm)
      · refine .idle hburn rfl ?_
        simp [PairingThread.exec, PairingThread.statement, codeShot, PairingThread.won, hw, hid]
  | monitor l ip ua =>
    cases hp : w.pairable l.row with
    | none =>
      refine .drop hburn rfl ?_
      simp [PairingThread.exec, PairingThread.statement, hp, codeShot, PairingThread.won]
    | some m =>
      refine .idle hburn rfl ?_
      simp [PairingThread.exec, PairingThread.statement, hp, codeShot, PairingThread.won]
  | _ => exact .idle hburn rfl rfl

/-! ## What a claim has seen -/

/-- The code was the newest one of its monitor, active, and stored under the hash of the digits. -/
structure Lookup.Sound (cfg : PairingConfig) (l : Lookup) : Prop where
  codeHash : l.row.codeHash = cfg.hash l.code
  active : l.row.active l.time = true
  latest : l.latest.map PairingCode.id = some l.row.id

/-- The monitor a claim goes on with is the one of its code, and so is the one of its pair. -/
def PairingThread.OwnMonitor : PairingThread → Prop
  | .paired l m _ _ | .dashboard l m => m.id = l.row.monitorId
  | .claimed l m pair =>
    m.id = l.row.monitorId ∧ pair.access.sub = m.uuid ∧ pair.refresh.sub = m.uuid
  | _ => True

/-- A claim knows a code from its own lookup, or from the statement just executed. -/
theorem lookup_exec {l : Lookup} (h : (PairingThread.exec cfg w t now).2.lookup = some l) :
    t.lookup = some l ∨ (w.lookupCode cfg now l.code = some l.row ∧ l.time = now ∧
      l.latest = w.latest l.row.monitorId) := by
  cases t with
  | pairCode uuid digits =>
    dsimp only [PairingThread.exec, PairingThread.statement] at h
    split at h <;> cases h
  | claim code ip ua =>
    dsimp only [PairingThread.exec, PairingThread.statement] at h
    split at h
    · cases h
    · split at h
      · cases h
      · next row hrow =>
        cases h
        exact .inr ⟨hrow, rfl, rfl⟩
  | consume l₀ ip ua =>
    dsimp only [PairingThread.exec, PairingThread.statement] at h
    split at h
    · exact .inl h
    · cases h
  | monitor l₀ ip ua =>
    dsimp only [PairingThread.exec, PairingThread.statement] at h
    split at h
    · cases h
    · exact .inl h
  | _ => exact .inl h

/-- The lookup of a state of the codes that keeps the invariant. -/
theorem PairingInv.sound (h : PairingInv w) {l : Lookup} (hclock : w.clock ≤ now)
    (hrow : w.lookupCode cfg now l.code = some l.row) (htime : l.time = now)
    (hlatest : l.latest = w.latest l.row.monitorId) : l.Sound cfg := by
  obtain ⟨hmem, hhash, hact⟩ := PairingWorld.lookupCode_eq_some hrow
  refine ⟨hhash, htime ▸ hact, ?_⟩
  rw [hlatest]
  exact h.latest l.row hmem (PairingCode.active_mono hact hclock)

/-- A claim goes on with the monitor of its code. -/
theorem ownMonitor_exec (h : t.OwnMonitor) : (PairingThread.exec cfg w t now).2.OwnMonitor := by
  cases t with
  | pairCode uuid digits =>
    dsimp only [PairingThread.exec, PairingThread.statement]
    split <;> trivial
  | claim code ip ua =>
    dsimp only [PairingThread.exec, PairingThread.statement]
    split
    · trivial
    · split <;> trivial
  | consume l ip ua =>
    dsimp only [PairingThread.exec, PairingThread.statement]
    split <;> trivial
  | monitor l ip ua =>
    dsimp only [PairingThread.exec, PairingThread.statement]
    split
    · trivial
    · next m hm => exact (PairingWorld.pairable_eq_some hm).2.1
  | paired l m ip ua => exact h
  | dashboard l m => exact ⟨h, rfl, rfl⟩
  | claimed l m pair => exact h
  | _ => trivial

end

/-! ## Runs -/

/-- What holds in every pool: each code is won at most once, and every claim has looked up the
newest code of the monitor it goes on with. -/
structure WinnerInv (cfg : PairingConfig) (p : PairingPool) : Prop where
  codes : PairingInv p.shared
  one : ∀ id, (codeShot id).Inv p
  sound : ∀ t ∈ p.threads, ∀ l, t.lookup = some l → l.Sound cfg
  own : ∀ t ∈ p.threads, t.OwnMonitor

/-- The codes and lookups of the pool `q`, told from the pool `p` it was reached from. A code is one
of `p`, or was issued since; a claim that started since has found an active one. -/
structure Since (p q : PairingPool) : Prop where
  clock : p.shared.clock ≤ q.shared.clock
  threads : p.threads.length ≤ q.threads.length
  rows : ∀ c' ∈ q.shared.codes, (∃ c ∈ p.shared.codes, c.Ages c') ∨
    ∃ c ∈ q.shared.issued, p.shared.issued.length ≤ c.id ∧ c.Ages c'
  issued : p.shared.issued.length ≤ q.shared.issued.length
  lookups : ∀ i t l, p.threads.length ≤ i → q.threads[i]? = some t → t.lookup = some l →
    (∃ c ∈ p.shared.codes, c.active p.shared.clock = true ∧ c.Ages l.row) ∨
    ∃ c ∈ q.shared.issued, p.shared.issued.length ≤ c.id ∧ c.Ages l.row

section
variable {cfg : PairingConfig} {p q : PairingPool} {a : PoolAct PairingRequest Int}

/-- What an action of the scheduler does. -/
theorem pairingStep_cases (cfg : PairingConfig) (p : PairingPool) (a : PoolAct PairingRequest Int) :
    pairingStep cfg p a = p ∨
    (∃ r, a = .spawn r ∧
      pairingStep cfg p a = ⟨p.shared, p.threads ++ [PairingThread.start r]⟩) ∨
    ∃ i now t, a = .exec i now ∧ p.threads[i]? = some t ∧ pairingStep cfg p a =
      ⟨(PairingThread.exec cfg p.shared t now).1,
        p.threads.set i (PairingThread.exec cfg p.shared t now).2⟩ :=
  p.step_cases a

/-- What is admitted of a statement. -/
theorem insertsAlone_exec {i : Nat} {now : Int} {t : PairingThread} (hi : p.threads[i]? = some t)
    (h : insertsAlone p (.exec i now) = true) :
    p.shared.clock ≤ now ∧ ∀ m digits, t = .create m digits →
      ∀ c ∈ p.shared.codes, c.monitorId = m.id → c.active now = false := by
  rw [insertsAlone, hi, Bool.and_eq_true, decide_eq_true_eq] at h
  refine ⟨h.1, ?_⟩
  rintro m digits rfl c hc hm
  have hnone : ∀ c ∈ p.shared.codes, c.monitorId = m.id → c.active now = false := by
    simpa using h.2
  exact hnone c hc hm

theorem WinnerInv.start (t : TokenTables) (now : Int) : WinnerInv cfg ⟨.start t now, []⟩ :=
  ⟨.start t now, fun _ => .start _ _, fun _ h => absurd h List.not_mem_nil,
    fun _ h => absurd h List.not_mem_nil⟩

theorem WinnerInv.step (h : WinnerInv cfg p) (ha : insertsAlone p a = true) :
    WinnerInv cfg (pairingStep cfg p a) := by
  rcases pairingStep_cases cfg p a with hnone | ⟨r, -, hspawn⟩ | ⟨i, now, t, rfl, hi, hexec⟩
  · rwa [hnone]
  · rw [hspawn]
    refine ⟨h.codes, fun id => (h.one id).spawn rfl (by cases r <;> rfl),
      Pool.forall_spawn h.sound fun l hl => ?_, Pool.forall_spawn h.own ?_⟩
    · cases r <;> cases hl
    · cases r <;> trivial
  · rw [hexec]
    obtain ⟨hclock, hfree⟩ := insertsAlone_exec hi ha
    have hmem : t ∈ p.threads := List.mem_of_getElem? hi
    have hholds : ∀ id, p.threads.countP (codeShot id).holds = 0 :=
      fun id => List.countP_eq_zero.2 fun _ _ => Bool.false_ne_true
    refine ⟨h.codes.exec hclock hfree,
      fun id => (h.one id).exec hi (moves_code h.codes (hholds id)),
      Pool.forall_exec h.sound fun l hl => ?_,
      Pool.forall_exec h.own (ownMonitor_exec (h.own t hmem))⟩
    rcases lookup_exec hl with hl | ⟨hrow, htime, hlatest⟩
    · exact h.sound t hmem l hl
    · exact h.codes.sound hclock hrow htime hlatest

theorem Since.refl (p : PairingPool) : Since p p where
  clock := le_rfl
  threads := le_rfl
  rows := fun c hc => .inl ⟨c, hc, .refl c⟩
  issued := le_rfl
  lookups := by
    intro i t l hle hi _
    rw [List.getElem?_eq_none hle] at hi
    cases hi

/-- What a statement does to the codes, told from an earlier pool. -/
theorem Since.codes_exec (h : Since p q) (hq : PairingInv q.shared) (t : PairingThread)
    (now : Int) :
    let w' := (PairingThread.exec cfg q.shared t now).1
    (∀ c' ∈ w'.codes, (∃ c ∈ p.shared.codes, c.Ages c') ∨
      ∃ c ∈ w'.issued, p.shared.issued.length ≤ c.id ∧ c.Ages c') ∧
    (∀ c ∈ q.shared.issued, c ∈ w'.issued) ∧ q.shared.issued.length ≤ w'.issued.length := by
  intro w'
  rcases statement_cases cfg q.shared t now with ⟨m, digits, -, heq⟩ | ⟨hc, hi⟩
  · have hw' : w' = (q.shared.createCode cfg now m.id (sixDigits digits)).tick now :=
      congrArg (PairingWorld.tick · now) heq
    rw [hw']
    refine ⟨fun c' hc' => ?_, fun c hc => List.mem_cons_of_mem _ hc, Nat.le_succ _⟩
    rcases hq.mem_createCode.1 hc' with hc' | rfl
    · exact (h.rows c' hc').imp_right
        fun ⟨c, hc, hle, ha⟩ => ⟨c, List.mem_cons_of_mem _ hc, hle, ha⟩
    · exact .inr ⟨_, List.mem_cons_self, h.issued, .refl _⟩
  · have hissued : w'.issued = q.shared.issued := hi
    rw [hissued]
    refine ⟨fun c'' hc'' => ?_, fun _ hc => hc, le_rfl⟩
    obtain ⟨c', hc', ha'⟩ := hc c'' hc''
    rcases h.rows c' hc' with ⟨c, hc, ha⟩ | ⟨c, hc, hle, ha⟩
    · exact .inl ⟨c, hc, ha.trans ha'⟩
    · exact .inr ⟨c, hc, hle, ha.trans ha'⟩

theorem Since.step (h : Since p q) (hq : PairingInv q.shared) (ha : insertsAlone q a = true) :
    Since p (pairingStep cfg q a) := by
  rcases pairingStep_cases cfg q a with hnone | ⟨r, -, hspawn⟩ | ⟨i, now, t, rfl, hi, hexec⟩
  · rwa [hnone]
  · rw [hspawn]
    refine ⟨h.clock, ?_, h.rows, h.issued, fun j u l hle hj hl => ?_⟩
    · rw [List.length_append]
      exact h.threads.trans (Nat.le_add_right _ _)
    · by_cases hlt : j < q.threads.length
      · rw [List.getElem?_append_left hlt] at hj
        exact h.lookups j u l hle hj hl
      · rw [List.getElem?_append_right (not_lt.1 hlt)] at hj
        obtain rfl := List.mem_singleton.1 (List.mem_of_getElem? hj)
        cases r <;> cases hl
  · rw [hexec]
    obtain ⟨hclock, -⟩ := insertsAlone_exec hi ha
    obtain ⟨hrows, hissued, hlen⟩ := @Since.codes_exec cfg p q h hq t now
    refine ⟨h.clock.trans hclock, ?_, hrows, h.issued.trans hlen, fun j u l hle hj hl => ?_⟩
    · rw [List.length_set]
      exact h.threads
    · have keep : ∀ u', q.threads[j]? = some u' → u'.lookup = some l →
          (∃ c ∈ p.shared.codes, c.active p.shared.clock = true ∧ c.Ages l.row) ∨
          ∃ c ∈ (PairingThread.exec cfg q.shared t now).1.issued,
            p.shared.issued.length ≤ c.id ∧ c.Ages l.row :=
        fun u' hj' hl' => (h.lookups j u' l hle hj' hl').imp_right
          fun ⟨c, hc, hle, ha⟩ => ⟨c, hissued c hc, hle, ha⟩
      by_cases hij : i = j
      · subst hij
        rw [List.getElem?_set_self (List.getElem?_eq_some_iff.1 hi).1] at hj
        cases hj
        rcases lookup_exec hl with hl | ⟨hrow, -, -⟩
        · exact keep t hi hl
        · obtain ⟨hmem, -, hact⟩ := PairingWorld.lookupCode_eq_some hrow
          rcases h.rows l.row hmem with ⟨c, hc, hage⟩ | ⟨c, hc, hle, hage⟩
          · have hact' := hage.active (PairingCode.active_mono hact (h.clock.trans hclock))
            exact .inl ⟨c, hc, hact', hage⟩
          · exact .inr ⟨c, hissued c hc, hle, hage⟩
      · rw [List.getElem?_set_ne hij] at hj
        exact keep u hj hl

/-- The code the thread was answered with a pair for, when it was claimed with the digits. -/
def PairingThread.claimedWith (code : String) (t : PairingThread) : Option Nat :=
  (t.claimedCode.filter fun l => l.code == code).map fun l => l.row.id

/-- The codes with the digits that were active in the pool `p` or were issued from there to `q`. -/
def liveSince (cfg : PairingConfig) (p q : PairingPool) (code : String) : List Nat :=
  ((p.shared.codes.rows.filter fun c =>
      c.codeHash == cfg.hash code && c.active p.shared.clock) ++
    q.shared.issued.filter fun c =>
      c.codeHash == cfg.hash code && decide (p.shared.issued.length ≤ c.id)).map PairingCode.id

theorem claimedWith_eq_some {code : String} {t : PairingThread} {id : Nat} :
    t.claimedWith code = some id ↔ ∃ l, t.claimedCode = some l ∧ l.code = code ∧ l.row.id = id := by
  simp [PairingThread.claimedWith, Option.filter_eq_some_iff, and_assoc]

theorem won_of_claimedCode {t : PairingThread} {l : Lookup} (h : t.claimedCode = some l) :
    t.won = some l := by
  cases t with
  | claimed l' m pair => exact h
  | _ => cases h

theorem lookup_of_claimedCode {t : PairingThread} {l : Lookup} (h : t.claimedCode = some l) :
    t.lookup = some l := by
  cases t with
  | claimed l' m pair => exact h
  | _ => cases h

/-- A code yields at most one pair. -/
theorem WinnerInv.claimed_le_one (h : WinnerInv cfg p) (id : Nat) :
    p.threads.countP (fun t => t.claimedCode.any fun l => l.row.id == id) ≤ 1 := by
  have hwon : p.threads.countP (codeShot id).won ≤ 1 :=
    (Nat.le_add_left _ _).trans (h.one id).one
  refine (List.countP_mono_left fun t _ ht => ?_).trans hwon
  obtain ⟨l, hl, hid⟩ := (Option.any_eq_true _ _).1 ht
  exact (Option.any_eq_true _ _).2 ⟨l, won_of_claimedCode hl, hid⟩

/-- Claims of the same digits are answered for different codes. -/
theorem WinnerInv.nodup_claimedWith (h : WinnerInv cfg p) (n : Nat) (code : String) :
    ((p.threads.drop n).filterMap (PairingThread.claimedWith code)).Nodup := by
  rw [List.nodup_iff_count_le_one]
  intro id
  rw [List.count_filterMap]
  calc (p.threads.drop n).countP (fun t => t.claimedWith code == some id)
      ≤ p.threads.countP (fun t => t.claimedWith code == some id) :=
        (List.drop_sublist n p.threads).countP_le
    _ ≤ p.threads.countP (fun t => t.claimedCode.any fun l => l.row.id == id) := by
        refine List.countP_mono_left fun t _ ht => ?_
        obtain ⟨l, hl, -, hid⟩ := claimedWith_eq_some.1 (beq_iff_eq.1 ht)
        exact (Option.any_eq_true _ _).2 ⟨l, hl, beq_iff_eq.2 hid⟩
    _ ≤ 1 := h.claimed_le_one id

/-- Claims of the same digits are answered for codes with the digits that were active or are new. -/
theorem Since.claimedWith_subset (h : Since p q) (hq : WinnerInv cfg q) (code : String) :
    (q.threads.drop p.threads.length).filterMap (PairingThread.claimedWith code) ⊆
      liveSince cfg p q code := by
  intro id hid
  obtain ⟨t, ht, hclaimed⟩ := List.mem_filterMap.1 hid
  obtain ⟨l, hl, rfl, rfl⟩ := claimedWith_eq_some.1 hclaimed
  have hlook := lookup_of_claimedCode hl
  obtain ⟨i, hi⟩ := List.mem_iff_getElem?.1 ht
  rw [List.getElem?_drop] at hi
  have hhash := (hq.sound t (List.mem_of_getElem? hi) l hlook).codeHash
  refine List.mem_map.2 ?_
  rcases h.lookups _ t l (Nat.le_add_right _ i) hi hlook with
    ⟨c, hc, hact, hage⟩ | ⟨c, hc, hle, hage⟩
  · refine ⟨c, List.mem_append_left _ (List.mem_filter.2 ⟨hc, ?_⟩), hage.id.symm⟩
    rw [← hage.codeHash, hhash, hact, beq_self_eq_true, Bool.and_true]
  · refine ⟨c, List.mem_append_right _ (List.mem_filter.2 ⟨hc, ?_⟩), hage.id.symm⟩
    rw [← hage.codeHash, hhash, decide_eq_true hle, beq_self_eq_true, Bool.and_true]

/-- Claims of the same digits are answered at most as often as there are codes with the digits. -/
theorem Since.claimedWith_le (h : Since p q) (hq : WinnerInv cfg q) (code : String) :
    (q.threads.drop p.threads.length).countP (fun t => (t.claimedWith code).isSome) ≤
      (liveSince cfg p q code).length := by
  rw [← List.length_filterMap_eq_countP]
  exact (hq.nodup_claimedWith _ code).length_le_of_subset (h.claimedWith_subset hq code)

end

/-- **A pairing code has one winner.** In every interleaving of the statements of any number of
requests in which a code is inserted only while the monitor has no active one: a code yields at most
one pair; a claim that is answered with a pair had found its code active and the newest of the
monitor, and the pair is for that monitor; and of the claims with the same digits that start after
any point of the run, at most as many are answered as codes with the digits were active there or
were issued since. -/
theorem one_winner (cfg : PairingConfig) (t : TokenTables) (now : Int)
    (as bs : List (PoolAct PairingRequest Int)) (p q : PairingPool)
    (hp : Run (pairingStep cfg) (fun p a => insertsAlone p a = true) ⟨.start t now, []⟩ as p)
    (hq : Run (pairingStep cfg) (fun p a => insertsAlone p a = true) p bs q) :
    (∀ id, q.threads.countP (fun t => t.claimedCode.any fun l => l.row.id == id) ≤ 1) ∧
    (∀ l m pair, .claimed l m pair ∈ q.threads →
      l.row.consumedAt = none ∧ l.time < l.row.expiresAt ∧
      l.latest.map PairingCode.id = some l.row.id ∧ m.id = l.row.monitorId ∧
      pair.access.sub = m.uuid ∧ pair.refresh.sub = m.uuid) ∧
    ∀ code, (q.threads.drop p.threads.length).countP (fun t => (t.claimedWith code).isSome) ≤
      (liveSince cfg p q code).length := by
  have hinv : WinnerInv cfg p :=
    hp.invariant (fun p a hp ha => hp.step ha) (.start t now)
  obtain ⟨hinv', hsince⟩ : WinnerInv cfg q ∧ Since p q :=
    hq.invariant (I := fun q => WinnerInv cfg q ∧ Since p q)
      (fun q a hq ha => ⟨hq.1.step ha, hq.2.step hq.1.codes ha⟩) ⟨hinv, .refl p⟩
  refine ⟨hinv'.claimed_le_one, fun l m pair hmem => ?_, hsince.claimedWith_le hinv'⟩
  have hsound := hinv'.sound _ hmem l rfl
  obtain ⟨hnone, hlt⟩ := PairingCode.active_iff.1 hsound.active
  exact ⟨hnone, hlt, hsound.latest, hinv'.own _ hmem⟩

namespace WinnerFixture

def config : PairingConfig :=
  { hash := fun code => "sha256:" ++ code, isdigit := Char.isDigit, codeTtlS := 300,
    jwt := { KindsFixture.config with accessTtl := 600 } }

def monitor (id : Nat) (uuid : String) : Monitor :=
  { id, uuid, name := .str uuid, dashboardId := 2, rotation := .null, status := .unpaired,
    tokenVersion := 1, pairedAt := none, lastSeenAt := none, lastIp := none, userAgent := none,
    deviceLabel := .null, settings := .null, enabled := true, deletedAt := none }

/-- Two monitors. -/
def tables : TokenTables :=
  { users := ∅, refreshTokens := ∅,
    monitors := ⟨[monitor 11 "hall", monitor 12 "gate"], by decide⟩, dashboards := ∅, aiNodes := ∅,
    encodingNodes := ∅, nodejoin := ∅, denylist := ∅ }

def start : PairingPool := ⟨.start tables 0, []⟩

def go (i : Nat) : PoolAct PairingRequest Int := .exec i (seconds 1)

def claim : PoolAct PairingRequest Int := .spawn (.claim "000042" none none)

/-- Both monitors get a code with the same digits. -/
def collide : List (PoolAct PairingRequest Int) :=
  [.spawn (.pairCode "hall" 42), .spawn (.pairCode "gate" 42), go 0, go 1, go 0, go 1, go 0, go 1,
    go 0, go 1]

/-- Two claims at the same time, and a third one after them. -/
def claims : List (PoolAct PairingRequest Int) :=
  [claim, claim, go 2, go 3, go 2, go 3, go 2, go 2, go 2, claim, go 4, go 4, go 4, go 4, go 4]

/-- Two requests for a code of one monitor take turns, and the older code is claimed. -/
def turns : List (PoolAct PairingRequest Int) :=
  [.spawn (.pairCode "hall" 42), .spawn (.pairCode "hall" 43), go 0, go 1, go 0, go 1, go 0, go 1,
    go 0, go 1, claim, go 2, go 2, go 2, go 2, go 2]

def after (p : PairingPool) (as : List (PoolAct PairingRequest Int)) : PairingPool :=
  as.foldl (pairingStep config) p

def isClaimed (t : PairingThread) : Bool := (t.claimedWith "000042").isSome

/-- A claim whose code was not the newest one of the monitor. -/
def supersededClaim (t : PairingThread) : Bool :=
  t.claimedCode.any fun l => decide (l.latest.map PairingCode.id ≠ some l.row.id)

end WinnerFixture

section
open WinnerFixture

/-- Of three claims with the digits of two codes, two succeed. -/
theorem one_winner_fixture :
    ((after (after start collide) claims).threads.drop 2).countP isClaimed = 2 ∧
    (liveSince config (after start collide) (after (after start collide) claims) "000042").length
      = 2 ∧
    ((after (after start collide) claims).threads.drop 2).countP isClaimed ≤
      (liveSince config (after start collide) (after (after start collide) claims)
        "000042").length := by
  have hp : Run (pairingStep config) (fun p a => insertsAlone p a = true) start collide
      (after start collide) := .of_admits (by decide +kernel)
  have hq : Run (pairingStep config) (fun p a => insertsAlone p a = true) (after start collide)
      claims (after (after start collide) claims) := .of_admits (by decide +kernel)
  have hlen : (after start collide).threads.length = 2 := by decide +kernel
  have hwin := (one_winner config tables 0 collide claims _ _ hp hq).2.2 "000042"
  rw [hlen] at hwin
  exact ⟨by decide +kernel, by decide +kernel, hwin⟩

/-- Two requests for a code leave two active codes, and the one that was replaced is claimed. -/
theorem superseded_claimed : (after start turns).threads.countP supersededClaim = 1 ∧
    ¬ ∀ as l m pair, .claimed l m pair ∈ (after start as).threads →
      l.latest.map PairingCode.id = some l.row.id := by
  have hone : (after start turns).threads.countP supersededClaim = 1 := by decide +kernel
  refine ⟨hone, fun h => ?_⟩
  obtain ⟨t, ht, hsup⟩ := List.countP_pos_iff.1 (hone ▸ Nat.one_pos)
  obtain ⟨l, hl, hne⟩ := (Option.any_eq_true _ _).1 hsup
  cases t with
  | claimed l' m pair =>
    cases hl
    exact of_decide_eq_true hne (h turns l m pair ht)
  | _ => cases hl

end

end AeroXProtect
