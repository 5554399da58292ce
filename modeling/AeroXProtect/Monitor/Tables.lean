import AeroXProtect.Lib.Table
import AeroXProtect.Lib.Clock
import AeroXProtect.Lib.Json

/-!
# Monitors, dashboards and pairing codes

The rows of `monitors`, `dashboards` and `pairing_codes`, and the statements issued against them.
A pairing code is stored under its hash only. Instants are read with the statement they are used in.
-/

open Lib

namespace AeroXProtect

/-! ## Rows -/

/-- `STATUS_*` of a monitor. -/
inductive MonitorStatus
  | unpaired | pending | paired | revoked
  deriving DecidableEq, Repr

/-- A row of `monitors`. -/
structure Monitor where
  id : Nat
  uuid : String
  name : Json
  dashboardId : Nat
  rotation : Json
  status : MonitorStatus
  tokenVersion : Int
  pairedAt : Option Int
  lastSeenAt : Option Int
  lastIp : Option String
  userAgent : Option String
  deviceLabel : Json
  settings : Json
  enabled : Bool
  deletedAt : Option Int
  deriving DecidableEq, Repr

abbrev Monitors := Table Monitor.id

/-- A row of `dashboards`. -/
structure Dashboard where
  id : Nat
  uuid : String
  deletedAt : Option Int
  deriving DecidableEq, Repr

abbrev Dashboards := Table Dashboard.id

/-- A row of `pairing_codes`. -/
structure PairingCode where
  id : Nat
  monitorId : Nat
  codeHash : String
  expiresAt : Int
  attempts : Nat
  maxAttempts : Nat
  consumedAt : Option Int
  createdAt : Int
  deriving DecidableEq, Repr

abbrev PairingCodes := Table PairingCode.id

/-! ## Monitors and dashboards -/

namespace Monitors

/-- Source: `Monitor.get_by_id` (`server/model/monitor.py:35`). -/
def getById (t : Monitors) (id : Nat) : Option Monitor :=
  t.rows.find? fun m => m.id == id && m.deletedAt.isNone

/-- Source: `Monitor.get_by_uuid` (`server/model/monitor.py:39`). -/
def getByUuid (t : Monitors) (uuid : String) : Option Monitor :=
  t.rows.find? fun m => m.uuid == uuid && m.deletedAt.isNone

/-- `UPDATE monitors … WHERE id`. -/
def updateRow (t : Monitors) (id : Nat) (f : Monitor → Monitor)
    (hf : ∀ m, (f m).id = m.id := by intro; rfl) : Monitors :=
  t.modify (fun m => m.id == id) f hf

/-- `update(status=…)`. -/
def updateStatus (t : Monitors) (m : Monitor) (status : MonitorStatus) : Monitors :=
  t.updateRow m.id fun r => { r with status }

/-- Source: `Monitor.bump_token_version` (`server/model/monitor.py:67`): the version the caller has
loaded, plus one. -/
def bumpTokenVersion (t : Monitors) (m : Monitor) : Monitors :=
  t.updateRow m.id fun r => { r with tokenVersion := m.tokenVersion + 1 }

/-- Source: `Monitor.mark_paired` (`server/model/monitor.py:72`). -/
def markPaired (t : Monitors) (m : Monitor) (now : Int) (ip ua : Option String) : Monitors :=
  t.updateRow m.id fun r =>
    { r with status := .paired, pairedAt := some now, lastSeenAt := some now, lastIp := ip,
             userAgent := ua }

/-- Source: `Monitor.soft_delete` (`server/model/monitor.py:81`). -/
def softDelete (t : Monitors) (m : Monitor) (now : Int) : Monitors :=
  t.updateRow m.id fun r =>
    { r with deletedAt := some now, status := .revoked, tokenVersion := m.tokenVersion + 1 }

/-- A lookup by id answers the monitor with the id that is not deleted. -/
theorem getById_eq_some {t : Monitors} {id : Nat} {m : Monitor} (h : t.getById id = some m) :
    m ∈ t ∧ m.id = id ∧ m.deletedAt = none :=
  Table.live_of_find? h

/-- A lookup by uuid answers a monitor with the uuid that is not deleted. -/
theorem getByUuid_eq_some {t : Monitors} {uuid : String} {m : Monitor}
    (h : t.getByUuid uuid = some m) : m ∈ t ∧ m.uuid = uuid ∧ m.deletedAt = none :=
  Table.live_of_find? h

end Monitors

namespace Dashboards

/-- Source: `Dashboard.get_by_id` (`server/model/dashboard.py:44`). -/
def getById (t : Dashboards) (id : Nat) : Option Dashboard :=
  t.rows.find? fun d => d.id == id && d.deletedAt.isNone

/-- Source: `Dashboard.get_by_uuid` (`server/model/dashboard.py:37`); `none` when it raises. -/
def getByUuid (t : Dashboards) (uuid : String) : Option Dashboard :=
  t.rows.find? fun d => d.uuid == uuid && d.deletedAt.isNone

end Dashboards

/-! ## Pairing codes -/

/-- The code has been neither consumed nor outlived. -/
def PairingCode.active (c : PairingCode) (now : Int) : Bool :=
  c.consumedAt.isNone && decide (now < c.expiresAt)

namespace PairingCodes

/-- The later of two codes, the first one when they are equally old. -/
def newer (best : Option PairingCode) (c : PairingCode) : Option PairingCode :=
  match best with
  | some b => if b.createdAt < c.createdAt then some c else some b
  | none => some c

/-- The first code in the order `ORDER BY created_at DESC`. -/
def newest (l : List PairingCode) : Option PairingCode := l.foldl newer none

/-- Source: `PairingCode.find_active` (`server/model/pairing_code.py:27`). -/
def findActive (t : PairingCodes) (codeHash : String) (now : Int) : Option PairingCode :=
  newest (t.rows.filter fun c => c.codeHash == codeHash && c.active now)

/-- Source: `PairingCode.create` (`server/model/pairing_code.py:34`). -/
def create (t : PairingCodes) (id monitorId : Nat) (codeHash : String) (expiresAt now : Int) :
    PairingCodes :=
  t.insert
    { id, monitorId, codeHash, expiresAt, attempts := 0, maxAttempts := 5, consumedAt := none,
      createdAt := now }

/-- Source: `PairingCode.expire_active_for_monitor` (`server/model/pairing_code.py:46`). -/
def expireActiveForMonitor (t : PairingCodes) (monitorId : Nat) (now : Int) : PairingCodes :=
  t.modify (fun c => c.monitorId == monitorId && c.active now) fun c => { c with expiresAt := now }

/-- Source: `PairingCode.consume` (`server/model/pairing_code.py:58`), with whether it updated one
row. -/
def consume (t : PairingCodes) (id : Nat) (now : Int) : PairingCodes × Bool :=
  let p (c : PairingCode) : Bool := c.id == id && c.consumedAt.isNone
  (t.modify p fun c => { c with consumedAt := some now }, t.rows.countP p == 1)

/-- Source: `PairingCode.cleanup` (`server/model/pairing_code.py:67`). -/
def cleanup (t : PairingCodes) (now : Int) : PairingCodes :=
  t.delete fun c => decide (c.expiresAt < now) || c.consumedAt.isSome

/-- The newest of some codes is one of them. -/
theorem newest_mem {l : List PairingCode} {c : PairingCode} (h : newest l = some c) : c ∈ l := by
  have key : ∀ (l : List PairingCode) (best : Option PairingCode),
      l.foldl newer best = some c → c ∈ l ∨ best = some c := by
    intro l
    induction l with
    | nil => exact fun _ h => .inr h
    | cons x l ih =>
      intro best h
      rcases ih (newer best x) h with hl | hb
      · exact .inl (List.mem_cons_of_mem x hl)
      · unfold newer at hb
        split at hb
        · split at hb
          · cases hb
            exact .inl List.mem_cons_self
          · exact .inr hb
        · cases hb
          exact .inl List.mem_cons_self
  rcases key l none h with hl | hn
  · exact hl
  · cases hn

/-- The code a lookup finds is in the table, under the hash, and active. -/
theorem findActive_spec {t : PairingCodes} {codeHash : String} {now : Int} {c : PairingCode}
    (h : t.findActive codeHash now = some c) :
    c ∈ t ∧ c.codeHash = codeHash ∧ c.active now = true := by
  have hm := List.mem_filter.1 (newest_mem h)
  rw [Bool.and_eq_true, beq_iff_eq] at hm
  exact ⟨hm.1, hm.2.1, hm.2.2⟩

end PairingCodes

/-! ## What statements do to the codes -/

/-- What a statement may do to a code: consume it, or let it expire earlier. -/
structure PairingCode.Ages (c c' : PairingCode) : Prop where
  id : c'.id = c.id
  monitorId : c'.monitorId = c.monitorId
  codeHash : c'.codeHash = c.codeHash
  consumedAt : c'.consumedAt = none → c.consumedAt = none
  expiresAt : c'.expiresAt ≤ c.expiresAt

namespace PairingCode

variable {c c' c'' : PairingCode} {now now' : Int}

theorem active_iff : c.active now = true ↔ c.consumedAt = none ∧ now < c.expiresAt := by
  simp [active]

theorem active_mono (h : c.active now' = true) (hle : now ≤ now') : c.active now = true := by
  rw [active_iff] at *
  exact ⟨h.1, hle.trans_lt h.2⟩

theorem Ages.refl (c : PairingCode) : c.Ages c := ⟨rfl, rfl, rfl, fun h => h, le_rfl⟩

theorem Ages.trans (h : c.Ages c') (h' : c'.Ages c'') : c.Ages c'' :=
  ⟨h'.id.trans h.id, h'.monitorId.trans h.monitorId, h'.codeHash.trans h.codeHash,
    fun hn => h.consumedAt (h'.consumedAt hn), h'.expiresAt.trans h.expiresAt⟩

/-- A code that is active was active before. -/
theorem Ages.active (h : c.Ages c') (ha : c'.active now = true) : c.active now = true := by
  rw [active_iff] at *
  exact ⟨h.consumedAt ha.1, ha.2.trans_le h.expiresAt⟩

end PairingCode

/-- Every code of the second table is an aged code of the first. -/
def PairingCodes.Ages (t t' : PairingCodes) : Prop := ∀ c' ∈ t', ∃ c ∈ t, c.Ages c'

namespace PairingCodes

variable {t : PairingCodes} {now : Int}

theorem Ages.refl (t : PairingCodes) : t.Ages t := fun c hc => ⟨c, hc, .refl c⟩

theorem ages_expireActiveForMonitor (monitorId : Nat) :
    t.Ages (t.expireActiveForMonitor monitorId now) := by
  intro c' hc'
  obtain ⟨c, hc, rfl⟩ := Table.mem_modify.1 hc'
  refine ⟨c, hc, ?_⟩
  split
  · next hsel =>
    rw [Bool.and_eq_true, PairingCode.active_iff] at hsel
    exact ⟨rfl, rfl, rfl, fun h => h, hsel.2.2.le⟩
  · exact .refl c

theorem mem_consume {id : Nat} {c' : PairingCode} : c' ∈ (t.consume id now).1 ↔ ∃ c ∈ t,
    c' = if c.id == id && c.consumedAt.isNone then { c with consumedAt := some now } else c := by
  dsimp only [consume]
  rw [Table.mem_modify]

theorem ages_consume (id : Nat) : t.Ages (t.consume id now).1 := by
  intro c' hc'
  obtain ⟨c, hc, rfl⟩ := mem_consume.1 hc'
  refine ⟨c, hc, ?_⟩
  split
  · exact ⟨rfl, rfl, rfl, nofun, le_rfl⟩
  · exact .refl c

theorem ages_cleanup : t.Ages (t.cleanup now) :=
  fun c hc => ⟨c, (Table.mem_delete.1 hc).1, .refl c⟩

/-- The claim that wins a code finds it unconsumed. -/
theorem exists_of_consume {id : Nat} (h : (t.consume id now).2 = true) :
    ∃ c ∈ t, c.id = id ∧ c.consumedAt = none := by
  have hpos : 0 < t.rows.countP fun c => c.id == id && c.consumedAt.isNone := by
    have hone : t.rows.countP (fun c => c.id == id && c.consumedAt.isNone) = 1 := by
      simpa [consume] using h
    omega
  obtain ⟨c, hc, hp⟩ := List.countP_pos_iff.1 hpos
  rw [Bool.and_eq_true, beq_iff_eq, Option.isNone_iff_eq_none] at hp
  exact ⟨c, hc, hp.1, hp.2⟩

/-- After a claim every code with the id is consumed. -/
theorem consumed_of_consume {id : Nat} {c : PairingCode} (hc : c ∈ (t.consume id now).1)
    (hid : c.id = id) : c.consumedAt ≠ none := by
  obtain ⟨c₀, -, rfl⟩ := mem_consume.1 hc
  by_cases hp : (c₀.id == id && c₀.consumedAt.isNone) = true
  · rw [if_pos hp]
    exact nofun
  · rw [if_neg hp] at hid ⊢
    simpa [hid] using hp

end PairingCodes

end AeroXProtect
