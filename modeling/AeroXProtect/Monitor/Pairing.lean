import AeroXProtect.Auth.Kinds

/-!
# Pairing

The service that pairs a display with a monitor: an operator has a code of six digits issued for a
monitor, and whoever claims the code gets a pair of tokens for that monitor. The operations are
executed atomically at one reading of the clock here; `Monitor.Winner` cuts them at their
statements. The hash of the codes and the digits of `str.isdigit` are parameters. Row ids are drawn
from a counter: `issued` are all the codes that were ever inserted, the newest first.
-/

open Lib

namespace AeroXProtect

/-- The settings of the pairing service. -/
structure PairingConfig where
  hash : String → String
  isdigit : Char → Bool
  codeTtlS : Int
  jwt : JwtConfig

/-- The tables of the pairing service, and the last reading of the clock. -/
structure PairingWorld where
  tokens : TokenWorld
  codes : PairingCodes
  issued : List PairingCode
  clock : Int

/-- The tables before the first code. -/
def PairingWorld.start (t : TokenTables) (now : Int) : PairingWorld :=
  ⟨TokenWorld.start t, ∅, [], now⟩

/-- `'%06d' % n`. -/
def sixDigits (n : Nat) : String :=
  let digits := Nat.toDigits 10 n
  String.ofList (List.replicate (6 - digits.length) '0' ++ digits)

/-- Why a request is refused. `raised` is an exception that is not one of the service's own. -/
inductive PairingError
  | rowNotFound | invalidOrExpired | raised
  deriving DecidableEq, Repr

/-- What the operator is shown of a new code. -/
structure IssuedCode where
  code : String
  expiresIn : Int
  expiresAt : Int
  deriving DecidableEq, Repr

namespace PairingWorld

variable (cfg : PairingConfig) (w : PairingWorld) (now : Int)

/-! ## Statements -/

/-- A statement has been executed at a reading of the clock. -/
def tick : PairingWorld := { w with clock := now }

/-- The table of monitors is replaced. -/
def setMonitors (t : Monitors) : PairingWorld :=
  { w with tokens := { w.tokens with monitors := t } }

/-- The row of a new code. -/
def newCode (monitorId : Nat) (code : String) : PairingCode :=
  { id := w.issued.length, monitorId, codeHash := cfg.hash code,
    expiresAt := now + seconds cfg.codeTtlS, attempts := 0, maxAttempts := 5, consumedAt := none,
    createdAt := now }

/-- The insertion of a new code. -/
def createCode (monitorId : Nat) (code : String) : PairingWorld :=
  { w with
    codes := w.codes.create w.issued.length monitorId (cfg.hash code)
      (now + seconds cfg.codeTtlS) now
    issued := w.newCode cfg now monitorId code :: w.issued }

/-- The code has the shape of a code. -/
def wellFormed (code : String) : Bool := code.toList.all cfg.isdigit && code.length == 6

/-- The code a claim looks up: the newest active one with the digits that has attempts left. -/
def lookupCode (code : String) : Option PairingCode :=
  (w.codes.findActive (cfg.hash code) now).bind fun row =>
    if row.attempts ≥ row.maxAttempts then none else some row

/-- The monitor of a claimed code, when it can be paired. -/
def pairable (row : PairingCode) : Option Monitor :=
  (w.tokens.monitors.getById row.monitorId).bind fun m =>
    if !m.enabled || m.deletedAt.isSome then none else some m

/-- A pair is signed for a monitor. -/
def signPair (m : Monitor) (dash : String) : PairingWorld × ClaimsPair :=
  let (tokens, pair) := w.tokens.issueMonitorPair cfg.jwt now m dash none
  ({ w with tokens }, pair)

/-! ## Operations -/

/-- Source: `issue` (`server/service/pairing_code.py:20`). `digits` is what `secrets.randbelow`
has drawn. -/
def issue (m : Monitor) (digits : Nat) : PairingWorld × IssuedCode :=
  let code := sixDigits digits
  let w := { w with codes := w.codes.expireActiveForMonitor m.id now }
  let w := w.createCode cfg now m.id code
  (w.setMonitors (w.tokens.monitors.updateStatus m .pending),
    ⟨code, cfg.codeTtlS, now + seconds cfg.codeTtlS⟩)

/-- Source: `MonitorController.pair_code` (`server/controller/monitor.py:55`). -/
def pairCode (uuid : String) (digits : Nat) : PairingWorld × Except PairingError IssuedCode :=
  match w.tokens.monitors.getByUuid uuid with
  | none => (w, .error .rowNotFound)
  | some m =>
    let (w', code) := w.issue cfg now m digits
    (w', .ok code)

/-- Source: `claim` (`server/service/pairing_code.py:29`). -/
def claim (code : String) (ip ua : Option String) :
    PairingWorld × Except PairingError (Monitor × ClaimsPair) :=
  if !wellFormed cfg code then (w, .error .invalidOrExpired)
  else
    match w.lookupCode cfg now code with
    | none => (w, .error .invalidOrExpired)
    | some row =>
      let (codes, won) := w.codes.consume row.id now
      let w := { w with codes }
      if !won then (w, .error .invalidOrExpired)
      else
        match w.pairable row with
        | none => (w, .error .invalidOrExpired)
        | some m =>
          let w := w.setMonitors (w.tokens.monitors.markPaired m now ip ua)
          let (w, pair) := w.signPair cfg now m (w.tokens.dashUuid m)
          (w, .ok (m, pair))

/-- `POST /monitor/refresh`. Source: `TokenService.rotate_monitor_refresh`
(`server/service/token.py:185`). -/
def refresh (c : Claims) : PairingWorld × Except TokenError (Monitor × ClaimsPair) :=
  let (tokens, a) := w.tokens.rotateMonitorRefresh cfg.jwt now c
  ({ w with tokens }, a)

/-- The fields `MonitorController.update` copies from the request. -/
def updateFields (fields : List (String × Json)) (m : Monitor) : Monitor :=
  { m with
    name := (fields.lookup "name").getD m.name
    settings := (fields.lookup "settings").getD m.settings
    rotation := (fields.lookup "rotation").getD m.rotation
    deviceLabel := (fields.lookup "device_label").getD m.deviceLabel }

/-- The dashboard an update asks for, if it asks for one; raises when there is no such dashboard. -/
def requestedDashboard (fields : List (String × Json)) : Except PairingError (Option Dashboard) :=
  match fields.lookup "dashboard_uuid" with
  | some (.str uuid) =>
    if uuid = "" then .ok none
    else
      match w.tokens.dashboards.getByUuid uuid with
      | some d => .ok (some d)
      | none => .error .rowNotFound
  | some v => if v.truthy then .error .raised else .ok none
  | none => .ok none

/-- Source: `MonitorController.update` (`server/controller/monitor.py:33`). `commits` says whether
the database takes the new values; a body that is not an object raises. -/
def update (uuid : String) (data : Json) (commits : Bool) :
    PairingWorld × Except PairingError Unit :=
  match w.tokens.monitors.getByUuid uuid, data with
  | none, _ => (w, .error .rowNotFound)
  | some m, .obj fields =>
    match w.requestedDashboard fields with
    | .error e => (w, .error e)
    | .ok dash =>
      if !commits then (w, .error .raised)
      else
        match dash with
        | some d =>
          if d.id ≠ m.dashboardId then
            let t := w.tokens.monitors.updateRow m.id fun r =>
              { updateFields fields r with dashboardId := d.id }
            (w.setMonitors (t.bumpTokenVersion m), .ok ())
          else
            (w.setMonitors (w.tokens.monitors.updateRow m.id (updateFields fields)), .ok ())
        | none => (w.setMonitors (w.tokens.monitors.updateRow m.id (updateFields fields)), .ok ())
  | some _, _ => (w, .error .raised)

/-- Source: `MonitorController.revoke` (`server/controller/monitor.py:63`). -/
def revoke (uuid : String) : PairingWorld × Except PairingError Unit :=
  match w.tokens.monitors.getByUuid uuid with
  | none => (w, .error .rowNotFound)
  | some m =>
    let t := w.tokens.monitors.updateStatus m .revoked
    (w.setMonitors (t.bumpTokenVersion m), .ok ())

/-- Source: `MonitorController.delete` (`server/controller/monitor.py:51`). -/
def delete (uuid : String) : PairingWorld × Except PairingError Unit :=
  match w.tokens.monitors.getByUuid uuid with
  | none => (w, .error .rowNotFound)
  | some m => (w.setMonitors (w.tokens.monitors.softDelete m now), .ok ())

/-! ## Lookups -/

section
variable {cfg : PairingConfig} {w : PairingWorld} {now : Int} {row : PairingCode} {m : Monitor}

/-- The code a claim finds is in the table, under the hash of the digits, and active. -/
theorem lookupCode_eq_some {code : String} (h : w.lookupCode cfg now code = some row) :
    row ∈ w.codes ∧ row.codeHash = cfg.hash code ∧ row.active now = true := by
  obtain ⟨row', hf, hr⟩ := Option.bind_eq_some_iff.1 h
  split at hr
  · cases hr
  · cases hr
    exact PairingCodes.findActive_spec hf

/-- The monitor a claim is answered for is the one of the code, enabled and not deleted. -/
theorem pairable_eq_some (h : w.pairable row = some m) : m ∈ w.tokens.monitors ∧
    m.id = row.monitorId ∧ m.deletedAt = none ∧ m.enabled = true := by
  obtain ⟨m', hm, hr⟩ := Option.bind_eq_some_iff.1 h
  obtain ⟨hmem, hid, hdel⟩ := Monitors.getById_eq_some hm
  split at hr
  · cases hr
  · next hen =>
    cases hr
    rw [Bool.or_eq_true, not_or] at hen
    exact ⟨hmem, hid, hdel, by simpa using hen.1⟩

end

end PairingWorld

end AeroXProtect
