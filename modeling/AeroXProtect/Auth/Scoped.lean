import AeroXProtect.Auth.Token
import AeroXProtect.Scheduler.Rebalance
import AeroXProtect.Monitor.Tables

/-!
# Tokens of every kind

The token service with the tokens it gives to nodes and monitors beside those of the users. All of
them are signed with one key and read by one decoder, so a token is its claims here (`Claims`), and
what tells the kinds apart is what each verifier looks at. `TokenWorld.minted` are the claims the
service has signed, each with the kind it was minted as; the verifiers read the claims only.
-/

open Lib

namespace AeroXProtect

/-! ## Claims and rows -/

/-- What a monitor token may do. -/
structure MonitorScope where
  monitorId : String
  dashboards : List String
  actions : List String
  deriving DecidableEq, Repr

/-- The claims of a token; a claim the token does not carry is `none`. -/
structure Claims where
  sub : String
  aud : String
  typ : String
  tv : Option Int
  mv : Option Int
  scope : Option MonitorScope
  fid : Option Nat
  iat : Int
  exp : Int
  jti : Nat
  deriving DecidableEq, Repr

/-- The two registries of nodes: `ai_nodes` and `encoding_nodes`. -/
inductive Registry
  | ai | encode
  deriving DecidableEq, Repr

/-- The kinds of tokens, by the function that mints them. -/
inductive TokenKind
  | access | refresh | node (r : Registry) | nodeJoin | monitorAccess | monitorRefresh
  deriving DecidableEq, Repr

/-- A row of `ai_nodes` or `encoding_nodes`, in the columns the registries have in common. -/
structure NodeRow where
  id : Nat
  uuid : String
  name : Json
  status : NodeStatus
  enabled : Bool
  lastHeartbeatTs : Option Int
  tokenJti : Option Nat
  deletedAt : Option Int
  deriving DecidableEq, Repr

abbrev Nodes := Table NodeRow.id

/-- The settings of the token service, in seconds, days and minutes. -/
structure JwtConfig extends TokenConfig where
  nodeTokenTtlDays : Int
  nodeJoinTtlMinutes : Int
  monitorRefreshTtlS : Int
  deriving DecidableEq, Repr

/-- The tables and keys of the token service. -/
structure TokenWorld where
  users : Users
  refreshTokens : RefreshTokens
  monitors : Monitors
  dashboards : Dashboards
  aiNodes : Nodes
  encodingNodes : Nodes
  nodejoin : Expiring Nat
  denylist : Expiring Nat
  minted : List (TokenKind × Claims)
  next : Nat

/-- Why a token is refused. `invalidSub` is the exception of `int` on a subject. -/
inductive TokenError
  | tokenExpired | invalidToken | wrongTokenType | wrongAudience | revoked | unknownUser
  | inactiveUser | staleToken | unknownRefresh | refreshReuseDetected | refreshExpired
  | joinTokenUsedOrExpired | invalidSub | monitorInvalid | staleMonitorToken
  deriving DecidableEq, Repr

/-- A pair of signed tokens. -/
structure ClaimsPair where
  access : Claims
  refresh : Claims
  deriving DecidableEq, Repr

namespace Nodes

/-- Source: `AiNode.get_by_id` (`server/model/ai_node.py:44`), `EncodingNode.get_by_id`
(`server/model/encoding_node.py:43`). -/
def getById (t : Nodes) (id : Nat) : Option NodeRow :=
  t.rows.find? fun n => n.id == id && n.deletedAt.isNone

/-- Source: `AiNode.get_by_uuid` (`server/model/ai_node.py:48`), `EncodingNode.get_by_uuid`
(`server/model/encoding_node.py:47`). -/
def getByUuid (t : Nodes) (uuid : String) : Option NodeRow :=
  t.rows.find? fun n => n.uuid == uuid && n.deletedAt.isNone

/-- A lookup by id answers the node with the id that is not deleted. -/
theorem getById_eq_some {t : Nodes} {id : Nat} {n : NodeRow} (h : t.getById id = some n) :
    n ∈ t ∧ n.id = id ∧ n.deletedAt = none :=
  Table.live_of_find? h

/-- A lookup by uuid answers a node with the uuid that is not deleted. -/
theorem getByUuid_eq_some {t : Nodes} {uuid : String} {n : NodeRow}
    (h : t.getByUuid uuid = some n) :
    n ∈ t ∧ n.uuid = uuid ∧ n.deletedAt = none :=
  Table.live_of_find? h

end Nodes

namespace TokenWorld

/-! ## Minting -/

variable (cfg : JwtConfig) (w : TokenWorld) (now : Int)

/-- The table of a registry. -/
def nodes : Registry → Nodes
  | .ai => w.aiNodes
  | .encode => w.encodingNodes

/-- The table of a registry is replaced. -/
def setNodes (t : Nodes) : Registry → TokenWorld
  | .ai => { w with aiNodes := t }
  | .encode => { w with encodingNodes := t }

/-- The claims of an access token. Source: `TokenService.issue_pair`
(`server/service/token.py:67`). -/
def accessClaims (u : User) (aud : String) : Claims :=
  { sub := toString u.id, aud, typ := "access", tv := some u.tokenVersion, mv := none,
    scope := none, fid := none, iat := epochSeconds now,
    exp := epochSeconds (now + seconds cfg.accessTtl), jti := w.next }

/-- The claims of a refresh token. Source: `TokenService.issue_pair`
(`server/service/token.py:67`). -/
def refreshClaims (u : User) (aud : String) (familyId : Option Nat) : Claims :=
  { sub := toString u.id, aud, typ := "refresh", tv := none, mv := none, scope := none,
    fid := some (familyId.getD (w.next + 2)), iat := epochSeconds now,
    exp := epochSeconds (now + seconds cfg.refreshTtl), jti := w.next + 1 }

/-- Source: `TokenService.issue_pair` (`server/service/token.py:67`). -/
def issuePair (u : User) (aud : String) (familyId : Option Nat) : TokenWorld × ClaimsPair :=
  let access := w.accessClaims cfg now u aud
  let refresh := w.refreshClaims cfg now u aud familyId
  let row : RefreshToken :=
    { userId := u.id, jti := w.next + 1, familyId := familyId.getD (w.next + 2), issuedAt := now,
      expiresAt := now + seconds cfg.refreshTtl, rotatedToJti := none, revokedAt := none }
  ({ w with
      refreshTokens := w.refreshTokens.insert row
      minted := (.access, access) :: (.refresh, refresh) :: w.minted
      next := w.next + 3 }, ⟨access, refresh⟩)

/-- Source: `TokenService.issue_node_token` (`server/service/token.py:105`), for a node of the
registry `r`. -/
def issueNodeToken (r : Registry) (nodeUuid : String) (ttlDays : Option Int) :
    TokenWorld × Claims :=
  let c : Claims :=
    { sub := nodeUuid, aud := "node", typ := "node", tv := none, mv := none, scope := none,
      fid := none, iat := epochSeconds now,
      exp := epochSeconds (now + days (ttlDays.getD cfg.nodeTokenTtlDays)), jti := w.next }
  ({ w with minted := (.node r, c) :: w.minted, next := w.next + 1 }, c)

/-- Source: `TokenService.issue_join_token` (`server/service/token.py:118`). -/
def issueJoinToken (nodeId : Nat) (ttlMinutes : Option Int) : TokenWorld × Claims :=
  let minutes := ttlMinutes.getD cfg.nodeJoinTtlMinutes
  let c : Claims :=
    { sub := toString nodeId, aud := "node-join", typ := "node_join", tv := none, mv := none,
      scope := none, fid := none, iat := epochSeconds now,
      exp := epochSeconds (now + seconds (minutes * 60)), jti := w.next }
  ({ w with
      nodejoin := w.nodejoin.setex now w.next (max 1 (minutes * 60))
      minted := (.nodeJoin, c) :: w.minted
      next := w.next + 1 }, c)

/-- The claims of a monitor's tokens. Source: `TokenService.issue_monitor_pair`
(`server/service/token.py:157`). -/
def monitorClaims (m : Monitor) (dashboardUuid : String) (familyId : Option Nat) : ClaimsPair where
  access :=
    { sub := m.uuid, aud := "monitor", typ := "access", tv := none, mv := some m.tokenVersion,
      scope := some ⟨m.uuid, [dashboardUuid], ["read"]⟩, fid := none, iat := epochSeconds now,
      exp := epochSeconds (now + seconds cfg.accessTtl), jti := w.next }
  refresh :=
    { sub := m.uuid, aud := "monitor", typ := "refresh", tv := none, mv := some m.tokenVersion,
      scope := none, fid := some (familyId.getD (w.next + 2)), iat := epochSeconds now,
      exp := epochSeconds (now + seconds cfg.monitorRefreshTtlS), jti := w.next + 1 }

/-- Source: `TokenService.issue_monitor_pair` (`server/service/token.py:157`). -/
def issueMonitorPair (m : Monitor) (dashboardUuid : String) (familyId : Option Nat) :
    TokenWorld × ClaimsPair :=
  let pair := w.monitorClaims cfg now m dashboardUuid familyId
  ({ w with
      minted := (.monitorAccess, pair.access) :: (.monitorRefresh, pair.refresh) :: w.minted
      next := w.next + 3 }, pair)

/-! ## Verifying -/

/-- Source: `TokenService.revoke` (`server/service/token.py:296`). -/
def revoke (jti : Nat) (ttl : Int) : TokenWorld :=
  { w with denylist := w.denylist.setex now jti (if ttl ≤ 0 then 1 else ttl) }

/-- Source: `TokenService.is_denylisted` (`server/service/token.py:302`). -/
def isDenylisted (jti : Nat) : Bool := w.denylist.live now jti

/-- Source: `TokenService._decode` (`server/service/token.py:215`). The audience is not checked. -/
def decode (c : Claims) (expectedTyp : String) : Except TokenError Claims :=
  if c ∉ w.minted.map Prod.snd then .error .invalidToken
  else if now < seconds c.iat then .error .invalidToken
  else if seconds c.exp ≤ now then .error .tokenExpired
  else if c.typ ≠ expectedTyp then .error .wrongTokenType
  else .ok c

/-- The user `User.get_by_id(int(sub))` finds. -/
def userOfSub (sub : String) : Option User :=
  (parseInt sub.toList).bind fun id => if id < 0 then none else w.users.getById id.toNat

/-- Source: `TokenService.verify_access` (`server/service/token.py:232`). -/
def verifyAccess (c : Claims) : Except TokenError (User × Claims) :=
  match w.decode now c "access" with
  | .error e => .error e
  | .ok c =>
    if w.isDenylisted now c.jti then .error .revoked
    else
      match w.userOfSub c.sub with
      | none => .error .unknownUser
      | some u =>
        if !u.isActive || u.deletedAt.isSome then .error .inactiveUser
        else if some u.tokenVersion ≠ c.tv then .error .staleToken
        else .ok (u, c)

/-- Source: `TokenService.rotate_refresh` (`server/service/token.py:261`). -/
def rotateRefresh (c : Claims) : TokenWorld × Except TokenError ClaimsPair :=
  match w.decode now c "refresh" with
  | .error e => (w, .error e)
  | .ok c =>
    match w.refreshTokens.get? c.jti with
    | none => (w, .error .unknownRefresh)
    | some row =>
      if row.rotatedToJti.isSome || row.revokedAt.isSome then
        let w' := { w with refreshTokens := w.refreshTokens.revokeFamily row.familyId now }
        (w'.revoke now c.jti (remainingTtl c.exp now), .error .refreshReuseDetected)
      else if row.expiresAt ≤ now then (w, .error .refreshExpired)
      else
        match w.userOfSub c.sub with
        | none => (w, .error .unknownUser)
        | some u =>
          if !u.isActive || u.deletedAt.isSome then (w, .error .inactiveUser)
          else
            let (w', pair) := w.issuePair cfg now u c.aud c.fid
            let w' :=
              { w' with refreshTokens := w'.refreshTokens.markRotated c.jti pair.refresh.jti now }
            (w'.revoke now c.jti (remainingTtl c.exp now), .ok pair)

/-- Source: `TokenService.verify_node_token` (`server/service/token.py:133`). -/
def verifyNodeToken (c : Claims) : Except TokenError Claims :=
  match w.decode now c "node" with
  | .error e => .error e
  | .ok c =>
    if c.aud ≠ "node" then .error .wrongAudience
    else if w.isDenylisted now c.jti then .error .revoked
    else .ok c

/-- Source: `TokenService.consume_join_token` (`server/service/token.py:143`). -/
def consumeJoinToken (c : Claims) : TokenWorld × Except TokenError Int :=
  match w.decode now c "node_join" with
  | .error e => (w, .error e)
  | .ok c =>
    if c.aud ≠ "node-join" then (w, .error .wrongAudience)
    else if !w.nodejoin.live now c.jti then (w, .error .joinTokenUsedOrExpired)
    else
      ({ w with nodejoin := w.nodejoin.del c.jti },
        match parseInt c.sub.toList with
        | some id => .ok id
        | none => .error .invalidSub)

/-- Source: `TokenService._live_monitor` (`server/service/token.py:200`). -/
def liveMonitor (c : Claims) : Except TokenError Monitor :=
  match w.monitors.getByUuid c.sub with
  | none => .error .monitorInvalid
  | some m =>
    if !m.enabled || m.deletedAt.isSome then .error .monitorInvalid
    else if some m.tokenVersion ≠ c.mv then .error .staleMonitorToken
    else .ok m

/-- The checks `verify_monitor_access` and `rotate_monitor_refresh` share. -/
def verifyMonitor (c : Claims) (expectedTyp : String) : Except TokenError (Monitor × Claims) :=
  match w.decode now c expectedTyp with
  | .error e => .error e
  | .ok c =>
    if c.aud ≠ "monitor" then .error .wrongAudience
    else if w.isDenylisted now c.jti then .error .revoked
    else
      match w.liveMonitor c with
      | .error e => .error e
      | .ok m => .ok (m, c)

/-- Source: `TokenService.verify_monitor_access` (`server/service/token.py:174`). -/
def verifyMonitorAccess (c : Claims) : Except TokenError (Monitor × Claims) :=
  w.verifyMonitor now c "access"

/-- The uuid of a monitor's dashboard, empty when the dashboard is gone. -/
def dashUuid (m : Monitor) : String :=
  match w.dashboards.getById m.dashboardId with
  | some d => d.uuid
  | none => ""

/-- Source: `TokenService.rotate_monitor_refresh` (`server/service/token.py:185`). -/
def rotateMonitorRefresh (c : Claims) : TokenWorld × Except TokenError (Monitor × ClaimsPair) :=
  match w.verifyMonitor now c "refresh" with
  | .error e => (w, .error e)
  | .ok (m, c) =>
    let w' := w.revoke now c.jti (remainingTtl c.exp now)
    let (w'', pair) := w'.issueMonitorPair cfg now m (w.dashUuid m) c.fid
    (w'', .ok (m, pair))

/-! ## The guards of the node routes -/

/-- What a node route answers instead of the request. -/
inductive NodeRefusal
  | invalidNodeToken | nodeDisabled | nodeTokenSuperseded
  deriving DecidableEq, Repr

/-- Source: `node_token_required` (`server/decorator.py:41`) and `encode_node_token_required`
(`server/decorator.py:65`), by the registry. -/
def nodeTokenRequired (r : Registry) (c : Claims) : Except NodeRefusal NodeRow :=
  match w.verifyNodeToken now c with
  | .error _ => .error .invalidNodeToken
  | .ok c =>
    match (w.nodes r).getByUuid c.sub with
    | none => .error .nodeDisabled
    | some n =>
      if !n.enabled || n.deletedAt.isSome then .error .nodeDisabled
      else if n.tokenJti.isSome && some c.jti ≠ n.tokenJti then .error .nodeTokenSuperseded
      else .ok n

/-! ## What an accepted token is -/

variable {w : TokenWorld} {now : Int} {c d : Claims}

/-- The claims have been signed. -/
def Signed (w : TokenWorld) (c : Claims) : Prop := ∃ k, (k, c) ∈ w.minted

theorem mem_map_minted : c ∈ w.minted.map Prod.snd ↔ w.Signed c := by
  simp [Signed]

/-- When the decoder accepts a token. -/
theorem decode_eq_ok {typ : String} : w.decode now c typ = .ok d ↔
    d = c ∧ w.Signed c ∧ seconds c.iat ≤ now ∧ now < seconds c.exp ∧ c.typ = typ := by
  unfold decode
  rw [← mem_map_minted]
  split
  · next h => simp [h]
  · next h =>
    split
    · next hi => simp [hi]
    · next hi =>
      split
      · next he => simp [he]
      · next he =>
        split
        · next ht => simp [ht]
        · next ht =>
          rw [Except.ok.injEq]
          constructor
          · rintro rfl
            exact ⟨rfl, not_not.1 h, not_lt.1 hi, not_le.1 he, not_not.1 ht⟩
          · exact fun hd => hd.1.symm

/-- When a token is a valid node token. -/
theorem verifyNodeToken_eq_ok : w.verifyNodeToken now c = .ok d ↔
    w.decode now c "node" = .ok d ∧ d.aud = "node" ∧ w.isDenylisted now d.jti = false := by
  unfold verifyNodeToken
  cases hd : w.decode now c "node" with
  | error e => simp
  | ok c' =>
    dsimp only
    split
    · next h =>
      refine iff_of_false nofun ?_
      rintro ⟨heq, ha, -⟩
      cases heq
      exact h ha
    · next h =>
      split
      · next hr =>
        refine iff_of_false nofun ?_
        rintro ⟨heq, -, hn⟩
        cases heq
        rw [hr] at hn
        cases hn
      · next hr =>
        constructor
        · intro heq
          cases heq
          exact ⟨rfl, not_not.1 h, by simpa using hr⟩
        · exact fun hd => hd.1

/-- Which monitor a monitor token belongs to. -/
theorem liveMonitor_eq_ok {m : Monitor} (h : w.liveMonitor c = .ok m) :
    w.monitors.getByUuid c.sub = some m ∧ m.enabled = true ∧ some m.tokenVersion = c.mv := by
  unfold liveMonitor at h
  cases hm : w.monitors.getByUuid c.sub with
  | none => simp [hm] at h
  | some m' =>
    rw [hm] at h
    dsimp only at h
    split at h
    · cases h
    · next hl =>
      split at h
      · cases h
      · next hv =>
        cases h
        rw [Bool.or_eq_true, not_or] at hl
        exact ⟨rfl, by simpa using hl.1, not_not.1 hv⟩

/-- What an accepted monitor token is. -/
theorem verifyMonitor_eq_ok {typ : String} {m : Monitor}
    (h : w.verifyMonitor now c typ = .ok (m, d)) :
    w.decode now c typ = .ok d ∧ d.aud = "monitor" ∧ w.isDenylisted now d.jti = false ∧
      w.liveMonitor d = .ok m := by
  unfold verifyMonitor at h
  cases hd : w.decode now c typ with
  | error e => simp [hd] at h
  | ok c' =>
    rw [hd] at h
    dsimp only at h
    split at h
    · cases h
    · next ha =>
      split at h
      · cases h
      · next hr =>
        cases hl : w.liveMonitor c' with
        | error e => simp [hl] at h
        | ok m' =>
          rw [hl] at h
          cases h
          exact ⟨rfl, not_not.1 ha, by simpa using hr, hl⟩

/-- Which node a route accepts a token for. -/
theorem nodeTokenRequired_eq_ok {r : Registry} {n : NodeRow}
    (h : w.nodeTokenRequired now r c = .ok n) :
    w.verifyNodeToken now c = .ok c ∧ (w.nodes r).getByUuid c.sub = some n ∧ n.enabled = true ∧
      (n.tokenJti = none ∨ n.tokenJti = some c.jti) := by
  unfold nodeTokenRequired at h
  cases hv : w.verifyNodeToken now c with
  | error e => simp [hv] at h
  | ok c' =>
    obtain rfl : c' = c := (decode_eq_ok.1 (verifyNodeToken_eq_ok.1 hv).1).1
    rw [hv] at h
    dsimp only at h
    cases hn : (w.nodes r).getByUuid c'.sub with
    | none => simp [hn] at h
    | some n' =>
      rw [hn] at h
      dsimp only at h
      split at h
      · cases h
      · next hl =>
        split at h
        · cases h
        · next hj =>
          cases h
          rw [Bool.or_eq_true, not_or] at hl
          refine ⟨rfl, rfl, by simpa using hl.1, ?_⟩
          cases ht : n.tokenJti with
          | none => exact .inl rfl
          | some j =>
            rw [ht] at hj
            simp only [Option.isSome_some, Bool.true_and, decide_not, Bool.not_eq_eq_eq_not,
              Bool.not_true, decide_eq_false_iff_not, not_not] at hj
            exact .inr hj.symm

/-- What an exchange of a monitor's refresh token does. -/
theorem rotateMonitorRefresh_eq_ok {cfg : JwtConfig} {w' : TokenWorld} {x : Monitor × ClaimsPair}
    (h : w.rotateMonitorRefresh cfg now c = (w', .ok x)) :
    w.verifyMonitor now c "refresh" = .ok (x.1, c) := by
  unfold rotateMonitorRefresh at h
  cases hv : w.verifyMonitor now c "refresh" with
  | error e => simp [hv] at h
  | ok y =>
    obtain ⟨m, d⟩ := y
    obtain rfl : d = c := (decode_eq_ok.1 (verifyMonitor_eq_ok hv).1).1
    rw [hv] at h
    cases h
    rfl

end TokenWorld

end AeroXProtect
