import AeroXProtect.Auth.Scoped
import AeroXProtect.Auth.Ledger

/-!
# Kinds of tokens

Six kinds of tokens are signed with one key and read by one decoder that does not look at the
audience, and two of the types are shared by two kinds each. `token_kind_separation` says that a
token is nevertheless accepted by the verifier of its own kind only, and a node token only by the
guard of the registry it was issued for. What keeps a kind out of a verifier differs from pair to
pair: the type, the audience, a claim the other kind does not carry, or the table of refresh
tokens, where no monitor token has a row (`KindInv.refreshRows`).
-/

open Lib

namespace AeroXProtect

/-! ## Kinds and verifiers -/

/-- The functions that accept or refuse a token. -/
inductive Verifier
  | verifyAccess | rotateRefresh | verifyNodeToken | consumeJoinToken | verifyMonitorAccess
  | rotateMonitorRefresh
  deriving DecidableEq, Repr

namespace TokenKind

/-- The verifier of a kind. -/
def verifier : TokenKind → Verifier
  | .access => .verifyAccess
  | .refresh => .rotateRefresh
  | .node _ => .verifyNodeToken
  | .nodeJoin => .consumeJoinToken
  | .monitorAccess => .verifyMonitorAccess
  | .monitorRefresh => .rotateMonitorRefresh

/-- The type a kind is minted with. -/
def typ : TokenKind → String
  | .access | .monitorAccess => "access"
  | .refresh | .monitorRefresh => "refresh"
  | .node _ => "node"
  | .nodeJoin => "node_join"

/-- The audience a kind is minted with. -/
def aud : TokenKind → String
  | .access | .refresh => "web"
  | .node _ => "node"
  | .nodeJoin => "node-join"
  | .monitorAccess | .monitorRefresh => "monitor"

end TokenKind

/-- The claims look like the ones of a kind: its type and audience, and a user's token version
exactly on an access token. -/
structure Claims.OfKind (k : TokenKind) (c : Claims) : Prop where
  typ : c.typ = k.typ
  aud : c.aud = k.aud
  tv : c.tv.isSome = decide (k = .access)

/-- A verifier accepts a token. -/
def TokenWorld.accepts (cfg : JwtConfig) (w : TokenWorld) (now : Int) (c : Claims) :
    Verifier → Bool
  | .verifyAccess => (w.verifyAccess now c).isOk
  | .rotateRefresh => (w.rotateRefresh cfg now c).2.isOk
  | .verifyNodeToken => (w.verifyNodeToken now c).isOk
  | .consumeJoinToken => (w.consumeJoinToken now c).2.isOk
  | .verifyMonitorAccess => (w.verifyMonitorAccess now c).isOk
  | .rotateMonitorRefresh => (w.rotateMonitorRefresh cfg now c).2.isOk

/-! ## The service at work -/

/-- The tables a token is checked against. -/
structure TokenTables where
  users : Users
  refreshTokens : RefreshTokens
  monitors : Monitors
  dashboards : Dashboards
  aiNodes : Nodes
  encodingNodes : Nodes
  nodejoin : Expiring Nat
  denylist : Expiring Nat

/-- What happens to the tokens: one of them is minted, exchanged, consumed or revoked, or anything
else is written to the tables. -/
inductive TokenAct
  | issuePair (u : User) (familyId : Option Nat)
  | rotateRefresh (c : Claims)
  | issueNodeToken (r : Registry) (id : Nat) (ttlDays : Option Int)
  | issueJoinToken (nodeId : Nat) (ttlMinutes : Option Int)
  | consumeJoinToken (c : Claims)
  | issueMonitorPair (m : Monitor) (dashboardUuid : String) (familyId : Option Nat)
  | rotateMonitorRefresh (c : Claims)
  | revoke (jti : Nat) (ttl : Int)
  | write (t : TokenTables)

namespace TokenWorld

/-- The tables before the first token. -/
def start (t : TokenTables) : TokenWorld :=
  { users := t.users, refreshTokens := ∅, monitors := t.monitors, dashboards := t.dashboards,
    aiNodes := t.aiNodes, encodingNodes := t.encodingNodes, nodejoin := ∅, denylist := ∅,
    minted := [], next := 0 }

/-- One act, at a reading of the clock. Users get tokens for the audience `web`. -/
def act (cfg : JwtConfig) (w : TokenWorld) (a : Int × TokenAct) : TokenWorld :=
  match a.2 with
  | .issuePair u fid => (w.issuePair cfg a.1 u "web" fid).1
  | .rotateRefresh c => (w.rotateRefresh cfg a.1 c).1
  | .issueNodeToken r id ttl =>
    match (w.nodes r).getById id with
    | some n => (w.issueNodeToken cfg a.1 r n.uuid ttl).1
    | none => w
  | .issueJoinToken id ttl => (w.issueJoinToken cfg a.1 id ttl).1
  | .consumeJoinToken c => (w.consumeJoinToken a.1 c).1
  | .issueMonitorPair m dash fid => (w.issueMonitorPair cfg a.1 m dash fid).1
  | .rotateMonitorRefresh c => (w.rotateMonitorRefresh cfg a.1 c).1
  | .revoke jti ttl => w.revoke a.1 jti ttl
  | .write t =>
    { w with
      users := t.users, refreshTokens := t.refreshTokens, monitors := t.monitors,
      dashboards := t.dashboards, aiNodes := t.aiNodes, encodingNodes := t.encodingNodes,
      nodejoin := t.nodejoin, denylist := t.denylist }

/-- No uuid is given to nodes of both registries. -/
def UuidsApart (ai encode : Nodes) : Prop := ∀ a ∈ ai, ∀ e ∈ encode, a.uuid ≠ e.uuid

/-- What a write to the tables may do: rows of `refresh_tokens` are inserted by `issue_pair` only,
and a uuid is not used in both registries, nor in the other one after a token was issued for it. -/
structure Admits (w : TokenWorld) (t : TokenTables) : Prop where
  refreshTokens : ∀ r ∈ t.refreshTokens, ∃ r' ∈ w.refreshTokens, r'.jti = r.jti
  apart : UuidsApart t.aiNodes t.encodingNodes
  ai : ∀ c, (.node .encode, c) ∈ w.minted → ∀ n ∈ t.aiNodes, n.uuid ≠ c.sub
  encode : ∀ c, (.node .ai, c) ∈ w.minted → ∀ n ∈ t.encodingNodes, n.uuid ≠ c.sub

/-- The acts of a run: writes keep rows and uuids apart. -/
def actOk (w : TokenWorld) (a : Int × TokenAct) : Prop :=
  match a.2 with
  | .write t => w.Admits t
  | _ => True

/-! ## The invariant -/

/-- What holds between the minted tokens and the tables. -/
structure KindInv (w : TokenWorld) : Prop where
  ofKind : ∀ k c, (k, c) ∈ w.minted → c.OfKind k
  lt : ∀ p ∈ w.minted, p.2.jti < w.next
  inj : ∀ p ∈ w.minted, ∀ q ∈ w.minted, p.2.jti = q.2.jti → p = q
  refreshRows : ∀ r ∈ w.refreshTokens, ∃ c, (.refresh, c) ∈ w.minted ∧ c.jti = r.jti
  apart : UuidsApart w.aiNodes w.encodingNodes
  ai : ∀ c, (.node .encode, c) ∈ w.minted → ∀ n ∈ w.aiNodes, n.uuid ≠ c.sub
  encode : ∀ c, (.node .ai, c) ∈ w.minted → ∀ n ∈ w.encodingNodes, n.uuid ≠ c.sub

variable {cfg : JwtConfig} {w w' : TokenWorld} {now : Int}

theorem KindInv.start {t : TokenTables} (h : UuidsApart t.aiNodes t.encodingNodes) :
    (start t).KindInv where
  ofKind := fun _ _ hm => absurd hm List.not_mem_nil
  lt := fun _ hm => absurd hm List.not_mem_nil
  inj := fun _ hm => absurd hm List.not_mem_nil
  refreshRows := fun r hr => absurd hr (Table.not_mem_empty r)
  apart := h
  ai := fun _ hm => absurd hm List.not_mem_nil
  encode := fun _ hm => absurd hm List.not_mem_nil

/-- What mints nothing and leaves the nodes alone keeps the invariant, if it inserts no refresh
token. -/
theorem KindInv.frame (h : w.KindInv) (hm : w'.minted = w.minted) (hn : w'.next = w.next)
    (ha : w'.aiNodes = w.aiNodes) (he : w'.encodingNodes = w.encodingNodes)
    (hr : ∀ r ∈ w'.refreshTokens, ∃ r' ∈ w.refreshTokens, r'.jti = r.jti) : w'.KindInv where
  ofKind := by rw [hm]; exact h.ofKind
  lt := by rw [hm, hn]; exact h.lt
  inj := by rw [hm]; exact h.inj
  refreshRows := by
    rw [hm]
    intro r hr'
    obtain ⟨r', hmem, hj⟩ := hr r hr'
    rw [← hj]
    exact h.refreshRows r' hmem
  apart := by rw [ha, he]; exact h.apart
  ai := by rw [hm, ha]; exact h.ai
  encode := by rw [hm, he]; exact h.encode

/-- Minting a token under an unused id keeps the invariant. -/
theorem KindInv.mint (h : w.KindInv) {k : TokenKind} {c : Claims} {n : Nat} (hk : c.OfKind k)
    (hj : ∀ p ∈ w.minted, p.2.jti ≠ c.jti) (hn : w.next ≤ n) (hlt : c.jti < n)
    (ha : k = .node .encode → ∀ x ∈ w.aiNodes, x.uuid ≠ c.sub)
    (he : k = .node .ai → ∀ x ∈ w.encodingNodes, x.uuid ≠ c.sub) :
    KindInv { w with minted := (k, c) :: w.minted, next := n } where
  ofKind := by
    intro k' c' hm
    rcases List.mem_cons.1 hm with heq | hm
    · cases heq
      exact hk
    · exact h.ofKind k' c' hm
  lt := by
    intro p hm
    rcases List.mem_cons.1 hm with rfl | hm
    · exact hlt
    · exact (h.lt p hm).trans_le hn
  inj := by
    intro p hp q hq hpq
    rcases List.mem_cons.1 hp with rfl | hp
    · rcases List.mem_cons.1 hq with rfl | hq
      · rfl
      · exact absurd hpq.symm (hj q hq)
    · rcases List.mem_cons.1 hq with rfl | hq
      · exact absurd hpq (hj p hp)
      · exact h.inj p hp q hq hpq
  refreshRows := by
    intro r hr
    obtain ⟨c', hm, hc⟩ := h.refreshRows r hr
    exact ⟨c', List.mem_cons_of_mem _ hm, hc⟩
  apart := h.apart
  ai := by
    intro c' hm
    rcases List.mem_cons.1 hm with heq | hm
    · cases heq
      exact ha rfl
    · exact h.ai c' hm
  encode := by
    intro c' hm
    rcases List.mem_cons.1 hm with heq | hm
    · cases heq
      exact he rfl
    · exact h.encode c' hm

/-- An id that has not been handed out is the id of no token. -/
theorem KindInv.fresh (h : w.KindInv) {j : Nat} (hj : w.next ≤ j) :
    ∀ p ∈ w.minted, p.2.jti ≠ j :=
  fun p hp heq => absurd (h.lt p hp) (by omega)

theorem KindInv.issuePair (h : w.KindInv) (u : User) (fid : Option Nat) :
    (w.issuePair cfg now u "web" fid).1.KindInv := by
  have hr := h.mint (k := .refresh) (c := w.refreshClaims cfg now u "web" fid) (n := w.next + 3)
    ⟨rfl, rfl, rfl⟩ (h.fresh (by simp [refreshClaims])) (by omega) (by simp [refreshClaims])
    nofun nofun
  have ha := hr.mint (k := .access) (c := w.accessClaims cfg now u "web") (n := w.next + 3)
    ⟨rfl, rfl, rfl⟩ ?_ (by rfl) (by simp [accessClaims]) nofun nofun
  · refine { ha with refreshRows := ?_ }
    intro r hmem
    by_cases hnew : r.jti = w.next + 1
    · exact ⟨_, List.mem_cons_of_mem _ List.mem_cons_self, hnew.symm⟩
    · refine ha.refreshRows r ?_
      change r ∈ w.refreshTokens.insert _ at hmem
      unfold Table.insert at hmem
      split at hmem
      · exact hmem
      · rcases List.mem_append.1 hmem with hmem | hmem
        · exact hmem
        · rw [List.mem_singleton] at hmem
          exact absurd (congrArg RefreshToken.jti hmem) hnew
  · intro p hp
    rcases List.mem_cons.1 hp with rfl | hp
    · simp [refreshClaims, accessClaims]
    · exact h.fresh le_rfl p hp

theorem KindInv.issueMonitorPair (h : w.KindInv) (m : Monitor) (dash : String)
    (fid : Option Nat) : (w.issueMonitorPair cfg now m dash fid).1.KindInv := by
  have hr := h.mint (k := .monitorRefresh) (c := (w.monitorClaims cfg now m dash fid).refresh)
    (n := w.next + 3) ⟨rfl, rfl, rfl⟩ (h.fresh (by simp [monitorClaims])) (by omega)
    (by simp [monitorClaims]) nofun nofun
  refine hr.mint (k := .monitorAccess) (c := (w.monitorClaims cfg now m dash fid).access)
    (n := w.next + 3) ⟨rfl, rfl, rfl⟩ ?_ (by rfl) (by simp [monitorClaims]) nofun nofun
  intro p hp
  rcases List.mem_cons.1 hp with rfl | hp
  · simp [monitorClaims]
  · exact h.fresh le_rfl p hp

theorem KindInv.issueNodeToken (h : w.KindInv) {r : Registry} {n : NodeRow} (hn : n ∈ w.nodes r)
    (ttl : Option Int) : (w.issueNodeToken cfg now r n.uuid ttl).1.KindInv := by
  refine h.mint (k := .node r) (c := (w.issueNodeToken cfg now r n.uuid ttl).2)
    (n := w.next + 1) ⟨rfl, rfl, rfl⟩ (h.fresh (by rfl)) (by omega)
    (by simp [TokenWorld.issueNodeToken]) ?_ ?_
  · intro hr x hx
    cases hr
    exact h.apart x hx n hn
  · intro hr x hx
    cases hr
    exact (h.apart n hn x hx).symm

theorem KindInv.issueJoinToken (h : w.KindInv) (id : Nat) (ttl : Option Int) :
    (w.issueJoinToken cfg now id ttl).1.KindInv := by
  have hm := h.mint (k := .nodeJoin) (c := (w.issueJoinToken cfg now id ttl).2) (n := w.next + 1)
    ⟨rfl, rfl, rfl⟩ (h.fresh (by rfl)) (by omega) (by simp [TokenWorld.issueJoinToken]) nofun nofun
  exact hm.frame rfl rfl rfl rfl fun r hr => ⟨r, hr, rfl⟩

theorem KindInv.revoke (h : w.KindInv) (jti : Nat) (ttl : Int) : (w.revoke now jti ttl).KindInv :=
  h.frame rfl rfl rfl rfl fun r hr => ⟨r, hr, rfl⟩

/-- Rows of `refresh_tokens` that age keep the invariant. -/
theorem KindInv.ages (h : w.KindInv) {t : RefreshTokens}
    (ht : RefreshTokens.Ages w.refreshTokens t) : KindInv { w with refreshTokens := t } := by
  refine h.frame rfl rfl rfl rfl ?_
  intro r hr
  obtain ⟨r', hmem, ha⟩ := ht r hr
  exact ⟨r', hmem, ha.jti.symm⟩

/-- The exchange of a refresh token, by its outcome. -/
theorem rotateRefresh_cases (w : TokenWorld) (cfg : JwtConfig) (now : Int) (c : Claims) :
    (∃ e, w.rotateRefresh cfg now c = (w, .error e)) ∨
    ∃ row, w.decode now c "refresh" = .ok c ∧ row ∈ w.refreshTokens ∧ row.jti = c.jti ∧
      (w.rotateRefresh cfg now c =
        (TokenWorld.revoke { w with refreshTokens := w.refreshTokens.revokeFamily row.familyId now }
          now c.jti (remainingTtl c.exp now), .error .refreshReuseDetected) ∨
      ∃ u jti', w.rotateRefresh cfg now c =
        (TokenWorld.revoke
          { (w.issuePair cfg now u c.aud c.fid).1 with
            refreshTokens :=
              (w.issuePair cfg now u c.aud c.fid).1.refreshTokens.markRotated c.jti jti' now }
          now c.jti (remainingTtl c.exp now), .ok (w.issuePair cfg now u c.aud c.fid).2)) := by
  unfold rotateRefresh
  cases hdec : w.decode now c "refresh" with
  | error e => exact .inl ⟨e, rfl⟩
  | ok d =>
    obtain rfl : d = c := (decode_eq_ok.1 hdec).1
    dsimp only
    cases hrow : w.refreshTokens.get? d.jti with
    | none => exact .inl ⟨_, rfl⟩
    | some row =>
      obtain ⟨hmem, hjti⟩ := Table.get?_eq_some.1 hrow
      dsimp only
      split
      · exact .inr ⟨row, rfl, hmem, hjti, .inl rfl⟩
      · split
        · exact .inl ⟨_, rfl⟩
        · cases w.userOfSub d.sub with
          | none => exact .inl ⟨_, rfl⟩
          | some u =>
            dsimp only
            split
            · exact .inl ⟨_, rfl⟩
            · exact .inr ⟨row, rfl, hmem, hjti, .inr ⟨u, _, rfl⟩⟩

/-- The token of a refresh row is a user's refresh token. -/
theorem KindInv.kind_of_row (h : w.KindInv) {k : TokenKind} {c : Claims} (hm : (k, c) ∈ w.minted)
    {row : RefreshToken} (hr : row ∈ w.refreshTokens) (hj : row.jti = c.jti) : k = .refresh := by
  obtain ⟨c', hm', hj'⟩ := h.refreshRows row hr
  have heq := h.inj _ hm' _ hm (hj'.trans hj)
  cases heq
  rfl

theorem KindInv.rotateRefresh (h : w.KindInv) (c : Claims) :
    (w.rotateRefresh cfg now c).1.KindInv := by
  rcases rotateRefresh_cases w cfg now c with ⟨e, heq⟩ | ⟨row, hdec, hmem, hj, heq | ⟨u, j, heq⟩⟩
  · rw [heq]
    exact h
  · rw [heq]
    exact (h.ages (RefreshTokens.ages_revokeRows _ _ _)).revoke _ _
  · obtain ⟨-, ⟨k, hm⟩, -⟩ := decode_eq_ok.1 hdec
    obtain rfl := h.kind_of_row hm hmem hj
    have haud : c.aud = "web" := (h.ofKind _ _ hm).aud
    rw [heq, haud]
    exact ((h.issuePair u c.fid).ages (RefreshTokens.ages_markRotated _ _ _ _)).revoke _ _

theorem KindInv.consumeJoinToken (h : w.KindInv) (c : Claims) :
    (w.consumeJoinToken now c).1.KindInv := by
  unfold TokenWorld.consumeJoinToken
  split
  · exact h
  · split
    · exact h
    · split
      · exact h
      · exact h.frame rfl rfl rfl rfl fun r hr => ⟨r, hr, rfl⟩

theorem KindInv.rotateMonitorRefresh (h : w.KindInv) (c : Claims) :
    (w.rotateMonitorRefresh cfg now c).1.KindInv := by
  unfold TokenWorld.rotateMonitorRefresh
  split
  · exact h
  · exact (h.revoke _ _).issueMonitorPair _ _ _

/-- Every act keeps the invariant. -/
theorem KindInv.act (h : w.KindInv) {a : Int × TokenAct} (ha : w.actOk a) :
    (w.act cfg a).KindInv := by
  obtain ⟨now, a⟩ := a
  cases a with
  | issuePair u fid => exact h.issuePair u fid
  | rotateRefresh c => exact h.rotateRefresh c
  | issueNodeToken r id ttl =>
    unfold TokenWorld.act
    dsimp only
    cases hn : (w.nodes r).getById id with
    | none => exact h
    | some n => exact h.issueNodeToken (Nodes.getById_eq_some hn).1 ttl
  | issueJoinToken id ttl => exact h.issueJoinToken id ttl
  | consumeJoinToken c => exact h.consumeJoinToken c
  | issueMonitorPair m dash fid => exact h.issueMonitorPair m dash fid
  | rotateMonitorRefresh c => exact h.rotateMonitorRefresh c
  | revoke jti ttl => exact h.revoke jti ttl
  | write t =>
    refine { h with refreshRows := ?_, apart := ha.apart, ai := ha.ai, encode := ha.encode }
    intro r hr
    obtain ⟨r', hmem, hj⟩ := ha.refreshTokens r hr
    rw [← hj]
    exact h.refreshRows r' hmem

/-! ## Separation -/

/-- An accepted access token carries a user's token version. -/
theorem verifyAccess_isOk {c : Claims} (h : (w.verifyAccess now c).isOk = true) :
    c.tv.isSome = true := by
  unfold verifyAccess at h
  cases hd : w.decode now c "access" with
  | error e => simp [hd, Except.isOk, Except.toBool] at h
  | ok d =>
    obtain ⟨rfl, -⟩ := decode_eq_ok.1 hd
    rw [hd] at h
    dsimp only at h
    split at h
    · cases h
    · split at h
      · cases h
      · split at h
        · cases h
        · split at h
          · cases h
          · next htv => rw [← not_not.1 htv, Option.isSome_some]

/-- An exchanged refresh token has a row. -/
theorem rotateRefresh_isOk {c : Claims} (h : (w.rotateRefresh cfg now c).2.isOk = true) :
    ∃ row ∈ w.refreshTokens, row.jti = c.jti := by
  rcases rotateRefresh_cases w cfg now c with ⟨e, heq⟩ | ⟨row, -, hmem, hj, -⟩
  · rw [heq] at h
    cases h
  · exact ⟨row, hmem, hj⟩

/-- An accepted node token has the audience of nodes. -/
theorem verifyNodeToken_isOk {c : Claims} (h : (w.verifyNodeToken now c).isOk = true) :
    c.aud = "node" := by
  cases hv : w.verifyNodeToken now c with
  | error e => simp [hv, Except.isOk, Except.toBool] at h
  | ok d =>
    obtain ⟨hd, haud, -⟩ := verifyNodeToken_eq_ok.1 hv
    rw [← (decode_eq_ok.1 hd).1]
    exact haud

/-- A consumed join token has the audience of nodes that join. -/
theorem consumeJoinToken_isOk {c : Claims} (h : (w.consumeJoinToken now c).2.isOk = true) :
    c.aud = "node-join" := by
  unfold consumeJoinToken at h
  cases hd : w.decode now c "node_join" with
  | error e => simp [hd, Except.isOk, Except.toBool] at h
  | ok d =>
    obtain ⟨rfl, -⟩ := decode_eq_ok.1 hd
    rw [hd] at h
    dsimp only at h
    split at h
    · cases h
    · next ha => exact not_not.1 ha

/-- An accepted monitor token has the type asked for and the audience of monitors. -/
theorem verifyMonitor_isOk {c : Claims} {typ : String}
    (h : (w.verifyMonitor now c typ).isOk = true) : c.typ = typ ∧ c.aud = "monitor" := by
  cases hv : w.verifyMonitor now c typ with
  | error e => simp [hv, Except.isOk, Except.toBool] at h
  | ok x =>
    obtain ⟨hd, haud, -⟩ := verifyMonitor_eq_ok (d := x.2) hv
    obtain ⟨rfl, -, -, -, ht⟩ := decode_eq_ok.1 hd
    exact ⟨ht, haud⟩

/-- An exchanged monitor token was an acceptable refresh token. -/
theorem rotateMonitorRefresh_isOk {c : Claims}
    (h : (w.rotateMonitorRefresh cfg now c).2.isOk = true) :
    c.typ = "refresh" ∧ c.aud = "monitor" := by
  unfold rotateMonitorRefresh at h
  cases hv : w.verifyMonitor now c "refresh" with
  | error e => simp [hv, Except.isOk, Except.toBool] at h
  | ok x =>
    have hok : (w.verifyMonitor now c "refresh").isOk = true := by rw [hv]; rfl
    exact verifyMonitor_isOk hok

/-- The verifier that accepts a token is the one of its kind. -/
theorem KindInv.verifier_eq (h : w.KindInv) {k : TokenKind} {c : Claims} (hm : (k, c) ∈ w.minted)
    {v : Verifier} (hv : w.accepts cfg now c v = true) : v = k.verifier := by
  have hk := h.ofKind k c hm
  have htyp := hk.typ
  have haud := hk.aud
  cases v with
  | verifyAccess =>
    -- a monitor's access token has the type, but no token version of a user
    have htv := verifyAccess_isOk hv
    rw [hk.tv, decide_eq_true_eq] at htv
    rw [htv]
    rfl
  | rotateRefresh =>
    obtain ⟨row, hmem, hj⟩ := rotateRefresh_isOk hv
    rw [h.kind_of_row hm hmem hj]
    rfl
  | verifyNodeToken =>
    rw [verifyNodeToken_isOk hv] at haud
    cases k <;> simp [TokenKind.aud] at haud
    rfl
  | consumeJoinToken =>
    rw [consumeJoinToken_isOk hv] at haud
    cases k <;> simp [TokenKind.aud] at haud
    rfl
  | verifyMonitorAccess =>
    obtain ⟨ht, ha⟩ := verifyMonitor_isOk hv
    rw [ht] at htyp
    rw [ha] at haud
    cases k <;> simp [TokenKind.aud, TokenKind.typ] at haud htyp
    rfl
  | rotateMonitorRefresh =>
    obtain ⟨ht, ha⟩ := rotateMonitorRefresh_isOk hv
    rw [ht] at htyp
    rw [ha] at haud
    cases k <;> simp [TokenKind.aud, TokenKind.typ] at haud htyp
    rfl

/-- The guard of a registry accepts node tokens of that registry only. -/
theorem KindInv.registry_eq (h : w.KindInv) {k : TokenKind} {c : Claims} (hm : (k, c) ∈ w.minted)
    {r : Registry} {n : NodeRow} (hn : w.nodeTokenRequired now r c = .ok n) : k = .node r := by
  obtain ⟨hv, hget, -⟩ := nodeTokenRequired_eq_ok hn
  obtain ⟨hmem, huuid, -⟩ := Nodes.getByUuid_eq_some hget
  have haud := (h.ofKind k c hm).aud
  rw [(verifyNodeToken_eq_ok.1 hv).2.1] at haud
  cases k with
  | node r' =>
    cases r with
    | ai =>
      cases r' with
      | ai => rfl
      | encode => exact absurd huuid (h.ai c hm n hmem)
    | encode =>
      cases r' with
      | ai => exact absurd huuid (h.encode c hm n hmem)
      | encode => rfl
  | _ => simp [TokenKind.aud] at haud

/-- **Token kinds are separate.** In every run of the service, whatever is written to the tables in
between, a minted token is accepted by no verifier but the one of its kind, and by no guard of a
node route but the one of the registry it was issued for. -/
theorem token_kind_separation {t : TokenTables} (ht : UuidsApart t.aiNodes t.encodingNodes)
    {acts : List (Int × TokenAct)} (hrun : Run (act cfg) actOk (start t) acts w) {k : TokenKind}
    {c : Claims} (hm : (k, c) ∈ w.minted) (now : Int) :
    (∀ v, w.accepts cfg now c v = true → v = k.verifier) ∧
      ∀ r n, w.nodeTokenRequired now r c = .ok n → k = .node r := by
  have hinv : w.KindInv :=
    hrun.invariant (I := KindInv) (fun _ _ hs ha => hs.act ha) (KindInv.start ht)
  exact ⟨fun v hv => hinv.verifier_eq hm hv, fun r n hn => hinv.registry_eq hm hn⟩

end TokenWorld

namespace KindsFixture

def config : JwtConfig :=
  { accessTtl := 900, refreshTtl := 1209600, nodeTokenTtlDays := 365, nodeJoinTtlMinutes := 30,
    monitorRefreshTtlS := 2592000 }

def user : User :=
  { id := 7, uuid := "u7", loginId := "kim", password := "", roleId := 2, permissions := [],
    isActive := true, failedLoginCount := 0, lockedUntil := none, lastLoginAt := none,
    tokenVersion := 3, deletedAt := none }

/-- A monitor whose uuid reads as the id of the user, and whose version is the user's. -/
def monitor : Monitor :=
  { id := 4, uuid := "7", name := .str "lobby", dashboardId := 1, rotation := .null,
    status := .paired, tokenVersion := 3, pairedAt := none, lastSeenAt := none, lastIp := none,
    userAgent := none, deviceLabel := .null, settings := .null, enabled := true,
    deletedAt := none }

def node (id : Nat) (uuid : String) : NodeRow :=
  { id, uuid, name := .str uuid, status := .online, enabled := true, lastHeartbeatTs := none,
    tokenJti := none, deletedAt := none }

def tables : TokenTables :=
  { users := ⟨[user], List.nodup_singleton _⟩, refreshTokens := ∅,
    monitors := ⟨[monitor], List.nodup_singleton _⟩, dashboards := ∅,
    aiNodes := ⟨[node 5 "a5"], List.nodup_singleton _⟩,
    encodingNodes := ⟨[node 6 "e6"], List.nodup_singleton _⟩, nodejoin := ∅, denylist := ∅ }

/-- One token of every kind, minted one second after the epoch. -/
def acts : List (Int × TokenAct) :=
  [(1000000, .issuePair user none), (1000000, .issueNodeToken .ai 5 none),
    (1000000, .issueJoinToken 5 none), (1000000, .issueMonitorPair monitor "d1" none)]

def world : TokenWorld := acts.foldl (TokenWorld.act config) (TokenWorld.start tables)

end KindsFixture

section
open KindsFixture

-- every kind is accepted by its own verifier: the separation is not one of tokens that are
-- refused everywhere
example : ∀ p ∈ world.minted, world.accepts config 2000000 p.2 p.1.verifier = true := by
  decide +kernel

/-- A monitor's access token, whose subject reads as the id of a user with the same version. -/
theorem token_kind_separation_fixture : ∃ c, (TokenKind.monitorAccess, c) ∈ world.minted ∧
    (∀ v, world.accepts config 2000000 c v = true → v = .verifyMonitorAccess) ∧
    ∀ r n, world.nodeTokenRequired 2000000 r c ≠ .ok n := by
  have hm : (TokenKind.monitorAccess, (world.minted.map Prod.snd).headD ⟨"", "", "", none, none,
      none, none, 0, 0, 0⟩) ∈ world.minted := by decide +kernel
  have hapart : TokenWorld.UuidsApart tables.aiNodes tables.encodingNodes := by
    unfold TokenWorld.UuidsApart
    decide
  have hrun : Run (TokenWorld.act config) TokenWorld.actOk (TokenWorld.start tables) acts world :=
    .cons trivial (.cons trivial (.cons trivial (.cons trivial .nil)))
  have hsep := TokenWorld.token_kind_separation hapart hrun hm 2000000
  refine ⟨_, hm, hsep.1, fun r n hn => ?_⟩
  cases hsep.2 r n hn

end

end AeroXProtect
