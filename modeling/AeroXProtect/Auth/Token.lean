import AeroXProtect.Auth.User
import AeroXProtect.Lib.Run

/-!
# Tokens

The token service: pairs of an access and a refresh token, the verification of access tokens, the
rotation of refresh tokens with its detection of replays, and revocation. A token is its claims;
`AuthWorld.signed` are the tokens the service has signed, and `jwt.decode` accepts no other
(signatures cannot be forged). Token and family ids are drawn from a counter, so they are fresh.
`AuthWorld.log` says what has happened, newest first; no operation reads it.
-/

open Lib

namespace AeroXProtect

/-! ## Claims and rows -/

/-- The claims of an access token. -/
structure AccessClaims where
  sub : Nat
  tv : Int
  aud : String
  iat : Int
  exp : Int
  jti : Nat
  deriving DecidableEq, Repr

/-- The claims of a refresh token. -/
structure RefreshClaims where
  sub : Nat
  aud : String
  iat : Int
  exp : Int
  jti : Nat
  fid : Nat
  deriving DecidableEq, Repr

/-- A token, of one of the two types the service gives to users. -/
inductive Token
  | access (c : AccessClaims)
  | refresh (c : RefreshClaims)
  deriving DecidableEq, Repr

namespace Token

def jti : Token → Nat
  | access c => c.jti
  | refresh c => c.jti

def iat : Token → Int
  | access c => c.iat
  | refresh c => c.iat

def exp : Token → Int
  | access c => c.exp
  | refresh c => c.exp

end Token

/-- A row of `refresh_tokens`. -/
structure RefreshToken where
  userId : Nat
  jti : Nat
  familyId : Nat
  issuedAt : Int
  expiresAt : Int
  rotatedToJti : Option Nat
  revokedAt : Option Int
  deriving DecidableEq, Repr

/-- The row is neither rotated nor revoked. -/
def RefreshToken.usable (r : RefreshToken) : Bool := r.rotatedToJti.isNone && r.revokedAt.isNone

abbrev RefreshTokens := Table RefreshToken.jti

/-- What has happened to the sessions of the users. -/
inductive AuthEvent
  /-- A pair was signed for a user: its family, its access token and its refresh token. -/
  | issued (userId familyId accessJti refreshJti : Nat)
  /-- A refresh token of a family was exchanged for a pair. -/
  | exchanged (jti familyId : Nat)
  /-- A replayed refresh token of a family was detected. -/
  | replayed (familyId : Nat)
  /-- A logout revoked a family. -/
  | loggedOut (familyId : Nat)
  /-- All tokens of a user were revoked. -/
  | revokedAll (userId : Nat)
  /-- A token was presented to a logout. -/
  | presented (t : Token)
  deriving DecidableEq, Repr

/-- The tables and keys of the token service. -/
structure AuthWorld where
  users : Users
  roles : Roles
  refreshTokens : RefreshTokens
  denylist : Expiring Nat
  signed : List Token
  next : Nat
  log : List AuthEvent

/-- Users and roles, before anyone has logged in. -/
def AuthWorld.start (users : Users) (roles : Roles) : AuthWorld := ⟨users, roles, ∅, ∅, [], 0, []⟩

/-- `JWT_ACCESS_TTL` and `JWT_REFRESH_TTL`, in seconds. -/
structure TokenConfig where
  accessTtl : Int
  refreshTtl : Int
  deriving DecidableEq, Repr

/-- Why a token is refused. -/
inductive AuthError
  | tokenExpired | invalidToken | wrongTokenType | revoked | unknownUser | inactiveUser | staleToken
  | unknownRefresh | refreshReuseDetected | refreshExpired
  deriving DecidableEq, Repr

/-! ## Statements -/

namespace RefreshTokens

/-- Source: `RefreshToken.mark_rotated` (`server/model/refresh_token.py:48`). -/
def markRotated (t : RefreshTokens) (jti nextJti : Nat) (now : Int) : RefreshTokens :=
  t.modify (fun r => r.jti == jti) fun r =>
    { r with rotatedToJti := some nextJti, revokedAt := some now }

/-- The rows `revoke_family` loads. -/
def activeInFamily (t : RefreshTokens) (familyId : Nat) : List RefreshToken :=
  t.rows.filter fun r => r.familyId == familyId && r.revokedAt.isNone

/-- The write of `revoke_family`: the loaded rows, by their key. -/
def revokeRows (t : RefreshTokens) (jtis : List Nat) (now : Int) : RefreshTokens :=
  t.modify (fun r => jtis.contains r.jti) fun r => { r with revokedAt := some now }

/-- Source: `RefreshToken.revoke_family` (`server/model/refresh_token.py:55`). -/
def revokeFamily (t : RefreshTokens) (familyId : Nat) (now : Int) : RefreshTokens :=
  t.revokeRows ((t.activeInFamily familyId).map RefreshToken.jti) now

/-- Source: `RefreshToken.revoke_all_for_user` (`server/model/refresh_token.py:66`). -/
def revokeAllForUser (t : RefreshTokens) (userId : Nat) (now : Int) : RefreshTokens :=
  t.modify (fun r => r.userId == userId && r.revokedAt.isNone) fun r =>
    { r with revokedAt := some now }

end RefreshTokens

/-- Source: `User.bump_token_version` (`server/model/user.py:98`): the version the caller has
loaded, plus one. -/
def Users.bumpTokenVersion (t : Users) (u : User) : Users :=
  t.modify (fun v => v.id == u.id) fun v => { v with tokenVersion := u.tokenVersion + 1 }

/-! ## The service -/

/-- A signed pair. -/
structure TokenPair where
  access : AccessClaims
  refresh : RefreshClaims
  deriving DecidableEq, Repr

/-- Source: `TokenService._remaining_ttl` (`server/service/token.py:322`). -/
def remainingTtl (exp now : Int) : Int := max 1 (exp - epochSeconds now)

namespace AuthWorld

variable (w : AuthWorld)

/-- Note an event. -/
def record (e : AuthEvent) : AuthWorld := { w with log := e :: w.log }

/-- The tokens `issue_pair` signs: the claims, under fresh ids. Source: `TokenService.issue_pair`
(`server/service/token.py:67`). -/
def newPair (cfg : TokenConfig) (now : Int) (u : User) (aud : String) (familyId : Option Nat) :
    TokenPair where
  access :=
    { sub := u.id, tv := u.tokenVersion, aud, iat := epochSeconds now,
      exp := epochSeconds (now + seconds cfg.accessTtl), jti := w.next }
  refresh :=
    { sub := u.id, aud, iat := epochSeconds now, exp := epochSeconds (now + seconds cfg.refreshTtl),
      jti := w.next + 1, fid := familyId.getD (w.next + 2) }

/-- The row `issue_pair` inserts. -/
def newRow (cfg : TokenConfig) (now : Int) (u : User) (familyId : Option Nat) : RefreshToken :=
  { userId := u.id, jti := w.next + 1, familyId := familyId.getD (w.next + 2), issuedAt := now,
    expiresAt := now + seconds cfg.refreshTtl, rotatedToJti := none, revokedAt := none }

/-- Source: `TokenService.issue_pair` (`server/service/token.py:67`). -/
def issuePair (cfg : TokenConfig) (now : Int) (u : User) (aud : String) (familyId : Option Nat) :
    AuthWorld × TokenPair :=
  let pair := w.newPair cfg now u aud familyId
  let w' : AuthWorld :=
    { w with
      refreshTokens := w.refreshTokens.insert (w.newRow cfg now u familyId)
      signed := .access pair.access :: .refresh pair.refresh :: w.signed
      next := w.next + 3 }
  (w'.record (.issued u.id pair.refresh.fid pair.access.jti pair.refresh.jti), pair)

/-- Source: `TokenService.revoke` (`server/service/token.py:296`). -/
def revoke (now : Int) (jti : Nat) (ttl : Int) : AuthWorld :=
  { w with denylist := w.denylist.setex now jti (if ttl ≤ 0 then 1 else ttl) }

/-- Source: `TokenService.is_denylisted` (`server/service/token.py:302`). -/
def isDenylisted (now : Int) (jti : Nat) : Bool := w.denylist.live now jti

/-- The signature and the times of a token, as `jwt.decode` checks them. -/
def jwtDecode (now : Int) (verifyExp : Bool) (t : Token) : Except AuthError Token :=
  if t ∉ w.signed then .error .invalidToken
  else if now < seconds t.iat then .error .invalidToken
  else if verifyExp && decide (seconds t.exp ≤ now) then .error .tokenExpired
  else .ok t

/-- Source: `TokenService._decode` (`server/service/token.py:215`), for access tokens. -/
def decodeAccess (now : Int) (t : Token) : Except AuthError AccessClaims :=
  match w.jwtDecode now true t with
  | .error e => .error e
  | .ok (.access c) => .ok c
  | .ok (.refresh _) => .error .wrongTokenType

/-- Source: `TokenService._decode` (`server/service/token.py:215`), for refresh tokens. -/
def decodeRefresh (now : Int) (t : Token) : Except AuthError RefreshClaims :=
  match w.jwtDecode now true t with
  | .error e => .error e
  | .ok (.refresh c) => .ok c
  | .ok (.access _) => .error .wrongTokenType

/-- Source: `TokenService.decode_unverified_access` (`server/service/token.py:326`), and the `jti`
of what it answers. -/
def decodeUnverified (now : Int) (t : Token) : Option Nat :=
  match w.jwtDecode now false t with
  | .ok t => some t.jti
  | .error _ => none

/-- Source: `TokenService.verify_access` (`server/service/token.py:232`). -/
def verifyAccess (now : Int) (t : Token) : Except AuthError (User × AccessClaims) :=
  match w.decodeAccess now t with
  | .error e => .error e
  | .ok c =>
    if w.isDenylisted now c.jti then .error .revoked
    else
      match w.users.getById c.sub with
      | none => .error .unknownUser
      | some u =>
        if !u.isActive || u.deletedAt.isSome then .error .inactiveUser
        else if u.tokenVersion ≠ c.tv then .error .staleToken
        else .ok (u, c)

/-- The answer to a replayed refresh token: its family is revoked and it is denylisted. -/
def burn (now : Int) (c : RefreshClaims) (row : RefreshToken) : AuthWorld :=
  AuthWorld.revoke
    { w.record (.replayed row.familyId) with
      refreshTokens := w.refreshTokens.revokeFamily row.familyId now }
    now c.jti (remainingTtl c.exp now)

/-- The exchange of a refresh token: a new pair of the same family, and the old token is rotated. -/
def exchange (cfg : TokenConfig) (now : Int) (c : RefreshClaims) (u : User) :
    AuthWorld × TokenPair :=
  let (w', pair) := w.issuePair cfg now u c.aud (some c.fid)
  let w' := w'.record (.exchanged c.jti c.fid)
  let w' := { w' with refreshTokens := w'.refreshTokens.markRotated c.jti pair.refresh.jti now }
  (w'.revoke now c.jti (remainingTtl c.exp now), pair)

/-- Source: `TokenService.rotate_refresh` (`server/service/token.py:261`). -/
def rotateRefresh (cfg : TokenConfig) (now : Int) (t : Token) :
    AuthWorld × Except AuthError TokenPair :=
  match w.decodeRefresh now t with
  | .error e => (w, .error e)
  | .ok c =>
    match w.refreshTokens.get? c.jti with
    | none => (w, .error .unknownRefresh)
    | some row =>
      if row.rotatedToJti.isSome || row.revokedAt.isSome then
        (w.burn now c row, .error .refreshReuseDetected)
      else if row.expiresAt ≤ now then (w, .error .refreshExpired)
      else
        match w.users.getById c.sub with
        | none => (w, .error .unknownUser)
        | some u =>
          if !u.isActive || u.deletedAt.isSome then (w, .error .inactiveUser)
          else
            let (w', pair) := w.exchange cfg now c u
            (w', .ok pair)

/-- The second half of `revoke_pair`: the family of the refresh token. -/
def logoutFamily (now : Int) (refreshJti : Option Nat) : AuthWorld :=
  match refreshJti.bind w.refreshTokens.get? with
  | none => w
  | some row =>
    { w.record (.loggedOut row.familyId) with
      refreshTokens := w.refreshTokens.revokeFamily row.familyId now }

/-- Source: `TokenService.revoke_pair` (`server/service/token.py:306`). -/
def revokePair (now : Int) (c : Option AccessClaims) (refreshJti : Option Nat) : AuthWorld :=
  match c with
  | some c => (w.revoke now c.jti (remainingTtl c.exp now)).logoutFamily now refreshJti
  | none => w.logoutFamily now refreshJti

/-- Source: `TokenService.revoke_all` (`server/service/token.py:316`). -/
def revokeAll (now : Int) (u : User) : AuthWorld :=
  { w.record (.revokedAll u.id) with
    users := w.users.bumpTokenVersion u
    refreshTokens := w.refreshTokens.revokeAllForUser u.id now }

end AuthWorld

end AeroXProtect
