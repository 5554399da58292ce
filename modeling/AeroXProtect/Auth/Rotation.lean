import AeroXProtect.Auth.Ledger
import AeroXProtect.Lib.Interleave

/-!
# The requests of the token service, statement by statement

`rotate_refresh`, `revoke_pair` and `revoke_all`, and the `issue_pair` of a login, as threads that
execute one statement of the database or the cache server at a time (`AuthThread`). A replay is
noted when it is detected, a logout and a revocation of all tokens of a user when the rows are
written, and an exchange when the row of the new refresh token is inserted. A thread that is not
interrupted does what the service does (`alone_rotate`, `alone_logout`, `alone_revokeAll`).
-/

open Lib

namespace AeroXProtect

/-- Why a family is being revoked. -/
inductive RevokeCause
  | replay (c : RefreshClaims)
  | logout
  deriving DecidableEq, Repr

/-- What a request answers. -/
inductive AuthAnswer
  | pair (p : TokenPair)
  | error (e : AuthError)
  | ok
  deriving DecidableEq, Repr

/-- Where a request stands: the statement it executes next. -/
inductive AuthThread
  | issue (u : User)
  | rotate (t : Token)
  | selectUser (c : RefreshClaims)
  | insert (c : RefreshClaims) (u : User)
  | mark (c : RefreshClaims) (p : TokenPair)
  | deny (c : RefreshClaims) (a : AuthAnswer)
  | selectFamily (familyId : Nat) (cause : RevokeCause)
  | updateFamily (familyId : Nat) (jtis : List Nat) (cause : RevokeCause)
  | logout (c : Option AccessClaims) (refreshJti : Option Nat)
  | selectRow (refreshJti : Option Nat)
  | bump (u : User)
  | updateUser (userId : Nat)
  | done (a : AuthAnswer)
  deriving DecidableEq, Repr

/-- The requests. -/
inductive AuthCall
  | login (u : User)
  | rotate (t : Token)
  | logout (c : Option AccessClaims) (refreshJti : Option Nat)
  | revokeAll (u : User)
  deriving DecidableEq, Repr

namespace AuthThread

def start : AuthCall → AuthThread
  | .login u => .issue u
  | .rotate t => .rotate t
  | .logout c refreshJti => .logout c refreshJti
  | .revokeAll u => .bump u

/-- One statement. Source: `TokenService.rotate_refresh` (`server/service/token.py:261`),
`revoke_pair` (`server/service/token.py:306`) and `revoke_all` (`server/service/token.py:316`), cut
at their queries and commands. -/
def exec (cfg : TokenConfig) (w : AuthWorld) (t : AuthThread) (now : Int) :
    AuthWorld × AuthThread :=
  match t with
  | .issue u =>
    let (w, p) := w.issuePair cfg now u "web" none
    (w, .done (.pair p))
  | .rotate t =>
    match w.decodeRefresh now t with
    | .error e => (w, .done (.error e))
    | .ok c =>
      match w.refreshTokens.get? c.jti with
      | none => (w, .done (.error .unknownRefresh))
      | some row =>
        if row.rotatedToJti.isSome || row.revokedAt.isSome then
          (w.record (.replayed row.familyId), .selectFamily row.familyId (.replay c))
        else if row.expiresAt ≤ now then (w, .done (.error .refreshExpired))
        else (w, .selectUser c)
  | .selectUser c =>
    match w.users.getById c.sub with
    | none => (w, .done (.error .unknownUser))
    | some u =>
      if !u.isActive || u.deletedAt.isSome then (w, .done (.error .inactiveUser))
      else (w, .insert c u)
  | .insert c u =>
    let (w, p) := w.issuePair cfg now u c.aud (some c.fid)
    (w.record (.exchanged c.jti c.fid), .mark c p)
  | .mark c p =>
    ({ w with refreshTokens := w.refreshTokens.markRotated c.jti p.refresh.jti now },
      .deny c (.pair p))
  | .deny c a => (w.revoke now c.jti (remainingTtl c.exp now), .done a)
  | .selectFamily f cause =>
    (w, .updateFamily f ((w.refreshTokens.activeInFamily f).map RefreshToken.jti) cause)
  | .updateFamily f jtis cause =>
    let w := { w with refreshTokens := w.refreshTokens.revokeRows jtis now }
    match cause with
    | .replay c => (w, .deny c (.error .refreshReuseDetected))
    | .logout => (w.record (.loggedOut f), .done .ok)
  | .logout c refreshJti =>
    match c with
    | some c => (w.revoke now c.jti (remainingTtl c.exp now), .selectRow refreshJti)
    | none => (w, .selectRow refreshJti)
  | .selectRow refreshJti =>
    match refreshJti.bind w.refreshTokens.get? with
    | none => (w, .done .ok)
    | some row => (w, .selectFamily row.familyId .logout)
  | .bump u => ({ w with users := w.users.bumpTokenVersion u }, .updateUser u.id)
  | .updateUser id =>
    (AuthWorld.record { w with refreshTokens := w.refreshTokens.revokeAllForUser id now }
      (.revokedAll id), .done .ok)
  | .done a => (w, .done a)

/-- The request has been answered. -/
def isDone : AuthThread → Bool
  | .done _ => true
  | _ => false

/-- The request has inserted the row of the new token and has not yet marked the old one. -/
def isMarking (jti : Nat) : AuthThread → Bool
  | .mark c _ => c.jti == jti
  | _ => false

/-- The request is about to revoke the family: it has detected a replay, or loaded the rows. -/
def isRevoking (familyId : Nat) : AuthThread → Bool
  | .selectFamily f (.replay _) => f == familyId
  | .updateFamily f _ _ => f == familyId
  | _ => false

end AuthThread

/-- The scheduler of the requests. -/
def authStep (cfg : TokenConfig) :
    Pool AuthWorld AuthThread → PoolAct AuthCall Int → Pool AuthWorld AuthThread :=
  Pool.step AuthThread.start (AuthThread.exec cfg)

/-! ## One request alone -/

section
variable {cfg : TokenConfig} {w : AuthWorld} {now : Int}

theorem alone_answered {n : Nat} {a : AuthAnswer} :
    Pool.alone (AuthThread.exec cfg) now n (w, .done a) = (w, .done a) :=
  Pool.alone_of_fixed rfl n

/-- The answer of a rotation. -/
def AuthAnswer.ofExcept : Except AuthError TokenPair → AuthAnswer
  | .ok p => .pair p
  | .error e => .error e

/-- A rotation that no other request interrupts is `rotateRefresh`. -/
theorem alone_rotate (cfg : TokenConfig) (w : AuthWorld) (now : Int) (t : Token) :
    Pool.alone (AuthThread.exec cfg) now 5 (w, .rotate t) =
      ((w.rotateRefresh cfg now t).1, .done (.ofExcept (w.rotateRefresh cfg now t).2)) := by
  rw [Pool.alone, AuthThread.exec, AuthWorld.rotateRefresh]
  cases w.decodeRefresh now t with
  | error e => exact alone_answered
  | ok c =>
    dsimp only
    cases w.refreshTokens.get? c.jti with
    | none => exact alone_answered
    | some row =>
      dsimp only
      split
      · rfl
      · split
        · exact alone_answered
        · rw [Pool.alone, AuthThread.exec]
          dsimp only
          cases w.users.getById c.sub with
          | none => exact alone_answered
          | some u =>
            dsimp only
            split
            · exact alone_answered
            · rfl

/-- A logout that no other request interrupts is `revokePair`. -/
theorem alone_logout (cfg : TokenConfig) (w : AuthWorld) (now : Int) (c : Option AccessClaims)
    (refreshJti : Option Nat) :
    Pool.alone (AuthThread.exec cfg) now 4 (w, .logout c refreshJti) =
      (w.revokePair now c refreshJti, .done .ok) := by
  have hfamily : ∀ w : AuthWorld,
      Pool.alone (AuthThread.exec cfg) now 3 (w, .selectRow refreshJti) =
        (w.logoutFamily now refreshJti, .done .ok) := by
    intro w
    rw [Pool.alone, AuthThread.exec, AuthWorld.logoutFamily]
    cases refreshJti.bind w.refreshTokens.get? with
    | none => exact alone_answered
    | some row => rfl
  cases c with
  | none => exact hfamily w
  | some c => exact hfamily _

/-- A revocation of all tokens that no other request interrupts is `revokeAll`. -/
theorem alone_revokeAll (cfg : TokenConfig) (w : AuthWorld) (now : Int) (u : User) :
    Pool.alone (AuthThread.exec cfg) now 2 (w, .bump u) = (w.revokeAll now u, .done .ok) :=
  rfl

end

end AeroXProtect
