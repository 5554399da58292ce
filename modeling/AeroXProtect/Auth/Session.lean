import AeroXProtect.Lib.Text
import AeroXProtect.Auth.Ledger

/-!
# Requests

The requests that start, renew and end the sessions of users, as the controllers and their routes
handle them: login, refresh, logout, change of the password, and the administration of users (reset
of a password, deletion, deactivation). A request is executed atomically at one reading of the
clock. The caller of a route that needs a login is the user of the access token that he presents
(`currentUser`).
-/

open Lib

namespace AeroXProtect

/-- The password hasher and the settings. -/
structure AuthConfig where
  argon2 : Argon2
  token : TokenConfig
  loginMaxFailed : Int
  loginLockMinutes : Int

/-- Why a request is refused. -/
inductive ApiError
  | invalidCredentials | accountLocked | inactiveUser | invalidRefresh | authenticationRequired
  | permissionDenied | noPermission | rowNotFound
  | invalidParameter (message : String)
  | token (e : AuthError)
  deriving DecidableEq, Repr

/-- Source: `UserController._guard_target` (`server/controller/user.py:107`): whether the actor may
manage the target. -/
def guardTarget (actorRole targetRole : Option Role) (actor target : User) : Bool :=
  actor.id == target.id || isSuperuser actorRole actor || !isSuperuser targetRole target

namespace AuthWorld

variable (cfg : AuthConfig) (w : AuthWorld) (now : Int)

/-- An update of one user. -/
def updateUser (id : Nat) (f : User → User) (hf : ∀ u, (f u).id = u.id := by intro; rfl) :
    AuthWorld :=
  { w with users := w.users.modify (fun u => u.id == id) f hf }

/-- Source: `User.role` (`server/model/user.py:48`). -/
def roleOf (u : User) : Option Role := w.roles.get? u.roleId

/-- Source: `UserController._active_admin_count` (`server/controller/user.py:152`). -/
def activeAdminCount : Nat :=
  match w.roles.getByName "admin" with
  | none => 0
  | some r => w.users.rows.countP fun u => u.roleId == r.id && u.isActive && u.deletedAt.isNone

/-- The user is an administrator and there is no other. -/
def isLastAdmin (u : User) : Bool :=
  (w.roleOf u).any (fun r => r.name == "admin") && w.activeAdminCount ≤ 1

/-- The caller. Source: `load_current_user` (`server/__init__.py:66`) and
`TokenService.resolve_access_token` (`server/service/token.py:252`). -/
def currentUser (access : Option Token) : Option (User × AccessClaims) :=
  access.bind fun t => (w.verifyAccess now t).toOption

/-! ## Sessions -/

/-- Source: `AuthController.login` (`server/controller/auth.py:42`). -/
def login (loginId password : Option String) : AuthWorld × Except ApiError TokenPair :=
  let loginId := String.ofList (strip (loginId.getD "").toList)
  let password := password.getD ""
  if loginId = "" || (strip password.toList).isEmpty then (w, .error .invalidCredentials)
  else
    match w.users.getByLoginId loginId with
    | none => (w, .error .invalidCredentials)
    | some u =>
      if u.isLocked now then (w, .error .accountLocked)
      else if !u.verifyPassword cfg.argon2 password then
        (w.updateUser u.id
          (fun v => (v.registerFailedLogin now cfg.loginMaxFailed cfg.loginLockMinutes).1)
          (by intro v; unfold User.registerFailedLogin; dsimp only; split <;> rfl),
          if (u.registerFailedLogin now cfg.loginMaxFailed cfg.loginLockMinutes).2 then
            .error .accountLocked
          else .error .invalidCredentials)
      else if !u.isActive then (w, .error .inactiveUser)
      else
        let w := w.updateUser u.id fun v => v.registerSuccessfulLogin now
        let (w, pair) := w.issuePair cfg.token now u "web" none
        (w, .ok pair)

/-- Source: `AuthController.refresh` (`server/controller/auth.py:81`). -/
def refresh (token : Option Token) : AuthWorld × Except ApiError TokenPair :=
  match token with
  | none => (w, .error .invalidRefresh)
  | some t =>
    match w.rotateRefresh cfg.token now t with
    | (w', .ok pair) => (w', .ok pair)
    | (w', .error e) => (w', .error (.token e))

/-- Note that a signed token was presented to a logout. -/
def notePresented (access : Option Token) : AuthWorld :=
  match access with
  | some t => if t ∈ w.signed then w.record (.presented t) else w
  | none => w

/-- Source: `logout` (`server/view/api/auth.py:96`) and `AuthController.logout`
(`server/controller/auth.py:92`). -/
def logout (access cookie : Option Token) : AuthWorld × Except ApiError Unit :=
  let w := w.notePresented access
  match w.currentUser now access with
  | none => (w, .error .authenticationRequired)
  | some (_, c) => (w.revokePair now (some c) (cookie.bind (w.decodeUnverified now)), .ok ())

/-- A new password, and every session of the user ends. -/
def replacePassword (salt : String) (u : User) (password : String) : AuthWorld :=
  (w.updateUser u.id fun v => v.setPassword cfg.argon2 salt password).revokeAll now u

/-- Source: `AuthController.change_password` (`server/controller/auth.py:99`). -/
def changePassword (salt : String) (access : Option Token) (previous password : Option String) :
    AuthWorld × Except ApiError Unit :=
  match w.currentUser now access with
  | none => (w, .error .authenticationRequired)
  | some (u, _) =>
    let previous := previous.getD ""
    let password := password.getD ""
    if previous = "" || password = "" then (w, .error (.invalidParameter "비밀번호를 입력하세요."))
    else if !u.verifyPassword cfg.argon2 previous then
      (w, .error (.invalidParameter "이전 비밀번호가 올바르지 않습니다."))
    else if password.length < 8 then
      (w, .error (.invalidParameter "비밀번호는 8자 이상이어야 합니다."))
    else (w.replacePassword cfg now salt u password, .ok ())

/-! ## Administration of users -/

/-- The routes of the administration: the caller is known and has the permission. Source:
`permission_required` (`server/decorator.py:26`). -/
def withPermission (access : Option Token) (resource action : String)
    (act : User → AuthWorld × Except ApiError Unit) : AuthWorld × Except ApiError Unit :=
  match w.currentUser now access with
  | none => (w, .error .authenticationRequired)
  | some (actor, _) =>
    if !hasPermission (w.roleOf actor) actor resource action then (w, .error .permissionDenied)
    else act actor

/-- Source: `UserController.reset_password` (`server/controller/user.py:86`). -/
def resetPassword (salt : String) (access : Option Token) (uuid : String)
    (password : Option String) : AuthWorld × Except ApiError Unit :=
  w.withPermission now access "users" "update" fun actor =>
    if (password.getD "").length < 8 then
      (w, .error (.invalidParameter "비밀번호는 8자 이상이어야 합니다."))
    else
      match w.users.getByUuid uuid with
      | none => (w, .error .rowNotFound)
      | some u =>
        if !guardTarget (w.roleOf actor) (w.roleOf u) actor u then (w, .error .noPermission)
        else (w.replacePassword cfg now salt u (password.getD ""), .ok ())

/-- Source: `UserController.delete` (`server/controller/user.py:74`). -/
def deleteUser (access : Option Token) (uuid : String) : AuthWorld × Except ApiError Unit :=
  w.withPermission now access "users" "delete" fun actor =>
    match w.users.getByUuid uuid with
    | none => (w, .error .rowNotFound)
    | some u =>
      if !guardTarget (w.roleOf actor) (w.roleOf u) actor u then (w, .error .noPermission)
      else if u.id = actor.id then
        (w, .error (.invalidParameter "본인 계정은 삭제할 수 없습니다."))
      else if w.isLastAdmin u then
        (w, .error (.invalidParameter "마지막 관리자는 삭제할 수 없습니다."))
      else
        ((w.updateUser u.id fun v => { v with deletedAt := some now }).revokeAll now u, .ok ())

/-- Source: `UserController.update` (`server/controller/user.py:47`), for the body
`is_active: false`. -/
def deactivateUser (access : Option Token) (uuid : String) : AuthWorld × Except ApiError Unit :=
  w.withPermission now access "users" "update" fun actor =>
    match w.users.getByUuid uuid with
    | none => (w, .error .rowNotFound)
    | some u =>
      if !guardTarget (w.roleOf actor) (w.roleOf u) actor u then (w, .error .noPermission)
      else if w.isLastAdmin u then
        (w, .error (.invalidParameter "마지막 관리자는 변경할 수 없습니다."))
      else (w.updateUser u.id fun v => { v with isActive := false }, .ok ())

end AuthWorld

/-! ## Runs -/

/-- The requests. -/
inductive AuthRequest
  | login (loginId password : Option String)
  | refresh (token : Option Token)
  | logout (access cookie : Option Token)
  | changePassword (salt : String) (access : Option Token) (previous password : Option String)
  | resetPassword (salt : String) (access : Option Token) (uuid : String)
    (password : Option String)
  | deleteUser (access : Option Token) (uuid : String)
  | deactivateUser (access : Option Token) (uuid : String)
  deriving DecidableEq, Repr

/-- One request. -/
def AuthWorld.handle (cfg : AuthConfig) (w : AuthWorld) (now : Int) : AuthRequest → AuthWorld
  | .login loginId password => (w.login cfg now loginId password).1
  | .refresh token => (w.refresh cfg now token).1
  | .logout access cookie => (w.logout now access cookie).1
  | .changePassword salt access previous password =>
    (w.changePassword cfg now salt access previous password).1
  | .resetPassword salt access uuid password =>
    (w.resetPassword cfg now salt access uuid password).1
  | .deleteUser access uuid => (w.deleteUser now access uuid).1
  | .deactivateUser access uuid => (w.deactivateUser now access uuid).1

/-- The clock and the tables. -/
structure AuthState where
  now : Int
  world : AuthWorld

/-- The first requests find no tokens. -/
def AuthState.start (now : Int) (users : Users) (roles : Roles) : AuthState :=
  ⟨now, .start users roles⟩

/-- Time passes, and then a request is handled. -/
def AuthState.step (cfg : AuthConfig) (s : AuthState) (a : Nat × AuthRequest) : AuthState :=
  ⟨s.now + a.1, s.world.handle cfg (s.now + a.1) a.2⟩

namespace AuthFixture

/-- The hash of the password `open sesame`. -/
def storedHash : String :=
  "$argon2id$v=19$m=65536,t=2,p=1$1qw2/fAJNfo9XbBVSHn77A$" ++
    "YMtOGGBiHxgdVimHJx5JGHWb5Liw+rmrC1wO99L+S08"

/-- Argon2 on the one hash and password of the fixture. -/
def argon2 : Argon2 where
  hash _ _ := storedHash
  verify stored raw := stored == storedHash && raw == "open sesame"

def config : AuthConfig := ⟨argon2, ⟨900, 1209600⟩, 5, 30⟩

def role : Role := ⟨1, "admin", [("*", .actions ["*"])], none⟩

def user : User :=
  { id := 1, uuid := "u1", loginId := "alice", password := storedHash, roleId := 1,
    permissions := [], isActive := true, failedLoginCount := 0, lockedUntil := none,
    lastLoginAt := none, tokenVersion := 0, deletedAt := none }

def users : Users := ⟨[user], List.nodup_singleton _⟩

def roles : Roles := ⟨[role], List.nodup_singleton _⟩

/-- Her access token and her refresh token at the login. -/
def access : Token := .access ⟨1, 0, "web", 1, 901, 0⟩

def refresh : Token := .refresh ⟨1, "web", 1, 1209601, 1, 2⟩

/-- The refresh token she is given for the first one. -/
def renewed : Token := .refresh ⟨1, "web", 2, 1209602, 4, 2⟩

def login : Nat × AuthRequest := (0, .login (some " alice ") (some "open sesame"))

end AuthFixture

end AeroXProtect
