import AeroXProtect.Lib.Table
import AeroXProtect.Lib.Clock

/-!
# Users, roles and permissions

The rows of `users` and `roles`, the password and lockout rules of a user, and the permission checks
that guard the administration of users. Argon2 is a parameter (`Argon2`): a hash of a password under
a salt, and a verifier.
-/

open Lib

namespace AeroXProtect

/-! ## Rows -/

/-- An entry of a permission map: a list of actions, or a map of scoped rights. -/
inductive PermValue
  | actions (l : List String)
  | scope (m : List (String × List String))
  deriving DecidableEq, Repr

abbrev PermMap := List (String × PermValue)

/-- A row of `roles`. -/
structure Role where
  id : Nat
  name : String
  permissions : PermMap
  deletedAt : Option Int
  deriving DecidableEq, Repr

abbrev Roles := Table Role.id

/-- A row of `users`. -/
structure User where
  id : Nat
  uuid : String
  loginId : String
  password : String
  roleId : Nat
  permissions : PermMap
  isActive : Bool
  failedLoginCount : Nat
  lockedUntil : Option Int
  lastLoginAt : Option Int
  tokenVersion : Int
  deletedAt : Option Int
  deriving DecidableEq, Repr

abbrev Users := Table User.id

/-- The password hasher: `PasswordHasher.hash` with its random salt, and `PasswordHasher.verify`. -/
structure Argon2 where
  hash : String → String → String
  verify : String → String → Bool

/-! ## Passwords and lockout -/

namespace User

/-- Source: `User.set_password` (`server/model/user.py:60`). -/
def setPassword (a : Argon2) (salt : String) (u : User) (raw : String) : User :=
  { u with password := a.hash salt raw }

/-- Source: `User.verify_password` (`server/model/user.py:63`). -/
def verifyPassword (a : Argon2) (u : User) (raw : String) : Bool := a.verify u.password raw

/-- Source: `User.is_locked` (`server/model/user.py:70`). -/
def isLocked (u : User) (now : Int) : Bool :=
  match u.lockedUntil with
  | some t => t > now
  | none => false

/-- Source: `User.register_failed_login` (`server/model/user.py:73`), with whether the account is
now locked. -/
def registerFailedLogin (u : User) (now : Int) (maxFailed lockMinutes : Int) : User × Bool :=
  let n := u.failedLoginCount + 1
  if (n : Int) ≥ maxFailed then
    ({ u with lockedUntil := some (now + seconds (lockMinutes * 60)), failedLoginCount := 0 }, true)
  else ({ u with failedLoginCount := n }, false)

/-- Source: `User.register_successful_login` (`server/model/user.py:85`). -/
def registerSuccessfulLogin (u : User) (now : Int) : User :=
  { u with failedLoginCount := 0, lockedUntil := none, lastLoginAt := some now }

end User

namespace Users

/-- Source: `User.get_by_id` (`server/model/user.py:105`). -/
def getById (t : Users) (id : Nat) : Option User :=
  t.rows.find? fun u => u.id == id && u.deletedAt.isNone

/-- Source: `User.get_by_uuid` (`server/model/user.py:112`). -/
def getByUuid (t : Users) (uuid : String) : Option User :=
  t.rows.find? fun u => u.uuid == uuid && u.deletedAt.isNone

/-- Source: `User.get_by_login_id` (`server/model/user.py:120`). -/
def getByLoginId (t : Users) (loginId : String) : Option User :=
  t.rows.find? fun u => u.loginId == loginId && u.deletedAt.isNone

/-- A lookup by id answers the user with the id who is not deleted. -/
theorem getById_eq_some {t : Users} {id : Nat} {u : User} :
    t.getById id = some u ↔ u ∈ t ∧ u.id = id ∧ u.deletedAt = none :=
  Table.find?_live_eq_some

end Users

/-! ## Permissions -/

/-- The actions a permission map lists for a resource. -/
def PermMap.actions (m : PermMap) (resource : String) : Option (List String) :=
  match m.lookup resource with
  | some (.actions l) => some l
  | _ => none

/-- Source: `PermissionService.effective_permissions` (`server/service/permission.py:11`), at one
resource. -/
def effectivePermissions (role : Option Role) (u : User) (resource : String) :
    Option (List String) :=
  match role.bind fun r => r.permissions.actions resource, u.permissions.actions resource with
  | none, none => none
  | base, own => some (base.getD [] ++ own.getD [])

/-- Source: `PermissionService.has` (`server/service/permission.py:29`). -/
def hasPermission (role : Option Role) (u : User) (resource action : String) : Bool :=
  let allows (r : String) : Bool :=
    match effectivePermissions role u r with
    | some l => l.contains "*" || l.contains action
    | none => false
  allows "*" || allows resource

/-- Source: `PermissionService.is_superuser` (`server/service/permission.py:46`). -/
def isSuperuser (role : Option Role) (u : User) : Bool :=
  match effectivePermissions role u "*" with
  | some l => l.contains "*"
  | none => false

/-- Source: `Role.get_by_name` (`server/model/role.py:26`). -/
def Roles.getByName (t : Roles) (name : String) : Option Role :=
  t.rows.find? fun r => r.name == name && r.deletedAt.isNone

end AeroXProtect
