import AeroXProtect.Admin.Permission
import AeroXProtect.Auth.User
import AeroXProtect.Lib.Run
import AeroXProtect.Lib.Script

/-!
# Administration of users

The requests that create, update and delete users, with the guards they pass: a target that is a
superuser is out of reach of the others, what is granted has to be held, and the last administrator
stays. A request carries a JSON body that nothing has validated, so every field is read as it comes;
`raised` is an exception that is not one of the controller's own. The columns are those the requests
write. Random and clock values, and whether the database takes the new row, are the environment of a
request.

The last administrator can be deactivated nevertheless (`last_admin_deactivated`): the guard looks
for the value `false`, and what is stored is the truth value of whatever was sent. `admin_remains`
is what holds of every run without such a request.
-/

open Lib

namespace AeroXProtect

/-! ## Rows -/

/-- A row of `roles`, with the map as it is stored. -/
structure AccountRole where
  id : Nat
  name : String
  permissions : Json
  deletedAt : Option Int
  deriving DecidableEq, Repr

abbrev AccountRoles := Table AccountRole.id

/-- A row of `users`, with the columns that administration writes. -/
structure Account where
  id : Nat
  uuid : String
  loginId : String
  password : String
  name : Json
  email : Json
  phoneNumber : Json
  roleId : Nat
  permissions : Json
  language : Json
  isActive : Bool
  tokenVersion : Int
  lastUpdatedById : Option Nat
  deletedAt : Option Int
  deriving DecidableEq, Repr

abbrev Accounts := Table Account.id

/-- The two tables. -/
structure AdminWorld where
  users : Accounts
  roles : AccountRoles

/-- What a request draws, and whether the database takes what it writes. -/
structure AdminEnv where
  argon2 : Argon2
  salt : String
  id : Nat
  uuid : String
  now : Int
  defaultLanguage : Json
  commits : Bool

/-- Why a request is refused. -/
inductive AdminError
  | invalidParameter (message : String)
  | unknownRole (name : Json)
  | conflict (message : String)
  | noPermission
  | rowNotFound
  | raised
  deriving DecidableEq, Repr

/-- `User.get_by_uuid` (`server/model/user.py:112`). -/
def Accounts.getByUuid (t : Accounts) (uuid : String) : Option Account :=
  t.rows.find? fun u => u.uuid == uuid && u.deletedAt.isNone

/-- `User.get_by_login_id` (`server/model/user.py:120`). -/
def Accounts.getByLoginId (t : Accounts) (loginId : String) : Option Account :=
  t.rows.find? fun u => u.loginId == loginId && u.deletedAt.isNone

/-- `Role.get_by_name` (`server/model/role.py:26`). -/
def AccountRoles.getByName (t : AccountRoles) (name : String) : Option AccountRole :=
  t.rows.find? fun r => r.name == name && r.deletedAt.isNone

/-! ## Bodies -/

/-- The value of an option, or an exception. -/
def orRaise {α : Type} : Option α → Except AdminError α
  | some a => .ok a
  | none => .error .raised

theorem orRaise_eq_ok {α : Type} {x : Option α} {a : α} : orRaise x = .ok a ↔ x = some a := by
  cases x with
  | none => exact ⟨nofun, nofun⟩
  | some b =>
    exact ⟨fun h => congrArg some (Except.ok.inj h), fun h => congrArg _ (Option.some.inj h)⟩

/-- The fields of a body; `data.get` raises on anything but an object. -/
def bodyFields : Json → Except AdminError (List (String × Json))
  | .obj fields => .ok fields
  | _ => .error .raised

/-- `data.get(key)`. -/
def field (fields : List (String × Json)) (key : String) : Json := (fields.lookup key).getD .null

/-- `(x or dflt).strip()`. -/
def strippedOr (x : Json) (dflt : String) : Except AdminError String :=
  if !x.truthy then .ok (String.ofList (strip dflt.toList))
  else
    match x with
    | .str s => .ok (String.ofList (strip s.toList))
    | _ => .error .raised

/-- `len(x)`. -/
def lengthOf : Json → Except AdminError Nat
  | .str s => .ok s.length
  | .arr items => .ok items.length
  | .obj fields => .ok fields.length
  | .null | .bool _ | .num _ => .error .raised

/-! ## Guards -/

open PermissionService

namespace AdminWorld

variable (env : AdminEnv) (w : AdminWorld) (actor : Account)

/-- The role of a user. The join does not look at `deleted_at`. -/
def roleOf (u : Account) : Option AccountRole := w.roles.get? u.roleId

/-- What the permission checks read of a user. -/
def holder (u : Account) : Holder :=
  ⟨((w.roleOf u).map AccountRole.permissions).getD .null, u.permissions⟩

/-- Source: `UserController._guard_target` (`server/controller/user.py:107`). -/
def guardTarget (target : Account) : Except AdminError Unit := do
  if actor.id = target.id then .ok ()
  else
    let own ← orRaise (isSuperuser? (w.holder actor))
    if own then .ok ()
    else
      let other ← orRaise (isSuperuser? (w.holder target))
      if other then .error .noPermission else .ok ()

/-- One entry of a granted scope map. -/
def guardScopeEntry (own : List (String × Json)) (entry : String × Json) :
    Except AdminError Unit := do
  let allowed ← orRaise
    (((scopeGet own entry.1).or ((scopeGet own "*").or (.arr []))).toSet?)
  if Json.listed allowed (.str "*") then .ok ()
  else
    let granted ← orRaise ((entry.2.or (.arr [.str "*"])).toSet?)
    if granted.all (Json.listed allowed) then .ok () else .error .noPermission

/-- One field of a granted map. -/
def guardField (h : Holder) (field : String × Json) : Except AdminError Unit :=
  match field.2 with
  | .obj targets => targets.forM (guardScopeEntry (mergedScope h field.1))
  | .arr actions => actions.forM fun action => do
      let held ← orRaise (has? h field.1 action)
      if held then .ok () else .error .noPermission
  | _ => .ok ()

/-- The map a role grants, when it is one. -/
def grantedByRole : Option AccountRole → List (String × Json)
  | some r =>
    match r.permissions with
    | .obj fields => fields
    | _ => []
  | none => []

/-- The map a request grants. -/
def grantedPermissions : Json → Except AdminError (List (String × Json))
  | .null => .ok []
  | .obj fields => .ok fields
  | _ => .error (.invalidParameter "permissions 형식이 올바르지 않습니다.")

/-- Source: `UserController._guard_grant` (`server/controller/user.py:115`). -/
def guardGrant (h : Holder) (role : Option AccountRole) (permissions : Json) :
    Except AdminError Unit := do
  let superuser ← orRaise (isSuperuser? h)
  if superuser then .ok ()
  else
    let fields ← grantedPermissions permissions
    (grantedByRole role).forM (guardField h)
    fields.forM (guardField h)

/-- Source: `UserController._resolve_role` (`server/controller/user.py:145`). -/
def resolveRole (roleName : Json) : Except AdminError AccountRole := do
  let name ← strippedOr roleName "user"
  match w.roles.getByName name with
  | some r => .ok r
  | none => .error (.unknownRole roleName)

/-- Source: `UserController._active_admin_count` (`server/controller/user.py:152`). -/
def activeAdminCount : Nat :=
  match w.roles.getByName "admin" with
  | none => 0
  | some admin =>
    w.users.rows.countP fun u => u.roleId == admin.id && u.isActive && u.deletedAt.isNone

/-- The role of the user is called `admin`. -/
def hasAdminRole (u : Account) : Bool := (w.roleOf u).any fun r => r.name == "admin"

/-! ## Requests -/

/-- The checks of a new user: its login id, name, password and role. -/
def checkCreate (fields : List (String × Json)) :
    Except AdminError (String × String × String × AccountRole) := do
  let loginId ← strippedOr (field fields "login_id") ""
  let password := (field fields "password").or (.str "")
  let name ← strippedOr (field fields "name") ""
  if loginId = "" || !password.truthy || name = "" then
    .error (.invalidParameter "login_id, password, name 은 필수입니다.")
  else if (← lengthOf password) < 8 then
    .error (.invalidParameter "비밀번호는 8자 이상이어야 합니다.")
  else if (w.users.getByLoginId loginId).isSome then
    .error (.conflict "이미 존재하는 아이디입니다.")
  else
    let role ← w.resolveRole (field fields "role")
    guardGrant (w.holder actor) (some role) (field fields "permissions")
    match password with
    | .str raw => .ok (loginId, raw, name, role)
    | _ => .error .raised

/-- Source: `User.create` (`server/model/user.py:149`). -/
def newAccount (fields : List (String × Json)) (loginId raw name : String) (role : AccountRole) :
    Account :=
  { id := env.id, uuid := env.uuid, loginId, password := env.argon2.hash env.salt raw,
    name := .str name, email := field fields "email", phoneNumber := field fields "phone_number",
    roleId := role.id, permissions := (field fields "permissions").or .empty,
    language := (field fields "language").or (env.defaultLanguage.or (.str "ko")),
    isActive := true, tokenVersion := 0, lastUpdatedById := some actor.id, deletedAt := none }

/-- Source: `UserController.create` (`server/controller/user.py:21`). -/
def create (data : Json) : AdminWorld × Except AdminError Account :=
  match (do let fields ← bodyFields data; let x ← w.checkCreate actor fields; .ok (fields, x)) with
  | .error e => (w, .error e)
  | .ok (fields, loginId, raw, name, role) =>
    if !env.commits then (w, .error .raised)
    else
      let u := newAccount env actor fields loginId raw name role
      ({ w with users := w.users.insert u }, .ok u)

/-- The role an update asks for. -/
def requestedRole (fields : List (String × Json)) : Except AdminError (Option AccountRole) :=
  if (field fields "role").truthy then (w.resolveRole (field fields "role")).map some else .ok none

/-- The update takes the administrator's role or deactivates the user by the value `false`. -/
def losingAdmin (fields : List (String × Json)) (role : Option AccountRole) (u : Account) : Bool :=
  (role.any fun r => decide (r.id ≠ u.roleId)) || decide (field fields "is_active" = .bool false)

/-- What an update grants has to be held. -/
def guardRequested (fields : List (String × Json)) (role : Option AccountRole) :
    Except AdminError Unit :=
  if role.isSome || decide (field fields "permissions" ≠ .null) then
    guardGrant (w.holder actor) role (field fields "permissions")
  else .ok ()

/-- The last administrator stays. -/
def guardLastAdmin (u : Account) (fields : List (String × Json)) (role : Option AccountRole) :
    Except AdminError Unit :=
  if w.hasAdminRole u && losingAdmin fields role u && decide (w.activeAdminCount ≤ 1) then
    .error (.invalidParameter "마지막 관리자는 변경할 수 없습니다.")
  else .ok ()

/-- The checks of an update, with the role it asks for. -/
def checkUpdate (u : Account) (fields : List (String × Json)) :
    Except AdminError (Option AccountRole) := do
  let role ← w.requestedRole fields
  w.guardRequested actor fields role
  w.guardLastAdmin u fields role
  .ok role

/-- `self.x = x if x is not None`. -/
def unlessNull (x old : Json) : Json := if x = .null then old else x

/-- Source: `User.modify` (`server/model/user.py:172`). -/
def modify (fields : List (String × Json)) (role : Option AccountRole) (u : Account) : Account :=
  { u with
    name := unlessNull (field fields "name") u.name
    email := unlessNull (field fields "email") u.email
    phoneNumber := unlessNull (field fields "phone_number") u.phoneNumber
    roleId := (role.map AccountRole.id).getD u.roleId
    permissions := unlessNull (field fields "permissions") u.permissions
    isActive := if field fields "is_active" = .null then u.isActive
      else (field fields "is_active").truthy
    language := unlessNull (field fields "language") u.language
    lastUpdatedById := some actor.id }

/-- `UPDATE users … WHERE id`. -/
def updateUser (id : Nat) (f : Account → Account)
    (hf : ∀ u, (f u).id = u.id := by intro; rfl) : AdminWorld :=
  { w with users := w.users.modify (fun u => u.id == id) f hf }

/-- The checks of a request for an update: the user, the body and the role it asks for. -/
def acceptUpdate (uuid : String) (data : Json) :
    Except AdminError (Account × List (String × Json) × Option AccountRole) := do
  match w.users.getByUuid uuid with
  | none => .error .rowNotFound
  | some u =>
    w.guardTarget actor u
    let fields ← bodyFields data
    let role ← w.checkUpdate actor u fields
    .ok (u, fields, role)

/-- Source: `UserController.update` (`server/controller/user.py:47`). -/
def update (uuid : String) (data : Json) : AdminWorld × Except AdminError Account :=
  match w.acceptUpdate actor uuid data with
  | .error e => (w, .error e)
  | .ok (u, fields, role) =>
    if !env.commits then (w, .error .raised)
    else
      (w.updateUser u.id (modify actor fields role), .ok (modify actor fields role u))

/-- The checks of a deletion. -/
def acceptDelete (uuid : String) : Except AdminError Account := do
  match w.users.getByUuid uuid with
  | none => .error .rowNotFound
  | some u =>
    w.guardTarget actor u
    if u.id = actor.id then .error (.invalidParameter "본인 계정은 삭제할 수 없습니다.")
    else if w.hasAdminRole u && w.activeAdminCount ≤ 1 then
      .error (.invalidParameter "마지막 관리자는 삭제할 수 없습니다.")
    else .ok u

/-- Source: `UserController.delete` (`server/controller/user.py:74`). -/
def delete (uuid : String) : AdminWorld × Except AdminError Unit :=
  match w.acceptDelete actor uuid with
  | .error e => (w, .error e)
  | .ok u =>
    (w.updateUser u.id fun r =>
      { r with deletedAt := some env.now, lastUpdatedById := some actor.id
               tokenVersion := u.tokenVersion + 1 }, .ok ())

/-! ## Accepted requests -/

section
variable {env : AdminEnv} {w : AdminWorld} {actor u : Account} {uuid : String} {data : Json}
  {fields : List (String × Json)} {role : Option AccountRole}

/-- What an accepted update has passed. -/
structure Accepted (w : AdminWorld) (actor u : Account) (fields : List (String × Json))
    (role : Option AccountRole) : Prop where
  target : w.guardTarget actor u = .ok ()
  requested : w.requestedRole fields = .ok role
  grant : role.isSome = true ∨ field fields "permissions" ≠ .null →
    guardGrant (w.holder actor) role (field fields "permissions") = .ok ()
  lastAdmin : w.hasAdminRole u = true → losingAdmin fields role u = true → 1 < w.activeAdminCount

theorem guardRequested_eq_ok (h : w.guardRequested actor fields role = .ok ())
    (hg : role.isSome = true ∨ field fields "permissions" ≠ .null) :
    guardGrant (w.holder actor) role (field fields "permissions") = .ok () := by
  unfold guardRequested at h
  rwa [if_pos] at h
  simpa using hg

theorem guardLastAdmin_eq_ok (h : w.guardLastAdmin u fields role = .ok ())
    (ha : w.hasAdminRole u = true) (hl : losingAdmin fields role u = true) :
    1 < w.activeAdminCount := by
  unfold guardLastAdmin at h
  rw [ha, hl] at h
  split at h
  · cases h
  · next hnot => simpa using hnot

theorem acceptUpdate_eq_ok (h : w.acceptUpdate actor uuid data = .ok (u, fields, role)) :
    w.users.getByUuid uuid = some u ∧ data = .obj fields ∧ w.Accepted actor u fields role := by
  unfold acceptUpdate at h
  split at h
  · cases h
  · next u' hu =>
    obtain ⟨⟨⟩, ht, h⟩ := bind_eq_ok.1 h
    obtain ⟨fields', hf, h⟩ := bind_eq_ok.1 h
    obtain ⟨role', hr, h⟩ := bind_eq_ok.1 h
    cases h
    obtain ⟨role', hrole, hr⟩ := bind_eq_ok.1 hr
    obtain ⟨⟨⟩, hgrant, hr⟩ := bind_eq_ok.1 hr
    obtain ⟨⟨⟩, hlast, hr⟩ := bind_eq_ok.1 hr
    cases hr
    refine ⟨hu, ?_, ht, hrole, guardRequested_eq_ok hgrant, guardLastAdmin_eq_ok hlast⟩
    cases data with
    | obj fs => cases hf; rfl
    | _ => cases hf

theorem acceptDelete_eq_ok (h : w.acceptDelete actor uuid = .ok u) :
    w.users.getByUuid uuid = some u ∧ (w.hasAdminRole u = true → 1 < w.activeAdminCount) := by
  unfold acceptDelete at h
  split at h
  · cases h
  · next u' hu =>
    obtain ⟨⟨⟩, -, h⟩ := bind_eq_ok.1 h
    split at h
    · cases h
    · split at h
      · cases h
      · next hnot =>
        cases h
        refine ⟨hu, fun ha => ?_⟩
        rw [ha] at hnot
        simpa using hnot

end

/-! ## Administrators -/

/-- An active user with the role of an administrator who is not deleted. -/
def isAdmin (w : AdminWorld) (u : Account) : Bool :=
  u.isActive && u.deletedAt.isNone && w.hasAdminRole u

end AdminWorld

/-- What a request asks for. -/
inductive AdminAct
  | create (data : Json)
  | update (uuid : String) (data : Json)
  | delete (uuid : String)

/-- A request of an actor. -/
structure AdminRequest where
  actor : Account
  env : AdminEnv
  act : AdminAct

namespace AdminWorld

/-- What a request leaves behind. -/
def act (w : AdminWorld) (r : AdminRequest) : AdminWorld :=
  match r.act with
  | .create data => (w.create r.env r.actor data).1
  | .update uuid data => (w.update r.env r.actor uuid data).1
  | .delete uuid => (w.delete r.env r.actor uuid).1

/-- The body deactivates the user with a value other than `false`: `0`, `""`, `[]` or an empty
object. -/
def coercedOff : Json → Bool
  | .obj fields =>
    let v := field fields "is_active"
    decide (v ≠ .null) && decide (v ≠ .bool false) && !v.truthy
  | _ => false

/-- The request does not deactivate the only administrator that way. -/
def keepsLastAdmin (w : AdminWorld) (r : AdminRequest) : Bool :=
  match r.act with
  | .update uuid data =>
    (w.users.getByUuid uuid).all fun u =>
      !coercedOff data || w.users.rows.any fun v => w.isAdmin v && v.id != u.id
  | _ => true

section
variable {w : AdminWorld} {u v : Account}

theorem getByUuid_mem {t : Accounts} {uuid : String} (h : t.getByUuid uuid = some u) : u ∈ t :=
  List.mem_of_find?_eq_some h

/-- Where there are two administrators, there is one besides any user. -/
theorem exists_other_admin (h : 1 < w.activeAdminCount) (k : Nat) :
    ∃ v ∈ w.users, w.isAdmin v = true ∧ v.id ≠ k := by
  unfold activeAdminCount at h
  split at h
  · exact absurd h (Nat.not_lt_zero 1)
  · next admin hadmin =>
    obtain ⟨v, hv, hp, hne⟩ := Table.exists_key_ne h k
    rw [Bool.and_eq_true, Bool.and_eq_true, beq_iff_eq] at hp
    obtain ⟨⟨hrole, hactive⟩, hdel⟩ := hp
    have hget : w.roleOf v = some admin :=
      Table.get?_eq_some.2 ⟨List.mem_of_find?_eq_some hadmin, hrole.symm⟩
    have hname : (admin.name == "admin") = true :=
      (Bool.and_eq_true _ _ ▸ List.find?_some hadmin).1
    refine ⟨v, hv, ?_, hne⟩
    rw [isAdmin, hactive, hdel, hasAdminRole, hget]
    exact hname

theorem mem_updateUser {id : Nat} {f : Account → Account} {hf : ∀ u, (f u).id = u.id} :
    v ∈ (w.updateUser id f hf).users ↔ ∃ r ∈ w.users, v = if r.id = id then f r else r := by
  dsimp only [updateUser]
  rw [Table.mem_modify]
  simp only [beq_iff_eq]

/-- The update of one user keeps the administrators besides them, and the user when they stay one.
-/
theorem admin_updateUser {f : Account → Account} {hf : ∀ u, (f u).id = u.id} (hu : u ∈ w.users)
    (h : (∃ v ∈ w.users, w.isAdmin v = true ∧ v.id ≠ u.id) ∨ w.isAdmin (f u) = true) :
    ∃ v ∈ (w.updateUser u.id f hf).users, (w.updateUser u.id f hf).isAdmin v = true := by
  rcases h with ⟨v, hv, ha, hne⟩ | ha
  · exact ⟨v, mem_updateUser.2 ⟨v, hv, (if_neg hne).symm⟩, ha⟩
  · exact ⟨f u, mem_updateUser.2 ⟨u, hu, (if_pos rfl).symm⟩, ha⟩

/-- An update that is not refused leaves an administrator. -/
theorem admin_of_accepted {actor : Account} {fields : List (String × Json)}
    {role : Option AccountRole} (hacc : w.Accepted actor u fields role)
    (hkeep : coercedOff (.obj fields) = true → ∃ v ∈ w.users, w.isAdmin v = true ∧ v.id ≠ u.id)
    (hu : w.isAdmin u = true) :
    (∃ v ∈ w.users, w.isAdmin v = true ∧ v.id ≠ u.id) ∨
      w.isAdmin (modify actor fields role u) = true := by
  rw [isAdmin, Bool.and_eq_true, Bool.and_eq_true] at hu
  obtain ⟨⟨hactive, hdel⟩, hrole⟩ := hu
  by_cases hlose : losingAdmin fields role u = true
  · exact .inl (exists_other_admin (hacc.lastAdmin hrole hlose) u.id)
  · by_cases hoff : coercedOff (.obj fields) = true
    · exact .inl (hkeep hoff)
    · -- the role is the same, and `is_active` is absent or true
      right
      rw [losingAdmin, Bool.or_eq_true, not_or] at hlose
      obtain ⟨hsame, hfalse⟩ := hlose
      have hid : (role.map AccountRole.id).getD u.roleId = u.roleId := by
        cases role with
        | none => rfl
        | some r => simpa using hsame
      have hon : (if field fields "is_active" = .null then u.isActive
          else (field fields "is_active").truthy) = true := by
        split
        · exact hactive
        · next hnull => simpa [coercedOff, hnull, hfalse] using hoff
      have hrole' : w.hasAdminRole (modify actor fields role u) = true := by
        unfold hasAdminRole roleOf modify
        dsimp only
        rw [hid]
        exact hrole
      rw [isAdmin, hrole', Bool.and_true, Bool.and_eq_true]
      exact ⟨hon, hdel⟩

/-- A request leaves an administrator. -/
theorem admin_act {r : AdminRequest} (hr : w.keepsLastAdmin r = true)
    (h : ∃ u ∈ w.users, w.isAdmin u = true) :
    ∃ u ∈ (w.act r).users, (w.act r).isAdmin u = true := by
  obtain ⟨v, hv, ha⟩ := h
  obtain ⟨actor, env, x⟩ := r
  cases x with
  | create data =>
    dsimp only [act, create]
    split
    · exact ⟨v, hv, ha⟩
    · split
      · exact ⟨v, hv, ha⟩
      · exact ⟨v, Table.mem_insert_of_mem hv, ha⟩
  | update uuid data =>
    dsimp only [act, update]
    split
    · exact ⟨v, hv, ha⟩
    · next u fields role haccept =>
      obtain ⟨hu, rfl, hacc⟩ := acceptUpdate_eq_ok haccept
      split
      · exact ⟨v, hv, ha⟩
      · refine admin_updateUser (getByUuid_mem hu) ?_
        by_cases hvu : v.id = u.id
        · obtain rfl := Table.eq_of_key_eq hv (getByUuid_mem hu) hvu
          refine admin_of_accepted hacc (fun hoff => ?_) ha
          dsimp only [keepsLastAdmin] at hr
          rw [hu, hoff] at hr
          simpa using hr
        · exact .inl ⟨v, hv, ha, hvu⟩
  | delete uuid =>
    dsimp only [act, delete]
    split
    · exact ⟨v, hv, ha⟩
    · next u hacc =>
      obtain ⟨hu, hlast⟩ := acceptDelete_eq_ok hacc
      refine admin_updateUser (getByUuid_mem hu) (.inl ?_)
      by_cases hvu : v.id = u.id
      · obtain rfl := Table.eq_of_key_eq hv (getByUuid_mem hu) hvu
        rw [isAdmin, Bool.and_eq_true] at ha
        exact exists_other_admin (hlast ha.2) _
      · exact ⟨v, hv, ha, hvu⟩

end

/-- **An administrator remains.** From tables with an active administrator, every run of requests of
any actors with any bodies, none of which deactivates the only administrator by an empty value other
than `false`, leads to tables with an active administrator. -/
theorem admin_remains {w w' : AdminWorld} {rs : List AdminRequest}
    (hrun : Run act (fun w r => w.keepsLastAdmin r = true) w rs w')
    (h : ∃ u ∈ w.users, w.isAdmin u = true) : ∃ u ∈ w'.users, w'.isAdmin u = true :=
  hrun.invariant (I := fun w => ∃ u ∈ w.users, w.isAdmin u = true)
    (fun _ _ h hr => admin_act hr h) h

end AdminWorld

namespace UsersFixture

def admin : AccountRole :=
  { id := 1, name := "admin", permissions := .obj [("*", .arr [.str "*"])], deletedAt := none }

def root : Account :=
  { id := 10, uuid := "u10", loginId := "root", password := "", name := .str "root",
    email := .null, phoneNumber := .null, roleId := 1, permissions := .empty,
    language := .str "ko", isActive := true, tokenVersion := 0, lastUpdatedById := none,
    deletedAt := none }

/-- One administrator. -/
def world : AdminWorld :=
  ⟨⟨[root], List.nodup_singleton _⟩, ⟨[admin], List.nodup_singleton _⟩⟩

def env : AdminEnv :=
  { argon2 := ⟨fun salt raw => salt ++ raw, fun hash raw => hash == raw⟩, salt := "$", id := 11,
    uuid := "u11", now := 0, defaultLanguage := .str "ko", commits := true }

/-- The administrator creates a second one. -/
def second : AdminRequest :=
  ⟨root, env, .create (.obj [("login_id", .str "lee"), ("password", .str "correct horse"),
    ("name", .str "Lee"), ("role", .str "admin")])⟩

/-- The administrator's own account is deactivated by the value `0`. -/
def zero : AdminRequest := ⟨root, env, .update "u10" (.obj [("is_active", .num 0)])⟩

end UsersFixture

section
open UsersFixture

/-- The first administrator is deactivated after a second one was created. -/
theorem admin_remains_fixture :
    world.isAdmin root = true ∧
    (((world.act second).act zero).users.getByUuid "u10").map Account.isActive = some false ∧
    ∃ u ∈ ((world.act second).act zero).users, ((world.act second).act zero).isAdmin u = true := by
  have hrun : Run AdminWorld.act (fun w r => w.keepsLastAdmin r = true) world [second, zero]
      ((world.act second).act zero) := .of_admits (by decide +kernel)
  have hroot : world.isAdmin root = true := by decide +kernel
  exact ⟨hroot, by decide +kernel,
    AdminWorld.admin_remains hrun ⟨root, List.mem_singleton.2 rfl, hroot⟩⟩

/-- The only administrator is deactivated by the value `0`, and by every other empty value. -/
theorem last_admin_deactivated : (∃ u ∈ world.users, world.isAdmin u = true) ∧
    (¬ ∃ u ∈ (world.act zero).users, (world.act zero).isAdmin u = true) ∧
    ∀ v ∈ [Json.num 0, .str "", .arr [], .obj []],
      ¬ ∃ u ∈ (world.act ⟨root, env, .update "u10" (.obj [("is_active", v)])⟩).users,
        world.isAdmin u = true := by
  decide +kernel

end

end AeroXProtect
