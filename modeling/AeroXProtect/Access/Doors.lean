import AeroXProtect.Lib.Clock
import AeroXProtect.Lib.Interleave
import AeroXProtect.Lib.Text

/-!
# Doors, badges and swipes

The rows of the access-control tables and the requests against them, as threads over the database
(`Lib.Pool`): a request reads what it decides on with one statement, and drives the relay, writes
the door, the log and the event pipeline with later ones, so that any number of swipes and of edits
come in between. An object that was read keeps its values for the rest of its request, and an edit
writes the columns that it changes. `drives` is not in the program: it is what the controllers of
the doors were asked for, and what became of it.
-/

open Lib

namespace AeroXProtect.Access

/-! ## Rows -/

/-- `CONTROLLERS`, and the empty text, which the check of an edit lets through. -/
inductive Controller
  | mock
  | vendorHttp
  | onvifRelay
  | empty
  deriving DecidableEq, Repr

/-- Source: `CONTROLLERS` (`server/model/door.py:25`). -/
def Controller.parse? : String → Option Controller
  | "mock" => some .mock
  | "vendor_http" => some .vendorHttp
  | "onvif_relay" => some .onvifRelay
  | "" => some .empty
  | _ => none

/-- `controller_config` -/
structure ControllerConfig where
  host : Option String
  url : Option String
  username : String
  password : String
  outputId : Nat
  deriving DecidableEq, Repr

/-- `controller_config or {}` of a door without one. -/
def ControllerConfig.none : ControllerConfig := ⟨.none, .none, "", "", 1⟩

inductive LockState
  | locked
  | unlocked
  deriving DecidableEq, Repr

/-- A row of `doors`. Source: `Door` (`server/model/door.py:31`). -/
structure Door where
  id : Nat
  name : String
  controllerType : Controller
  controllerConfig : ControllerConfig
  lockState : LockState
  cameraId : Option Nat
  accessGroup : String
  requirePin : Bool
  unlockSeconds : Int
  unlockedAt : Option Int
  enabled : Bool
  deleted : Bool
  deriving DecidableEq, Repr

/-- A row of `access_credentials`. Source: `AccessCredential`
(`server/model/access_credential.py:21`). -/
structure Credential where
  id : Nat
  cardNumber : String
  holderName : String
  identityId : Option Nat
  accessGroup : String
  pinHash : Option String
  validFrom : Option Int
  validUntil : Option Int
  enabled : Bool
  deleted : Bool
  deriving DecidableEq, Repr

/-- Why a request was granted or denied. -/
inductive Reason
  | doorDisabled
  | unknownCard
  | cardDisabled
  | expired
  | wrongGroup
  | badPin
  | ok
  | manualUnlock
  deriving DecidableEq, Repr

/-- A row of `access_events`. Source: `AccessEvent` (`server/model/access_event.py:15`). -/
structure AccessEvent where
  id : Nat
  doorId : Nat
  credentialId : Option Nat
  cardNumber : Option String
  holderName : Option String
  granted : Bool
  reason : Reason
  source : String
  time : Int
  deriving DecidableEq, Repr

/-- What `_raise_event` hands to the event pipeline. -/
structure RaisedAccess where
  cameraId : Nat
  granted : Bool
  doorId : Nat
  card : String
  doorName : String
  reason : Reason
  holder : Option String
  accessEventId : Nat
  deriving DecidableEq, Repr

namespace Door

/-- `self.unlock_seconds or 5` -/
def pulseSeconds (d : Door) : Int := if d.unlockSeconds = 0 then 5 else d.unlockSeconds

/-- Source: `Door.effective_lock_state` (`server/model/door.py:98`). -/
def effectiveLockState (d : Door) (now : Int) : LockState :=
  match d.lockState, d.unlockedAt with
  | .unlocked, some t => if seconds d.pulseSeconds ≤ now - t then .locked else .unlocked
  | state, _ => state

/-- Source: `Door.mark_unlocked` (`server/model/door.py:90`). -/
def markUnlocked (d : Door) (now : Int) : Door :=
  { d with lockState := .unlocked, unlockedAt := some now }

end Door

/-- `str(card_number or '').strip()[:64]` -/
def normalizeCard (card : String) : String := String.ofList ((Lib.strip card.toList).take 64)

namespace Credential

/-- Source: `AccessCredential.is_valid_at` (`server/model/access_credential.py:88`). -/
def isValidAt (c : Credential) (now : Int) : Bool :=
  !(c.validFrom.any fun t => decide (now < t)) && !(c.validUntil.any fun t => decide (t < now))

/-- Source: `AccessCredential.verify_pin` (`server/model/access_credential.py:83`). -/
def verifyPin (hashPin : String → String) (c : Credential) (pin : Option String) : Bool :=
  match c.pinHash with
  | none => true
  | some h => pin.any fun p => decide (hashPin p = h)

end Credential

/-! ## The relay -/

/-- What becomes of the request to a controller. -/
inductive HttpAnswer
  | status (code : Nat)
  | requestException
  | raises
  deriving DecidableEq, Repr

inductive DriveStatus
  | ok
  | failed
  | skipped
  | raised
  deriving DecidableEq, Repr

/-- The request to a controller. -/
structure RelayRequest where
  url : String
  auth : Option (String × String)
  output : Nat
  action : String
  seconds : Int
  deriving DecidableEq, Repr

/-- Source: `_vendor_http` (`server/driver/door.py:30`). -/
def vendorHttp (cfg : ControllerConfig) (action : String) (seconds : Int) (answer : HttpAnswer) :
    Option RelayRequest × DriveStatus :=
  match cfg.host.filter (· ≠ "") with
  | none => (none, .failed)
  | some host =>
    (some { url := (cfg.url.filter (· ≠ "")).getD
              ("http://" ++ host ++ "/cgi-bin/accessControl.cgi")
            auth := if cfg.username = "" then none else some (cfg.username, cfg.password)
            output := cfg.outputId
            action
            seconds },
      match answer with
      | .status code => if code = 200 then .ok else .failed
      | .requestException => .failed
      | .raises => .raised)

/-- Source: `_drive` (`server/driver/door.py:19`). -/
def drive (d : Door) (action : String) (seconds : Int) (answer : HttpAnswer) :
    Option RelayRequest × DriveStatus :=
  match d.controllerType with
  | .mock => (none, .ok)
  | .vendorHttp => vendorHttp d.controllerConfig action seconds answer
  | .onvifRelay => (none, .skipped)
  | .empty => (none, .failed)

/-! ## The store -/

/-- What a controller was asked for: the door, the badge that was shown if any, what was sent to a
controller that is reached over the network, and the status. -/
structure Drive where
  doorId : Nat
  credentialId : Option Nat
  request : Option RelayRequest
  status : DriveStatus
  time : Int
  deriving DecidableEq, Repr

structure AccessStore where
  now : Int
  doors : List Door
  credentials : List Credential
  drives : List Drive
  events : List AccessEvent
  raised : List RaisedAccess
  deriving DecidableEq, Repr

namespace AccessStore

/-- Source: `Door.get_by_id` (`server/model/door.py:47`). -/
def door? (s : AccessStore) (id : Nat) : Option Door :=
  s.doors.find? fun d => decide (d.id = id) && !d.deleted

/-- Source: `AccessCredential.get_by_id` (`server/model/access_credential.py:34`). -/
def credential? (s : AccessStore) (id : Nat) : Option Credential :=
  s.credentials.find? fun c => decide (c.id = id) && !c.deleted

/-- The live row of a card. The collation of the column says which texts are equal. Source:
`AccessCredential.find_by_card` (`server/model/access_credential.py:38`). -/
def findByCard (collate : String → String) (s : AccessStore) (card : String) :
    Option Credential :=
  s.credentials.find? fun c =>
    decide (collate c.cardNumber = collate (normalizeCard card)) && !c.deleted

/-- `UPDATE doors … WHERE id = …` -/
def modifyDoor (s : AccessStore) (id : Nat) (f : Door → Door) : AccessStore :=
  { s with doors := s.doors.map fun d => if d.id = id then f d else d }

/-- `UPDATE access_credentials … WHERE id = …` -/
def modifyCredential (s : AccessStore) (id : Nat) (f : Credential → Credential) : AccessStore :=
  { s with credentials := s.credentials.map fun c => if c.id = id then f c else c }

end AccessStore

/-! ## Decisions -/

structure Decision where
  granted : Bool
  reason : Reason
  credential : Option Credential
  deriving DecidableEq, Repr

/-- Source: `evaluate` (`server/service/access_control.py:17`). -/
def evaluate (hashPin collate : String → String) (s : AccessStore) (now : Int) (door : Door)
    (card : String) (pin : Option String) : Decision :=
  if !door.enabled then ⟨false, .doorDisabled, none⟩
  else
    match s.findByCard collate card with
    | none => ⟨false, .unknownCard, none⟩
    | some c =>
      if !c.enabled then ⟨false, .cardDisabled, some c⟩
      else if !c.isValidAt now then ⟨false, .expired, some c⟩
      else if door.accessGroup ≠ "public" ∧ c.accessGroup ≠ door.accessGroup then
        ⟨false, .wrongGroup, some c⟩
      -- a badge without a PIN does not open a door that asks for one
      else if door.requirePin && (c.pinHash.isNone || !c.verifyPin hashPin pin) then
        ⟨false, .badPin, some c⟩
      else ⟨true, .ok, some c⟩

/-! ## Edits -/

/-- The keys of an edit of a door that are there and not null. -/
structure DoorData where
  name : Option String
  controllerType : Option String
  controllerConfig : Option ControllerConfig
  cameraId : Option Nat
  accessGroup : Option String
  requirePin : Option Bool
  unlockSeconds : Option Int
  enabled : Option Bool
  deriving DecidableEq, Repr

/-- The keys of an edit of a badge. A null lifts a bound of the validity and the PIN. -/
structure CredentialData where
  cardNumber : String
  holderName : Option String
  identityId : Option Nat
  accessGroup : Option String
  pin : Option (Option String)
  validFrom : Option (Option Int)
  validUntil : Option (Option Int)
  enabled : Option Bool
  deriving DecidableEq, Repr

namespace Door

/-- Source: `AccessController.create_door` (`server/controller/access.py:38`) and `Door.create`
(`server/model/door.py:55`). -/
def create (id : Nat) (data : DoorData) : Option Door :=
  match (data.name.filter fun n => Lib.strip n.toList ≠ []),
      Controller.parse? (data.controllerType.getD "") with
  | some name, some ctype =>
    some { id
           name
           controllerType := if ctype = .empty then .mock else ctype
           controllerConfig := data.controllerConfig.getD .none
           lockState := .locked
           cameraId := data.cameraId
           accessGroup := (data.accessGroup.filter (· ≠ "")).getD "default"
           requirePin := data.requirePin.getD false
           unlockSeconds := (data.unlockSeconds.filter (· ≠ 0)).getD 5
           unlockedAt := none
           enabled := true
           deleted := false }
  | _, _ => none

/-- Source: `AccessController.update_door` (`server/controller/access.py:47`) and `Door.modify`
(`server/model/door.py:70`). -/
def modify (d : Door) (data : DoorData) : Option Door :=
  match Controller.parse? (data.controllerType.getD "") with
  | none => none
  | some ctype =>
    some { d with
      name := data.name.getD d.name
      controllerType := if data.controllerType.isSome then ctype else d.controllerType
      controllerConfig := data.controllerConfig.getD d.controllerConfig
      cameraId := data.cameraId.orElse fun _ => d.cameraId
      accessGroup := data.accessGroup.getD d.accessGroup
      requirePin := data.requirePin.getD d.requirePin
      unlockSeconds := data.unlockSeconds.getD d.unlockSeconds
      enabled := data.enabled.getD d.enabled }

/-- Source: `Door.soft_delete` (`server/model/door.py:105`). -/
def softDelete (d : Door) : Door := { d with deleted := true, enabled := false }

end Door

namespace Credential

/-- `hash_pin(str(pin)) if pin else None` -/
def pinOf (hashPin : String → String) (pin : Option String) : Option String :=
  (pin.filter (· ≠ "")).map hashPin

/-- Source: `AccessCredential.create` (`server/model/access_credential.py:53`). -/
def create (hashPin : String → String) (id : Nat) (data : CredentialData) (holder : String) :
    Credential :=
  { id
    cardNumber := normalizeCard data.cardNumber
    holderName := holder
    identityId := data.identityId
    accessGroup := (data.accessGroup.filter (· ≠ "")).getD "default"
    pinHash := pinOf hashPin (data.pin.getD none)
    validFrom := data.validFrom.getD none
    validUntil := data.validUntil.getD none
    enabled := true
    deleted := false }

/-- Source: `AccessCredential.modify` (`server/model/access_credential.py:67`). -/
def modify (hashPin : String → String) (c : Credential) (data : CredentialData) : Credential :=
  { c with
    holderName := data.holderName.getD c.holderName
    identityId := data.identityId.orElse fun _ => c.identityId
    accessGroup := data.accessGroup.getD c.accessGroup
    pinHash := (data.pin.map (pinOf hashPin)).getD c.pinHash
    validFrom := data.validFrom.getD c.validFrom
    validUntil := data.validUntil.getD c.validUntil
    enabled := data.enabled.getD c.enabled }

/-- Source: `AccessCredential.soft_delete` (`server/model/access_credential.py:95`). -/
def softDelete (c : Credential) : Credential := { c with deleted := true, enabled := false }

end Credential

/-- A column of a row that is committed: it is written if the object has another value than was
read. -/
def writeColumn {β : Type} [DecidableEq β] (seen new row : β) : β := if new = seen then row else new

/-- The columns of a door that differ from what was read are written to its row. -/
def Door.writeBack (seen new row : Door) : Door :=
  { row with
    name := writeColumn seen.name new.name row.name
    controllerType := writeColumn seen.controllerType new.controllerType row.controllerType
    controllerConfig := writeColumn seen.controllerConfig new.controllerConfig row.controllerConfig
    cameraId := writeColumn seen.cameraId new.cameraId row.cameraId
    accessGroup := writeColumn seen.accessGroup new.accessGroup row.accessGroup
    requirePin := writeColumn seen.requirePin new.requirePin row.requirePin
    unlockSeconds := writeColumn seen.unlockSeconds new.unlockSeconds row.unlockSeconds
    enabled := writeColumn seen.enabled new.enabled row.enabled
    deleted := writeColumn seen.deleted new.deleted row.deleted }

/-- The columns of a badge that differ from what was read are written to its row. -/
def Credential.writeBack (seen new row : Credential) : Credential :=
  { row with
    holderName := writeColumn seen.holderName new.holderName row.holderName
    identityId := writeColumn seen.identityId new.identityId row.identityId
    accessGroup := writeColumn seen.accessGroup new.accessGroup row.accessGroup
    pinHash := writeColumn seen.pinHash new.pinHash row.pinHash
    validFrom := writeColumn seen.validFrom new.validFrom row.validFrom
    validUntil := writeColumn seen.validUntil new.validUntil row.validUntil
    enabled := writeColumn seen.enabled new.enabled row.enabled
    deleted := writeColumn seen.deleted new.deleted row.deleted }

/-! ## Requests -/

inductive AccessRequest
  | swipe (doorId : Nat) (card : String) (pin source : Option String)
  | unlock (doorId : Nat)
  | createDoor (data : DoorData)
  | updateDoor (doorId : Nat) (data : DoorData)
  | deleteDoor (doorId : Nat)
  | createCredential (data : CredentialData)
  | updateCredential (credId : Nat) (data : CredentialData)
  | deleteCredential (credId : Nat)
  deriving DecidableEq, Repr

/-- A swipe or a manual opening after its decision: the door as it was read, and the card unless the
opening is manual. -/
structure Opening where
  door : Door
  card : Option String
  decision : Decision
  source : String
  deriving DecidableEq, Repr

/-- Where a request is. -/
inductive AccessThread
  | start (r : AccessRequest)
  | drive (o : Opening)
  | mark (o : Opening)
  | record (o : Opening)
  | raising (o : Opening) (ev : AccessEvent)
  | insertDoor (data : DoorData)
  | writeDoor (seen new : Door)
  | insertCredential (data : CredentialData) (holder : String)
  | writeCredential (seen new : Credential)
  | done (ev : Option AccessEvent)
  | failed
  deriving DecidableEq, Repr

/-- The environment of a statement: the clock, the feature flag, the id of a row that is inserted,
what a controller answers, whether the pipeline takes an event, and whether the statement raises. -/
structure AccessEnv where
  now : Int
  flag : Bool
  id : Nat
  http : HttpAnswer
  pipeline : Bool
  raises : Bool
  deriving DecidableEq, Repr

/-- The row that `AccessEvent.record` inserts for an opening. -/
def Opening.event (o : Opening) (e : AccessEnv) : AccessEvent where
  id := e.id
  doorId := o.door.id
  credentialId := o.decision.credential.map (·.id)
  cardNumber := o.card.map normalizeCard
  holderName := o.decision.credential.map (·.holderName)
  granted := o.decision.granted
  reason := o.decision.reason
  source := o.source
  time := e.now

/-- Source: `_raise_event` (`server/service/access_control.py:82`). -/
def raiseEvent (o : Opening) (ev : AccessEvent) (camera : Nat) : RaisedAccess where
  cameraId := camera
  granted := o.decision.granted
  doorId := o.door.id
  card := ev.cardNumber.getD ""
  doorName := o.door.name
  reason := o.decision.reason
  holder := o.decision.credential.map (·.holderName)
  accessEventId := ev.id

section
variable (hashPin collate : String → String)

/-- The first statement of a request. Source: `AccessController`
(`server/controller/access.py:30`). -/
def select (s : AccessStore) (r : AccessRequest) (e : AccessEnv) : AccessThread :=
  if !e.flag then .failed
  else
    match r with
    | .swipe doorId card pin source =>
      match s.door? doorId, Lib.strip card.toList with
      | some door, c :: cs =>
        let card := String.ofList (c :: cs)
        let decision := evaluate hashPin collate s e.now door card pin
        let o := ⟨door, some card, decision, (source.filter (· ≠ "")).getD "api"⟩
        if decision.granted then .drive o else .record o
      | _, _ => .failed
    | .unlock doorId =>
      match s.door? doorId with
      | some door => .drive ⟨door, none, ⟨true, .manualUnlock, none⟩, "manual"⟩
      | none => .failed
    | .createDoor data =>
      if (Door.create e.id data).isSome then .insertDoor data else .failed
    | .updateDoor doorId data =>
      match s.door? doorId with
      | some door => ((door.modify data).map (AccessThread.writeDoor door)).getD .failed
      | none => .failed
    | .deleteDoor doorId =>
      match s.door? doorId with
      | some door => .writeDoor door door.softDelete
      | none => .failed
    | .createCredential data =>
      match data.holderName.filter fun h => Lib.strip h.toList ≠ [] with
      | some holder =>
        if Lib.strip data.cardNumber.toList = [] then .failed
        else if (s.findByCard collate data.cardNumber).isSome then .failed
        else .insertCredential data holder
      | none => .failed
    | .updateCredential credId data =>
      match s.credential? credId with
      | some c => .writeCredential c (c.modify hashPin data)
      | none => .failed
    | .deleteCredential credId =>
      match s.credential? credId with
      | some c => .writeCredential c c.softDelete
      | none => .failed

/-- The next statement of a request. Source: `process_swipe`, `unlock_door` and `_drive_unlock`
(`server/service/access_control.py:64`). -/
def exec (s : AccessStore) (t : AccessThread) (e : AccessEnv) : AccessStore × AccessThread :=
  let s := { s with now := e.now }
  match t with
  | .start r => (s, if e.raises then .failed else select hashPin collate s r e)
  | .drive o =>
    let r := Access.drive o.door "unlock" o.door.unlockSeconds e.http
    ({ s with
        drives := ⟨o.door.id, o.decision.credential.map (·.id), r.1, r.2, e.now⟩ :: s.drives },
      -- the door is marked only if the relay was driven; a driver that raises is logged
      if r.2 = .ok then .mark o else .record o)
  | .mark o =>
    if e.raises then (s, .failed)
    else (s.modifyDoor o.door.id (·.markUnlocked e.now), .record o)
  | .record o =>
    if e.raises then (s, .failed)
    else
      let ev := o.event e
      ({ s with events := ev :: s.events },
        if o.card.isSome then .raising o ev else .done (some ev))
  | .raising o ev =>
    match o.door.cameraId.filter (· ≠ 0) with
    | some camera =>
      (if e.pipeline then { s with raised := raiseEvent o ev camera :: s.raised } else s,
        .done (some ev))
    | none => (s, .done (some ev))
  | .insertDoor data =>
    match Door.create e.id data with
    | some door =>
      if e.raises then (s, .failed) else ({ s with doors := s.doors ++ [door] }, .done none)
    | none => (s, .failed)
  | .writeDoor seen new =>
    if e.raises then (s, .failed)
    else (s.modifyDoor seen.id (seen.writeBack new), .done none)
  | .insertCredential data holder =>
    if e.raises then (s, .failed)
    else ({ s with credentials := s.credentials ++ [Credential.create hashPin e.id data holder] },
      .done none)
  | .writeCredential seen new =>
    if e.raises then (s, .failed)
    else (s.modifyCredential seen.id (seen.writeBack new), .done none)
  | .done ev => (s, .done ev)
  | .failed => (s, .failed)

end

abbrev AccessPool := Pool AccessStore AccessThread

abbrev AccessAct := PoolAct AccessRequest AccessEnv

namespace AccessPool

/-- One action of the scheduler. -/
def step (hashPin collate : String → String) (p : AccessPool) (a : AccessAct) : AccessPool :=
  Pool.step AccessThread.start (exec hashPin collate) p a

/-- Empty tables, and no requests. -/
def start (now : Int) : AccessPool := ⟨⟨now, [], [], [], [], []⟩, []⟩

/-- The clock does not go back, and the id of a statement is not the id of a row. -/
def sound (p : AccessPool) : AccessAct → Bool
  | .spawn _ => true
  | .exec _ e => decide (p.shared.now ≤ e.now) && p.shared.doors.all (fun d => d.id != e.id) &&
      p.shared.credentials.all fun c => c.id != e.id

end AccessPool

end AeroXProtect.Access
