import AeroXProtect.Camera
import AeroXProtect.Event.Tables
import AeroXProtect.Admin.Permission
import AeroXProtect.Lib.Script

/-!
# The external API

Opaque tokens for other programs: who may create one, and what a bearer reads with it. A token has
scopes, a map of actions under resources, and a list of camera ids, both stored as they came;
without a list it reaches all cameras. The routes answer events and the state of cameras, and a
subscription has events delivered to a webhook. `none` is an exception. `str(x)`, `str.isdigit`,
`float(s)` and the delivery over the network are parameters. The touch of a token, its rate limit
and the columns of a webhook that only the delivery reads are left out.
-/

open Lib

namespace AeroXProtect

open PermissionService

/-! ## Rows -/

/-- A row of `cameras`, with the status that the API shows. -/
structure CameraView extends Camera where
  status : String
  deriving DecidableEq, Repr

abbrev CameraViews := Table fun c : CameraView => c.id

/-- A row of `events`, with the columns that the API shows. -/
structure StoredEvent extends Event where
  region : Json
  createdAt : Int
  deriving DecidableEq, Repr

abbrev StoredEvents := Table fun e : StoredEvent => e.id

/-- A row of `api_tokens`. -/
structure ApiToken where
  id : Nat
  uuid : String
  name : Json
  tokenHash : String
  scopes : Json
  cameraIds : Json
  expiresAt : Option Int
  revokedAt : Option Int
  createdById : Option Nat
  deriving DecidableEq, Repr

abbrev ApiTokens := Table ApiToken.id

/-- A row of `webhook_endpoints`. `isSubscription` is `purpose == 'subscription'`. -/
structure WebhookEndpoint where
  id : Nat
  url : Json
  isSubscription : Bool
  subscriptionFilter : Json
  apiTokenId : Option Nat
  enabled : Bool
  deletedAt : Option Int
  deriving DecidableEq, Repr

abbrev WebhookEndpoints := Table WebhookEndpoint.id

/-- The tables of the external API. -/
structure ExternalDb where
  cameras : CameraViews
  events : StoredEvents
  tokens : ApiTokens
  hooks : WebhookEndpoints

/-- The settings, and what the code takes from the language and the network. `floatText` is
`int(float(s))`, `none` when it raises and `some none` when `s` is not a number; `delivers` says
whether a delivery returns. -/
structure ExternalConfig where
  str : Json → String
  isdigit : Char → Bool
  floatText : String → Option (Option Int)
  delivers : WebhookEndpoint → Json → Bool
  version : String

/-! ## Tokens -/

namespace ApiToken

/-- Source: `ApiToken.is_valid` (`server/model/api_token.py:77`). -/
def isValid (t : ApiToken) (now : Int) : Bool :=
  t.revokedAt.isNone && t.expiresAt.all fun e => decide (now < e)

/-- Source: `ApiToken.has_scope` (`server/model/api_token.py:91`). -/
def hasScope? (t : ApiToken) (resource action : String) : Option Bool :=
  ((t.scopes.or .empty).get? resource).bind fun x =>
    match (x.or (.arr [])).contains? action, (x.or (.arr [])).contains? "*" with
    | some a, some star => some (a || star)
    | _, _ => none

/-- Source: `allowed_camera_ids` (`server/service/api_token.py:29`). -/
def allowedCameraIds? (t : ApiToken) : Option (Option (List Int)) :=
  if !t.cameraIds.truthy then some none
  else t.cameraIds.iter?.map fun items => some (items.filterMap Json.toInt?)

/-- The token reaches the camera. -/
def admits (t : ApiToken) (cameraId : Int) : Bool :=
  t.allowedCameraIds?.any fun allowed => allowed.all fun ids => ids.contains cameraId

end ApiToken

/-- Why a token is not created. -/
inductive TokenRefusal
  | nameRequired | scopesRequired | invalidShape | noPermission | raised
  deriving DecidableEq, Repr

/-- One resource of the scopes of a new token. -/
def checkScope (actor : Holder) (entry : String × Json) : Except TokenRefusal Unit :=
  match entry.2 with
  | .arr actions =>
    if actions.all fun x => x matches .str _ then
      match isSuperuser? actor with
      | none => .error .raised
      | some true => .ok ()
      | some false => actions.forM fun action =>
          match has? actor entry.1 action with
          | none => .error .raised
          | some held => if held then .ok () else .error .noPermission
    else .error .invalidShape
  | _ => .error .invalidShape

/-- The expiry of a new token; `none` when the time is out of range. -/
def expiryOf? (x : Json) : Option (Option Int) :=
  if !x.truthy then some none
  else
    x.toInt?.bind fun ms =>
      if -62135596800000 ≤ ms ∧ ms < 253402300800000 then some (some (ms * 1000)) else none

/-- The checks of a new token: its name, scopes, camera ids and expiry. -/
def checkToken (actor : Holder) (data : Json) :
    Except TokenRefusal (Json × Json × Json × Option Int) := do
  match data with
  | .obj fields =>
    let field (k : String) : Json := (fields.lookup k).getD .null
    if !(field "name").truthy then .error .nameRequired
    else
      match (field "scopes").or .empty with
      | .obj [] => .error .scopesRequired
      | .obj scopes =>
        scopes.forM (checkScope actor)
        match expiryOf? (field "expires_at") with
        | none => .error .raised
        | some expiresAt => .ok (field "name", .obj scopes, field "camera_ids", expiresAt)
      | _ => .error .scopesRequired
  | _ => .error .raised

/-- Source: `ApiTokenController.create` (`server/controller/api_token.py:15`). The id, the uuid and
the hash of the new token are given. -/
def createApiToken (actor : Holder) (actorId id : Nat) (uuid tokenHash : String) (data : Json) :
    Except TokenRefusal ApiToken := do
  let (name, scopes, cameraIds, expiresAt) ← checkToken actor data
  .ok { id, uuid, name, tokenHash, scopes, cameraIds, expiresAt, revokedAt := none,
        createdById := some actorId }

/-! ## Events and cameras -/

/-- `to_epoch_ms`. -/
def toEpochMs (t : Int) : Int := t.tdiv 1000

/-- What the API shows of an event. -/
structure EventDto where
  id : String
  cameraId : String
  type : String
  subtype : Option String
  state : EventState
  startTs : Int
  endTs : Option Int
  durationMs : Option Int
  score : Option Int
  source : String
  channel : Option Int
  region : Json
  recordingId : Option String
  policyAction : Option PolicyAction
  createdAt : Int
  deriving DecidableEq, Repr

/-- Source: `Event.to_dict` (`server/model/event.py:156`). -/
def StoredEvent.toDict (e : StoredEvent) : EventDto :=
  { id := toString e.id, cameraId := toString e.cameraId, type := e.type, subtype := e.subtype,
    state := e.state, startTs := toEpochMs e.startTs, endTs := e.endTs.map toEpochMs,
    durationMs := e.durationMs, score := e.score, source := e.source, channel := e.channel,
    region := e.region, recordingId := e.recordingId.map toString, policyAction := e.policyAction,
    createdAt := toEpochMs e.createdAt }

/-- The conditions of a query for events. An empty list of cameras or types is no condition. -/
structure EventQuery where
  cameraIds : List Int
  types : List String
  start : Option Int
  stop : Option Int

/-- The event passes the conditions. -/
def EventQuery.selects (q : EventQuery) (e : StoredEvent) : Bool :=
  e.deletedAt.isNone && (q.cameraIds.isEmpty || q.cameraIds.contains (e.cameraId : Int)) &&
    (q.types.isEmpty || q.types.contains e.type) && (q.start.all fun t => decide (t ≤ e.startTs)) &&
    q.stop.all fun t => decide (e.startTs ≤ t)

/-- Source: `Event.get_list` (`server/model/event.py:83`), for the conditions the API uses. -/
def StoredEvents.getList (t : StoredEvents) (q : EventQuery) (page itemsPerPage : Nat)
    (ascending : Bool) : Nat × List StoredEvent :=
  let rows := t.rows.filter q.selects
  let sorted := orderBy (fun e : StoredEvent => if ascending then e.startTs else -e.startTs) rows
  (rows.length, (sorted.drop ((page - 1) * itemsPerPage)).take itemsPerPage)

/-- Source: `Event.get_by_id` (`server/model/event.py:62`). -/
def StoredEvents.getById (t : StoredEvents) (id : Nat) : Option StoredEvent :=
  t.rows.find? fun e => e.id == id && e.deletedAt.isNone

/-- Source: `Camera.get_all_enabled` (`server/model/camera.py:129`). -/
def CameraViews.getAllEnabled (t : CameraViews) : List CameraView :=
  t.rows.filter fun c => c.deletedAt.isNone && c.isEnabled

/-! ## Routes -/

/-- The arguments of a request for events. -/
structure EventArgs where
  cameraId : List String
  type : List String
  fromMs : Option String
  toMs : Option String
  page : Option String
  itemsPerPage : Option String

/-- Source: `_parse_ms` (`server/controller/external.py:15`). -/
def parseMs (value : Option String) : Option Int :=
  value.bind fun s => if s = "" then none else
    (parseInt s.toList).bind fun ms =>
      if -62135596800000 ≤ ms ∧ ms < 253402300800000 then some (ms * 1000) else none

/-- Source: `safe_int` (`server/util/tool.py:1`). -/
def safeInt? (cfg : ExternalConfig) (value : Option String) (dflt : Int) : Option Int :=
  match value with
  | none => some dflt
  | some s =>
    if s = "" then some dflt
    else
      match parseInt s.toList with
      | some n => some n
      | none => (cfg.floatText s).map fun n => n.getD dflt

/-- `[int(c) for c in args.getlist('camera_id') if c.isdigit()]`. -/
def requestedIds? (cfg : ExternalConfig) (texts : List String) : Option (List Int) :=
  (texts.filter fun s => !s.isEmpty && s.toList.all cfg.isdigit).mapM fun s => parseInt s.toList

/-- Source: `_scoped_camera_ids` (`server/controller/external.py:24`). -/
def scopedCameraIds (allowed : Option (List Int)) (requested : List Int) : List Int :=
  match allowed with
  | none => requested
  | some ids => if requested.isEmpty then ids else requested.filter ids.contains

/-- Source: `ExternalController.list_events` (`server/controller/external.py:33`). -/
def ExternalDb.listEvents? (cfg : ExternalConfig) (db : ExternalDb) (tok : ApiToken)
    (args : EventArgs) : Option (Nat × List EventDto) := do
  let requested ← requestedIds? cfg args.cameraId
  let allowed ← tok.allowedCameraIds?
  let cameraIds := scopedCameraIds allowed requested
  if allowed.isSome && cameraIds.isEmpty then some (0, [])
  else
    let page ← safeInt? cfg args.page 1
    let itemsPerPage ← safeInt? cfg args.itemsPerPage 50
    let (total, rows) := db.events.getList
      ⟨cameraIds, args.type, parseMs args.fromMs, parseMs args.toMs⟩
      (max 1 page).toNat (min 200 (max 1 itemsPerPage)).toNat false
    some (total, rows.map StoredEvent.toDict)

/-- One round of the stream of events that started since `last`. Source: `stream`
(`server/view/api/external.py:65`). -/
def ExternalDb.streamBatch? (cfg : ExternalConfig) (db : ExternalDb) (tok : ApiToken)
    (texts : List String) (last : Int) : Option (List EventDto) := do
  let requested ← requestedIds? cfg texts
  let allowed ← tok.allowedCameraIds?
  let cameraIds := scopedCameraIds allowed requested
  if allowed.isSome && cameraIds.isEmpty then some []
  else
    some ((db.events.getList ⟨cameraIds, [], some last, none⟩ 1 20 true).2.map StoredEvent.toDict)

/-- The answer to a request for one event. -/
inductive EventAnswer
  | found (e : EventDto)
  | notFound
  deriving DecidableEq, Repr

/-- Source: `ExternalController.get_event` (`server/controller/external.py:47`). -/
def ExternalDb.getEvent? (db : ExternalDb) (tok : ApiToken) (id : Nat) : Option EventAnswer :=
  match db.events.getById id with
  | none => some .notFound
  | some e =>
    tok.allowedCameraIds?.map fun allowed =>
      if allowed.all fun ids => ids.contains (e.cameraId : Int) then .found e.toDict else .notFound

/-- What the API shows of a camera. -/
structure CameraDto where
  uuid : String
  name : String
  online : Bool
  status : String
  deriving DecidableEq, Repr

/-- What the API shows of a camera's state. -/
def CameraView.toState (c : CameraView) : CameraDto :=
  { uuid := c.uuid, name := c.name, online := c.status == "online", status := c.status }

/-- Source: `ExternalController.state` (`server/controller/external.py:57`): the cameras, and the
version and the time of the server. -/
def ExternalDb.state? (cfg : ExternalConfig) (db : ExternalDb) (tok : ApiToken) (now : Int) :
    Option (List CameraDto × String × Int) :=
  tok.allowedCameraIds?.map fun allowed =>
    ((db.cameras.getAllEnabled.filter fun c =>
        allowed.all fun ids => ids.contains (c.id : Int)).map CameraView.toState,
      cfg.version, toEpochMs now)

/-! ## What is selected -/

theorem ApiToken.admits_iff {t : ApiToken} {cameraId : Int} : t.admits cameraId = true ↔
    ∃ allowed, t.allowedCameraIds? = some allowed ∧
      (allowed.all fun ids => ids.contains cameraId) = true := by
  unfold ApiToken.admits
  rw [Option.any_eq_true]

/-- A query with the cameras of a token selects only events of cameras the token reaches, unless the
list of cameras is empty. -/
theorem admits_of_selects {tok : ApiToken} {allowed : Option (List Int)} {requested : List Int}
    {types : List String} {start stop : Option Int} {e : StoredEvent}
    (hallowed : tok.allowedCameraIds? = some allowed)
    (hne : ¬ (allowed.isSome && (scopedCameraIds allowed requested).isEmpty) = true)
    (h : EventQuery.selects ⟨scopedCameraIds allowed requested, types, start, stop⟩ e = true) :
    tok.admits (e.cameraId : Int) = true := by
  refine ApiToken.admits_iff.2 ⟨allowed, hallowed, ?_⟩
  cases allowed with
  | none => rfl
  | some ids =>
    rw [Option.isSome_some, Bool.true_and] at hne
    rw [EventQuery.selects, Bool.and_eq_true, Bool.and_eq_true, Bool.and_eq_true, Bool.and_eq_true,
      Bool.or_eq_true] at h
    have hmem : (e.cameraId : Int) ∈ scopedCameraIds (some ids) requested := by
      simpa using h.1.1.1.2.resolve_left hne
    unfold scopedCameraIds at hmem
    dsimp only at hmem
    split at hmem
    · simpa using hmem
    · exact (List.mem_filter.1 hmem).2

/-- An event on a page was selected. -/
theorem mem_getList {t : StoredEvents} {q : EventQuery} {page itemsPerPage : Nat} {ascending : Bool}
    {e : StoredEvent} (h : e ∈ (t.getList q page itemsPerPage ascending).2) :
    e ∈ t ∧ q.selects e = true := by
  have hmem := List.mem_of_mem_drop (List.mem_of_mem_take h)
  rw [mem_orderBy] at hmem
  exact List.mem_filter.1 hmem

namespace ExternalFixture

/-- `str(x)` of a text and of an integer. -/
def str : Json → String
  | .str s => s
  | .num q => toString q.num
  | _ => ""

/-- Settings for the fixtures: every delivery returns. -/
def config : ExternalConfig :=
  { str, isdigit := Char.isDigit, floatText := fun _ => some none, delivers := fun _ _ => true,
    version := "5" }

end ExternalFixture

end AeroXProtect
