import AeroXProtect.External.Deliver

/-!
# What a token delegates

A token reads with the rights of nobody: its scopes and its list of cameras are all that is checked
when it is used. So what it may do has to be checked when it is created, and for the scopes it is: a
scope of a new token is a right of its creator (`has_of_scope`). The list of cameras is not looked
at, and a token without one reaches all cameras. `delegates_iff` says that this is the only way a
token reads more than its creator may, and `unscoped_token` is a token that does.
-/

open Lib

namespace AeroXProtect

open PermissionService

/-- The routes that read something for a bearer. -/
inductive ExtRoute
  | listEvents | getEvent | stream | subscriptions | state | cameras
  deriving DecidableEq, Repr

namespace ExtRoute

/-- The scope a route asks for. Source: `api_token_required` of the routes
(`server/view/api/external.py`). -/
def scope : ExtRoute → String × String
  | .listEvents | .getEvent | .stream | .subscriptions => ("events", "read")
  | .state => ("state", "read")
  | .cameras => ("cameras", "read")

/-- With the tables `db` the route shows something of the camera to a bearer of the token: an event
of it, or its state. -/
def Shows (cfg : ExternalConfig) (db : ExternalDb) (tok : ApiToken) (c : CameraView) :
    ExtRoute → Prop
  | .listEvents => ∃ args total items, db.listEvents? cfg tok args = some (total, items) ∧
      ∃ d ∈ items, d.cameraId = toString c.id
  | .getEvent => ∃ id d, db.getEvent? tok id = some (.found d) ∧ d.cameraId = toString c.id
  | .stream => ∃ texts last items, db.streamBatch? cfg tok texts last = some items ∧
      ∃ d ∈ items, d.cameraId = toString c.id
  | .subscriptions => db.tokens.get? tok.id = some tok ∧ ∃ now payload,
      (payload.get? "camera_id").bind Json.toInt? = some (c.id : Int) ∧
      ∃ hook ∈ db.deliverSubscriptions cfg now payload, hook.apiTokenId = some tok.id
  | .state | .cameras => ∃ now cams version time,
      db.state? cfg tok now = some (cams, version, time) ∧ ∃ d ∈ cams, d.uuid = c.uuid

end ExtRoute

/-- The route reads no more of the cameras of a system for a bearer of the token than the user may:
whatever the events, tokens and subscriptions are, the user has the right the route stands for, and
may view each camera the route shows. -/
def DelegatesOwn (cfg : ExternalConfig) (cameras : CameraViews) (tok : ApiToken) (user : Holder) :
    Prop :=
  ∀ route : ExtRoute, tok.hasScope? route.scope.1 route.scope.2 = some true →
    has? user route.scope.1 (.str route.scope.2) = some true ∧
    ∀ db : ExternalDb, db.cameras = cameras → ∀ c ∈ cameras, route.Shows cfg db tok c →
      hasCameraScope? user c.uuid "view" = some true

/-- The user may view every camera that the token reaches: with a scope for events every camera of
the list, with a scope for states those that are enabled. -/
def CamerasHeld (cameras : CameraViews) (tok : ApiToken) (user : Holder) : Prop :=
  ∀ c ∈ cameras, tok.admits (c.id : Int) = true →
    (tok.hasScope? "events" "read" = some true ∨
      (tok.hasScope? "state" "read" = some true ∨ tok.hasScope? "cameras" "read" = some true) ∧
        c.deletedAt = none ∧ c.isEnabled = true) →
    hasCameraScope? user c.uuid "view" = some true

section
variable {cfg : ExternalConfig} {db : ExternalDb} {tok : ApiToken} {c : CameraView}

/-! ## What the routes show -/

/-- An event on a page of a query with the cameras of the token is of a camera the token reaches. -/
theorem admits_of_page {allowed : Option (List Int)} {requested : List Int} {types : List String}
    {start stop : Option Int} {page itemsPerPage : Nat} {ascending : Bool} {d : EventDto}
    (hallowed : tok.allowedCameraIds? = some allowed)
    (hne : ¬ (allowed.isSome && (scopedCameraIds allowed requested).isEmpty) = true)
    (hd : d ∈ (db.events.getList ⟨scopedCameraIds allowed requested, types, start, stop⟩ page
      itemsPerPage ascending).2.map StoredEvent.toDict)
    (hid : d.cameraId = toString c.id) : tok.admits (c.id : Int) = true := by
  obtain ⟨e, he, rfl⟩ := List.mem_map.1 hd
  have hadm := admits_of_selects hallowed hne (mem_getList he).2
  rwa [toString_nat_inj.1 hid] at hadm

theorem admits_of_listEvents {args : EventArgs} {total : Nat} {items : List EventDto} {d : EventDto}
    (h : db.listEvents? cfg tok args = some (total, items)) (hd : d ∈ items)
    (hid : d.cameraId = toString c.id) : tok.admits (c.id : Int) = true := by
  obtain ⟨requested, -, h⟩ := Option.bind_eq_some_iff.1 h
  obtain ⟨allowed, hallowed, h⟩ := Option.bind_eq_some_iff.1 h
  dsimp only at h
  split at h
  · cases h
    cases hd
  · next hne =>
    obtain ⟨page, -, h⟩ := Option.bind_eq_some_iff.1 h
    obtain ⟨itemsPerPage, -, h⟩ := Option.bind_eq_some_iff.1 h
    cases h
    exact admits_of_page hallowed hne hd hid

theorem admits_of_getEvent {id : Nat} {d : EventDto} (h : db.getEvent? tok id = some (.found d))
    (hid : d.cameraId = toString c.id) : tok.admits (c.id : Int) = true := by
  unfold ExternalDb.getEvent? at h
  split at h
  · cases h
  · next e he =>
    obtain ⟨allowed, hallowed, h⟩ := Option.map_eq_some_iff.1 h
    split at h
    · next hin =>
      cases h
      rw [← toString_nat_inj.1 hid]
      exact ApiToken.admits_iff.2 ⟨allowed, hallowed, hin⟩
    · cases h

theorem admits_of_streamBatch {texts : List String} {last : Int} {items : List EventDto}
    {d : EventDto} (h : db.streamBatch? cfg tok texts last = some items) (hd : d ∈ items)
    (hid : d.cameraId = toString c.id) : tok.admits (c.id : Int) = true := by
  obtain ⟨requested, -, h⟩ := Option.bind_eq_some_iff.1 h
  obtain ⟨allowed, hallowed, h⟩ := Option.bind_eq_some_iff.1 h
  dsimp only at h
  split at h
  · cases h
    cases hd
  · next hne =>
    cases h
    exact admits_of_page hallowed hne hd hid

theorem admits_of_covers {now : Int} {cameraId : Json} {n : Int}
    (h : tok.covers? now cameraId = some true) (hid : cameraId.toInt? = some n) :
    tok.admits n = true := by
  unfold ApiToken.covers? at h
  split at h
  · cases h
  · obtain ⟨allowed, hallowed, h⟩ := Option.map_eq_some_iff.1 h
    refine ApiToken.admits_iff.2 ⟨allowed, hallowed, ?_⟩
    cases allowed with
    | none => rfl
    | some ids =>
      dsimp only at h
      rw [hid, Option.any_some, Bool.or_eq_true, decide_eq_true_eq] at h
      rcases h with hnull | hin
      · rw [hnull] at hid
        cases hid
      · exact hin

theorem admits_of_deliver {now : Int} {payload : Json} {hook : WebhookEndpoint}
    (htok : db.tokens.get? tok.id = some tok) (hown : hook.apiTokenId = some tok.id)
    (h : hook ∈ db.deliverSubscriptions cfg now payload)
    (hid : (payload.get? "camera_id").bind Json.toInt? = some (c.id : Int)) :
    tok.admits (c.id : Int) = true := by
  obtain ⟨cameraId, hcam, hint⟩ := Option.bind_eq_some_iff.1 hid
  unfold ExternalDb.deliverSubscriptions at h
  split at h
  · have hserve := (Fanout.mem_of_mem_served h).2
    have hcov := serve_of_own htok hown hserve
    rw [hcam, Option.getD_some] at hcov
    exact admits_of_covers hcov hint
  · cases h

/-- The cameras of a state are enabled cameras that the token reaches. -/
theorem mem_of_state {now time : Int} {cams : List CameraDto} {version : String} {d : CameraDto}
    (h : db.state? cfg tok now = some (cams, version, time)) (hd : d ∈ cams) :
    ∃ c ∈ db.cameras, tok.admits (c.id : Int) = true ∧ c.deletedAt = none ∧ c.isEnabled = true ∧
      c.uuid = d.uuid := by
  obtain ⟨allowed, hallowed, h⟩ := Option.map_eq_some_iff.1 h
  cases h
  obtain ⟨c, hc, rfl⟩ := List.mem_map.1 hd
  obtain ⟨hc, hin⟩ := List.mem_filter.1 hc
  obtain ⟨hmem, hen⟩ := List.mem_filter.1 hc
  rw [Bool.and_eq_true, Option.isNone_iff_eq_none] at hen
  exact ⟨c, hmem, ApiToken.admits_iff.2 ⟨allowed, hallowed, hin⟩, hen.1, hen.2, rfl⟩

/-- What a route shows is of a camera that the token reaches; a state is of an enabled camera. -/
theorem reached_of_shows {route : ExtRoute} (hc : c ∈ db.cameras) (h : route.Shows cfg db tok c) :
    ∃ c' ∈ db.cameras, c'.uuid = c.uuid ∧ tok.admits (c'.id : Int) = true ∧
      (route.scope = ("events", "read") ∨ c'.deletedAt = none ∧ c'.isEnabled = true) := by
  have hstate : (∃ now cams version time, db.state? cfg tok now = some (cams, version, time) ∧
      ∃ d ∈ cams, d.uuid = c.uuid) → ∃ c' ∈ db.cameras, c'.uuid = c.uuid ∧
        tok.admits (c'.id : Int) = true ∧ c'.deletedAt = none ∧ c'.isEnabled = true := by
    rintro ⟨now, cams, version, time, hans, d, hd, huuid⟩
    obtain ⟨c', hc', hadm, hdel, hen, huuid'⟩ := mem_of_state hans hd
    exact ⟨c', hc', huuid'.trans huuid, hadm, hdel, hen⟩
  cases route with
  | listEvents =>
    obtain ⟨args, total, items, hans, d, hd, hid⟩ := h
    exact ⟨c, hc, rfl, admits_of_listEvents hans hd hid, .inl rfl⟩
  | getEvent =>
    obtain ⟨id, d, hans, hid⟩ := h
    exact ⟨c, hc, rfl, admits_of_getEvent hans hid, .inl rfl⟩
  | stream =>
    obtain ⟨texts, last, items, hans, d, hd, hid⟩ := h
    exact ⟨c, hc, rfl, admits_of_streamBatch hans hd hid, .inl rfl⟩
  | subscriptions =>
    obtain ⟨htok, now, payload, hid, hook, hmem, hhook⟩ := h
    exact ⟨c, hc, rfl, admits_of_deliver htok hhook hmem hid, .inl rfl⟩
  | state =>
    obtain ⟨c', hc', huuid, hadm, hon⟩ := hstate h
    exact ⟨c', hc', huuid, hadm, .inr hon⟩
  | cameras =>
    obtain ⟨c', hc', huuid, hadm, hon⟩ := hstate h
    exact ⟨c', hc', huuid, hadm, .inr hon⟩

/-! ## What was checked -/

/-- The scopes of a new token are lists of rights of its creator. -/
theorem createApiToken_eq_ok {actor : Holder} {actorId id : Nat} {uuid tokenHash : String}
    {data : Json} (h : createApiToken actor actorId id uuid tokenHash data = .ok tok) :
    ∃ scopes, tok.scopes = .obj scopes ∧ scopes ≠ [] ∧
      ∀ entry ∈ scopes, checkScope actor entry = .ok () := by
  obtain ⟨⟨name, sc, ids, exp⟩, hcheck, h⟩ := bind_eq_ok.1 h
  cases h
  unfold checkToken at hcheck
  split at hcheck
  · next fields =>
    dsimp only at hcheck
    split at hcheck
    · cases hcheck
    · split at hcheck
      · cases hcheck
      · next scopes hne heq =>
        obtain ⟨⟨⟩, hforM, hcheck⟩ := bind_eq_ok.1 hcheck
        split at hcheck
        · cases hcheck
        · cases hcheck
          exact ⟨scopes, rfl, fun hnil => hne (hnil ▸ rfl), forM_eq_ok.1 hforM⟩
      · cases hcheck
  · cases hcheck

/-- What a resource of the scopes has passed. -/
theorem checkScope_eq_ok {actor : Holder} {entry : String × Json}
    (hns : isSuperuser? actor ≠ some true) (h : checkScope actor entry = .ok ()) :
    ∃ actions, entry.2 = .arr actions ∧
      ∀ action ∈ actions, has? actor entry.1 action = some true := by
  unfold checkScope at h
  split at h
  · next actions hactions =>
    refine ⟨actions, hactions, ?_⟩
    split at h
    · split at h
      · cases h
      · next hsup => exact absurd hsup hns
      · intro action ha
        have hone := forM_eq_ok.1 h action ha
        split at hone
        · cases hone
        · next held hheld =>
          cases held with
          | true => exact hheld
          | false => cases hone
    · cases h
  · cases h

/-- A scope of a new token is a right of its creator. -/
theorem has_of_scope {actor : Holder} {actorId id : Nat} {uuid tokenHash : String} {data : Json}
    (hns : isSuperuser? actor ≠ some true)
    (h : createApiToken actor actorId id uuid tokenHash data = .ok tok) {resource action : String}
    (hscope : tok.hasScope? resource action = some true) :
    has? actor resource (.str action) = some true := by
  obtain ⟨scopes, hscopes, hne, hcheck⟩ := createApiToken_eq_ok h
  unfold ApiToken.hasScope? at hscope
  have hor : (Json.obj scopes).or .empty = .obj scopes := by
    cases scopes with
    | nil => exact absurd rfl hne
    | cons => rfl
  rw [hscopes, hor] at hscope
  obtain ⟨x, hx, hscope⟩ := Option.bind_eq_some_iff.1 hscope
  cases hl : scopes.lookup resource with
  | none =>
    have hx' : x = .null := by simpa [Json.get?, Json.getD?, hl] using hx.symm
    subst hx'
    cases hscope
  | some v =>
    have hx' : x = v := by simpa [Json.get?, Json.getD?, hl] using hx.symm
    subst hx'
    obtain ⟨l₁, l₂, hsplit, -⟩ := List.lookup_eq_some_iff.1 hl
    obtain ⟨actions, hactions, hheld⟩ :=
      checkScope_eq_ok hns (hcheck (resource, x) (by simp [hsplit]))
    dsimp only at hactions hheld
    subst hactions
    have hlist : (Json.arr actions).or (.arr []) = .arr actions := by
      cases actions <;> rfl
    rw [hlist] at hscope
    have hmem : .str action ∈ actions ∨ .str "*" ∈ actions := by
      simpa [Json.contains?] using hscope
    rcases hmem with hmem | hmem
    · exact hheld _ hmem
    · exact has?_of_wildcard (.inr rfl) (.inl rfl) (hheld _ hmem)

/-! ## What is reached -/

theorem shows_getEvent {cameras : CameraViews} (h : tok.admits (c.id : Int) = true) :
    ∃ db : ExternalDb, db.cameras = cameras ∧ ExtRoute.getEvent.Shows cfg db tok c := by
  let e : StoredEvent :=
    { id := 0, cameraId := c.id, type := "motion", subtype := none, state := .pulse, startTs := 0,
      endTs := none, durationMs := none, score := none, source := "camera", channel := none,
      recordingId := none, policyAction := none, dedupKey := "", vendorEventId := none,
      deletedAt := none, region := .null, createdAt := 0 }
  obtain ⟨allowed, hallowed, hin⟩ := ApiToken.admits_iff.1 h
  refine ⟨⟨cameras, ⟨[e], List.nodup_singleton _⟩, ∅, ∅⟩, rfl, 0, e.toDict, ?_, rfl⟩
  have hget : StoredEvents.getById ⟨[e], List.nodup_singleton _⟩ 0 = some e := rfl
  unfold ExternalDb.getEvent?
  dsimp only
  rw [hget, hallowed]
  exact congrArg some (if_pos hin)

theorem shows_state {cameras : CameraViews} (hc : c ∈ cameras)
    (h : tok.admits (c.id : Int) = true) (hdel : c.deletedAt = none) (hen : c.isEnabled = true) :
    ∃ db : ExternalDb, db.cameras = cameras ∧ ∃ now cams version time,
      db.state? cfg tok now = some (cams, version, time) ∧ ∃ d ∈ cams, d.uuid = c.uuid := by
  obtain ⟨allowed, hallowed, hin⟩ := ApiToken.admits_iff.1 h
  refine ⟨⟨cameras, ∅, ∅, ∅⟩, rfl, 0, _, _, _, congrArg _ hallowed, c.toState, ?_, rfl⟩
  refine List.mem_map.2 ⟨c, List.mem_filter.2 ⟨List.mem_filter.2 ⟨hc, ?_⟩, hin⟩, rfl⟩
  rw [hdel, hen]
  rfl

end

/-- **A token delegates its creator's rights.** A token that a user who is not a superuser was
allowed to create reads no more than the user may, over every route of the external API and on every
camera of the system, if and only if the user may view every camera that the list of the token
reaches. -/
theorem delegates_iff (cfg : ExternalConfig) (cameras : CameraViews) {actor : Holder}
    {actorId id : Nat} {uuid tokenHash : String} {data : Json} {tok : ApiToken}
    (hns : isSuperuser? actor ≠ some true)
    (h : createApiToken actor actorId id uuid tokenHash data = .ok tok) :
    DelegatesOwn cfg cameras tok actor ↔ CamerasHeld cameras tok actor := by
  constructor
  · intro hown c hc hadm hscope
    rcases hscope with hev | ⟨hst | hca, hdel, hen⟩
    · have hreach : ∃ db : ExternalDb, db.cameras = cameras ∧
          ExtRoute.getEvent.Shows cfg db tok c := shows_getEvent hadm
      obtain ⟨db, hdb, hshow⟩ := hreach
      exact (hown .getEvent hev).2 db hdb c hc hshow
    · obtain ⟨db, hdb, hshow⟩ := shows_state hc hadm hdel hen
      exact (hown .state hst).2 db hdb c hc hshow
    · obtain ⟨db, hdb, hshow⟩ := shows_state hc hadm hdel hen
      exact (hown .cameras hca).2 db hdb c hc hshow
  · intro hheld route hscope
    refine ⟨has_of_scope hns h hscope, ?_⟩
    rintro db rfl c hc hshow
    obtain ⟨c', hc', huuid, hadm, hkind⟩ := reached_of_shows hc hshow
    rw [← huuid]
    refine hheld c' hc' hadm ?_
    cases route with
    | listEvents => exact .inl hscope
    | getEvent => exact .inl hscope
    | stream => exact .inl hscope
    | subscriptions => exact .inl hscope
    | state => exact .inr ⟨.inl hscope, hkind.resolve_left (by decide)⟩
    | cameras => exact .inr ⟨.inr hscope, hkind.resolve_left (by decide)⟩

namespace DelegateFixture

def camera (id : Nat) (uuid : String) : CameraView :=
  { id, uuid, name := uuid, isEnabled := true, deletedAt := none, status := "online" }

/-- Two cameras. -/
def cameras : CameraViews := ⟨[camera 1 "lobby", camera 2 "vault"], by decide⟩

/-- An integrator may read events and sees the lobby. -/
def integrator : Holder :=
  ⟨.null, .obj [("events", .arr [.str "read"]), ("api_tokens", .arr [.str "manage"]),
    ("camera_scope", .obj [("lobby", .arr [.str "view"])])]⟩

/-- A request for a token, with a list of cameras. -/
def request (cameraIds : Json) : Json :=
  .obj [("name", .str "ha"), ("scopes", .obj [("events", .arr [.str "read"])]),
    ("camera_ids", cameraIds)]

/-- The token that is created for it. -/
def token (cameraIds : Json) : ApiToken :=
  { id := 9, uuid := "t9", name := .str "ha", tokenHash := "h9",
    scopes := .obj [("events", .arr [.str "read"])], cameraIds, expiresAt := none,
    revokedAt := none, createdById := some 3 }

/-- An event in the vault. -/
def event : StoredEvent :=
  { id := 4, cameraId := 2, type := "motion", subtype := none, state := .ended, startTs := 1000000,
    endTs := none, durationMs := none, score := none, source := "camera", channel := none,
    recordingId := none, policyAction := none, dedupKey := "k", vendorEventId := none,
    deletedAt := none, region := .null, createdAt := 1000000 }

def db : ExternalDb := ⟨cameras, ⟨[event], List.nodup_singleton _⟩, ∅, ∅⟩

end DelegateFixture

section
open DelegateFixture ExternalFixture

/-- A token for the camera its creator sees reads its events, and nothing the creator may not. -/
theorem delegates_fixture : createApiToken integrator 3 9 "t9" "h9" (request (.arr [.str "1"])) =
      .ok (token (.arr [.str "1"])) ∧
    (token (.arr [.str "1"])).admits 1 = true ∧
    DelegatesOwn config cameras (token (.arr [.str "1"])) integrator := by
  have hcreate : createApiToken integrator 3 9 "t9" "h9" (request (.arr [.str "1"])) =
      .ok (token (.arr [.str "1"])) := by decide +kernel
  refine ⟨hcreate, by decide +kernel, ?_⟩
  refine (delegates_iff config cameras (by decide +kernel) hcreate).2 ?_
  unfold CamerasHeld
  decide +kernel

/-- A token without a list of cameras, and one with an empty list, reads an event of a camera that
its creator may not view. -/
theorem unscoped_token : isSuperuser? integrator = some false ∧
    hasCameraScope? integrator "vault" "view" = some false ∧
    ∀ ids ∈ [Json.null, .arr []],
      createApiToken integrator 3 9 "t9" "h9" (request ids) = .ok (token ids) ∧
      db.getEvent? (token ids) 4 = some (.found event.toDict) ∧
      ¬ DelegatesOwn config cameras (token ids) integrator := by
  have hfacts : ∀ ids ∈ [Json.null, .arr []],
      createApiToken integrator 3 9 "t9" "h9" (request ids) = .ok (token ids) ∧
      db.getEvent? (token ids) 4 = some (.found event.toDict) ∧
      (token ids).hasScope? "events" "read" = some true := by decide +kernel
  have hdenied : hasCameraScope? integrator "vault" "view" = some false := by decide +kernel
  refine ⟨by decide +kernel, hdenied, fun ids hids => ?_⟩
  obtain ⟨hcreate, hget, hscope⟩ := hfacts ids hids
  refine ⟨hcreate, hget, fun h => ?_⟩
  have hview := (h .getEvent hscope).2 db rfl (camera 2 "vault") (by decide) ⟨4, _, hget, rfl⟩
  change hasCameraScope? integrator "vault" "view" = some true at hview
  rw [hdenied] at hview
  cases hview

end

end AeroXProtect
