import AeroXProtect.External.Deliver

/-!
# What a scoped token learns

A token with a list of cameras, and two systems that differ only outside of it (`Agree`): in the
events of other cameras, the cameras themselves, the other tokens, and the subscriptions that are
not the token's or that let no camera of its list through. The answers to its requests are the same
in both, counts and pages included (`listEvents_eq`, `getEvent_eq`, `state_eq`). An event of a
camera is sent to the same subscriptions of the token except where a foreign subscription raises
before the loop reaches them, and `learnsNothing_iff` says exactly when.
-/

open Lib

namespace AeroXProtect

/-- The payload is an event of a camera. -/
def CameraPayload (payload : Json) : Prop :=
  ∃ cameraId, payload.get? "camera_id" = some cameraId ∧ cameraId ≠ .null

/-- The subscription is the token's, and its filter lets a camera of the token's list through, or
raises. -/
def WebhookEndpoint.InScope (cfg : ExternalConfig) (tok : ApiToken) (hook : WebhookEndpoint) :
    Prop :=
  hook.apiTokenId = some tok.id ∧ ∃ cameraId n, Json.toInt? cameraId = some n ∧
    tok.admits n = true ∧ wantsCamera? cfg (hook.subscriptionFilter.or .empty) cameraId ≠ some false

/-- `InScope`, as a test. -/
noncomputable def inScope (cfg : ExternalConfig) (tok : ApiToken) (hook : WebhookEndpoint) : Bool :=
  @decide (hook.InScope cfg tok) (Classical.propDecidable _)

/-- The two systems agree on the token and on everything inside its list of cameras. -/
structure Agree (cfg : ExternalConfig) (tok : ApiToken) (db db' : ExternalDb) : Prop where
  token : db.tokens.get? tok.id = some tok
  token' : db'.tokens.get? tok.id = some tok
  cameras : (db.cameras.rows.filter fun c => tok.admits (c.id : Int)) =
    db'.cameras.rows.filter fun c => tok.admits (c.id : Int)
  events : (db.events.rows.filter fun e => tok.admits (e.cameraId : Int)) =
    db'.events.rows.filter fun e => tok.admits (e.cameraId : Int)
  hooks : db.hooks.rows.filter (inScope cfg tok) = db'.hooks.rows.filter (inScope cfg tok)

/-- The subscriptions of the token that an event is sent to. -/
def ExternalDb.sentTo (cfg : ExternalConfig) (db : ExternalDb) (tok : ApiToken) (now : Int)
    (payload : Json) : List WebhookEndpoint :=
  (db.deliverSubscriptions cfg now payload).filter fun hook => hook.apiTokenId == some tok.id

/-- A bearer of the token sees no difference between the two systems. -/
structure LearnsNothing (cfg : ExternalConfig) (tok : ApiToken) (db db' : ExternalDb) : Prop where
  listEvents : ∀ args, db.listEvents? cfg tok args = db'.listEvents? cfg tok args
  getEvent : ∀ id, db.getEvent? tok id = db'.getEvent? tok id
  state : ∀ now, db.state? cfg tok now = db'.state? cfg tok now
  sentTo : ∀ now payload, CameraPayload payload →
    db.sentTo cfg tok now payload = db'.sentTo cfg tok now payload

/-- A subscription that is not the token's, or not for its cameras, raises on the event before the
loop reaches `hook`. -/
noncomputable def ExternalDb.blocked (cfg : ExternalConfig) (db : ExternalDb) (tok : ApiToken)
    (now : Int) (payload : Json) (hook : WebhookEndpoint) : Bool :=
  Fanout.blocked (hookResult cfg db.tokens now payload) (inScope cfg tok)
    db.hooks.activeSubscriptions hook

/-- The subscriptions that the event is due for, were those of the token for its cameras the only
ones. -/
noncomputable def ExternalDb.due (cfg : ExternalConfig) (db : ExternalDb) (tok : ApiToken)
    (now : Int) (payload : Json) : List WebhookEndpoint :=
  Fanout.served (hookResult cfg db.tokens now payload)
    (db.hooks.activeSubscriptions.filter (inScope cfg tok))

section
variable {cfg : ExternalConfig} {tok : ApiToken} {db db' : ExternalDb}

/-! ## Requests -/

/-- A query that selects only rows inside the scope finds the same in both tables. -/
theorem filter_eq_of_imp {α : Type} {p scope : α → Bool} {l l' : List α}
    (h : l.filter scope = l'.filter scope) (himp : ∀ x, p x = true → scope x = true) :
    l.filter p = l'.filter p := by
  have hnarrow : ∀ m : List α, m.filter p = (m.filter scope).filter p := by
    intro m
    rw [List.filter_filter]
    refine List.filter_congr fun x _ => ?_
    cases hp : p x with
    | true => rw [himp x hp, Bool.and_self]
    | false => rw [Bool.false_and]
  rw [hnarrow l, hnarrow l', h]

theorem StoredEvents.getList_congr {t t' : StoredEvents} {q : EventQuery}
    (h : t.rows.filter q.selects = t'.rows.filter q.selects) (page itemsPerPage : Nat)
    (ascending : Bool) : t.getList q page itemsPerPage ascending =
      t'.getList q page itemsPerPage ascending := by
  unfold StoredEvents.getList
  rw [h]

theorem StoredEvents.getById_eq_some {t : StoredEvents} {id : Nat} {e : StoredEvent} :
    t.getById id = some e ↔ e ∈ t ∧ e.id = id ∧ e.deletedAt = none :=
  Table.find?_live_eq_some

theorem listEvents_eq (h : Agree cfg tok db db') (args : EventArgs) :
    db.listEvents? cfg tok args = db'.listEvents? cfg tok args := by
  unfold ExternalDb.listEvents?
  refine bind_congr fun requested => ?_
  cases hallowed : tok.allowedCameraIds? with
  | none => rfl
  | some allowed =>
    simp only [Option.bind_eq_bind, Option.bind_some]
    split
    · rfl
    · next hne =>
      have hsel : ∀ q : EventQuery, q.cameraIds = scopedCameraIds allowed requested →
          db.events.rows.filter q.selects = db'.events.rows.filter q.selects := by
        rintro ⟨ids, types, start, stop⟩ hids
        cases hids
        exact filter_eq_of_imp h.events fun e he => admits_of_selects hallowed hne he
      refine Option.bind_congr fun page _ => Option.bind_congr fun itemsPerPage _ => ?_
      rw [StoredEvents.getList_congr (hsel _ rfl)]

/-- The event of one system is found in the other. -/
theorem getById_of_agree (h : Agree cfg tok db db') {id : Nat} {e : StoredEvent}
    (he : db.events.getById id = some e) (hadm : tok.admits (e.cameraId : Int) = true) :
    db'.events.getById id = some e := by
  obtain ⟨hmem, hid, hdel⟩ := StoredEvents.getById_eq_some.1 he
  have hin : e ∈ db.events.rows.filter fun e => tok.admits (e.cameraId : Int) :=
    List.mem_filter.2 ⟨hmem, hadm⟩
  rw [h.events] at hin
  exact StoredEvents.getById_eq_some.2 ⟨(List.mem_filter.1 hin).1, hid, hdel⟩

theorem Agree.symm (h : Agree cfg tok db db') : Agree cfg tok db' db :=
  ⟨h.token', h.token, h.cameras.symm, h.events.symm, h.hooks.symm⟩

/-- An event outside the scope is not found, as if it were not there. -/
theorem getEvent_of_not_admits {id : Nat} (hscope : ∃ allowed, tok.allowedCameraIds? = some allowed)
    (h : ∀ e, db.events.getById id = some e → tok.admits (e.cameraId : Int) = false) :
    db.getEvent? tok id = some .notFound := by
  unfold ExternalDb.getEvent?
  split
  · rfl
  · next e he =>
    obtain ⟨allowed, hallowed⟩ := hscope
    have hno := h e he
    rw [ApiToken.admits, hallowed, Option.any_some] at hno
    rw [hallowed, Option.map_some, hno]
    rfl

theorem getEvent_eq (hscope : ∃ allowed, tok.allowedCameraIds? = some allowed)
    (h : Agree cfg tok db db') (id : Nat) : db.getEvent? tok id = db'.getEvent? tok id := by
  by_cases hin : ∃ e, db.events.getById id = some e ∧ tok.admits (e.cameraId : Int) = true
  · obtain ⟨e, he, hadm⟩ := hin
    unfold ExternalDb.getEvent?
    rw [he, getById_of_agree h he hadm]
  · have hno : ∀ e, db.events.getById id = some e → tok.admits (e.cameraId : Int) = false := by
      intro e he
      exact Bool.eq_false_iff.2 fun hadm => hin ⟨e, he, hadm⟩
    have hno' : ∀ e, db'.events.getById id = some e → tok.admits (e.cameraId : Int) = false := by
      intro e he
      exact Bool.eq_false_iff.2 fun hadm => hin ⟨e, getById_of_agree h.symm he hadm, hadm⟩
    rw [getEvent_of_not_admits hscope hno, getEvent_of_not_admits hscope hno']

theorem state_eq (h : Agree cfg tok db db') (now : Int) :
    db.state? cfg tok now = db'.state? cfg tok now := by
  unfold ExternalDb.state?
  cases hallowed : tok.allowedCameraIds? with
  | none => rfl
  | some allowed =>
    have hadm : ∀ c : CameraView, (allowed.all fun ids => ids.contains (c.id : Int)) =
        tok.admits (c.id : Int) := by
      intro c
      rw [ApiToken.admits, hallowed, Option.any_some]
    have hcams : (db.cameras.getAllEnabled.filter fun c => tok.admits (c.id : Int)) =
        db'.cameras.getAllEnabled.filter fun c => tok.admits (c.id : Int) := by
      unfold CameraViews.getAllEnabled
      rw [List.filter_comm, h.cameras, List.filter_comm]
    simp only [Option.map_some, hadm, hcams]

/-! ## Deliveries -/

theorem inScope_iff {hook : WebhookEndpoint} :
    inScope cfg tok hook = true ↔ hook.InScope cfg tok := by
  unfold inScope
  exact @decide_eq_true_iff _ (Classical.propDecidable _)

/-- A scoped token covers the camera of an event only if it is valid and admits the camera. -/
theorem covers_of_scoped {ids : List Int} {now : Int} {cameraId : Json}
    (hids : tok.allowedCameraIds? = some (some ids)) (hnull : cameraId ≠ .null)
    (h : tok.covers? now cameraId = some true) :
    tok.isValid now = true ∧ ∃ n, cameraId.toInt? = some n ∧ tok.admits n = true := by
  unfold ApiToken.covers? at h
  split at h
  · cases h
  · next hvalid =>
    refine ⟨by simpa using hvalid, ?_⟩
    simp only [hids, Option.map_some, Option.some.injEq, hnull, decide_false, Bool.false_or,
      Option.any_eq_true] at h
    obtain ⟨n, hn, hin⟩ := h
    exact ⟨n, hn, ApiToken.admits_iff.2 ⟨some ids, hids, hin⟩⟩

/-- A subscription of the token that an event of a camera is sent to is in its scope. -/
theorem inScope_of_serve {ids : List Int} {tokens : ApiTokens} {now : Int} {payload : Json}
    {hook : WebhookEndpoint} (hids : tok.allowedCameraIds? = some (some ids))
    (htok : tokens.get? tok.id = some tok) (hcam : CameraPayload payload)
    (hown : hook.apiTokenId = some tok.id) (h : hookResult cfg tokens now payload hook = .serve) :
    hook.InScope cfg tok := by
  obtain ⟨cameraId, hget, hnull⟩ := hcam
  have hcov := serve_of_own htok hown h
  obtain ⟨-, hwants, -, -⟩ := hookResult_eq_serve h
  rw [hget, Option.getD_some] at hcov hwants
  obtain ⟨-, n, hn, hadm⟩ := covers_of_scoped hids hnull hcov
  exact ⟨hown, cameraId, n, hn, hadm, by rw [hwants]; decide⟩

/-- A subscription of the token gets only what the token covers now, also when it was made before
the token was narrowed or revoked. -/
theorem sentTo_covered {ids : List Int} (hids : tok.allowedCameraIds? = some (some ids))
    (htok : db.tokens.get? tok.id = some tok) {now : Int} {payload cameraId : Json}
    (hget : payload.get? "camera_id" = some cameraId) (hnull : cameraId ≠ .null)
    {hook : WebhookEndpoint} (h : hook ∈ db.sentTo cfg tok now payload) :
    tok.isValid now = true ∧ ∃ n, cameraId.toInt? = some n ∧ tok.admits n = true := by
  obtain ⟨hmem, hown⟩ := List.mem_filter.1 h
  unfold ExternalDb.deliverSubscriptions at hmem
  split at hmem
  · have hcov := serve_of_own htok (beq_iff_eq.1 hown) (Fanout.mem_of_mem_served hmem).2
    rw [hget, Option.getD_some] at hcov
    exact covers_of_scoped hids hnull hcov
  · cases hmem

/-- The subscriptions of the token that are served are those in its scope that are. -/
theorem sentTo_eq {ids : List Int} (hids : tok.allowedCameraIds? = some (some ids))
    (htok : db.tokens.get? tok.id = some tok) {now : Int} {payload : Json}
    (hcam : CameraPayload payload) : db.sentTo cfg tok now payload =
      (Fanout.served (hookResult cfg db.tokens now payload) db.hooks.activeSubscriptions).filter
        (inScope cfg tok) := by
  unfold ExternalDb.sentTo ExternalDb.deliverSubscriptions
  split
  · refine List.filter_congr fun hook hmem => ?_
    rw [Bool.eq_iff_iff, beq_iff_eq, inScope_iff]
    constructor
    · intro hown
      exact inScope_of_serve hids htok hcam hown (Fanout.mem_of_mem_served hmem).2
    · exact fun hin => hin.1
  · next hobj =>
    obtain ⟨cameraId, hget, -⟩ := hcam
    cases payload with
    | obj fields => exact absurd rfl (hobj fields)
    | _ => cases hget

theorem hookResult_congr {now : Int} {payload : Json} {tokens tokens' : ApiTokens}
    {hook : WebhookEndpoint} (htok : tokens.get? tok.id = some tok)
    (htok' : tokens'.get? tok.id = some tok) (hown : hook.apiTokenId = some tok.id) :
    hookResult cfg tokens now payload hook = hookResult cfg tokens' now payload hook := by
  have hcov : ∀ cameraId,
      covered? tokens now hook cameraId = covered? tokens' now hook cameraId := by
    intro cameraId
    unfold covered?
    rw [hown]
    dsimp only
    rw [htok, htok']
  unfold hookResult
  simp only [hcov]

/-- The event is sent to the same subscriptions of the token exactly when the same ones are
blocked. -/
theorem sentTo_eq_iff {ids : List Int} (hids : tok.allowedCameraIds? = some (some ids))
    (h : Agree cfg tok db db') {now : Int} {payload : Json} (hcam : CameraPayload payload) :
    db.sentTo cfg tok now payload = db'.sentTo cfg tok now payload ↔
      ∀ hook ∈ db.due cfg tok now payload, db.blocked cfg tok now payload hook =
        db'.blocked cfg tok now payload hook := by
  rw [sentTo_eq hids h.token hcam, sentTo_eq hids h.token' hcam]
  have hnodup : ∀ d : ExternalDb, d.hooks.activeSubscriptions.Nodup :=
    fun d => d.hooks.nodup_rows.filter _
  have hactive : db.hooks.activeSubscriptions.filter (inScope cfg tok) =
      db'.hooks.activeSubscriptions.filter (inScope cfg tok) := by
    unfold WebhookEndpoints.activeSubscriptions
    rw [List.filter_comm, h.hooks, List.filter_comm]
  exact Fanout.filter_served_eq_iff (hnodup db) (hnodup db') hactive fun hook _ hin =>
    hookResult_congr h.token h.token' (inScope_iff.1 hin).1

theorem allowedCameraIds_of_cons {x : Json} {items : List Json}
    (h : tok.cameraIds = .arr (x :: items)) :
    tok.allowedCameraIds? = some (some ((x :: items).filterMap Json.toInt?)) := by
  unfold ApiToken.allowedCameraIds?
  rw [h]
  rfl

end

/-- **A scoped token learns nothing about other cameras.** For a token with a list of cameras and
two systems that agree on the token and inside its list, the answers to every request for events, an
event or the state are the same, and every event of a camera is sent to the same subscriptions of
the token, if and only if no event is due for one that a foreign subscription, raising before it,
blocks in one of the systems alone. -/
theorem learnsNothing_iff (cfg : ExternalConfig) {tok : ApiToken} {x : Json} {items : List Json}
    (hids : tok.cameraIds = .arr (x :: items)) {db db' : ExternalDb} (h : Agree cfg tok db db') :
    LearnsNothing cfg tok db db' ↔
      ∀ now payload, CameraPayload payload → ∀ hook ∈ db.due cfg tok now payload,
        db.blocked cfg tok now payload hook = db'.blocked cfg tok now payload hook := by
  have hallowed := allowedCameraIds_of_cons hids
  constructor
  · intro hl now payload hcam
    exact (sentTo_eq_iff hallowed h hcam).1 (hl.sentTo now payload hcam)
  · intro hb
    refine ⟨listEvents_eq h, getEvent_eq ⟨_, hallowed⟩ h, state_eq h, ?_⟩
    intro now payload hcam
    exact (sentTo_eq_iff hallowed h hcam).2 (hb now payload hcam)

namespace ScopeFixture

open ExternalFixture

/-- A token for one camera. -/
def token (id : Nat) (camera : Int) : ApiToken :=
  { id, uuid := "token", name := .str "panel", tokenHash := "hash",
    scopes := .obj [("events", .arr [.str "read"])], cameraIds := .arr [.num camera],
    expiresAt := none, revokedAt := none, createdById := some 1 }

def tokens : ApiTokens := ⟨[token 7 1, token 8 2], by decide⟩

/-- A subscription of the first token. -/
def own (id : Nat) : WebhookEndpoint :=
  { id, url := .str "http://panel", isSubscription := true,
    subscriptionFilter := .obj [("event_types", .null), ("camera_ids", .arr [.num 1])],
    apiTokenId := some 7, enabled := true, deletedAt := none }

/-- A subscription of the second token, with a number in place of the types. -/
def foreign (id : Nat) : WebhookEndpoint :=
  { id, url := .str "http://vault", isSubscription := true,
    subscriptionFilter := .obj [("event_types", .num 5), ("camera_ids", .arr [.num 2])],
    apiTokenId := some 8, enabled := true, deletedAt := none }

/-- A camera of the second token, and an event of it. -/
def vault : CameraView :=
  { id := 2, uuid := "vault", name := "Vault", isEnabled := true, deletedAt := none,
    status := "offline" }

def alarm : StoredEvent :=
  { id := 11, cameraId := 2, type := "intrusion", subtype := none, state := .ended,
    startTs := 5000000, endTs := none, durationMs := none, score := none, source := "camera",
    channel := none, recordingId := none, policyAction := none, dedupKey := "alarm",
    vendorEventId := none, deletedAt := none, region := .null, createdAt := 5000000 }

def motion : Json := .obj [("type", .str "motion"), ("camera_id", .str "1")]

/-- The second token's subscription is ahead of the first token's. -/
def ahead : ExternalDb := ⟨∅, ∅, tokens, ⟨[foreign 10, own 20], by decide⟩⟩

/-- The second token has no subscription. -/
def without (id : Nat) : ExternalDb := ⟨∅, ∅, tokens, ⟨[own id], List.nodup_singleton _⟩⟩

/-- The second token has a camera, an event, and a subscription behind the first token's. -/
def behind : ExternalDb :=
  ⟨⟨[vault], List.nodup_singleton _⟩, ⟨[alarm], List.nodup_singleton _⟩, tokens,
    ⟨[own 30, foreign 40], by decide⟩⟩

theorem inScope_foreign (id : Nat) : inScope config (token 7 1) (foreign id) = false :=
  Bool.eq_false_iff.2 fun h => by cases (inScope_iff.1 h).1

theorem agree_ahead : Agree config (token 7 1) ahead (without 20) := by
  refine ⟨by decide, by decide, rfl, rfl, ?_⟩
  exact List.filter_cons_of_neg (by rw [inScope_foreign]; decide)

theorem agree_behind : Agree config (token 7 1) behind (without 30) := by
  refine ⟨by decide, by decide, by decide +kernel, by decide +kernel, ?_⟩
  change [own 30, foreign 40].filter _ = [own 30].filter _
  simp only [List.filter_cons, inScope_foreign, Bool.false_eq_true, if_false]

end ScopeFixture

section
open ScopeFixture ExternalFixture

/-- A camera, an event of it and a subscription that raises, behind the token's own, make no
difference to the token. -/
theorem learnsNothing_fixture : (token 7 1).cameraIds = .arr [.num 1] ∧
    Agree config (token 7 1) behind (without 30) ∧
    behind.sentTo config (token 7 1) 0 motion = [own 30] ∧
    LearnsNothing config (token 7 1) behind (without 30) := by
  refine ⟨rfl, agree_behind, by decide +kernel, ?_⟩
  refine (learnsNothing_iff config rfl agree_behind).2 ?_
  intro now payload _ hook hmem
  obtain ⟨hmem, hin⟩ := List.mem_filter.1 (Fanout.mem_of_mem_served hmem).1
  have hlist : hook ∈ [own 30, foreign 40] := (List.mem_filter.1 hmem).1
  rcases List.mem_pair.1 hlist with rfl | rfl
  · unfold ExternalDb.blocked
    exact (Fanout.blocked_cons_self (l := [foreign 40])).trans
      (Fanout.blocked_cons_self (l := [])).symm
  · rw [inScope_foreign] at hin
    cases hin

/-- Another token's subscription, for a camera outside the scope and with types that are not a list,
keeps an event from the token's subscription. -/
theorem foreign_subscription_raises :
    createSubscription config (token 8 2) 10
      (.obj [("event_types", .num 5), ("url", .str "http://vault")]) = .ok (foreign 10) ∧
    createSubscription config (token 7 1) 20 (.obj [("url", .str "http://panel")]) = .ok (own 20) ∧
    Agree config (token 7 1) ahead (without 20) ∧
    ahead.sentTo config (token 7 1) 0 motion = [] ∧
    (without 20).sentTo config (token 7 1) 0 motion = [own 20] ∧
    ¬ LearnsNothing config (token 7 1) ahead (without 20) := by
  have hahead : ahead.sentTo config (token 7 1) 0 motion = [] := by decide +kernel
  have hwithout : (without 20).sentTo config (token 7 1) 0 motion = [own 20] := by decide +kernel
  refine ⟨by decide +kernel, by decide +kernel, agree_ahead, hahead, hwithout, fun h => ?_⟩
  have heq := h.sentTo 0 motion ⟨.str "1", by decide, by decide⟩
  rw [hahead, hwithout] at heq
  cases heq

end

end AeroXProtect
