import AeroXProtect.External.Api
import Mathlib.Data.List.Dedup
import AeroXProtect.Lib.Fanout

/-!
# Subscriptions

A bearer has events delivered to a webhook. A subscription is created with a filter that is clamped
to the cameras of the token (`clamped`), and the token is looked at again at each delivery, so a
token that was narrowed or revoked in the meantime gets no more than it covers now
(`serve_of_own`). The loop over the subscriptions is not isolated: a filter that cannot be read
raises, and ends it.
-/

open Lib

namespace AeroXProtect

/-! ## Creation -/

/-- Why a subscription is not created. -/
inductive SubscriptionRefusal
  | urlRequired | outsideScope | raised
  deriving DecidableEq, Repr

/-- `{int(c) for c in requested if str(c).lstrip('-').isdigit()}`. -/
def requestedSet? (cfg : ExternalConfig) (requested : Json) : Option (List Int) :=
  requested.iter?.bind fun items =>
    (items.filter fun c =>
      let digits := (cfg.str c).toList.dropWhile (· == '-')
      !digits.isEmpty && digits.all cfg.isdigit).mapM Json.toInt?

/-- The cameras of a subscription: the ones that are asked for and allowed, or all that are allowed.
-/
def clampIds (ids : List Int) (requested : List Int) : List Int :=
  orderBy id ((if requested.isEmpty then ids else requested.filter ids.contains).dedup)

/-- The camera filter of a new subscription. -/
def subscriptionIds (cfg : ExternalConfig) (tok : ApiToken) (requested : Json) :
    Except SubscriptionRefusal Json :=
  match tok.allowedCameraIds? with
  | none => .error .raised
  | some none => .ok requested
  | some (some ids) =>
    match (if requested.truthy then requestedSet? cfg requested else some []) with
    | none => .error .raised
    | some req =>
      if (clampIds ids req).isEmpty then .error .outsideScope
      else .ok (.arr ((clampIds ids req).map fun n => .num n))

/-- Source: `ExternalController.create_subscription` (`server/controller/external.py:72`). -/
def createSubscription (cfg : ExternalConfig) (tok : ApiToken) (id : Nat) (data : Json) :
    Except SubscriptionRefusal WebhookEndpoint := do
  match data with
  | .obj fields =>
    let field (k : String) : Json := (fields.lookup k).getD .null
    if !(field "url").truthy then .error .urlRequired
    else
      let ids ← subscriptionIds cfg tok (field "camera_ids")
      .ok { id, url := field "url", isSubscription := true,
            subscriptionFilter := .obj [("event_types", field "event_types"), ("camera_ids", ids)],
            apiTokenId := some tok.id, enabled := true, deletedAt := none }
  | _ => .error .raised

/-- The filter of a new subscription of a scoped token names cameras of the token, and at least
one. -/
theorem clamped {cfg : ExternalConfig} {tok : ApiToken} {ids : List Int} {requested filter : Json}
    (hids : tok.allowedCameraIds? = some (some ids))
    (h : subscriptionIds cfg tok requested = .ok filter) :
    ∃ l : List Int, l ≠ [] ∧ filter = .arr (l.map fun n => .num n) ∧ ∀ n ∈ l, n ∈ ids := by
  unfold subscriptionIds at h
  rw [hids] at h
  dsimp only at h
  split at h
  · cases h
  · next req hreq =>
    split at h
    · cases h
    · next hne =>
      cases h
      refine ⟨_, fun hnil => hne (by rw [hnil]; rfl), rfl, fun n hn => ?_⟩
      rw [clampIds, mem_orderBy, List.mem_dedup] at hn
      split at hn
      · exact hn
      · simpa using (List.mem_filter.1 hn).2

/-! ## Delivery -/

/-- Source: `WebhookEndpoint.active_subscriptions` (`server/model/webhook_endpoint.py:52`). -/
def WebhookEndpoints.activeSubscriptions (t : WebhookEndpoints) : List WebhookEndpoint :=
  t.rows.filter fun h => h.deletedAt.isNone && h.enabled && h.isSubscription

/-- `x in c`. -/
def memberOf? (c x : Json) : Option Bool :=
  match x, c with
  | .str s, c => c.contains? s
  | x, .arr items => some (Json.listed items x)
  | x, .obj _ => if x.hashable then some false else none
  | _, _ => none

/-- The filter lets the type of an event through. -/
def wantsType? (filter : Json) (type : Json) : Option Bool :=
  (filter.get? "event_types").bind fun types =>
    if types.truthy then memberOf? types type else some true

/-- The filter lets the camera of an event through. -/
def wantsCamera? (cfg : ExternalConfig) (filter cameraId : Json) : Option Bool :=
  (filter.get? "camera_ids").bind fun ids =>
    if ids.truthy then
      ids.iter?.map fun items => (items.map cfg.str).contains (cfg.str cameraId)
    else some true

/-- The token covers the camera of an event. -/
def ApiToken.covers? (tok : ApiToken) (now : Int) (cameraId : Json) : Option Bool :=
  if !tok.isValid now then some false
  else
    tok.allowedCameraIds?.map fun allowed =>
      match allowed with
      | none => true
      | some ids => decide (cameraId = .null) || cameraId.toInt?.any ids.contains

/-- The owner of a subscription covers the camera of an event, as of now. -/
def covered? (tokens : ApiTokens) (now : Int) (hook : WebhookEndpoint) (cameraId : Json) :
    Option Bool :=
  match hook.apiTokenId with
  | none => some true
  | some id =>
    match tokens.get? id with
    | none => some false
    | some tok => tok.covers? now cameraId

/-- What the loop does with a subscription. -/
def hookResult (cfg : ExternalConfig) (tokens : ApiTokens) (now : Int) (payload : Json)
    (hook : WebhookEndpoint) : Fanout :=
  let type := (payload.get? "type").getD .null
  let cameraId := (payload.get? "camera_id").getD .null
  let filter := hook.subscriptionFilter.or .empty
  match wantsType? filter type with
  | none => .raise
  | some false => .skip
  | some true =>
    match wantsCamera? cfg filter cameraId with
    | none => .raise
    | some false => .skip
    | some true =>
      match covered? tokens now hook cameraId with
      | none => .raise
      | some false => .skip
      | some true => if cfg.delivers hook payload then .serve else .raise

/-- Source: `ExternalController.deliver_subscriptions` (`server/controller/external.py:103`): the
subscriptions that the event is sent to. -/
def ExternalDb.deliverSubscriptions (cfg : ExternalConfig) (db : ExternalDb) (now : Int)
    (payload : Json) : List WebhookEndpoint :=
  match payload with
  | .obj _ => Fanout.served (hookResult cfg db.tokens now payload) db.hooks.activeSubscriptions
  | _ => []

section
variable {cfg : ExternalConfig} {tokens : ApiTokens} {now : Int} {payload : Json}
  {hook : WebhookEndpoint}

/-- A subscription is served when its filter lets the type and the camera through, its owner covers
the camera, and the delivery returns. -/
theorem hookResult_eq_serve (h : hookResult cfg tokens now payload hook = .serve) :
    wantsType? (hook.subscriptionFilter.or .empty) ((payload.get? "type").getD .null) = some true ∧
    wantsCamera? cfg (hook.subscriptionFilter.or .empty)
      ((payload.get? "camera_id").getD .null) = some true ∧
    covered? tokens now hook ((payload.get? "camera_id").getD .null) = some true ∧
    cfg.delivers hook payload = true := by
  unfold hookResult at h
  dsimp only at h
  split at h
  · cases h
  · cases h
  · next htype =>
    split at h
    · cases h
    · cases h
    · next hcamera =>
      split at h
      · cases h
      · cases h
      · next hcov =>
        split at h
        · next hdel => exact ⟨htype, hcamera, hcov, hdel⟩
        · cases h

/-- A subscription of the token that is served has a valid token that covers the camera. -/
theorem serve_of_own {tok : ApiToken} (htok : tokens.get? tok.id = some tok)
    (hown : hook.apiTokenId = some tok.id)
    (h : hookResult cfg tokens now payload hook = .serve) :
    tok.covers? now ((payload.get? "camera_id").getD .null) = some true := by
  obtain ⟨-, -, hcov, -⟩ := hookResult_eq_serve h
  unfold covered? at hcov
  rw [hown] at hcov
  dsimp only at hcov
  rwa [htok] at hcov

end

end AeroXProtect
