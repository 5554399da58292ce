import AeroXProtect.Storage.Tables

/-!
# Share links

A share link is a public, revocable link to a clip of one camera. Two endpoints serve it with the
token alone: `publicView` checks the link and its password, counts the view and lists the segments,
and `publicSegmentPath` hands out one segment. SHA-256 is a parameter (`ShareConfig.sha256`); what
is proved holds for every function in its place. The cache server may fail to answer the two
commands of the rate limiter.
-/

open Lib

namespace AeroXProtect

/-! ## Rows and configuration -/

inductive ShareKind
  | clip | event
  deriving DecidableEq, Repr

/-- A row of `share_links`. -/
structure ShareLink where
  id : Nat
  tokenHash : String
  kind : ShareKind
  cameraId : Nat
  targetRef : Option String
  rangeStart : Option Int
  rangeEnd : Option Int
  label : Option String
  passwordHash : Option String
  watermark : Bool
  maxViews : Option Int
  viewCount : Nat
  expiresAt : Option Int
  revokedAt : Option Int
  deletedAt : Option Int
  deriving DecidableEq, Repr

abbrev ShareLinks := Table ShareLink.id

/-- `hashlib.sha256(…).hexdigest()` and the settings the service reads. -/
structure ShareConfig where
  sha256 : String → String
  secretKey : String
  redisKeyPrefix : String

/-- Source: `hash_token` (`server/model/share_link.py:31`). -/
def ShareConfig.hashToken (c : ShareConfig) (token : String) : String := c.sha256 token

/-- Source: `hash_password` (`server/model/share_link.py:35`). -/
def ShareConfig.hashPassword (c : ShareConfig) (pw : String) : String :=
  c.sha256 (c.secretKey ++ ":" ++ pw)

/-- The tables and the counters of the cache server that the public endpoints use. -/
structure ShareWorld where
  links : ShareLinks
  segments : Segments
  cameras : Cameras
  attempts : Counters String

/-! ## State of a link -/

/-- Why a link is not served. -/
inductive StatusReason
  | revoked | expired | exhausted
  deriving DecidableEq, Repr

namespace ShareLink

/-- The view limit is reached. -/
def isExhausted (l : ShareLink) : Bool :=
  match l.maxViews with
  | some m => decide ((l.viewCount : Int) ≥ m)
  | none => false

/-- The expiry has passed. -/
def isExpired (l : ShareLink) (now : Int) : Bool :=
  match l.expiresAt with
  | some e => decide (e ≤ now)
  | none => false

/-- Source: `ShareLink.is_live` (`server/model/share_link.py:95`). -/
def isLive (l : ShareLink) (now : Int) : Bool :=
  if l.revokedAt.isSome then false
  else if l.isExpired now then false
  else if l.isExhausted then false
  else true

/-- Source: `ShareLink.status_reason` (`server/model/share_link.py:105`). -/
def statusReason (l : ShareLink) (now : Int) : Option StatusReason :=
  if l.revokedAt.isSome then some .revoked
  else if l.isExpired now then some .expired
  else if l.isExhausted then some .exhausted
  else none

end ShareLink

namespace ShareLinks

/-- Source: `ShareLink.get_by_hash` (`server/model/share_link.py:58`). -/
def getByHash (t : ShareLinks) (tokenHash : String) : Option ShareLink :=
  t.rows.find? fun l => decide (l.tokenHash = tokenHash) && l.deletedAt.isNone

/-- Source: `ShareLink.register_view` (`server/model/share_link.py:115`), the `UPDATE`. -/
def registerView (t : ShareLinks) (id : Nat) : ShareLinks :=
  t.modify (fun l => decide (l.id = id)) fun l => { l with viewCount := l.viewCount + 1 }

/-- Source: `ShareLink.revoke` (`server/model/share_link.py:124`). -/
def revoke (t : ShareLinks) (id : Nat) (now : Int) : ShareLinks :=
  t.modify (fun l => decide (l.id = id)) fun l => { l with revokedAt := some now }

end ShareLinks

/-! ## The service -/

section
variable (c : ShareConfig)

/-- Source: `resolve` (`server/service/share_link.py:43`). -/
def ShareWorld.resolve (w : ShareWorld) (token : String) : Option ShareLink :=
  if token = "" then none else w.links.getByHash (c.hashToken token)

/-- Source: `verify_password` (`server/service/share_link.py:49`). -/
def verifyPassword (l : ShareLink) (password : Option String) : Bool :=
  match l.passwordHash with
  | none => true
  | some h =>
    match password with
    | none => false
    | some pw => if pw = "" then false else decide (c.hashPassword pw = h)

/-- Attempts per token and address in a window, and the length of the window. -/
def pwAttemptLimit : Nat := 10

def pwWindowS : Int := 300

/-- The counter of a token and an address. -/
def rateLimitKey (token : String) (ip : Option String) : String :=
  c.redisKeyPrefix ++ ":share_pw:" ++ String.ofList ((c.hashToken token).toList.take 16) ++ ":" ++
    match ip with
    | some a => if a = "" then "-" else a
    | none => "-"

/-- Whether the cache server answers `INCR` and `EXPIRE`. -/
structure RedisUp where
  incr : Bool
  expire : Bool
  deriving DecidableEq, Repr

/-- Source: `rate_limit_ok` (`server/service/share_link.py:57`). -/
def rateLimitOk (m : Counters String) (now : Int) (token : String) (ip : Option String)
    (up : RedisUp) : Counters String × Bool :=
  let key := rateLimitKey c token ip
  if !up.incr then (m, true)
  else
    let (m', n) := m.incr now key
    if n = 1 then
      if up.expire then (m'.expire now key pwWindowS, decide (n ≤ pwAttemptLimit)) else (m', true)
    else (m', decide (n ≤ pwAttemptLimit))

end

/-- Source: `segments_for` (`server/service/share_link.py:70`), through
`playback_planner.get_segments`. -/
def segmentsFor (t : Segments) (l : ShareLink) : List Segment :=
  match l.rangeStart, l.rangeEnd with
  | some start, some stop => t.getRange l.cameraId start stop (some .main)
  | _, _ => []

/-- Source: `authorize_segment` (`server/service/share_link.py:76`). -/
def authorizeSegment (l : ShareLink) (segment : Option Segment) : Bool :=
  match segment with
  | none => false
  | some g =>
    if g.cameraId ≠ l.cameraId then false
    else
      match l.rangeStart, l.rangeEnd with
      | some start, some stop => decide (g.startTs ≤ stop) && decide (g.endTs ≥ start)
      | _, _ => false

/-- What the viewer is told about the link. Source: `public_payload`
(`server/service/share_link.py:86`). -/
structure PublicPayload where
  kind : ShareKind
  label : Option String
  cameraName : String
  rangeStart : Option Int
  rangeEnd : Option Int
  watermark : Bool
  isEvent : Bool
  targetRef : Option String
  deriving DecidableEq, Repr

def publicPayload (l : ShareLink) (camera : Camera) : PublicPayload where
  kind := l.kind
  label := l.label
  cameraName := camera.name
  rangeStart := l.rangeStart
  rangeEnd := l.rangeEnd
  watermark := l.watermark
  isEvent := decide (l.kind = .event)
  targetRef := l.targetRef

/-! ## The public endpoints -/

/-- The answer of `public_view`: an error, the reason the link is not served, a request for the
password, or the clip. -/
inductive ViewAnswer
  | invalidLink
  | unavailable (reason : StatusReason)
  | rateLimited
  | passwordRequired
  | cameraNotFound
  | ok (payload : PublicPayload) (segments : List Segment)
  deriving DecidableEq, Repr

def ViewAnswer.isOk : ViewAnswer → Bool
  | .ok _ _ => true
  | _ => false

/-- A request of `public_view`: the token and the password, the address it comes from, the clock and
the state of the cache server. -/
structure ViewRequest where
  token : String
  password : Option String
  ip : Option String
  now : Int
  up : RedisUp
  deriving DecidableEq, Repr

/-- A camera that is not deleted. Source: `Camera.get_by_id` (`server/model/camera.py:113`). -/
def Cameras.getById (t : Cameras) (id : Nat) : Option Camera :=
  t.rows.find? fun c => decide (c.id = id) && c.deletedAt.isNone

namespace ShareWorld

/-- The part of `public_view` after the password: count the view and answer the clip. -/
def grant (w : ShareWorld) (l : ShareLink) : ShareWorld × ViewAnswer :=
  let w' := { w with links := w.links.registerView l.id }
  match w.cameras.getById l.cameraId with
  | none => (w', .cameraNotFound)
  | some camera => (w', .ok (publicPayload l camera) (segmentsFor w.segments l))

/-- Source: `ShareLinkController.public_view` (`server/controller/share_link.py:104`). -/
def publicView (c : ShareConfig) (w : ShareWorld) (r : ViewRequest) : ShareWorld × ViewAnswer :=
  match w.resolve c r.token with
  | none => (w, .invalidLink)
  | some l =>
    match l.statusReason r.now with
    | some reason => (w, .unavailable reason)
    | none =>
      if l.passwordHash.isSome then
        let (attempts, ok) := rateLimitOk c w.attempts r.now r.token r.ip r.up
        let w := { w with attempts }
        if !ok then (w, .rateLimited)
        else if !verifyPassword c l r.password then (w, .passwordRequired)
        else w.grant l
      else w.grant l

/-- The refusals of `public_segment_path`. -/
inductive SegmentError
  | linkUnavailable | segmentDenied
  deriving DecidableEq, Repr

/-- Source: `ShareLinkController.public_segment_path`
(`server/controller/share_link.py:125`). -/
def publicSegmentPath (c : ShareConfig) (w : ShareWorld) (token : String) (segmentId : Nat)
    (now : Int) : Except SegmentError Segment :=
  match w.resolve c token with
  | none => .error .linkUnavailable
  | some l =>
    if !l.isLive now then .error .linkUnavailable
    else if !authorizeSegment l (w.segments.get? segmentId) then .error .segmentDenied
    else
      match w.segments.get? segmentId with
      | none => .error .segmentDenied
      | some g => .ok g

end ShareWorld

/-! ## What a write leaves alone -/

section
variable {c : ShareConfig} {w : ShareWorld} {t : ShareLinks} {l : ShareLink}

/-- The lookups after an update that keeps the token and the deletion of each row. -/
theorem ShareLinks.getByHash_modify {p : ShareLink → Bool} {f : ShareLink → ShareLink}
    {hf : ∀ l, (f l).id = l.id}
    (hkeep : ∀ l, (f l).tokenHash = l.tokenHash ∧ (f l).deletedAt = l.deletedAt) (h : String) :
    ShareLinks.getByHash (t.modify p f hf) h =
      (t.getByHash h).map fun l => if p l then f l else l := by
  unfold getByHash Table.modify
  rw [List.find?_map]
  have hpred : ((fun l => decide (l.tokenHash = h) && l.deletedAt.isNone) ∘
      fun l => if p l then f l else l) =
      fun l : ShareLink => decide (l.tokenHash = h) && l.deletedAt.isNone := by
    funext l
    simp only [Function.comp]
    split
    · rw [(hkeep l).1, (hkeep l).2]
    · rfl
  rw [hpred]

/-- The clip of a link: what its segments are chosen by. -/
def ShareLink.clip (l : ShareLink) : Nat × Option Int × Option Int :=
  (l.cameraId, l.rangeStart, l.rangeEnd)

/-- The authorisation only looks at the clip. -/
theorem authorizeSegment_congr {l l' : ShareLink} (h : l'.clip = l.clip) (g : Option Segment) :
    authorizeSegment l' g = authorizeSegment l g := by
  simp only [ShareLink.clip, Prod.mk.injEq] at h
  unfold authorizeSegment
  rw [h.1, h.2.1, h.2.2]

/-- Counting a view keeps the clip of every link. -/
theorem getByHash_registerView (t : ShareLinks) (id : Nat) :
    ∃ f : ShareLink → ShareLink, (∀ l, (f l).clip = l.clip) ∧
      ∀ h, (t.registerView id).getByHash h = (t.getByHash h).map f := by
  refine ⟨_, ?_, fun h => ShareLinks.getByHash_modify (by exact fun _ => ⟨rfl, rfl⟩) h⟩
  intro l
  split <;> rfl

/-- Revoking a link keeps the clip of every link. -/
theorem getByHash_revoke (t : ShareLinks) (id : Nat) (now : Int) :
    ∃ f : ShareLink → ShareLink, (∀ l, (f l).clip = l.clip) ∧
      ∀ h, (t.revoke id now).getByHash h = (t.getByHash h).map f := by
  refine ⟨_, ?_, fun h => ShareLinks.getByHash_modify (by exact fun _ => ⟨rfl, rfl⟩) h⟩
  intro l
  split <;> rfl

/-- What `public_view` writes: the attempt counters and, when it grants, the view count. -/
theorem publicView_cases (w : ShareWorld) (r : ViewRequest) :
    ((w.publicView c r).2.isOk = false ∧ (w.publicView c r).1.links = w.links ∧
      (w.publicView c r).1.segments = w.segments) ∨
    ∃ l, w.resolve c r.token = some l ∧ l.statusReason r.now = none ∧
      verifyPassword c l r.password = true ∧
      (w.publicView c r).1.links = w.links.registerView l.id ∧
      (w.publicView c r).1.segments = w.segments ∧
      ((w.publicView c r).2 = .cameraNotFound ∨
        ∃ payload, (w.publicView c r).2 = .ok payload (segmentsFor w.segments l)) := by
  have hgrant : ∀ (w : ShareWorld) l, (w.grant l).1.links = w.links.registerView l.id ∧
      (w.grant l).1.segments = w.segments ∧ ((w.grant l).2 = .cameraNotFound ∨
        ∃ payload, (w.grant l).2 = .ok payload (segmentsFor w.segments l)) := by
    intro w l
    unfold ShareWorld.grant
    simp only
    cases w.cameras.getById l.cameraId with
    | none => exact ⟨rfl, rfl, .inl rfl⟩
    | some camera => exact ⟨rfl, rfl, .inr ⟨_, rfl⟩⟩
  generalize hv : w.publicView c r = x
  unfold ShareWorld.publicView at hv
  cases hres : w.resolve c r.token with
  | none =>
    rw [hres] at hv
    subst hv
    exact .inl ⟨rfl, rfl, rfl⟩
  | some l =>
    rw [hres] at hv
    cases hst : l.statusReason r.now with
    | some reason =>
      simp only [hst] at hv
      subst hv
      exact .inl ⟨rfl, rfl, rfl⟩
    | none =>
      simp only [hst] at hv
      split at hv
      · split at hv
        · subst hv
          exact .inl ⟨rfl, rfl, rfl⟩
        · split at hv
          · subst hv
            exact .inl ⟨rfl, rfl, rfl⟩
          · next hpw =>
            rw [Bool.not_eq_true', Bool.not_eq_false] at hpw
            subst hv
            exact .inr ⟨l, rfl, hst, hpw, hgrant _ l⟩
      · next hnone =>
        subst hv
        refine .inr ⟨l, rfl, hst, ?_, hgrant w l⟩
        unfold verifyPassword
        cases hh : l.passwordHash with
        | none => rfl
        | some h => simp [hh] at hnone

/-- When a segment is authorised. -/
theorem authorizeSegment_some {g : Segment} : authorizeSegment l (some g) = true ↔
    g.cameraId = l.cameraId ∧ ∃ start stop, l.rangeStart = some start ∧ l.rangeEnd = some stop ∧
      g.startTs ≤ stop ∧ start ≤ g.endTs := by
  unfold authorizeSegment
  by_cases hcam : g.cameraId = l.cameraId
  · cases l.rangeStart <;> cases l.rangeEnd <;> simp [hcam]
  · simp [hcam]

/-- When a segment is listed. -/
theorem mem_segmentsFor {t : Segments} {g : Segment} : g ∈ segmentsFor t l ↔
    g ∈ t ∧ g.cameraId = l.cameraId ∧ g.corrupt = false ∧ g.streamRole = .main ∧
      ∃ start stop, l.rangeStart = some start ∧ l.rangeEnd = some stop ∧ g.startTs < stop ∧
        start < g.endTs := by
  unfold segmentsFor
  cases l.rangeStart with
  | none => simp
  | some start =>
    cases l.rangeEnd with
    | none => simp
    | some stop =>
      simp only [Segments.getRange, mem_orderBy, List.mem_filter, Bool.and_eq_true,
        decide_eq_true_eq, Table.mem_rows, Bool.not_eq_true', Option.some.injEq]
      constructor
      · rintro ⟨hmem, ⟨⟨⟨hcam, hcorrupt⟩, hlt⟩, hgt⟩, hrole⟩
        exact ⟨hmem, hcam, hcorrupt, hrole, start, stop, rfl, rfl, hlt, hgt⟩
      · rintro ⟨hmem, hcam, hcorrupt, hrole, _, _, rfl, rfl, hlt, hgt⟩
        exact ⟨hmem, ⟨⟨⟨hcam, hcorrupt⟩, hlt⟩, hgt⟩, hrole⟩

/-- A listed segment is authorised. -/
theorem authorizeSegment_of_mem {t : Segments} {g : Segment} (hg : g ∈ segmentsFor t l) :
    g ∈ t ∧ authorizeSegment l (some g) = true := by
  obtain ⟨hmem, hcam, -, -, start, stop, hstart, hstop, hlt, hgt⟩ := mem_segmentsFor.1 hg
  refine ⟨hmem, authorizeSegment_some.2 ?_⟩
  exact ⟨hcam, start, stop, hstart, hstop, Int.le_of_lt hlt, Int.le_of_lt hgt⟩

/-- When `public_segment_path` hands out a segment. -/
theorem publicSegmentPath_ok {token : String} {segmentId : Nat} {now : Int} {g : Segment} :
    w.publicSegmentPath c token segmentId now = .ok g ↔
      ∃ l, w.resolve c token = some l ∧ l.isLive now = true ∧ g ∈ w.segments ∧ g.id = segmentId ∧
        authorizeSegment l (some g) = true := by
  unfold ShareWorld.publicSegmentPath
  cases hres : w.resolve c token with
  | none => simp
  | some l =>
    simp only [Option.some.injEq, exists_eq_left']
    cases hlive : l.isLive now with
    | false => simp
    | true =>
      cases hget : w.segments.get? segmentId with
      | none =>
        refine iff_of_false (by simp [authorizeSegment]) ?_
        rintro ⟨-, hg, hid, -⟩
        exact Table.get?_eq_none.1 hget g hg hid
      | some g' =>
        obtain ⟨hg', hid'⟩ := Table.get?_eq_some.1 hget
        cases hauth : authorizeSegment l (some g') with
        | false =>
          refine iff_of_false (by simp) ?_
          rintro ⟨-, hg, hid, ha⟩
          rw [Table.eq_of_key_eq hg hg' (hid.trans hid'.symm), hauth] at ha
          cases ha
        | true =>
          simp only [Bool.not_true, Bool.false_eq_true, if_false, Except.ok.injEq, true_and]
          constructor
          · rintro rfl
            exact ⟨hg', hid', hauth⟩
          · rintro ⟨hg, hid, -⟩
            exact Table.eq_of_key_eq hg' hg (hid'.trans hid.symm)

end

namespace ShareFixture

/-- SHA-256 on the two inputs of the fixture. -/
def sha256 (s : String) : String :=
  if s = "tok" then "1a7674eb4ee78df7e1ac439a93c3fa8e3c945784d4dec9fd8e3011738b2f1d62"
  else if s = "key:open sesame" then
    "8cd390513c68702348e13c366cef197455738b5dcbc6709f3d4886c51f53203f"
  else ""

def config : ShareConfig := ⟨sha256, "key", "axp"⟩

def camera : Camera := ⟨1, "c1", "Door", true, none⟩

/-- A link to the first hundred microseconds of camera 1, without a password. -/
def openLink (maxViews : Option Int) : ShareLink :=
  { id := 1, tokenHash := sha256 "tok", kind := .clip, cameraId := 1, targetRef := none,
    rangeStart := some 0, rangeEnd := some 100, label := none, passwordHash := none,
    watermark := false, maxViews, viewCount := 0, expiresAt := some 1000, revokedAt := none,
    deletedAt := none }

/-- The same link with a password. -/
def lockedLink : ShareLink :=
  { openLink none with passwordHash := some (sha256 "key:open sesame") }

/-- A segment of a camera inside the window of the link. -/
def segment (cameraId : Nat) : Segment := ⟨7, cameraId, 1, "seg.mp4", 10, 70, 8, .main, false⟩

/-- One link, its camera and a segment. -/
def world (l : ShareLink) (cameraId : Nat) : ShareWorld where
  links := ⟨[l], List.nodup_singleton _⟩
  segments := ⟨[segment cameraId], List.nodup_singleton _⟩
  cameras := ⟨[camera], List.nodup_singleton _⟩
  attempts := ∅

end ShareFixture

end AeroXProtect
