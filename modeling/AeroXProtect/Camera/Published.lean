import AeroXProtect.Lib.Run
import AeroXProtect.Camera.Controller

/-!
# What go2rtc holds

The calls of the controller on one camera, in any order, with encoder nodes that publish and
assignments that come and go. `Holds` compares the camera's names in go2rtc with `expected_names`.

An edit or a probe that replaces the streams gives go2rtc the names of the old ones, so the names
are right afterwards when the roles are the same; a list that is refused leaves the names of streams
that are gone; and the companion of a disabled camera is put all the same. `go2rtc_names_hold` is
the run without these.
-/

open Lib

namespace AeroXProtect.Registration

/-! ## Runs -/

/-- A camera, once it is registered, and what the encoder nodes have to do with it. -/
structure Held where
  encode : Encode
  camera : Option Registered

/-- A call of the controller, or an encoder node that begins to publish the camera's stream. -/
inductive Op
  | create (dup : Json → String → Int → Bool) (data : Json) (actor : Nat)
  | update (data : Json) (actor : Nat)
  | reprobe (probe : Probe) (actor : Nat) (now : Int)
  | delete (actor : Nat) (now : Int)
  | publish

/-- A node publishes the stream of the grid, if there is an assignment. -/
def publishOne (e : Encode) (r : Registered) : Registered :=
  match defaultLiveStream r.streams with
  | some s => if assignmentFor e r.row r.streams then { r with names := insert (encName s) r.names }
    else r
  | none => r

/-- One operation on the camera; a deleted one is not found. -/
def act (b : Backend) (e : Encode) (op : Op) (r : Registered) : Registered :=
  if r.row.deletedAt.isSome then r
  else
    match op with
    | .create .. => r
    | .update data actor => (updateOne b e data actor r).1
    | .reprobe probe actor now => (reprobeOne b e probe actor now r).1
    | .delete actor now => deleteOne actor now r
    | .publish => publishOne e r

/-- One operation, with the flag and the assignment as they are then. -/
def step (b : Backend) (uuid : String) (h : Held) (x : Encode × Op) : Held :=
  { encode := x.1
    camera := match h.camera, x.2 with
      | none, .create dup data actor => (createOne b x.1 dup uuid data actor).1
      | camera, op => camera.map (act b x.1 op) }

/-! ## What is asked -/

/-- The names a camera has in go2rtc: `expected_names` if it is enabled, and none if it is not or is
deleted. -/
def wanted (e : Encode) (camera : CameraRow) (streams : List StreamRow) : Finset String :=
  if camera.isEnabled && camera.deletedAt.isNone then expectedNames e camera streams else ∅

/-- go2rtc has these names and no others, apart from what an encoder publishes for a stream of the
camera. -/
def Holds (e : Encode) (r : Registered) : Prop :=
  wanted e r.row r.streams ⊆ r.names ∧
    ∀ n ∈ r.names, n ∈ wanted e r.row r.streams ∨ ∃ s ∈ r.streams, n = encName s

instance (e : Encode) (r : Registered) : Decidable (Holds e r) :=
  inferInstanceAs (Decidable (_ ∧ ∀ n ∈ r.names, _ ∨ ∃ s ∈ r.streams, n = encName s))

/-! ## When it holds -/

/-- The names put for the old streams are those that the new ones need. An enabled camera has the
same roles as before and the same companion, and no stream is named like a companion to delete. One
that is not enabled has no companion. -/
def SyncSettles (e : Encode) (camera : CameraRow) (old new : List StreamRow) : Prop :=
  if camera.isEnabled && camera.deletedAt.isNone then
    (∀ role, role ∈ old.map StreamRow.role ↔ role ∈ new.map StreamRow.role) ∧
      (offloadCompanions e camera old).1 = (offloadCompanions e camera new).1 ∧
      ∀ n ∈ (offloadCompanions e camera old).2, n ∉ old.map StreamRow.go2rtcName
  else (offloadCompanions e camera old).1 = []

/-- A stream list that is taken settles, and one that is not finds no name of the camera. -/
def ResyncSettles (b : Backend) (e : Encode) (camera : CameraRow) (streamDicts : Json)
    (r : Registered) : Prop :=
  (StreamsTaken b camera streamDicts →
      SyncSettles e camera r.streams (newRows b camera streamDicts r.streams)) ∧
    (¬ StreamsTaken b camera streamDicts → r.names = ∅)

/-- The flag and the assignment mean for the camera what they meant before. -/
def Still (h : Held) (e : Encode) (r : Registered) : Prop :=
  wanted e r.row r.streams = wanted h.encode r.row r.streams

/-- The operation keeps the names right: where it comes to go2rtc the streams settle, and elsewhere
nothing has changed. -/
def Keeps (b : Backend) (uuid : String) (h : Held) (x : Encode × Op) : Prop :=
  match h.camera, x.2 with
  | none, .create dup data actor => ∀ row, createRow b dup uuid data actor = .ok row →
      let rows := markLive (rowsOf b row (createStreams data))
      ∀ n ∈ (offloadCompanions x.1 row rows).2, n ∉ rows.map StreamRow.go2rtcName
  | none, _ => True
  | some r, op => r.row.deletedAt = none →
    match op with
    | .create .. | .publish => Still h x.1 r
    | .update data actor =>
      ((∀ row, editRow b data actor r.row = .ok row → b.takesCamera row = false) →
        Still h x.1 r) ∧
      ∀ row, editRow b data actor r.row = .ok row → b.takesCamera row = true →
        ResyncSettles b x.1 row (data.field "streams") r
    | .reprobe (.found result) actor _ =>
      if (result.field "streams").truthy && b.takesCamera (probedRow result actor r.row) then
        ResyncSettles b x.1 (probedRow result actor r.row) (result.field "streams") r
      else Still h x.1 r
    | .reprobe .. => Still h x.1 r
    | .delete .. => True

/-! ## The invariant -/

/-- Streams are enabled and named by their roles. -/
def Named (uuid : String) (streams : List StreamRow) : Prop :=
  ∀ s ∈ streams, s.enabled = true ∧ s.go2rtcName = go2rtcNameFor uuid s.role

/-- The only name beyond those that are wanted is the one that an encoder publishes for the stream
of the grid. -/
structure Inv (e : Encode) (r : Registered) : Prop where
  named : Named r.row.uuid r.streams
  holds : wanted e r.row r.streams ⊆ r.names
  only : ∀ n ∈ r.names, n ∈ wanted e r.row r.streams ∨
    ∃ s, defaultLiveStream r.streams = some s ∧ n = encName s

section
variable {b : Backend} {e : Encode} {camera camera' : CameraRow} {r : Registered}
  {old new streams : List StreamRow} {n : String} {s : StreamRow}

theorem mem_of_defaultLiveStream (h : defaultLiveStream streams = some s) :
    s ∈ streams ∧ s.isDefaultLive = true := by
  have hp := List.find?_some h
  exact ⟨List.mem_of_find?_eq_some h, (Bool.and_eq_true _ _ ▸ hp : s.isDefaultLive = true ∧ _).1⟩

theorem Inv.toHolds (h : Inv e r) : Holds e r := by
  refine ⟨h.holds, fun n hn => (h.only n hn).imp_right ?_⟩
  rintro ⟨s, hs, rfl⟩
  exact ⟨s, (mem_of_defaultLiveStream hs).1, rfl⟩

/-- What a camera is wanted to have depends on these columns. -/
theorem wanted_congr (henabled : camera.isEnabled = camera'.isEnabled)
    (hdeleted : camera.deletedAt = camera'.deletedAt)
    (hlive : camera.liveTranscode = camera'.liveTranscode) :
    wanted e camera streams = wanted e camera' streams := by
  have htranscode : liveTranscodeEnabled camera = liveTranscodeEnabled camera' := by
    funext s
    simp only [liveTranscodeEnabled, hlive]
  have hcompanions : offloadCompanions e camera streams = offloadCompanions e camera' streams := by
    unfold offloadCompanions assignmentFor
    rw [htranscode]
  unfold wanted expectedNames
  rw [henabled, hdeleted, hcompanions]

/-- The companion to put is that of the stream of the grid. -/
theorem mem_companion (h : n ∈ (offloadCompanions e camera streams).1) :
    ∃ s, defaultLiveStream streams = some s ∧ n = rawName s := by
  unfold offloadCompanions at h
  split at h
  · simp at h
  · next s hs =>
    split at h
    · split at h <;> simp at h
    · exact ⟨s, hs, by simpa using h⟩

/-- Companions are put or deleted, not both. -/
theorem companions_or (e : Encode) (camera : CameraRow) (streams : List StreamRow) :
    (offloadCompanions e camera streams).1 = [] ∨ (offloadCompanions e camera streams).2 = [] := by
  unfold offloadCompanions
  split
  · exact .inl rfl
  · split
    · split
      · exact .inl rfl
      · exact .inl rfl
    · exact .inr rfl

/-- The removal of a camera's streams leaves no name of it. -/
theorem removeCamera_eq_empty (h : Inv e r) : removeCamera r.streams r.names = ∅ := by
  rw [removeCamera, Finset.sdiff_eq_empty_iff_subset]
  intro n hn
  rw [List.mem_toFinset, removeNames, List.mem_flatMap]
  have hcompanion : ∀ s, defaultLiveStream r.streams = some s → n = rawName s ∨ n = encName s →
      ∃ s ∈ r.streams, n ∈ s.go2rtcName :: if s.isDefaultLive then [rawName s, encName s]
        else [] := by
    intro s hs hname
    obtain ⟨hmem, hlive⟩ := mem_of_defaultLiveStream hs
    exact ⟨s, hmem, by simpa [hlive] using .inr hname⟩
  rcases h.only n hn with hwant | ⟨s, hs, hname⟩
  · unfold wanted at hwant
    split at hwant
    · rw [expectedNames, Finset.mem_union, List.mem_toFinset, List.mem_toFinset] at hwant
      rcases hwant with hname | hraw
      · obtain ⟨s, hs, rfl⟩ := List.mem_map.1 hname
        exact ⟨s, (List.mem_filter.1 hs).1, .head _⟩
      · obtain ⟨s, hs, hname⟩ := mem_companion hraw
        exact hcompanion s hs (.inl hname)
    · simp at hwant
  · exact hcompanion s hs (.inr hname)

theorem Named.mem_map_iff {uuid : String} (h : Named uuid streams) :
    n ∈ streams.map StreamRow.go2rtcName ↔
      ∃ role ∈ streams.map StreamRow.role, n = go2rtcNameFor uuid role := by
  simp only [List.mem_map]
  constructor
  · rintro ⟨s, hs, rfl⟩
    exact ⟨s.role, ⟨s, hs, rfl⟩, (h s hs).2⟩
  · rintro ⟨_, ⟨s, hs, rfl⟩, rfl⟩
    exact ⟨s, hs, (h s hs).2⟩

theorem Named.filter_enabled {uuid : String} (h : Named uuid streams) :
    streams.filter StreamRow.enabled = streams :=
  List.filter_eq_self.2 fun s hs => (h s hs).1

/-- Pushing the old streams to a go2rtc without names of the camera gives it what the new ones
want. -/
theorem syncCamera_eq {uuid : String} (hdeleted : camera.deletedAt = none) (hold : Named uuid old)
    (hnew : Named uuid new) (h : SyncSettles e camera old new) :
    syncCamera e camera old ∅ = wanted e camera new := by
  unfold syncCamera syncPuts wanted
  unfold SyncSettles at h
  cases henabled : camera.isEnabled with
  | false =>
    simp only [henabled, Bool.false_and, Bool.false_eq_true, if_false] at h
    simp [h]
  | true =>
    simp only [henabled, hdeleted, Option.isNone_none, Bool.and_self, if_true] at h
    obtain ⟨hroles, hputs, hdeletes⟩ := h
    have hnames : ∀ n, n ∈ old.map StreamRow.go2rtcName ↔ n ∈ new.map StreamRow.go2rtcName := by
      intro n
      rw [hold.mem_map_iff, hnew.mem_map_iff]
      exact exists_congr fun role => and_congr_left' (hroles role)
    ext n
    simp only [Bool.and_true, hold.filter_enabled, hnew.filter_enabled, expectedNames,
      Finset.mem_sdiff, Finset.mem_union, List.mem_toFinset, List.mem_append, Finset.notMem_empty,
      false_or, hdeleted, Option.isNone_none, Bool.and_self, if_true]
    rw [← hnames, ← hputs]
    refine and_iff_left_of_imp fun hn hdelete => ?_
    rcases hn with hn | hn
    · exact hdeletes n hdelete hn
    · rcases companions_or e camera old with hnil | hnil
      · simp [hnil] at hn
      · simp [hnil] at hdelete

/-! ## New streams -/

/-- The streams of a list are enabled and named by their roles. -/
theorem named_markLive_rowsOf (b : Backend) (camera : CameraRow) (streamDicts : Json) :
    Named camera.uuid (markLive (rowsOf b camera streamDicts)) := by
  have hrows : Named camera.uuid (rowsOf b camera streamDicts) := by
    intro s hs
    cases streamDicts with
    | arr items =>
      obtain ⟨sd, -, rfl⟩ := List.mem_map.1 hs
      exact ⟨rfl, rfl⟩
    | _ => simp [rowsOf] at hs
  generalize rowsOf b camera streamDicts = rows at hrows
  cases rows with
  | nil => exact fun s hs => absurd hs List.not_mem_nil
  | cons s rest =>
    unfold markLive
    dsimp only
    split
    · exact hrows
    · intro s' hs'
      rcases List.mem_cons.1 hs' with rfl | hs'
      · exact hrows s (.head _)
      · exact hrows s' (.tail _ hs')

theorem named_newRows {streamDicts : Json} (h : Named camera.uuid old) :
    Named camera.uuid (newRows b camera streamDicts old) := by
  unfold newRows
  split
  · exact named_markLive_rowsOf b camera streamDicts
  · exact h

/-- A camera without streams is wanted to have no names. -/
theorem wanted_nil : wanted e camera [] = ∅ := by
  unfold wanted
  split
  · rfl
  · rfl

/-! ## One operation -/

/-- The columns that matter to go2rtc, and the streams, are the same. -/
structure SameLive (r r' : Registered) : Prop where
  uuid : r'.row.uuid = r.row.uuid
  isEnabled : r'.row.isEnabled = r.row.isEnabled
  deletedAt : r'.row.deletedAt = r.row.deletedAt
  liveTranscode : r'.row.liveTranscode = r.row.liveTranscode
  streams : r'.streams = r.streams

theorem SameLive.wanted_eq {r' : Registered} (h : SameLive r r') :
    wanted e r'.row r'.streams = wanted e r.row r.streams := by
  rw [h.streams]
  exact wanted_congr h.isEnabled h.deletedAt h.liveTranscode

theorem SameLive.trans {r₁ r₂ r₃ : Registered} (h : SameLive r₁ r₂) (h' : SameLive r₂ r₃) :
    SameLive r₁ r₃ :=
  ⟨h'.uuid.trans h.uuid, h'.isEnabled.trans h.isEnabled, h'.deletedAt.trans h.deletedAt,
    h'.liveTranscode.trans h.liveTranscode, h'.streams.trans h.streams⟩

theorem sameLive_setStatus (status : String) (error : Option String) (now : Int) (r : Registered) :
    SameLive r { r with row := setStatus status error now r.row } := by
  obtain ⟨lastSeenAt, lastError, heq⟩ := setStatus_eq status error now r.row
  rw [heq]
  exact ⟨rfl, rfl, rfl, rfl, rfl⟩

/-- A push leaves the streams, and the names that it puts. -/
theorem syncAndSetStatus_frame (e : Encode) (loaded : List StreamRow) (markOnline : Bool)
    (now : Int) (r : Registered) : SameLive r (syncAndSetStatus e loaded markOnline now r) ∧
      (syncAndSetStatus e loaded markOnline now r).names = syncCamera e r.row loaded r.names := by
  obtain ⟨status, lastSeenAt, lastError, heq⟩ := syncAndSetStatus_eq e loaded markOnline now r
  rw [heq]
  exact ⟨⟨rfl, rfl, rfl, rfl, rfl⟩, rfl⟩

/-- A push of the old streams to a go2rtc without names of the camera makes the invariant. -/
theorem inv_syncAndSetStatus {markOnline : Bool} {now : Int} (hdeleted : r.row.deletedAt = none)
    (hold : Named r.row.uuid old) (hnew : Named r.row.uuid r.streams) (hnames : r.names = ∅)
    (h : SyncSettles e r.row old r.streams) :
    Inv e (syncAndSetStatus e old markOnline now r) := by
  obtain ⟨hsame, hsync⟩ := syncAndSetStatus_frame e old markOnline now r
  rw [hnames, syncCamera_eq hdeleted hold hnew h, ← hsame.wanted_eq] at hsync
  exact ⟨by rw [hsame.uuid, hsame.streams]; exact hnew, hsync ▸ Finset.Subset.refl _,
    fun n hn => .inl (hsync ▸ hn)⟩

/-- The invariant of a camera without streams and names. -/
theorem inv_of_nil (hstreams : r.streams = []) (hnames : r.names = ∅) : Inv e r := by
  refine ⟨?_, ?_, ?_⟩
  · rw [hstreams]
    exact fun s hs => absurd hs List.not_mem_nil
  · rw [hstreams, wanted_nil]
    exact Finset.empty_subset _
  · simp [hnames]

/-- The invariant of a camera that is not touched, where what is wanted is the same. -/
theorem Inv.of_same {e' : Encode} {r' : Registered} (h : Inv e r) (hsame : SameLive r r')
    (hnames : r'.names = r.names) (hstill : wanted e' r.row r.streams = wanted e r.row r.streams) :
    Inv e' r' := by
  have hwanted : wanted e' r'.row r'.streams = wanted e r.row r.streams :=
    hsame.wanted_eq.trans hstill
  refine ⟨?_, ?_, ?_⟩
  · rw [hsame.uuid, hsame.streams]
    exact h.named
  · rw [hwanted, hnames]
    exact h.holds
  · rw [hwanted, hnames, hsame.streams]
    exact h.only

/-- An edit or a probe that settles keeps the invariant. -/
theorem inv_resync {e' : Encode} {streamDicts : Json} {markOnline : Bool} {now : Int}
    (h : Inv e r) (huuid : camera.uuid = r.row.uuid) (hdeleted : camera.deletedAt = none)
    (hsettles : ResyncSettles b e' camera streamDicts r) :
    Inv e' (resync b e' streamDicts markOnline now { r with row := camera }).1 := by
  have hnamed : Named camera.uuid r.streams := huuid ▸ h.named
  rcases resync_cases b e' streamDicts markOnline now { r with row := camera } with
    ⟨htaken, heq⟩ | ⟨hnot, f, heq⟩
  · rw [heq]
    exact inv_syncAndSetStatus hdeleted hnamed (named_newRows hnamed)
      (removeCamera_eq_empty (r := r) h)
      (hsettles.1 htaken)
  · rw [heq]
    exact inv_of_nil rfl (hsettles.2 hnot)

/-- A new camera has the invariant if no stream is named like a companion to delete. -/
theorem inv_create {dup : Json → String → Int → Bool} {uuid : String} {data : Json} {actor : Nat}
    (hkeeps : ∀ row, createRow b dup uuid data actor = .ok row →
      let rows := markLive (rowsOf b row (createStreams data))
      ∀ n ∈ (offloadCompanions e row rows).2, n ∉ rows.map StreamRow.go2rtcName)
    (h : (createOne b e dup uuid data actor).1 = some r) : Inv e r := by
  rcases createOne_cases b e dup uuid data actor with
    ⟨-, f, heq⟩ | ⟨row, hrow, -, ⟨-, heq⟩ | ⟨-, f, heq⟩⟩
  · rw [heq] at h
    cases h
  · rw [heq] at h
    obtain rfl := Option.some.inj h
    obtain ⟨henabled, hdeleted⟩ : row.isEnabled = true ∧ row.deletedAt = none := by
      obtain ⟨name, host, channel, rtspTransport, -, -, rfl⟩ := createRow_eq_ok hrow
      exact ⟨rfl, rfl⟩
    have hnamed := named_markLive_rowsOf b row (createStreams data)
    refine inv_syncAndSetStatus hdeleted hnamed hnamed rfl ?_
    rw [SyncSettles, if_pos (by simp [henabled, hdeleted])]
    exact ⟨fun _ => Iff.rfl, rfl, hkeeps row hrow⟩
  · rw [heq] at h
    obtain rfl := Option.some.inj h
    exact inv_of_nil rfl rfl

/-- A deleted camera has no names. -/
theorem inv_delete {e' : Encode} {actor : Nat} {now : Int} (h : Inv e r) :
    Inv e' (deleteOne actor now r) := inv_of_nil rfl (removeCamera_eq_empty h)

/-- A node that publishes adds the one name that is allowed. -/
theorem inv_publish {e' : Encode} (h : Inv e r)
    (hstill : wanted e' r.row r.streams = wanted e r.row r.streams) : Inv e' (publishOne e' r) := by
  have hsame : Inv e' r := h.of_same ⟨rfl, rfl, rfl, rfl, rfl⟩ rfl hstill
  unfold publishOne
  split
  · next s hs =>
    split
    · refine ⟨hsame.named, hsame.holds.trans (Finset.subset_insert _ _), fun n hn => ?_⟩
      rcases Finset.mem_insert.1 hn with rfl | hn
      · exact .inr ⟨s, hs, rfl⟩
      · exact hsame.only n hn
    · exact hsame
  · exact hsame

variable {h : Held} {x : Encode × Op} {uuid : String}

theorem inv_update {data : Json} {actor : Nat} (hinv : Inv h.encode r)
    (hdeleted : r.row.deletedAt = none)
    (hstill : (∀ row, editRow b data actor r.row = .ok row → b.takesCamera row = false) →
      Still h e r)
    (hsettles : ∀ row, editRow b data actor r.row = .ok row → b.takesCamera row = true →
      ResyncSettles b e row (data.field "streams") r) :
    Inv e (updateOne b e data actor r).1 := by
  rcases updateOne_cases b e data actor r with ⟨hrefused, f, heq⟩ | ⟨row, hrow, htakes, heq⟩
  · rw [heq]
    exact hinv.of_same ⟨rfl, rfl, rfl, rfl, rfl⟩ rfl (hstill hrefused)
  · rw [heq]
    obtain ⟨huuid, hdel⟩ : row.uuid = r.row.uuid ∧ row.deletedAt = r.row.deletedAt := by
      obtain ⟨-, rtspTransport, rfl⟩ := editRow_eq_ok hrow
      exact ⟨rfl, rfl⟩
    exact inv_resync hinv huuid (hdel.trans hdeleted) (hsettles row hrow htakes)

theorem inv_reprobe (uuid : String) {probe : Probe} {actor : Nat} {now : Int}
    (hinv : Inv h.encode r) (hdeleted : r.row.deletedAt = none)
    (hkeeps : Keeps b uuid { h with camera := some r } (e, .reprobe probe actor now)) :
    Inv e (reprobeOne b e probe actor now r).1 := by
  replace hkeeps := hkeeps hdeleted
  cases probe with
  | unauthorized => exact hinv.of_same (sameLive_setStatus ..) rfl hkeeps
  | failed message => exact hinv.of_same (sameLive_setStatus ..) rfl hkeeps
  | raises => exact hinv.of_same ⟨rfl, rfl, rfl, rfl, rfl⟩ rfl hkeeps
  | found result =>
    have hprobed : SameLive r { r with row := probedRow result actor r.row } :=
      ⟨rfl, rfl, rfl, rfl, rfl⟩
    unfold reprobeOne
    dsimp only at hkeeps ⊢
    split
    · next herror =>
      rw [if_neg (by simp_all)] at hkeeps
      exact hinv.of_same (sameLive_setStatus ..) rfl hkeeps
    · split
      · next htakes =>
        split
        · next hstreams =>
          rw [if_pos (by simp_all)] at hkeeps
          exact inv_resync hinv rfl hdeleted hkeeps
        · next hstreams =>
          rw [if_neg (by simp_all)] at hkeeps
          exact hinv.of_same (hprobed.trans (sameLive_setStatus ..)) rfl hkeeps
      · next htakes =>
        rw [if_neg (by simp_all)] at hkeeps
        exact hinv.of_same ⟨rfl, rfl, rfl, rfl, rfl⟩ rfl hkeeps

/-- An operation that keeps the names right keeps the invariant. -/
theorem inv_step (hinv : ∀ r ∈ h.camera, Inv h.encode r) (hkeeps : Keeps b uuid h x) :
    ∀ r ∈ (step b uuid h x).camera, Inv (step b uuid h x).encode r := by
  obtain ⟨e', op⟩ := x
  obtain ⟨e, camera⟩ := h
  cases camera with
  | none =>
    cases op with
    | create dup data actor => exact fun r hr => inv_create hkeeps hr
    | update | reprobe | delete | publish => exact fun r hr => by simp [step] at hr
  | some r =>
    replace hinv : Inv e r := hinv r rfl
    intro r' hr'
    obtain rfl : act b e' op r = r' := by
      cases op <;> exact Option.some.inj hr'
    unfold act
    cases hdeleted : r.row.deletedAt with
    | some t =>
      have hnone (e : Encode) : wanted e r.row r.streams = ∅ := by simp [wanted, hdeleted]
      exact hinv.of_same ⟨rfl, rfl, rfl, rfl, rfl⟩ rfl ((hnone _).trans (hnone _).symm)
    | none =>
      cases op with
      | create dup data actor => exact hinv.of_same ⟨rfl, rfl, rfl, rfl, rfl⟩ rfl (hkeeps hdeleted)
      | publish => exact inv_publish hinv (hkeeps hdeleted)
      | update data actor =>
        obtain ⟨hstill, hsettles⟩ := hkeeps hdeleted
        exact inv_update (h := ⟨e, some r⟩) hinv hdeleted hstill hsettles
      | reprobe probe actor now =>
        exact inv_reprobe (h := ⟨e, some r⟩) uuid hinv hdeleted hkeeps
      | delete actor now => exact inv_delete hinv

/-! ## Whole runs -/

/-- In every run from before a camera is registered whose operations keep the names right, go2rtc
holds after each operation what the database says. -/
theorem go2rtc_names_hold (b : Backend) (uuid : String) {e : Encode} {ops : List (Encode × Op)}
    {t : Held} (h : Run (step b uuid) (Keeps b uuid) ⟨e, none⟩ ops t) :
    ∀ r ∈ t.camera, Holds t.encode r := by
  have hinv : ∀ r ∈ t.camera, Inv t.encode r := by
    refine h.invariant (I := fun h => ∀ r ∈ h.camera, Inv h.encode r)
      (fun s a hs hok => inv_step hs hok) ?_
    exact fun r hr => by simp at hr
  exact fun r hr => (hinv r hr).toHolds

/-- A request to register a camera with the streams of these roles. -/
def bodyOf (roles : List String) : Json := .obj [("host", .str "10.0.0.5"), ("name", .str "Door"),
  ("streams", .arr (roles.map fun role => .obj [("role", .str role), ("rtsp_path", .str "/a")]))]

def registerOp : Encode × Op :=
  (⟨false, false⟩, .create (fun _ _ _ => false) (bodyOf ["main", "sub"]) 7)

def renameOp : Encode × Op := (⟨false, false⟩, .update (.obj [("name", .str "Gate")]) 7)

/-- Without encoder nodes there are no companions. -/
theorem offloadCompanions_off (h : e.flag = false) :
    offloadCompanions e camera streams = ([], []) := by
  unfold offloadCompanions assignmentFor
  rw [h]
  split
  · rfl
  · rfl

theorem keeps_registerOp : Keeps accepting "1" ⟨⟨false, false⟩, none⟩ registerOp := by
  intro row _ rows n hn
  rw [offloadCompanions_off rfl] at hn
  cases hn

theorem keeps_renameOp (he : h.encode = ⟨false, false⟩) : Keeps accepting "1" h renameOp := by
  obtain ⟨_, camera⟩ := h
  obtain rfl := he
  cases camera with
  | none => trivial
  | some r =>
    have hnull : (Json.field (.obj [("name", .str "Gate")]) "streams").truthy = false := rfl
    refine fun _ => ⟨fun _ => rfl, fun row _ _ => ⟨fun _ => ?_, fun hnot => ?_⟩⟩
    · have hsame : newRows accepting row (Json.field (.obj [("name", .str "Gate")]) "streams")
          r.streams = r.streams := rfl
      rw [hsame, SyncSettles, offloadCompanions_off rfl]
      split
      · exact ⟨fun _ => Iff.rfl, rfl, nofun⟩
      · rfl
    · exact absurd (fun htruthy => by rw [hnull] at htruthy; cases htruthy) hnot

theorem run_renameOp (he : h.encode = ⟨false, false⟩) :
    Run (step accepting "1") (Keeps accepting "1") h [renameOp] (step accepting "1" h renameOp) :=
  .cons (keeps_renameOp he) .nil

/-- A camera that is registered and renamed. -/
theorem go2rtc_names_hold_renamed :
    ((step accepting "1" (step accepting "1" ⟨⟨false, false⟩, none⟩ registerOp) renameOp).camera.map
        fun r => r.names) = some {"cam_1_main", "cam_1_sub"} ∧
      ∀ r ∈ (step accepting "1" (step accepting "1" ⟨⟨false, false⟩, none⟩ registerOp)
        renameOp).camera, Holds ⟨false, false⟩ r := by
  refine ⟨by decide +kernel, ?_⟩
  have hrun := Run.cons keeps_registerOp
    (run_renameOp (h := step accepting "1" ⟨⟨false, false⟩, none⟩ registerOp) rfl)
  exact go2rtc_names_hold accepting "1" hrun

/-- A camera with two streams is edited to have one of them, and then renamed: go2rtc keeps the name
of the stream that is gone. -/
theorem go2rtc_keeps_old_name :
    let e : Encode := ⟨false, false⟩
    let created := step accepting "1" ⟨e, none⟩
      (e, .create (fun _ _ _ => false) (bodyOf ["main", "sub"]) 7)
    let edited := step accepting "1" created (e, .update (bodyOf ["main"]) 7)
    let renamed := step accepting "1" edited (e, .update (.obj [("name", .str "Gate")]) 7)
    (edited.camera.map fun r => (wanted e r.row r.streams, r.names)) =
        some ({"cam_1_main"}, {"cam_1_main", "cam_1_sub"}) ∧
      (edited.camera.map fun r => decide (Holds e r)) = some false ∧
      (renamed.camera.map fun r => decide (Holds e r)) = some false := by
  decide +kernel

end

end AeroXProtect.Registration
