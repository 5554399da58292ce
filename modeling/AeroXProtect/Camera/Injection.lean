import AeroXProtect.Camera.Atomic
import AeroXProtect.Camera.Published
import AeroXProtect.Encode.Offload

/-!
# Source strings

go2rtc is given a source as one text with fields between `#`. Hosts and paths are checked before
they come into such a text (`rejectInjection`), so its fields are those the code means
(`LiveSource.splits_of_whole`), as long as every host and path has passed the check as it is stored.
An edit checks the host without the white space around it and stores it with it; the check knows no
white space or control character beyond ASCII; and the role of a stream, which is part of its name
in go2rtc, is not checked. `no_source_injection` is the run without these.
-/

open Lib

namespace AeroXProtect

/-! ## Fields -/

namespace LiveSource

/-- The field for the transport, of its text with the `#` before it. -/
def inputField (inputPre : String) : List String :=
  if inputPre.isEmpty then [] else [String.ofList inputPre.toList.tail]

/-- The fields that a source is meant to have. -/
def fields : LiveSource → List String
  | .node encName => ["rtsp://127.0.0.1:8554/" ++ encName]
  | .transcode rtspUrl inputPre =>
    ("ffmpeg:" ++ rtspUrl) :: (inputField inputPre ++ ["video=h264", "audio=aac"])
  | .copy rtspUrl inputPre =>
    (if inputPre.isEmpty then rtspUrl else "ffmpeg:" ++ rtspUrl) ::
      (inputField inputPre ++ ["video=copy", "audio=copy"])

/-- The text splits at `#` into the fields that are meant. -/
def Splits (src : LiveSource) : Prop :=
  src.text.toList.splitOn '#' = src.fields.map String.toList

instance (src : LiveSource) : Decidable src.Splits :=
  inferInstanceAs (Decidable (src.text.toList.splitOn '#' = src.fields.map String.toList))

/-- Nothing in the parts of a source separates fields but the `#` of the transport. -/
def Whole : LiveSource → Prop
  | .node encName => '#' ∉ encName.toList
  | .transcode rtspUrl inputPre | .copy rtspUrl inputPre => '#' ∉ rtspUrl.toList ∧
    (inputPre = "" ∨ ∃ transport, inputPre = "#" ++ transport ∧ '#' ∉ transport.toList)

end LiveSource

/-- A text of a first field, one for the transport perhaps, and two more. -/
theorem splitOn_parts {url pre video audio : List Char} (hurl : '#' ∉ url)
    (hpre : pre = [] ∨ ∃ t, pre = '#' :: t ∧ '#' ∉ t) (hvideo : '#' ∉ video)
    (haudio : '#' ∉ audio) :
    (url ++ pre ++ '#' :: (video ++ '#' :: audio)).splitOn '#' =
      url :: ((if pre.isEmpty then [] else [pre.tail]) ++ [video, audio]) := by
  have hrest : (video ++ '#' :: audio).splitOn '#' = [video, audio] := by
    rw [List.splitOn_append_cons_self_of_not_mem hvideo, List.splitOn_eq_singleton haudio]
  rcases hpre with rfl | ⟨t, rfl, ht⟩
  · rw [List.append_nil, List.splitOn_append_cons_self_of_not_mem hurl, hrest]
    rfl
  · rw [List.append_assoc, List.cons_append, List.splitOn_append_cons_self_of_not_mem hurl,
      List.splitOn_append_cons_self_of_not_mem ht, hrest]
    rfl

namespace LiveSource

theorem map_inputField (inputPre : String) :
    (inputField inputPre).map String.toList =
      if inputPre.toList.isEmpty then [] else [inputPre.toList.tail] := by
  have hempty : inputPre.isEmpty = inputPre.toList.isEmpty := by
    rw [Bool.eq_iff_iff]
    simp
  unfold inputField
  rw [hempty]
  split
  · rfl
  · rw [List.map_singleton, String.toList_ofList]

/-- A transport with its `#`, or nothing. -/
theorem input_cases {inputPre : String}
    (h : inputPre = "" ∨ ∃ transport, inputPre = "#" ++ transport ∧ '#' ∉ transport.toList) :
    inputPre.toList = [] ∨ ∃ t, inputPre.toList = '#' :: t ∧ '#' ∉ t := by
  rcases h with rfl | ⟨transport, rfl, htransport⟩
  · exact .inl rfl
  · exact .inr ⟨transport.toList, by rw [String.toList_append]; rfl, htransport⟩

/-- A source splits into the fields that are meant when its parts have no `#` of their own. -/
theorem splits_of_whole {src : LiveSource} (h : src.Whole) : src.Splits := by
  have hffmpeg : ∀ {url : String}, '#' ∉ url.toList → '#' ∉ ("ffmpeg:" ++ url).toList := by
    intro url hurl hmem
    rw [String.toList_append, List.mem_append] at hmem
    exact hmem.elim (by decide) hurl
  have htranscode : "#video=h264#audio=aac".toList =
      '#' :: ("video=h264".toList ++ '#' :: "audio=aac".toList) := by decide
  have hcopy : "#video=copy#audio=copy".toList =
      '#' :: ("video=copy".toList ++ '#' :: "audio=copy".toList) := by decide
  cases src with
  | node encName =>
    unfold Splits text fields
    refine List.splitOn_eq_singleton fun hmem => ?_
    rw [String.toList_append, List.mem_append] at hmem
    exact hmem.elim (by decide) h
  | transcode rtspUrl inputPre =>
    unfold Splits text fields
    rw [List.map_cons, List.map_append, map_inputField, String.toList_append, String.toList_append,
      htranscode]
    exact splitOn_parts (hffmpeg h.1) (input_cases h.2) (by decide) (by decide)
  | copy rtspUrl inputPre =>
    unfold Splits
    dsimp only [text, fields]
    rw [List.map_cons, List.map_append, map_inputField]
    cases hempty : inputPre.isEmpty with
    | true =>
      obtain rfl : inputPre = "" := by simpa using hempty
      rw [if_pos rfl, if_pos rfl, String.toList_append, hcopy]
      have hparts := @splitOn_parts rtspUrl.toList [] "video=copy".toList "audio=copy".toList h.1
        (.inl rfl) (by decide) (by decide)
      rwa [List.append_nil] at hparts
    | false =>
      rw [if_neg (by simp), if_neg (by simp), String.toList_append, String.toList_append, hcopy]
      exact splitOn_parts (hffmpeg h.1) (input_cases h.2) (by decide) (by decide)

end LiveSource

/-- Percent-encoding leaves no separator. -/
theorem hash_not_mem_quote (s : String) : '#' ∉ (quote s).toList := by
  have hdigit : ∀ n < 16, (Nat.digitChar n).toUpper ≠ '#' := by decide
  unfold quote
  rw [String.toList_join]
  intro hmem
  obtain ⟨text, htext, hmem⟩ := List.mem_flatMap.1 hmem
  obtain ⟨b, -, rfl⟩ := List.mem_map.1 htext
  have hb : b.toNat < 256 := b.toNat_lt
  unfold quoteByte at hmem
  dsimp only at hmem
  split at hmem
  · next hkept =>
    have hc : '#' = Char.ofNat b.toNat := by simpa using hmem
    rw [← hc] at hkept
    exact absurd hkept (by decide)
  · have hhigh := hdigit (b.toNat / 16) (by omega)
    have hlow := hdigit (b.toNat % 16) (by omega)
    simp [hhigh.symm, hlow.symm] at hmem

namespace Registration

/-! ## The sources of a camera -/

section
variable (b : Backend)

/-- The path of a stream in its source. -/
def pathText (s : StreamRow) : String := strOf b (s.rtspPath.or (.str ""))

/-- The address of a stream with the credentials, and the transport it is read with. Source:
`_source_parts` (`server/service/go2rtc_sync.py:28`). -/
def sourceParts (camera : CameraRow) (s : StreamRow) : String × String :=
  let username := camera.username.getD ""
  let cred := if username = "" then ""
    else quote username ++ ":" ++ quote (camera.password.getD "") ++ "@"
  let rtspPort := strOf b (camera.rtspPort.or (.num 554))
  let chosen := camera.rtspTransport.getD ""
  let transport := b.lower (if chosen = "" then "auto" else chosen)
  ("rtsp://" ++ (cred ++ (strOf b camera.host ++ (":" ++ (rtspPort ++ pathText b s)))),
    if transport ∈ ["tcp", "udp"] then "#" ++ ("input=rtsp/" ++ transport) else "")

/-- The source of a stream, of a camera with these streams; an encoder node publishes the stream of
the grid, or not. Source: `build_source` (`server/service/go2rtc_sync.py:63`). -/
def buildSource (offloaded : Bool) (camera : CameraRow) (streams : List StreamRow) (s : StreamRow) :
    LiveSource :=
  let (rtspUrl, inputPre) := sourceParts b camera s
  if liveTranscodeEnabled camera s then
    match if offloaded then (defaultLiveStream streams).map encName else none with
    | some encName => .node encName
    | none => .transcode rtspUrl inputPre
  else .copy rtspUrl inputPre

/-! ## What is asked -/

/-- A control character. -/
def isControl (c : Char) : Bool := decide (c.toNat < 0x20 ∨ 0x7f ≤ c.toNat ∧ c.toNat < 0xa0)

/-- A character that a host and a path may not have. -/
def forbidden (c : Char) : Bool := c == '#' || Lib.isSpace c || isControl c

/-- A text without forbidden characters. -/
def Plain (s : String) : Prop := ∀ c ∈ s.toList, forbidden c = false

/-- A text without forbidden characters beyond ASCII, DEL included. -/
def PlainBeyond (s : String) : Prop := ∀ c ∈ s.toList, 0x7f ≤ c.toNat → forbidden c = false

/-- The host and the paths of a camera have no forbidden characters. -/
def PlainCamera (r : Registered) : Prop :=
  Plain (strOf b r.row.host) ∧ ∀ s ∈ r.streams, Plain (pathText b s)

instance (s : String) : Decidable (Plain s) :=
  decidable_of_iff (s.toList.all (fun c => !forbidden c) = true) (by simp [Plain])

instance (s : String) : Decidable (PlainBeyond s) :=
  decidable_of_iff
    (s.toList.all (fun c => decide (0x7f ≤ c.toNat → forbidden c = false)) = true)
    (by simp only [PlainBeyond, List.all_eq_true, decide_eq_true_eq])

instance (r : Registered) : Decidable (PlainCamera b r) :=
  inferInstanceAs (Decidable (Plain (strOf b r.row.host) ∧ ∀ s ∈ r.streams, Plain (pathText b s)))

/-! ## When it holds -/

/-- The stream of the grid has a role without `#`, and the paths are plain beyond ASCII. -/
def StreamsPlain (camera : CameraRow) (streamDicts : Json) : Prop :=
  StreamsTaken b camera streamDicts → ∀ s ∈ markLive (rowsOf b camera streamDicts),
    PlainBeyond (pathText b s) ∧ (s.isDefaultLive = true → '#' ∉ s.role.toList)

/-- A request to register a camera that is taken: the host that it stores is plain beyond ASCII, and
so are its streams. The `uuid` is a new one of hexadecimal digits. -/
def CreatePlain (uuid : String) (data : Json) (actor : Nat) (s : Store) : Prop :=
  '#' ∉ uuid.toList ∧
    ∀ row, createRow b (fun serial host channel => (findDuplicate b s serial host channel).isSome)
        uuid data actor = .ok row → b.takesCamera row = true →
      (∀ host, strippedText (data.field "host") = .ok host → PlainBeyond host) ∧
        StreamsPlain b row (createStreams data)

/-- An edit that is taken: a host that is given has no white space around it and is plain beyond
ASCII, and so are streams that are given. -/
def UpdatePlain (uuid : String) (data : Json) (actor : Nat) (s : Store) : Prop :=
  ∀ r row, getByUuid s uuid = some r → editRow b data actor r.row = .ok row →
    b.takesCamera row = true →
      (data.field "host" ≠ .null → PlainBeyond (strOf b (data.field "host")) ∧
        Lib.strip (strOf b (data.field "host")).toList = (strOf b (data.field "host")).toList) ∧
      StreamsPlain b row (data.field "streams")

/-- A probe that is taken: the streams it has found are plain beyond ASCII. -/
def ProbePlain (uuid : String) (probe : Probe) (actor : Nat) (s : Store) : Prop :=
  ∀ r result, getByUuid s uuid = some r → probe = .found result →
    b.takesCamera (probedRow result actor r.row) = true →
      StreamsPlain b (probedRow result actor r.row) (result.field "streams")

end

/-! ## Runs -/

/-- A request to the controller. -/
inductive SourceRequest
  | create (uuid : String) (data : Json) (actor : Nat)
  | batchCreate (uuids : Nat → String) (featureOn : Bool) (items common : Json) (actor : Nat)
  | update (uuid : String) (data : Json) (actor : Nat)
  | reprobe (uuid : String) (probe : Probe) (actor : Nat) (now : Int)

/-- The store after a probe, and what it ends with when it raises. -/
def reprobe (b : Backend) (e : Encode) (uuid : String) (probe : Probe) (actor : Nat) (now : Int)
    (s : Store) : Store × Option Failure :=
  match getByUuid s uuid with
  | none => (s, some .notFound)
  | some r =>
    let (r', failure) := reprobeOne b e probe actor now r
    (put uuid r' s, failure)

/-- A request, with what the encoder nodes have to do with the camera then. -/
def sourceStep (b : Backend) (s : Store) (x : Encode × SourceRequest) : Store :=
  match x.2 with
  | .create uuid data actor => (create b x.1 uuid data actor s).1
  | .batchCreate uuids featureOn items common actor =>
    (batchCreate b x.1 uuids featureOn items common actor s).1
  | .update uuid data actor => (update b x.1 uuid data actor s).1
  | .reprobe uuid probe actor now => (reprobe b x.1 uuid probe actor now s).1

/-- The request is plain where it is taken; of a batch, each item that it comes to. -/
def RequestPlain (b : Backend) (s : Store) (x : Encode × SourceRequest) : Prop :=
  match x.2 with
  | .create uuid data actor => CreatePlain b uuid data actor s
  | .batchCreate uuids _ items common actor => ∀ list, items = .arr list →
    ∀ k item t data, Reaches b x.1 uuids (common.or .empty) actor 0 list s k item t →
      merged (common.or .empty) item = .ok data → CreatePlain b (uuids k) data actor t
  | .update uuid data actor => UpdatePlain b uuid data actor s
  | .reprobe uuid probe actor _ => ProbePlain b uuid probe actor s

/-- What the columns of the database are relied on for: a number column takes no value with a `#` in
its text, and a text column no list and no object. -/
structure Columns (b : Backend) : Prop where
  port : ∀ row, b.takesCamera row = true → '#' ∉ (strOf b (row.rtspPort.or (.num 554))).toList
  path : ∀ rows, b.takesStreams rows = true → ∀ s ∈ rows,
    (∀ items, s.rtspPath ≠ .arr items) ∧ ∀ fields, s.rtspPath ≠ .obj fields

/-! ## What the check lets through -/

section
variable {b : Backend}

/-- A path of one text: its characters are gone through. -/
theorem anyControl_chars (cs : List Char) : anyControl (cs.map fun c => .str c.toString) =
    some (cs.any fun c => decide (c.toNat < 0x20)) := by
  induction cs with
  | nil => rfl
  | cons c cs ih =>
    have hone : c.toString.toList = [c] := String.toList_singleton c
    rw [List.map_cons, anyControl, hone]
    dsimp only
    rw [ih, List.any_cons]
    split
    · next hlow => simp [hlow]
    · next hlow => simp [hlow]

/-- A text that passes the check and is plain beyond ASCII is plain. -/
theorem plain_of_accepted {s field : String} (h : rejectInjection (.str s) field = .ok ())
    (hbeyond : PlainBeyond s) : Plain s := by
  intro c hc
  by_cases hhigh : 0x7f ≤ c.toNat
  · exact hbeyond c hc hhigh
  · have hne : s ≠ "" := fun hs => by simp [hs] at hc
    have hset : (Json.str s).toSet? = some (s.toList.map fun c => .str c.toString) := by
      simp [Json.toSet?, Json.iter?, Json.hashable]
    unfold rejectInjection at h
    rw [if_neg (by simpa [Json.truthy] using hne), hset] at h
    dsimp only at h
    split at h
    · cases h
    · next hchars =>
      rw [anyControl_chars] at h
      have hlow : ¬ c.toNat < 0x20 := by
        intro hlow
        rw [List.any_eq_true.2 ⟨c, hc, decide_eq_true hlow⟩] at h
        cases h
      have hmember : c.toString ∉ ["#", "\r", "\n", "\t", " "] := fun hmem =>
        hchars (List.any_eq_true.2 ⟨_, List.mem_map_of_mem hc, Json.isOneOf_str.2 hmem⟩)
      have hhash : c ≠ '#' := fun heq => hmember (by simp [heq])
      have hspace : c.toNat ≠ 0x20 := by
        intro heq
        have hc : c = ' ' := Char.toNat_inj.1 heq
        exact hmember (by simp [hc])
      simp only [forbidden, Lib.isSpace, isControl, Bool.or_eq_false_iff, beq_eq_false_iff_ne,
        decide_eq_false_iff_not]
      exact ⟨⟨hhash, by omega⟩, by omega⟩

/-- The path of a row that passes the check, and that a text column takes, is plain when it is plain
beyond ASCII. -/
theorem plain_pathText {s : StreamRow} {field : String}
    (h : rejectInjection (s.rtspPath.or (.str "")) field = .ok ())
    (hcolumn : (∀ items, s.rtspPath ≠ .arr items) ∧ ∀ fields, s.rtspPath ≠ .obj fields)
    (hbeyond : PlainBeyond (pathText b s)) : Plain (pathText b s) := by
  unfold pathText at hbeyond ⊢
  cases htruthy : s.rtspPath.truthy with
  | false =>
    rw [Json.or, htruthy]
    exact fun c hc => absurd hc List.not_mem_nil
  | true =>
    rw [Json.or, htruthy] at h hbeyond ⊢
    simp only [if_true] at h hbeyond ⊢
    cases hpath : s.rtspPath with
    | str t =>
      rw [hpath] at h hbeyond
      exact plain_of_accepted h hbeyond
    | arr items => exact absurd hpath (hcolumn.1 items)
    | obj fields => exact absurd hpath (hcolumn.2 fields)
    | null | bool | num =>
      rw [hpath] at h htruthy
      simp [rejectInjection, htruthy, Json.toSet?, Json.iter?] at h

/-! ## The invariant -/

variable (b) in
/-- The paths of the streams are plain, and the stream of the grid is named without `#`. -/
def CleanStreams (streams : List StreamRow) : Prop :=
  ∀ s ∈ streams, Plain (pathText b s) ∧ (s.isDefaultLive = true → '#' ∉ s.go2rtcName.toList)

variable (b) in
/-- What sources are made of is plain. -/
structure Clean (r : Registered) : Prop where
  host : Plain (strOf b r.row.host)
  port : '#' ∉ (strOf b (r.row.rtspPort.or (.num 554))).toList
  uuid : '#' ∉ r.row.uuid.toList
  streams : CleanStreams b r.streams

variable {e : Encode} {camera : CameraRow} {r r' : Registered} {s : Store} {uuid : String}
  {data streamDicts : Json} {actor : Nat}

theorem hash_not_mem_of_plain {text : String} (h : Plain text) : '#' ∉ text.toList := by
  intro hmem
  exact absurd (h '#' hmem) (by decide)

theorem hash_not_mem_go2rtcNameFor {role : String} (huuid : '#' ∉ uuid.toList)
    (hrole : '#' ∉ role.toList) : '#' ∉ (go2rtcNameFor uuid role).toList := by
  unfold go2rtcNameFor
  simp only [String.toList_append, List.mem_append, not_or]
  exact ⟨⟨⟨by decide, huuid⟩, by decide⟩, hrole⟩

/-- Marking a stream for the grid changes nothing else. -/
theorem mem_markLive {rows : List StreamRow} {st : StreamRow} (h : st ∈ markLive rows) :
    ∃ row ∈ rows, st.rtspPath = row.rtspPath := by
  cases rows with
  | nil => cases h
  | cons row rest =>
    unfold markLive at h
    dsimp only at h
    split at h
    · exact ⟨st, h, rfl⟩
    · rcases List.mem_cons.1 h with rfl | hrest
      · exact ⟨row, .head _, rfl⟩
      · exact ⟨st, .tail _ hrest, rfl⟩

/-- The rows of a list that is taken have passed the check, in columns of the database. -/
theorem rowsOf_taken (htruthy : streamDicts.truthy = true)
    (htaken : StreamsTaken b camera streamDicts) :
    b.takesStreams (rowsOf b camera streamDicts) = true ∧ ∀ row ∈ rowsOf b camera streamDicts,
      rejectInjection (row.rtspPath.or (.str "")) "rtsp_path" = .ok () := by
  obtain ⟨items, rfl, -, hpaths, htakes⟩ := htaken htruthy
  refine ⟨htakes, fun row hrow => ?_⟩
  obtain ⟨sd, hsd, rfl⟩ := List.mem_map.1 hrow
  exact hpaths sd hsd

/-- The streams of a list that is taken are clean where the list is plain. -/
theorem cleanStreams_of_taken (hb : Columns b) (huuid : '#' ∉ camera.uuid.toList)
    (hplain : StreamsPlain b camera streamDicts) (htaken : StreamsTaken b camera streamDicts) :
    CleanStreams b (markLive (rowsOf b camera streamDicts)) := by
  intro st hst
  cases htruthy : streamDicts.truthy with
  | false =>
    rw [rowsOf_eq_nil htruthy] at hst
    cases hst
  | true =>
    obtain ⟨hbeyond, hrole⟩ := hplain htaken st hst
    obtain ⟨htakes, hchecked⟩ := rowsOf_taken htruthy htaken
    obtain ⟨row, hrow, hpath⟩ := mem_markLive hst
    refine ⟨@plain_pathText b st "rtsp_path" ?_ ?_ hbeyond, fun hlive => ?_⟩
    · rw [hpath]
      exact hchecked row hrow
    · rw [hpath]
      exact hb.path _ htakes row hrow
    · rw [(named_markLive_rowsOf b camera streamDicts st hst).2]
      exact hash_not_mem_go2rtcNameFor huuid (hrole hlive)

/-! ## One request -/

/-- What sources are made of is the same. -/
structure SameSource (r r' : Registered) : Prop where
  host : r'.row.host = r.row.host
  rtspPort : r'.row.rtspPort = r.row.rtspPort
  uuid : r'.row.uuid = r.row.uuid
  streams : r'.streams = r.streams

theorem Clean.of_same (h : Clean b r) (hsame : SameSource r r') : Clean b r' := by
  refine ⟨?_, ?_, ?_, ?_⟩
  · rw [hsame.host]
    exact h.host
  · rw [hsame.rtspPort]
    exact h.port
  · rw [hsame.uuid]
    exact h.uuid
  · rw [hsame.streams]
    exact h.streams

theorem sameSource_setStatus (status : String) (error : Option String) (now : Int)
    (r : Registered) : SameSource r { r with row := setStatus status error now r.row } := by
  obtain ⟨lastSeenAt, lastError, heq⟩ := setStatus_eq status error now r.row
  rw [heq]
  exact ⟨rfl, rfl, rfl, rfl⟩

theorem sameSource_syncAndSetStatus (e : Encode) (loaded : List StreamRow) (markOnline : Bool)
    (now : Int) (r : Registered) : SameSource r (syncAndSetStatus e loaded markOnline now r) := by
  obtain ⟨status, lastSeenAt, lastError, heq⟩ := syncAndSetStatus_eq e loaded markOnline now r
  rw [heq]
  exact ⟨rfl, rfl, rfl, rfl⟩

/-- A camera whose streams are replaced keeps its columns, and has streams that are clean if the
list is plain. -/
theorem clean_resync (hb : Columns b) {markOnline : Bool} {now : Int} (h : Clean b r)
    (hplain : StreamsPlain b r.row streamDicts) :
    Clean b (resync b e streamDicts markOnline now r).1 := by
  rcases resync_cases b e streamDicts markOnline now r with ⟨htaken, heq⟩ | ⟨-, f, heq⟩
  · rw [heq]
    refine Clean.of_same ?_ (sameSource_syncAndSetStatus ..)
    refine ⟨h.host, h.port, h.uuid, ?_⟩
    dsimp only [newRows]
    split
    · exact cleanStreams_of_taken hb h.uuid hplain htaken
    · exact h.streams
  · rw [heq]
    exact ⟨h.host, h.port, h.uuid, nofun⟩

/-- A host that is given has passed the check without the white space around it. -/
theorem checkHost_eq_ok {host : Json} (h : checkHost b host = .ok ()) (hne : host ≠ .null) :
    rejectInjection (.str (String.ofList (Lib.strip (strOf b host).toList))) "host" = .ok () := by
  cases host with
  | null => exact absurd rfl hne
  | _ => exact h

theorem clean_create (hb : Columns b) {x : Registered} (hplain : CreatePlain b uuid data actor s)
    (hx : x ∈ (createOne b e (fun serial host channel =>
      (findDuplicate b s serial host channel).isSome) uuid data actor).1) : Clean b x := by
  rcases createOne_cases b e (fun serial host channel =>
    (findDuplicate b s serial host channel).isSome) uuid data actor with
    ⟨-, f, heq⟩ | ⟨row, hrow, htakes, hstreams⟩
  · rw [heq] at hx
    cases hx
  · obtain ⟨hhash, hrows⟩ := hplain
    obtain ⟨hbeyond, hlist⟩ := hrows row hrow htakes
    obtain ⟨name, host, channel, rtspTransport, hhost, hchecked, hstored⟩ := createRow_eq_ok hrow
    have huuid : row.uuid = uuid := by rw [hstored]; rfl
    have hclean (streams : List StreamRow) (h : CleanStreams b streams) :
        Clean b ⟨row, streams, ∅⟩ := by
      refine ⟨?_, hb.port row htakes, huuid ▸ hhash, h⟩
      rw [hstored]
      exact plain_of_accepted hchecked (hbeyond host hhost)
    rcases hstreams with ⟨htaken, heq⟩ | ⟨-, f, heq⟩
    · rw [heq] at hx
      obtain rfl := Option.some.inj hx
      have hnew := cleanStreams_of_taken hb (huuid ▸ hhash) hlist htaken
      exact (hclean _ hnew).of_same (sameSource_syncAndSetStatus ..)
    · rw [heq] at hx
      obtain rfl := Option.some.inj hx
      exact hclean [] nofun

theorem clean_update (hb : Columns b) (h : Clean b r) (hfound : getByUuid s uuid = some r)
    (hplain : UpdatePlain b uuid data actor s) : Clean b (updateOne b e data actor r).1 := by
  rcases updateOne_cases b e data actor r with ⟨-, f, heq⟩ | ⟨row, hrow, htakes, heq⟩
  · rw [heq]
    exact h
  · rw [heq]
    obtain ⟨hgiven, hlist⟩ := hplain r row hfound hrow htakes
    obtain ⟨hchecked, rtspTransport, hrow'⟩ := editRow_eq_ok hrow
    have huuid : row.uuid = r.row.uuid := by rw [hrow']; rfl
    have hstored : row.host = valueOr data "host" r.row.host := by rw [hrow']; rfl
    have hclean : Clean b { r with row } := by
      refine ⟨?_, hb.port row htakes, by rw [huuid]; exact h.uuid, h.streams⟩
      dsimp only
      rw [hstored, valueOr]
      split
      · exact h.host
      · next hne =>
        obtain ⟨hbeyond, hstrip⟩ := hgiven hne
        have hstripped := checkHost_eq_ok hchecked hne
        rw [hstrip, String.ofList_toList] at hstripped
        exact plain_of_accepted hstripped hbeyond
    exact clean_resync hb hclean hlist

theorem clean_reprobe (hb : Columns b) {probe : Probe} {now : Int} (h : Clean b r)
    (hfound : getByUuid s uuid = some r) (hplain : ProbePlain b uuid probe actor s) :
    Clean b (reprobeOne b e probe actor now r).1 := by
  cases probe with
  | unauthorized => exact h.of_same (sameSource_setStatus ..)
  | failed message => exact h.of_same (sameSource_setStatus ..)
  | raises => exact h
  | found result =>
    unfold reprobeOne
    dsimp only
    split
    · exact h.of_same (sameSource_setStatus ..)
    · split
      · next htakes =>
        have hprobed : Clean b { r with row := probedRow result actor r.row } :=
          ⟨h.host, hb.port _ htakes, h.uuid, h.streams⟩
        split
        · exact clean_resync hb hprobed (hplain r result hfound rfl htakes)
        · exact hprobed.of_same (sameSource_setStatus ..)
      · exact h

/-! ## All cameras -/

theorem mem_put (h : r ∈ put uuid r' s) : r = r' ∨ r ∈ s := by
  induction s with
  | nil => cases h
  | cons x s ih =>
    rw [put] at h
    split at h
    · exact (List.mem_cons.1 h).imp_right (.tail _)
    · rcases List.mem_cons.1 h with rfl | h
      · exact .inr (.head _)
      · exact (ih h).imp_right (.tail _)

/-- What every item that a batch comes to keeps holds after the batch. -/
theorem batchItems_invariant {I : Store → Prop} {uuids : Nat → String} {common : Json} {idx : Nat}
    {items : List Json}
    (hstep : ∀ k item t data, Reaches b e uuids common actor idx items s k item t →
      merged common item = .ok data → I t → I (create b e (uuids k) data actor t).1)
    (hs : I s) : I (batchItems b e uuids common actor idx items s).1 := by
  induction items generalizing idx s with
  | nil => exact hs
  | cons item rest ih =>
    have hitem : I (batchItem b e uuids common actor idx item s).1 := by
      unfold batchItem
      split
      · exact hs
      · next data hdata =>
        split
        · exact hs
        · exact hstep idx item s data .here hdata hs
    rw [batchItems]
    rcases hres : batchItem b e uuids common actor idx item s with ⟨s', f | result⟩
    · rw [hres] at hitem
      exact hitem
    · rw [hres] at hitem
      exact ih (fun k item t data hreach => hstep k item t data (.next hres hreach)) hitem

theorem clean_store_create (hb : Columns b) (hs : ∀ r ∈ s, Clean b r)
    (hplain : CreatePlain b uuid data actor s) :
    ∀ r ∈ (create b e uuid data actor s).1, Clean b r := by
  intro r hr
  unfold create at hr
  rcases List.mem_append.1 hr with hr | hr
  · exact hs r hr
  · exact clean_create hb hplain (Option.mem_toList.1 hr)

theorem clean_put (hs : ∀ r ∈ s, Clean b r) (h : Clean b r') : ∀ r ∈ put uuid r' s, Clean b r := by
  intro r hr
  rcases mem_put hr with rfl | hr
  · exact h
  · exact hs r hr

/-- A request that is plain keeps all cameras clean. -/
theorem clean_sourceStep {x : Encode × SourceRequest} (hb : Columns b) (hs : ∀ r ∈ s, Clean b r)
    (hplain : RequestPlain b s x) : ∀ r ∈ sourceStep b s x, Clean b r := by
  obtain ⟨e, request⟩ := x
  cases request with
  | create uuid data actor => exact clean_store_create hb hs hplain
  | batchCreate uuids featureOn items common actor =>
    unfold sourceStep
    dsimp only
    unfold batchCreate
    split
    · exact hs
    · split
      · next item rest =>
        split
        · exact hs
        · refine batchItems_invariant (I := fun t => ∀ r ∈ t, Clean b r) ?_ hs
          intro k x t data hreach hdata ht
          exact clean_store_create hb ht (hplain _ rfl k x t data hreach hdata)
      · exact hs
  | update uuid data actor =>
    unfold sourceStep
    dsimp only
    unfold update
    split
    · exact hs
    · next r hfound =>
      have hr : Clean b r := hs r (List.mem_of_find?_eq_some hfound)
      exact clean_put hs (clean_update hb hr hfound hplain)
  | reprobe uuid probe actor now =>
    unfold sourceStep
    dsimp only
    unfold reprobe
    split
    · exact hs
    · next r hfound =>
      have hr : Clean b r := hs r (List.mem_of_find?_eq_some hfound)
      exact clean_put hs (clean_reprobe hb hr hfound hplain)

/-! ## Sources -/

theorem hash_not_mem_append {text text' : String} :
    '#' ∉ (text ++ text').toList ↔ '#' ∉ text.toList ∧ '#' ∉ text'.toList := by
  rw [String.toList_append, List.mem_append, not_or]

/-- The address and the transport of a stream that is clean. -/
theorem sourceParts_whole {st : StreamRow} (h : Clean b r) (hpath : Plain (pathText b st)) :
    '#' ∉ (sourceParts b r.row st).1.toList ∧ ((sourceParts b r.row st).2 = "" ∨
      ∃ transport, (sourceParts b r.row st).2 = "#" ++ transport ∧ '#' ∉ transport.toList) := by
  unfold sourceParts
  dsimp only
  constructor
  · simp only [hash_not_mem_append]
    refine ⟨by decide, ?_, hash_not_mem_of_plain h.host, by decide, h.port,
      hash_not_mem_of_plain hpath⟩
    split
    · decide
    · simp only [hash_not_mem_append]
      exact ⟨⟨⟨hash_not_mem_quote _, by decide⟩, hash_not_mem_quote _⟩, by decide⟩
  · generalize b.lower _ = transport
    split
    · next htransport =>
      refine .inr ⟨"input=rtsp/" ++ transport, rfl, hash_not_mem_append.2 ⟨by decide, ?_⟩⟩
      simp only [List.mem_cons, List.not_mem_nil, or_false] at htransport
      rcases htransport with heq | heq
      · rw [heq]
        decide
      · rw [heq]
        decide
    · exact .inl rfl

/-- The source of a stream, of streams that are clean. -/
theorem buildSource_whole {st : StreamRow} {streams : List StreamRow} {offloaded : Bool}
    (h : Clean b r) (hstreams : CleanStreams b streams) (hst : st ∈ streams) :
    (buildSource b offloaded r.row streams st).Whole := by
  have hparts := sourceParts_whole h (hstreams st hst).1
  unfold buildSource
  dsimp only
  split
  · split
    · next name hname =>
      split at hname
      · obtain ⟨live, hlive, rfl⟩ := Option.map_eq_some_iff.1 hname
        obtain ⟨hmem, hdefault⟩ := mem_of_defaultLiveStream hlive
        exact hash_not_mem_append.2 ⟨(hstreams live hmem).2 hdefault, by decide⟩
      · cases hname
    · exact hparts
  · exact hparts

/-! ## Whole runs -/

/-- In every run of plain requests from before the first camera, the host and the paths that are
stored have no forbidden characters, and every source of a camera, be it of streams that were loaded
before the last requests, splits into the fields that are meant. -/
theorem no_source_injection (hb : Columns b) {as bs : List (Encode × SourceRequest)} {s s' : Store}
    (h : Run (sourceStep b) (RequestPlain b) [] as s)
    (h' : Run (sourceStep b) (RequestPlain b) s bs s') :
    (∀ r ∈ s', PlainCamera b r) ∧ ∀ r ∈ s', ∀ r₀ ∈ s, ∀ st ∈ r₀.streams, ∀ offloaded,
      (buildSource b offloaded r.row r₀.streams st).Splits := by
  have hkeep (t : Store) (x : Encode × SourceRequest) (ht : ∀ r ∈ t, Clean b r)
      (hx : RequestPlain b t x) : ∀ r ∈ sourceStep b t x, Clean b r := clean_sourceStep hb ht hx
  have hclean : ∀ r ∈ s, Clean b r := h.invariant hkeep (fun r hr => absurd hr List.not_mem_nil)
  have hclean' : ∀ r ∈ s', Clean b r := h'.invariant hkeep hclean
  refine ⟨fun r hr => ?_, fun r hr r₀ hr₀ st hst offloaded => ?_⟩
  · have hr := hclean' r hr
    exact ⟨hr.host, fun st hst => (hr.streams st hst).1⟩
  · exact LiveSource.splits_of_whole (buildSource_whole (hclean' r hr) (hclean r₀ hr₀).streams hst)

/-- A database whose port is a number and whose path is no list and no object, over ASCII texts. -/
def typed : Backend where
  lower := accepting.lower
  text
    | .num q => String.ofList (Nat.toDigits 10 q.num.toNat)
    | _ => "None"
  equals x y := x = y
  takesCamera row := match row.rtspPort.or (.num 554) with
    | .num _ => true
    | _ => false
  takesStreams rows := rows.all fun s => match s.rtspPath with
    | .arr _ | .obj _ => false
    | _ => true

theorem columns_typed : Columns typed := by
  refine ⟨fun row h => ?_, fun rows h s hs => ?_⟩
  · dsimp only [typed] at h
    split at h
    · next q hport =>
      rw [hport]
      dsimp only [strOf, typed]
      rw [String.toList_ofList]
      intro hmem
      exact absurd (Nat.isDigit_of_mem_toDigits (by decide) (by decide) hmem) (by decide)
    · cases h
  · have hrow := List.all_eq_true.1 h s hs
    constructor
    · rintro items hpath
      rw [hpath] at hrow
      cases hrow
    · rintro fields hpath
      rw [hpath] at hrow
      cases hrow

def registerRequest : Encode × SourceRequest := (⟨true, true⟩, .create "1" (bodyOf ["main"]) 7)

def moveRequest (host : String) : Encode × SourceRequest :=
  (⟨true, true⟩, .update "1" (.obj [("host", .str host)]) 7)

theorem plain_registerRequest : RequestPlain typed [] registerRequest := by
  refine ⟨by decide, fun row _ _ => ⟨fun host hhost => ?_, fun _ st hst => ?_⟩⟩
  · have hstripped : strippedText ((bodyOf ["main"]).field "host") = .ok "10.0.0.5" := rfl
    obtain rfl := Except.ok.inj (hstripped.symm.trans hhost)
    decide
  · have hrows : ∃ st, markLive (rowsOf typed row (createStreams (bodyOf ["main"]))) = [st] ∧
        pathText typed st = "/a" ∧ st.role = "main" := ⟨_, rfl, rfl, rfl⟩
    obtain ⟨st', hrows, hpath, hrole⟩ := hrows
    rw [hrows] at hst
    obtain rfl := List.mem_singleton.1 hst
    rw [hpath, hrole]
    exact ⟨by decide, fun _ => by decide⟩

theorem plain_moveRequest (s : Store) : RequestPlain typed s (moveRequest "10.0.0.6") := by
  refine fun r row _ _ _ => ⟨fun _ => ?_, fun _ st hst => absurd hst List.not_mem_nil⟩
  decide +kernel

/-- A camera that is registered and moved, with the streams that were loaded before. -/
theorem no_source_injection_moved :
    let s := sourceStep typed [] registerRequest
    let s' := sourceStep typed s (moveRequest "10.0.0.6")
    s'.map (fun r => r.row.host) = [.str "10.0.0.6"] ∧ (∀ r ∈ s', PlainCamera typed r) ∧
      ∀ r ∈ s', ∀ r₀ ∈ s, ∀ st ∈ r₀.streams, ∀ offloaded,
        (buildSource typed offloaded r.row r₀.streams st).Splits :=
  ⟨by decide +kernel, no_source_injection columns_typed (.cons plain_registerRequest .nil)
    (.cons (plain_moveRequest _) .nil)⟩

/-- An edit stores the host with the white space around it, a new camera has a host with a control
character, and a role with a `#` comes into the name that go2rtc reads the stream of a node by. -/
theorem source_injection_stored :
    let e : Encode := ⟨true, true⟩
    let roles : Json := .arr [.obj [("role", .str "a#b"), ("codec", .str "h265")]]
    let spaced := [registerRequest, moveRequest " 10.0.0.5\n"].foldl (sourceStep typed) []
    let control := [(e, SourceRequest.create "1"
      (.obj [("host", .str "10.0.0.5\x7f"), ("name", .str "Door")]) 7)].foldl (sourceStep typed) []
    let named := [registerRequest, (e, .update "1" (.obj [("streams", roles)]) 7)].foldl
      (sourceStep typed) []
    (∃ r ∈ spaced, ¬ PlainCamera typed r) ∧ (∃ r ∈ control, ¬ PlainCamera typed r) ∧
      ∃ r ∈ named, ∃ st ∈ r.streams, ¬ (buildSource typed true r.row r.streams st).Splits := by
  decide +kernel

end

end Registration

end AeroXProtect
