import AeroXProtect.Camera.Injection

/-!
# The rows that the encoder nodes are scheduled by

The scheduler of the encoder nodes has the columns of cameras and streams with their types
(`LiveCamera`, `LiveStream`), the controller of the cameras has what the requests have stored, any
JSON. Both build the sources of go2rtc from them, and on rows whose columns have their types they
build the same (`buildSource_eq`).
-/

open Lib

namespace AeroXProtect

namespace Registration

/-- A row of `streams` whose columns have their types, as the scheduler of the encoder nodes reads
it. -/
structure ReadsStream (st : StreamRow) (stream : LiveStream) : Prop where
  go2rtcName : st.go2rtcName = stream.go2rtcName
  rtspPath : st.rtspPath = (stream.rtspPath.map Json.str).getD .null
  codec : st.codec = (stream.codec.map Json.str).getD .null
  isDefaultLive : st.isDefaultLive = stream.isDefaultLive
  enabled : st.enabled = stream.enabled

/-- So for a row of `cameras` with its streams. -/
structure ReadsCamera (row : CameraRow) (streams : List StreamRow) (camera : LiveCamera) :
    Prop where
  host : row.host = .str camera.host
  rtspPort : row.rtspPort = (camera.rtspPort.map fun n : Nat => Json.num n).getD .null
  rtspTransport : row.rtspTransport = camera.rtspTransport
  username : row.username = camera.username
  password : row.password = camera.password
  liveTranscode : row.liveTranscode = camera.liveTranscode
  streams : List.Forall₂ ReadsStream streams camera.streams

section
variable {b : Backend} {row : CameraRow} {streams : List StreamRow} {camera : LiveCamera}
  {st : StreamRow} {stream : LiveStream}

theorem liveTranscodeEnabled_eq (h : ReadsCamera row streams camera) (hs : ReadsStream st stream) :
    liveTranscodeEnabled row st = camera.liveTranscodeEnabled stream := by
  unfold liveTranscodeEnabled LiveCamera.liveTranscodeEnabled
  rw [hs.isDefaultLive, h.liveTranscode, hs.codec]
  cases stream.codec with
  | none => simp
  | some codec =>
    congr 2
    rw [Bool.eq_iff_iff]
    simp

theorem encName_defaultLiveStream (h : List.Forall₂ ReadsStream streams camera.streams) :
    (defaultLiveStream streams).map encName = camera.defaultLiveStream.map LiveStream.encName := by
  unfold defaultLiveStream LiveCamera.defaultLiveStream
  generalize camera.streams = live at h
  induction h with
  | nil => rfl
  | @cons st stream streams rest hs _ ih =>
    rw [List.find?_cons, List.find?_cons, hs.isDefaultLive, hs.enabled]
    cases stream.isDefaultLive && stream.enabled with
    | true => simp [encName, LiveStream.encName, hs.go2rtcName]
    | false => exact ih

theorem sourceParts_eq (hlower : ∀ s, b.lower s = s.toLower)
    (htext : ∀ n : Nat, b.text (.num n) = toString n) (h : ReadsCamera row streams camera)
    (hs : ReadsStream st stream) : sourceParts b row st = camera.sourceParts stream := by
  have hport : strOf b (row.rtspPort.or (.num 554)) =
      toString (if camera.rtspPort.getD 0 = 0 then 554 else camera.rtspPort.getD 0) := by
    rw [h.rtspPort]
    cases camera.rtspPort with
    | none => exact htext 554
    | some n =>
      by_cases hn : n = 0
      · subst hn
        exact htext 554
      · rw [Option.map_some, Option.getD_some, Option.getD_some, if_neg hn, Json.or, if_pos]
        · exact htext n
        · simpa [Json.truthy] using hn
  have hpath : pathText b st = stream.rtspPath.getD "" := by
    unfold pathText
    rw [hs.rtspPath]
    cases stream.rtspPath with
    | none => rfl
    | some path =>
      by_cases hpath : path = ""
      · subst hpath
        rfl
      · simp [Json.or, Json.truthy, hpath, strOf]
  unfold sourceParts LiveCamera.sourceParts
  have hhost : strOf b (.str camera.host) = camera.host := rfl
  have hinput : "#input=rtsp/" = "#" ++ "input=rtsp/" := by decide
  simp only [hport, hpath, hinput, h.host, hhost, h.username, h.password, h.rtspTransport, hlower,
    String.isEmpty_iff, Bool.or_eq_true, beq_iff_eq, List.mem_cons, List.not_mem_nil, or_false,
    String.append_assoc]

/-- An encoder node publishes the stream of the grid. -/
theorem liveOffloadTarget_cases (s : EncodeSched) (camera : LiveCamera) :
    s.liveOffloadTarget camera = none ∨
      s.liveOffloadTarget camera = camera.defaultLiveStream.map LiveStream.encName := by
  unfold EncodeSched.liveOffloadTarget
  cases s.assignmentFor camera with
  | none => exact .inl rfl
  | some a =>
    simp only [Option.bind_eq_bind, Option.bind_some]
    split
    · cases s.getNode a.nodeId with
      | none => exact .inl rfl
      | some node =>
        rw [Option.bind_some]
        split
        · exact .inr rfl
        · exact .inl rfl
    · exact .inl rfl

/-- The source of a stream is the one that the scheduler of the encoder nodes reads from rows whose
columns have their types. -/
theorem buildSource_eq (hlower : ∀ s, b.lower s = s.toLower)
    (htext : ∀ n : Nat, b.text (.num n) = toString n) (h : ReadsCamera row streams camera)
    (hs : ReadsStream st stream) (s : EncodeSched) :
    buildSource b (s.liveOffloadTarget camera).isSome row streams st =
      s.buildSource camera stream := by
  have hname (target : Option String) (htarget : s.liveOffloadTarget camera = target) :
      (if target.isSome then camera.defaultLiveStream.map LiveStream.encName else none) =
        target := by
    rcases liveOffloadTarget_cases s camera with heq | heq
    · rw [← htarget, heq]
      rfl
    · rw [← htarget, heq]
      cases camera.defaultLiveStream <;> rfl
  unfold buildSource EncodeSched.buildSource
  rw [sourceParts_eq hlower htext h hs, liveTranscodeEnabled_eq h hs,
    encName_defaultLiveStream h.streams]
  cases htarget : s.liveOffloadTarget camera with
  | none => simp only [hname none htarget]
  | some name => simp only [hname (some name) htarget]

end

end Registration

end AeroXProtect
