import AeroXProtect.Lib.Dates
import AeroXProtect.Lib.Fields
import AeroXProtect.Lib.Text
import AeroXProtect.Playback.Timeline
import Mathlib

/-!
# The playlist of a camera

`buildM3u8` writes the recorded segments of a window as a text that a player reads: the longest
duration, and for each segment its instant, its duration, its address, and whether the recording was
interrupted before it. `readM3u8` is what a player makes of such a text, line by line.

`readM3u8_buildM3u8` says that a player reads back exactly the segments of the window, in order,
and that none is longer than announced.
-/

open Lib

namespace AeroXProtect

namespace Playlist

/-! ## The text -/

/-- `'%Y-%m-%dT%H:%M:%S.'` and `'%03dZ'`. -/
def isoFields : List Field :=
  [.digits 4, .lit '-', .digits 2, .lit '-', .digits 2, .lit 'T', .digits 2, .lit ':', .digits 2,
    .lit ':', .digits 2, .lit '.', .digits 3, .lit 'Z']

/-- The fields of an instant: its date, its time of day and its milliseconds. -/
def fieldsOf (t : Int) : List Nat := clockFields t ++ [(t % seconds 1 / 1000).toNat]

/-- Source: `_iso_utc` (`server/service/playback_planner.py:47`). -/
def isoUtc (t : Int) : List Char := printFields isoFields (fieldsOf t)

/-- `d or 10000` -/
def durationOr (d : Int) : Int := if d = 0 then 10000 else d

/-- `math.ceil(d / 1000.0)` of whole milliseconds. -/
def ceilSeconds (d : Int) : Int := -(-d / 1000)

/-- `'%.3f' % (d / 1000.0)` of whole milliseconds. -/
def fixed3 (d : Int) : List Char :=
  (if d < 0 then ['-'] else []) ++ Nat.toDigits 10 (d.natAbs / 1000) ++
    '.' :: padded 3 (d.natAbs % 1000)

/-- The address of a segment. -/
def segmentUri (token : List Char) (transcode : Bool) (g : Segment) : List Char :=
  "/api/v1/playback/segments/".toList ++ Nat.toDigits 10 g.id ++ "/hls".toList ++
    "?access_token=".toList ++ token ++ if transcode then "&transcode=h264".toList else []

/-- Whether the recording was interrupted before a segment; `prevEnd` is the end of the segment
before, if there is one. -/
def interrupted (prevEnd : Option Int) (g : Segment) : Bool :=
  prevEnd.any fun e => decide (g.startTs - e > seconds 1)

/-- The lines of the segments. -/
def segmentLines (durationMs : Segment → Int) (token : List Char) (transcode : Bool) :
    Option Int → List Segment → List (List Char)
  | _, [] => []
  | prevEnd, g :: rest =>
    (if interrupted prevEnd g then ["#EXT-X-DISCONTINUITY".toList] else []) ++
      ["#EXT-X-PROGRAM-DATE-TIME:".toList ++ isoUtc g.startTs,
        "#EXTINF:".toList ++ fixed3 (durationOr (durationMs g)) ++ [','],
        segmentUri token transcode g] ++
      segmentLines durationMs token transcode (some g.endTs) rest

/-- The longest duration, in seconds. -/
def targetDuration (durationMs : Segment → Int) (segments : List Segment) : Int :=
  ((segments.map fun g => ceilSeconds (durationOr (durationMs g))).max?).getD 10

/-- The lines before the segments. -/
def headerLines (target : Int) : List (List Char) :=
  ["#EXTM3U".toList, "#EXT-X-VERSION:3".toList, "#EXT-X-PLAYLIST-TYPE:VOD".toList,
    "#EXT-X-TARGETDURATION:".toList ++ formatInt target, "#EXT-X-MEDIA-SEQUENCE:0".toList]

/-- Source: `build_m3u8` (`server/service/playback_planner.py:52`). -/
def buildM3u8 (durationMs : Segment → Int) (t : Segments) (cameraId : Nat) (start stop : Int)
    (token : List Char) (transcode : Bool) : List Char :=
  let segments := t.getRange cameraId start stop (some .main)
  let lines := headerLines (targetDuration durationMs segments) ++
    segmentLines durationMs token transcode none segments ++ ["#EXT-X-ENDLIST".toList]
  List.intercalate ['\n'] lines ++ ['\n']

/-! ## Reading -/

/-- What a player knows of a segment before its address. -/
structure SegmentTags where
  date : Option Int
  duration : Option Int
  discontinuity : Bool
  deriving DecidableEq, Repr

/-- A segment that a player has read. -/
structure MediaSegment extends SegmentTags where
  uri : List Char
  deriving DecidableEq, Repr

/-- What a player has read: the segments, the tags of the next one, the longest duration, and
whether nothing follows. -/
structure MediaPlaylist where
  segments : List MediaSegment
  tags : SegmentTags
  target : Option Int
  ended : Bool
  deriving DecidableEq, Repr

/-- What a line says behind a tag. -/
def value? (tag : String) (line : List Char) : Option (List Char) :=
  if tag.toList.isPrefixOf line then some (line.drop tag.toList.length) else none

/-- The number that a text of decimal digits says. -/
def readInt (s : List Char) : Int :=
  if s.head? = some '-' then -(Nat.ofDigitChars 10 s.tail 0 : Int) else Nat.ofDigitChars 10 s 0

/-- The milliseconds of a duration in seconds with three decimals. -/
def readMillis (s : List Char) : Option Int :=
  (cut '.' s).bind fun parts => (readDigits 3 parts.2).map fun x =>
    if s.head? = some '-' then -(1000 * Nat.ofDigitChars 10 parts.1.tail 0 + x.1 : Nat)
    else (1000 * Nat.ofDigitChars 10 parts.1 0 + x.1 : Nat)

/-- The instant that a date says. -/
def readIso (s : List Char) : Option Int :=
  (readFields isoFields s).map fun x =>
    days (dayNumber (x.1.getD 0 0) (x.1.getD 1 0) (x.1.getD 2 0)) +
      seconds (3600 * (x.1.getD 3 0 : Int) + 60 * (x.1.getD 4 0 : Int) + (x.1.getD 5 0 : Int)) +
      1000 * (x.1.getD 6 0 : Int)

namespace MediaPlaylist

def init : MediaPlaylist := ⟨[], ⟨none, none, false⟩, none, false⟩

/-- A line that gives a segment its address. -/
def address (p : MediaPlaylist) (uri : List Char) : MediaPlaylist :=
  { p with segments := p.segments ++ [⟨p.tags, uri⟩], tags := ⟨none, none, false⟩ }

/-- A tag with a value; any other comment is passed over. -/
def readTag (p : MediaPlaylist) (line : List Char) : MediaPlaylist :=
  match value? "#EXTINF:" line with
  | some v => { p with tags := { p.tags with duration := (cut ',' v).bind (readMillis ·.1) } }
  | none =>
    match value? "#EXT-X-PROGRAM-DATE-TIME:" line with
    | some v => { p with tags := { p.tags with date := readIso v } }
    | none =>
      match value? "#EXT-X-TARGETDURATION:" line with
      | some v => { p with target := some (readInt v) }
      | none => p

/-- One line: an address, a tag, or nothing. -/
def readLine (p : MediaPlaylist) (line : List Char) : MediaPlaylist :=
  if line = [] then p
  else if line.head? ≠ some '#' then p.address line
  else if line = "#EXT-X-ENDLIST".toList then { p with ended := true }
  else if line = "#EXT-X-DISCONTINUITY".toList then
    { p with tags := { p.tags with discontinuity := true } }
  else p.readTag line

end MediaPlaylist

/-- What a player reads of a text; `none` for one that is no playlist. -/
def readM3u8 (text : List Char) : Option MediaPlaylist :=
  if (text.splitOn '\n').head? = some "#EXTM3U".toList then
    some ((text.splitOn '\n').foldl MediaPlaylist.readLine .init)
  else none

/-- The segments as a player is to read them. -/
def mediaSegments (durationMs : Segment → Int) (token : List Char) (transcode : Bool) :
    Option Int → List Segment → List MediaSegment
  | _, [] => []
  | prevEnd, g :: rest =>
    ⟨⟨some (g.startTs - g.startTs % 1000), some (durationOr (durationMs g)), interrupted prevEnd g⟩,
        segmentUri token transcode g⟩ ::
      mediaSegments durationMs token transcode (some g.endTs) rest

/-! ## The parts of a line -/

section
variable {c : Char}

/-- The numbers of an instant fit the format. -/
theorem fits_fieldsOf {t : Int} (h : IsDatetime t) : Fits isoFields (fieldsOf t) := by
  obtain ⟨hlow, hhigh⟩ := h
  unfold days seconds at hlow hhigh
  have hdate := isDate_dateOf (t / days 1 + 719162).toNat
  have hmonth := hdate.month_range
  have hday := hdate.day_range
  have hyear := hdate.year_lt (by unfold days seconds; omega)
  have hle := @daysInMonth_le (dateOf (t / days 1 + 719162).toNat).1
    (dateOf (t / days 1 + 719162).toNat).2.1
  unfold fieldsOf seconds
  refine ⟨by decide, _, _, rfl, ?_, by decide, _, _, rfl, ?_, by decide, _, _, rfl, ?_,
    by decide, _, _, rfl, ?_, by decide, _, _, rfl, ?_, by decide, _, _, rfl, ?_,
    by decide, _, _, rfl, ?_, rfl⟩
  all_goals
    unfold days seconds at *
    omega

/-- The date of an instant is read as the instant, to the millisecond. -/
theorem readIso_isoUtc {t : Int} (h : IsDatetime t) : readIso (isoUtc t) = some (t - t % 1000) := by
  have hread := readFields_printFields (fits_fieldsOf h) []
  rw [List.append_nil] at hread
  have hdate := (isDate_dateOf (t / days 1 + 719162).toNat).dayNumber
  obtain ⟨hlow, -⟩ := h
  rw [readIso, isoUtc, hread, Option.map_some]
  simp only [fieldsOf, clockFields, List.cons_append, List.nil_append, List.getD_cons_zero,
    List.getD_cons_succ, hdate]
  unfold days seconds at *
  congr 1
  omega

theorem isDigit_ne {d : Char} (h : c.isDigit = true) (hd : d.isDigit = false) : c ≠ d := by
  rintro rfl
  rw [h] at hd
  cases hd

/-- The characters of a duration. -/
theorem mem_fixed3 {d : Int} (h : c ∈ fixed3 d) : c.isDigit = true ∨ c = '-' ∨ c = '.' := by
  rcases List.mem_append.1 h with h | h
  · rcases List.mem_append.1 h with h | h
    · split at h
      · exact .inr (.inl (List.mem_singleton.1 h))
      · cases h
    · exact .inl (isDigit_toDigits h)
  · rcases List.mem_cons.1 h with rfl | h
    · exact .inr (.inr rfl)
    · exact .inl (isDigit_padded h)

theorem head?_toDigits_append (n : Nat) (s : List Char) :
    (Nat.toDigits 10 n ++ s).head? ≠ some '-' := by
  obtain ⟨c, cs, hcs⟩ := List.exists_cons_of_ne_nil (@Nat.toDigits_ne_nil n 10)
  have hc : c.isDigit = true := isDigit_toDigits (n := n) (hcs ▸ List.mem_cons_self)
  rw [hcs, List.cons_append, List.head?_cons]
  exact fun h => isDigit_ne hc (by decide) (Option.some.inj h)

/-- A duration is read back. -/
theorem readMillis_fixed3 (d : Int) : readMillis (fixed3 d) = some d := by
  have hdot : '.' ∉ Nat.toDigits 10 (d.natAbs / 1000) :=
    fun h => isDigit_ne (isDigit_toDigits h) (by decide) rfl
  have hfrac := readDigits_padded (w := 3) (n := d.natAbs % 1000) (by decide) (by omega) []
  rw [List.append_nil] at hfrac
  unfold readMillis fixed3
  by_cases hneg : d < 0
  · rw [if_pos hneg, cut_append (by simpa using hdot), Option.bind_some, hfrac]
    simp only [List.cons_append, List.nil_append, List.head?_cons, if_true, List.tail_cons,
      Nat.ofDigitChars_ten_toDigits, Option.map_some]
    congr 1
    omega
  · rw [if_neg hneg, List.nil_append, cut_append hdot, Option.bind_some, hfrac, Option.map_some,
      if_neg (head?_toDigits_append _ _), Nat.ofDigitChars_ten_toDigits]
    congr 1
    omega

theorem readInt_formatInt (n : Int) : readInt (formatInt n) = n := by
  unfold readInt formatInt
  by_cases hneg : n < 0
  · simp only [if_pos hneg, List.singleton_append, List.head?_cons, if_true, List.tail_cons,
      Nat.ofDigitChars_ten_toDigits]
    omega
  · have hhead := head?_toDigits_append n.natAbs []
    rw [List.append_nil] at hhead
    rw [if_neg hneg, List.nil_append, if_neg hhead, Nat.ofDigitChars_ten_toDigits]
    omega

end

/-! ## The lines -/

section
variable {p : MediaPlaylist} {v : List Char}

theorem value?_append (tag : String) (v : List Char) : value? tag (tag.toList ++ v) = some v := by
  rw [value?, if_pos (List.isPrefixOf_iff_prefix.2 (List.prefix_append _ _)), List.drop_left]

/-- A line with another tag. -/
theorem value?_eq_none {tag tag' : String} (h : ¬ tag'.toList <+: tag.toList)
    (h' : ¬ tag.toList <+: tag'.toList) (v : List Char) : value? tag' (tag.toList ++ v) = none := by
  refine if_neg fun hpre => ?_
  rcases List.prefix_or_prefix_of_prefix (List.isPrefixOf_iff_prefix.1 hpre)
    (List.prefix_append tag.toList v) with hle | hle
  · exact h hle
  · exact h' hle

/-- A line with a tag that has a value. -/
theorem readLine_tag {tag : String} (hhash : tag.toList.head? = some '#')
    (hend : ¬ tag.toList <+: "#EXT-X-ENDLIST".toList)
    (hdisc : ¬ tag.toList <+: "#EXT-X-DISCONTINUITY".toList) (p : MediaPlaylist) (v : List Char) :
    p.readLine (tag.toList ++ v) = p.readTag (tag.toList ++ v) := by
  have hhead : (tag.toList ++ v).head? = some '#' := by
    rw [List.head?_append, hhash]
    rfl
  have hne : ∀ {line}, ¬ tag.toList <+: line → tag.toList ++ v ≠ line := by
    rintro line h rfl
    exact h (List.prefix_append _ _)
  rw [MediaPlaylist.readLine, if_neg (hne fun h => ?_), if_neg (not_not.2 hhead), if_neg (hne hend),
    if_neg (hne hdisc)]
  rw [List.prefix_nil.1 h] at hhash
  cases hhash

/-- A line that is only a comment to a player. -/
theorem readLine_comment {line : List Char} (hhash : line.head? = some '#')
    (hend : line ≠ "#EXT-X-ENDLIST".toList) (hdisc : line ≠ "#EXT-X-DISCONTINUITY".toList)
    (hinf : value? "#EXTINF:" line = none) (hdate : value? "#EXT-X-PROGRAM-DATE-TIME:" line = none)
    (htarget : value? "#EXT-X-TARGETDURATION:" line = none) (p : MediaPlaylist) :
    p.readLine line = p := by
  rw [MediaPlaylist.readLine, if_neg, if_neg (not_not.2 hhash), if_neg hend, if_neg hdisc,
    MediaPlaylist.readTag, hinf, hdate, htarget]
  rintro rfl
  cases hhash

theorem readLine_duration (p : MediaPlaylist) (v : List Char) :
    p.readLine ("#EXTINF:".toList ++ v) =
      { p with tags := { p.tags with duration := (cut ',' v).bind (readMillis ·.1) } } := by
  rw [readLine_tag rfl (by decide) (by decide), MediaPlaylist.readTag, value?_append]

theorem readLine_date (p : MediaPlaylist) (v : List Char) :
    p.readLine ("#EXT-X-PROGRAM-DATE-TIME:".toList ++ v) =
      { p with tags := { p.tags with date := readIso v } } := by
  rw [readLine_tag rfl (by decide) (by decide), MediaPlaylist.readTag,
    value?_eq_none (by decide) (by decide), value?_append]

theorem readLine_target (p : MediaPlaylist) (v : List Char) :
    p.readLine ("#EXT-X-TARGETDURATION:".toList ++ v) = { p with target := some (readInt v) } := by
  rw [readLine_tag rfl (by decide) (by decide), MediaPlaylist.readTag,
    value?_eq_none (by decide) (by decide), value?_eq_none (by decide) (by decide), value?_append]

theorem head?_segmentUri (token : List Char) (transcode : Bool) (g : Segment) :
    (segmentUri token transcode g).head? = some '/' := by
  have hhead : "/api/v1/playback/segments/".toList.head? = some '/' := by decide
  unfold segmentUri
  simp only [List.append_assoc, List.head?_append, hhead, Option.some_or]

theorem readLine_uri (p : MediaPlaylist) (token : List Char) (transcode : Bool) (g : Segment) :
    p.readLine (segmentUri token transcode g) = p.address (segmentUri token transcode g) := by
  have hhead := head?_segmentUri token transcode g
  rw [MediaPlaylist.readLine, if_neg, if_pos]
  · rw [hhead]
    decide
  · intro hnil
    rw [hnil] at hhead
    cases hhead

/-- The lines of the segments are read as the segments. -/
theorem foldl_segmentLines {durationMs : Segment → Int} {token : List Char} {transcode : Bool}
    {prevEnd : Option Int} {gs : List Segment} (h : ∀ g ∈ gs, IsDatetime g.startTs)
    (hp : p.tags = ⟨none, none, false⟩) :
    (segmentLines durationMs token transcode prevEnd gs).foldl MediaPlaylist.readLine p =
      { p with segments := p.segments ++ mediaSegments durationMs token transcode prevEnd gs } := by
  induction gs generalizing p prevEnd with
  | nil => simp [segmentLines, mediaSegments]
  | cons g gs ih =>
    have hcomma : ',' ∉ fixed3 (durationOr (durationMs g)) := by
      intro hmem
      rcases mem_fixed3 hmem with h | h | h
      · exact absurd h (by decide)
      · exact absurd h (by decide)
      · exact absurd h (by decide)
    have hdisc : (if interrupted prevEnd g then ["#EXT-X-DISCONTINUITY".toList] else []).foldl
        MediaPlaylist.readLine p =
          { p with tags := { p.tags with discontinuity := interrupted prevEnd g } } := by
      cases interrupted prevEnd g
      · rw [hp]
        cases p
        cases hp
        rfl
      · rfl
    rw [segmentLines, List.foldl_append, List.foldl_append, hdisc]
    simp only [List.foldl_cons, List.foldl_nil, readLine_date, List.append_assoc, readLine_duration,
      readLine_uri, cut_append hcomma, readIso_isoUtc (h g (.head _)), Option.bind_some,
      readMillis_fixed3]
    rw [ih (fun x hx => h x (.tail _ hx)) rfl, mediaSegments]
    simp [MediaPlaylist.address, hp]

end

/-! ## The whole text -/

/-- The text of a list of lines is split into the lines, and what is behind the last line end. -/
theorem splitOn_lines {c : Char} {lines : List (List Char)} (hne : lines ≠ [])
    (h : ∀ l ∈ lines, c ∉ l) : (List.intercalate [c] lines ++ [c]).splitOn c = lines ++ [[]] := by
  have hjoin : List.intercalate [c] lines ++ [c] = List.intercalate [c] (lines ++ [[]]) := by
    induction lines with
    | nil => exact absurd rfl hne
    | cons l lines ih =>
      cases lines with
      | nil => simp
      | cons l' lines =>
        have hrest := ih (List.cons_ne_nil _ _) fun x hx => h x (.tail _ hx)
        rw [List.intercalate_cons_cons, List.append_assoc, hrest, List.cons_append,
          List.cons_append, List.cons_append, List.intercalate_cons_cons]
  rw [hjoin, List.splitOn_intercalate c _ (by simp)]
  intro l hl
  rcases List.mem_append.1 hl with hl | hl
  · exact h l hl
  · rw [List.mem_singleton.1 hl]
    exact List.not_mem_nil

section
variable {durationMs : Segment → Int} {token : List Char} {transcode : Bool}

theorem newline_not_mem_segmentUri (htoken : '\n' ∉ token) (g : Segment) :
    '\n' ∉ segmentUri token transcode g := by
  have hdigits : '\n' ∉ Nat.toDigits 10 g.id := fun h => absurd (isDigit_toDigits h) (by decide)
  unfold segmentUri
  simp only [List.mem_append, not_or]
  refine ⟨⟨⟨⟨⟨by decide, hdigits⟩, by decide⟩, by decide⟩, htoken⟩, ?_⟩
  split <;> decide

theorem newline_not_mem_segmentLines (htoken : '\n' ∉ token) {prevEnd : Option Int}
    {gs : List Segment} :
    ∀ l ∈ segmentLines durationMs token transcode prevEnd gs, '\n' ∉ l := by
  induction gs generalizing prevEnd with
  | nil => exact fun l hl => absurd hl List.not_mem_nil
  | cons g gs ih =>
    intro l hl
    rcases List.mem_append.1 hl with hl | hl
    · rcases List.mem_append.1 hl with hl | hl
      · split at hl
        · rw [List.mem_singleton.1 hl]
          decide
        · cases hl
      · simp only [List.mem_cons, List.not_mem_nil, or_false] at hl
        rcases hl with rfl | rfl | rfl
        · rw [List.mem_append, not_or]
          refine ⟨by decide, fun h => ?_⟩
          rcases mem_printFields h with h | h
          · exact absurd h (by decide)
          · exact absurd h (by decide)
        · rw [List.mem_append, List.mem_append, not_or, not_or]
          refine ⟨⟨by decide, fun h => ?_⟩, by decide⟩
          rcases mem_fixed3 h with h | h | h
          · exact absurd h (by decide)
          · exact absurd h (by decide)
          · exact absurd h (by decide)
        · exact newline_not_mem_segmentUri htoken g
    · exact ih l hl

/-- No segment is longer than announced. -/
theorem le_targetDuration {segments : List Segment} {g : Segment} (hg : g ∈ segments) :
    durationOr (durationMs g) ≤ 1000 * targetDuration durationMs segments := by
  have hceil : ∀ d : Int, d ≤ 1000 * ceilSeconds d := by
    intro d
    unfold ceilSeconds
    omega
  have hmem := List.mem_map_of_mem (f := fun g => ceilSeconds (durationOr (durationMs g))) hg
  unfold targetDuration
  cases hmax : (segments.map fun g => ceilSeconds (durationOr (durationMs g))).max? with
  | none =>
    rw [List.max?_eq_none_iff.1 hmax] at hmem
    cases hmem
  | some m =>
    have hle := (List.max?_le_iff hmax).1 (Int.le_refl m) _ hmem
    have hg := hceil (durationOr (durationMs g))
    rw [Option.getD_some]
    omega

theorem duration_mem_mediaSegments {prevEnd : Option Int} {gs : List Segment} {s : MediaSegment}
    (hs : s ∈ mediaSegments durationMs token transcode prevEnd gs) :
    ∃ g ∈ gs, s.duration = some (durationOr (durationMs g)) := by
  induction gs generalizing prevEnd with
  | nil => cases hs
  | cons g gs ih =>
    rcases List.mem_cons.1 hs with rfl | hs
    · exact ⟨g, .head _, rfl⟩
    · obtain ⟨x, hx, hd⟩ := ih hs
      exact ⟨x, .tail _ hx, hd⟩

end

theorem newline_not_mem_headerLines {target : Int} : ∀ l ∈ headerLines target, '\n' ∉ l := by
  intro l hl
  simp only [headerLines, List.mem_cons, List.not_mem_nil, or_false] at hl
  rcases hl with rfl | rfl | rfl | rfl | rfl
  · decide
  · decide
  · decide
  · rw [List.mem_append, not_or]
    refine ⟨by decide, fun h => ?_⟩
    rcases mem_formatInt h with h | h
    · exact absurd h (by decide)
    · exact absurd h (by decide)
  · decide

/-- The lines before the segments say only the longest duration. -/
theorem foldl_headerLines (target : Int) :
    (headerLines target).foldl MediaPlaylist.readLine .init =
      ⟨[], ⟨none, none, false⟩, some target, false⟩ := by
  simp only [headerLines, List.foldl_cons, List.foldl_nil, readLine_target, readInt_formatInt]
  rw [readLine_comment (by decide) (by decide) (by decide) (by decide) (by decide) (by decide),
    readLine_comment (by decide) (by decide) (by decide) (by decide) (by decide) (by decide),
    readLine_comment (by decide) (by decide) (by decide) (by decide) (by decide) (by decide),
    readLine_comment (by decide) (by decide) (by decide) (by decide) (by decide) (by decide)]
  rfl

/-- What a player reads of the text. -/
theorem readM3u8_eq (durationMs : Segment → Int) (t : Segments) (cameraId : Nat)
    (start stop : Int) (token : List Char) (transcode : Bool)
    (hdates : ∀ g ∈ t, IsDatetime g.startTs) (htoken : '\n' ∉ token) :
    readM3u8 (buildM3u8 durationMs t cameraId start stop token transcode) =
      some ⟨mediaSegments durationMs token transcode none
          (t.getRange cameraId start stop (some .main)),
        ⟨none, none, false⟩,
        some (targetDuration durationMs (t.getRange cameraId start stop (some .main))), true⟩ := by
  have hrange : ∀ g ∈ t.getRange cameraId start stop (some .main), IsDatetime g.startTs :=
    fun g hg => hdates g (Segments.mem_getRange_main.1 hg).1
  obtain ⟨segments, hsegments⟩ : ∃ gs, t.getRange cameraId start stop (some .main) = gs := ⟨_, rfl⟩
  rw [hsegments] at hrange ⊢
  have hsplit : (buildM3u8 durationMs t cameraId start stop token transcode).splitOn '\n' =
      (headerLines (targetDuration durationMs segments) ++
        segmentLines durationMs token transcode none segments ++ ["#EXT-X-ENDLIST".toList]) ++
        [[]] := by
    unfold buildM3u8
    rw [hsegments]
    refine splitOn_lines (by simp) fun l hl => ?_
    rcases List.mem_append.1 hl with hl | hl
    · rcases List.mem_append.1 hl with hl | hl
      · exact newline_not_mem_headerLines l hl
      · exact newline_not_mem_segmentLines htoken l hl
    · rw [List.mem_singleton.1 hl]
      decide
  have hfirst : (headerLines (targetDuration durationMs segments) ++
      segmentLines durationMs token transcode none segments ++ ["#EXT-X-ENDLIST".toList] ++
      [[]]).head? = some "#EXTM3U".toList := rfl
  rw [readM3u8, hsplit, if_pos hfirst, List.foldl_append, List.foldl_append, List.foldl_append,
    foldl_headerLines, foldl_segmentLines hrange rfl]
  rfl

/-- **The playlist is read back.** A player reads of the text exactly the segments of the window in
their order, with the instant, the duration and the address of each and with an interruption where
more than a second is missing; nothing follows, and no segment is longer than announced. -/
theorem readM3u8_buildM3u8 (durationMs : Segment → Int) (t : Segments) (cameraId : Nat)
    (start stop : Int) (token : List Char) (transcode : Bool)
    (hdates : ∀ g ∈ t, IsDatetime g.startTs) (htoken : '\n' ∉ token) :
    ∃ p target, readM3u8 (buildM3u8 durationMs t cameraId start stop token transcode) = some p ∧
      p.segments = mediaSegments durationMs token transcode none
        (t.getRange cameraId start stop (some .main)) ∧
      p.ended = true ∧ p.target = some target ∧
      ∀ s ∈ p.segments, ∀ d, s.duration = some d → d ≤ 1000 * target := by
  refine ⟨_, _, readM3u8_eq durationMs t cameraId start stop token transcode hdates htoken, rfl,
    rfl, rfl, fun s hs d hd => ?_⟩
  obtain ⟨g, hg, hdur⟩ := duration_mem_mediaSegments hs
  rw [hd] at hdur
  cases hdur
  exact le_targetDuration hg

namespace PlaylistFixture

/-- A recording of ten seconds, and one that begins an hour later. -/
def segments : Segments :=
  (((∅ : Segments).insert
    ⟨7, 1, 1, "1/seg-20240301-000001.ts", seconds 1709251201, seconds 1709251211, 9, .main,
      false⟩).insert
    ⟨8, 1, 1, "1/seg-20240301-010001.ts", seconds 1709254801, seconds 1709254811, 9, .main, false⟩)

end PlaylistFixture

theorem readM3u8_buildM3u8_fixture :
    ∃ p target, readM3u8 (buildM3u8 (fun _ => 10000) PlaylistFixture.segments 1 0 (days 20000)
        "abc".toList false) = some p ∧
      p.segments = mediaSegments (fun _ => 10000) "abc".toList false none
        (PlaylistFixture.segments.getRange 1 0 (days 20000) (some .main)) ∧
      p.ended = true ∧ p.target = some target ∧
      ∀ s ∈ p.segments, ∀ d, s.duration = some d → d ≤ 1000 * target :=
  readM3u8_buildM3u8 (fun _ => 10000) PlaylistFixture.segments 1 0 (days 20000) "abc".toList false
    (by unfold IsDatetime; decide +kernel) (by decide)

example : isoUtc (seconds 1709251201 + 5000) = "2024-03-01T00:00:01.005Z".toList := by
  decide +kernel

end Playlist

end AeroXProtect
