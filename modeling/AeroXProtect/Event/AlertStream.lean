import AeroXProtect.Lib.Split
import AeroXProtect.Lib.Text

/-!
# Alerts from a multipart stream

A camera of one vendor reports its events in the body of one response that goes on: parts between
boundaries, each of which holds an XML document. `IsapiEventSource.poll` takes the next chunk of the
body, splits what it has at the boundary and keeps the rest. `multipart_chunk_independent` says that
the parts, the rest and the alerts do not depend on how the body comes in chunks. What
`ET.fromstring` makes of a text is a parameter.
-/

open Lib

namespace AeroXProtect

abbrev Bytes := List UInt8

/-! ## The parts -/

/-- ASCII white space. -/
def isByteSpace (b : UInt8) : Bool := decide (9 ≤ b.toNat ∧ b.toNat ≤ 13 ∨ b.toNat = 32)

/-- `bytes.strip()` -/
def stripBytes (bs : Bytes) : Bytes :=
  ((bs.dropWhile isByteSpace).reverse.dropWhile isByteSpace).reverse

/-- The bytes of an ASCII text. -/
def ascii (s : String) : Bytes := s.toUTF8.data.toList

/-- Source: `split_multipart` (`server/driver/isapi_event.py:54`). -/
def splitMultipart (boundary buffer : Bytes) : List Bytes × Bytes :=
  let parts := splitAtAll (ascii "--" ++ boundary) buffer
  (parts.dropLast.filter fun p => !(stripBytes p).isEmpty, parts.getLastD [])

/-- `bs.decode('utf-8', 'ignore')`; `skip` bytes belong to the character before. -/
def decodeUtf8 : Bytes → Nat → List Char
  | [], _ => []
  | _ :: bs, skip + 1 => decodeUtf8 bs skip
  | b :: bs, 0 =>
    match (ByteArray.mk (b :: bs).toArray).utf8DecodeChar? 0 with
    | some c => c :: decodeUtf8 bs (c.utf8Size - 1)
    | none => decodeUtf8 bs 0

/-- The XML text of a part. Source: `extract_xml` (`server/driver/isapi_event.py:61`). -/
def extractXml (part : Bytes) : Option String :=
  let body :=
    match breakAt (ascii "\r\n\r\n") part with
    | some (_, rest) => rest
    | none => part
  (breakAt (ascii "<EventNotificationAlert") (stripBytes body)).map fun r =>
    String.ofList (decodeUtf8 (ascii "<EventNotificationAlert" ++ r.2) 0)

/-! ## The documents -/

/-- An element: tag, text before the first child, children. -/
inductive Xml
  | node (tag : String) (text : Option String) (children : List Xml)

namespace Xml

def tag : Xml → String
  | .node tag _ _ => tag

def text : Xml → Option String
  | .node _ text _ => text

mutual
/-- `root.iter()`: the element and those below it, in the order of the document. -/
def iter : Xml → List Xml
  | .node tag text children => .node tag text children :: iterAll children

def iterAll : List Xml → List Xml
  | [] => []
  | x :: xs => x.iter ++ iterAll xs
end

/-- The tag without its namespace. Source: `_localname` (`server/driver/isapi_event.py:15`). -/
def localname (x : Xml) : String :=
  String.ofList (x.tag.toList.reverse.takeWhile (· != '}')).reverse

/-- Source: `_text` (`server/driver/isapi_event.py:19`). -/
def textOf (root : Xml) (name : String) : Option String :=
  root.iter.findSome? fun el =>
    if el.localname = name then
      (el.text.filter (· != "")).map fun t => String.ofList (Lib.strip t.toList)
    else none

end Xml

/-- What an alert says. -/
structure Alert where
  eventType : Option String
  eventState : Option String
  channelID : Option String
  dateTime : Option String
  activePostCount : Option String
  regionPoints : Option (List (Int × Int))
  deriving DecidableEq, Repr

/-- The points of the regions; coordinates that are no integers are passed over. -/
def regionPoints (root : Xml) : List (Int × Int) :=
  root.iter.filterMap fun el =>
    if el.localname = "RegionCoordinates" then do
      let x ← el.textOf "positionX"
      let y ← el.textOf "positionY"
      return (← parseInt x.toList, ← parseInt y.toList)
    else none

/-- Source: `parse_alert_xml` (`server/driver/isapi_event.py:26`). `fromString` is
`ET.fromstring`, `none` for a `ParseError`. -/
def parseAlertXml (fromString : String → Option Xml) (xmlText : String) : Option Alert := do
  let root ← fromString xmlText
  guard (root.localname = "EventNotificationAlert")
  let points := regionPoints root
  return {
    eventType := root.textOf "eventType"
    eventState := root.textOf "eventState"
    channelID := ((root.textOf "channelID").filter (· ≠ "")).or (root.textOf "dynChannelID")
    dateTime := root.textOf "dateTime"
    activePostCount := root.textOf "activePostCount"
    regionPoints := if points.isEmpty then none else some points }

/-- The alert of a part that `poll` delivers. -/
def alertOf (fromString : String → Option Xml) (part : Bytes) : Option Alert := do
  let xmlText ← extractXml part
  guard (xmlText ≠ "")
  let alert ← parseAlertXml fromString xmlText
  guard (alert.eventType.any (· != ""))
  return alert

/-! ## The source -/

/-- How a body ends: the camera closes the connection normally, or the transport raises a
`requests` exception or another one. -/
inductive StreamEnd
  | closed | failed | raised
  deriving DecidableEq, Repr

/-- A response: the chunks `iter_content` gives, and how the body ends. -/
structure AlertResponse where
  status : Nat
  contentType : String
  chunks : List Bytes
  ending : StreamEnd

/-- The event source, with what is left of the body. -/
structure IsapiEventSource where
  iter : List Bytes
  ending : StreamEnd
  buffer : Bytes
  boundary : Bytes
  healthy : Bool

/-- The boundary in a content type. -/
def boundaryOf (contentType : String) : Option Bytes :=
  (breakAt "boundary=".toList contentType.toList).map fun r =>
    ascii (String.ofList (stripBy (· == '"') (Lib.strip r.2)))

namespace IsapiEventSource

/-- Source: `IsapiEventSource.__init__` (`server/driver/isapi_event.py:71`). -/
def init : IsapiEventSource where
  iter := []
  ending := .closed
  buffer := []
  boundary := ascii "boundary"
  healthy := false

/-- Source: `IsapiEventSource.open` (`server/driver/isapi_event.py:89`); `none` for an exception.
There is no response when `requests.get` raises. -/
def «open» (s : IsapiEventSource) (resp : Option AlertResponse) : Option IsapiEventSource := do
  let resp ← resp
  guard (resp.status = 200)
  return { s with
    boundary := (boundaryOf resp.contentType).getD s.boundary
    iter := resp.chunks
    ending := resp.ending
    healthy := true }

/-- The source after a poll, and the alerts; `none` for an exception that is not caught. An iterator
that has raised is exhausted. Source: `IsapiEventSource.poll` (`server/driver/isapi_event.py:101`).
-/
def poll (fromString : String → Option Xml) (s : IsapiEventSource) :
    IsapiEventSource × Option (List Alert) :=
  match s.iter with
  | chunk :: iter =>
    if chunk.isEmpty then ({ s with iter }, some [])
    else
      let (parts, buffer) := splitMultipart s.boundary (s.buffer ++ chunk)
      ({ s with iter, buffer }, some (parts.filterMap (alertOf fromString)))
  | [] =>
    match s.ending with
    | .closed => (s, some [])
    | .failed => ({ s with ending := .closed, healthy := false }, some [])
    | .raised => ({ s with ending := .closed }, none)

/-- Source: `IsapiEventSource.close` (`server/driver/isapi_event.py:121`). -/
def close (s : IsapiEventSource) : IsapiEventSource := { s with healthy := false }

/-- The alerts of so many polls. -/
def delivered (fromString : String → Option Xml) : Nat → IsapiEventSource → List Alert
  | 0, _ => []
  | n + 1, s =>
    (s.poll fromString).2.getD [] ++ delivered fromString n (s.poll fromString).1

end IsapiEventSource

/-! ## Chunks -/

section
variable {fromString : String → Option Xml} {boundary : Bytes}

theorem resumable_splitMultipart (boundary : Bytes) : Resumable (splitMultipart boundary) where
  nil := rfl
  append := by
    intro l m
    have hsep : ascii "--" ++ boundary ≠ [] := List.cons_ne_nil _ _
    have hlast : ∀ parts rest : List Bytes, rest ≠ [] →
        (parts ++ rest).getLastD [] = rest.getLastD [] := by
      intro parts rest hne
      obtain ⟨front, last, rfl⟩ := (List.eq_nil_or_concat rest).resolve_left hne
      simp
    unfold splitMultipart
    simp only
    rw [splitAtAll_append hsep l m, List.dropLast_append_of_ne_nil splitAtAll_ne_nil,
      List.filter_append, hlast _ _ splitAtAll_ne_nil]

/-- The polls of the chunks deliver the alerts of the parts they complete. -/
theorem delivered_eq {s : IsapiEventSource}
    (hbuffer : splitMultipart s.boundary s.buffer = ([], s.buffer)) :
    s.delivered fromString s.iter.length =
      (splitMultipart s.boundary (s.buffer ++ s.iter.flatten)).1.filterMap
        (alertOf fromString) := by
  have hres := resumable_splitMultipart s.boundary
  induction hiter : s.iter generalizing s with
  | nil =>
    rw [List.flatten_nil, List.append_nil, hbuffer]
    rfl
  | cons chunk iter ih =>
    have hpoll : s.poll fromString =
        ({ s with iter, buffer := (splitMultipart s.boundary (s.buffer ++ chunk)).2 },
          some ((splitMultipart s.boundary (s.buffer ++ chunk)).1.filterMap
            (alertOf fromString))) := by
      unfold IsapiEventSource.poll
      rw [hiter]
      cases chunk with
      | nil =>
        rw [List.append_nil, hbuffer]
        rfl
      | cons b chunk => rfl
    have hrest := ih (s := (s.poll fromString).1) (by rw [hpoll]; exact hres.idem _)
      (by rw [hpoll]; exact hres) (by rw [hpoll])
    rw [List.length_cons, IsapiEventSource.delivered, hrest, List.flatten_cons,
      ← List.append_assoc, hres.append (s.buffer ++ chunk) iter.flatten, List.filterMap_append,
      hpoll]
    rfl

/-- **Chunk independence.** For every boundary and every way of cutting a body into chunks: the
parts and the rest of the chunks that are split one by one, with the rest carried over, are those of
the whole body; and the polls of a fresh source deliver the alerts of these parts. -/
theorem multipart_chunk_independent (boundary : Bytes) (chunks : List Bytes) :
    chunks.foldl (feed (splitMultipart boundary)) ([], []) =
        splitMultipart boundary chunks.flatten ∧
      ∀ fromString ending healthy,
        IsapiEventSource.delivered fromString chunks.length
            ⟨chunks, ending, [], boundary, healthy⟩ =
          (splitMultipart boundary chunks.flatten).1.filterMap (alertOf fromString) := by
  have hres := resumable_splitMultipart boundary
  refine ⟨foldl_feed hres chunks, fun fromString ending healthy => ?_⟩
  exact delivered_eq (s := ⟨chunks, ending, [], boundary, healthy⟩) hres.nil

end

/-- A boundary that is cut in the middle. -/
example : [ascii "x-", ascii "-b y"].foldl (feed (splitMultipart (ascii "b"))) ([], []) =
    ([ascii "x"], ascii " y") := by
  decide +kernel

end AeroXProtect
