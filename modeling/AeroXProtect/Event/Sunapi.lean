import AeroXProtect.Lib.Levels
import AeroXProtect.Lib.Text

/-!
# Events from a camera that only reports its status

Cameras of one vendor do not send events: `SunapiEventSource.poll` asks for the status of all event
keys and makes a start of each key that has become active and an end of each that has become
inactive. An answer that is not a status, and a camera that does not answer, leave the last
snapshot; opening the source forgets it.

`status_ledger` accounts for every start: in any run of a source, for each name and channel, the
starts reported since it was opened are the ends reported, the keys that the last status says are
active, and the active keys that were missing from the next status, for which no end is reported.
-/

open Lib

namespace AeroXProtect

namespace Sunapi

/-! ## The status -/

abbrev Status := Levels (List Char)

/-- A line of a status: a key and whether it is active. Source: the loop body of
`parse_eventstatus` (`server/driver/sunapi_event.py:14`). -/
def parseLine (line : List Char) : Option (List Char × Bool) :=
  (cut '=' (Lib.strip line)).map fun parts =>
    (Lib.strip parts.1,
      ["true".toList, "1".toList, "on".toList].contains ((Lib.strip parts.2).map Char.toLower))

/-- Source: `parse_eventstatus` (`server/driver/sunapi_event.py:14`). -/
def parseEventstatus (text : List Char) : Status :=
  (splitLines text).foldl (fun state line =>
    match parseLine line with
    | some (key, active) => state.set key active
    | none => state) ∅

/-- Source: `_event_name` (`server/driver/sunapi_event.py:38`). -/
def eventName (key : List Char) : List Char := (key.splitOn '.').getLastD []

/-- The part behind the first `channel` that digits follow; `none` for a `ValueError`. -/
def channelOf : List (List Char) → Option (Option Int)
  | p :: q :: parts =>
    if p.map Char.toLower = "channel".toList ∧ isDigitText q = true then (parseInt q).map some
    else channelOf (q :: parts)
  | _ => some none

/-- Source: `_channel` (`server/driver/sunapi_event.py:43`). -/
def channel (key : List Char) : Option (Option Int) := channelOf (key.splitOn '.')

/-- A raw event of the source. -/
structure StatusEvent where
  event : List Char
  state : String
  channel : Option Int
  deriving DecidableEq, Repr

/-- The event of a key that has become active or inactive. -/
def statusEvent (r : List Char × Bool) : Option StatusEvent :=
  (channel r.1).map fun c => ⟨eventName r.1, if r.2 then "true" else "false", c⟩

/-- The change of a key of the next snapshot. -/
def change (prev : Status) (r : List Char × Bool) : Option (List Char × Bool) :=
  if r.2 && !prev.active r.1 then some (r.1, true)
  else if !r.2 && prev.active r.1 then some (r.1, false)
  else none

/-- `none` when a channel is not read. Source: `diff_status`
(`server/driver/sunapi_event.py:26`). -/
def diffStatus (prev current : Status) : Option (List StatusEvent) :=
  (current.rows.filterMap (change prev)).mapM statusEvent

/-! ## The source -/

/-- Source: `SunapiEventSource` (`server/driver/sunapi_event.py:51`). -/
structure Source where
  prev : Status
  healthy : Bool

/-- What comes of the request: an exception, or a response. -/
inductive Answer
  | failed
  | response (statusCode : Nat) (text : List Char)
  deriving DecidableEq, Repr

namespace Source

/-- Source: `SunapiEventSource.__init__` (`server/driver/sunapi_event.py:52`). -/
def init : Source := ⟨∅, false⟩

/-- Source: `SunapiEventSource.open` (`server/driver/sunapi_event.py:67`). -/
def start (_ : Source) : Source := ⟨∅, true⟩

/-- The batch of events, or an exception that goes through to the caller.
Source: `SunapiEventSource.poll` (`server/driver/sunapi_event.py:71`). -/
def poll (s : Source) : Answer → Source × Option (List StatusEvent)
  | .failed => ({ s with healthy := false }, some [])
  | .response statusCode text =>
    if statusCode ≠ 200 then ({ s with healthy := false }, some [])
    else
      match diffStatus s.prev (parseEventstatus text) with
      | none => (s, none)
      | some events => (⟨parseEventstatus text, true⟩, some events)

/-- Source: `SunapiEventSource.close` (`server/driver/sunapi_event.py:88`). -/
def close (s : Source) : Source := { s with healthy := false }

end Source

/-! ## Runs -/

/-- A call of the source. -/
inductive Act
  | start
  | poll (a : Answer)
  | close
  deriving DecidableEq, Repr

/-- The text that a source takes as the status. -/
def Source.taken (s : Source) : Answer → Option (List Char)
  | .response 200 text =>
    if (diffStatus s.prev (parseEventstatus text)).isSome then some text else none
  | _ => none

/-- A source with what came of it since it was opened: the events, the active keys that a status has
left out, and the last text that was taken. -/
structure History where
  source : Source
  events : List StatusEvent
  vanished : List (List Char)
  text : Option (List Char)

namespace History

def init : History := ⟨.init, [], [], none⟩

/-- One call. -/
def step (h : History) : Act → History
  | .start => ⟨h.source.start, [], [], none⟩
  | .close => { h with source := h.source.close }
  | .poll a =>
    let (source, events) := h.source.poll a
    { source
      events := h.events ++ events.getD []
      vanished := h.vanished ++
        if (h.source.taken a).isSome then Levels.vanished h.source.prev source.prev else []
      text := (h.source.taken a).or h.text }

/-- How many events of a kind were reported. -/
def count (h : History) (e : StatusEvent) : Nat := h.events.countP fun x => decide (x = e)

end History

/-- A key is reported under a name and a channel. -/
def reportedAs (name : List Char) (c : Option Int) (key : List Char) : Bool :=
  decide (eventName key = name ∧ channel key = some c)

/-- What a text says of a key: its last line about it. -/
def lastLine (text key : List Char) : Option Bool :=
  ((splitLines text).reverse.findSome? fun line =>
    (parseLine line).bind fun r => if r.1 = key then some r.2 else none)

/-! ## One status -/

section
variable {prev current : Status} {events : List StatusEvent} {name key : List Char}
  {c : Option Int}

/-- The text's last line about a key is what the status has of it. -/
theorem get?_parseEventstatus (text key : List Char) :
    ((parseEventstatus text).get? key).map Prod.snd = lastLine text key := by
  unfold parseEventstatus lastLine
  induction splitLines text using List.reverseRecOn with
  | nil => rfl
  | append_singleton lines line ih =>
    rw [List.foldl_append, List.foldl_cons, List.foldl_nil, List.reverse_append,
      List.reverse_singleton, List.singleton_append, List.findSome?_cons]
    cases hline : parseLine line with
    | none => exact ih
    | some r =>
      simp only [Levels.get?_set, Option.bind_some]
      by_cases hkey : r.1 = key
      · rw [if_pos hkey.symm, if_pos hkey]
        rfl
      · rw [if_neg fun h => hkey h.symm, if_neg hkey]
        exact ih

/-- The comparison reports the keys whose level has changed. -/
theorem diffStatus_eq (prev current : Status) :
    diffStatus prev current = (Levels.edges prev current).mapM statusEvent := by
  have hchange : change prev = Option.guard fun r => r.2 != prev.active r.1 := by
    funext ⟨key, active⟩
    unfold change Option.guard
    cases active <;> cases hwas : prev.active key <;> simp [hwas]
  rw [diffStatus, hchange, List.filterMap_eq_filter]
  rfl

/-- The events of one state, name and channel are those of the keys reported so. -/
theorem countP_mapM_statusEvent {rs : List (List Char × Bool)}
    (h : rs.mapM statusEvent = some events) (b : Bool) (name : List Char) (c : Option Int) :
    events.countP (fun x => decide (x = ⟨name, if b then "true" else "false", c⟩)) =
      rs.countP fun r => (r.2 == b) && reportedAs name c r.1 := by
  induction rs generalizing events with
  | nil =>
    cases h
    rfl
  | cons r rs ih =>
    rw [List.mapM_cons] at h
    obtain ⟨x, hx, h⟩ := Option.bind_eq_some_iff.1 h
    obtain ⟨xs, hxs, h⟩ := Option.bind_eq_some_iff.1 h
    cases h
    rw [List.countP_cons, List.countP_cons, ih hxs]
    obtain ⟨d, hd, rfl⟩ := Option.map_eq_some_iff.1 hx
    congr 2
    cases b <;> cases r.2 <;> simp [reportedAs, hd, StatusEvent.mk.injEq]

/-- A text that is taken becomes the snapshot, and its changes are reported. -/
theorem poll_taken {s : Source} {a : Answer} {text : List Char} (h : s.taken a = some text) :
    ∃ events, diffStatus s.prev (parseEventstatus text) = some events ∧
      s.poll a = (⟨parseEventstatus text, true⟩, some events) := by
  unfold Source.taken at h
  split at h
  · split at h
    · next hsome =>
      cases h
      obtain ⟨events, hevents⟩ := Option.isSome_iff_exists.1 hsome
      exact ⟨events, hevents, by simp [Source.poll, hevents]⟩
    · cases h
  · cases h

/-- An answer that is not taken reports nothing and leaves the snapshot. -/
theorem poll_not_taken {s : Source} {a : Answer} (h : s.taken a = none) :
    (s.poll a).1.prev = s.prev ∧ (s.poll a).2.getD [] = [] := by
  cases a with
  | failed => exact ⟨rfl, rfl⟩
  | response statusCode text =>
    unfold Source.poll
    by_cases hcode : statusCode = 200
    · subst hcode
      have hnone : diffStatus s.prev (parseEventstatus text) = none := by
        simpa [Source.taken] using h
      simp [hnone]
    · simp [hcode]

/-! ## All polls -/

/-- What a source has reported is accounted for, and its snapshot is the text that was taken. -/
structure Balanced (h : History) : Prop where
  ledger : ∀ name c, h.count ⟨name, "true", c⟩ = h.count ⟨name, "false", c⟩ +
    h.source.prev.activeCount (reportedAs name c) + h.vanished.countP (reportedAs name c)
  snapshot : ∀ key, (h.source.prev.get? key).map Prod.snd = h.text.bind (lastLine · key)

theorem balanced_opened {healthy : Bool} : Balanced ⟨⟨∅, healthy⟩, [], [], none⟩ :=
  ⟨fun _ _ => rfl, fun _ => rfl⟩

theorem Balanced.poll {h : History} (hb : Balanced h) (a : Answer) :
    Balanced (h.step (.poll a)) := by
  cases htaken : h.source.taken a with
  | none =>
    obtain ⟨hprev, hevents⟩ := poll_not_taken htaken
    constructor
    · intro name c
      simpa [History.step, History.count, htaken, hprev, hevents] using hb.ledger name c
    · intro key
      simpa [History.step, htaken, hprev] using hb.snapshot key
  | some text =>
    obtain ⟨events, hdiff, hpoll⟩ := poll_taken htaken
    rw [diffStatus_eq] at hdiff
    constructor
    · intro name c
      have hold := hb.ledger name c
      have hstarts := countP_mapM_statusEvent hdiff true name c
      have hends := countP_mapM_statusEvent hdiff false name c
      have hstep := Levels.edges_balance (reportedAs name c) h.source.prev (parseEventstatus text)
      simp only [History.step, History.count, htaken, hpoll, Option.getD_some, Option.isSome_some,
        if_true, List.countP_append] at hold ⊢
      simp only [beq_true, beq_false, if_true, Bool.false_eq_true, if_false] at hstarts hends
      omega
    · intro key
      simp only [History.step, htaken, hpoll, Option.some_or, Option.bind_some]
      exact get?_parseEventstatus text key

theorem Balanced.step {h : History} (hb : Balanced h) (a : Act) : Balanced (h.step a) := by
  cases a with
  | start => exact balanced_opened
  | close => exact ⟨hb.ledger, hb.snapshot⟩
  | poll a => exact hb.poll a

/-- **Starts and ends are accounted for.** In every run of a source, for each name and channel, the
starts since it was opened are the ends, the keys that are active and the keys that vanished while
they were active; and the snapshot of a key is the last line about it in the last status. -/
theorem status_ledger (as : List Act) :
    (∀ name c, (as.foldl History.step .init).count ⟨name, "true", c⟩ =
      (as.foldl History.step .init).count ⟨name, "false", c⟩ +
        (as.foldl History.step .init).source.prev.activeCount (reportedAs name c) +
        (as.foldl History.step .init).vanished.countP (reportedAs name c)) ∧
    ∀ key, ((as.foldl History.step .init).source.prev.get? key).map Prod.snd =
      (as.foldl History.step .init).text.bind (lastLine · key) := by
  suffices h : Balanced (as.foldl History.step .init) from ⟨h.ledger, h.snapshot⟩
  induction as using List.reverseRecOn with
  | nil => exact balanced_opened
  | append_singleton as a ih =>
    rw [List.foldl_append]
    exact ih.step a

example :
    (([.start, .poll (.response 200 "Channel.1.Motion=True\r\nChannel.1.Tamper=off".toList),
        .poll .failed, .poll (.response 200 "Channel.1.Motion=false".toList)] : List Act).foldl
      History.step .init).events =
    [⟨"Motion".toList, "true", some 1⟩, ⟨"Motion".toList, "false", some 1⟩] := by decide +kernel

end

end Sunapi

end AeroXProtect
