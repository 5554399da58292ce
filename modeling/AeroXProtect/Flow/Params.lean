import AeroXProtect.Lib.Json
import AeroXProtect.Lib.Script
import AeroXProtect.Lib.Text

/-!
# The parameters of an action

What the execution of an action node reads of the node's parameters, over any decoded JSON value,
where reading may raise: `int` of a list or an object, an attribute of something that is no text, a
loop over a number, a key that cannot be hashed. Nothing ends an action early but the parameters
themselves: the cameras and targets they name are there and enabled, a target is one that is driven
over HTTP, and what other answers of the database lead to reads less. `Fits` says which parameters
can be read (`readParams_iff`), field by field.
-/

open Lib

namespace AeroXProtect.Flow

/-- What lies outside the graph: the tables of `s.upper()` and `s.lower()`, the URLs that
`ssrf_check` lets through, the values the driver of the database takes as a parameter of a
statement, and those `requests` takes as the name of a header. -/
structure Surroundings where
  upper : String → String
  lower : String → String
  allowed : String → Bool
  binds : Json → Bool
  names : Json → Bool

/-! ## Reading -/

/-- `int(x)`, where a text that is no number is not held against its type. -/
def readInt : Json → Option Unit
  | .num _ | .bool _ | .str _ => some ()
  | .null | .arr _ | .obj _ => none

/-- `int(x or y)`, where `y` is a number of the program's own. -/
def readIntOr (x : Json) : Option Unit := if x.truthy then readInt x else some ()

/-- `x.strip()`, `x.upper()`, `x.lower()`: an attribute of a text. -/
def readText : Json → Option String
  | .str s => some s
  | .null | .bool _ | .num _ | .arr _ | .obj _ => none

/-- The key of a key and a value, as `dict` takes them from a list. -/
def readPair (x : Json) : Option Json := do
  match ← x.iter? with
  | [k, _] => if k.hashable then some k else none
  | _ => none

/-- The keys of `dict(x)`. -/
def readKeys (x : Json) : Option (List Json) :=
  if x.isObj then x.iter? else do (← x.iter?).mapM readPair

/-- `x / 1000` -/
def readNumber : Json → Option Unit
  | .num _ | .bool _ => some ()
  | .null | .str _ | .arr _ | .obj _ => none

/-- The camera of the parameters, or that of the trigger: `_record` and
`action_runner._set_camera_enabled`. -/
def readCamera (p : Json) : Option Unit := readIntOr (p.field "camera_id")

/-- Source: `_record` (`server/service/flow_engine.py:206`). -/
def readRecord (p : Json) : Option Unit := do
  readCamera p
  readIntOr (p.field "duration_s")

/-- `get_by_id(action['target_id']) if action.get('target_id') else None` -/
def readTarget (s : Surroundings) (p : Json) : Option Unit :=
  if (p.field "target_id").truthy && !s.binds (p.field "target_id") then none else some ()

/-- Source: `driver.io._vendor_http` (`server/driver/io.py:23`), of a target that is found. -/
def readIo (s : Surroundings) (p : Json) : Option Unit := do
  readTarget s p
  if (p.field "target_id").truthy ∧ p.field "action" = .str "pulse" then
    readIntOr (p.field "pulse_ms")
  else some ()

/-- Source: `notification_router.push_for_trigger`
(`server/service/notification_router.py:9`). -/
def readPush (p : Json) : Option Unit :=
  if (p.field "user_ids").truthy then do (← (p.field "user_ids").iter?).forM readInt else some ()

/-- The name of the header that is added, where it comes from the parameters. Source:
`driver.webhook._build_auth` (`server/driver/webhook.py:138`). -/
def readAuth (s : Surroundings) (auth : Json) : Option (List Json) := do
  let type ← readText ((← auth.get? "type").or (.str "none"))
  if s.lower type = "header" ∧ (auth.field "header_name").truthy then
    if (auth.field "header_name").hashable then some [auth.field "header_name"] else none
  else some []

/-- The kinds of body a request is sent with. -/
def bodyTypes : List String := ["query", "json", "form", "urlencoded", "none"]

/-- `body_type` is known, or the method needs none. -/
def hasBody (s : Surroundings) (method : String) (p : Json) : Bool :=
  s.upper method = "GET" || ((p.field "body_type").or (.str "json")).isOneOf bodyTypes

/-- `requests` looks at the names of the headers. -/
def readNames (s : Surroundings) (keys : List Json) : Option Unit :=
  if keys.all s.names then some () else none

/-- The rest of a request that has an allowed method. -/
def readCall (s : Surroundings) (method : String) (p : Json) : Option Unit := do
  let keys ← readKeys ((p.field "headers").or .empty)
  let added ← readAuth s ((p.field "auth").or .empty)
  readNumber ((p.field "timeout_ms").or (.num 5000))
  if hasBody s method p then readNames s (keys ++ added) else some ()

/-- Source: `driver.webhook.deliver_inline` (`server/driver/webhook.py:80`). -/
def deliverInline (s : Surroundings) (p : Json) : Option Unit := do
  let url := strip (← readText (p.field "url")).toList
  if url = [] ∨ !s.allowed (String.ofList url) then some ()
  else do
    let method ← readText ((p.field "method").or (.str "POST"))
    if s.upper method ∉ ["GET", "POST", "PUT"] then some () else readCall s method p

/-- The parameters of a node of a type. Source: `_execute` (`server/service/flow_engine.py:153`) and
`action_runner.run` (`server/service/action_runner.py:9`). -/
def readParams (s : Surroundings) (type p : Json) : Option Unit :=
  if type = .str "record" then readRecord p
  else if type = .str "webhook" then
    if (p.field "url").truthy then deliverInline s p else readTarget s p
  else if type.isOneOf ["camera_enable", "camera_disable"] then readCamera p
  else if type = .str "email" then
    if (p.field "to").truthy then some () else readTarget s p
  else if type = .str "speaker" then readTarget s p
  else if type = .str "io" then readIo s p
  else if type = .str "push" then readPush p
  else some ()

/-! ## What can be read -/

/-- The value is left out, or neither a list nor an object. -/
def Scalar (x : Json) : Prop := x.truthy = true → x.hashable = true

/-- The value is left out, or a text. -/
def Textual (x : Json) : Prop := x.truthy = true → ∃ t, x = .str t

/-- The value is left out, or the driver takes it. -/
def Bound (s : Surroundings) (x : Json) : Prop := x.truthy = true → s.binds x = true

/-- The value is left out, or a number or a truth value. -/
def Numeric (x : Json) : Prop := x.truthy = true → (∃ q, x = .num q) ∨ ∃ b, x = .bool b

/-- The value is left out, an object, or pairs with keys that can be hashed. -/
def Keyed (x : Json) : Prop := x.truthy = true → x.isObj = false →
  ∃ items, x.iter? = some items ∧ ∀ y ∈ items, ∃ k v, y.iter? = some [k, v] ∧ k.hashable = true

/-- The value is left out, or runs over items that are neither `null` nor a list or an object. -/
def Scalars (x : Json) : Prop := x.truthy = true →
  ∃ items, x.iter? = some items ∧ ∀ y ∈ items, y ≠ .null ∧ y.hashable = true

/-- The authentication of a request is an object with a textual type, and the name of its header can
be a key. -/
structure FitsAuth (s : Surroundings) (auth : Json) : Prop where
  isObj : auth.isObj = true
  type : Textual (auth.field "type")
  header : ∀ t, (auth.field "type").or (.str "none") = .str t → s.lower t = "header" →
    Scalar (auth.field "header_name")

/-- A request to the URL is let through. -/
def Sent (s : Surroundings) (url : String) : Prop :=
  strip url.toList ≠ [] ∧ s.allowed (String.ofList (strip url.toList)) = true

/-- The key `k` is one of `dict(x)`. -/
def IsKey (x k : Json) : Prop := ∃ items, x.iter? = some items ∧
  if x.isObj then k ∈ items else ∃ y ∈ items, ∃ v, y.iter? = some [k, v]

/-- The authentication is a header with the name `k`. -/
def IsAuthName (s : Surroundings) (auth k : Json) : Prop := k.truthy = true ∧
  auth.field "header_name" = k ∧
    ∃ t, (auth.field "type").or (.str "none") = .str t ∧ s.lower t = "header"

/-- What is read of the parameters of a request with an allowed method. Where it has a body that is
known, it is sent, and `requests` takes the names of its headers. -/
structure FitsCall (s : Surroundings) (method : String) (p : Json) : Prop where
  headers : Keyed (p.field "headers")
  auth : FitsAuth s ((p.field "auth").or .empty)
  timeout : Numeric (p.field "timeout_ms")
  names : hasBody s method p = true → ∀ k, IsKey (p.field "headers") k ∨
    IsAuthName s ((p.field "auth").or .empty) k → s.names k = true

/-- The parameters of a request without an endpoint: the URL is a text, where it is let through the
method is one too, and where that is allowed so are the rest. -/
structure FitsRequest (s : Surroundings) (p : Json) : Prop where
  url : ∃ u, p.field "url" = .str u
  method : ∀ u, p.field "url" = .str u → Sent s u → Textual (p.field "method")
  call : ∀ u m, p.field "url" = .str u → Sent s u → (p.field "method").or (.str "POST") = .str m →
    s.upper m ∈ ["GET", "POST", "PUT"] → FitsCall s m p

/-- The parameters of a node of a type can be read. -/
structure Fits (s : Surroundings) (type p : Json) : Prop where
  camera : type.isOneOf ["record", "camera_enable", "camera_disable"] = true →
    Scalar (p.field "camera_id")
  duration : type = .str "record" → Scalar (p.field "duration_s")
  target : (type.isOneOf ["speaker", "io"] = true ∨
      type = .str "email" ∧ (p.field "to").truthy = false ∨
      type = .str "webhook" ∧ (p.field "url").truthy = false) → Bound s (p.field "target_id")
  pulse : type = .str "io" → (p.field "target_id").truthy = true → p.field "action" = .str "pulse" →
    Scalar (p.field "pulse_ms")
  users : type = .str "push" → Scalars (p.field "user_ids")
  request : type = .str "webhook" → (p.field "url").truthy = true → FitsRequest s p

section
variable {s : Surroundings} {x p auth type : Json} {t : String}

theorem readInt_iff : readInt x = some () ↔ x ≠ .null ∧ x.hashable = true := by
  cases x <;> simp [readInt, Json.hashable]

theorem readIntOr_iff : readIntOr x = some () ↔ Scalar x := by
  unfold readIntOr Scalar
  cases x with
  | null => simp [Json.truthy]
  | _ => simp [readInt, Json.hashable]

theorem readTarget_iff : readTarget s p = some () ↔ Bound s (p.field "target_id") := by
  unfold readTarget Bound
  cases (p.field "target_id").truthy <;> cases s.binds (p.field "target_id") <;> simp

/-- A text that may be left out. -/
theorem exists_readText_or : (∃ u, readText (x.or (.str t)) = some u) ↔ Textual x := by
  unfold Json.or Textual
  split
  · next h => cases x <;> simp [readText, h]
  · next h => simp [h, readText]

theorem readText_eq_some : readText x = some t ↔ x = .str t := by
  cases x <;> simp [readText]

theorem readNumber_iff {q : Rat} : readNumber (x.or (.num q)) = some () ↔ Numeric x := by
  unfold Json.or Numeric
  split
  · next h => cases x <;> simp [readNumber, h]
  · next h => simp [h, readNumber]

theorem readPair_iff {k : Json} : readPair x = some k ↔
    ∃ v, x.iter? = some [k, v] ∧ k.hashable = true := by
  unfold readPair
  rcases x.iter? with _ | _ | ⟨k', _ | ⟨v, _ | ⟨w, l⟩⟩⟩ <;> try simp
  exact ⟨fun ⟨hhash, heq⟩ => ⟨heq, heq ▸ hhash⟩, fun ⟨heq, hhash⟩ => ⟨heq ▸ hhash, heq⟩⟩

/-- An object is iterated over its keys. -/
theorem exists_iter?_of_isObj (h : x.isObj = true) : ∃ items, x.iter? = some items := by
  cases x with
  | obj fields => exact ⟨_, rfl⟩
  | _ => cases h

theorem readKeys_iff : (∃ keys, readKeys (x.or .empty) = some keys) ↔ Keyed x := by
  unfold Keyed Json.or
  split
  · next h =>
    unfold readKeys
    cases hobj : x.isObj with
    | true => simpa using exists_iter?_of_isObj hobj
    | false =>
      cases hiter : x.iter? with
      | none => simp [h]
      | some items =>
        simp only [Bool.false_eq_true, if_false, Option.bind_eq_bind, Option.bind_some, h,
          Option.some.injEq, exists_eq_left', forall_const]
        rw [exists_mapM]
        exact forall₂_congr fun y _ => exists_congr fun k => readPair_iff
  · next h => exact iff_of_true ⟨[], rfl⟩ fun htrue => absurd htrue h

/-- What counts as left out has nothing to be iterated over. -/
theorem iter?_of_not_truthy {items : List Json} (h : ¬ x.truthy = true)
    (hiter : x.iter? = some items) : items = [] := by
  cases x with
  | arr l =>
    cases hiter
    simpa [Json.truthy] using h
  | obj l =>
    have hnil : l = [] := by simpa [Json.truthy] using h
    subst hnil
    cases hiter
    rfl
  | str t =>
    have hnil : t = "" := by simpa [Json.truthy] using h
    subst hnil
    cases hiter
    rfl
  | _ => cases hiter

theorem mem_readKeys {k : Json} {keys : List Json} (h : readKeys (x.or .empty) = some keys) :
    k ∈ keys ↔ IsKey x k := by
  unfold IsKey
  unfold Json.or at h
  split at h
  · unfold readKeys at h
    cases hobj : x.isObj with
    | true =>
      rw [hobj, if_pos rfl] at h
      simp [h]
    | false =>
      rw [hobj, if_neg Bool.false_ne_true] at h
      obtain ⟨items, hiter, hmap⟩ := Option.bind_eq_some_iff.1 h
      simp only [hiter, Option.some.injEq, Bool.false_eq_true, if_false, exists_eq_left']
      rw [mem_of_mapM hmap]
      refine exists_congr fun y => and_congr_right fun hy => ?_
      constructor
      · intro hk
        obtain ⟨v, hv, -⟩ := readPair_iff.1 hk
        exact ⟨v, hv⟩
      · rintro ⟨v, hv⟩
        obtain ⟨b, hb⟩ := exists_mapM.1 ⟨keys, hmap⟩ y hy
        obtain ⟨w, hw, -⟩ := readPair_iff.1 hb
        cases hv.symm.trans hw
        exact hb
  · next hnot =>
    cases h
    refine iff_of_false List.not_mem_nil ?_
    rintro ⟨items, hiter, hk⟩
    obtain rfl := iter?_of_not_truthy hnot hiter
    split at hk
    · exact List.not_mem_nil hk
    · obtain ⟨y, hy, -⟩ := hk
      exact List.not_mem_nil hy

theorem readPush_iff : readPush p = some () ↔ Scalars (p.field "user_ids") := by
  unfold readPush Scalars
  split
  · next h =>
    cases (p.field "user_ids").iter? with
    | none => simp [h]
    | some items =>
      simp only [Option.bind_eq_bind, Option.bind_some, h, Option.some.injEq, exists_eq_left',
        forall_const]
      rw [forM_eq_some]
      exact forall₂_congr fun y _ => readInt_iff
  · next h => simp [h]

theorem readIo_iff : readIo s p = some () ↔ Bound s (p.field "target_id") ∧
    ((p.field "target_id").truthy = true → p.field "action" = .str "pulse" →
      Scalar (p.field "pulse_ms")) := by
  unfold readIo
  rw [Option.bind_eq_bind, seq_eq_some, readTarget_iff]
  refine and_congr_right fun _ => ?_
  split
  · next h => simp [readIntOr_iff, h]
  · next h => simpa using fun htrue hpulse => absurd ⟨htrue, hpulse⟩ h

theorem readAuth_iff : (∃ added, readAuth s auth = some added) ↔ FitsAuth s auth := by
  cases hobj : auth.isObj with
  | false =>
    have hnone : auth.get? "type" = none := by
      cases auth <;> first | rfl | cases hobj
    simp only [readAuth, hnone, Option.bind_eq_bind, Option.bind_none, reduceCtorEq, exists_false,
      false_iff]
    exact fun h => Bool.false_ne_true (hobj.symm.trans h.isObj)
  | true =>
    simp only [readAuth, Json.get?_of_isObj hobj, Option.bind_eq_bind, Option.bind_some]
    cases htype : readText ((auth.field "type").or (.str "none")) with
    | none =>
      simp only [Option.bind_none, reduceCtorEq, exists_false, false_iff]
      intro h
      obtain ⟨u, hu⟩ := exists_readText_or.2 h.type
      cases htype.symm.trans hu
    | some t =>
      have ht := readText_eq_some.1 htype
      have htext := exists_readText_or.1 ⟨t, htype⟩
      rw [Option.bind_some]
      split
      · next hheader =>
        split
        · next hhash => exact iff_of_true ⟨_, rfl⟩ ⟨hobj, htext, fun _ _ _ _ => hhash⟩
        · next hhash =>
          exact iff_of_false nofun fun h => hhash (h.header t ht hheader.1 hheader.2)
      · next hother =>
        refine iff_of_true ⟨_, rfl⟩ ⟨hobj, htext, fun u hu hlower htrue => ?_⟩
        obtain rfl := Json.str.inj (ht.symm.trans hu)
        exact absurd ⟨hlower, htrue⟩ hother

theorem mem_readAuth {k : Json} {added : List Json} (h : readAuth s auth = some added) :
    k ∈ added ↔ IsAuthName s auth k := by
  unfold readAuth at h
  obtain ⟨y, hget, h⟩ := Option.bind_eq_some_iff.1 h
  obtain ⟨t, htext, h⟩ := Option.bind_eq_some_iff.1 h
  have hfield : auth.field "type" = y := by rw [Json.field, hget, Option.getD_some]
  have htype : (auth.field "type").or (.str "none") = .str t := hfield ▸ readText_eq_some.1 htext
  split at h
  · next hheader =>
    split at h
    · cases h
      rw [List.mem_singleton]
      constructor
      · rintro rfl
        exact ⟨hheader.2, rfl, t, htype, hheader.1⟩
      · exact fun hname => hname.2.1.symm
    · cases h
  · next hother =>
    cases h
    refine iff_of_false List.not_mem_nil ?_
    rintro ⟨htrue, rfl, u, hu, hlower⟩
    obtain rfl := Json.str.inj (htype.symm.trans hu)
    exact hother ⟨hlower, htrue⟩

theorem readNames_iff {keys : List Json} :
    readNames s keys = some () ↔ ∀ k ∈ keys, s.names k = true := by
  unfold readNames
  rw [← List.all_eq_true]
  split <;> simp_all

theorem readCall_iff {m : String} : readCall s m p = some () ↔ FitsCall s m p := by
  unfold readCall
  cases hkeys : readKeys ((p.field "headers").or .empty) with
  | none =>
    refine iff_of_false nofun fun h => ?_
    obtain ⟨keys, h⟩ := readKeys_iff.2 h.headers
    cases hkeys.symm.trans h
  | some keys =>
    cases hadded : readAuth s ((p.field "auth").or .empty) with
    | none =>
      refine iff_of_false nofun fun h => ?_
      obtain ⟨added, h⟩ := readAuth_iff.2 h.auth
      cases hadded.symm.trans h
    | some added =>
      have hnames : readNames s (keys ++ added) = some () ↔ ∀ k, IsKey (p.field "headers") k ∨
          IsAuthName s ((p.field "auth").or .empty) k → s.names k = true := by
        rw [readNames_iff]
        simp only [List.mem_append, mem_readKeys hkeys, mem_readAuth hadded]
      simp only [Option.bind_eq_bind, Option.bind_some]
      rw [seq_eq_some, readNumber_iff]
      constructor
      · rintro ⟨htimeout, h⟩
        refine ⟨readKeys_iff.1 ⟨_, hkeys⟩, readAuth_iff.1 ⟨_, hadded⟩, htimeout, fun hbody => ?_⟩
        rw [if_pos hbody] at h
        exact hnames.1 h
      · intro h
        refine ⟨h.timeout, ?_⟩
        split
        · next hbody => exact hnames.2 (h.names hbody)
        · rfl

theorem deliverInline_iff : deliverInline s p = some () ↔ FitsRequest s p := by
  unfold deliverInline
  cases hurl : readText (p.field "url") with
  | none =>
    simp only [Option.bind_eq_bind, Option.bind_none, reduceCtorEq, false_iff]
    rintro ⟨⟨u, hu⟩, -, -⟩
    cases hurl.symm.trans (readText_eq_some.2 hu)
  | some u =>
    have hu := readText_eq_some.1 hurl
    simp only [Option.bind_eq_bind, Option.bind_some]
    split
    · next hnot =>
      have hunsent : ¬ Sent s u := by
        rintro ⟨hne, hallowed⟩
        simp [hne, hallowed] at hnot
      refine iff_of_true rfl ⟨⟨u, hu⟩, fun v hv hsent => ?_, fun v _ hv hsent => ?_⟩ <;>
        exact absurd (Json.str.inj (hu.symm.trans hv) ▸ hsent) hunsent
    · next hsent =>
      have hsent : Sent s u := by
        unfold Sent
        simpa using hsent
      cases hmethod : readText ((p.field "method").or (.str "POST")) with
      | none =>
        simp only [Option.bind_none, reduceCtorEq, false_iff]
        intro h
        obtain ⟨m, hm⟩ := exists_readText_or.2 (h.method u hu hsent)
        cases hmethod.symm.trans hm
      | some m =>
        have hm := readText_eq_some.1 hmethod
        have htext := exists_readText_or.1 ⟨m, hmethod⟩
        rw [Option.bind_some]
        split
        · next hother =>
          refine iff_of_true rfl ⟨⟨u, hu⟩, fun _ _ _ => htext, fun _ v _ _ hv hin => ?_⟩
          exact absurd (Json.str.inj (hm.symm.trans hv) ▸ hin) hother
        · next hin =>
          have hin := not_not.1 hin
          rw [readCall_iff]
          refine ⟨fun h => ⟨⟨u, hu⟩, fun _ _ _ => htext, fun _ v _ _ hv _ => ?_⟩,
            fun h => h.call u m hu hsent hm hin⟩
          exact Json.str.inj (hm.symm.trans hv) ▸ h

/-- The parameters of a node are read without an error exactly when they fit its type. -/
theorem readParams_iff : readParams s type p = some () ↔ Fits s type p := by
  unfold readParams
  split_ifs with hrecord hwebhook hurl hcamera hemail hto hspeaker hio hpush
  · subst hrecord
    rw [readRecord, Option.bind_eq_bind, seq_eq_some, readCamera, readIntOr_iff, readIntOr_iff]
    exact ⟨fun h => ⟨fun _ => h.1, fun _ => h.2, by simp, by simp, by simp, by simp⟩,
      fun h => ⟨h.camera (by decide), h.duration rfl⟩⟩
  · subst hwebhook
    rw [deliverInline_iff]
    exact ⟨fun h => ⟨by simp, by simp, by simp [hurl], by simp, by simp, fun _ _ => h⟩,
      fun h => h.request rfl hurl⟩
  · subst hwebhook
    rw [readTarget_iff]
    exact ⟨fun h => ⟨by simp, by simp, fun _ => h, by simp, by simp, fun _ h => absurd h hurl⟩,
      fun h => h.target (.inr (.inr ⟨rfl, Bool.eq_false_iff.2 hurl⟩))⟩
  · rw [readCamera, readIntOr_iff]
    have hor : type = .str "camera_enable" ∨ type = .str "camera_disable" := by
      simpa [Json.isOneOf] using hcamera
    rcases hor with rfl | rfl <;>
    exact ⟨fun h => ⟨fun _ => h, by simp, by simp, by simp, by simp, by simp⟩,
      fun h => h.camera (by decide)⟩
  · subst hemail
    exact iff_of_true rfl ⟨by simp, by simp, by simp [hto], by simp, by simp, by simp⟩
  · subst hemail
    rw [readTarget_iff]
    exact ⟨fun h => ⟨by simp, by simp, fun _ => h, by simp, by simp, by simp⟩,
      fun h => h.target (.inr (.inl ⟨rfl, Bool.eq_false_iff.2 hto⟩))⟩
  · subst hspeaker
    rw [readTarget_iff]
    exact ⟨fun h => ⟨by simp, by simp, fun _ => h, by simp, by simp, by simp⟩,
      fun h => h.target (.inl (by decide))⟩
  · subst hio
    rw [readIo_iff]
    exact ⟨fun h => ⟨by simp, by simp, fun _ => h.1, fun _ => h.2, by simp, by simp⟩,
      fun h => ⟨h.target (.inl (by decide)), h.pulse rfl⟩⟩
  · subst hpush
    rw [readPush_iff]
    exact ⟨fun h => ⟨by simp, by simp, by simp, by simp, fun _ => h, by simp⟩, fun h => h.users rfl⟩
  · refine iff_of_true rfl ⟨fun h => ?_, fun h => absurd h hrecord, fun h => ?_,
      fun h => absurd h hio, fun h => absurd h hpush, fun h => absurd h hwebhook⟩
    · obtain ⟨t, ht, rfl⟩ := Json.isOneOf_iff.1 h
      simp at ht
      rcases ht with rfl | rfl | rfl
      · exact absurd rfl hrecord
      · exact absurd (by decide) hcamera
      · exact absurd (by decide) hcamera
    · rcases h with h | ⟨h, -⟩ | ⟨h, -⟩
      · obtain ⟨t, ht, rfl⟩ := Json.isOneOf_iff.1 h
        simp at ht
        rcases ht with rfl | rfl
        · exact absurd rfl hspeaker
        · exact absurd rfl hio
      · exact absurd h hemail
      · exact absurd h hwebhook

end

end AeroXProtect.Flow
