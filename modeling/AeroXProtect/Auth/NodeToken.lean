import AeroXProtect.Auth.Kinds

/-!
# The token of a node

The registries of AI nodes and encoder nodes: a node is registered, joins, is issued a new token,
is enabled or disabled, drained and deleted. The old token of a node is denylisted for a minute
only; what shuts it out for good is the id of the last token on the row of the node
(`NodeInv.last`). A request can fail half way, when the cache server does not answer or the update
of the row is refused (`NodeEnv`). The text of a token is part of the answer, so the token of a
request that fails before its update is lost: it is not among the minted ones.
-/

open Lib

namespace AeroXProtect

/-- What a request meets: the clock, whether the cache server answers, and whether the write of the
node's row goes through (the arguments can be computed, the values fit their columns). -/
structure NodeEnv where
  now : Int
  up : Bool
  commits : Bool
  deriving DecidableEq, Repr

/-- The requests to the registries. A new node is given its id and its uuid. -/
inductive NodeAct
  | create (r : Registry) (id : Nat) (uuid : String) (name : Json)
  | join (r : Registry) (id : Nat) (payload : Json)
  | issueToken (r : Registry) (id : Nat) (ttlDays : Option Int)
  | update (r : Registry) (id : Nat) (data : Json)
  | drain (r : Registry) (id : Nat)
  | delete (r : Registry) (id : Nat)

/-! ## Requests -/

namespace TokenWorld

variable (cfg : JwtConfig) (w : TokenWorld) (e : NodeEnv)

/-- `node.update(…)`. Source: `AiNode.update` (`server/model/ai_node.py:86`), `EncodingNode.update`
(`server/model/encoding_node.py`). -/
def writeNode (r : Registry) (id : Nat) (f : NodeRow → NodeRow)
    (hf : ∀ n, (f n).id = n.id := by intro; rfl) : TokenWorld :=
  w.setNodes ((w.nodes r).modify (fun n => n.id == id) f hf) r

/-- The token a node holds is denylisted for a minute, when the cache server answers. -/
def revokeOld (n : NodeRow) : TokenWorld :=
  match n.tokenJti with
  | some j => if e.up then w.revoke e.now j 60 else w
  | none => w

/-- The world after a request that has signed a token and failed: the id is used up. -/
def lose : TokenWorld := { w with next := w.next + 1 }

/-- Source: `AiNodeController.create` (`server/controller/ai_node.py:14`),
`EncodeNodeController.create` (`server/controller/encode_node.py:15`). -/
def createNode (r : Registry) (id : Nat) (uuid : String) (name : Json) :
    TokenWorld × Option Claims :=
  if !name.truthy || !e.commits then (w, none)
  else
    let row : NodeRow :=
      { id, uuid, name, status := .offline, enabled := true, lastHeartbeatTs := none,
        tokenJti := none, deletedAt := none }
    let w' := w.setNodes ((w.nodes r).insert row) r
    if !e.up then (w', none)
    else
      let (w'', c) := w'.issueJoinToken cfg e.now id none
      (w'', some c)

/-- Source: `join` (`server/service/ai_node_registry.py:15`), `join`
(`server/service/encode_node_registry.py:18`). A failure to denylist the old token is ignored. -/
def joinNode (r : Registry) (id : Nat) (payload : Json) : TokenWorld × Option Claims :=
  match (w.nodes r).getById id with
  | none => (w, none)
  | some n =>
    let w := w.revokeOld e n
    let (w', c) := w.issueNodeToken cfg e.now r n.uuid none
    match payload.get? "name" with
    | none => (w.lose, none)
    | some name =>
      if !e.commits then (w.lose, none)
      else
        (w'.writeNode r n.id fun m =>
          { m with name := name.or n.name, status := .online, lastHeartbeatTs := some e.now,
                   tokenJti := some c.jti }, some c)

/-- Source: `AiNodeController.issue_token` (`server/controller/ai_node.py:23`),
`EncodeNodeController.issue_token` (`server/controller/encode_node.py:24`). `ttlDays` is what
`safe_int` makes of the field of the request. -/
def issueToken (r : Registry) (id : Nat) (ttlDays : Option Int) : TokenWorld × Option Claims :=
  match (w.nodes r).getById id with
  | none => (w, none)
  | some n =>
    if n.tokenJti.isSome && !e.up then (w, none)
    else
      let w := w.revokeOld e n
      let (w', c) := w.issueNodeToken cfg e.now r n.uuid ttlDays
      if !e.commits then (w.lose, none)
      else (w'.writeNode r n.id fun m => { m with tokenJti := some c.jti }, some c)

/-- The fields of an update that the two registries share. -/
def updateFields (fields : List (String × Json)) (n : NodeRow) : NodeRow :=
  let n := match fields.lookup "name" with
    | some name => { n with name }
    | none => n
  match fields.lookup "enabled" with
  | some v =>
    if v.truthy then { n with enabled := true }
    else { n with enabled := false, status := .draining }
  | none => n

theorem updateFields_frame (fields : List (String × Json)) (n : NodeRow) :
    (updateFields fields n).id = n.id ∧ (updateFields fields n).uuid = n.uuid ∧
      (updateFields fields n).tokenJti = n.tokenJti := by
  unfold updateFields
  cases fields.lookup "name" <;> cases fields.lookup "enabled" <;> dsimp only <;>
    first | exact ⟨rfl, rfl, rfl⟩ | (split <;> exact ⟨rfl, rfl, rfl⟩)

/-- Source: `AiNodeController.update` (`server/controller/ai_node.py:36`),
`EncodeNodeController.update` (`server/controller/encode_node.py:37`). A body that is not an object
changes nothing. -/
def updateNode (r : Registry) (id : Nat) (data : Json) : TokenWorld :=
  match (w.nodes r).getById id, data with
  | some n, .obj fields =>
    if !e.commits then w
    else w.writeNode r n.id (updateFields fields) fun m => (updateFields_frame fields m).1
  | _, _ => w

/-- Source: `AiNodeController.drain` (`server/controller/ai_node.py:53`),
`EncodeNodeController.drain` (`server/controller/encode_node.py:58`). -/
def drainNode (r : Registry) (id : Nat) : TokenWorld :=
  match (w.nodes r).getById id with
  | none => w
  | some n => if !e.commits then w else w.writeNode r n.id fun m => { m with status := .draining }

/-- Source: `AiNodeController.delete` (`server/controller/ai_node.py:61`),
`EncodeNodeController.delete` (`server/controller/encode_node.py:66`). -/
def deleteNode (r : Registry) (id : Nat) : TokenWorld :=
  match (w.nodes r).getById id with
  | none => w
  | some n =>
    if n.tokenJti.isSome && !e.up then w
    else if !e.commits then w.revokeOld e n
    else
      (w.revokeOld e n).writeNode r n.id fun m =>
        { m with deletedAt := some e.now, status := .disabled }

/-- One request. -/
def nodeStep (w : TokenWorld) (a : NodeEnv × NodeAct) : TokenWorld :=
  match a.2 with
  | .create r id uuid name => (w.createNode cfg a.1 r id uuid name).1
  | .join r id payload => (w.joinNode cfg a.1 r id payload).1
  | .issueToken r id ttl => (w.issueToken cfg a.1 r id ttl).1
  | .update r id data => w.updateNode a.1 r id data
  | .drain r id => w.drainNode a.1 r id
  | .delete r id => w.deleteNode a.1 r id

/-- No node has the uuid. -/
def UnusedUuid (uuid : String) : Prop := ∀ r, ∀ n ∈ w.nodes r, n.uuid ≠ uuid

/-- The requests of a run: the id and the uuid of a new node are new. -/
def nodeOk (w : TokenWorld) (a : NodeEnv × NodeAct) : Prop :=
  match a.2 with
  | .create r id uuid _ => (∀ n ∈ w.nodes r, n.id ≠ id) ∧ w.UnusedUuid uuid
  | _ => True

/-- The last token that was issued for the node with a uuid. -/
def lastIssued (r : Registry) (uuid : String) : Option Claims :=
  (w.minted.find? fun p => decide (p.1 = .node r) && decide (p.2.sub = uuid)).map Prod.snd

/-! ## Nodes and tokens after a write -/

section
variable {cfg : JwtConfig} {w w' : TokenWorld} {e : NodeEnv} {r r' : Registry}

@[simp] theorem nodes_setNodes (t : Nodes) :
    (w.setNodes t r).nodes r' = if r' = r then t else w.nodes r' := by
  cases r <;> cases r' <;> rfl

@[simp] theorem minted_setNodes (t : Nodes) : (w.setNodes t r).minted = w.minted := by
  cases r <;> rfl

theorem nodes_congr (ha : w'.aiNodes = w.aiNodes) (he : w'.encodingNodes = w.encodingNodes) :
    w'.nodes r = w.nodes r := by
  cases r with
  | ai => exact ha
  | encode => exact he

@[simp] theorem nodes_issueNodeToken {now : Int} (uuid : String) (ttl : Option Int) :
    (w.issueNodeToken cfg now r uuid ttl).1.nodes r' = w.nodes r' := nodes_congr rfl rfl

@[simp] theorem nodes_issueJoinToken {now : Int} (id : Nat) (ttl : Option Int) :
    (w.issueJoinToken cfg now id ttl).1.nodes r' = w.nodes r' := nodes_congr rfl rfl

@[simp] theorem minted_writeNode {id : Nat} {f : NodeRow → NodeRow} {hf : ∀ n, (f n).id = n.id} :
    (w.writeNode r id f hf).minted = w.minted := minted_setNodes _

theorem lastIssued_congr (h : w'.minted = w.minted) (uuid : String) :
    w'.lastIssued r uuid = w.lastIssued r uuid := by
  simp only [lastIssued, h]

/-- The last token of a node after another one was minted. -/
theorem lastIssued_cons {k : TokenKind} {c : Claims} (h : w'.minted = (k, c) :: w.minted)
    (uuid : String) :
    w'.lastIssued r uuid =
      if k = .node r ∧ c.sub = uuid then some c else w.lastIssued r uuid := by
  unfold lastIssued
  rw [h, List.find?_cons]
  by_cases hk : k = .node r ∧ c.sub = uuid
  · simp [hk]
  · rw [if_neg hk, ← Bool.decide_and, decide_eq_false hk]

theorem lastIssued_mem {uuid : String} {c : Claims} (h : w.lastIssued r uuid = some c) :
    (.node r, c) ∈ w.minted ∧ c.sub = uuid := by
  unfold lastIssued at h
  obtain ⟨p, hf, rfl⟩ := Option.map_eq_some_iff.1 h
  have hp := List.find?_some hf
  rw [Bool.and_eq_true, decide_eq_true_eq, decide_eq_true_eq] at hp
  exact ⟨hp.1 ▸ List.mem_of_find?_eq_some hf, hp.2⟩

theorem lastIssued_ne_none {c : Claims} (h : (.node r, c) ∈ w.minted) :
    w.lastIssued r c.sub ≠ none := by
  intro hn
  rw [lastIssued, Option.map_eq_none_iff] at hn
  simpa using List.find?_eq_none.1 hn _ h

end

/-! ## The invariant -/

/-- What holds between the nodes and the tokens issued for them. -/
structure NodeInv (w : TokenWorld) : Prop where
  kinds : w.KindInv
  nodup : (w.minted.map fun p => p.2.jti).Nodup
  uuid : ∀ r, ∀ m ∈ w.nodes r, ∀ n ∈ w.nodes r, m.uuid = n.uuid → m = n
  last : ∀ r, ∀ n ∈ w.nodes r, n.tokenJti = (w.lastIssued r n.uuid).map Claims.jti
  sub : ∀ r c, (.node r, c) ∈ w.minted → ∃ n ∈ w.nodes r, n.uuid = c.sub

section
variable {cfg : JwtConfig} {w w' : TokenWorld} {e : NodeEnv} {r : Registry}

/-- The registries before the first request: no node holds a token, and no uuid is used twice. -/
structure NodesFresh (t : TokenTables) : Prop where
  apart : UuidsApart t.aiNodes t.encodingNodes
  uuid : ∀ r, ∀ m ∈ (start t).nodes r, ∀ n ∈ (start t).nodes r, m.uuid = n.uuid → m = n
  tokenJti : ∀ r, ∀ n ∈ (start t).nodes r, n.tokenJti = none

theorem NodeInv.start {t : TokenTables} (h : NodesFresh t) : (start t).NodeInv where
  kinds := KindInv.start h.apart
  nodup := List.nodup_nil
  uuid := h.uuid
  last := fun r n hn => h.tokenJti r n hn
  sub := fun _ _ hm => absurd hm List.not_mem_nil

/-- Nothing changes but the keys of the cache server and the id that is handed out next. -/
theorem NodeInv.frame (h : w.NodeInv) (hm : w'.minted = w.minted) (hn : w.next ≤ w'.next)
    (ha : w'.aiNodes = w.aiNodes) (he : w'.encodingNodes = w.encodingNodes)
    (hr : w'.refreshTokens = w.refreshTokens) : w'.NodeInv where
  kinds :=
    { ofKind := by rw [hm]; exact h.kinds.ofKind
      lt := by rw [hm]; exact fun p hp => (h.kinds.lt p hp).trans_le hn
      inj := by rw [hm]; exact h.kinds.inj
      refreshRows := by rw [hm, hr]; exact h.kinds.refreshRows
      apart := by rw [ha, he]; exact h.kinds.apart
      ai := by rw [hm, ha]; exact h.kinds.ai
      encode := by rw [hm, he]; exact h.kinds.encode }
  nodup := by rw [hm]; exact h.nodup
  uuid := fun r => by rw [nodes_congr ha he]; exact h.uuid r
  last := fun r => by
    rw [nodes_congr ha he]
    exact fun n hn => (h.last r n hn).trans (by rw [lastIssued_congr hm])
  sub := fun r => by rw [hm, nodes_congr ha he]; exact h.sub r

theorem NodeInv.revokeOld (h : w.NodeInv) (n : NodeRow) : (w.revokeOld e n).NodeInv := by
  unfold TokenWorld.revokeOld
  split
  · split
    · exact h.frame rfl le_rfl rfl rfl rfl
    · exact h
  · exact h

@[simp] theorem nodes_revokeOld (n : NodeRow) : (w.revokeOld e n).nodes r = w.nodes r := by
  unfold revokeOld
  split
  · split
    · exact nodes_congr rfl rfl
    · rfl
  · rfl

theorem NodeInv.lose (h : w.NodeInv) : w.lose.NodeInv :=
  h.frame rfl (Nat.le_succ _) rfl rfl rfl

/-- The rows of a registry are replaced by rows with uuids from before, or with an unused one. -/
theorem KindInv.setNodes (h : w.KindInv) {t : Nodes}
    (ht : ∀ n ∈ t, (∃ m ∈ w.nodes r, m.uuid = n.uuid) ∨
      (w.UnusedUuid n.uuid ∧ ∀ r' c, (.node r', c) ∈ w.minted → c.sub ≠ n.uuid)) :
    (w.setNodes t r).KindInv := by
  cases r with
  | ai =>
    refine { h with apart := ?_, ai := ?_ }
    · intro a ha n hn
      rcases ht a ha with ⟨m, hm, hu⟩ | ⟨hu, -⟩
      · exact hu ▸ h.apart m hm n hn
      · exact (hu .encode n hn).symm
    · intro c hc n hn
      rcases ht n hn with ⟨m, hm, hu⟩ | ⟨-, hu⟩
      · exact hu ▸ h.ai c hc m hm
      · exact (hu _ c hc).symm
  | encode =>
    refine { h with apart := ?_, encode := ?_ }
    · intro a ha n hn
      rcases ht n hn with ⟨m, hm, hu⟩ | ⟨hu, -⟩
      · exact hu ▸ h.apart a ha m hm
      · exact hu .ai a ha
    · intro c hc n hn
      rcases ht n hn with ⟨m, hm, hu⟩ | ⟨-, hu⟩
      · exact hu ▸ h.encode c hc m hm
      · exact (hu _ c hc).symm

/-- The rows after an update are rows from before, with the uuids they had. -/
theorem mem_nodes_writeNode {id : Nat} {f : NodeRow → NodeRow} {hf : ∀ n, (f n).id = n.id}
    {r' : Registry} {n : NodeRow} (h : n ∈ (w.writeNode r id f hf).nodes r') :
    (r' = r ∧ ∃ m ∈ w.nodes r, n = if m.id = id then f m else m) ∨ (r' ≠ r ∧ n ∈ w.nodes r') := by
  rw [writeNode, nodes_setNodes] at h
  split at h
  · next hr =>
    obtain ⟨m, hm, hn⟩ := Table.mem_modify.1 h
    refine .inl ⟨hr, m, hm, ?_⟩
    rw [hn]
    by_cases hid : m.id = id <;> simp [hid]
  · next hr => exact .inr ⟨hr, h⟩

/-- An update keeps the rows apart by their uuids, if it keeps the uuid of the row. -/
theorem uuid_writeNode {id : Nat} {f : NodeRow → NodeRow} {hf : ∀ n, (f n).id = n.id}
    (h : ∀ r, ∀ m ∈ w.nodes r, ∀ n ∈ w.nodes r, m.uuid = n.uuid → m = n)
    (hu : ∀ n, (f n).uuid = n.uuid) (r' : Registry) :
    ∀ m ∈ (w.writeNode r id f hf).nodes r', ∀ n ∈ (w.writeNode r id f hf).nodes r',
      m.uuid = n.uuid → m = n := by
  have huuid : ∀ m : NodeRow, (if m.id = id then f m else m).uuid = m.uuid := by
    intro m
    split
    · exact hu m
    · rfl
  intro m hm n hn heq
  rcases mem_nodes_writeNode hm with ⟨hr, m', hm', rfl⟩ | ⟨hr, hm'⟩
  · rcases mem_nodes_writeNode hn with ⟨-, n', hn', rfl⟩ | ⟨hr', -⟩
    · rw [huuid, huuid] at heq
      rw [h r m' hm' n' hn' heq]
    · exact absurd hr hr'
  · rcases mem_nodes_writeNode hn with ⟨hr', -⟩ | ⟨-, hn'⟩
    · exact absurd hr' hr
    · exact h r' m hm' n hn' heq

/-- An update that keeps the uuid keeps the kinds of tokens apart. -/
theorem KindInv.writeNode (h : w.KindInv) {id : Nat} {f : NodeRow → NodeRow}
    {hf : ∀ n, (f n).id = n.id} (hu : ∀ n, (f n).uuid = n.uuid) :
    (w.writeNode r id f hf).KindInv := by
  refine h.setNodes fun n hn => .inl ?_
  obtain ⟨m, hm, rfl⟩ := Table.mem_modify.1 hn
  refine ⟨m, hm, ?_⟩
  split
  · exact (hu m).symm
  · rfl

/-- Every uuid a row had is the uuid of a row after an update. -/
theorem exists_uuid_writeNode {id : Nat} {f : NodeRow → NodeRow} {hf : ∀ n, (f n).id = n.id}
    (hu : ∀ n, (f n).uuid = n.uuid) {r' : Registry} {uuid : String}
    (h : ∃ n ∈ w.nodes r', n.uuid = uuid) :
    ∃ n ∈ (w.writeNode r id f hf).nodes r', n.uuid = uuid := by
  obtain ⟨n, hn, rfl⟩ := h
  rw [TokenWorld.writeNode, nodes_setNodes]
  split
  · next hr =>
    subst hr
    refine ⟨_, Table.mem_modify.2 ⟨n, hn, rfl⟩, ?_⟩
    split
    · exact hu n
    · rfl
  · exact ⟨n, hn, rfl⟩

/-- An update that leaves the uuid and the token of the row alone keeps the invariant. -/
theorem NodeInv.writeNode (h : w.NodeInv) {id : Nat} {f : NodeRow → NodeRow}
    {hf : ∀ n, (f n).id = n.id} (hu : ∀ n, (f n).uuid = n.uuid)
    (hj : ∀ n, (f n).tokenJti = n.tokenJti) : (w.writeNode r id f hf).NodeInv where
  kinds := h.kinds.writeNode hu
  nodup := by rw [minted_writeNode]; exact h.nodup
  uuid := uuid_writeNode h.uuid hu
  last := by
    intro r' n hn
    rw [lastIssued_congr minted_writeNode]
    rcases mem_nodes_writeNode hn with ⟨rfl, m, hm, rfl⟩ | ⟨-, hm⟩
    · split
      · rw [hj, hu]
        exact h.last _ m hm
      · exact h.last _ m hm
    · exact h.last r' n hm
  sub := by
    intro r' c hc
    rw [minted_writeNode] at hc
    exact exists_uuid_writeNode hu (h.sub r' c hc)

/-- A token is issued for a node and its id is written to the row. -/
theorem NodeInv.issue (h : w.NodeInv) {now : Int} {n : NodeRow} (hn : n ∈ w.nodes r)
    (ttl : Option Int) {f : NodeRow → NodeRow} {hf : ∀ n, (f n).id = n.id}
    (hu : ∀ n, (f n).uuid = n.uuid) (hj : ∀ n, (f n).tokenJti = some w.next) :
    ((w.issueNodeToken cfg now r n.uuid ttl).1.writeNode r n.id f hf).NodeInv where
  kinds := (h.kinds.issueNodeToken hn ttl).writeNode hu
  nodup := by
    rw [minted_writeNode]
    refine List.nodup_cons.2 ⟨?_, h.nodup⟩
    intro hm
    obtain ⟨p, hp, hjti⟩ := List.mem_map.1 hm
    exact h.kinds.fresh le_rfl p hp hjti
  uuid := by
    refine uuid_writeNode (fun r' => ?_) hu
    rw [nodes_issueNodeToken]
    exact h.uuid r'
  last := by
    intro r' x hx
    rw [lastIssued_congr minted_writeNode, lastIssued_cons rfl]
    rcases mem_nodes_writeNode hx with ⟨rfl, m, hm, rfl⟩ | ⟨hr, hm⟩
    · rw [nodes_issueNodeToken] at hm
      split
      · next hid =>
        obtain rfl : m = n := Table.eq_of_key_eq hm hn hid
        rw [hj, hu, if_pos ⟨rfl, rfl⟩]
        rfl
      · next hid =>
        rw [if_neg fun hc => hid (congrArg NodeRow.id (h.uuid _ m hm n hn hc.2.symm))]
        exact h.last _ m hm
    · rw [nodes_issueNodeToken] at hm
      rw [if_neg fun hc => hr (by cases hc.1; rfl)]
      exact h.last r' x hm
  sub := by
    intro r' c hc
    rw [minted_writeNode] at hc
    refine exists_uuid_writeNode hu ?_
    rw [nodes_issueNodeToken]
    rcases List.mem_cons.1 hc with heq | hc
    · cases heq
      exact ⟨n, hn, rfl⟩
    · exact h.sub r' c hc

/-- A node is registered under a new uuid. -/
theorem NodeInv.insertNode (h : w.NodeInv) {n : NodeRow} (hid : ∀ m ∈ w.nodes r, m.id ≠ n.id)
    (hu : w.UnusedUuid n.uuid) (hj : n.tokenJti = none) :
    (w.setNodes ((w.nodes r).insert n) r).NodeInv := by
  have hsub : ∀ r' c, (.node r', c) ∈ w.minted → c.sub ≠ n.uuid := by
    intro r' c hc heq
    obtain ⟨m, hm, hmu⟩ := h.sub r' c hc
    exact hu r' m hm (hmu.trans heq)
  have hmem : ∀ r' x, x ∈ (w.setNodes ((w.nodes r).insert n) r).nodes r' →
      x ∈ w.nodes r' ∨ (r' = r ∧ x = n) := by
    intro r' x hx
    rw [nodes_setNodes] at hx
    split at hx
    · next hr =>
      subst hr
      exact ((Table.mem_insert hid).1 hx).imp_right fun hx => ⟨rfl, hx⟩
    · exact .inl hx
  refine ⟨h.kinds.setNodes fun x hx => ?_, ?_, ?_, ?_, ?_⟩
  · rcases (Table.mem_insert hid).1 hx with hx | rfl
    · exact .inl ⟨x, hx, rfl⟩
    · exact .inr ⟨hu, hsub⟩
  · rw [minted_setNodes]
    exact h.nodup
  · intro r' x hx y hy heq
    rcases hmem r' x hx with hx | ⟨-, hx⟩
    · rcases hmem r' y hy with hy | ⟨-, hy⟩
      · exact h.uuid r' x hx y hy heq
      · exact absurd (hy ▸ heq) (hu r' x hx)
    · rcases hmem r' y hy with hy | ⟨-, hy⟩
      · exact absurd (hx ▸ heq.symm) (hu r' y hy)
      · exact hx.trans hy.symm
  · intro r' x hx
    rw [lastIssued_congr (minted_setNodes _)]
    rcases hmem r' x hx with hx | ⟨-, rfl⟩
    · exact h.last r' x hx
    · cases hl : w.lastIssued r' x.uuid with
      | none => exact hj
      | some c => exact absurd (lastIssued_mem hl).2 (hsub _ c (lastIssued_mem hl).1)
  · intro r' c hc
    rw [minted_setNodes] at hc
    obtain ⟨m, hm, hmu⟩ := h.sub r' c hc
    refine ⟨m, ?_, hmu⟩
    rw [nodes_setNodes]
    split
    · next hr =>
      subst hr
      exact (Table.mem_insert hid).2 (.inl hm)
    · exact hm

/-- A join token is minted. -/
theorem NodeInv.issueJoinToken (h : w.NodeInv) {now : Int} (id : Nat) (ttl : Option Int) :
    (w.issueJoinToken cfg now id ttl).1.NodeInv where
  kinds := h.kinds.issueJoinToken id ttl
  nodup := by
    refine List.nodup_cons.2 ⟨?_, h.nodup⟩
    intro hm
    obtain ⟨p, hp, hjti⟩ := List.mem_map.1 hm
    exact h.kinds.fresh le_rfl p hp hjti
  uuid := fun r => by rw [nodes_issueJoinToken]; exact h.uuid r
  last := by
    intro r n hn
    rw [lastIssued_cons rfl, if_neg nofun]
    rw [nodes_issueJoinToken] at hn
    exact h.last r n hn
  sub := by
    intro r c hc
    rw [nodes_issueJoinToken]
    rcases List.mem_cons.1 hc with heq | hc
    · cases heq
    · exact h.sub r c hc

/-- Every request keeps the invariant. -/
theorem NodeInv.step (h : w.NodeInv) {a : NodeEnv × NodeAct} (ha : w.nodeOk a) :
    (w.nodeStep cfg a).NodeInv := by
  obtain ⟨e, a⟩ := a
  cases a with
  | create r id uuid name =>
    unfold nodeStep createNode
    dsimp only
    split
    · exact h
    · split
      · exact h.insertNode ha.1 ha.2 rfl
      · exact (h.insertNode ha.1 ha.2 rfl).issueJoinToken id none
  | join r id payload =>
    unfold nodeStep joinNode
    dsimp only
    cases hn : (w.nodes r).getById id with
    | none => exact h
    | some n =>
      have hr := h.revokeOld (e := e) n
      dsimp only
      split
      · exact hr.lose
      · split
        · exact hr.lose
        · refine hr.issue ?_ none (fun _ => rfl) fun _ => rfl
          rw [nodes_revokeOld]
          exact (Nodes.getById_eq_some hn).1
  | issueToken r id ttl =>
    unfold nodeStep issueToken
    dsimp only
    cases hn : (w.nodes r).getById id with
    | none => exact h
    | some n =>
      have hr := h.revokeOld (e := e) n
      dsimp only
      split
      · exact h
      · split
        · exact hr.lose
        · refine hr.issue ?_ ttl (fun _ => rfl) fun _ => rfl
          rw [nodes_revokeOld]
          exact (Nodes.getById_eq_some hn).1
  | update r id data =>
    unfold nodeStep updateNode
    dsimp only
    split
    · next n fields hn =>
      split
      · exact h
      · exact h.writeNode (fun m => (updateFields_frame fields m).2.1)
          fun m => (updateFields_frame fields m).2.2
    · exact h
  | drain r id =>
    unfold nodeStep drainNode
    dsimp only
    split
    · exact h
    · split
      · exact h
      · exact h.writeNode (fun _ => rfl) fun _ => rfl
  | delete r id =>
    unfold nodeStep deleteNode
    dsimp only
    split
    · exact h
    · split
      · exact h
      · split
        · exact h.revokeOld _
        · exact (h.revokeOld _).writeNode (fun _ => rfl) fun _ => rfl

/-! ## The law -/

/-- The token a route accepts is the last one that was issued for the node. -/
theorem NodeInv.last_of_accepted (h : w.NodeInv) {now : Int} {c : Claims} {n : NodeRow}
    (hok : w.nodeTokenRequired now r c = .ok n) : w.lastIssued r n.uuid = some c := by
  obtain ⟨hv, hget, -, hj⟩ := nodeTokenRequired_eq_ok hok
  obtain ⟨hmem, huuid, -⟩ := Nodes.getByUuid_eq_some hget
  obtain ⟨-, ⟨k, hm⟩, -⟩ := decode_eq_ok.1 (verifyNodeToken_eq_ok.1 hv).1
  obtain rfl := h.kinds.registry_eq hm hok
  have hlast := h.last r n hmem
  cases hl : w.lastIssued r n.uuid with
  | none => exact absurd (huuid ▸ hl) (lastIssued_ne_none hm)
  | some d =>
    rw [hl] at hlast
    rcases hj with hj | hj
    · rw [hj] at hlast
      cases hlast
    · rw [hj] at hlast
      have heq := h.kinds.inj _ hm _ (lastIssued_mem hl).1 (Option.some.inj hlast)
      cases heq
      rfl

/-- **Single live node token.** In every run of the registries, a route accepts a token for a node
only if it is the last one issued for that node, has not expired, and the node is enabled and not
deleted; a token after which another one was issued for the node is not accepted at any time. -/
theorem single_live_node_token {t : TokenTables} (ht : NodesFresh t)
    {acts : List (NodeEnv × NodeAct)} (hrun : Run (nodeStep cfg) nodeOk (start t) acts w)
    (r : Registry) (c : Claims) :
    (∀ now n, w.nodeTokenRequired now r c = .ok n →
      w.lastIssued r n.uuid = some c ∧ now < seconds c.exp ∧ n ∈ w.nodes r ∧ n.uuid = c.sub ∧
        n.enabled = true ∧ n.deletedAt = none) ∧
    ∀ d later before, w.minted = later ++ (.node r, d) :: before → (.node r, c) ∈ before →
      d.sub = c.sub → ∀ now n, w.nodeTokenRequired now r c ≠ .ok n := by
  have hinv : w.NodeInv :=
    hrun.invariant (I := NodeInv) (fun _ _ hs ha => hs.step ha) (NodeInv.start ht)
  refine ⟨fun now n hok => ?_, fun d later before hsplit hc hsub now n hok => ?_⟩
  · obtain ⟨hv, hget, hen, -⟩ := nodeTokenRequired_eq_ok hok
    obtain ⟨hmem, huuid, hdel⟩ := Nodes.getByUuid_eq_some hget
    exact ⟨hinv.last_of_accepted hok, (decode_eq_ok.1 (verifyNodeToken_eq_ok.1 hv).1).2.2.2.1, hmem,
      huuid, hen, hdel⟩
  · have hlast := hinv.last_of_accepted hok
    obtain ⟨-, hget, -⟩ := nodeTokenRequired_eq_ok hok
    rw [(Nodes.getByUuid_eq_some hget).2.1, lastIssued, hsplit] at hlast
    -- the last token is found at `d` or later, and no id is used twice
    obtain ⟨p, hf, hp⟩ := Option.map_eq_some_iff.1 hlast
    have hnodup := hinv.nodup
    rw [hsplit, List.map_append, List.map_cons] at hnodup
    have hback : c.jti ∈ before.map fun p => p.2.jti := List.mem_map.2 ⟨_, hc, rfl⟩
    rw [List.find?_append, List.find?_cons_of_pos (by simp [hsub])] at hf
    have hfront : c.jti = d.jti ∨ c.jti ∈ later.map fun p => p.2.jti := by
      cases hl : later.find? _ with
      | none =>
        rw [hl, Option.none_or, Option.some.injEq] at hf
        rw [← hp, ← hf]
        exact .inl rfl
      | some q =>
        rw [hl, Option.some_or, Option.some.injEq] at hf
        rw [← hp, ← hf]
        exact .inr (List.mem_map.2 ⟨q, List.mem_of_find?_eq_some hl, rfl⟩)
    rcases hfront with hfront | hfront
    · rw [hfront] at hback
      exact (List.nodup_cons.1 (List.nodup_append.1 hnodup).2.1).1 hback
    · exact (List.nodup_append.1 hnodup).2.2 _ hfront _ (List.mem_cons_of_mem _ hback) rfl

end

end TokenWorld

namespace NodeTokenFixture

def env (t : Int) : NodeEnv := ⟨seconds t, true, true⟩

/-- A node joins and is issued a new token ten seconds later. -/
def acts : List (NodeEnv × NodeAct) :=
  [(env 1, .join .ai 5 (.obj [("name", .str "gpu-1")])), (env 11, .issueToken .ai 5 none)]

def world : TokenWorld :=
  acts.foldl (TokenWorld.nodeStep KindsFixture.config) (TokenWorld.start KindsFixture.tables)

/-- The token issued at the second `t`, under the id `jti`. -/
def token (t : Int) (jti : Nat) : Claims :=
  { sub := "a5", aud := "node", typ := "node", tv := none, mv := none, scope := none, fid := none,
    iat := t, exp := t + 365 * 86400, jti }

theorem fresh : TokenWorld.NodesFresh KindsFixture.tables where
  apart := by
    unfold TokenWorld.UuidsApart
    decide
  uuid := by
    intro r
    cases r <;> decide
  tokenJti := by
    intro r
    cases r <;> decide

end NodeTokenFixture

section
open NodeTokenFixture

/-- Two minutes later, when the denylist has forgotten the first token, the second one is accepted
and the first one still is not. -/
theorem single_live_node_token_fixture :
    (world.isDenylisted (seconds 120) 0 = false) ∧
    ((world.nodeTokenRequired (seconds 120) .ai (token 11 1)).isOk = true) ∧
    (∀ now n, world.nodeTokenRequired now .ai (token 11 1) = .ok n →
      world.lastIssued .ai n.uuid = some (token 11 1)) ∧
    ∀ now n, world.nodeTokenRequired now .ai (token 1 0) ≠ .ok n := by
  have hrun : Run (TokenWorld.nodeStep KindsFixture.config) TokenWorld.nodeOk
      (TokenWorld.start KindsFixture.tables) acts world := .cons trivial (.cons trivial .nil)
  have hlaw := TokenWorld.single_live_node_token fresh hrun .ai
  refine ⟨by decide +kernel, by decide +kernel,
    fun now n h => ((hlaw (token 11 1)).1 now n h).1, ?_⟩
  exact (hlaw (token 1 0)).2 (token 11 1) [] [(.node .ai, token 1 0)] (by decide +kernel)
    (by decide) (by decide)

end

end AeroXProtect
