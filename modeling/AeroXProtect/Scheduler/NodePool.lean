import AeroXProtect.Auth.NodeToken
import AeroXProtect.Encode.Offload

/-!
# Which nodes get work

The pool of a registry is the set of its schedulable nodes: enabled and with status `online`. Four
actors write the two columns: the administrator (enable, disable, drain), the node itself (join and
heartbeat), and the supervisor, which marks a silent node offline. A log notes what happened to
which node, newest first; `NodePool.Inv` ties the status of a node to the log, and
`schedulable_iff` says which enabled nodes a heartbeat brings back.

The rows are those of the registries of `Auth.NodeToken`; a heartbeat passes the guard of its route
first. What the scheduler does with a node that leaves or enters the pool is left out here.
-/

open Lib

namespace AeroXProtect

/-! ## The pool -/

/-- Source: `AiNode.schedulable` (`server/model/ai_node.py:60`), `EncodingNode.schedulable`
(`server/model/encoding_node.py:55`), without their order. -/
def Nodes.schedulable (t : Nodes) : List NodeRow :=
  t.rows.filter fun n => n.deletedAt.isNone && n.enabled && decide (n.status = .online)

/-- Source: `AiNode.stale` (`server/model/ai_node.py:67`), `EncodingNode.stale`
(`server/model/encoding_node.py:62`): the condition on a row. -/
def NodeRow.isStale (cutoff : Int) (n : NodeRow) : Bool :=
  n.deletedAt.isNone && (decide (n.status = .online) || decide (n.status = .degraded)) &&
    n.lastHeartbeatTs.any fun ts => decide (ts < cutoff)

/-- What happened to a node. -/
inductive NodeEvent
  | created | joined | enabled | disabled | drained | beat | foundStale
  deriving DecidableEq, Repr

/-- A node is taken out by a disable or a drain, and brought back by a join. -/
def NodeEvent.holds : NodeEvent → Option Bool
  | .disabled | .drained => some true
  | .created | .joined => some false
  | .enabled | .beat | .foundStale => none

/-- A node that was found stale is silent until it joins or sends a heartbeat. -/
def NodeEvent.silences : NodeEvent → Option Bool
  | .foundStale => some true
  | .created | .joined | .beat => some false
  | .enabled | .disabled | .drained => none

/-- An entry of the log. -/
structure NodeNote where
  r : Registry
  id : Nat
  event : NodeEvent
  deriving DecidableEq, Repr

/-- What an entry says about a node. -/
def NodeNote.about (reading : NodeEvent → Option Bool) (r : Registry) (id : Nat) (x : NodeNote) :
    Option Bool :=
  if x.r = r ∧ x.id = id then reading x.event else none

/-- The registries, and the log. -/
structure NodePool where
  world : TokenWorld
  log : List NodeNote

/-- What the four actors do. -/
inductive NodePoolAct
  | request (a : NodeEnv × NodeAct)
  | heartbeat (e : NodeEnv) (r : Registry) (c : Claims) (payload : Json)
  | sweep (now : Int) (r : Registry)

namespace TokenWorld

variable (cfg : JwtConfig) (w : TokenWorld)

/-- What a request does to its node. -/
def notes (a : NodeEnv × NodeAct) : List NodeNote :=
  match a.2 with
  | .create r id _ name => if !name.truthy || !a.1.commits then [] else [⟨r, id, .created⟩]
  | .join r id payload =>
    if (w.joinNode cfg a.1 r id payload).2.isSome then [⟨r, id, .joined⟩] else []
  | .update r id data =>
    match (w.nodes r).getById id, data with
    | some _, .obj fields =>
      match fields.lookup "enabled" with
      | none => []
      | some v =>
        if !a.1.commits then []
        else if v.truthy then [⟨r, id, .enabled⟩] else [⟨r, id, .disabled⟩]
    | _, _ => []
  | .drain r id =>
    if ((w.nodes r).getById id).isSome && a.1.commits then [⟨r, id, .drained⟩] else []
  | .issueToken .. | .delete .. => []

/-- What a heartbeat reads as the status: a draining AI node is not asked. `none` when the body is
not an object. -/
def beatPayload (r : Registry) (n : NodeRow) (payload : Json) : Option Json :=
  if r = .ai ∧ n.status = .draining then some .null else (payload.or .empty).get? "status"

/-- A heartbeat, and the node it is about if it goes through. Source: `heartbeat`
(`server/service/ai_node_registry.py:51`), `heartbeat`
(`server/service/encode_node_registry.py:54`), behind the guard of their routes. -/
def beatNode (e : NodeEnv) (r : Registry) (c : Claims) (payload : Json) :
    TokenWorld × List NodeNote :=
  match w.nodeTokenRequired e.now r c with
  | .error _ => (w, [])
  | .ok n =>
    match beatPayload r n payload with
    | none => (w, [])
    | some status =>
      if !e.commits then (w, [])
      else
        (w.writeNode r n.id fun m =>
          { m with status := beatStatus n.status status, lastHeartbeatTs := some e.now },
          [⟨r, n.id, .beat⟩])

/-- Source: `supervise_nodes` (`server/task/list/ai_supervise.py:18`), `supervise_encode_nodes`
(`server/task/list/encode_supervise.py:19`): `NODE_STALE_S` is 15. -/
def sweepNodes (now : Int) (r : Registry) : TokenWorld × List NodeNote :=
  let isStale := NodeRow.isStale (now - seconds 15)
  (w.setNodes ((w.nodes r).modify isStale (fun n => { n with status := .offline }) fun _ => rfl) r,
    ((w.nodes r).rows.filter isStale).map fun n => ⟨r, n.id, .foundStale⟩)

end TokenWorld

namespace NodePool

variable (cfg : JwtConfig)

def step (s : NodePool) : NodePoolAct → NodePool
  | .request a => ⟨s.world.nodeStep cfg a, s.world.notes cfg a ++ s.log⟩
  | .heartbeat e r c payload =>
    let (w, notes) := s.world.beatNode e r c payload
    ⟨w, notes ++ s.log⟩
  | .sweep now r =>
    let (w, notes) := s.world.sweepNodes now r
    ⟨w, notes ++ s.log⟩

/-- The runs: the id and the uuid of a new node are new. -/
def ok (s : NodePool) : NodePoolAct → Prop
  | .request a => s.world.nodeOk a
  | _ => True

/-- The registries before a run; a node that is draining then has been drained. -/
def start (w : TokenWorld) : NodePool where
  world := w
  log := [Registry.ai, .encode].flatMap fun r =>
    ((w.nodes r).rows.filter fun n => decide (n.status = .draining)).map
      fun n => ⟨r, n.id, .drained⟩

variable (s : NodePool)

/-- The node was disabled or drained and has not joined since. -/
def heldBack (r : Registry) (id : Nat) : Bool := latest (NodeNote.about NodeEvent.holds r id) s.log

/-- A sweep has found the node silent, and it has not joined or sent a heartbeat since. -/
def silent (r : Registry) (id : Nat) : Bool := latest (NodeNote.about NodeEvent.silences r id) s.log

/-- The node is in the pool of the registry. -/
def InPool (r : Registry) (id : Nat) : Prop := ∃ n ∈ (s.world.nodes r).schedulable, n.id = id

/-- A row and what the log says about its node. -/
structure RowAgrees (log : List NodeNote) (r : Registry) (n : NodeRow) : Prop where
  draining : n.status = .draining ↔ latest (NodeNote.about NodeEvent.holds r n.id) log = true
  silent : latest (NodeNote.about NodeEvent.silences r n.id) log = true → n.status ≠ .online

/-- The rows of the nodes that are not deleted agree with the log. -/
def Inv : Prop :=
  ∀ r, ∀ n ∈ s.world.nodes r, n.deletedAt = none → RowAgrees s.log r n

end NodePool

/-! ## Status and log -/

section
variable {cfg : JwtConfig} {s : NodePool} {r r' : Registry} {id : Nat} {n m : NodeRow}
  {log notes : List NodeNote} {reading : NodeEvent → Option Bool}

@[simp] theorem NodeNote.about_self (event : NodeEvent) :
    NodeNote.about reading r id ⟨r, id, event⟩ = reading event := by
  simp [NodeNote.about]

theorem NodeNote.about_other {x : NodeNote} (h : ¬ (x.r = r ∧ x.id = id)) :
    NodeNote.about reading r id x = none := if_neg h

/-- What an update does to the status. -/
theorem TokenWorld.updateFields_status (fields : List (String × Json)) (n : NodeRow) :
    (updateFields fields n).deletedAt = n.deletedAt ∧
      (updateFields fields n).status =
        ((fields.lookup "enabled").map fun v => if v.truthy then n.status else .draining).getD
          n.status := by
  unfold updateFields
  cases fields.lookup "name" <;> cases fields.lookup "enabled" with
  | none => exact ⟨rfl, rfl⟩
  | some v => cases hv : v.truthy <;> simp [hv]

namespace NodePool

theorem RowAgrees.congr (h : RowAgrees log r n) (hid : m.id = n.id) (hst : m.status = n.status) :
    RowAgrees log r m where
  draining := by rw [hid, hst]; exact h.draining
  silent := by rw [hid, hst]; exact h.silent

/-- Entries about other nodes say nothing about a row. -/
theorem RowAgrees.append (h : RowAgrees log r n)
    (hnotes : ∀ x ∈ notes, ¬ (x.r = r ∧ x.id = n.id)) : RowAgrees (notes ++ log) r n where
  draining := by
    rw [latest_append _ _ fun x hx => NodeNote.about_other (hnotes x hx)]
    exact h.draining
  silent := by
    rw [latest_append _ _ fun x hx => NodeNote.about_other (hnotes x hx)]
    exact h.silent

/-- One row is written, and the log says so. -/
theorem Inv.write (h : s.Inv) {w : TokenWorld} {f : NodeRow → NodeRow}
    {hf : ∀ n, (f n).id = n.id} (hw : ∀ r', w.nodes r' = (s.world.writeNode r id f hf).nodes r')
    (hnotes : ∀ x ∈ notes, x.r = r ∧ x.id = id)
    (hrow : ∀ m ∈ s.world.nodes r, m.id = id → (f m).deletedAt = none →
      m.deletedAt = none ∧ (RowAgrees s.log r m → RowAgrees (notes ++ s.log) r (f m))) :
    Inv ⟨w, notes ++ s.log⟩ := by
  intro r' n hn hdel
  change n ∈ w.nodes r' at hn
  rw [hw] at hn
  rcases TokenWorld.mem_nodes_writeNode hn with ⟨rfl, m, hm, rfl⟩ | ⟨hne, hm⟩
  · by_cases hid : m.id = id
    · rw [if_pos hid] at hdel ⊢
      obtain ⟨hlive, hagrees⟩ := hrow m hm hid hdel
      exact hagrees (h _ m hm hlive)
    · rw [if_neg hid] at hdel ⊢
      exact (h _ m hm hdel).append fun x hx hx' => hid (hx'.2.symm.trans (hnotes x hx).2)
  · exact (h _ n hm hdel).append fun x hx hx' => hne (hx'.1.symm.trans (hnotes x hx).1)

/-- The rows and the log are as they were. -/
theorem Inv.same (h : s.Inv) {w : TokenWorld} (hw : ∀ r', w.nodes r' = s.world.nodes r') :
    Inv ⟨w, [] ++ s.log⟩ := by
  intro r' n hn hdel
  change n ∈ w.nodes r' at hn
  rw [hw] at hn
  exact h r' n hn hdel

/-- A row is inserted under a new id, and the log says so. -/
theorem Inv.insert (h : s.Inv) {w : TokenWorld} {row : NodeRow}
    (hnew : ∀ m ∈ s.world.nodes r, m.id ≠ row.id) (hst : row.status = .offline)
    (hw : ∀ r', w.nodes r' = (s.world.setNodes ((s.world.nodes r).insert row) r).nodes r') :
    Inv ⟨w, [⟨r, row.id, .created⟩] ++ s.log⟩ := by
  have hold : ∀ r' n, n ∈ s.world.nodes r' → ¬ (r = r' ∧ row.id = n.id) := by
    rintro r' n hn ⟨rfl, hid⟩
    exact hnew n hn hid.symm
  intro r' n hn hdel
  change n ∈ w.nodes r' at hn
  rw [hw, TokenWorld.nodes_setNodes] at hn
  have hkept : n ∈ s.world.nodes r' →
      RowAgrees ([⟨r, row.id, .created⟩] ++ s.log) r' n := fun hn =>
    (h r' n hn hdel).append fun x hx => by rw [List.mem_singleton.1 hx]; exact hold r' n hn
  split at hn
  · next hr =>
    subst hr
    rcases (Table.mem_insert hnew).1 hn with hn | rfl
    · exact hkept hn
    · exact ⟨by simp [hst, NodeEvent.holds], by simp [NodeEvent.silences]⟩
  · exact hkept hn

theorem nodes_writeNode_congr {w w' : TokenWorld} (hw : ∀ r, w'.nodes r = w.nodes r)
    {f : NodeRow → NodeRow} {hf : ∀ n, (f n).id = n.id} (r' : Registry) :
    (w'.writeNode r id f hf).nodes r' = (w.writeNode r id f hf).nodes r' := by
  rw [TokenWorld.writeNode, TokenWorld.writeNode, TokenWorld.nodes_setNodes,
    TokenWorld.nodes_setNodes, hw, hw]

/-- A write that keeps the status and the deletion of a row needs no entry. -/
theorem Inv.writeSame (h : s.Inv) {w : TokenWorld} {f : NodeRow → NodeRow}
    {hf : ∀ n, (f n).id = n.id} (hw : ∀ r', w.nodes r' = (s.world.writeNode r id f hf).nodes r')
    (hst : ∀ m, (f m).status = m.status) (hdel : ∀ m, (f m).deletedAt = m.deletedAt) :
    Inv ⟨w, [] ++ s.log⟩ :=
  h.write hw (fun _ hx => absurd hx List.not_mem_nil) fun m _ _ hlive =>
    ⟨(hdel m).symm.trans hlive, fun hrow => hrow.congr (hf m) (hst m)⟩

/-- The entries of the log before a run. -/
theorem mem_log_start {w : TokenWorld} {x : NodeNote} :
    x ∈ (start w).log ↔ ∃ n ∈ w.nodes x.r, n.status = .draining ∧ x = ⟨x.r, n.id, .drained⟩ := by
  have hr : x.r ∈ [Registry.ai, .encode] := by cases x.r <;> decide
  unfold start
  simp only [List.mem_flatMap, List.mem_map, List.mem_filter, decide_eq_true_eq, Table.mem_rows]
  constructor
  · rintro ⟨r, -, n, ⟨hn, hst⟩, rfl⟩
    exact ⟨n, hn, hst, rfl⟩
  · rintro ⟨n, hn, hst, hx⟩
    exact ⟨x.r, hr, n, ⟨hn, hst⟩, hx.symm⟩

theorem Inv.start (w : TokenWorld) : (NodePool.start w).Inv := by
  have hdrained : ∀ x ∈ (NodePool.start w).log, x.event = .drained := by
    intro x hx
    obtain ⟨n, -, -, hx⟩ := mem_log_start.1 hx
    rw [hx]
  have hread : ∀ (reading : NodeEvent → Option Bool) r id, reading .drained ≠ some false →
      ∀ x ∈ (NodePool.start w).log, NodeNote.about reading r id x ≠ some false := by
    intro reading r id hne x hx
    unfold NodeNote.about
    rw [hdrained x hx]
    split
    · exact hne
    · simp
  intro r n hn _
  refine ⟨?_, fun h => ?_⟩
  · rw [latest_eq_true_iff (hread NodeEvent.holds r n.id (by decide))]
    constructor
    · exact fun hst => ⟨⟨r, n.id, .drained⟩, mem_log_start.2 ⟨n, hn, hst, rfl⟩, by
        simp [NodeEvent.holds]⟩
    · rintro ⟨x, hx, hsome⟩
      obtain ⟨m, hm, hst, heq⟩ := mem_log_start.1 hx
      obtain ⟨hr, hid⟩ : x.r = r ∧ x.id = n.id := by
        by_contra hno
        rw [NodeNote.about_other hno] at hsome
        cases hsome
      rw [hr] at hm
      rw [heq] at hid
      rwa [← Table.eq_of_key_eq hm hn hid]
  · rw [latest_eq_true_iff (hread NodeEvent.silences r n.id (by decide))] at h
    obtain ⟨x, hx, hsome⟩ := h
    unfold NodeNote.about at hsome
    rw [hdrained x hx] at hsome
    split at hsome
    · cases hsome
    · cases hsome

/-- A new row is offline. -/
theorem Inv.create (h : s.Inv) (e : NodeEnv) (uuid : String) (name : Json)
    (hnew : ∀ n ∈ s.world.nodes r, n.id ≠ id) :
    (s.step cfg (.request (e, .create r id uuid name))).Inv := by
  unfold step TokenWorld.nodeStep TokenWorld.createNode TokenWorld.notes
  dsimp only
  split
  · exact h.same fun _ => rfl
  · split
    · exact h.insert hnew rfl fun _ => rfl
    · exact h.insert hnew rfl fun r' => TokenWorld.nodes_issueJoinToken id none

/-- A join writes the status `online`. -/
theorem Inv.join (h : s.Inv) (e : NodeEnv) (payload : Json) :
    (s.step cfg (.request (e, .join r id payload))).Inv := by
  unfold step TokenWorld.nodeStep TokenWorld.notes TokenWorld.joinNode
  dsimp only
  cases hn : (s.world.nodes r).getById id with
  | none => exact h.same fun _ => rfl
  | some n =>
    dsimp only
    obtain ⟨-, rfl, -⟩ := Nodes.getById_eq_some hn
    cases hname : payload.get? "name" with
    | none => exact h.same fun r' => TokenWorld.nodes_revokeOld n
    | some name =>
      dsimp only
      split
      · exact h.same fun r' => TokenWorld.nodes_revokeOld n
      · refine h.write (fun r' => nodes_writeNode_congr (fun r => ?_) r') (by simp)
          fun m _ hid hlive => ⟨hlive, fun _ => ?_⟩
        · rw [TokenWorld.nodes_issueNodeToken, TokenWorld.nodes_revokeOld]
        · exact ⟨by simp [hid, NodeEvent.holds], by simp [hid, NodeEvent.silences]⟩

/-- A token changes the epoch of its node, not the status. -/
theorem Inv.issueToken (h : s.Inv) (e : NodeEnv) (ttl : Option Int) :
    (s.step cfg (.request (e, .issueToken r id ttl))).Inv := by
  unfold step TokenWorld.nodeStep TokenWorld.notes TokenWorld.issueToken
  dsimp only
  cases hn : (s.world.nodes r).getById id with
  | none => exact h.same fun _ => rfl
  | some n =>
    dsimp only
    split
    · exact h.same fun _ => rfl
    · split
      · exact h.same fun r' => TokenWorld.nodes_revokeOld n
      · refine h.writeSame (fun r' => nodes_writeNode_congr (fun r => ?_) r') (fun _ => rfl)
          fun _ => rfl
        rw [TokenWorld.nodes_issueNodeToken, TokenWorld.nodes_revokeOld]

/-- Disabling a node drains it; enabling it keeps its status. -/
theorem Inv.update (h : s.Inv) (e : NodeEnv) (data : Json) :
    (s.step cfg (.request (e, .update r id data))).Inv := by
  unfold step TokenWorld.nodeStep TokenWorld.notes TokenWorld.updateNode
  dsimp only
  cases hn : (s.world.nodes r).getById id with
  | none => exact h.same fun _ => rfl
  | some n =>
    obtain ⟨-, rfl, -⟩ := Nodes.getById_eq_some hn
    cases data with
    | obj fields =>
      dsimp only
      have hrow := TokenWorld.updateFields_status fields
      cases hv : fields.lookup "enabled" with
      | none =>
        rw [hv] at hrow
        split
        · exact h.same fun _ => rfl
        · exact h.writeSame (fun _ => rfl) (fun m => (hrow m).2) fun m => (hrow m).1
      | some v =>
        rw [hv] at hrow
        cases hc : e.commits with
        | false => exact h.same fun _ => rfl
        | true =>
          cases ht : v.truthy with
          | true =>
            simp only [Bool.not_true, Bool.false_eq_true, if_false, ht, if_true]
            refine h.write (fun _ => rfl) (by simp) fun m _ hid hlive =>
              ⟨(hrow m).1.symm.trans hlive, fun hm => ?_⟩
            have hst : (TokenWorld.updateFields fields m).status = m.status := by
              simpa [ht] using (hrow m).2
            have hm' := hm.congr (TokenWorld.updateFields_frame fields m).1 hst
            exact ⟨by simpa [NodeNote.about, NodeEvent.holds] using hm'.draining,
              by simpa [NodeNote.about, NodeEvent.silences] using hm'.silent⟩
          | false =>
            simp only [Bool.not_true, Bool.false_eq_true, if_false, ht]
            refine h.write (fun _ => rfl) (by simp) fun m _ hid hlive =>
              ⟨(hrow m).1.symm.trans hlive, fun _ => ?_⟩
            have hst : (TokenWorld.updateFields fields m).status = .draining := by
              simpa [ht] using (hrow m).2
            have hid' := (TokenWorld.updateFields_frame fields m).1.trans hid
            exact ⟨by simp [hst, hid', NodeEvent.holds], by simp [hst]⟩
    | null | bool | num | str | arr => exact h.same fun _ => rfl

/-- A drain writes the status `draining`. -/
theorem Inv.drain (h : s.Inv) (e : NodeEnv) :
    (s.step cfg (.request (e, .drain r id))).Inv := by
  unfold step TokenWorld.nodeStep TokenWorld.notes TokenWorld.drainNode
  dsimp only
  cases hn : (s.world.nodes r).getById id with
  | none => exact h.same fun _ => rfl
  | some n =>
    obtain ⟨-, rfl, -⟩ := Nodes.getById_eq_some hn
    cases hc : e.commits with
    | false => exact h.same fun _ => rfl
    | true =>
      refine h.write (fun _ => rfl) (by simp) fun m _ hid hlive => ⟨hlive, fun hrow => ?_⟩
      exact ⟨by simp [hid, NodeEvent.holds], by simp⟩

/-- A deleted node is no longer asked for. -/
theorem Inv.delete (h : s.Inv) (e : NodeEnv) :
    (s.step cfg (.request (e, .delete r id))).Inv := by
  unfold step TokenWorld.nodeStep TokenWorld.notes TokenWorld.deleteNode
  dsimp only
  cases hn : (s.world.nodes r).getById id with
  | none => exact h.same fun _ => rfl
  | some n =>
    dsimp only
    split
    · exact h.same fun _ => rfl
    · split
      · exact h.same fun r' => TokenWorld.nodes_revokeOld n
      · refine h.write (fun r' => nodes_writeNode_congr (fun r => ?_) r')
          (fun _ hx => absurd hx List.not_mem_nil) fun m _ _ hlive =>
            absurd hlive (Option.some_ne_none _)
        exact TokenWorld.nodes_revokeOld n

theorem Inv.request (h : s.Inv) {a : NodeEnv × NodeAct} (ha : s.world.nodeOk a) :
    (s.step cfg (.request a)).Inv := by
  obtain ⟨e, a⟩ := a
  cases a with
  | create r id uuid name => exact h.create e uuid name ha.1
  | join r id payload => exact h.join e payload
  | issueToken r id ttl => exact h.issueToken e ttl
  | update r id data => exact h.update e data
  | drain r id => exact h.drain e
  | delete r id => exact h.delete e

theorem beatStatus_eq_draining_iff {current : NodeStatus} {status : Json} :
    beatStatus current status = .draining ↔ current = .draining := by
  unfold beatStatus
  split
  · next h => simp [h]
  · next h =>
    split
    · simp [h]
    · simp [h]

/-- What a heartbeat that goes through writes. -/
theorem beatNode_eq {w : TokenWorld} {e : NodeEnv} {c : Claims} {payload status : Json}
    (hok : w.nodeTokenRequired e.now r c = .ok n) (hc : e.commits = true)
    (hp : TokenWorld.beatPayload r n payload = some status) :
    w.beatNode e r c payload =
      (w.writeNode r n.id fun m =>
        { m with status := beatStatus n.status status, lastHeartbeatTs := some e.now },
        [⟨r, n.id, .beat⟩]) := by
  unfold TokenWorld.beatNode
  rw [hok]
  dsimp only
  rw [hp]
  simp [hc]

theorem Inv.heartbeat (h : s.Inv) (e : NodeEnv) (r : Registry) (c : Claims) (payload : Json) :
    (s.step cfg (.heartbeat e r c payload)).Inv := by
  unfold step
  dsimp only
  cases hok : s.world.nodeTokenRequired e.now r c with
  | error x =>
    rw [TokenWorld.beatNode, hok]
    exact h.same fun _ => rfl
  | ok n =>
    cases hp : TokenWorld.beatPayload r n payload with
    | none =>
      rw [TokenWorld.beatNode, hok]
      dsimp only
      rw [hp]
      exact h.same fun _ => rfl
    | some status =>
      cases hc : e.commits with
      | false =>
        rw [TokenWorld.beatNode, hok]
        dsimp only
        rw [hp]
        simp only [hc, Bool.not_false, if_true]
        exact h.same fun _ => rfl
      | true =>
        rw [beatNode_eq hok hc hp]
        obtain ⟨-, hget, -⟩ := TokenWorld.nodeTokenRequired_eq_ok hok
        obtain ⟨hn, -⟩ := Nodes.getByUuid_eq_some hget
        refine h.write (fun _ => rfl) (by simp) fun m hm hid hlive => ⟨hlive, fun hrow => ?_⟩
        obtain rfl := Table.eq_of_key_eq hm hn hid
        refine ⟨?_, by simp [NodeEvent.silences]⟩
        simpa [NodeEvent.holds, beatStatus_eq_draining_iff] using hrow.draining

theorem Inv.sweep (h : s.Inv) (now : Int) (r : Registry) : (s.step cfg (.sweep now r)).Inv := by
  intro r' n hn hdel
  -- an entry of the sweep is about a row it marks
  have hnotes : ∀ m ∈ s.world.nodes r', m.isStale (now - seconds 15) = false ∨ r' ≠ r →
      ∀ x ∈ (s.world.sweepNodes now r).2, ¬ (x.r = r' ∧ x.id = m.id) := by
    rintro m hm hno x hx ⟨hxr, hxid⟩
    obtain ⟨m', hm', rfl⟩ := List.mem_map.1 hx
    obtain ⟨hmem, hstale⟩ := List.mem_filter.1 hm'
    subst hxr
    rw [Table.eq_of_key_eq hmem hm hxid] at hstale
    rcases hno with hno | hno
    · rw [hno] at hstale
      cases hstale
    · exact hno rfl
  change n ∈ (s.world.sweepNodes now r).1.nodes r' at hn
  unfold TokenWorld.sweepNodes at hn
  dsimp only at hn
  rw [TokenWorld.nodes_setNodes] at hn
  split at hn
  · next hr =>
    subst hr
    obtain ⟨m, hm, rfl⟩ := Table.mem_modify.1 hn
    split at hdel
    · next hstale =>
      rw [if_pos hstale]
      have hold := h _ m hm hdel
      have hst : m.status = .online ∨ m.status = .degraded := by
        unfold NodeRow.isStale at hstale
        simp only [Bool.and_eq_true, Bool.or_eq_true, decide_eq_true_eq] at hstale
        exact hstale.1.2
      have hheld : latest (NodeNote.about NodeEvent.holds r' m.id)
          ((s.world.sweepNodes now r').2 ++ s.log) =
            latest (NodeNote.about NodeEvent.holds r' m.id) s.log := by
        refine latest_append _ _ fun x hx => ?_
        obtain ⟨m', -, rfl⟩ := List.mem_map.1 hx
        unfold NodeNote.about
        split <;> rfl
      refine ⟨?_, fun _ => by simp⟩
      show NodeStatus.offline = .draining ↔ _
      rw [show (s.step cfg (.sweep now r')).log = (s.world.sweepNodes now r').2 ++ s.log from rfl,
        hheld, ← hold.draining]
      rcases hst with hst | hst <;> simp [hst]
    · next hstale =>
      rw [if_neg hstale]
      exact (h _ m hm hdel).append (hnotes m hm (.inl (by simpa using hstale)))
  · next hr => exact (h _ n hn hdel).append (hnotes n hn (.inr hr))

theorem Inv.step (h : s.Inv) {a : NodePoolAct} (ha : s.ok a) : (s.step cfg a).Inv := by
  cases a with
  | request a => exact h.request ha
  | heartbeat e r c payload => exact h.heartbeat e r c payload
  | sweep now r => exact h.sweep now r

end NodePool

end

/-! ## Who comes back -/

namespace NodePool

variable {cfg : JwtConfig} {s : NodePool}

theorem Inv.inPool_heartbeat_iff (h : s.Inv) {e : NodeEnv} {r : Registry} {c : Claims}
    {payload : Json} {n : NodeRow} (hok : s.world.nodeTokenRequired e.now r c = .ok n)
    (hc : e.commits = true) (hp : payload.get? "status" = some (.str "online")) :
    (s.step cfg (.heartbeat e r c payload)).InPool r n.id ↔ s.heldBack r n.id = false := by
  obtain ⟨-, hget, hen, -⟩ := TokenWorld.nodeTokenRequired_eq_ok hok
  obtain ⟨hn, -, hdel⟩ := Nodes.getByUuid_eq_some hget
  have htruthy : payload.truthy = true := by
    cases payload with
    | obj fields =>
      cases fields with
      | nil => cases hp
      | cons x fields => rfl
    | null | bool | num | str | arr => cases hp
  obtain ⟨status, hbeat, hstatus⟩ : ∃ status, TokenWorld.beatPayload r n payload = some status ∧
      (beatStatus n.status status = .online ↔ n.status ≠ .draining) := by
    unfold TokenWorld.beatPayload
    rw [Json.or, if_pos htruthy]
    split
    · next hdrain => exact ⟨_, rfl, by simp [beatStatus, hdrain.2]⟩
    · refine ⟨_, hp, ?_⟩
      unfold beatStatus
      split
      · next hdrain => simp [hdrain]
      · next hdrain => simp [hdrain]
  have hheld : s.heldBack r n.id = false ↔ n.status ≠ .draining := by
    rw [ne_eq, (h r n hn hdel).draining, Bool.not_eq_true]
    rfl
  rw [hheld, ← hstatus]
  unfold InPool NodePool.step
  dsimp only
  rw [beatNode_eq hok hc hbeat]
  unfold Nodes.schedulable
  simp only [List.mem_filter, Table.mem_rows, Bool.and_eq_true, decide_eq_true_eq,
    Option.isNone_iff_eq_none]
  constructor
  · rintro ⟨n', ⟨hn', ⟨-, -⟩, hst⟩, hid⟩
    rcases TokenWorld.mem_nodes_writeNode hn' with ⟨-, m, hm, rfl⟩ | ⟨hne, -⟩
    · have hmid : m.id = n.id := by
        split at hid
        · assumption
        · exact hid
      rw [if_pos hmid] at hst
      exact hst
    · exact absurd rfl hne
  · intro hst
    refine ⟨{ n with status := beatStatus n.status status, lastHeartbeatTs := some e.now },
      ⟨?_, ⟨hdel, hen⟩, hst⟩, rfl⟩
    rw [TokenWorld.writeNode, TokenWorld.nodes_setNodes, if_pos rfl]
    exact Table.mem_modify.2 ⟨n, hn, by simp⟩

/-- **In every run of the four actors a heartbeat with status `online` brings its node into the
pool exactly when the node has joined since it was last disabled or drained**; a node that is
disabled, that was drained or disabled and has not joined since, or that was found stale and has not
joined or sent a heartbeat since, is not in the pool. -/
theorem schedulable_iff (cfg : JwtConfig) (w : TokenWorld) (acts : List NodePoolAct) (s : NodePool)
    (hrun : Run (NodePool.step cfg) NodePool.ok (NodePool.start w) acts s) :
    (∀ e r c payload n, s.world.nodeTokenRequired e.now r c = .ok n → e.commits = true →
      payload.get? "status" = some (.str "online") →
      ((s.step cfg (.heartbeat e r c payload)).InPool r n.id ↔ s.heldBack r n.id = false)) ∧
    ∀ r, ∀ n ∈ s.world.nodes r,
      n.enabled = false ∨ s.heldBack r n.id = true ∨ s.silent r n.id = true →
      n ∉ (s.world.nodes r).schedulable := by
  have hinv : s.Inv := hrun.invariant (fun _ _ hs ha => hs.step ha) (Inv.start w)
  refine ⟨fun e r c payload n hok hc hp => hinv.inPool_heartbeat_iff hok hc hp, ?_⟩
  intro r n hn hwhy hmem
  have hp := (List.mem_filter.1 hmem).2
  rw [Bool.and_eq_true, Bool.and_eq_true, Option.isNone_iff_eq_none, decide_eq_true_eq] at hp
  obtain ⟨⟨hdel, hen⟩, hst⟩ := hp
  have hrow := hinv r n hn hdel
  rcases hwhy with hdis | hheld | hsilent
  · rw [hen] at hdis
    cases hdis
  · have hdrain := hrow.draining.2 hheld
    rw [hst] at hdrain
    cases hdrain
  · exact hrow.silent hsilent hst

end NodePool

/-! ## A node that does not come back -/

namespace NodePoolFixture

def env (t : Int) : NodeEnv := ⟨seconds t, true, true⟩

/-- Node 5 is joined, disabled and enabled again. -/
def acts : List NodePoolAct :=
  [.request (env 31, .join .ai 5 (.obj [("name", .str "gpu-3")])),
    .request (env 32, .update .ai 5 (.obj [("enabled", .bool false)])),
    .request (env 33, .update .ai 5 (.obj [("enabled", .bool true)]))]

def pool : NodePool :=
  acts.foldl (NodePool.step KindsFixture.config)
    (NodePool.start (TokenWorld.start KindsFixture.tables))

/-- The token the node got when it joined. -/
def token : Claims := NodeTokenFixture.token 31 0

def online : Json := .obj [("status", .str "online")]

end NodePoolFixture

section
open NodePoolFixture

/-- The heartbeats of the node are accepted, and it stays out of the pool. -/
theorem reenabled_not_schedulable :
    (pool.world.nodeTokenRequired (seconds 34) .ai token).isOk = true ∧
    pool.log.map NodeNote.event = [.enabled, .disabled, .joined] ∧
    ((pool.step KindsFixture.config (.heartbeat (env 34) .ai token online)).log.head?.map
      NodeNote.event = some .beat) ∧
    ((pool.step KindsFixture.config (.heartbeat (env 34) .ai token online)).world.nodes
      .ai).schedulable = [] := by decide +kernel

/-- The run in which the node is disabled and enabled again. -/
theorem schedulable_iff_fixture :
    pool.heldBack .ai 5 = true ∧
      ∀ n ∈ pool.world.nodes .ai, n.id = 5 → n ∉ (pool.world.nodes .ai).schedulable := by
  have hheld : pool.heldBack .ai 5 = true := by decide +kernel
  refine ⟨hheld, fun n hn hid => ?_⟩
  exact (NodePool.schedulable_iff KindsFixture.config (TokenWorld.start KindsFixture.tables) acts
    pool (.cons trivial (.cons trivial (.cons trivial .nil)))).2 .ai n hn
      (.inr (.inl (hid ▸ hheld)))

end

end AeroXProtect
