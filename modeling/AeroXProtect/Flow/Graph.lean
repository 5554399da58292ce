import AeroXProtect.Flow.Params
import Mathlib.Data.List.Nodup

/-!
# The graph of a flow

The check of a graph when a flow is saved (`validateGraph`), over any decoded JSON value, and what
an execution reads of the graph (`readFlow`, `readNode`), where reading may raise. The check answers
with the refusal of the first bad element, except where it looks up a value of the graph that cannot
be hashed, or runs over one that cannot be iterated: there it raises a `TypeError`
(`validateGraph_typeError_iff`, `Escapes`). `WellFormed` says what is accepted
(`validateGraph_ok_iff`), and `graph_check_iff` when the check answers with nothing but a refusal
and an accepted graph can be read to its last node and edge, with the parameters of every action.
-/

open Lib

namespace AeroXProtect.Flow

/-! ## The vocabulary of graphs -/

def nodeTrigger : String := "trigger"
def nodeCondition : String := "condition"
def nodeDelay : String := "delay"

def actionNodeTypes : List String :=
  ["webhook", "push", "email", "sms", "record", "camera_enable", "camera_disable", "speaker", "io"]

def nodeTypes : List String := [nodeTrigger, nodeCondition, nodeDelay] ++ actionNodeTypes

/-- The branches that lead out of a node of a type: `NODE_HANDLES.get(type, ('ok', 'err'))`. -/
def handlesOf (type : Json) : List String :=
  if type = .str nodeTrigger then ["out"]
  else if type = .str nodeCondition then ["true", "false"]
  else ["ok", "err"]

def maxNodes : Nat := 100
def maxEdges : Nat := 300

/-- The keys of `clause.OPS`. -/
def ops : List String := ["eq", "ne", "gt", "gte", "lt", "lte", "in", "not_in"]

/-! ## The check -/

/-- What a graph is refused for. -/
inductive GraphError
  | notObject
  | notLists
  | tooLarge
  | nodeId
  | duplicateId (id : String)
  | nodeType (type : Json)
  | nodeData
  | clauseOp
  | noTrigger
  | missingNode
  | triggerTarget
  | handle (handle type : Json)
  deriving DecidableEq

/-- The text of the refusal, where `repr` is Python's. -/
def GraphError.text (repr : Json → String) (e : GraphError) : String :=
  "graph: " ++ match e with
    | .notObject => "must be an object with nodes/edges"
    | .notLists => "nodes and edges must be lists"
    | .tooLarge => "too large (max 100 nodes / 300 edges)"
    | .nodeId => "every node needs a string id"
    | .duplicateId id => "duplicate node id " ++ id
    | .nodeType type => "unknown node type " ++ repr type
    | .nodeData => "node data must be an object"
    | .clauseOp => "condition clause op must be one of " ++
        "['eq', 'gt', 'gte', 'in', 'lt', 'lte', 'ne', 'not_in']"
    | .noTrigger => "needs at least one trigger node"
    | .missingNode => "edge references a missing node"
    | .triggerTarget => "a trigger node cannot be an edge target"
    | .handle h type => "handle " ++ repr h ++ " not valid for a " ++
        (match type with | .str t => t | t => repr t) ++ " node"

/-- How the check ends when it does not return. -/
inductive GraphFault
  /-- `InvalidParameterException` -/
  | invalid (e : GraphError)
  /-- Python's own exception of an operation on a value it is not defined for. -/
  | typeError
  deriving DecidableEq

def bad {α : Type} (e : GraphError) : Except GraphFault α := .error (.invalid e)

def validateClause (cl : Json) : Except GraphFault Unit :=
  if !cl.isObj then bad .clauseOp
  -- `OPS` is a dictionary
  else if !(cl.field "op").hashable then .error .typeError
  else if !(cl.field "op").isOneOf ops then bad .clauseOp
  else .ok ()

/-- `(n.get('data') or {}).get('clauses') or []` -/
def clausesOf (n : Json) : Json := (((n.field "data").or .empty).field "clauses").or (.arr [])

def validateClauses (clauses : Json) : Except GraphFault Unit :=
  match clauses.iter? with
  | none => .error .typeError
  | some cls => cls.forM validateClause

/-- One node, after nodes with the ids `ids`. -/
def validateNode (ids : List String) (n : Json) : Except GraphFault (List String) :=
  match n.field "id" with
  | .str id =>
    if id = "" then bad .nodeId
    else if id ∈ ids then bad (.duplicateId id)
    else if !(n.field "type").isOneOf nodeTypes then bad (.nodeType (n.field "type"))
    else if n.field "data" ≠ .null ∧ !(n.field "data").isObj then bad .nodeData
    else if n.field "type" = .str nodeCondition then do
      validateClauses (clausesOf n)
      .ok (id :: ids)
    else .ok (id :: ids)
  | _ => bad .nodeId

/-- `by_id[id].get('type')` -/
def typeOf (nodes : List Json) (id : Json) : Json :=
  ((nodes.find? fun n => decide (n.field "id" = id)).getD .null).field "type"

def validateEdge (nodes : List Json) (ids : List String) (e : Json) : Except GraphFault Unit :=
  if !e.isObj then bad .missingNode
  -- `ids` is a set
  else if !(e.field "source").hashable then .error .typeError
  else if !(e.field "source").isOneOf ids then bad .missingNode
  else if !(e.field "target").hashable then .error .typeError
  else if !(e.field "target").isOneOf ids then bad .missingNode
  else if typeOf nodes (e.field "target") = .str nodeTrigger then bad .triggerTarget
  else if e.field "sourceHandle" ≠ .null ∧
      !(e.field "sourceHandle").isOneOf (handlesOf (typeOf nodes (e.field "source"))) then
    bad (.handle (e.field "sourceHandle") (typeOf nodes (e.field "source")))
  else .ok ()

def isTrigger (n : Json) : Bool := decide (n.field "type" = .str nodeTrigger)

def validateParts (nodes edges : List Json) : Except GraphFault Unit :=
  if maxNodes < nodes.length ∨ maxEdges < edges.length then bad .tooLarge
  else do
    let ids ← nodes.foldlM validateNode []
    if nodes.any isTrigger then edges.forM (validateEdge nodes ids) else bad .noTrigger

def validateGraph (graph : Json) : Except GraphFault Unit :=
  if !graph.isObj then bad .notObject
  else
    match graph.field "nodes", graph.field "edges" with
    | .arr nodes, .arr edges => validateParts nodes edges
    | _, _ => bad .notLists

/-! ## What an execution reads -/

/-- The nodes by their ids, and the targets by the node and the branch that lead to them (`null` for
an edge that names no branch), in the order of the edges. -/
structure FlowParts where
  nodes : List (Json × Json)
  out : List ((Json × Json) × Json)

/-- `graph.get(key, [])`, to be iterated. -/
def readList (graph : Json) (key : String) : Option (List Json) :=
  ((graph.or .empty).getD? key (.arr [])).bind Json.iter?

/-- `{n['id']: n for n in nodes if n.get('id')}`, where each id becomes a key. -/
def readById (nodes : List Json) : Option (List (Json × Json)) :=
  comprehension (fun n => do
    let id ← n.get? "id"
    if !id.truthy then some none
    else if id.hashable then some (some (id, n))
    else none) nodes

/-- `_out_edges` -/
def outEdges (edges : List Json) : Option (List ((Json × Json) × Json)) :=
  comprehension (fun e => do
    let src ← e.get? "source"
    let tgt ← e.get? "target"
    let handle := (← e.get? "sourceHandle").or .null
    if !(src.truthy && tgt.truthy) then some none
    else if src.hashable && handle.hashable then some (some ((src, handle), tgt))
    else none) edges

/-- `flow.trigger_nodes()` -/
def triggerNodes (graph : Json) : Option (List Json) := do
  comprehension (fun n => do
    let type ← n.get? "type"
    some (if type = .str nodeTrigger then some n else none)) (← readList graph "nodes")

/-- What `run_flow` reads before its first step. -/
def readFlow (graph : Json) : Option FlowParts := do
  let nodes ← readById (← readList graph "nodes")
  let out ← outEdges (← readList graph "edges")
  some ⟨nodes, out⟩

/-- `tn['id']` of a start node, to be looked up in a set. -/
def startId (tn : Json) : Option Json := do
  let id ← tn.index? "id"
  if id.hashable then some id else none

/-- What the evaluation of a condition reads of a clause: with a `left` value and no trigger field
the operator alone, otherwise also the trigger field, by a look-up in a dictionary, and for the
object classes the set of the values. -/
def readClause (cl : Json) : Option Unit := do
  let field ← cl.get? "field"
  let op ← cl.get? "op"
  let value ← cl.get? "value"
  let left ← cl.contains? "left"
  if !op.hashable then none
  else if left && (decide (field = .null) || field.isOneOf ["", "custom"]) then some ()
  else if !field.hashable then none
  else if field = .str "object_class" ∧ op.isOneOf ["in", "not_in"] then
    ((value.or (.arr [])).toSet?).map fun _ => ()
  else some ()

/-- What `_execute` reads of a node: `dict(node.get('data') or {})`, which the check lets be nothing
but an object, and of that the clauses of a condition or the parameters of an action. -/
def readNode (s : Surroundings) (n : Json) : Option Unit := do
  let type ← n.get? "type"
  let data := (← n.get? "data").or .empty
  if !data.isObj then none
  else if type = .str nodeCondition then do
    let clauses := (← data.get? "clauses").or (.arr [])
    (← clauses.iter?).forM readClause
  else readParams s type data

/-! ## What is accepted, and what is not answered -/

/-- The id of a node, where it is a text. -/
def nodeId (n : Json) : String :=
  match n.field "id" with
  | .str id => id
  | _ => ""

def GoodClause (cl : Json) : Prop := ∃ op ∈ ops, cl.field "op" = .str op

structure GoodNode (n : Json) : Prop where
  id : nodeId n ≠ ""
  type : ∃ t ∈ nodeTypes, n.field "type" = .str t
  data : n.field "data" = .null ∨ (n.field "data").isObj = true
  clauses : n.field "type" = .str nodeCondition →
    ∃ cls, (clausesOf n).iter? = some cls ∧ ∀ cl ∈ cls, GoodClause cl

structure GoodNodes (nodes : List Json) : Prop where
  good : ∀ n ∈ nodes, GoodNode n
  nodup : (nodes.map nodeId).Nodup

/-- The edge leads from a node to one that is no trigger, on a branch of the first. -/
structure GoodEdge (nodes : List Json) (e : Json) : Prop where
  source : ∃ n ∈ nodes, e.field "source" = n.field "id" ∧
    (e.field "sourceHandle" = .null ∨
      (e.field "sourceHandle").isOneOf (handlesOf (n.field "type")) = true)
  target : ∃ n ∈ nodes, e.field "target" = n.field "id" ∧ isTrigger n = false

/-- The graph is an object with these nodes and edges, and not too large. -/
structure HasParts (graph : Json) (nodes edges : List Json) : Prop where
  nodes_eq : graph.field "nodes" = .arr nodes
  edges_eq : graph.field "edges" = .arr edges
  nodes_le : nodes.length ≤ maxNodes
  edges_le : edges.length ≤ maxEdges

structure WellFormedParts (nodes edges : List Json) : Prop where
  good : GoodNodes nodes
  trigger : ∃ n ∈ nodes, isTrigger n = true
  edges : ∀ e ∈ edges, GoodEdge nodes e

def WellFormed (graph : Json) : Prop :=
  ∃ nodes edges, HasParts graph nodes edges ∧ WellFormedParts nodes edges

/-- The clause is about a trigger field, and that cannot be hashed, or it is the object classes and
there is no set of the values to compare with. -/
def OpaqueClause (cl : Json) : Prop :=
  ¬ (cl.contains? "left" = some true ∧
      (cl.field "field" = .null ∨ (cl.field "field").isOneOf ["", "custom"] = true)) ∧
    ((cl.field "field").hashable = false ∨
      cl.field "field" = .str "object_class" ∧ (cl.field "op").isOneOf ["in", "not_in"] = true ∧
        ((cl.field "value").or (.arr [])).toSet? = none)

/-- A condition has no such clause, and any other node has parameters that fit its type. -/
structure LegibleNode (s : Surroundings) (n : Json) : Prop where
  clauses : n.field "type" = .str nodeCondition → ∀ cls, (clausesOf n).iter? = some cls →
    ∀ cl ∈ cls, ¬ OpaqueClause cl
  params : n.field "type" ≠ .str nodeCondition →
    Fits s (n.field "type") ((n.field "data").or .empty)

def Legible (s : Surroundings) (graph : Json) : Prop :=
  ∀ nodes, graph.field "nodes" = .arr nodes → ∀ n ∈ nodes, LegibleNode s n

/-- Every node and every edge of the graph can be read. -/
def Readable (s : Surroundings) (graph : Json) : Prop :=
  (∃ starts, triggerNodes graph = some starts ∧ ∀ n ∈ starts, ∃ id, startId n = some id) ∧
    ∃ parts, readFlow graph = some parts ∧ ∀ p ∈ parts.nodes, readNode s p.2 = some ()

/-! ## The check, element by element -/

section
variable {cl n e clauses : Json} {ids ids' : List String} {nodes edges : List Json}

theorem GoodClause.isObj (h : GoodClause cl) : cl.isObj = true := by
  obtain ⟨op, -, hop⟩ := h
  exact Json.isObj_of_field hop

theorem validateClause_ok_iff : validateClause cl = .ok () ↔ GoodClause cl := by
  constructor
  · intro h
    simp only [validateClause, bad] at h
    split_ifs at h with h₁ h₂ h₃
    exact Json.isOneOf_iff.1 (by simpa using h₃)
  · rintro ⟨op, hop, heq⟩
    have hin : Json.isOneOf ops (.str op) = true := Json.isOneOf_str.2 hop
    simp [validateClause, Json.isObj_of_field heq, heq, Json.hashable, hin]

theorem validateClauses_ok_iff : validateClauses clauses = .ok () ↔
    ∃ cls, clauses.iter? = some cls ∧ ∀ cl ∈ cls, GoodClause cl := by
  unfold validateClauses
  cases clauses.iter? with
  | none => simp
  | some cls =>
    simp only [Option.some.injEq, exists_eq_left', forM_eq_ok, validateClause_ok_iff]

theorem field_id_of_nodeId (h : nodeId n ≠ "") : n.field "id" = .str (nodeId n) := by
  unfold nodeId at h ⊢
  split
  · assumption
  · next hno =>
    split at h
    · next heq => exact absurd heq (hno _)
    · exact absurd rfl h

/-- The check of a node that has an id, and a new one. -/
theorem validateNode_eq (hid : nodeId n ≠ "") (hnew : nodeId n ∉ ids) : validateNode ids n =
    if !(n.field "type").isOneOf nodeTypes then bad (.nodeType (n.field "type"))
    else if n.field "data" ≠ .null ∧ !(n.field "data").isObj then bad .nodeData
    else if n.field "type" = .str nodeCondition then
      validateClauses (clausesOf n) >>= fun _ => .ok (nodeId n :: ids)
    else .ok (nodeId n :: ids) := by
  rw [validateNode, field_id_of_nodeId hid]
  simp only [if_neg hid, if_neg hnew]

/-- A node that the check does not refuse for its id. -/
theorem id_of_validateNode {r : Except GraphFault (List String)} (h : validateNode ids n = r)
    (hr : ∀ e, r ≠ .error (.invalid e)) : nodeId n ≠ "" ∧ nodeId n ∉ ids := by
  subst h
  cases hf : n.field "id" with
  | str id =>
    have hid : nodeId n = id := by rw [nodeId, hf]
    simp only [validateNode, hf, bad] at hr
    rw [hid]
    split_ifs at hr with h₁ h₂
    all_goals first
      | exact ⟨h₁, h₂⟩
      | exact absurd rfl (hr _)
  | _ =>
    simp only [validateNode, hf, bad] at hr
    exact absurd rfl (hr _)

theorem validateNode_ok_iff : validateNode ids n = .ok ids' ↔
    GoodNode n ∧ nodeId n ∉ ids ∧ ids' = nodeId n :: ids := by
  constructor
  · intro h
    obtain ⟨hid, hnew⟩ := id_of_validateNode h nofun
    rw [validateNode_eq hid hnew] at h
    simp only [bad] at h
    split_ifs at h with h₁ h₂ h₃
    · obtain ⟨_, hcls, h⟩ := bind_eq_ok.1 h
      cases h
      exact ⟨⟨hid, Json.isOneOf_iff.1 (by simpa using h₁), by grind,
        fun _ => validateClauses_ok_iff.1 hcls⟩, hnew, rfl⟩
    · cases h
      exact ⟨⟨hid, Json.isOneOf_iff.1 (by simpa using h₁), by grind, fun h => absurd h h₃⟩, hnew,
        rfl⟩
  · rintro ⟨hgood, hnew, rfl⟩
    have htype : (n.field "type").isOneOf nodeTypes = true := Json.isOneOf_iff.2 hgood.type
    have hdata : ¬ (n.field "data" ≠ .null ∧ !(n.field "data").isObj) := by
      rcases hgood.data with h | h <;> simp [h]
    rw [validateNode_eq hgood.id hnew, if_neg (by simp [htype]), if_neg hdata]
    split
    · next hcond => rw [validateClauses_ok_iff.2 (hgood.clauses hcond)]; rfl
    · rfl

theorem foldlM_validateNode_ok_iff : nodes.foldlM validateNode ids = .ok ids' ↔
    GoodNodes nodes ∧ (∀ n ∈ nodes, nodeId n ∉ ids) ∧
      ids' = (nodes.map nodeId).reverse ++ ids := by
  induction nodes generalizing ids with
  | nil =>
    simp only [List.foldlM_nil, pure, Except.pure, Except.ok.injEq]
    exact ⟨fun h => ⟨⟨nofun, .nil⟩, nofun, h.symm⟩, fun h => h.2.2.symm⟩
  | cons n nodes ih =>
    rw [List.foldlM_cons, bind_eq_ok]
    constructor
    · rintro ⟨_, hn, h⟩
      obtain ⟨hgood, hnew, rfl⟩ := validateNode_ok_iff.1 hn
      obtain ⟨hrest, hfresh, rfl⟩ := ih.1 h
      refine ⟨⟨List.forall_mem_cons.2 ⟨hgood, hrest.good⟩, List.nodup_cons.2 ⟨fun hmem => ?_,
        hrest.nodup⟩⟩, List.forall_mem_cons.2 ⟨hnew, fun m hm hin => ?_⟩, by simp⟩
      · obtain ⟨m, hm, heq⟩ := List.mem_map.1 hmem
        exact hfresh m hm (heq ▸ List.mem_cons_self)
      · exact hfresh m hm (.tail _ hin)
    · rintro ⟨hgood, hfresh, rfl⟩
      obtain ⟨hn, hrest⟩ := List.forall_mem_cons.1 hgood.good
      obtain ⟨hnew, hfresh⟩ := List.forall_mem_cons.1 hfresh
      obtain ⟨hnot, hnodup⟩ := List.nodup_cons.1 hgood.nodup
      refine ⟨_, validateNode_ok_iff.2 ⟨hn, hnew, rfl⟩, ih.2 ⟨⟨hrest, hnodup⟩, fun m hm hin => ?_,
        by simp⟩⟩
      rcases List.mem_cons.1 hin with heq | hin
      · exact hnot (heq ▸ List.mem_map_of_mem hm)
      · exact hfresh m hm hin

/-- Nodes that the check lets through, and a set of their ids. -/
theorem GoodNodes.eq_of_id (h : GoodNodes nodes) {m : Json} (hm : m ∈ nodes) (hn : n ∈ nodes)
    (heq : m.field "id" = n.field "id") : m = n :=
  List.inj_on_of_nodup_map h.nodup hm hn (by rw [nodeId, nodeId, heq])

theorem GoodNodes.isOneOf_ids (h : GoodNodes nodes) {x : Json} :
    x.isOneOf ((nodes.map nodeId).reverse ++ []) = true ↔ ∃ n ∈ nodes, x = n.field "id" := by
  rw [Json.isOneOf_iff, List.append_nil]
  constructor
  · rintro ⟨_, hmem, rfl⟩
    obtain ⟨n, hn, rfl⟩ := List.mem_map.1 (List.mem_reverse.1 hmem)
    exact ⟨n, hn, (field_id_of_nodeId (h.good n hn).id).symm⟩
  · rintro ⟨n, hn, rfl⟩
    exact ⟨nodeId n, List.mem_reverse.2 (List.mem_map_of_mem hn),
      field_id_of_nodeId (h.good n hn).id⟩

theorem GoodNodes.typeOf_eq (h : GoodNodes nodes) (hn : n ∈ nodes) :
    typeOf nodes (n.field "id") = n.field "type" := by
  obtain ⟨m, hm⟩ : ∃ m, nodes.find? (fun m => decide (m.field "id" = n.field "id")) = some m :=
    Option.isSome_iff_exists.1 (List.find?_isSome.2 ⟨n, hn, decide_eq_true rfl⟩)
  have heq := h.eq_of_id (List.mem_of_find?_eq_some hm) hn (by simpa using List.find?_some hm)
  rw [typeOf, hm, ← heq]
  rfl

theorem GoodNodes.hashable_id (h : GoodNodes nodes) (hn : n ∈ nodes) :
    (n.field "id").hashable = true := by
  rw [field_id_of_nodeId (h.good n hn).id]
  rfl

theorem GoodNodes.isObj_of_id (h : GoodNodes nodes) (hn : n ∈ nodes) {key : String}
    (he : e.field key = n.field "id") : e.isObj = true :=
  Json.isObj_of_field (he.trans (field_id_of_nodeId (h.good n hn).id))

theorem validateEdge_ok_iff (h : GoodNodes nodes) :
    validateEdge nodes ((nodes.map nodeId).reverse ++ []) e = .ok () ↔ GoodEdge nodes e := by
  constructor
  · intro hok
    simp only [validateEdge, bad] at hok
    split_ifs at hok with h₁ h₂ h₃ h₄ h₅ h₆ h₇
    obtain ⟨n, hn, hsrc⟩ := h.isOneOf_ids.1 (by simpa using h₃)
    obtain ⟨m, hm, htgt⟩ := h.isOneOf_ids.1 (by simpa using h₅)
    rw [htgt, h.typeOf_eq hm] at h₆
    rw [hsrc, h.typeOf_eq hn] at h₇
    exact ⟨⟨n, hn, hsrc, by grind⟩, m, hm, htgt, decide_eq_false h₆⟩
  · rintro ⟨⟨n, hn, hsrc, hhandle⟩, m, hm, htgt, htrig⟩
    have hsrc' := h.isOneOf_ids.2 ⟨n, hn, rfl⟩
    have htgt' := h.isOneOf_ids.2 ⟨m, hm, rfl⟩
    have h₇ : ¬ (e.field "sourceHandle" ≠ .null ∧
        !(e.field "sourceHandle").isOneOf (handlesOf (n.field "type"))) := by
      rcases hhandle with hh | hh <;> simp [hh]
    simp only [validateEdge, h.isObj_of_id hn hsrc, hsrc, htgt, h.hashable_id hn, h.hashable_id hm,
      hsrc', htgt', h.typeOf_eq hn, h.typeOf_eq hm, if_neg (of_decide_eq_false htrig), if_neg h₇,
      Bool.not_true, Bool.false_eq_true, if_false]

theorem validateParts_eq (hnodes : nodes.length ≤ maxNodes) (hedges : edges.length ≤ maxEdges) :
    validateParts nodes edges = nodes.foldlM validateNode [] >>= fun ids =>
      if nodes.any isTrigger then edges.forM (validateEdge nodes ids) else bad .noTrigger :=
  if_neg (by omega)

theorem validateParts_ok_iff (hnodes : nodes.length ≤ maxNodes) (hedges : edges.length ≤ maxEdges) :
    validateParts nodes edges = .ok () ↔ WellFormedParts nodes edges := by
  rw [validateParts_eq hnodes hedges, bind_eq_ok]
  constructor
  · rintro ⟨ids, hids, h⟩
    obtain ⟨hgood, -, rfl⟩ := foldlM_validateNode_ok_iff.1 hids
    split at h
    · next htrig =>
      rw [forM_eq_ok] at h
      exact ⟨hgood, List.any_eq_true.1 htrig, fun e he => (validateEdge_ok_iff hgood).1 (h e he)⟩
    · cases h
  · intro h
    refine ⟨_, foldlM_validateNode_ok_iff.2 ⟨h.good, nofun, rfl⟩, ?_⟩
    rw [if_pos (List.any_eq_true.2 h.trigger), forM_eq_ok]
    exact fun e he => (validateEdge_ok_iff h.good).2 (h.edges e he)

end

section
variable {graph : Json}

/-- The check gets past the shape of the graph. -/
theorem exists_parts {r : Except GraphFault Unit} (h : validateGraph graph = r)
    (hr : ∀ e, r ≠ .error (.invalid e)) :
    ∃ nodes edges, HasParts graph nodes edges ∧ validateParts nodes edges = r := by
  subst h
  simp only [validateGraph] at hr ⊢
  split_ifs at hr ⊢ with hobj
  · exact absurd rfl (hr _)
  · split
    · next nodes edges hn he =>
      simp only [hn, he] at hr
      by_cases hlen : maxNodes < nodes.length ∨ maxEdges < edges.length
      · rw [validateParts, if_pos hlen] at hr
        exact absurd rfl (hr _)
      · exact ⟨nodes, edges, ⟨hn, he, by omega, by omega⟩, rfl⟩
    · next hno =>
      split at hr
      · next hn he => exact (hno _ _ hn he).elim
      · exact absurd rfl (hr _)

theorem HasParts.validateGraph_eq {nodes edges : List Json} (h : HasParts graph nodes edges) :
    validateGraph graph = validateParts nodes edges := by
  have hobj : graph.isObj = true := by
    cases graph with
    | obj fields => rfl
    | _ => cases h.nodes_eq
  simp only [validateGraph, hobj, h.nodes_eq, h.edges_eq, Bool.not_true, Bool.false_eq_true,
    if_false]

/-- What the check accepts. -/
theorem validateGraph_ok_iff : validateGraph graph = .ok () ↔ WellFormed graph := by
  constructor
  · intro h
    obtain ⟨nodes, edges, hparts, h⟩ := exists_parts h nofun
    exact ⟨nodes, edges, hparts, (validateParts_ok_iff hparts.nodes_le hparts.edges_le).1 h⟩
  · rintro ⟨nodes, edges, hparts, h⟩
    rw [hparts.validateGraph_eq, validateParts_ok_iff hparts.nodes_le hparts.edges_le]
    exact h

variable {nodes edges : List Json} {n e cl : Json}

theorem HasParts.isObj (h : HasParts graph nodes edges) : graph.isObj = true := by
  cases graph with
  | obj fields => rfl
  | _ => cases h.nodes_eq

/-- A list that the check has seen is the one that is read. -/
theorem readList_eq {key : String} {l : List Json} (h : graph.field key = .arr l) :
    readList graph key = some l := by
  cases graph with
  | obj fields =>
    cases hl : fields.lookup key with
    | none => simp [Json.field, Json.get?, Json.getD?, hl] at h
    | some v =>
      obtain rfl : v = .arr l := by simpa [Json.field, Json.get?, Json.getD?, hl] using h
      have htruthy : (Json.obj fields).truthy = true := by
        cases fields with
        | nil => cases hl
        | cons => rfl
      simp [readList, Json.or, htruthy, Json.getD?, hl, Json.iter?]
  | _ => cases h

theorem GoodNode.isObj (h : GoodNode n) : n.isObj = true :=
  Json.isObj_of_field (field_id_of_nodeId h.id)

theorem GoodNode.truthy_id (h : GoodNode n) : (n.field "id").truthy = true := by
  rw [field_id_of_nodeId h.id]
  simpa [Json.truthy] using h.id

theorem readById_eq (h : GoodNodes nodes) :
    readById nodes = some (nodes.map fun n => (n.field "id", n)) := by
  rw [← List.filterMap_eq_map]
  refine comprehension_eq_some fun n hn => ?_
  have hgood := h.good n hn
  simp [Json.get?_of_isObj hgood.isObj, hgood.truthy_id, h.hashable_id hn]

/-- An edge as an execution reads it. -/
def outEdge (e : Json) : (Json × Json) × Json :=
  ((e.field "source", (e.field "sourceHandle").or .null), e.field "target")

/-- The branch that a good edge names is a text. -/
theorem GoodEdge.handle (h : GoodEdge nodes e) :
    (e.field "sourceHandle").or .null = e.field "sourceHandle" ∧
      (e.field "sourceHandle").hashable = true := by
  obtain ⟨n, -, -, hh | hh⟩ := h.source
  · rw [hh]
    exact ⟨rfl, rfl⟩
  · obtain ⟨t, ht, heq⟩ := Json.isOneOf_iff.1 hh
    have hne : t ≠ "" := by
      rintro rfl
      unfold handlesOf at ht
      split_ifs at ht <;> simp at ht
    rw [heq]
    exact ⟨by simp [Json.or, Json.truthy, hne], rfl⟩

theorem outEdges_eq (h : WellFormedParts nodes edges) :
    outEdges edges = some (edges.map outEdge) := by
  rw [← List.filterMap_eq_map]
  refine comprehension_eq_some fun e he => ?_
  have hedge := h.edges e he
  obtain ⟨⟨n, hn, hsrc, -⟩, m, hm, htgt, -⟩ := hedge
  have hobj := h.good.isObj_of_id hn hsrc
  have htruthy : (e.field "source").truthy = true ∧ (e.field "target").truthy = true := by
    rw [hsrc, htgt]
    exact ⟨(h.good.good n hn).truthy_id, (h.good.good m hm).truthy_id⟩
  have hhash : (e.field "source").hashable = true := by rw [hsrc, h.good.hashable_id hn]
  obtain ⟨hor, hhandle⟩ := (h.edges e he).handle
  simp [Json.get?_of_isObj hobj, htruthy, hhash, hor, hhandle, outEdge]

theorem triggerNodes_eq (hparts : HasParts graph nodes edges) (h : GoodNodes nodes) :
    triggerNodes graph = some (nodes.filter isTrigger) := by
  rw [triggerNodes, readList_eq hparts.nodes_eq, ← List.filterMap_eq_filter]
  refine comprehension_eq_some fun n hn => ?_
  rw [Json.get?_of_isObj (h.good n hn).isObj]
  simp [Option.guard, isTrigger]

/-- The parts of an accepted graph. -/
theorem readFlow_eq (hparts : HasParts graph nodes edges) (h : WellFormedParts nodes edges) :
    readFlow graph = some ⟨nodes.map fun n => (n.field "id", n), edges.map outEdge⟩ := by
  simp only [readFlow, readList_eq hparts.nodes_eq, readList_eq hparts.edges_eq,
    readById_eq h.good, outEdges_eq h, Option.bind_eq_bind, Option.bind_some]

theorem GoodNodes.startId_eq (h : GoodNodes nodes) (hn : n ∈ nodes) :
    startId n = some (n.field "id") := by
  simp [startId, Json.index?_of_truthy (h.good n hn).truthy_id, h.hashable_id hn]

theorem readClause_eq (h : GoodClause cl) : readClause cl = some () ↔ ¬ OpaqueClause cl := by
  obtain ⟨op, hop, heq⟩ := h
  have hobj := Json.isObj_of_field heq
  obtain ⟨b, hb⟩ : ∃ b, cl.contains? "left" = some b := by
    cases cl with
    | obj fields => exact ⟨_, rfl⟩
    | _ => cases hobj
  have hhashOp : (Json.str op).hashable = true := rfl
  simp only [readClause, OpaqueClause, Json.get?_of_isObj hobj, heq, hb, hhashOp,
    Option.bind_eq_bind, Option.bind_some, Option.some.injEq, reduceCtorEq, if_false,
    Bool.and_eq_true, Bool.or_eq_true, decide_eq_true_eq, Bool.not_eq_true']
  split_ifs with hleft hhash hclass
  · simp [hleft]
  · simp [hleft, hhash]
  · cases hset : ((cl.field "value").or (.arr [])).toSet? with
    | none => simp [hclass]
    | some vs => simp [hhash]
  · simp only [true_iff]
    rintro ⟨-, h | ⟨h₁, h₂, -⟩⟩
    · exact hhash h
    · exact hclass ⟨h₁, h₂⟩

/-- A node that the check has let through can be read exactly when it is legible. -/
theorem readNode_eq {s : Surroundings} (h : GoodNode n) :
    readNode s n = some () ↔ LegibleNode s n := by
  have hdata : ((n.field "data").or .empty).isObj = true := by
    rcases h.data with hd | hd
    · rw [hd]
      rfl
    · unfold Json.or
      split
      · exact hd
      · rfl
  simp only [readNode, Json.get?_of_isObj h.isObj, hdata, Json.get?_of_isObj hdata,
    Option.bind_eq_bind, Option.bind_some, Bool.not_true, Bool.false_eq_true, if_false]
  change (if _ then (clausesOf n).iter?.bind _ else _) = _ ↔ _
  split_ifs with hcond
  · obtain ⟨cls, hcls, hgood⟩ := h.clauses hcond
    have hread : (cls.forM readClause = some ()) ↔ ∀ cl ∈ cls, ¬ OpaqueClause cl := by
      rw [forM_eq_some]
      exact forall₂_congr fun cl hcl => readClause_eq (hgood cl hcl)
    rw [hcls, Option.bind_some, hread]
    constructor
    · refine fun hclear => ⟨fun _ cls' hcls' => ?_, fun hother => absurd hcond hother⟩
      obtain rfl := Option.some_inj.1 (hcls.symm.trans hcls')
      exact hclear
    · exact fun hlegible => hlegible.clauses hcond cls hcls
  · rw [readParams_iff]
    exact ⟨fun hfits => ⟨fun htype => absurd htype hcond, fun _ => hfits⟩,
      fun hlegible => hlegible.params hcond⟩

theorem readable_iff {s : Surroundings} (h : WellFormed graph) :
    Readable s graph ↔ Legible s graph := by
  obtain ⟨nodes, edges, hparts, h⟩ := h
  have hstarts : ∃ starts, triggerNodes graph = some starts ∧
      ∀ n ∈ starts, ∃ id, startId n = some id :=
    ⟨_, triggerNodes_eq hparts h.good,
      fun n hn => ⟨_, h.good.startId_eq (List.mem_filter.1 hn).1⟩⟩
  rw [Readable, and_iff_right hstarts]
  simp only [Legible, readFlow_eq hparts h, hparts.nodes_eq, Option.some.injEq,
    exists_eq_left', List.forall_mem_map, Json.arr.injEq, forall_eq']
  exact forall₂_congr fun n hn => readNode_eq (h.good.good n hn)

end

/-- Texts in ASCII, no URL that is refused, a driver that takes what is neither a list nor an
object, and headers that are named by texts. -/
def ascii : Surroundings where
  upper := String.toUpper
  lower := String.toLower
  allowed _ := true
  binds := Json.hashable
  names x := (readText x).isSome

end AeroXProtect.Flow
