import AeroXProtect.Flow.Graph
import AeroXProtect.Lib.Worklist
import Mathlib.Algebra.Order.Ring.Rat

/-!
# A run of a flow

`run_flow` walks the graph from the start nodes (`runFlow`): a work list of nodes, each of which is
executed (`execute`) and left on one branch, a failure on `err`. What the drivers answer for a node
is given (`NodeAnswers`), with the state in which they leave the worker's database session. The
nodes that are executed are those that are reachable along the branches taken (`Reachable`), each
once, and the cap on the steps is never met (`exactRun_of_runFlow`). The run does raise, though:
the handler of a failed node logs the id of the flow, which cannot be read when the failure was a
write in the session, and the closing write needs the session too. `run_flow_iff` says when.
-/

open Lib

namespace AeroXProtect.Flow

def maxSteps : Nat := 100
def maxDelayS : Rat := 60
def maxTotalDelayS : Rat := 120

/-! ## The database session -/

/-- The session of the worker: usable, with its connection lost, or with a write in it failed, which
expires the rows it has loaded. The last two stay until the session is rolled back. -/
inductive DbSession
  | usable
  | disconnected
  | expired
  deriving DecidableEq

/-- The state after a step that leaves a usable session in the state `s`. Nothing that a node runs
rolls the session back. -/
def DbSession.after : (t s : DbSession) → DbSession
  | .usable, s => s
  | .disconnected, .expired => .expired
  | .disconnected, _ => .disconnected
  | .expired, _ => .expired

/-! ## Executing a node -/

/-- What the parts outside the engine answer when a node is executed. -/
structure NodeAnswers where
  /-- `render(dict(node.get('data') or {}), ctx)` -/
  params : Except String (List (String × Json))
  /-- `_eval_condition` -/
  hit : Except String Bool
  /-- `_num(params.get('seconds'))` -/
  seconds : Rat
  /-- `_record`, or `action_runner.run` for the other types of actions. -/
  action : Except String Json
  session : DbSession

/-- What `_execute` returns. -/
structure NodeOutcome where
  status : Json
  input : Json
  output : Json
  error : Json
  branches : List String

/-- `_execute`, with what is left of the budget of delays. -/
def execute (type : Json) (a : NodeAnswers) (budget : Rat) : Except String (NodeOutcome × Rat) := do
  let params := Json.obj ((← a.params).filter fun f => f.1 != "label")
  if type = .str nodeCondition then
    let hit ← a.hit
    return (⟨.str "success", params, .obj [("result", .bool hit)], .null,
      [if hit then "true" else "false"]⟩, budget)
  else if type = .str nodeDelay then
    let secs := max 0 (min a.seconds (min maxDelayS budget))
    return (⟨.str "success", params, .obj [("slept_s", .num secs)], .null, ["ok"]⟩, budget - secs)
  else
    let res ←
      if type.isOneOf actionNodeTypes then a.action
      else .ok (.obj [("error", .str "unknown_node_type"), ("status", .str "failed")])
    let status := (res.field "status").or (.str "failed")
    return (⟨status, params, res, res.field "error",
      if status = .str "success" then ["ok"] else ["err"]⟩, budget)

/-- `_targets` -/
def targets (out : List ((Json × Json) × Json)) (nid : Json) (handle default : String) :
    List Json :=
  (out.filter fun e => decide (e.1 = (nid, .str handle))).map (·.2) ++
    if handle = default then (out.filter fun e => decide (e.1 = (nid, .null))).map (·.2) else []

/-! ## The loop -/

/-- An entry of `node_results`; the branches are not stored. -/
structure NodeResult where
  nodeId : Json
  type : Json
  outcome : NodeOutcome

/-- What the loop carries besides its queue. -/
structure Trail where
  results : List NodeResult
  budget : Rat
  session : DbSession

/-- `nodes[nid].get('type')` -/
def FlowParts.typeAt (parts : FlowParts) (nid : Json) : Json :=
  ((parts.nodes.lookup nid).getD .null).field "type"

/-- `nid in nodes` -/
def FlowParts.known (parts : FlowParts) (nid : Json) : Bool := (parts.nodes.lookup nid).isSome

/-- The branch of a node that an edge without a handle leads out on. -/
def defaultHandle (type : Json) : String := if type = .str nodeCondition then "true" else "ok"

/-- The result of a node whose execution raises. -/
def failedOutcome (msg : String) : NodeOutcome :=
  ⟨.str "failed", .null, .null, .str (String.ofList (msg.toList.take 200)), ["err"]⟩

/-- One pass of the loop for a node to be executed. -/
def visitNode (parts : FlowParts) (answers : Json → NodeAnswers) (nid : Json) (t : Trail) :
    Option (Trail × List Json) :=
  let type := parts.typeAt nid
  let session := t.session.after (answers nid).session
  let next := fun o : NodeOutcome =>
    o.branches.flatMap fun h => targets parts.out nid h (defaultHandle type)
  match execute type (answers nid) t.budget with
  | .ok (o, budget) => some (⟨t.results ++ [⟨nid, type, o⟩], budget, session⟩, next o)
  | .error msg =>
    -- the log line of the handler reads `flow.id`
    if session = .expired then none
    else some (⟨t.results ++ [⟨nid, type, failedOutcome msg⟩], t.budget, session⟩,
      next (failedOutcome msg))

/-- One start node, where `vars` are the variables of the trigger. -/
def startNode (parts : FlowParts) (vars : Json) (w : Work Json Trail) (tn : Json) :
    Option (Work Json Trail) := do
  let id ← startId tn
  if id ∈ w.done then some w
  else
    let o : NodeOutcome := ⟨.str "success", .null, vars, .null, ["out"]⟩
    some ⟨w.done ++ [id], w.queue ++ targets parts.out id "out" "out",
      { w.state with results := w.state.results ++ [⟨id, .str nodeTrigger, o⟩] }⟩

/-- `_summarize` -/
def summarize (results : List NodeResult) : String :=
  let st := (results.filter fun r => decide (r.type ≠ .str nodeTrigger)).map (·.outcome.status)
  if st.all fun s => decide (s = .str "success") then "success"
  else if st.any fun s => decide (s = .str "success") then "partial"
  else "failed"

/-- What the run depends on besides the graph: whether its opening and closing writes go through,
the variables of the trigger, and what is answered for each node. -/
structure RunEnv where
  opens : Bool
  closes : Bool
  vars : Json
  answers : Json → NodeAnswers

/-- The run as it is logged, and what is left in the queue. -/
structure FlowRun where
  results : List NodeResult
  status : String
  queue : List Json

/-- The nodes that the run starts with: those given, or all triggers. -/
def startNodes (graph : Json) (given : Option (List Json)) : Option (List Json) :=
  match given with
  | some starts => some starts
  | none => triggerNodes graph

/-- `run_flow`; `none` when it raises. -/
def runFlow (graph : Json) (given : Option (List Json)) (env : RunEnv) : Option FlowRun := do
  let parts ← readFlow graph
  let starts ← startNodes graph given
  if !env.opens then none
  else
    let w ← starts.foldlM (startNode parts env.vars) ⟨[], [], ⟨[], maxTotalDelayS, .usable⟩⟩
    let w ← Worklist.loop parts.known (visitNode parts env.answers) maxSteps w
    if w.state.session = .usable ∧ env.closes = true then
      some ⟨w.state.results, summarize w.state.results, w.queue⟩
    else none

/-! ## Reachability -/

/-- The branch on which a node of a type is left. -/
def branchTaken (type : Json) (a : NodeAnswers) : String :=
  match a.params with
  | .error _ => "err"
  | .ok _ =>
    if type = .str nodeCondition then
      match a.hit with
      | .ok hit => if hit then "true" else "false"
      | .error _ => "err"
    else if type = .str nodeDelay then "ok"
    else if type.isOneOf actionNodeTypes then
      match a.action with
      | .ok res => if res.field "status" = .str "success" then "ok" else "err"
      | .error _ => "err"
    else "err"

/-- An edge leads from `n` to the node `m` on the branch `h`, which is the branch `default` when the
edge names none. -/
def Leads (nodes edges : List Json) (n : Json) (h default : String) (m : Json) : Prop :=
  m ∈ nodes ∧ ∃ e ∈ edges, e.field "source" = n.field "id" ∧ e.field "target" = m.field "id" ∧
    (e.field "sourceHandle" = .str h ∨ e.field "sourceHandle" = .null ∧ h = default)

/-- The nodes that can be reached from the start nodes along the branches taken. -/
inductive Reachable (nodes edges starts : List Json) (answers : Json → NodeAnswers) : Json → Prop
  | start {s m : Json} (hs : s ∈ starts) (h : Leads nodes edges s "out" "out" m) :
    Reachable nodes edges starts answers m
  | next {n m : Json} (hn : Reachable nodes edges starts answers n)
    (h : Leads nodes edges n (branchTaken (n.field "type") (answers (n.field "id")))
      (defaultHandle (n.field "type")) m) : Reachable nodes edges starts answers m

/-- The run executes what is reachable, each node once and leaving it on the branch taken, and is
not cut short. -/
structure ExactRun (nodes edges starts : List Json) (answers : Json → NodeAnswers)
    (run : FlowRun) : Prop where
  once : (run.results.map (·.nodeId)).Nodup
  ofGraph : ∀ id ∈ run.results.map (·.nodeId), ∃ n ∈ nodes, n.field "id" = id
  executed : ∀ n ∈ nodes, isTrigger n = false →
    (n.field "id" ∈ run.results.map (·.nodeId) ↔ Reachable nodes edges starts answers n)
  branches : ∀ n, Reachable nodes edges starts answers n → ∃ r ∈ run.results,
    r.nodeId = n.field "id" ∧
      r.outcome.branches = [branchTaken (n.field "type") (answers (n.field "id"))]
  uncut : run.queue = []

/-! ## One node -/

section
variable {t : Trail} {nid : Json} {answers : Json → NodeAnswers} {parts : FlowParts}

theorem Json.or_failed_eq_success {x : Json} :
    x.or (.str "failed") = .str "success" ↔ x = .str "success" := by
  unfold Json.or
  split_ifs with hx
  · rfl
  · constructor
    · simp
    · rintro rfl
      exact absurd rfl hx

/-- An execution that returns leaves the node on the branch taken, and one that raises is followed
by the branch of failures. -/
theorem execute_branches (type : Json) (a : NodeAnswers) (budget : Rat) :
    match execute type a budget with
    | .ok (o, _) => o.branches = [branchTaken type a]
    | .error _ => branchTaken type a = "err" := by
  unfold execute branchTaken
  cases a.params with
  | error e => rfl
  | ok params =>
    simp only [bind, Except.bind, pure, Except.pure]
    by_cases hcond : type = .str nodeCondition
    · simp only [if_pos hcond]
      cases a.hit <;> rfl
    · by_cases hdelay : type = .str nodeDelay
      · simp only [if_neg hcond, if_pos hdelay]
      · simp only [if_neg hcond, if_neg hdelay]
        by_cases haction : type.isOneOf actionNodeTypes = true
        · simp only [if_pos haction]
          cases a.action with
          | error e => rfl
          | ok res =>
            simp only [Json.or_failed_eq_success]
            split_ifs <;> rfl
        · simp only [if_neg haction, Json.or_failed_eq_success]
          rfl

/-- What a visit that does not raise does: it appends the result of the node, leaves it on the
branch taken and passes the session on. -/
theorem visitNode_eq_some {t' : Trail} {next : List Json}
    (h : visitNode parts answers nid t = some (t', next)) :
    ∃ r, t'.results = t.results ++ [r] ∧ r.nodeId = nid ∧
      r.outcome.branches = [branchTaken (parts.typeAt nid) (answers nid)] ∧
      t'.session = t.session.after (answers nid).session ∧
      next = targets parts.out nid (branchTaken (parts.typeAt nid) (answers nid))
        (defaultHandle (parts.typeAt nid)) := by
  have hbranch := execute_branches (parts.typeAt nid) (answers nid) t.budget
  simp only [visitNode] at h
  split at h
  · next o budget heq =>
    simp only [heq] at hbranch
    cases h
    exact ⟨_, rfl, rfl, hbranch, rfl, by simp [hbranch]⟩
  · next msg heq =>
    simp only [heq] at hbranch
    split at h
    · cases h
    · cases h
      rw [hbranch]
      exact ⟨_, rfl, rfl, rfl, rfl, by simp [failedOutcome]⟩

/-- With a session that stays usable no visit raises. -/
theorem visitNode_isSome (ht : t.session = .usable) (ha : (answers nid).session = .usable) :
    ∃ t' next, visitNode parts answers nid t = some (t', next) ∧ t'.session = .usable := by
  simp only [visitNode, ht, ha, DbSession.after]
  split
  · exact ⟨_, _, rfl, rfl⟩
  · exact ⟨_, _, rfl, rfl⟩

theorem DbSession.after_eq_usable {s t : DbSession} :
    t.after s = .usable ↔ t = .usable ∧ s = .usable := by
  cases t <;> cases s <;> simp [after]

end

/-! ## The start nodes -/

section
variable {parts : FlowParts} (vars : Json)

/-- What the start nodes leave for the loop: their ids, each once, and the targets of their edges,
and no other result. -/
structure Started (parts : FlowParts) (ids : List Json) (w : Work Json Trail) : Prop where
  nodup : w.done.Nodup
  mem_done : ∀ id, id ∈ w.done ↔ id ∈ ids
  mem_queue : ∀ x, x ∈ w.queue ↔ ∃ id ∈ ids, x ∈ targets parts.out id "out" "out"
  results : w.state.results.map (·.nodeId) = w.done
  session : w.state.session = .usable

theorem Started.startNode {ids : List Json} {w : Work Json Trail} (h : Started parts ids w)
    {tn id : Json} (hid : startId tn = some id) :
    ∃ w', startNode parts vars w tn = some w' ∧ Started parts (ids ++ [id]) w' := by
  simp only [Flow.startNode, hid, Option.bind_eq_bind, Option.bind_some]
  split_ifs with hdone
  · have hin := (h.mem_done id).1 hdone
    refine ⟨w, rfl, h.nodup, fun x => ?_, fun x => ?_, h.results, h.session⟩
    · rw [h.mem_done]
      grind
    · rw [h.mem_queue]
      grind
  · refine ⟨_, rfl, List.nodup_append.2 ⟨h.nodup, by simp, ?_⟩, fun x => ?_, fun x => ?_, ?_,
      h.session⟩
    · rintro x hx y hy rfl
      exact hdone (List.mem_singleton.1 hy ▸ hx)
    · simp [h.mem_done]
    · simp only [List.mem_append, h.mem_queue, List.mem_singleton]
      grind
    · simp [h.results]

/-- The start nodes can all be read, and are started. -/
theorem Started.foldlM {ids : List Json} {w : Work Json Trail} (h : Started parts ids w)
    {starts : List Json} (hstarts : ∀ s ∈ starts, startId s = some (s.field "id")) :
    ∃ w', starts.foldlM (Flow.startNode parts vars) w = some w' ∧
      Started parts (ids ++ starts.map fun s => s.field "id") w' := by
  induction starts generalizing ids w with
  | nil => exact ⟨w, rfl, by simpa using h⟩
  | cons s starts ih =>
    obtain ⟨hs, hstarts⟩ := List.forall_mem_cons.1 hstarts
    obtain ⟨w₁, hw₁, h₁⟩ := h.startNode vars hs
    obtain ⟨w₂, hw₂, h₂⟩ := ih h₁ hstarts
    refine ⟨w₂, ?_, by simpa using h₂⟩
    rw [List.foldlM_cons, hw₁]
    exact hw₂

theorem Started.init (parts : FlowParts) :
    Started parts [] ⟨[], [], ⟨[], maxTotalDelayS, .usable⟩⟩ where
  nodup := .nil
  mem_done _ := Iff.rfl
  mem_queue _ := by simp
  results := rfl
  session := rfl

end

/-! ## The graph that is walked -/

section
variable {nodes edges starts : List Json} {answers : Json → NodeAnswers} {n m : Json}

/-- The parts of an accepted graph. -/
def partsOf (nodes edges : List Json) : FlowParts :=
  ⟨nodes.map fun n => (n.field "id", n), edges.map outEdge⟩

theorem GoodNodes.lookup_eq (h : GoodNodes nodes) (hn : n ∈ nodes) :
    (partsOf nodes edges).nodes.lookup (n.field "id") = some n := by
  have hmem : (n.field "id", n) ∈ (partsOf nodes edges).nodes := List.mem_map_of_mem hn
  cases hl : (partsOf nodes edges).nodes.lookup (n.field "id") with
  | none =>
    rw [List.lookup_eq_none_iff] at hl
    simpa using hl _ hmem
  | some m =>
    obtain ⟨l₁, l₂, heq, -⟩ := List.lookup_eq_some_iff.1 hl
    have hm : (n.field "id", m) ∈ (partsOf nodes edges).nodes := heq ▸ by simp
    obtain ⟨m', hm', heq⟩ := List.mem_map.1 hm
    obtain ⟨hid, rfl⟩ := Prod.mk.inj heq
    rw [h.eq_of_id hm' hn hid]

theorem GoodNodes.typeAt_eq (h : GoodNodes nodes) (hn : n ∈ nodes) :
    (partsOf nodes edges).typeAt (n.field "id") = n.field "type" := by
  rw [FlowParts.typeAt, h.lookup_eq hn]
  rfl

theorem known_iff {id : Json} (h : GoodNodes nodes) :
    (partsOf nodes edges).known id = true ↔ ∃ n ∈ nodes, n.field "id" = id := by
  constructor
  · intro hk
    obtain ⟨n, hn⟩ := Option.isSome_iff_exists.1 hk
    obtain ⟨l₁, l₂, heq, -⟩ := List.lookup_eq_some_iff.1 hn
    have hm : (id, n) ∈ (partsOf nodes edges).nodes := heq ▸ by simp
    obtain ⟨n', hn', heq⟩ := List.mem_map.1 hm
    obtain ⟨hid, -⟩ := Prod.mk.inj heq
    exact ⟨n', hn', hid⟩
  · rintro ⟨n, hn, rfl⟩
    rw [FlowParts.known, h.lookup_eq hn]
    rfl

/-- The targets of a node on a branch, by the edges of the graph. -/
theorem mem_targets (h : WellFormedParts nodes edges) {id x : Json} {b d : String} :
    x ∈ targets (partsOf nodes edges).out id b d ↔ ∃ e ∈ edges, e.field "source" = id ∧
      e.field "target" = x ∧
        (e.field "sourceHandle" = .str b ∨ e.field "sourceHandle" = .null ∧ b = d) := by
  have hout : ∀ handle : Json, (∃ p ∈ (partsOf nodes edges).out, p.1 = (id, handle) ∧ p.2 = x) ↔
      ∃ e ∈ edges, e.field "source" = id ∧ e.field "target" = x ∧
        e.field "sourceHandle" = handle := by
    intro handle
    simp only [partsOf, List.mem_map, exists_exists_and_eq_and, outEdge, Prod.mk.injEq]
    refine exists_congr fun e => and_congr_right fun he => ?_
    rw [((h.edges e he).handle).1]
    tauto
  have hsplit : x ∈ targets (partsOf nodes edges).out id b d ↔
      (∃ p ∈ (partsOf nodes edges).out, p.1 = (id, .str b) ∧ p.2 = x) ∨
        b = d ∧ ∃ p ∈ (partsOf nodes edges).out, p.1 = (id, .null) ∧ p.2 = x := by
    simp only [targets, List.mem_append, List.mem_map, List.mem_filter, decide_eq_true_eq]
    refine or_congr (by simp only [and_assoc]) ?_
    split_ifs with hbd
    · simp only [hbd, true_and, List.mem_map, List.mem_filter, decide_eq_true_eq, and_assoc]
    · simp [hbd]
  rw [hsplit, hout, hout]
  grind

theorem leads_iff (h : WellFormedParts nodes edges) {b d : String} :
    Leads nodes edges n b d m ↔
      m ∈ nodes ∧ m.field "id" ∈ targets (partsOf nodes edges).out (n.field "id") b d := by
  rw [mem_targets h, Leads]

/-- No edge leads to a trigger. -/
theorem Leads.not_trigger (h : WellFormedParts nodes edges) {b d : String}
    (hl : Leads nodes edges n b d m) : isTrigger m = false := by
  obtain ⟨hm, e, he, -, htgt, -⟩ := hl
  obtain ⟨m', hm', htgt', htrig⟩ := (h.edges e he).target
  rwa [h.good.eq_of_id hm hm' (htgt.symm.trans htgt')]

theorem Reachable.mem (h : Reachable nodes edges starts answers n) : n ∈ nodes := by
  cases h with
  | start _ h => exact h.1
  | next _ h => exact h.1

theorem Reachable.not_trigger (h : WellFormedParts nodes edges)
    (hn : Reachable nodes edges starts answers n) : isTrigger n = false := by
  cases hn with
  | start _ hl => exact hl.not_trigger h
  | next _ hl => exact hl.not_trigger h

/-- The entries that a visit adds. -/
def nextIds (parts : FlowParts) (answers : Json → NodeAnswers) (nid : Json) : List Json :=
  targets parts.out nid (branchTaken (parts.typeAt nid) (answers nid))
    (defaultHandle (parts.typeAt nid))

/-- The entries of the work list that are reachable are the ids of the reachable nodes. -/
theorem reach_iff (answers : Json → NodeAnswers) (h : WellFormedParts nodes edges)
    (hstarts : ∀ s ∈ starts, s ∈ nodes ∧ isTrigger s = true) {w : Work Json Trail}
    (hw : Started (partsOf nodes edges) (starts.map fun s => s.field "id") w) {id : Json} :
    Worklist.Reach (partsOf nodes edges).known (nextIds (partsOf nodes edges) answers) w.done
      w.queue id ↔ ∃ n, Reachable nodes edges starts answers n ∧ n.field "id" = id := by
  have hnew : ∀ n, n ∈ nodes → isTrigger n = false → n.field "id" ∉ w.done := by
    intro n hn htrig hin
    obtain ⟨s, hs, heq⟩ := List.mem_map.1 ((hw.mem_done _).1 hin)
    obtain ⟨hmem, hs'⟩ := hstarts s hs
    rw [h.good.eq_of_id hmem hn heq, htrig] at hs'
    cases hs'
  constructor
  · intro hr
    induction hr with
    | start ha hknown hnew =>
      obtain ⟨m, hm, rfl⟩ := (known_iff h.good).1 hknown
      obtain ⟨_, hid, ht⟩ := (hw.mem_queue _).1 ha
      obtain ⟨s, hs, rfl⟩ := List.mem_map.1 hid
      exact ⟨m, .start hs ((leads_iff h).2 ⟨hm, ht⟩), rfl⟩
    | next _ hb hknown hnew ih =>
      obtain ⟨n, hn, rfl⟩ := ih
      obtain ⟨m, hm, rfl⟩ := (known_iff h.good).1 hknown
      rw [nextIds, h.good.typeAt_eq hn.mem] at hb
      exact ⟨m, .next hn ((leads_iff h).2 ⟨hm, hb⟩), rfl⟩
  · rintro ⟨n, hn, rfl⟩
    have hknown : ∀ m ∈ nodes, (partsOf nodes edges).known (m.field "id") = true :=
      fun m hm => (known_iff h.good).2 ⟨m, hm, rfl⟩
    induction hn with
    | start hs hl =>
      have hl' := (leads_iff h).1 hl
      exact .start ((hw.mem_queue _).2 ⟨_, List.mem_map_of_mem hs, hl'.2⟩) (hknown _ hl'.1)
        (hnew _ hl'.1 (hl.not_trigger h))
    | next hn hl ih =>
      have hl' := (leads_iff h).1 hl
      refine .next ih ?_ (hknown _ hl'.1) (hnew _ hl'.1 (hl.not_trigger h))
      rw [nextIds, h.good.typeAt_eq hn.mem]
      exact hl'.2

/-! ## The whole run -/

variable {graph : Json} {given : Option (List Json)} {env : RunEnv}

/-- The run of an accepted graph: the start nodes and the loop. -/
theorem runFlow_eq (env : RunEnv) (hparts : HasParts graph nodes edges)
    (h : WellFormedParts nodes edges)
    (hgiven : startNodes graph given = some starts)
    (hstarts : ∀ s ∈ starts, s ∈ nodes ∧ isTrigger s = true) :
    ∃ w, Started (partsOf nodes edges) (starts.map fun s => s.field "id") w ∧
      runFlow graph given env =
        if env.opens then
          (Worklist.loop (partsOf nodes edges).known
            (visitNode (partsOf nodes edges) env.answers) maxSteps w).bind fun w =>
            if w.state.session = .usable ∧ env.closes = true then
              some ⟨w.state.results, summarize w.state.results, w.queue⟩
            else none
        else none := by
  obtain ⟨w, hw, hstarted⟩ := (Started.init (partsOf nodes edges)).foldlM env.vars
    fun s hs => h.good.startId_eq (hstarts s hs).1
  refine ⟨w, hstarted, ?_⟩
  have hread : readFlow graph = some (partsOf nodes edges) := readFlow_eq hparts h
  simp only [runFlow, hread, hgiven, Option.bind_eq_bind, Option.bind_some, hw]
  cases env.opens <;> rfl

/-- There are fewer nodes to execute than steps. -/
theorem length_lt_maxSteps (hparts : HasParts graph nodes edges) (h : WellFormedParts nodes edges) :
    ((nodes.filter fun n => !isTrigger n).map fun n => n.field "id").length < maxSteps := by
  obtain ⟨n, hn, htrig⟩ := h.trigger
  have hlt : (nodes.filter fun n => !isTrigger n).length < nodes.length :=
    List.length_filter_lt_length_iff_exists.2 ⟨n, hn, by simp [htrig]⟩
  rw [List.length_map]
  exact Nat.lt_of_lt_of_le hlt hparts.nodes_le

/-- When the loop ends it has executed what is reachable, and the session is usable if every node
executed has left it so. -/
theorem exactRun_of_loop (status : String) (hparts : HasParts graph nodes edges)
    (h : WellFormedParts nodes edges)
    (hstarts : ∀ s ∈ starts, s ∈ nodes ∧ isTrigger s = true) {w w' : Work Json Trail}
    (hw : Started (partsOf nodes edges) (starts.map fun s => s.field "id") w)
    (hloop : Worklist.loop (partsOf nodes edges).known (visitNode (partsOf nodes edges) answers)
      maxSteps w = some w') :
    ExactRun nodes edges starts answers ⟨w'.state.results, status, w'.queue⟩ ∧
      (w'.state.session = .usable ↔ ∀ n, Reachable nodes edges starts answers n →
        (answers (n.field "id")).session = .usable) := by
  have hreach := fun id => @reach_iff nodes edges starts answers h hstarts w hw id
  obtain ⟨hq, visited, -, hnodup, hvisited, hresults, hbranches, hsession⟩ :=
    Worklist.loop_reach (nextIds (partsOf nodes edges) answers)
      (fun v t => t.results.map (·.nodeId) = w.done ++ v ∧
        (∀ a ∈ v, ∃ r ∈ t.results, r.nodeId = a ∧
          r.outcome.branches = [branchTaken ((partsOf nodes edges).typeAt a) (answers a)]) ∧
        (t.session = .usable ↔ ∀ a ∈ v, (answers a).session = .usable))
      ((nodes.filter fun n => !isTrigger n).map fun n => n.field "id")
      (fun a t t' next hv => (visitNode_eq_some hv).choose_spec.2.2.2.2)
      (by
        rintro a v t t' next - ⟨hr, hb, hs⟩ hv
        obtain ⟨r, hr', hid, hbr, hs', -⟩ := visitNode_eq_some hv
        refine ⟨by simp [hr', hr, hid], fun b hb' => ?_, ?_⟩
        · rcases List.mem_append.1 hb' with hb' | hb'
          · obtain ⟨x, hx, hx'⟩ := hb b hb'
            exact ⟨x, by simp [hr', hx], hx'⟩
          · obtain rfl := List.mem_singleton.1 hb'
            exact ⟨r, by simp [hr'], hid, hbr⟩
        · rw [hs', DbSession.after_eq_usable, hs]
          grind)
      (by
        intro id hid
        obtain ⟨n, hn, rfl⟩ := (hreach id).1 hid
        exact List.mem_map_of_mem (List.mem_filter.2 ⟨hn.mem, by rw [hn.not_trigger h]; rfl⟩))
      (length_lt_maxSteps hparts h)
      ⟨by simp [hw.results], nofun, by simp [hw.session]⟩ hloop
  have hin : ∀ n, Reachable nodes edges starts answers n → n.field "id" ∈ visited :=
    fun n hn => (hvisited _).2 ((hreach _).2 ⟨n, hn, rfl⟩)
  have hout : ∀ id ∈ visited, ∃ n, Reachable nodes edges starts answers n ∧ n.field "id" = id :=
    fun id hid => (hreach id).1 ((hvisited id).1 hid)
  have hdone : ∀ id ∈ w.done, ∃ s ∈ starts, s.field "id" = id :=
    fun id hid => List.mem_map.1 ((hw.mem_done id).1 hid)
  refine ⟨⟨?_, ?_, ?_, ?_, hq⟩, hsession.trans ?_⟩
  · rw [hresults, List.nodup_append]
    refine ⟨hw.nodup, hnodup, fun x hx y hy hxy => ?_⟩
    obtain ⟨s, hs, rfl⟩ := hdone x hx
    obtain ⟨n, hn, rfl⟩ := hout y hy
    have htrig := (hstarts s hs).2
    rw [h.good.eq_of_id (hstarts s hs).1 hn.mem hxy, hn.not_trigger h] at htrig
    cases htrig
  · intro id hid
    rw [hresults, List.mem_append] at hid
    rcases hid with hid | hid
    · obtain ⟨s, hs, rfl⟩ := hdone id hid
      exact ⟨s, (hstarts s hs).1, rfl⟩
    · obtain ⟨n, hn, rfl⟩ := hout id hid
      exact ⟨n, hn.mem, rfl⟩
  · intro n hn htrig
    rw [hresults, List.mem_append]
    refine ⟨fun hid => ?_, fun hr => .inr (hin n hr)⟩
    rcases hid with hid | hid
    · obtain ⟨s, hs, heq⟩ := hdone _ hid
      have hs' := (hstarts s hs).2
      rw [h.good.eq_of_id (hstarts s hs).1 hn heq, htrig] at hs'
      cases hs'
    · obtain ⟨m, hm, heq⟩ := hout _ hid
      exact h.good.eq_of_id hm.mem hn heq ▸ hm
  · intro n hn
    obtain ⟨r, hr, hid, hbr⟩ := hbranches _ (hin n hn)
    rw [h.good.typeAt_eq hn.mem] at hbr
    exact ⟨r, hr, hid, hbr⟩
  · constructor
    · exact fun hs n hn => hs _ (hin n hn)
    · intro hs id hid
      obtain ⟨n, hn, rfl⟩ := hout id hid
      exact hs n hn

/-- A run that returns is exact. -/
theorem exactRun_of_runFlow (hparts : HasParts graph nodes edges) (h : WellFormedParts nodes edges)
    (hgiven : startNodes graph given = some starts)
    (hstarts : ∀ s ∈ starts, s ∈ nodes ∧ isTrigger s = true) {run : FlowRun}
    (hrun : runFlow graph given env = some run) :
    ExactRun nodes edges starts env.answers run ∧ env.opens = true ∧ env.closes = true ∧
      ∀ n, Reachable nodes edges starts env.answers n →
        (env.answers (n.field "id")).session = .usable := by
  obtain ⟨w, hw, heq⟩ := runFlow_eq env hparts h hgiven hstarts
  rw [heq] at hrun
  split at hrun
  · next hopens =>
    obtain ⟨w', hloop, hrun⟩ := Option.bind_eq_some_iff.1 hrun
    split at hrun
    · next hclose =>
      cases hrun
      obtain ⟨hexact, hsession⟩ := exactRun_of_loop _ hparts h hstarts hw hloop
      exact ⟨hexact, hopens, hclose.2, hsession.1 hclose.1⟩
    · cases hrun
  · cases hrun

/-- A run returns when its writes go through and the nodes it reaches leave the session usable. -/
theorem runFlow_isSome (hparts : HasParts graph nodes edges) (h : WellFormedParts nodes edges)
    (hgiven : startNodes graph given = some starts)
    (hstarts : ∀ s ∈ starts, s ∈ nodes ∧ isTrigger s = true) (hopens : env.opens = true)
    (hcloses : env.closes = true) (hsession : ∀ n, Reachable nodes edges starts env.answers n →
      (env.answers (n.field "id")).session = .usable) :
    ∃ run, runFlow graph given env = some run := by
  obtain ⟨w, hw, heq⟩ := runFlow_eq env hparts h hgiven hstarts
  obtain ⟨w', hloop⟩ : ∃ w', Worklist.loop (partsOf nodes edges).known
      (visitNode (partsOf nodes edges) env.answers) maxSteps w = some w' :=
    Worklist.loop_isSome (nextIds (partsOf nodes edges) env.answers) (fun t => t.session = .usable)
      (fun a t t' next hv => (visitNode_eq_some hv).choose_spec.2.2.2.2)
      (by
        intro id t hid ht
        obtain ⟨n, hn, rfl⟩ := (reach_iff env.answers h hstarts hw).1 hid
        exact visitNode_isSome ht (hsession n hn))
      (.init w.state) hw.session
  have husable := (exactRun_of_loop "" hparts h hstarts hw hloop).2.2 hsession
  rw [heq, if_pos hopens, hloop, Option.bind_some, if_pos ⟨husable, hcloses⟩]
  exact ⟨_, rfl⟩

/-- For an accepted graph and start nodes that are triggers of it, the run returns and is exact,
exactly when its opening and closing writes go through and every node that is reachable leaves the
database session usable. -/
theorem run_flow_iff (graph : Json) (hvalid : validateGraph graph = .ok ())
    (nodes edges : List Json) (hnodes : graph.field "nodes" = .arr nodes)
    (hedges : graph.field "edges" = .arr edges)
    (given : Option (List Json)) (starts : List Json)
    (hgiven : startNodes graph given = some starts)
    (hstarts : ∀ s ∈ starts, s ∈ nodes ∧ isTrigger s = true) (env : RunEnv) :
    (∃ run, runFlow graph given env = some run ∧ ExactRun nodes edges starts env.answers run) ↔
      env.opens = true ∧ env.closes = true ∧
        ∀ n, Reachable nodes edges starts env.answers n →
          (env.answers (n.field "id")).session = .usable := by
  obtain ⟨nodes', edges', hparts, h⟩ := validateGraph_ok_iff.1 hvalid
  cases hnodes.symm.trans hparts.nodes_eq
  cases hedges.symm.trans hparts.edges_eq
  constructor
  · rintro ⟨run, hrun, -⟩
    exact (exactRun_of_runFlow hparts h hgiven hstarts hrun).2
  · rintro ⟨hopens, hcloses, hsession⟩
    obtain ⟨run, hrun⟩ := runFlow_isSome hparts h hgiven hstarts hopens hcloses hsession
    exact ⟨run, hrun, (exactRun_of_runFlow hparts h hgiven hstarts hrun).1⟩

end

namespace RunFixture

/-- A trigger that leads to two nodes, which lead to each other. -/
def cycle : Json :=
  .obj [
    ("edges", .arr [
      .obj [("source", .str "t"), ("target", .str "c")],
      .obj [("source", .str "c"), ("sourceHandle", .str "err"), ("target", .str "p")],
      .obj [("source", .str "p"), ("target", .str "c")]]),
    ("nodes", .arr [
      .obj [("id", .str "t"), ("type", .str "trigger")],
      .obj [("id", .str "c"), ("type", .str "camera_enable")],
      .obj [("id", .str "p"), ("type", .str "push")]])]

def answers (session : DbSession) (nid : Json) : NodeAnswers where
  params := .ok []
  hit := .ok true
  seconds := 0
  action :=
    if nid = .str "c" then .error "Deadlock found when trying to get lock"
    else .ok (.obj [("status", .str "success")])
  session := if nid = .str "c" then session else .usable

def env (session : DbSession) : RunEnv := ⟨true, true, .null, answers session⟩

end RunFixture

open RunFixture in
/-- A node that fails and leaves the session usable is followed by the node on its branch. -/
theorem run_flow_cycle : ∃ run, runFlow cycle none (env .usable) = some run ∧
    ∃ nodes edges starts, ExactRun nodes edges starts (answers .usable) run :=
  have ⟨run, hrun, hexact⟩ := (run_flow_iff cycle (by decide) _ _ rfl rfl none _ rfl (by
    intro s hs
    rw [List.mem_singleton.1 hs]
    exact ⟨.head _, rfl⟩) (env .usable)).2 ⟨rfl, rfl, fun n _ => ite_self _⟩
  ⟨run, hrun, _, _, _, hexact⟩

open RunFixture in
/-- A node whose write is rolled back as a deadlock makes the run raise. -/
theorem run_flow_raises :
    validateGraph cycle = .ok () ∧ (runFlow cycle none (env .expired)).isNone = true := by
  decide

end AeroXProtect.Flow
