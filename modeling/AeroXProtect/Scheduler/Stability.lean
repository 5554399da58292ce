import AeroXProtect.Scheduler.Placement

/-!
# Stability of a rebalance

A rebalance of the rows that a rebalance left behind does nothing: the first pass of the planner
finds room for every camera that has a row (`keep_node`, since no node holds more rows than it
takes), the second pass finds no room for the others (`makePlan_full`), so the plan is the one the
rows were written from (`makePlan_again`) and no camera is written again. `mem_changed` says which
cameras a rebalance counts as changed: those whose row differs afterwards. The etag follows from it,
since the counter is bumped once when the list of changed cameras is not empty.
-/

open Lib

namespace AeroXProtect

/-! ## The first pass -/

section
variable {nodes : List Slot} {existing : Nat → Option Assignment}

/-- The camera's row points to the node. -/
def sitsOn (existing : Nat → Option Assignment) (n c : Nat) : Bool :=
  (existing c).map Assignment.nodeId == some n

/-- The first pass plans the camera it looks at, if any, on the node of its row. -/
theorem keepStep_cases (nodes : List Slot) (existing : Nat → Option Assignment) (p : Plan)
    (cam : Nat) :
    keepStep nodes existing p cam = p ∨
      ∃ n, sitsOn existing n cam = true ∧ keepStep nodes existing p cam = p.put cam n := by
  unfold keepStep
  split
  · exact .inl rfl
  · next a ha =>
    split
    · exact .inl rfl
    · split
      · exact .inr ⟨a.nodeId, by simp [sitsOn, ha], rfl⟩
      · exact .inl rfl

/-- The first pass leaves a camera alone that is not in its list, or that has no row. -/
theorem keep_node_of_unseen (l : List Nat) (p : Plan) {c : Nat} (h : c ∉ l ∨ existing c = none) :
    (l.foldl (keepStep nodes existing) p).node c = p.node c := by
  induction l generalizing p with
  | nil => rfl
  | cons cam l ih =>
    rw [List.foldl_cons, ih _ (h.imp_left fun hc hm => hc (.tail _ hm))]
    rcases keepStep_cases nodes existing p cam with he | ⟨n, hon, he⟩
    · rw [he]
    · have hne : c ≠ cam := by
        rintro rfl
        rcases h with h | h
        · exact h (.head _)
        · simp [sitsOn, h] at hon
      rw [he]
      simp [Plan.put, hne]

/-- A camera keeps its node in the first pass when the node takes all the cameras that sit on it. -/
theorem keep_node {n k : Nat} (hcap : capOf nodes n = some k) (l : List Nat) (hl : l.Nodup)
    (p : Plan) (hroom : p.load n + l.countP (sitsOn existing n) ≤ k) {c : Nat} (hc : c ∈ l)
    (hon : sitsOn existing n c = true) :
    (l.foldl (keepStep nodes existing) p).node c = some n := by
  induction l generalizing p with
  | nil => cases hc
  | cons cam l ih =>
    rw [List.nodup_cons] at hl
    rw [List.foldl_cons]
    rw [List.countP_cons] at hroom
    rcases List.mem_cons.1 hc with rfl | hc
    · -- the camera itself: the node still has room, and nothing plans the camera again
      rw [keep_node_of_unseen l _ (.inl hl.1)]
      rw [if_pos hon] at hroom
      have hlt : p.load n < k := by omega
      obtain ⟨a, ha, han⟩ := Option.map_eq_some_iff.1 (eq_of_beq hon)
      subst han
      simp [keepStep, ha, hcap, hlt, Plan.put]
    · refine ih hl.2 _ ?_ hc
      rcases keepStep_cases nodes existing p cam with he | ⟨m, hm, he⟩
      · rw [he]; omega
      · rw [he]
        simp only [Plan.put]
        split
        · next hnm => subst hnm; rw [if_pos hm] at hroom; omega
        · omega

end

/-! ## The second pass -/

section
variable {nodes : List Slot}

/-- Nothing is picked when every node is full. -/
theorem pick_of_full {load : Nat → Nat} (h : ∀ s ∈ nodes, s.cap ≤ load s.id) :
    pick nodes load = none := by
  cases hp : pick nodes load with
  | none => rfl
  | some nid =>
    obtain ⟨s, hs, rfl, hlt⟩ := pick_some hp
    exact absurd hlt (not_lt.2 (h s hs))

/-- The second pass plans nothing when every node is full, or every camera is planned. -/
theorem place_fixed (nodes : List Slot) (l : List Nat) (p : Plan)
    (h : ∀ c ∈ l, p.node c = none → ∀ s ∈ nodes, s.cap ≤ p.load s.id) :
    (l.foldl (placeStep nodes) p).node = p.node ∧ (l.foldl (placeStep nodes) p).load = p.load := by
  induction l generalizing p with
  | nil => exact ⟨rfl, rfl⟩
  | cons cam l ih =>
    have hstep : (placeStep nodes p cam).node = p.node ∧ (placeStep nodes p cam).load = p.load := by
      unfold placeStep
      split
      · exact ⟨rfl, rfl⟩
      · next hnone =>
        rw [pick_of_full (h cam (.head _) (by simpa using hnone))]
        exact ⟨rfl, rfl⟩
    rw [List.foldl_cons]
    have hrest := ih (placeStep nodes p cam) fun c hc => by
      rw [hstep.1, hstep.2]; exact h c (.tail _ hc)
    rw [hstep.1, hstep.2] at hrest
    exact hrest

end

/-! ## The plan of the rows a plan was written to -/

section
variable {nodes : List Slot} {cams : List Nat} {existing existing' : Nat → Option Assignment}

/-- The planner knows the capacity of every node of its list. -/
theorem capOf_of_mem (hids : (nodes.map Slot.id).Nodup) {s : Slot} (hs : s ∈ nodes) :
    capOf nodes s.id = some s.cap := by
  unfold capOf
  cases hf : nodes.find? fun n => decide (n.id = s.id) with
  | none => simpa using List.find?_eq_none.1 hf s hs
  | some m =>
    have hm : m.id = s.id := by simpa using List.find?_some hf
    rw [List.inj_on_of_nodup_map hids (List.mem_of_find?_eq_some hf) hs hm]
    rfl

/-- A camera is left without a node only when every node is full. -/
theorem makePlan_full (hnd : cams.Nodup) {c : Nat} (hc : c ∈ cams)
    (h : (makePlan nodes existing cams).node c = none) :
    ∀ s ∈ nodes, s.cap ≤ (makePlan nodes existing cams).load s.id := by
  refine place_full nodes cams _ ?_
  rw [place_pending nodes cams hnd]
  have hpos : 0 < cams.countP fun c => ((makePlan nodes existing cams).node c).isNone :=
    List.countP_pos_iff.2 ⟨c, hc, by rw [h]; rfl⟩
  exact Nat.lt_add_of_pos_right hpos

/-- Planning the rows that a plan was written to gives that plan. -/
theorem makePlan_again (hnd : cams.Nodup) (hids : (nodes.map Slot.id).Nodup)
    (h : ∀ c, (existing' c).map Assignment.nodeId = (makePlan nodes existing cams).node c) :
    (makePlan nodes existing' cams).node = (makePlan nodes existing cams).node ∧
      (makePlan nodes existing' cams).load = (makePlan nodes existing cams).load := by
  have hok := makePlan_ok hnd hids existing
  have hkeep := keep_ok hnd hids existing' cams hnd (List.Subset.refl _) .empty fun _ _ => rfl
  have hnode : ∀ c, (cams.foldl (keepStep nodes existing') Plan.empty).node c =
      (makePlan nodes existing cams).node c := by
    intro c
    cases hp : (makePlan nodes existing cams).node c with
    | none => exact keep_node_of_unseen cams _ (.inr (by simpa [hp] using h c))
    | some n =>
      -- the node takes the cameras that were planned on it, which are those that now sit on it
      obtain ⟨hc, s, hs, rfl⟩ := hok.dom c n hp
      have hsits : cams.countP (sitsOn existing' s.id) =
          (makePlan nodes existing cams).load s.id := by
        rw [hok.load]
        refine List.countP_congr fun c' _ => ?_
        simp [sitsOn, h c']
      refine keep_node (capOf_of_mem hids hs) cams hnd _ ?_ hc (by simp [sitsOn, h c, hp])
      rw [hsits]
      simpa [Plan.empty] using hok.room s hs
  have hload : (cams.foldl (keepStep nodes existing') Plan.empty).load =
      (makePlan nodes existing cams).load := by
    funext n
    rw [hkeep.load, hok.load]
    exact List.countP_congr fun c _ => by rw [hnode c]
  have hfix := place_fixed nodes cams (cams.foldl (keepStep nodes existing') Plan.empty)
    fun c hc hnone => by
      rw [hnode] at hnone
      rw [hload]
      exact makePlan_full hnd hc hnone
  exact ⟨hfix.1.trans (funext hnode), hfix.2.trans hload⟩

end

/-! ## The changed cameras -/

section
variable {unchanged : Assignment → Bool} {nodes : List Slot} {cams : List Nat} {rows : Assignments}

/-- The cameras the write-back pass adds to the changed ones. -/
theorem writeBack_changed (existing : Nat → Option Assignment) (plan : Nat → Option Nat)
    (l : List Nat) (st : Assignments × List Nat) :
    (writeBack unchanged existing plan l st).2 =
      st.2 ++ l.filter fun c => isRewritten unchanged (existing c) (plan c) := by
  induction l generalizing st with
  | nil => simp [writeBack]
  | cons cam l ih =>
    rw [writeBack, List.foldl_cons]
    refine (ih _).trans ?_
    rw [writeStep_changed, List.filter_cons, List.append_assoc]
    split <;> rfl

/-- The cameras the drop pass adds to the changed ones. -/
theorem dropStale_changed (stale : List Nat) (st : Assignments × List Nat) :
    (dropStale cams stale st).2 = st.2 ++ stale.filter fun c => decide (c ∉ cams) := by
  induction stale generalizing st with
  | nil => simp [dropStale]
  | cons cam l ih =>
    rw [dropStale, List.foldl_cons]
    refine (ih _).trans ?_
    by_cases hcam : cam ∈ cams <;> simp [hcam]

/-- A camera is written again exactly when its row differs afterwards. A row that is issued again on
its node must come out different, which is what `hissue` asks of the rows to re-issue. -/
theorem isRewritten_iff (hissue : ∀ a, unchanged a = false → a.state ≠ .pending) (c : Nat)
    (old : Option Assignment) (planned : Option Nat) :
    isRewritten unchanged old planned = true ↔ nextRow unchanged c old planned ≠ old := by
  unfold isRewritten nextRow
  cases planned with
  | none => cases old <;> simp
  | some n =>
    cases old with
    | none => simp
    | some a =>
      dsimp only
      by_cases hn : a.nodeId = n
      · cases hu : unchanged a with
        | true => simp [hn]
        | false =>
          have hst := hissue a hu
          simp only [Bool.and_false, Bool.not_false, Bool.false_eq_true, if_false, true_iff, ne_eq,
            Option.some.injEq]
          intro he
          exact hst (by rw [← he]; simp [Assignments.reissue, hn])
      · simp only [hn, decide_false, Bool.false_and, Bool.not_false, Bool.false_eq_true, if_false,
          true_iff, ne_eq, Option.some.injEq]
        intro he
        exact hn (by rw [← he, Assignments.nodeId_reissue])

/-- The changed cameras of a rebalance are those whose row differs afterwards. -/
theorem mem_changed (hissue : ∀ a, unchanged a = false → a.state ≠ .pending) (hnd : cams.Nodup)
    (c : Nat) :
    c ∈ (rewrite unchanged nodes cams rows).2 ↔
      (rewrite unchanged nodes cams rows).1.get? c ≠ rows.get? c := by
  rw [rewrite_get? hnd]
  unfold rewrite
  rw [dropStale_changed, writeBack_changed, List.nil_append, List.mem_append, List.mem_filter,
    List.mem_filter, isRewritten_iff hissue c, decide_eq_true_eq]
  by_cases hc : c ∈ cams
  · simp [hc]
  · rw [if_neg hc]
    have hrow : c ∈ rows.allRows.map Assignment.cameraId ↔ none ≠ rows.get? c := by
      rw [ne_comm, ne_eq, Table.get?_eq_none]
      simp [Assignments.allRows]
    simp only [hc, false_and, false_or, not_false_eq_true, and_true, hrow]

/-- The write-back pass does nothing when no camera of its list is written again. -/
theorem writeBack_of_unchanged {existing : Nat → Option Assignment} {plan : Nat → Option Nat}
    (l : List Nat) (st : Assignments × List Nat)
    (h : ∀ c ∈ l, isRewritten unchanged (existing c) (plan c) = false) :
    writeBack unchanged existing plan l st = st := by
  induction l with
  | nil => rfl
  | cons cam l ih =>
    rw [writeBack, List.foldl_cons, writeStep_of_unchanged (h cam (.head _))]
    exact ih fun c hc => h c (.tail _ hc)

/-- The drop pass does nothing when every camera of its list needs work. -/
theorem dropStale_of_subset (l : List Nat) (st : Assignments × List Nat) (h : ∀ c ∈ l, c ∈ cams) :
    dropStale cams l st = st := by
  induction l with
  | nil => rfl
  | cons cam l ih =>
    rw [dropStale, List.foldl_cons, if_pos (h cam (.head _))]
    exact ih fun c hc => h c (.tail _ hc)

/-- A rebalance that counts no camera as changed leaves the rows as they are. -/
theorem rewrite_of_changed_nil (h : (rewrite unchanged nodes cams rows).2 = []) :
    (rewrite unchanged nodes cams rows).1 = rows := by
  simp only [rewrite] at h ⊢
  rw [dropStale_changed, writeBack_changed, List.nil_append, List.append_eq_nil_iff,
    List.filter_eq_nil_iff, List.filter_eq_nil_iff] at h
  rw [writeBack_of_unchanged cams _ fun c hc => by simpa using h.1 c hc,
    dropStale_of_subset _ _ fun c hc => by simpa using h.2 c hc]

/-- A rebalance of the rows that a rebalance left behind, none of which has to be issued again,
changes no row and counts no camera as changed. -/
theorem rewrite_again (hnd : cams.Nodup) (hids : (nodes.map Slot.id).Nodup)
    (hkeep : ∀ a ∈ (rewrite unchanged nodes cams rows).1, unchanged a = true) :
    rewrite unchanged nodes cams (rewrite unchanged nodes cams rows).1 =
      ((rewrite unchanged nodes cams rows).1, []) := by
  have hok := makePlan_ok hnd hids rows.get?
  have hplan : ∀ c, ((rewrite unchanged nodes cams rows).1.get? c).map Assignment.nodeId =
      (makePlan nodes rows.get? cams).node c := by
    intro c
    rw [← Assignments.nodeOf, rewrite_nodeOf hnd]
    split
    · rfl
    · next hc =>
      cases hp : (makePlan nodes rows.get? cams).node c with
      | none => rfl
      | some n => exact absurd (hok.dom c n hp).1 hc
  generalize (rewrite unchanged nodes cams rows).1 = rows' at hkeep hplan ⊢
  have hnode := (makePlan_again hnd hids hplan).1
  -- no camera is written again, and the rows are all of cameras that need work
  have hsame : ∀ c, isRewritten unchanged (rows'.get? c) ((makePlan nodes rows'.get? cams).node c) =
      false := by
    intro c
    rw [hnode, ← hplan c]
    unfold isRewritten
    cases hg : rows'.get? c with
    | none => rfl
    | some a => simp [hkeep a (Table.get?_eq_some.1 hg).1]
  simp only [rewrite]
  rw [writeBack_of_unchanged cams _ fun c _ => hsame c]
  refine dropStale_of_subset _ _ fun c hc => ?_
  obtain ⟨a, ha, rfl⟩ := List.mem_map.1 hc
  have ha' : a ∈ rows' := by simpa [Assignments.allRows] using ha
  have hnodeOf := hplan a.cameraId
  rw [Table.get?_eq_some.2 ⟨ha', rfl⟩, Option.map_some] at hnodeOf
  exact (hok.dom _ _ hnodeOf.symm).1

end

/-! ## The etag -/

/-- While Redis answers, the etag is the counter, which starts at `0`. -/
theorem EtagStore.currentEtag_of_up {e : EtagStore} (h : e.redisUp = true) :
    e.currentEtag = toString (e.etag.getD 0) := by
  unfold currentEtag
  rw [if_pos h]
  cases e.etag <;> rfl

/-- A bump changes the etag exactly when Redis answers. -/
theorem EtagStore.currentEtag_bumpEtag (e : EtagStore) :
    e.bumpEtag.currentEtag ≠ e.currentEtag ↔ e.redisUp = true := by
  cases hup : e.redisUp with
  | false => simp [bumpEtag, hup]
  | true =>
    have hb : e.bumpEtag.redisUp = true := by simp [bumpEtag, hup]
    rw [currentEtag_of_up hup, currentEtag_of_up hb, ne_eq, toString_nat_inj]
    simp [bumpEtag, hup]

/-- What the two schedulers do with the counter: one bump when some camera changed. -/
theorem EtagStore.currentEtag_bump_if (e : EtagStore) (changed : List Nat) :
    (if changed.isEmpty then e else e.bumpEtag).currentEtag ≠ e.currentEtag ↔
      e.redisUp = true ∧ ∃ c, c ∈ changed := by
  cases changed with
  | nil => simp
  | cons c cs =>
    simp only [List.isEmpty_cons, Bool.false_eq_true, if_false, currentEtag_bumpEtag]
    exact ⟨fun h => ⟨h, c, .head _⟩, fun h => h.1⟩

/-! ## Cameras that keep their row -/

section
variable {unchanged : Assignment → Bool} {nodes : List Slot} {cams : List Nat} {rows : Assignments}

/-- The second pass leaves planned cameras alone. -/
theorem place_node_of_some (l : List Nat) (p : Plan) {c n : Nat} (h : p.node c = some n) :
    (l.foldl (placeStep nodes) p).node c = some n := by
  induction l generalizing p with
  | nil => exact h
  | cons cam l ih =>
    rw [List.foldl_cons]
    refine ih _ ?_
    unfold placeStep
    split
    · exact h
    · next hnone =>
      have hne : c ≠ cam := by rintro rfl; simp [h] at hnone
      split
      · exact h
      · simp [Plan.put, hne, h]

/-- A camera on a schedulable node keeps its row while the node takes all the cameras that sit on
it; a row that has to be issued again becomes pending on its node. -/
theorem rewrite_kept (hnd : cams.Nodup) (hids : (nodes.map Slot.id).Nodup) {n : Slot}
    (hn : n ∈ nodes) (hfit : cams.countP (sitsOn rows.get? n.id) ≤ n.cap) {c : Nat} (hc : c ∈ cams)
    {a : Assignment} (ha : rows.get? c = some a) (hon : a.nodeId = n.id) :
    (rewrite unchanged nodes cams rows).1.get? c =
      some (if unchanged a then a else { a with state := .pending }) := by
  have hplan : (makePlan nodes rows.get? cams).node c = some n.id := by
    refine place_node_of_some cams _ (keep_node (capOf_of_mem hids hn) cams hnd _ ?_ hc ?_)
    · simpa [Plan.empty] using hfit
    · simp [sitsOn, ha, hon]
  rw [rewrite_get? hnd, if_pos hc, hplan, ha]
  cases hu : unchanged a <;> simp [nextRow, Assignments.reissue, hon, hu]

/-- Every row after a rebalance was there before and did not have to be issued again, or is
pending. -/
theorem rewrite_state (hnd : cams.Nodup) {b : Assignment}
    (hb : b ∈ (rewrite unchanged nodes cams rows).1) :
    (b ∈ rows ∧ unchanged b = true) ∨ b.state = .pending := by
  have hg := Table.get?_eq_some.2 ⟨hb, rfl⟩
  rw [rewrite_get? hnd] at hg
  split at hg
  · unfold nextRow at hg
    split at hg
    · cases hg
    · exact .inr (congrArg Assignment.state (Option.some.inj hg)).symm
    · next n a _ hold =>
      split at hg
      · next hkeep =>
        rw [Option.some.injEq] at hg
        rw [Bool.and_eq_true, hg] at hkeep
        exact .inl ⟨hg ▸ (Table.get?_eq_some.1 hold).1, hkeep.2⟩
      · right
        rw [← Option.some.inj hg]
        unfold Assignments.reissue
        split <;> rfl
  · cases hg

/-- A row that differs from the camera's row before, on the same node, was issued again. -/
theorem rewrite_reissued (hnd : cams.Nodup) {c : Nat} {a b : Assignment}
    (ha : rows.get? c = some a) (hb : (rewrite unchanged nodes cams rows).1.get? c = some b)
    (hnode : b.nodeId = a.nodeId) (hne : b ≠ a) :
    unchanged a = false ∧ b = { a with state := .pending } := by
  rw [rewrite_get? hnd, ha] at hb
  split at hb
  · unfold nextRow at hb
    split at hb
    · cases hb
    · next hold => cases hold
    · next n a' _ hold =>
      cases hold
      split at hb
      · cases hb; exact absurd rfl hne
      · next hkeep =>
        cases hb
        rw [Assignments.nodeId_reissue] at hnode
        subst hnode
        simp only [decide_true, Bool.true_and, Bool.not_eq_true] at hkeep
        exact ⟨hkeep, by simp [Assignments.reissue]⟩
  · cases hb

end

/-! ## The node counts -/

/-- Writing the counts leaves the schedulable nodes and their order alone. -/
theorem AiSched.schedulable_updateCounts (t : Table AiNode.id) (pool : List AiNode)
    (load : Nat → Nat) :
    (AiNode.schedulable (updateCounts t pool load)).map AiNode.slot =
      (AiNode.schedulable t).map AiNode.slot := by
  simp only [AiNode.schedulable, updateCounts, Table.modify]
  rw [filter_map_of_eq fun n => by split <;> rfl, orderBy_map fun n => by split <;> rfl,
    orderBy_map fun n => by split <;> rfl, map_map_of_eq fun n => by split <;> rfl]

theorem EncodeSched.schedulable_updateCounts (t : Table EncodingNode.id) (pool : List EncodingNode)
    (load : Nat → Nat) :
    (EncodingNode.schedulable (updateCounts t pool load)).map EncodingNode.slot =
      (EncodingNode.schedulable t).map EncodingNode.slot := by
  simp only [EncodingNode.schedulable, updateCounts, Table.modify]
  rw [filter_map_of_eq fun n => by split <;> rfl, orderBy_map fun n => by split <;> rfl,
    map_map_of_eq fun n => by split <;> rfl]

/-- The ids of a pool, read off its slots. -/
theorem ids_of_slots {α : Type} {l l' : List α} {slot : α → Slot} (h : l.map slot = l'.map slot) :
    l.map (fun n => (slot n).id) = l'.map fun n => (slot n).id := by
  have hids := congrArg (List.map Slot.id) h
  rwa [List.map_map, List.map_map] at hids

/-! ## The second rebalance -/

section
variable {unchanged : Assignment → Bool} {nodes : List Slot} {cams : List Nat} {rows : Assignments}

/-- The plan of a second rebalance has the counters of the first. -/
theorem load_again (hnd : cams.Nodup) (hids : (nodes.map Slot.id).Nodup) :
    (makePlan nodes (rewrite unchanged nodes cams rows).1.get? cams).load =
      (makePlan nodes rows.get? cams).load := by
  refine (makePlan_again hnd hids fun c => ?_).2
  rw [← Assignments.nodeOf, rewrite_nodeOf hnd]
  split
  · rfl
  · next hc =>
    cases hp : (makePlan nodes rows.get? cams).node c with
    | none => rfl
    | some n => exact absurd ((makePlan_ok hnd hids rows.get?).dom c n hp).1 hc

end

/-- A rebalance that finds nothing to write leaves everything as it is. -/
theorem AiSched.rebalance_of_settled {s : AiSched}
    (hrows : rewrite (fun _ => true) ((AiNode.schedulable s.nodes).map AiNode.slot)
      s.enabledCameraIds s.rows = (s.rows, []))
    (hcounts : updateCounts s.nodes (AiNode.schedulable s.nodes)
      (makePlan ((AiNode.schedulable s.nodes).map AiNode.slot) s.rows.get?
        s.enabledCameraIds).load = s.nodes) :
    s.rebalance.1 = s ∧ s.rebalance.2.changed = 0 := by
  simp [rebalance, hrows, hcounts, summarize]

theorem AiSched.rebalance_again (s : AiSched) :
    s.rebalance.1.rebalance.1 = s.rebalance.1 ∧ s.rebalance.1.rebalance.2.changed = 0 := by
  have hnd : s.enabledCameraIds.Nodup := s.cameras.nodup_getAllEnabled_filter _
  have hids := AiNode.nodup_schedulable s.nodes
  have hslots : (AiNode.schedulable s.rebalance.1.nodes).map AiNode.slot =
      (AiNode.schedulable s.nodes).map AiNode.slot := schedulable_updateCounts _ _ _
  have hcams : s.rebalance.1.enabledCameraIds = s.enabledCameraIds := rfl
  have hrows : s.rebalance.1.rows = (rewrite (fun _ => true)
      ((AiNode.schedulable s.nodes).map AiNode.slot) s.enabledCameraIds s.rows).1 := rfl
  apply rebalance_of_settled <;> rw [hslots, hcams, hrows]
  · exact rewrite_again hnd hids fun _ _ => rfl
  · rw [load_again hnd hids]
    have hids := ids_of_slots hslots
    refine Table.modify_again (fun n hn => ?_) fun n => by simp
    rw [decide_eq_true_eq] at hn ⊢
    exact ⟨hids ▸ hn.1, hn.2⟩

theorem EncodeSched.rebalance_of_settled {s : EncodeSched} (hflag : s.flagOn = true)
    (hrows : rewrite (fun a => decide (a.state ≠ .reassigning))
      ((EncodingNode.schedulable s.nodes).map EncodingNode.slot) s.camerasNeedingEncode s.rows =
        (s.rows, []))
    (hcounts : updateCounts s.nodes (EncodingNode.schedulable s.nodes)
      (makePlan ((EncodingNode.schedulable s.nodes).map EncodingNode.slot) s.rows.get?
        s.camerasNeedingEncode).load = s.nodes) :
    s.rebalance.1 = s ∧ s.rebalance.2.changed = 0 := by
  simp only [rebalance, if_pos hflag, hrows, hcounts, summarize, List.isEmpty_nil, if_true,
    List.append_nil, List.length_nil, and_true]

/-- Rows that need not be issued again do not wait for a new node. -/
theorem reissue_state {a : Assignment} (h : decide (a.state ≠ .reassigning) = false) :
    a.state = .reassigning := by
  simpa using h

/-- No row of the encoder scheduler waits for a new node after a rebalance. -/
theorem rewrite_not_reassigning {nodes : List Slot} {cams : List Nat} {rows : Assignments}
    (hnd : cams.Nodup) {b : Assignment}
    (hb : b ∈ (rewrite (fun a => decide (a.state ≠ .reassigning)) nodes cams rows).1) :
    b.state ≠ .reassigning := by
  rcases rewrite_state hnd hb with ⟨-, h⟩ | h
  · exact of_decide_eq_true h
  · rw [h]; exact AssignState.noConfusion

namespace EncodeSched

/-- The rows left when the rows of the listed cameras are removed. -/
theorem get?_foldl_remove (l : List Nat) (t : Assignments) (c : Nat) :
    (l.foldl Assignments.removeForCamera t).get? c = if c ∈ l then none else t.get? c := by
  induction l generalizing t with
  | nil => simp
  | cons cam l ih =>
    rw [List.foldl_cons, ih, Assignments.removeForCamera, Table.get?_delete]
    by_cases hc : c ∈ l
    · simp [hc]
    · by_cases he : c = cam <;> simp [hc, he]

/-- With the flag off a rebalance leaves no row. -/
theorem get?_rebalanceOff (s : EncodeSched) (c : Nat) : s.rebalanceOff.1.rows.get? c = none := by
  show (List.foldl _ _ _ : Assignments).get? c = none
  rw [get?_foldl_remove]
  split
  · rfl
  · next h =>
    rw [Table.get?_eq_none]
    rintro a ha rfl
    exact h (List.mem_map.2 ⟨a, by simpa [Assignments.allRows] using ha, rfl⟩)

theorem rebalanceOff_again (s : EncodeSched) :
    s.rebalanceOff.1.rebalanceOff.1 = s.rebalanceOff.1 ∧
      s.rebalanceOff.1.rebalanceOff.2.changed = 0 := by
  have hnone : s.rebalanceOff.1.rows.allRows.map Assignment.cameraId = [] := by
    refine List.eq_nil_iff_forall_not_mem.2 fun c hc => ?_
    obtain ⟨a, ha, -⟩ := List.mem_map.1 hc
    have ha' : a ∈ s.rebalanceOff.1.rows := by simpa [Assignments.allRows] using ha
    have hsome := Table.get?_eq_some.2 ⟨ha', rfl⟩
    rw [get?_rebalanceOff] at hsome
    cases hsome
  generalize s.rebalanceOff.1 = t at hnone
  simp only [rebalanceOff, hnone, List.foldl_nil, List.isEmpty_nil, if_true, List.append_nil,
    List.length_nil, and_true]

theorem rebalance_again (s : EncodeSched) :
    s.rebalance.1.rebalance.1 = s.rebalance.1 ∧ s.rebalance.1.rebalance.2.changed = 0 := by
  cases hflag : s.flagOn with
  | false =>
    have hoff : s.rebalance = s.rebalanceOff := by simp [rebalance, hflag]
    have hoff' : s.rebalanceOff.1.rebalance = s.rebalanceOff.1.rebalanceOff := by
      rw [rebalance, if_neg]
      show ¬ s.flagOn = true
      simp [hflag]
    rw [hoff, hoff']
    exact s.rebalanceOff_again
  | true =>
    have hnd : s.camerasNeedingEncode.Nodup := s.cameras.nodup_getAllEnabled_filter _
    have hids := EncodingNode.nodup_schedulable s.nodes
    have hon : s.rebalance.1 =
        { s with
          rows := (rewrite (fun a => decide (a.state ≠ .reassigning))
            ((EncodingNode.schedulable s.nodes).map EncodingNode.slot) s.camerasNeedingEncode
            s.rows).1
          store := s.rebalance.1.store
          nodes := updateCounts s.nodes (EncodingNode.schedulable s.nodes)
            (makePlan ((EncodingNode.schedulable s.nodes).map EncodingNode.slot) s.rows.get?
              s.camerasNeedingEncode).load
          resynced := s.rebalance.1.resynced } := by
      simp only [rebalance, if_pos hflag]
    generalize s.rebalance.1.store = store, s.rebalance.1.resynced = resynced at hon
    rw [hon]
    have hslots := schedulable_updateCounts s.nodes (EncodingNode.schedulable s.nodes)
      (makePlan ((EncodingNode.schedulable s.nodes).map EncodingNode.slot) s.rows.get?
        s.camerasNeedingEncode).load
    refine rebalance_of_settled hflag ?_ ?_
    · dsimp only
      rw [hslots]
      exact rewrite_again hnd hids fun b hb =>
        decide_eq_true (rewrite_not_reassigning hnd hb)
    · dsimp only
      rw [hslots]
      refine (congrArg _ (load_again hnd hids)).trans ?_
      have hids := ids_of_slots hslots
      refine Table.modify_again (fun n hn => ?_) fun n => by simp
      rw [decide_eq_true_eq] at hn ⊢
      exact ⟨hids ▸ hn.1, hn.2⟩

end EncodeSched

/-! ## Stability -/

/-- What is asked of a rebalance of the cameras `cams` over the schedulable nodes `nodes`, from the
rows `before` to the rows `after`; `reissued` says which rows are issued again on their node. -/
structure Steady (reissued : Assignment → Bool) (cams : List Nat) (nodes : List Slot)
    (before after : Assignments) : Prop where
  /-- A camera on a schedulable node that takes all the cameras that sit on it is not moved; its
  row is left alone, unless it has to be issued again, and then it is pending in the same epoch. -/
  kept : ∀ n ∈ nodes, ((cams.countP (sitsOn before.get? n.id) : Nat) : Int) ≤ max 0 n.capacity →
    ∀ c ∈ cams, ∀ a, before.get? c = some a → a.nodeId = n.id →
      after.get? c = some (if reissued a then { a with state := .pending } else a)
  /-- A row that changes on its node was to be issued again. -/
  only : ∀ c a b, before.get? c = some a → after.get? c = some b → b.nodeId = a.nodeId → b ≠ a →
    reissued a = true ∧ b = { a with state := .pending }
  /-- No row is left that has to be issued again. -/
  settled : ∀ b ∈ after, reissued b = false

/-- The passes of a rebalance are steady. -/
theorem rewrite_steady {unchanged : Assignment → Bool} {nodes : List Slot} {cams : List Nat}
    {rows : Assignments} (hnd : cams.Nodup) (hids : (nodes.map Slot.id).Nodup)
    (hissue : ∀ a, unchanged a = false → a.state ≠ .pending) :
    Steady (fun a => !unchanged a) cams nodes rows (rewrite unchanged nodes cams rows).1 where
  kept := by
    intro n hn hfit c hc a ha hon
    have hcap : ((n.cap : Nat) : Int) = max 0 n.capacity := by rw [Slot.cap]; omega
    rw [rewrite_kept hnd hids hn (by omega) hc ha hon]
    cases unchanged a <;> rfl
  only := by
    intro c a b ha hb hnode hne
    obtain ⟨hu, rfl⟩ := rewrite_reissued hnd ha hb hnode hne
    exact ⟨by rw [hu]; rfl, rfl⟩
  settled := by
    intro b hb
    rcases rewrite_state hnd hb with ⟨-, hu⟩ | hst
    · rw [hu]; rfl
    · cases hu : unchanged b with
      | true => rfl
      | false => exact absurd hst (hissue b hu)

/-- **Both schedulers are stable and idempotent.** From every state, a second rebalance changes
nothing at all, the first one moves no camera off a schedulable node that takes the cameras sitting
on it, and the etag changes exactly when Redis answers and some row changed. The AI scheduler issues
no row again on its node; the encoder scheduler, with its flag on, issues again exactly the rows
that wait for a new node, and none waits afterwards. -/
theorem rebalance_stable :
    (∀ s : AiSched,
      (s.rebalance.1.rebalance.1 = s.rebalance.1 ∧ s.rebalance.1.rebalance.2.changed = 0) ∧
      Steady (fun _ => false) s.enabledCameraIds ((AiNode.schedulable s.nodes).map AiNode.slot)
        s.rows s.rebalance.1.rows ∧
      (s.rebalance.1.store.currentEtag ≠ s.store.currentEtag ↔
        s.store.redisUp = true ∧ ∃ c, s.rebalance.1.rows.get? c ≠ s.rows.get? c)) ∧
    (∀ s : EncodeSched,
      (s.rebalance.1.rebalance.1 = s.rebalance.1 ∧ s.rebalance.1.rebalance.2.changed = 0) ∧
      (s.flagOn = true →
        Steady (fun a => a.state == .reassigning) s.camerasNeedingEncode
          ((EncodingNode.schedulable s.nodes).map EncodingNode.slot) s.rows s.rebalance.1.rows) ∧
      (s.rebalance.1.store.currentEtag ≠ s.store.currentEtag ↔
        s.store.redisUp = true ∧ ∃ c, s.rebalance.1.rows.get? c ≠ s.rows.get? c)) := by
  have hnever : ∀ a : Assignment, (fun _ : Assignment => true) a = false → a.state ≠ .pending :=
    fun _ h => nomatch h
  have hissue : ∀ a : Assignment, decide (a.state ≠ .reassigning) = false → a.state ≠ .pending :=
    fun a h => by rw [reissue_state h]; exact AssignState.noConfusion
  have hwaits : (fun a : Assignment => !decide (a.state ≠ .reassigning)) =
      fun a => a.state == .reassigning := by
    funext a; cases a.state <;> rfl
  refine ⟨fun s => ⟨s.rebalance_again, ?_, ?_⟩, fun s => ⟨s.rebalance_again, fun hflag => ?_, ?_⟩⟩
  · exact rewrite_steady (s.cameras.nodup_getAllEnabled_filter _) (AiNode.nodup_schedulable _)
      hnever
  · refine (EtagStore.currentEtag_bump_if _ _).trans
      (and_congr_right fun _ => exists_congr fun c => ?_)
    exact mem_changed hnever (s.cameras.nodup_getAllEnabled_filter _) c
  · rw [EncodeSched.rebalance, if_pos hflag, ← hwaits]
    exact rewrite_steady (s.cameras.nodup_getAllEnabled_filter _)
      (EncodingNode.nodup_schedulable _) hissue
  · rw [EncodeSched.rebalance]
    split
    · refine (EtagStore.currentEtag_bump_if _ _).trans
        (and_congr_right fun _ => exists_congr fun c => ?_)
      exact mem_changed hissue (s.cameras.nodup_getAllEnabled_filter _) c
    · refine (EtagStore.currentEtag_bump_if _ _).trans
        (and_congr_right fun _ => exists_congr fun c => ?_)
      rw [EncodeSched.get?_rebalanceOff, ne_comm, ne_eq, Table.get?_eq_none]
      simp [Assignments.allRows]

namespace StabilityFixture

/-- Two watched cameras on one encoder node that takes both, one of the rows waiting for a new
node. -/
def sched : EncodeSched where
  cameras := ⟨[⟨1, "a", "gate", true, none⟩, ⟨2, "b", "yard", true, none⟩], by decide⟩
  needsEncode := fun _ => true
  flagOn := true
  nodes := ⟨[⟨10, .online, true, 2, 0, none⟩], List.nodup_singleton _⟩
  rows := ⟨[⟨1, 10, .active, some 5, some 5, 3⟩, ⟨2, 10, .reassigning, some 5, some 5, 4⟩],
    by decide⟩
  store := ⟨some 7, true⟩
  resynced := []

/-- The same with a Redis that does not answer. -/
def cutOff : EncodeSched := { sched with store := ⟨some 7, false⟩ }

/-- The same with the feature flag off. -/
def flagOff : EncodeSched := { sched with flagOn := false }

end StabilityFixture

/-- In the fixture the active camera keeps its row, the other row is issued again in its epoch, and
the etag changes. -/
theorem rebalance_stable_fixture :
    StabilityFixture.sched.flagOn = true ∧
      Steady (fun a => a.state == .reassigning) StabilityFixture.sched.camerasNeedingEncode
        ((EncodingNode.schedulable StabilityFixture.sched.nodes).map EncodingNode.slot)
        StabilityFixture.sched.rows StabilityFixture.sched.rebalance.1.rows ∧
      StabilityFixture.sched.rebalance.1.rows.get? 1 = some ⟨1, 10, .active, some 5, some 5, 3⟩ ∧
      StabilityFixture.sched.rebalance.1.rows.get? 2 = some ⟨2, 10, .pending, some 5, some 5, 4⟩ :=
  have h := (rebalance_stable.2 StabilityFixture.sched).2.1 rfl
  ⟨rfl, h, by decide, by decide⟩

/-- Without Redis the etag does not follow the rows: the bump is swallowed, and both reads answer
`0`. With the feature flag off a camera loses its row although its node takes it. -/
theorem etag_lost_without_redis :
    ¬ (StabilityFixture.cutOff.rebalance.1.store.currentEtag ≠
        StabilityFixture.cutOff.store.currentEtag ↔
      ∃ c, StabilityFixture.cutOff.rebalance.1.rows.get? c ≠
        StabilityFixture.cutOff.rows.get? c) ∧
    ¬ Steady (fun a => a.state == .reassigning) StabilityFixture.flagOff.camerasNeedingEncode
        ((EncodingNode.schedulable StabilityFixture.flagOff.nodes).map EncodingNode.slot)
        StabilityFixture.flagOff.rows StabilityFixture.flagOff.rebalance.1.rows := by
  refine ⟨fun h => h.2 ⟨2, by decide⟩ (by decide), fun h => ?_⟩
  have hkept := h.kept ⟨10, 2⟩ (by decide) (by decide) 1 (by decide)
    ⟨1, 10, .active, some 5, some 5, 3⟩ (by decide) rfl
  revert hkept
  decide

end AeroXProtect
