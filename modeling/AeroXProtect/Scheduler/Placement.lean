import AeroXProtect.Scheduler.Rebalance
import Mathlib.Algebra.BigOperators.Group.List.Basic
import Mathlib.Algebra.Order.BigOperators.Group.List
import Mathlib.Algebra.Order.Ring.Nat
import Mathlib.Algebra.Order.Ring.Int

/-!
# Placement of the two schedulers

`Placed`: what a run of `rebalance` leaves behind. Every row belongs to a camera that needs work and
points to a schedulable node, no node holds more rows than it takes, and the number of pending
cameras is what no placement can avoid. The planning passes keep `PlanOk` (`PlanOk.put` is the one
way they change the plan), the load counters then add up to the number of placed cameras
(`PlanOk.sum_load`), and `place_full` says that a camera is left pending only when every node is
full. `rewrite_nodeOf` reads the rows off the plan.
-/

open Lib

namespace AeroXProtect

/-! ## The pick -/

section
variable {nodes : List Slot} {load : Nat → Nat}

/-- The scan of `_pick` from a candidate `b`: it ends with the candidate, or with a node that has
more room, and no node has more room than the result. -/
theorem pick_scan (nodes : List Slot) (load : Nat → Nat) (b : Option Nat × Int) :
    let r := nodes.foldl (fun (best : Option Nat × Int) n =>
      if (n.cap : Int) - load n.id > best.2 then (some n.id, (n.cap : Int) - load n.id)
      else best) b
    b.2 ≤ r.2 ∧ (∀ n ∈ nodes, (n.cap : Int) - load n.id ≤ r.2) ∧
      (r = b ∨ ∃ n ∈ nodes, r = (some n.id, (n.cap : Int) - load n.id) ∧ b.2 < r.2) := by
  induction nodes generalizing b with
  | nil => exact ⟨le_refl _, by simp, .inl rfl⟩
  | cons m rest ih =>
    simp only [List.foldl_cons]
    split
    · next hlt =>
      obtain ⟨h1, h2, h3⟩ := ih (some m.id, (m.cap : Int) - load m.id)
      refine ⟨(le_of_lt hlt).trans h1, ?_, ?_⟩
      · intro n hn
        rcases List.mem_cons.1 hn with rfl | hn
        · exact h1
        · exact h2 n hn
      · right
        rcases h3 with h3 | ⟨n, hn, h3, -⟩
        · exact ⟨m, .head _, h3, by rw [h3]; exact hlt⟩
        · exact ⟨n, .tail _ hn, h3, lt_of_lt_of_le hlt h1⟩
    · next hge =>
      obtain ⟨h1, h2, h3⟩ := ih b
      refine ⟨h1, ?_, ?_⟩
      · intro n hn
        rcases List.mem_cons.1 hn with rfl | hn
        · exact (not_lt.1 hge).trans h1
        · exact h2 n hn
      · rcases h3 with h3 | ⟨n, hn, h3⟩
        · exact .inl h3
        · exact .inr ⟨n, .tail _ hn, h3⟩

/-- A picked node is one of the nodes and has room. -/
theorem pick_some {nid : Nat} (h : pick nodes load = some nid) :
    ∃ n ∈ nodes, n.id = nid ∧ load nid < n.cap := by
  obtain ⟨-, -, h3⟩ := pick_scan nodes load (none, 0)
  rcases h3 with h3 | ⟨n, hn, h3, hlt⟩
  · rw [pick, h3] at h; cases h
  · rw [pick, h3] at h
    rw [h3] at hlt
    cases h
    refine ⟨n, hn, rfl, ?_⟩
    simp only at hlt
    omega

/-- Nothing is picked only when every node is full. -/
theorem pick_none (h : pick nodes load = none) : ∀ n ∈ nodes, n.cap ≤ load n.id := by
  obtain ⟨-, h2, h3⟩ := pick_scan nodes load (none, 0)
  rcases h3 with h3 | ⟨n, -, h3, -⟩
  · intro n hn
    have := h2 n hn
    rw [h3] at this
    simp only at this
    omega
  · rw [pick, h3] at h; cases h

/-- The capacity a node id stands for is that of a node of the list. -/
theorem capOf_some {nid c : Nat} (h : capOf nodes nid = some c) :
    ∃ n ∈ nodes, n.id = nid ∧ n.cap = c := by
  obtain ⟨n, hn, rfl⟩ := Option.map_eq_some_iff.1 h
  exact ⟨n, List.mem_of_find?_eq_some hn, by simpa using List.find?_some hn, rfl⟩

end

/-! ## The plan -/

/-- The planning invariant: planned cameras need work and planned nodes exist, the counter of a node
is the number of cameras planned on it, and no counter exceeds its capacity. -/
structure PlanOk (nodes : List Slot) (cams : List Nat) (p : Plan) : Prop where
  dom : ∀ c n, p.node c = some n → c ∈ cams ∧ ∃ s ∈ nodes, s.id = n
  load : ∀ n, p.load n = cams.countP fun c => decide (p.node c = some n)
  room : ∀ s ∈ nodes, p.load s.id ≤ s.cap

section
variable {nodes : List Slot} {cams : List Nat} {p : Plan}

theorem PlanOk.empty : PlanOk nodes cams Plan.empty where
  dom := by intro c n h; cases h
  load := by intro n; simp [Plan.empty]
  room := by intro s _; exact Nat.zero_le _

/-- The cameras planned on a node, after one more camera was planned. -/
theorem countP_put (hnd : cams.Nodup) {cam nid : Nat} (hcam : cam ∈ cams)
    (hnone : p.node cam = none) (n : Nat) :
    (cams.countP fun c => decide ((p.put cam nid).node c = some n)) =
      (cams.countP fun c => decide (p.node c = some n)) + if n = nid then 1 else 0 := by
  have hp := List.perm_cons_erase hcam
  have hrest : ((cams.erase cam).countP fun c => decide ((p.put cam nid).node c = some n)) =
      (cams.erase cam).countP fun c => decide (p.node c = some n) := by
    refine List.countP_congr fun c hc => ?_
    have hne : c ≠ cam := ((hnd.mem_erase_iff).1 hc).1
    simp [Plan.put, hne]
  rw [hp.countP_eq, hp.countP_eq, List.countP_cons, List.countP_cons, hrest]
  by_cases hn : n = nid
  · subst hn; simp [Plan.put, hnone]
  · simp [Plan.put, hnone, hn, Ne.symm hn]

/-- Planning a camera that had no node on a node with room keeps the invariant. -/
theorem PlanOk.put (h : PlanOk nodes cams p) (hnd : cams.Nodup)
    (hids : (nodes.map Slot.id).Nodup) {cam : Nat} {s : Slot} (hcam : cam ∈ cams)
    (hnone : p.node cam = none) (hs : s ∈ nodes) (hroom : p.load s.id < s.cap) :
    PlanOk nodes cams (p.put cam s.id) where
  dom := by
    intro c n hc
    simp only [Plan.put] at hc
    split at hc
    · next heq => cases hc; exact ⟨heq ▸ hcam, s, hs, rfl⟩
    · exact h.dom c n hc
  load := by
    intro n
    rw [countP_put hnd hcam hnone, ← h.load n]
    simp only [Plan.put]
    split <;> rfl
  room := by
    intro s' hs'
    simp only [Plan.put]
    split
    · next heq =>
      have : s' = s := List.inj_on_of_nodup_map hids hs' hs heq
      subst this
      exact hroom
    · exact h.room s' hs'

/-- The first pass keeps the invariant. -/
theorem keep_ok (hnd : cams.Nodup) (hids : (nodes.map Slot.id).Nodup)
    (existing : Nat → Option Assignment) (l : List Nat) (hl : l.Nodup) (hsub : l ⊆ cams)
    (h : PlanOk nodes cams p) (hnone : ∀ c ∈ l, p.node c = none) :
    PlanOk nodes cams (l.foldl (keepStep nodes existing) p) := by
  induction l generalizing p with
  | nil => exact h
  | cons cam l ih =>
    rw [List.nodup_cons] at hl
    have hrest : ∀ c ∈ l, p.node c = none := fun c hc => hnone c (.tail _ hc)
    have hsub' : l ⊆ cams := fun c hc => hsub (.tail _ hc)
    rw [List.foldl_cons]
    -- only `put` changes the plan, and it plans `cam`, which is not in the rest
    unfold keepStep
    split
    · exact ih hl.2 hsub' h hrest
    · next a _ =>
      split
      · exact ih hl.2 hsub' h hrest
      · next c hc =>
        obtain ⟨s, hs, hid, hcap⟩ := capOf_some hc
        split
        · next hlt =>
          rw [← hid] at hlt ⊢
          refine ih hl.2 hsub' (h.put hnd hids (hsub (.head _)) (hnone cam (.head _)) hs
            (by rw [hcap]; exact hlt)) fun c' hc' => ?_
          have hne : c' ≠ cam := fun he => hl.1 (he ▸ hc')
          simpa [Plan.put, hne] using hrest c' hc'
        · exact ih hl.2 hsub' h hrest

/-- The second pass keeps the invariant. -/
theorem place_ok (hnd : cams.Nodup) (hids : (nodes.map Slot.id).Nodup) (l : List Nat)
    (hsub : l ⊆ cams) (h : PlanOk nodes cams p) :
    PlanOk nodes cams (l.foldl (placeStep nodes) p) := by
  induction l generalizing p with
  | nil => exact h
  | cons cam l ih =>
    have hsub' : l ⊆ cams := fun c hc => hsub (.tail _ hc)
    rw [List.foldl_cons]
    unfold placeStep
    split
    · exact ih hsub' h
    · next hnone =>
      split
      · exact ih hsub' ⟨h.dom, h.load, h.room⟩
      · next nid hpick =>
        obtain ⟨s, hs, rfl, hroom⟩ := pick_some hpick
        exact ih hsub'
          (h.put hnd hids (hsub (.head _)) (by simpa using hnone) hs hroom)

end

section
variable {nodes : List Slot}

/-- The second pass plans only cameras of its list. -/
theorem place_node_of_not_mem (l : List Nat) (p : Plan) {c : Nat} (hc : c ∉ l) :
    (l.foldl (placeStep nodes) p).node c = p.node c := by
  induction l generalizing p with
  | nil => rfl
  | cons cam l ih =>
    rw [List.mem_cons, not_or] at hc
    rw [List.foldl_cons, ih _ hc.2]
    unfold placeStep
    split
    · rfl
    · split
      · rfl
      · simp [Plan.put, hc.1]

/-- The second pass leaves pending exactly the cameras of its list it finds no node for. -/
theorem place_pending (nodes : List Slot) (l : List Nat) (hl : l.Nodup) (p : Plan) :
    (l.foldl (placeStep nodes) p).pending.length =
      p.pending.length +
        l.countP fun c => ((l.foldl (placeStep nodes) p).node c).isNone := by
  induction l generalizing p with
  | nil => simp
  | cons cam l ih =>
    rw [List.nodup_cons] at hl
    rw [List.foldl_cons, List.countP_cons, ih hl.2, place_node_of_not_mem l _ hl.1]
    unfold placeStep
    split
    · next hsome =>
      cases hn : p.node cam with
      | none => rw [hn] at hsome; cases hsome
      | some n => simp
    · next hnone =>
      split
      · simp only [Bool.not_eq_true, Option.isSome_eq_false_iff] at hnone
        simp [hnone]; omega
      · simp [Plan.put]

/-- The counters only grow in the second pass. -/
theorem place_load_mono (l : List Nat) (p : Plan) (n : Nat) :
    p.load n ≤ (l.foldl (placeStep nodes) p).load n := by
  induction l generalizing p with
  | nil => exact le_refl _
  | cons cam l ih =>
    refine le_trans ?_ (ih (placeStep nodes p cam))
    unfold placeStep
    split
    · exact le_refl _
    · split
      · exact le_refl _
      · simp only [Plan.put]; split <;> omega

/-- The second pass leaves a camera pending only when every node ends up full. -/
theorem place_full (nodes : List Slot) (l : List Nat) (p : Plan)
    (h : p.pending.length < (l.foldl (placeStep nodes) p).pending.length) :
    ∀ s ∈ nodes, s.cap ≤ (l.foldl (placeStep nodes) p).load s.id := by
  induction l generalizing p with
  | nil => exact absurd h (lt_irrefl _)
  | cons cam l ih =>
    rw [List.foldl_cons] at h ⊢
    by_cases hgrow : p.pending.length < (placeStep nodes p cam).pending.length
    · -- this step found no node, so every node was full already
      intro s hs
      refine le_trans ?_ (place_load_mono l _ s.id)
      unfold placeStep at hgrow ⊢
      split at hgrow
      · exact absurd hgrow (lt_irrefl _)
      · next hnone =>
        rw [if_neg hnone]
        cases hpick : pick nodes p.load with
        | none => exact pick_none hpick s hs
        | some nid => rw [hpick] at hgrow; exact absurd hgrow (lt_irrefl _)
    · exact ih _ (lt_of_le_of_lt (not_lt.1 hgrow) h)

end

/-! ## The counters add up -/

/-- The nodes of a list with distinct ids that a planned node id stands for: one, or none. -/
theorem countP_id_eq {nodes : List Slot} (hids : (nodes.map Slot.id).Nodup) (o : Option Nat) :
    (nodes.countP fun s => decide (o = some s.id)) =
      if ∃ s ∈ nodes, o = some s.id then 1 else 0 := by
  induction nodes with
  | nil => simp
  | cons m rest ih =>
    rw [List.map_cons, List.nodup_cons] at hids
    rw [List.countP_cons, ih hids.2]
    by_cases hm : o = some m.id
    · have hno : ¬ ∃ s ∈ rest, o = some s.id := by
        rintro ⟨s, hs, he⟩
        rw [hm, Option.some.injEq] at he
        exact hids.1 (he ▸ List.mem_map_of_mem hs)
      have hyes : ∃ s ∈ m :: rest, o = some s.id := ⟨m, .head _, hm⟩
      rw [if_neg hno, if_pos hyes, if_pos (decide_eq_true hm)]
    · simp [hm]

/-- A sum of indicators counts. -/
theorem sum_map_boole {α : Type} (q : α → Bool) (l : List α) :
    (l.map fun a => if q a then 1 else 0).sum = l.countP q := by
  induction l with
  | nil => rfl
  | cons a l ih => rw [List.map_cons, List.sum_cons, ih, List.countP_cons, Nat.add_comm]

/-- Counting the planned cameras node by node counts those planned on some node of the list. -/
theorem sum_countP {nodes : List Slot} (hids : (nodes.map Slot.id).Nodup) (f : Nat → Option Nat)
    (cams : List Nat) :
    (nodes.map fun s => cams.countP fun c => decide (f c = some s.id)).sum =
      cams.countP fun c => decide (∃ s ∈ nodes, f c = some s.id) := by
  induction cams with
  | nil => simp
  | cons c cs ih =>
    have hsplit : (nodes.map fun s => (c :: cs).countP fun c => decide (f c = some s.id)) =
        nodes.map fun s => (cs.countP fun c => decide (f c = some s.id)) +
          if decide (f c = some s.id) then 1 else 0 :=
      List.map_congr_left fun s _ => List.countP_cons
    rw [hsplit, List.sum_map_add, ih, sum_map_boole, countP_id_eq hids, List.countP_cons]
    simp

section
variable {nodes : List Slot} {cams : List Nat} {p : Plan}

/-- The counters of the nodes add up to the number of planned cameras. -/
theorem PlanOk.sum_load (h : PlanOk nodes cams p) (hids : (nodes.map Slot.id).Nodup) :
    (nodes.map fun s => p.load s.id).sum = cams.countP fun c => (p.node c).isSome := by
  have hload : (nodes.map fun s => p.load s.id) =
      nodes.map fun s => cams.countP fun c => decide (p.node c = some s.id) :=
    List.map_congr_left fun s _ => h.load s.id
  rw [hload, sum_countP hids]
  refine List.countP_congr fun c _ => ?_
  rw [decide_eq_true_eq, Option.isSome_iff_exists]
  constructor
  · rintro ⟨s, -, hs⟩; exact ⟨_, hs⟩
  · rintro ⟨n, hn⟩
    obtain ⟨-, s, hs, rfl⟩ := h.dom c n hn
    exact ⟨s, hs, hn⟩

/-- The plan of the two passes is well formed. -/
theorem makePlan_ok (hnd : cams.Nodup) (hids : (nodes.map Slot.id).Nodup)
    (existing : Nat → Option Assignment) : PlanOk nodes cams (makePlan nodes existing cams) :=
  place_ok hnd hids cams (List.Subset.refl _)
    (keep_ok hnd hids existing cams hnd (List.Subset.refl _) .empty fun _ _ => rfl)

/-- The first pass leaves nothing pending. -/
theorem keep_pending (existing : Nat → Option Assignment) (l : List Nat) (p : Plan) :
    (l.foldl (keepStep nodes existing) p).pending = p.pending := by
  induction l generalizing p with
  | nil => rfl
  | cons cam l ih =>
    rw [List.foldl_cons, ih]
    unfold keepStep
    split
    · rfl
    · split
      · rfl
      · split <;> rfl

/-- Every camera of the list is planned or pending. -/
theorem makePlan_count (nodes : List Slot) (hnd : cams.Nodup) (existing : Nat → Option Assignment) :
    (makePlan nodes existing cams).pending.length +
      (cams.countP fun c => ((makePlan nodes existing cams).node c).isSome) = cams.length := by
  have h := place_pending nodes cams hnd
    (cams.foldl (keepStep nodes existing) Plan.empty)
  rw [keep_pending, Plan.empty, List.length_nil, Nat.zero_add] at h
  have hsplit := List.length_eq_countP_add_countP
    (fun c => ((makePlan nodes existing cams).node c).isSome) (l := cams)
  have hnot : (cams.countP fun c => ((makePlan nodes existing cams).node c).isNone) =
      cams.countP fun c => decide ¬ ((makePlan nodes existing cams).node c).isSome = true :=
    List.countP_congr fun c _ => by simp
  have hp : (makePlan nodes existing cams).pending.length =
      cams.countP fun c => ((makePlan nodes existing cams).node c).isNone := h
  omega

/-- The number of pending cameras: the cameras beyond the total capacity. -/
theorem makePlan_pending (hnd : cams.Nodup) (hids : (nodes.map Slot.id).Nodup)
    (existing : Nat → Option Assignment) :
    (makePlan nodes existing cams).pending.length =
      cams.length - (nodes.map Slot.cap).sum := by
  have hok := makePlan_ok hnd hids existing
  have hsum := hok.sum_load hids
  have hcount := makePlan_count nodes hnd existing
  have hle : (nodes.map fun s => (makePlan nodes existing cams).load s.id).sum ≤
      (nodes.map Slot.cap).sum := List.sum_le_sum hok.room
  by_cases hp : (makePlan nodes existing cams).pending.length = 0
  · omega
  · have hfull := place_full nodes cams
      (cams.foldl (keepStep nodes existing) Plan.empty)
      (by rw [keep_pending]; exact Nat.pos_of_ne_zero hp)
    have hge : (nodes.map Slot.cap).sum ≤
        (nodes.map fun s => (makePlan nodes existing cams).load s.id).sum := List.sum_le_sum hfull
    omega

end

/-! ## The rows -/

section
variable {unchanged : Assignment → Bool} {cams : List Nat} {rows : Assignments}

/-- The row the write-back leaves for a camera with the row `old` and the planned node `planned`. -/
def nextRow (unchanged : Assignment → Bool) (cam : Nat) (old : Option Assignment)
    (planned : Option Nat) : Option Assignment :=
  match planned, old with
  | none, _ => none
  | some n, none => some (Assignments.firstRow cam n .pending)
  | some n, some a =>
    if a.nodeId = n && unchanged a then some a else some (Assignments.reissue n .pending a)

/-- The write-back counts the camera as changed. -/
def isRewritten (unchanged : Assignment → Bool) (old : Option Assignment)
    (planned : Option Nat) : Bool :=
  match planned, old with
  | none, old => old.isSome
  | some _, none => true
  | some n, some a => !(a.nodeId = n && unchanged a)

/-- The new row of a camera points to its planned node. -/
theorem nodeId_nextRow (unchanged : Assignment → Bool) (cam : Nat) (old : Option Assignment)
    (planned : Option Nat) :
    (nextRow unchanged cam old planned).map Assignment.nodeId = planned := by
  unfold nextRow
  split
  · rfl
  · rfl
  · next n a =>
    split
    · next h =>
      rw [Bool.and_eq_true, decide_eq_true_eq] at h
      rw [Option.map_some, h.1]
    · rw [Option.map_some, Assignments.nodeId_reissue]

section
variable {existing : Nat → Option Assignment} {plan : Nat → Option Nat}
  {st : Assignments × List Nat} {cam : Nat}

/-- One camera's write-back changes the row of that camera only. -/
theorem writeStep_get? (hcam : st.1.get? cam = existing cam) (c : Nat) :
    (writeStep unchanged existing plan st cam).1.get? c =
      if c = cam then nextRow unchanged cam (existing cam) (plan cam) else st.1.get? c := by
  rw [← hcam]
  unfold writeStep nextRow
  rw [← hcam]
  cases hplan : plan cam with
  | none =>
    cases hold : st.1.get? cam with
    | none =>
      show st.1.get? c = if c = cam then none else st.1.get? c
      split
      · next heq => rw [heq, hold]
      · rfl
    | some a => exact Table.get?_delete
  | some nid =>
    cases hold : st.1.get? cam with
    | none => simp only [Assignments.get?_assign, hold]
    | some a =>
      dsimp only
      split
      · split
        · next heq => rw [heq, hold]
        · rfl
      · simp only [Assignments.get?_assign, hold]

/-- The cameras one camera's write-back adds to the changed ones. -/
theorem writeStep_changed :
    (writeStep unchanged existing plan st cam).2 =
      st.2 ++ if isRewritten unchanged (existing cam) (plan cam) then [cam] else [] := by
  unfold writeStep isRewritten
  cases plan cam with
  | none => cases existing cam <;> simp
  | some nid =>
    cases existing cam with
    | none => simp
    | some a =>
      dsimp only
      split <;> simp [*]

/-- The write-back of a camera that is not changed does nothing. -/
theorem writeStep_of_unchanged (h : isRewritten unchanged (existing cam) (plan cam) = false) :
    writeStep unchanged existing plan st cam = st := by
  unfold isRewritten at h
  unfold writeStep
  split at h
  · next hplan => simp [hplan, h]
  · cases h
  · next n a hplan hex => simp [hplan, hex, Bool.not_eq_eq_eq_not.1 h]

end

/-- The write-back pass gives every camera of its list its next row and leaves the rows of the
others alone. It reads the rows as they were before the pass, which is the state of each camera's
row until the pass reaches the camera. -/
theorem writeBack_get? (existing : Nat → Option Assignment) (plan : Nat → Option Nat)
    (l : List Nat) (hl : l.Nodup) (st : Assignments × List Nat)
    (hex : ∀ c ∈ l, st.1.get? c = existing c) (c : Nat) :
    (writeBack unchanged existing plan l st).1.get? c =
      if c ∈ l then nextRow unchanged c (existing c) (plan c) else st.1.get? c := by
  induction l generalizing st with
  | nil => simp [writeBack]
  | cons cam l ih =>
    rw [List.nodup_cons] at hl
    have hstep : ∀ c', (writeStep unchanged existing plan st cam).1.get? c' = _ :=
      writeStep_get? (hex cam (.head _))
    have hget : ∀ c' ∈ l, (writeStep unchanged existing plan st cam).1.get? c' = existing c' := by
      intro c' hc'
      have hne : c' ≠ cam := fun he => hl.1 (he ▸ hc')
      rw [hstep, if_neg hne, hex c' (.tail _ hc')]
    rw [writeBack, List.foldl_cons]
    refine (ih hl.2 _ hget).trans ?_
    rw [hstep]
    by_cases hc : c ∈ l
    · simp [hc]
    · by_cases he : c = cam
      · subst he; simp [hc]
      · simp [hc, he]

/-- The drop pass removes the rows of the listed cameras that need no work. -/
theorem dropStale_get? (stale : List Nat) (st : Assignments × List Nat) (c : Nat) :
    (dropStale cams stale st).1.get? c =
      if c ∈ stale ∧ c ∉ cams then none else st.1.get? c := by
  induction stale generalizing st with
  | nil => simp [dropStale]
  | cons cam l ih =>
    rw [dropStale, List.foldl_cons]
    refine (ih _).trans ?_
    split
    · next h => rw [if_pos ⟨.tail _ h.1, h.2⟩]
    · next h =>
      by_cases hcam : cam ∈ cams
      · rw [if_pos hcam]
        rw [if_neg fun h' => ?_]
        rcases List.mem_cons.1 h'.1 with rfl | hc
        · exact h'.2 hcam
        · exact h ⟨hc, h'.2⟩
      · rw [if_neg hcam, Assignments.removeForCamera, Table.get?_delete]
        by_cases he : c = cam
        · subst he; simp [hcam]
        · rw [if_neg he, if_neg fun h' => ?_]
          rcases List.mem_cons.1 h'.1 with rfl | hc
          · exact he rfl
          · exact h ⟨hc, h'.2⟩

/-- The rows after all passes: each camera that needs work has its next row, no other camera has a
row. -/
theorem rewrite_get? (hnd : cams.Nodup) (nodes : List Slot) (c : Nat) :
    (rewrite unchanged nodes cams rows).1.get? c =
      if c ∈ cams then
        nextRow unchanged c (rows.get? c) ((makePlan nodes rows.get? cams).node c)
      else none := by
  unfold rewrite
  rw [dropStale_get?, writeBack_get? rows.get? _ cams hnd (rows, []) fun _ _ => rfl]
  by_cases hc : c ∈ cams
  · simp [hc]
  · rw [if_neg hc, if_neg hc]
    split
    · rfl
    · next h =>
      -- a camera with a row is among the listed ones
      cases hg : rows.get? c with
      | none => rfl
      | some a =>
        obtain ⟨ha, rfl⟩ := Table.get?_eq_some.1 hg
        exact absurd ⟨List.mem_map.2 ⟨a, by simpa [Assignments.allRows] using ha, rfl⟩, hc⟩ h

/-- The rows after all passes: each camera that needs work has its planned node, no other camera
has a row. -/
theorem rewrite_nodeOf (hnd : cams.Nodup) (nodes : List Slot) (c : Nat) :
    (rewrite unchanged nodes cams rows).1.nodeOf c =
      if c ∈ cams then (makePlan nodes rows.get? cams).node c else none := by
  rw [Assignments.nodeOf, rewrite_get? hnd]
  split
  · exact nodeId_nextRow _ _ _ _
  · rfl

end

/-! ## Placement -/

/-- What a rebalance of the cameras `cams` over the schedulable nodes `nodes` leaves behind: the
rows `rows` and the summary `sum`. -/
structure Placed (cams : List Nat) (nodes : List Slot) (rows : Assignments) (sum : Summary) :
    Prop where
  /-- Every row belongs to a camera that needs work. -/
  needed : ∀ a ∈ rows, a.cameraId ∈ cams
  /-- Every row points to a schedulable node. -/
  schedulable : ∀ a ∈ rows, ∃ n ∈ nodes, n.id = a.nodeId
  /-- Each camera has at most one row. -/
  unique : ∀ a ∈ rows, ∀ b ∈ rows, a.cameraId = b.cameraId → a = b
  /-- Each node holds at most `max(0, capacity)` rows. -/
  capacity : ∀ n ∈ nodes,
    ((rows.rows.countP fun a => decide (a.nodeId = n.id) : Nat) : Int) ≤ max 0 n.capacity
  /-- The pending cameras are those beyond the total capacity. -/
  pending : (sum.pendingCount : Int) =
    max 0 ((cams.length : Int) - (nodes.map fun n => max 0 n.capacity).sum)
  pendingCount : sum.pending.length = sum.pendingCount
  /-- The assigned cameras are those with a row. -/
  assigned : rows.rows.length = sum.assigned
  total : sum.assigned + sum.pendingCount = cams.length

section
variable {cams : List Nat} {rows : Assignments} {f : Nat → Option Nat}

/-- When the nodes of the rows are those of a plan, the cameras with a row on some nodes are the
cameras planned on these nodes. -/
theorem countP_rows (hnd : cams.Nodup)
    (h : ∀ c, rows.nodeOf c = if c ∈ cams then f c else none) (q : Nat → Bool) :
    (rows.rows.countP fun a => q a.nodeId) = cams.countP fun c => (f c).any q := by
  have hperm : ((rows.rows.filter fun a => q a.nodeId).map Assignment.cameraId).Perm
      (cams.filter fun c => (f c).any q) := by
    refine (List.perm_ext_iff_of_nodup ((List.filter_sublist.map _).nodup rows.nodup)
      (hnd.filter _)).2 fun c => ?_
    simp only [List.mem_map, List.mem_filter]
    have hc := h c
    constructor
    · rintro ⟨a, ⟨ha, hq⟩, rfl⟩
      rw [Assignments.nodeOf, Table.get?_eq_some.2 ⟨ha, rfl⟩, Option.map_some] at hc
      split at hc
      · next hmem => exact ⟨hmem, by rw [← hc]; exact hq⟩
      · cases hc
    · rintro ⟨hmem, hq⟩
      rw [if_pos hmem] at hc
      rw [← hc, Assignments.nodeOf] at hq
      cases hg : rows.get? c with
      | none => rw [hg] at hq; cases hq
      | some a =>
        rw [hg] at hq
        obtain ⟨ha, rfl⟩ := Table.get?_eq_some.1 hg
        exact ⟨a, ⟨ha, hq⟩, rfl⟩
  rw [List.countP_eq_length_filter, List.countP_eq_length_filter, ← hperm.length_eq,
    List.length_map]

end

/-- The sum of the capacities `max(0, capacity)` is the sum of the node capacities as read by the
planner. -/
theorem sum_max_capacity (nodes : List Slot) :
    (nodes.map fun n => max 0 n.capacity).sum = ((nodes.map Slot.cap).sum : Int) := by
  induction nodes with
  | nil => rfl
  | cons n rest ih =>
    rw [List.map_cons, List.sum_cons, List.map_cons, List.sum_cons, ih, Slot.cap]
    push_cast
    omega

/-- The passes of a rebalance place the cameras, whichever rows they re-issue. -/
theorem rewrite_placed {cams : List Nat} {nodes : List Slot} (hnd : cams.Nodup)
    (hids : (nodes.map Slot.id).Nodup) (unchanged : Assignment → Bool) (rows : Assignments)
    (changed : Nat) (e : EtagStore) :
    Placed cams nodes (rewrite unchanged nodes cams rows).1
      (summarize cams (makePlan nodes rows.get? cams) changed e) := by
  have hrow : ∀ c, (rewrite unchanged nodes cams rows).1.nodeOf c =
      if c ∈ cams then (makePlan nodes rows.get? cams).node c else none :=
    rewrite_nodeOf hnd nodes
  have hok := makePlan_ok hnd hids rows.get?
  have hmem : ∀ a ∈ (rewrite unchanged nodes cams rows).1,
      a.cameraId ∈ cams ∧ ∃ n ∈ nodes, n.id = a.nodeId := by
    intro a ha
    have hc := hrow a.cameraId
    rw [Assignments.nodeOf, Table.get?_eq_some.2 ⟨ha, rfl⟩, Option.map_some] at hc
    split at hc
    · exact hok.dom _ _ hc.symm
    · cases hc
  have hpend := makePlan_pending hnd hids rows.get?
  have hcount := makePlan_count nodes hnd rows.get?
  refine ⟨fun a ha => (hmem a ha).1, fun a ha => (hmem a ha).2,
    fun a ha b hb => Table.eq_of_key_eq ha hb, fun n hn => ?_, ?_, ?_, ?_, ?_⟩
  · have hroom := hok.room n hn
    rw [hok.load] at hroom
    have hq : (cams.countP fun c => ((makePlan nodes rows.get? cams).node c).any
        fun m => decide (m = n.id)) =
        cams.countP fun c => decide ((makePlan nodes rows.get? cams).node c = some n.id) :=
      List.countP_congr fun c _ => by cases (makePlan nodes rows.get? cams).node c <;> simp
    rw [countP_rows hnd hrow fun m => decide (m = n.id), hq]
    have : ((n.cap : Nat) : Int) = max 0 n.capacity := by rw [Slot.cap]; omega
    omega
  · rw [sum_max_capacity]
    simp only [summarize]
    omega
  · simp [summarize]
  · have hall : (cams.countP fun c => ((makePlan nodes rows.get? cams).node c).any fun _ => true) =
        cams.countP fun c => ((makePlan nodes rows.get? cams).node c).isSome :=
      List.countP_congr fun c _ => by cases (makePlan nodes rows.get? cams).node c <;> simp
    have hlen := countP_rows hnd hrow fun _ => true
    rw [List.countP_true, hall] at hlen
    simp only [summarize]
    omega
  · simp only [summarize]
    omega

/-- The schedulable nodes of a table have distinct ids. -/
theorem AiNode.nodup_schedulable (t : Table AiNode.id) :
    (((AiNode.schedulable t).map AiNode.slot).map Slot.id).Nodup := by
  rw [List.map_map]
  exact (((perm_orderBy _ _).trans (perm_orderBy _ _)).map AiNode.id).nodup_iff.2
    ((List.filter_sublist.map AiNode.id).nodup t.nodup)

theorem EncodingNode.nodup_schedulable (t : Table EncodingNode.id) :
    (((EncodingNode.schedulable t).map EncodingNode.slot).map Slot.id).Nodup := by
  rw [List.map_map]
  exact t.nodup_map_orderBy _ _

/-- **Both schedulers place maximally.** After `ai_scheduler.rebalance`, and after
`encode_scheduler.rebalance` with its flag on, the rows are a placement of the cameras that need
work on the schedulable nodes that no node's capacity forbids and that leaves as few cameras pending
as the capacities allow, from every table of cameras, nodes and rows. -/
theorem rebalance_placed :
    (∀ s : AiSched, Placed s.enabledCameraIds ((AiNode.schedulable s.nodes).map AiNode.slot)
      s.rebalance.1.rows s.rebalance.2) ∧
    (∀ s : EncodeSched, s.flagOn = true →
      Placed s.camerasNeedingEncode ((EncodingNode.schedulable s.nodes).map EncodingNode.slot)
        s.rebalance.1.rows s.rebalance.2) := by
  refine ⟨fun s => ?_, fun s hflag => ?_⟩
  · exact rewrite_placed (s.cameras.nodup_getAllEnabled_filter _) (AiNode.nodup_schedulable _) _ _
      _ _
  · rw [EncodeSched.rebalance, if_pos hflag]
    exact rewrite_placed (s.cameras.nodup_getAllEnabled_filter _)
      (EncodingNode.nodup_schedulable _) _ _ _ _

namespace PlacementFixture

/-- Three watched cameras, encoder nodes that take one, none (a negative setting) and one camera,
and a row left over on the node that takes none. -/
def sched : EncodeSched where
  cameras := ⟨[⟨1, "a", "gate", true, none⟩, ⟨2, "b", "yard", true, none⟩,
    ⟨3, "c", "hall", true, none⟩], by decide⟩
  needsEncode := fun _ => true
  flagOn := true
  nodes := ⟨[⟨10, .online, true, 1, 0, none⟩, ⟨11, .online, true, -1, 0, none⟩,
    ⟨12, .online, true, 1, 0, none⟩], by decide⟩
  rows := ⟨[⟨1, 11, .active, none, none, 1⟩], by decide⟩
  store := ⟨none, true⟩
  resynced := []

end PlacementFixture

/-- A rebalance of the fixture is a placement. -/
theorem rebalance_placed_fixture :
    PlacementFixture.sched.flagOn = true ∧
      Placed PlacementFixture.sched.camerasNeedingEncode
        ((EncodingNode.schedulable PlacementFixture.sched.nodes).map EncodingNode.slot)
        PlacementFixture.sched.rebalance.1.rows PlacementFixture.sched.rebalance.2 :=
  ⟨rfl, rebalance_placed.2 _ rfl⟩

/-- The signed settings do not give the number of pending cameras: a node with a negative setting
takes no camera, it does not take room away from the others. Here the settings add up to one, and
of three cameras one stays pending, not two. -/
theorem pending_ne_signed_sum :
    ¬ ((PlacementFixture.sched.rebalance.2.pendingCount : Int) =
      max 0 ((PlacementFixture.sched.camerasNeedingEncode.length : Int) -
        (((EncodingNode.schedulable PlacementFixture.sched.nodes).map EncodingNode.slot).map
          Slot.capacity).sum)) := by
  decide

end AeroXProtect
