import AeroXProtect.Detection.Ingest

/-!
# The epochs of the detection assignments

`RowMove` lists what a write may do to the row of a camera: it goes, it stays the same assignment,
it moves to another node in the next epoch, or it is created in epoch `1`. `EpochsOk` is the
invariant of the log: the epochs handed out for a camera do not repeat, the row of a camera is the
latest assignment of the log, and its epoch is the largest. It is lost only when a row is created
for a camera that had one before, which is what the guard `Detect.admitted` excludes.
-/

open Lib

namespace AeroXProtect

/-! ## What a write does to a row -/

/-- What a write may do to the row of a camera. -/
inductive RowMove : Option Assignment → Option Assignment → Prop
  | gone {o : Option Assignment} : RowMove o none
  | same {a b : Assignment} : b.issue = a.issue → RowMove (some a) (some b)
  | moved {a b : Assignment} : b.epoch = a.epoch + 1 → RowMove (some a) (some b)
  | created {b : Assignment} : b.epoch = 1 → RowMove none (some b)

/-- Only the assignment in the old row counts. -/
theorem RowMove.of_issue {o o' n : Option Assignment}
    (h : o.map Assignment.issue = o'.map Assignment.issue) (hm : RowMove o' n) : RowMove o n := by
  cases hm with
  | gone => exact .gone
  | @same a b hb =>
    obtain ⟨a', rfl, ha'⟩ := Option.map_eq_some_iff.1 h
    exact .same (hb.trans ha'.symm)
  | @moved a b hb =>
    obtain ⟨a', rfl, ha'⟩ := Option.map_eq_some_iff.1 h
    have hepoch : a'.epoch = a.epoch := congrArg Issue.epoch ha'
    exact .moved (by rw [hb, hepoch])
  | created hb =>
    cases o with
    | none => exact .created hb
    | some a => cases h

/-- A row that keeps its assignment, or goes. -/
theorem RowMove.of_map {o n : Option Assignment}
    (h : n.map Assignment.issue = o.map Assignment.issue) : RowMove o n := by
  cases n with
  | none => exact .gone
  | some b =>
    obtain ⟨a, rfl, ha⟩ := Option.map_eq_some_iff.1 h.symm
    exact .same ha.symm

theorem reissue_move (n : Nat) (st : AssignState) (a : Assignment) :
    RowMove (some a) (some (Assignments.reissue n st a)) := by
  unfold Assignments.reissue
  split
  · exact .moved rfl
  · next h =>
    rw [not_not] at h
    exact .same (by simp [Assignment.issue, h])

theorem nextRow_move (unchanged : Assignment → Bool) (c : Nat) (old : Option Assignment)
    (planned : Option Nat) : RowMove old (nextRow unchanged c old planned) := by
  unfold nextRow
  split
  · exact .gone
  · exact .created rfl
  · split
    · exact .same rfl
    · exact reissue_move _ _ _

/-- A rebalance moves rows. -/
theorem rewrite_move {unchanged : Assignment → Bool} {nodes : List Slot} {cams : List Nat}
    {rows : Assignments} (hnd : cams.Nodup) (c : Nat) :
    RowMove (rows.get? c) ((rewrite unchanged nodes cams rows).1.get? c) := by
  rw [rewrite_get? hnd]
  split
  · exact nextRow_move _ _ _ _
  · exact .gone

/-- A camera has a row after a rebalance only if it was planned on a node. -/
theorem isSome_node_of_rewrite {unchanged : Assignment → Bool} {nodes : List Slot}
    {cams : List Nat} {rows : Assignments} (hnd : cams.Nodup) {c : Nat}
    (h : ((rewrite unchanged nodes cams rows).1.get? c).isSome) :
    ((makePlan nodes rows.get? cams).node c).isSome := by
  rw [rewrite_get? hnd] at h
  split at h
  · rw [← nodeId_nextRow unchanged c (rows.get? c)
      ((makePlan nodes rows.get? cams).node c), Option.isSome_map]
    exact h
  · cases h

theorem assign_move (t : Assignments) (cam n : Nat) (st : AssignState) (c : Nat) :
    RowMove (t.get? c) ((t.assign cam n st).get? c) := by
  rw [Assignments.get?_assign]
  split
  · next h =>
    subst h
    cases t.get? c with
    | none => exact .created rfl
    | some a => exact reissue_move _ _ _
  · exact .of_map rfl

/-! ## The actions -/

namespace Detect

/-- The action gives the camera a node. -/
def places (s : AiSched) : DetectAct → Nat → Bool
  | .rebalance, c =>
    ((makePlan ((AiNode.schedulable s.nodes).map AiNode.slot) s.rows.get?
      s.enabledCameraIds).node c).isSome
  | .reassign node, c =>
    ((makePlan ((AiNode.schedulable s.nodes).map AiNode.slot)
      (s.rows.setNodeState node .reassigning).get? s.enabledCameraIds).node c).isSome
  | .pin camera _, c => camera == c
  | .configure .., _ | .redis _, _ | .report .., _ => false

/-- Every action moves rows, and creates a row only for a camera it gives a node. -/
theorem act_move (builds : Json → Bool) (s : AiSched) (a : DetectAct) (c : Nat) :
    RowMove (s.rows.get? c) ((act builds s a).rows.get? c) ∧
      (s.rows.get? c = none → ((act builds s a).rows.get? c).isSome → places s a c = true) := by
  have hsame : ∀ rows : Assignments,
      (rows.get? c).map Assignment.issue = (s.rows.get? c).map Assignment.issue →
      RowMove (s.rows.get? c) (rows.get? c) ∧
        (s.rows.get? c = none → (rows.get? c).isSome → places s a c = true) := by
    intro rows h
    refine ⟨.of_map h, fun hnone hsome => ?_⟩
    rw [hnone] at h
    rw [Option.map_eq_none_iff.1 h] at hsome
    cases hsome
  have hnd : s.enabledCameraIds.Nodup := s.cameras.nodup_getAllEnabled_filter _
  cases a with
  | configure | redis => exact hsame s.rows rfl
  | rebalance =>
    exact ⟨rewrite_move hnd c, fun _ hsome => isSome_node_of_rewrite hnd hsome⟩
  | reassign node =>
    refine ⟨.of_issue ?_ (rewrite_move hnd c), fun _ hsome => isSome_node_of_rewrite hnd hsome⟩
    rw [issue_get?, issue_get?, issues_setNodeState]
  | pin camera node =>
    refine ⟨assign_move _ _ _ _ _, fun hnone hsome => ?_⟩
    have hget : (act builds s (.pin camera node)).rows.get? c =
        (s.rows.assign camera node .pending).get? c := rfl
    rw [hget, Assignments.get?_assign] at hsome
    split at hsome
    · next h => simp [places, h]
    · rw [hnone] at hsome; cases hsome
  | report node batch epochMap now =>
    refine hsame _ ?_
    rw [issue_get?, issue_get?, issues_report]

end Detect

/-! ## The log -/

section
variable {before after : Assignments} {log : List Issue}

/-- The new entries of the log: the rows that are another assignment than before. -/
theorem mem_newIssues {i : Issue} :
    i ∈ newIssues before after ↔
      ∃ b ∈ after, b.issue = i ∧ (before.get? b.cameraId).map Assignment.issue ≠ some b.issue := by
  simp only [newIssues, List.mem_map, List.mem_filter, bne_iff_ne, Table.mem_rows]
  exact ⟨fun ⟨b, ⟨hb, hne⟩, hi⟩ => ⟨b, hb, hi, hne⟩, fun ⟨b, hb, hi, hne⟩ => ⟨b, ⟨hb, hne⟩, hi⟩⟩

/-- The new entries are about different cameras. -/
theorem nodup_newIssues : ((newIssues before after).map Issue.cameraId).Nodup := by
  rw [newIssues, List.map_map]
  exact (List.filter_sublist.map Assignment.cameraId).nodup after.nodup

/-- The latest entry about a camera is the new one, if there is one. -/
theorem find?_newIssues {b : Assignment} (hb : b ∈ after) :
    (newIssues before after ++ log).find? (fun i => i.cameraId == b.cameraId) =
      if (before.get? b.cameraId).map Assignment.issue ≠ some b.issue then some b.issue
      else log.find? (fun i => i.cameraId == b.cameraId) := by
  have huniq : ∀ i ∈ newIssues before after, i.cameraId = b.cameraId → i = b.issue ∧
      (before.get? b.cameraId).map Assignment.issue ≠ some b.issue := by
    intro i hi hc
    obtain ⟨b', hb', rfl, hne⟩ := mem_newIssues.1 hi
    have : b' = b := Table.eq_of_key_eq hb' hb hc
    subst this
    exact ⟨rfl, hne⟩
  rw [List.find?_append]
  split
  · next hne =>
    cases hf : (newIssues before after).find? fun i => i.cameraId == b.cameraId with
    | none =>
      exact absurd (List.find?_eq_none.1 hf b.issue (mem_newIssues.2 ⟨b, hb, rfl, hne⟩))
        (by simp [Assignment.issue])
    | some i =>
      have hi := huniq i (List.mem_of_find?_eq_some hf) (by simpa using List.find?_some hf)
      rw [hi.1]
      rfl
  · next heq =>
    rw [List.find?_eq_none.2 fun i hi hc => heq (huniq i hi (by simpa using hc)).2]
    rfl

end

namespace Detect

/-- The assignment a log entry stands for. -/
def key (i : Issue) : Nat × Nat := (i.cameraId, i.epoch)

/-- The invariant of the log. -/
structure EpochsOk (s : Detect) : Prop where
  /-- The epochs handed out for a camera do not repeat. -/
  fresh : (s.issued.map key).Nodup
  /-- The row of a camera is its latest assignment. -/
  latest : ∀ a ∈ s.sched.rows,
    s.issued.find? (fun i => i.cameraId == a.cameraId) = some a.issue
  /-- No assignment of a camera had a larger epoch than its row. -/
  bound : ∀ a ∈ s.sched.rows, ∀ i ∈ s.issued, i.cameraId = a.cameraId → i.epoch ≤ a.epoch

/-- Before anything happened the log holds the assignments in the table. -/
def Starts (s : Detect) : Prop := s.issued = s.sched.rows.rows.map Assignment.issue

/-- The action gives no node to a camera that has no row but had one before. -/
def admitted (s : Detect) (a : DetectAct) : Bool :=
  s.issued.all fun i => !places s.sched a i.cameraId || (s.sched.rows.get? i.cameraId).isSome

theorem Starts.ok {s : Detect} (h : Starts s) : EpochsOk s where
  fresh := by
    rw [h, List.map_map]
    refine List.Nodup.of_map Prod.fst ?_
    rw [List.map_map]
    exact s.sched.rows.nodup
  latest := by
    intro a ha
    rw [h, List.find?_map]
    have hg := Table.get?_eq_some.2 ⟨ha, rfl⟩
    unfold Table.get? at hg
    exact congrArg (Option.map Assignment.issue) hg
  bound := by
    intro a ha i hi hc
    rw [h] at hi
    obtain ⟨b, hb, rfl⟩ := List.mem_map.1 hi
    rw [Table.eq_of_key_eq hb ha hc]
    exact le_refl _

section
variable {builds : Json → Bool} {s : Detect} {a : DetectAct}

/-- An assignment that an admitted action hands out has a larger epoch than all earlier assignments
of its camera. -/
theorem EpochsOk.epoch_lt (h : EpochsOk s) (hok : admitted s a = true) {b : Assignment}
    (hb : b ∈ (act builds s.sched a).rows)
    (hnew : (s.sched.rows.get? b.cameraId).map Assignment.issue ≠ some b.issue) {i : Issue}
    (hi : i ∈ s.issued) (hc : i.cameraId = b.cameraId) : i.epoch < b.epoch := by
  obtain ⟨hmove, hplaces⟩ := act_move builds s.sched a b.cameraId
  rw [Table.get?_eq_some.2 ⟨hb, rfl⟩] at hmove hplaces
  cases hold : s.sched.rows.get? b.cameraId with
  | none =>
    -- the row is created, so the guard says that the camera is not in the log
    have hp := hplaces hold rfl
    have hadm := List.all_eq_true.1 hok i hi
    rw [hc, hp, hold] at hadm
    cases hadm
  | some old =>
    obtain ⟨hmem, hkey⟩ := Table.get?_eq_some.1 hold
    rw [hold] at hmove hnew
    cases hmove with
    | same hsame => exact absurd (congrArg some hsame.symm) hnew
    | moved hepoch =>
      have := h.bound old hmem i hi (hc.trans hkey.symm)
      omega

/-- No assignment of a camera had a larger epoch than the row an action leaves. -/
theorem EpochsOk.epoch_le (h : EpochsOk s) (hok : admitted s a = true) {b : Assignment}
    (hb : b ∈ (act builds s.sched a).rows) {i : Issue} (hi : i ∈ s.issued)
    (hc : i.cameraId = b.cameraId) : i.epoch ≤ b.epoch := by
  by_cases hnew : (s.sched.rows.get? b.cameraId).map Assignment.issue = some b.issue
  · obtain ⟨old, hold, hissue⟩ := Option.map_eq_some_iff.1 hnew
    obtain ⟨hmem, hkey⟩ := Table.get?_eq_some.1 hold
    have hle := h.bound old hmem i hi (hc.trans hkey.symm)
    have hepoch : old.epoch = b.epoch := congrArg Issue.epoch hissue
    omega
  · exact (h.epoch_lt hok hb hnew hi hc).le

/-- An admitted action keeps the invariant. -/
theorem EpochsOk.step (h : EpochsOk s) (hok : admitted s a = true) :
    EpochsOk (Detect.step builds s a) where
  fresh := by
    show ((newIssues _ _ ++ s.issued).map key).Nodup
    rw [List.map_append, List.nodup_append]
    refine ⟨?_, h.fresh, ?_⟩
    · refine List.Nodup.of_map Prod.fst ?_
      rw [List.map_map]
      exact nodup_newIssues
    · intro k hk k' hk' hkk
      obtain ⟨i, hi, rfl⟩ := List.mem_map.1 hk
      obtain ⟨j, hj, rfl⟩ := List.mem_map.1 hk'
      obtain ⟨b, hb, rfl, hne⟩ := mem_newIssues.1 hi
      rw [key, key, Prod.mk.injEq] at hkk
      exact absurd hkk.2 (h.epoch_lt hok hb hne hj hkk.1.symm).ne'
  latest := by
    intro b hb
    refine (find?_newIssues hb).trans ?_
    split
    · rfl
    · next hsame =>
      rw [not_not] at hsame
      obtain ⟨old, hold, hissue⟩ := Option.map_eq_some_iff.1 hsame
      obtain ⟨hmem, hkey⟩ := Table.get?_eq_some.1 hold
      rw [← hkey, h.latest old hmem, hissue]
  bound := by
    intro b hb i hi hc
    rcases List.mem_append.1 hi with hi | hi
    · obtain ⟨b', hb', rfl, -⟩ := mem_newIssues.1 hi
      rw [Table.eq_of_key_eq hb' hb hc]
      exact le_refl _
    · exact h.epoch_le hok hb hi hc

end

/-! ## Reports -/

/-- The report names the camera and the epoch of the assignment. -/
structure Carries (rep epochMap : Json) (i : Issue) : Prop where
  camera : ∃ c, rep.get? "camera_id" = some c ∧ c.toInt? = some (i.cameraId : Int)
  epoch : ∃ e, repEpoch rep epochMap i.cameraId = some e ∧ e.toInt? = some (i.epoch : Int)

/-- A report that passes the check carries the epoch of the row of its camera. -/
theorem validate_accepts {rows : Assignments} {node : Nat} {epochMap rep : Json} {i : Issue}
    (h : validate rows node epochMap rep = some none) (hc : Carries rep epochMap i) :
    ∃ a ∈ rows, a.cameraId = i.cameraId ∧ a.epoch = i.epoch := by
  obtain ⟨⟨c, hcam, hint⟩, e, hepoch, heint⟩ := hc
  obtain ⟨c', hcam', h⟩ := Option.bind_eq_some_iff.1 h
  obtain rfl : c' = c := Option.some.inj (hcam'.symm.trans hcam)
  split at h
  · simp only [hint, validateFor] at h
    split at h
    · cases h
    · next a ha =>
      unfold Assignments.getForCamera at ha
      rw [if_neg (by omega), Int.toNat_natCast] at ha
      obtain ⟨hmem, hkey⟩ := Table.get?_eq_some.1 ha
      split at h
      · cases h
      · obtain ⟨e', hepoch', h⟩ := Option.bind_eq_some_iff.1 h
        obtain rfl : e' = e := Option.some.inj (hepoch'.symm.trans hepoch)
        obtain ⟨current, hcur, h⟩ := Option.bind_eq_some_iff.1 h
        have hnull : e' ≠ .null := by rintro rfl; cases heint
        rw [epochMatches, if_neg hnull, heint, Option.map_some, Option.some.injEq] at hcur
        cases current with
        | false => cases h
        | true => exact ⟨a, hmem, hkey, by have := eq_of_beq hcur; omega⟩
  · cases h

/-- The accepted reports of a batch passed the check. -/
theorem ingestLoop_accepted {builds : Json → Bool} {rows : Assignments} {node : Nat}
    {epochMap : Json} {l : List (Json × Nat)} {r : IngestResult}
    (h : ingestLoop builds rows node epochMap l = some r) :
    ∀ rep ∈ r.accepted, validate rows node epochMap rep = some none := by
  induction l generalizing r with
  | nil => cases h; intro rep hrep; cases hrep
  | cons x l ih =>
    obtain ⟨reason, hval, h⟩ := Option.bind_eq_some_iff.1 h
    obtain ⟨rest, hrest, h⟩ := Option.bind_eq_some_iff.1 h
    cases reason with
    | some reason =>
      have hacc := ih hrest
      cases h
      exact hacc
    | none =>
      have hacc := ih hrest
      simp only at h
      split at h
      · cases h
        intro rep hrep
        rcases List.mem_cons.1 hrep with rfl | hrep
        · exact hval
        · exact hacc rep hrep
      · cases h; exact hacc

/-- The epochs handed out for a camera do not repeat. -/
def NeverRepeats (s : Detect) : Prop := (s.issued.map key).Nodup

/-- No report that carries the camera and the epoch of an assignment that has been superseded or
removed is accepted, whichever node posts it in whichever batch. -/
def RejectsStale (builds : Json → Bool) (s : Detect) : Prop :=
  ∀ newer i older, s.issued = newer ++ i :: older →
    ((∃ j ∈ newer, j.cameraId = i.cameraId) ∨ s.sched.rows.get? i.cameraId = none) →
    ∀ node batch epochMap now r,
      (ingestBatch builds s.sched.rows node batch epochMap now).map Prod.snd = some r →
      ∀ rep ∈ r.accepted, ¬ Carries rep (epochMap.or .empty) i

/-- The invariant makes the ingestion reject stale reports. -/
theorem EpochsOk.rejectsStale {builds : Json → Bool} {s : Detect} (h : EpochsOk s) :
    RejectsStale builds s := by
  intro newer i older hlog hstale node batch epochMap now r hr rep hrep hcarries
  obtain ⟨res, hres, rfl⟩ := Option.map_eq_some_iff.1 hr
  obtain ⟨r, hloop, hr⟩ := Option.bind_eq_some_iff.1 hres
  cases hr
  obtain ⟨a, ha, hcam, hepoch⟩ :=
    validate_accepts (ingestLoop_accepted hloop rep hrep) hcarries
  rcases hstale with ⟨j, hj, hjc⟩ | hnone
  · -- the row is the latest assignment, which is another entry of the log with the same epoch
    have hlatest := h.latest a ha
    rw [hlog, List.find?_append] at hlatest
    cases hf : newer.find? fun i => i.cameraId == a.cameraId with
    | none => exact absurd (hjc.trans hcam.symm) (by simpa using List.find?_eq_none.1 hf j hj)
    | some k =>
      rw [hf, Option.some_or, Option.some.injEq] at hlatest
      have hfresh := h.fresh
      rw [hlog, List.map_append, List.map_cons, List.nodup_append] at hfresh
      refine hfresh.2.2 (key k) (List.mem_map_of_mem (List.mem_of_find?_eq_some hf)) (key i)
        (.head _) ?_
      rw [hlatest, key, key, Assignment.issue, hcam, hepoch]
  · exact Table.get?_eq_none.1 hnone a ha hcam

/-- **Stale reports are rejected while no row is created again.** In every run of edits, rebalances,
reassignments, pins and batches of reports, in any order and however late the reports come, in which
no camera that lost its row is given a node again, the epochs handed out for a camera do not repeat
and no report of a superseded or removed assignment is accepted. -/
theorem stale_reports_rejected {builds : Json → Bool} {s t : Detect} {as : List DetectAct}
    (hs : Starts s) (h : Run (step builds) (fun s a => admitted s a = true) s as t) :
    NeverRepeats t ∧ RejectsStale builds t := by
  have hok : EpochsOk t := h.invariant (fun _ _ hi ha => hi.step ha) hs.ok
  exact ⟨hok.fresh, hok.rejectsStale⟩

namespace Fixture

/-- One camera and one online node, nothing assigned yet. -/
def start : Detect where
  sched :=
    { cameras := ⟨[⟨1, "c", "lobby", true, none⟩], List.nodup_singleton _⟩
      settings := []
      nodes := ⟨[⟨10, .online, true, false, 4, 0, none⟩], List.nodup_singleton _⟩
      rows := ∅
      store := ⟨none, true⟩ }
  issued := []

/-- A second node comes up, and the first one goes offline. -/
def failover : DetectAct :=
  .configure start.sched.cameras []
    ⟨[⟨10, .offline, true, false, 2, 0, none⟩, ⟨11, .online, true, false, 2, 0, none⟩], by decide⟩

/-- Detection is switched off for the camera, and on again. -/
def disable : DetectAct := .configure start.sched.cameras [⟨some 1, false⟩] start.sched.nodes
def enable : DetectAct := .configure start.sched.cameras [] start.sched.nodes

/-- A report of camera 1 in epoch 1. -/
def report : Json :=
  .obj [("bbox", .arr [.num 0, .num 0, .num 1, .num 1]), ("camera_id", .num 1), ("epoch", .num 1),
    ("label", .str "person")]

def builds (rep : Json) : Bool := rep.get? "label" = some (.str "person")

end Fixture

/-- The camera moves from a lost node to another one: the report of its first assignment is
rejected. -/
theorem stale_reports_rejected_failover :
    let t := [.rebalance, Fixture.failover, .rebalance].foldl (step Fixture.builds) Fixture.start
    Run (step Fixture.builds) (fun s a => admitted s a = true) Fixture.start
      [.rebalance, Fixture.failover, .rebalance] t ∧
    t.issued = [⟨1, 11, 2⟩, ⟨1, 10, 1⟩] ∧ NeverRepeats t ∧ RejectsStale Fixture.builds t :=
  have hrun : Run (step Fixture.builds) (fun s a => admitted s a = true) Fixture.start
      [.rebalance, Fixture.failover, .rebalance] _ := Run.of_admits (by decide)
  ⟨hrun, by decide, stale_reports_rejected (show Starts Fixture.start from rfl) hrun⟩

/-- A row that is created again starts at epoch `1` again: detection is switched off and on for a
camera, and the report that its node made before is accepted for the new assignment. -/
theorem epoch_repeats_after_removal :
    let t := [.rebalance, Fixture.disable, .rebalance, Fixture.enable, .rebalance].foldl
      (step Fixture.builds) Fixture.start
    Starts Fixture.start ∧ t.issued = [⟨1, 10, 1⟩, ⟨1, 10, 1⟩] ∧ ¬ NeverRepeats t ∧
      ¬ RejectsStale Fixture.builds t := by
  refine ⟨rfl, by decide, by unfold NeverRepeats; decide, fun h => ?_⟩
  exact h [⟨1, 10, 1⟩] ⟨1, 10, 1⟩ [] (by decide) (.inl ⟨_, .head _, rfl⟩) 10 [Fixture.report] .null
    0 ⟨[], [Fixture.report]⟩ (by decide) Fixture.report (.head _)
    ⟨⟨.num 1, rfl, rfl⟩, .num 1, rfl, rfl⟩

end Detect

end AeroXProtect
