import AeroXProtect.Update.Run

/-!
# Failures of the update run

What the rollback does to the services and the junction. A failure before the app tier is stopped
goes through the same rollback as the later ones, which stops and starts the app tier and makes the
junction again: the machine is as it was only if no app-tier service was running
(`early_failure_iff`).
-/

open Lib

namespace AeroXProtect

namespace Launcher

section
variable {Db Archive : Type}

namespace Machine

/-! ## Stopping and starting -/

variable (c : Calls) (m : Machine Db)

/-- Nothing is stopped where nothing runs. -/
theorem stopAll_of_none (h : ∀ name ∈ appTier, m.procs name = none) : m.stopAll c = (m, true) := by
  have hrun : ∀ l : List String, (∀ name ∈ l, m.procs name = none) →
      Script.run (stopChild c) l m = (m, true) := by
    intro l hl
    induction l with
    | nil => rfl
    | cons name l ih =>
      have hs : stopChild c name m = (m, true) := by rw [stopChild, hl name (.head _)]
      rw [Script.run_cons hs, ih fun n hn => hl n (.tail _ hn)]
  exact hrun _ fun name hn => h name (List.mem_reverse.1 hn)

/-- A stop leaves a service that has no process without one. -/
theorem stopChild_none {name other : String} {m : Machine Db} (h : m.procs other = none) :
    (stopChild c name m).1.procs other = none := by
  unfold stopChild
  split
  · exact h
  · simp [stopped, h]

/-- Where a service runs, a running service is stopped. -/
theorem stopAll_stops {name : String} (hname : name ∈ appTier) (h : m.procs name ≠ none) :
    ∃ n p, m.procs n = some p ∧ (m.stopAll c).1.procs n = none := by
  have hrun : ∀ l : List String, name ∈ l →
      ∃ n p, m.procs n = some p ∧ (Script.run (stopChild c) l m).1.procs n = none := by
    intro l hl
    induction l with
    | nil => cases hl
    | cons n l ih =>
      cases hp : m.procs n with
      | none =>
        have hs : stopChild c n m = (m, true) := by rw [stopChild, hp]
        rw [Script.run_cons hs]
        refine ih ((List.mem_cons.1 hl).resolve_left ?_)
        rintro rfl
        exact h hp
      | some p =>
        -- the first service that runs is stopped, and stays so
        have hstop : (stopChild c n m).1.procs n = none := by simp [stopChild, hp, stopped]
        refine ⟨n, p, hp, ?_⟩
        rw [Script.run]
        split
        · next m' hs =>
          rw [hs] at hstop
          exact Script.run_invariant (I := fun s : Machine Db => s.procs n = none)
            (fun _ _ _ => stopChild_none c) hstop
        · next m' hs => rwa [hs] at hstop
  exact hrun _ (List.mem_reverse.2 hname)

theorem nextProc_stopAll : (m.stopAll c).1.nextProc = m.nextProc := by
  refine Script.run_invariant (I := fun s : Machine Db => s.nextProc = m.nextProc)
    (fun name _ s hs => ?_) rfl
  unfold stopChild
  split <;> exact hs

/-- What a start leaves as a service's process was there before, or is new. -/
theorem procs_startAppTier (name : String) :
    ∀ p, (m.startAppTier c).1.procs name = some p → m.procs name = some p ∨ m.nextProc ≤ p := by
  have hinv : m.nextProc ≤ (m.startAppTier c).1.nextProc ∧
      ∀ p, (m.startAppTier c).1.procs name = some p → m.procs name = some p ∨ m.nextProc ≤ p := by
    refine Script.run_invariant (I := fun s : Machine Db => m.nextProc ≤ s.nextProc ∧
      ∀ p, s.procs name = some p → m.procs name = some p ∨ m.nextProc ≤ p)
      (fun n _ s hs => ?_) ⟨Nat.le_refl _, fun _ => .inl⟩
    unfold startAndWait
    split
    · exact hs
    · split
      · refine ⟨Nat.le_succ_of_le hs.1, fun p hp => ?_⟩
        simp only [spawned] at hp
        split at hp
        · cases hp
          exact .inr hs.1
        · exact hs.2 p hp
      · refine ⟨hs.1, fun p hp => ?_⟩
        simp only [stopped] at hp
        split at hp
        · cases hp
        · exact hs.2 p hp
  exact hinv.2

/-- A start leaves the other services alone. -/
theorem procs_startAppTier_of_not_mem {name : String} (h : name ∉ appTier) :
    (m.startAppTier c).1.procs name = m.procs name := by
  refine Script.run_invariant (I := fun s : Machine Db => s.procs name = m.procs name)
    (fun n hn s hs => ?_) rfl
  have hne : name ≠ n := fun he => h (he ▸ hn)
  unfold startAndWait
  split
  · exact hs
  · split <;> simpa [spawned, stopped, hne] using hs

/-! ## The junction -/

/-- A swap that succeeds points the junction at the tree and changes nothing else. -/
theorem swapJunction_ok {dir : String} {m m' : Machine Db}
    (h : m.swapJunction c dir = (m', true)) : m' = { m with junction := some dir } := by
  unfold swapJunction at h
  split at h
  · split at h <;> cases h
    rfl
  · split at h
    · cases h
    · split at h
      · cases h
      · split at h <;> cases h
        rfl

/-- The junction after a swap is the one before. -/
def swapKeeps (c : Calls) (dir : String) (m : Machine Db) : Bool :=
  match m.junction with
  | none => c.linkFails
  | some d => (m.tree d).isNone || c.removeFails || (!c.linkFails && d == dir)

theorem swapKeeps_iff (dir : String) :
    (m.swapJunction c dir).1.junction = m.junction ↔ swapKeeps c dir m = true := by
  unfold swapJunction swapKeeps
  cases hj : m.junction with
  | none => cases c.linkFails <;> simp [hj]
  | some d =>
    dsimp only
    cases hgone : (m.tree d).isNone with
    | true => simp [hj]
    | false =>
      rw [if_neg Bool.false_ne_true]
      cases c.removeFails with
      | true => simp [hj]
      | false =>
        cases c.linkFails with
        | true => simp
        | false => simpa using eq_comm

end Machine

/-! ## The rollback -/

section
variable (env : UpdateEnv Db Archive) (u : Update Db Archive)

/-- The machine after the rollback has treated the junction. -/
def rejoined (m : Machine Db) : Machine Db × Bool :=
  if repoints u then m.swapJunction env.back (prevDir u) else (m, true)

theorem rejoined_frame (m : Machine Db) :
    (rejoined env u m).1.procs = m.procs ∧ (rejoined env u m).1.tree = m.tree ∧
      (rejoined env u m).1.db = m.db ∧ (rejoined env u m).1.nextProc = m.nextProc := by
  unfold rejoined
  split
  · exact m.swapJunction_frame env.back _
  · exact ⟨rfl, rfl, rfl, rfl⟩

/-- The ways a rollback ends: the stop raises, the swap raises, or the app tier is started. -/
theorem rollback_cases :
    ((u.machine.stopAll env.back).2 = false ∧
        rollback env u = ((u.machine.stopAll env.back).1, none)) ∨
    ∃ m, u.machine.stopAll env.back = (m, true) ∧
      ((rejoined env u m).2 = false ∧ rollback env u = ((rejoined env u m).1, none) ∨
        ∃ m', rejoined env u m = (m', true) ∧
          let r := restore env (if u.dbChanged then u.dump else none) m'.db
          rollback env u =
            (({ m' with db := r.1 }.startAppTier env.back).1, some ⟨m'.junction, r.2⟩)) := by
  unfold rollback
  cases hstop : u.machine.stopAll env.back with
  | mk m ok =>
    cases ok with
    | false => exact .inl ⟨rfl, rfl⟩
    | true =>
      refine .inr ⟨m, rfl, ?_⟩
      show (rejoined env u m).2 = false ∧ _ ∨ _
      cases hre : rejoined env u m with
      | mk m' ok' =>
        have hre' : (if repoints u then m.swapJunction env.back (prevDir u) else (m, true)) =
          (m', ok') := hre
        cases ok' with
        | false => exact .inl ⟨rfl, by simp only [hre']⟩
        | true => exact .inr ⟨m', rfl, by simp only [hre']⟩

/-- A service whose process was stopped has another one, or none, after the rollback. -/
theorem rollback_procs {name : String} {p : Nat} (h : (rollback env u).1.procs name = some p)
    (hp : p < u.machine.nextProc) : (u.machine.stopAll env.back).1.procs name = some p := by
  rcases rollback_cases env u with ⟨-, hr⟩ | ⟨m, hstop, hrest⟩
  · rwa [hr] at h
  · have hnext := u.machine.nextProc_stopAll env.back
    rw [hstop] at hnext ⊢
    rcases hrest with ⟨-, hr⟩ | ⟨m', hre, hr⟩
    · rw [hr, (rejoined_frame env u m).1] at h
      exact h
    · obtain ⟨hprocs, -, -, hn⟩ := rejoined_frame env u m
      rw [hre] at hprocs hn
      rw [hr] at h
      rcases Machine.procs_startAppTier _ _ name p h with h | h
      · exact hprocs ▸ h
      · have hle : m'.nextProc ≤ p := h
        rw [hn, hnext] at hle
        omega

/-- A rollback that stops nothing leaves the services outside the app tier alone, and the junction
where the swap leaves it. -/
theorem rollback_frame (hnone : ∀ name ∈ appTier, u.machine.procs name = none) :
    (∀ name, name ∉ appTier → (rollback env u).1.procs name = u.machine.procs name) ∧
      (rollback env u).1.junction = (rejoined env u u.machine).1.junction := by
  have hstop := u.machine.stopAll_of_none env.back hnone
  have hframe := rejoined_frame env u u.machine
  rcases rollback_cases env u with ⟨hfail, -⟩ | ⟨m, hm, hrest⟩
  · rw [hstop] at hfail
    cases hfail
  · rw [hstop] at hm
    obtain rfl : u.machine = m := congrArg Prod.fst hm
    rcases hrest with ⟨-, hr⟩ | ⟨m', hre, hr⟩
    · rw [hr]
      exact ⟨fun name _ => by rw [hframe.1], rfl⟩
    · rw [hre] at hframe ⊢
      rw [hr]
      refine ⟨fun name hname => ?_, ?_⟩
      · rw [Machine.procs_startAppTier_of_not_mem _ _ hname]
        exact congrFun hframe.1 name
      · exact (Machine.sameStore_startAppTier _ _).junction

/-- Without a change of the database the rollback leaves it alone. -/
theorem rollback_db (h : u.dbChanged = false) : (rollback env u).1.db = u.machine.db := by
  have hdb := (u.machine.sameStore_stopAll env.back).db
  rcases rollback_cases env u with ⟨-, hr⟩ | ⟨m, hm, hrest⟩
  · rw [hr, hdb]
  · have hframe := (rejoined_frame env u m).2.2.1
    rw [hm] at hdb
    rcases hrest with ⟨-, hr⟩ | ⟨m', hre, hr⟩
    · rw [hr, hframe, hdb]
    · rw [hre] at hframe
      rw [hr, (Machine.sameStore_startAppTier _ _).db]
      simp only [h, restore]
      exact hframe.trans hdb

end

/-! ## Failures before the app tier is stopped -/

/-- The running services have their processes, and the junction and the database are as they
were. -/
def Untouched (m m' : Machine Db) : Prop :=
  (∀ name p, m.procs name = some p → m'.procs name = some p) ∧
    m'.junction = m.junction ∧ m'.db = m.db

section
variable (env : UpdateEnv Db Archive)

/-- What `self.state['to']` says when the run has looked for the release. -/
def reportedTo (stateTo : Option String) : Option String :=
  match chosenRelease env with
  | none => stateTo
  | some rel => some (lstripV rel.tagName)

/-- The rollback leaves the junction where it is: it does not point it at the previous version's
tree, or it points there already. -/
def junctionKept (m : Machine Db) (stateTo : Option String) : Bool :=
  let dir := lstripV m.currentVersion
  !(dir != lstripV ((reportedTo env stateTo).getD "") && versionDirUsable (m.tree dir)) ||
    m.swapKeeps env.back dir

theorem stateTo_early (m : Machine Db) (stateTo : Option String) :
    (Script.run (exec env) earlySteps (Update.start m stateTo)).1.stateTo =
      reportedTo env stateTo := by
  have hsteps : earlySteps = .checking :: earlySteps.drop 1 := rfl
  unfold reportedTo
  rw [hsteps]
  cases hrel : chosenRelease env with
  | none =>
    have hc : exec env .checking (Update.start m stateTo) = (Update.start m stateTo, false) := by
      simp only [exec, hrel]
    rw [Script.run_cons_fails hc]
    rfl
  | some rel =>
    obtain ⟨u, hc, hto⟩ : ∃ u, exec env .checking (Update.start m stateTo) = (u, true) ∧
        u.stateTo = some (lstripV rel.tagName) := by
      simp only [exec, hrel]
      exact ⟨_, rfl, rfl⟩
    rw [Script.run_cons hc]
    refine Script.run_invariant
      (I := fun v : Update Db Archive => v.stateTo = some (lstripV rel.tagName))
      (fun s hs v hv => ?_) hto
    exact ((exec_frame env s v).target (by rintro rfl; revert hs; decide)).1.trans hv

/-- The early steps leave the machine as it is. -/
theorem machine_early (m : Machine Db) (stateTo : Option String) :
    let u := (Script.run (exec env) earlySteps (Update.start m stateTo)).1
    u.machine = m ∧ u.prev = m.currentVersion ∧ u.dbChanged = false := by
  refine Script.run_invariant
    (I := fun v : Update Db Archive =>
      v.machine = m ∧ v.prev = m.currentVersion ∧ v.dbChanged = false)
    (fun s hs v hv => ?_) ⟨rfl, rfl, rfl⟩
  have hframe := exec_frame env s v
  refine ⟨(hframe.machine hs).trans hv.1, hframe.prev.trans hv.2.1, ?_⟩
  exact (hframe.dbChanged (by rintro rfl; revert hs; decide)).trans hv.2.2

/-- A rollback without a change of the database touches nothing exactly when it has nothing to stop
and leaves the junction where it is. -/
theorem rollback_untouched_iff {u : Update Db Archive} (hchanged : u.dbChanged = false) :
    Untouched u.machine (rollback env u).1 ↔ (∀ name ∈ appTier, u.machine.procs name = none) ∧
      (rejoined env u u.machine).1.junction = u.machine.junction := by
  constructor
  · rintro ⟨hprocs, hjunction, -⟩
    have hnone : ∀ name ∈ appTier, u.machine.procs name = none := by
      intro name hname
      by_contra hne
      obtain ⟨n, p, hp, hstop⟩ := Machine.stopAll_stops env.back u.machine hname hne
      have hsame := rollback_procs env u (hprocs n p hp) (u.machine.fresh n p hp)
      rw [hstop] at hsame
      cases hsame
    refine ⟨hnone, ?_⟩
    rw [← (rollback_frame env u hnone).2, hjunction]
  · rintro ⟨hnone, hkept⟩
    obtain ⟨hprocs, hjunction⟩ := rollback_frame env u hnone
    refine ⟨fun name p hp => ?_, hjunction.trans hkept, rollback_db env u hchanged⟩
    have hname : name ∉ appTier := by
      intro hname
      rw [hnone name hname] at hp
      cases hp
    exact (hprocs name hname).trans hp

/-- When the rollback after an early failure leaves the junction where it is. -/
theorem rejoined_kept_iff {u : Update Db Archive} {stateTo : Option String}
    (hprev : u.prev = u.machine.currentVersion) (hto : u.stateTo = reportedTo env stateTo) :
    (rejoined env u u.machine).1.junction = u.machine.junction ↔
      junctionKept env u.machine stateTo = true := by
  have hre : repoints u = (lstripV u.machine.currentVersion !=
      lstripV ((reportedTo env stateTo).getD "") &&
      versionDirUsable (u.machine.tree (lstripV u.machine.currentVersion))) := by
    rw [repoints, prevDir, targetDir, hprev, hto]
  unfold rejoined junctionKept
  dsimp only
  rw [← hre]
  cases repoints u with
  | false => simp
  | true =>
    rw [prevDir, hprev]
    simpa using Machine.swapKeeps_iff env.back u.machine _

/-- **An early failure touches the services.** For every failure before the app tier is stopped, on
every machine: the running services, the junction and the database are as they were exactly when no
service of the app tier was running, and the rollback leaves the junction where it is. -/
theorem early_failure_iff {m : Machine Db} {stateTo : Option String}
    (hfail : (Script.run (exec env) earlySteps (Update.start m stateTo)).2 = false) :
    Untouched m (run env m stateTo).1 ↔
      (∀ name ∈ appTier, m.procs name = none) ∧ junctionKept env m stateTo = true := by
  obtain ⟨hmachine, hprev, hchanged⟩ := machine_early env m stateTo
  have hto := stateTo_early env m stateTo
  have hrun : run env m stateTo =
      rollback env (Script.run (exec env) earlySteps (Update.start m stateTo)).1 := by
    unfold run steps
    rw [Script.run_append_fails hfail]
    cases hr : Script.run (exec env) earlySteps (Update.start m stateTo) with
    | mk u ok =>
      rw [hr] at hfail
      cases hfail
      rfl
  rw [hrun]
  generalize (Script.run (exec env) earlySteps (Update.start m stateTo)).1 = u at *
  subst hmachine
  rw [rollback_untouched_iff env hchanged, rejoined_kept_iff env hprev hto]

end

/-- A failed download on a machine where only the infrastructure runs changes nothing. -/
theorem early_failure_idle :
    let env := { Fixture.env with download := fun _ => none }
    let m := Fixture.machine.stopped "backend"
    (Script.run (exec env) earlySteps (Update.start m none)).2 = false ∧
      Untouched m (run env m none).1 :=
  ⟨by decide, (early_failure_iff { Fixture.env with download := fun _ => none } (by decide)).2
    ⟨by decide, by decide⟩⟩

/-- A failed download restarts the backend: process 0 is replaced by another one. -/
theorem early_failure_restarts :
    let env := { Fixture.env with download := fun _ => none }
    (Script.run (exec env) earlySteps (Update.start Fixture.machine none)).2 = false ∧
      Fixture.machine.procs "backend" = some 0 ∧
      (run env Fixture.machine none).1.procs "backend" = some 2 ∧
      ¬ Untouched Fixture.machine (run env Fixture.machine none).1 :=
  ⟨by decide, by decide, by decide, fun h => by
    have hp := h.1 "backend" 0 (by decide)
    revert hp
    decide⟩

end

end Launcher

end AeroXProtect
