import Mathlib.Data.List.DropRight
import AeroXProtect.Update.Rollback

/-!
# Code and database after a rollback

After a migration the rollback decides by itself about the junction and about the database.
`Promoted` and `Failed` follow what the rollback looks at through the run, from the state in which
the new tree is in place to the step that fails; `restart_matches_iff` says when the two decisions
agree.
-/

open Lib

namespace AeroXProtect

namespace Launcher

section
variable {Db Archive : Type}

/-! ## Where the junction ends -/

/-- The database has been migrated, at least in part, when the step fails. -/
def migrated : Step → Bool
  | .migrating | .swapping | .seeding | .starting | .health | .finishing => true
  | _ => false

section
variable (env : UpdateEnv Db Archive)

/-- A failure in this step leaves the junction at the previous version's tree: it was there and is
not replaced yet, or could not be removed, or the new tree has the same name. -/
def leftOnPrevious (m : Machine Db) (target : String) (s : Step) : Bool :=
  let dir := lstripV m.currentVersion
  match s with
  | .migrating => m.junction == some dir
  | .swapping =>
    m.junction == some dir &&
      (env.forward.removeFails || m.junction.any fun d => d != target && (m.tree d).isNone)
  | _ => target == dir

/-- The junction is at the previous version's tree when the rollback starts the app tier again: the
rollback has pointed it there, or the failure has left it there. -/
def endsOnPrevious (m : Machine Db) (target : String) (s : Step) : Bool :=
  let dir := lstripV m.currentVersion
  (dir != target && versionDirUsable (m.tree dir)) || leftOnPrevious env m target s

/-- What the app tier is started with in a rollback after a migration that has a dump. -/
theorem rollback_restart {u : Update Db Archive} {r : Restart} (h : (rollback env u).2 = some r)
    (hchanged : u.dbChanged = true) (hdump : u.dump.isSome = true)
    (hexists : env.dumpExists = true) :
    r.restored = env.restoreOk ∧
      r.junction = if repoints u then some (prevDir u) else u.machine.junction := by
  rcases rollback_cases env u with ⟨-, hr⟩ | ⟨m, hm, ⟨-, hr⟩ | ⟨m', hre, hr⟩⟩
  · rw [hr] at h
    cases h
  · rw [hr] at h
    cases h
  · rw [hr] at h
    obtain rfl := Option.some.inj h
    obtain ⟨d, hd⟩ := Option.isSome_iff_exists.1 hdump
    refine ⟨?_, ?_⟩
    · simp only [hchanged, hd, restore, hexists, if_true]
      cases env.restoreOk <;> rfl
    · have hj := (u.machine.sameStore_stopAll env.back).junction
      rw [hm] at hj
      show m'.junction = _
      unfold rejoined at hre
      split at hre
      · next hre' => rw [if_pos hre', Machine.swapJunction_ok env.back hre]
      · next hre' =>
        obtain rfl : m = m' := congrArg Prod.fst hre
        rw [if_neg hre']
        exact hj

/-! ## The run up to the migration -/

/-- The state of a run whose app tier is stopped and whose new tree is in place: everything the
rollback looks at is as it was, but for the tree of the target. -/
structure Promoted (m : Machine Db) (rel : Release) (u : Update Db Archive) : Prop where
  prev : u.prev = m.currentVersion
  target : u.target = lstripV rel.tagName
  stateTo : u.stateTo = some (lstripV rel.tagName)
  dump : u.dump.isSome = true
  junction : u.machine.junction = m.junction
  tree : ∃ t : Tree, u.machine.tree =
    fun v => if v = lstripV rel.tagName then some t else m.tree v

/-- What the first step leaves when it does not fail. -/
theorem checking_ok {m : Machine Db} {stateTo : Option String} {u : Update Db Archive}
    (h : exec env .checking (Update.start m stateTo) = (u, true)) :
    ∃ rel, chosenRelease env = some rel ∧ u.target = lstripV rel.tagName ∧
      u.stateTo = some (lstripV rel.tagName) := by
  unfold exec at h
  cases hrel : chosenRelease env with
  | none =>
    rw [hrel] at h
    cases h
  | some rel =>
    rw [hrel] at h
    cases h
    exact ⟨rel, rfl, rfl, rfl⟩

/-- An extraction that does not fail leaves a tree. -/
theorem extracting_ok {u v : Update Db Archive} (h : exec env .extracting u = (v, true)) :
    v.tmp.isSome = true := by
  unfold exec at h
  dsimp only at h
  split at h
  · split at h
    · cases h
    · split at h
      · cases h
      · obtain rfl := congrArg Prod.fst h
        rfl
  · cases h

/-- A backup that does not fail leaves a dump, if dumps are made and this one succeeds. -/
theorem backupDb_ok {u v : Update Db Archive} (hon : env.backupOn = true)
    (hdump : env.dumpOk = true) (h : exec env .backupDb u = (v, true)) : v.dump.isSome = true := by
  unfold exec at h
  dsimp only at h
  rw [if_pos hon] at h
  split at h
  · obtain rfl := congrArg Prod.fst h
    rfl
  · cases h

/-- A tree that is put in place replaces the target's. -/
theorem promoting_ok {u v : Update Db Archive} (h : exec env .promoting u = (v, true)) :
    v.machine.tree = fun d => if d = u.target then u.tmp else u.machine.tree d := by
  unfold exec at h
  dsimp only at h
  split at h
  · cases h
  · split at h
    · obtain rfl := congrArg Prod.fst h
      rfl
    · cases h

/-- A run that gets to the migration has the new tree in place and everything else as it was. -/
theorem promoted_of_run {m : Machine Db} {stateTo : Option String} {u : Update Db Archive}
    (hon : env.backupOn = true) (hdump : env.dumpOk = true)
    (h : Script.run (exec env) (earlySteps ++ [.stoppingApp, .promoting])
      (Update.start m stateTo) = (u, true)) :
    ∃ rel, chosenRelease env = some rel ∧ Promoted m rel u := by
  obtain ⟨u₆, hearly, hlate⟩ := Script.run_of_append h
  have hmachine := machine_early env m stateTo
  rw [hearly] at hmachine
  obtain ⟨hm, hprev, -⟩ := hmachine
  obtain ⟨u₁, h₁, hrest⟩ := Script.run_of_cons hearly
  obtain ⟨u₂, h₂, hrest⟩ := Script.run_of_cons hrest
  obtain ⟨u₃, h₃, hrest⟩ := Script.run_of_cons hrest
  obtain ⟨u₄, h₄, hrest⟩ := Script.run_of_cons hrest
  obtain ⟨u₅, h₅, hrest⟩ := Script.run_of_cons hrest
  obtain ⟨u₆', h₆, hend⟩ := Script.run_of_cons hrest
  obtain rfl : u₆' = u₆ := congrArg Prod.fst hend
  obtain ⟨u₇, h₇, hrest⟩ := Script.run_of_cons hlate
  obtain ⟨u₈, h₈, hend⟩ := Script.run_of_cons hrest
  obtain rfl : u₈ = u := congrArg Prod.fst hend
  obtain ⟨rel, hrel, htarget, hto⟩ := checking_ok env h₁
  have hsame : ∀ {s : Step} {v w : Update Db Archive} {ok : Bool}, s ≠ .checking →
      exec env s v = (w, ok) → w.stateTo = v.stateTo ∧ w.target = v.target :=
    fun hs hv => (StepFrame.of_exec hv).target hs
  have hto₈ : u₈.stateTo = u₁.stateTo ∧ u₈.target = u₁.target := by
    simp only [hsame (by decide) h₈, hsame (by decide) h₇, hsame (by decide) h₆,
      hsame (by decide) h₅, hsame (by decide) h₄, hsame (by decide) h₃, hsame (by decide) h₂,
      and_self]
  have f₇ := StepFrame.of_exec h₇
  have f₈ := StepFrame.of_exec h₈
  have htmp : u₇.tmp.isSome = true := by
    rw [f₇.tmp (by decide) (by decide), (StepFrame.of_exec h₆).tmp (by decide) (by decide)]
    exact extracting_ok env h₅
  obtain ⟨t, ht⟩ := Option.isSome_iff_exists.1 htmp
  refine ⟨rel, hrel, ?_, hto₈.2.trans htarget, hto₈.1.trans hto, ?_, ?_, t, ?_⟩
  · rw [f₈.prev, f₇.prev, hprev]
  · rw [f₈.dump (by decide), f₇.dump (by decide)]
    exact backupDb_ok env hon hdump h₆
  · rw [f₈.junction (by decide), f₇.junction (by decide), hm]
  · have htarget₇ : u₇.target = lstripV rel.tagName := by
      rw [← (hsame (by decide) h₈).2, hto₈.2, htarget]
    rw [promoting_ok env h₈, ht, htarget₇, f₇.tree (by decide) (by decide), hm]

/-! ## The steps from the migration on -/

/-- Everything the rollback looks at is the same. -/
structure Kept (u v : Update Db Archive) : Prop where
  prev : v.prev = u.prev
  stateTo : v.stateTo = u.stateTo
  dump : v.dump = u.dump
  dbChanged : v.dbChanged = u.dbChanged
  junction : v.machine.junction = u.machine.junction
  tree : v.machine.tree = u.machine.tree

/-- The steps after the swap keep it, if the last one is not complete. -/
theorem kept_after_swap {u : Update Db Archive} {s : Step}
    (h : Script.failing (exec env) [.seeding, .starting, .health, .finishing] u = some s) :
    Kept u (Script.run (exec env) [.seeding, .starting, .health, .finishing] u).1 := by
  have hsplit : [Step.seeding, .starting, .health, .finishing] =
      [.seeding, .starting, .health] ++ [.finishing] := rfl
  have hkept : Kept u (Script.run (exec env) [.seeding, .starting, .health] u).1 := by
    refine Script.run_invariant (I := Kept u) (fun s hs v hv => ?_) ⟨rfl, rfl, rfl, rfl, rfl, rfl⟩
    have hframe := exec_frame env s v
    have hne : s ≠ .checking ∧ s ≠ .backupDb ∧ s ≠ .migrating ∧ s ≠ .swapping ∧
        s ≠ .promoting ∧ s ≠ .finishing := by
      refine ⟨?_, ?_, ?_, ?_, ?_, ?_⟩ <;> rintro rfl <;> revert hs <;> decide
    obtain ⟨h₁, h₂, h₃, h₄, h₅, h₆⟩ := hne
    exact ⟨hframe.prev.trans hv.prev, (hframe.target h₁).1.trans hv.stateTo,
      (hframe.dump h₂).trans hv.dump, (hframe.dbChanged h₃).trans hv.dbChanged,
      (hframe.junction h₄).trans hv.junction, (hframe.tree h₅ h₆).trans hv.tree⟩
  rw [hsplit] at h ⊢
  rcases Script.failing_append h with hf | ⟨v, hrun, hf⟩
  · rwa [Script.run_append_fails (Script.run_of_failing hf)]
  · rw [hrun] at hkept
    rw [Script.run_append hrun]
    have hlast : exec env .finishing v = (v, false) := by
      rw [Script.failing] at hf
      split at hf
      · cases hf
      · next w hw =>
        unfold exec at hw ⊢
        dsimp only at hw ⊢
        split at hw
        · cases hw
        · next hno => rw [if_neg hno]
    rwa [Script.run_cons_fails hlast]

/-- The junction after a swap that fails: where it was, or gone. -/
theorem swapJunction_fails {c : Calls} {m m' : Machine Db} {target : String}
    (h : m.swapJunction c target = (m', false)) (dir : String) :
    m'.junction = some dir ↔ m.junction = some dir ∧
      (c.removeFails = true ∨ ∃ d, m.junction = some d ∧ (m.tree d).isNone = true) := by
  unfold Machine.swapJunction at h
  split at h
  · next hj =>
    split at h
    · obtain rfl : m = m' := congrArg Prod.fst h
      simp [hj]
    · cases h
  · next d hj =>
    split at h
    · next hgone =>
      obtain rfl : m = m' := congrArg Prod.fst h
      exact (and_iff_left (.inr ⟨d, hj, hgone⟩)).symm
    · next hgone =>
      split at h
      · next hrem =>
        obtain rfl : m = m' := congrArg Prod.fst h
        exact (and_iff_left (.inl hrem)).symm
      · next hrem =>
        split at h
        · obtain rfl := congrArg Prod.fst h
          refine iff_of_false (Option.some_ne_none dir).symm ?_
          rintro ⟨-, hrem' | ⟨d', hd', hgone'⟩⟩
          · exact hrem hrem'
          · obtain rfl := Option.some.inj (hj.symm.trans hd')
            exact hgone hgone'
        · cases h

/-- The steps from the migration on. -/
def lateSteps : List Step := [.migrating, .swapping, .seeding, .starting, .health, .finishing]

/-- The state `u` a failure in `step` leaves, after the new tree was put in place in `u₀`. -/
structure Failed (m : Machine Db) (target : String) (step : Step) (u₀ u : Update Db Archive) :
    Prop where
  prev : u.prev = u₀.prev
  stateTo : u.stateTo = u₀.stateTo
  dump : u.dump = u₀.dump
  dbChanged : u.dbChanged = true
  tree : u.machine.tree = u₀.machine.tree
  junction : u.machine.junction = some (lstripV m.currentVersion) ↔
    leftOnPrevious env m target step = true

/-- The outcome of the swap step is that of the swap. -/
theorem swapping_eq {u v : Update Db Archive} {ok : Bool} (h : exec env .swapping u = (v, ok)) :
    u.machine.swapJunction env.forward u.target = (v.machine, ok) := by
  have hm := congrArg (fun r => r.1.machine) h
  have hok := congrArg Prod.snd h
  exact Prod.ext hm hok

/-- What the migration and the swap leave of what the rollback looks at. -/
theorem swapped_frame {u₀ u₁ u₂ : Update Db Archive} {ok₁ ok₂ : Bool}
    (h₁ : exec env .migrating u₀ = (u₁, ok₁)) (h₂ : exec env .swapping u₁ = (u₂, ok₂)) :
    u₂.prev = u₀.prev ∧ u₂.stateTo = u₀.stateTo ∧ u₂.dump = u₀.dump ∧ u₂.dbChanged = true ∧
      u₂.machine.tree = u₀.machine.tree := by
  have f₁ := StepFrame.of_exec h₁
  have f₂ := StepFrame.of_exec h₂
  have hdb : u₁.dbChanged = true := by
    obtain rfl := congrArg Prod.fst h₁
    rfl
  exact ⟨f₂.prev.trans f₁.prev, (f₂.target (by decide)).1.trans (f₁.target (by decide)).1,
    (f₂.dump (by decide)).trans (f₁.dump (by decide)), (f₂.dbChanged (by decide)).trans hdb,
    (f₂.tree (by decide) (by decide)).trans (f₁.tree (by decide) (by decide))⟩

/-- The migration fails: the junction is where it was. -/
theorem failed_migrating {m : Machine Db} {rel : Release} {u₀ u₁ : Update Db Archive}
    (hp : Promoted m rel u₀) (h₁ : exec env .migrating u₀ = (u₁, false)) :
    Failed env m (lstripV rel.tagName) .migrating u₀ u₁ := by
  have f₁ := StepFrame.of_exec h₁
  have hj₁ : u₁.machine.junction = m.junction := (f₁.junction (by decide)).trans hp.junction
  have hdb : u₁.dbChanged = true := by
    obtain rfl := congrArg Prod.fst h₁
    rfl
  exact ⟨f₁.prev, (f₁.target (by decide)).1, f₁.dump (by decide), hdb,
    f₁.tree (by decide) (by decide), by rw [hj₁]; simp [leftOnPrevious]⟩

/-- The swap fails: the junction is where it was, or gone. -/
theorem failed_swapping {m : Machine Db} {rel : Release} {u₀ u₁ u₂ : Update Db Archive}
    (hp : Promoted m rel u₀) (h₁ : exec env .migrating u₀ = (u₁, true))
    (h₂ : exec env .swapping u₁ = (u₂, false)) :
    Failed env m (lstripV rel.tagName) .swapping u₀ u₂ := by
  have f₁ := StepFrame.of_exec h₁
  have hj₁ : u₁.machine.junction = m.junction := (f₁.junction (by decide)).trans hp.junction
  obtain ⟨hprev, hto, hdump, hdb, htree⟩ := swapped_frame env h₁ h₂
  obtain ⟨t, ht⟩ := hp.tree
  have htree₁ : u₁.machine.tree = _ := (f₁.tree (by decide) (by decide)).trans ht
  refine ⟨hprev, hto, hdump, hdb, htree, ?_⟩
  rw [swapJunction_fails (swapping_eq env h₂), hj₁, htree₁]
  simp only [leftOnPrevious, Bool.and_eq_true, beq_iff_eq, Bool.or_eq_true, Option.any_eq_true]
  refine and_congr_right fun _ => or_congr_right (exists_congr fun d =>
    and_congr_right fun _ => ?_)
  -- the tree that was put in place is there
  by_cases hd : d = lstripV rel.tagName <;> simp [hd]

/-- A step after the swap fails: the junction is at the target. -/
theorem failed_swapped {m : Machine Db} {rel : Release} {u₀ u₁ u₂ : Update Db Archive}
    {step : Step} (hp : Promoted m rel u₀) (h₁ : exec env .migrating u₀ = (u₁, true))
    (h₂ : exec env .swapping u₁ = (u₂, true))
    (hfail : Script.failing (exec env) [.seeding, .starting, .health, .finishing] u₂ = some step) :
    Failed env m (lstripV rel.tagName) step u₀
      (Script.run (exec env) [.seeding, .starting, .health, .finishing] u₂).1 := by
  have htarget : u₁.target = lstripV rel.tagName :=
    ((StepFrame.of_exec h₁).target (by decide)).2.trans hp.target
  have hj₂ : u₂.machine.junction = some (lstripV rel.tagName) := by
    rw [Machine.swapJunction_ok env.forward (swapping_eq env h₂), htarget]
  obtain ⟨hprev, hto, hdump, hdb, htree⟩ := swapped_frame env h₁ h₂
  have hkept := kept_after_swap env hfail
  refine ⟨hkept.prev.trans hprev, hkept.stateTo.trans hto, hkept.dump.trans hdump,
    hkept.dbChanged.trans hdb, hkept.tree.trans htree, ?_⟩
  rw [hkept.junction, hj₂, Option.some.injEq]
  have hmem := Script.mem_of_failing hfail
  simp only [List.mem_cons, List.not_mem_nil, or_false] at hmem
  rcases hmem with rfl | rfl | rfl | rfl <;> simp [leftOnPrevious]

theorem failed_late {m : Machine Db} {rel : Release} {u₀ : Update Db Archive} {step : Step}
    (hp : Promoted m rel u₀) (hfail : Script.failing (exec env) lateSteps u₀ = some step) :
    Failed env m (lstripV rel.tagName) step u₀ (Script.run (exec env) lateSteps u₀).1 := by
  unfold lateSteps at hfail ⊢
  cases h₁ : exec env .migrating u₀ with
  | mk u₁ ok₁ =>
    rw [Script.failing, h₁] at hfail
    cases ok₁ with
    | false =>
      obtain rfl := Option.some.inj hfail
      rw [Script.run_cons_fails h₁]
      exact failed_migrating env hp h₁
    | true =>
      rw [Script.run_cons h₁]
      cases h₂ : exec env .swapping u₁ with
      | mk u₂ ok₂ =>
        dsimp only at hfail
        rw [Script.failing, h₂] at hfail
        cases ok₂ with
        | false =>
          obtain rfl := Option.some.inj hfail
          rw [Script.run_cons_fails h₂]
          exact failed_swapping env hp h₁ h₂
        | true =>
          rw [Script.run_cons h₂]
          exact failed_swapped env hp h₁ h₂ hfail

/-! ## The two decisions -/

theorem lstripV_lstripV (s : String) : lstripV (lstripV s) = lstripV s := by
  simp [lstripV, List.dropWhile_idempotent]

/-- The rollback's decision about the junction, from the state the run began in. -/
theorem repoints_of_promoted {m : Machine Db} {rel : Release} {u₀ u : Update Db Archive}
    (hp : Promoted m rel u₀) (hprev : u.prev = u₀.prev) (hto : u.stateTo = u₀.stateTo)
    (htree : u.machine.tree = u₀.machine.tree) :
    repoints u = (lstripV m.currentVersion != lstripV rel.tagName &&
      versionDirUsable (m.tree (lstripV m.currentVersion))) := by
  obtain ⟨t, ht⟩ := hp.tree
  rw [repoints, prevDir, targetDir, hprev, hp.prev, hto, hp.stateTo, htree, ht, Option.getD_some,
    lstripV_lstripV]
  by_cases hd : lstripV m.currentVersion = lstripV rel.tagName
  · simp [hd]
  · simp only [if_neg hd]

/-- The version the run goes to. -/
def targetOf : String := ((chosenRelease env).map fun rel => lstripV rel.tagName).getD ""

/-- **Code and database after a rollback.** For every step that fails while a dump exists, every
state of the trees and every outcome of the calls: when the rollback starts the app tier again, the
database has been restored exactly when the junction points at the previous version, or has not been
migrated, if and only if the restore succeeds exactly when the junction ends there. -/
theorem restart_matches_iff {m : Machine Db} {stateTo : Option String} {step : Step} {r : Restart}
    (hon : env.backupOn = true) (hdump : env.dumpOk = true) (hexists : env.dumpExists = true)
    (hfail : Script.failing (exec env) steps (Update.start m stateTo) = some step)
    (hr : (run env m stateTo).2 = some r) :
    (migrated step = false ∨
        (r.restored = true ↔ r.junction = some (lstripV m.currentVersion))) ↔
      (migrated step = false ∨
        (env.restoreOk = true ↔ endsOnPrevious env m (targetOf env) step = true)) := by
  cases hmig : migrated step with
  | false => simp
  | true =>
    have hsteps : steps = (earlySteps ++ [.stoppingApp, .promoting]) ++ lateSteps := rfl
    have hfalse := Script.run_of_failing hfail
    rw [hsteps] at hfail hfalse
    rcases Script.failing_append hfail with hf | ⟨u₀, hrun, hf⟩
    · have hno : ∀ s ∈ earlySteps ++ [Step.stoppingApp, .promoting], migrated s = false := by
        decide
      rw [hno step (Script.mem_of_failing hf)] at hmig
      cases hmig
    · obtain ⟨rel, hrel, hp⟩ := promoted_of_run env hon hdump hrun
      have hlate := failed_late env hp hf
      have hrb : run env m stateTo =
          rollback env (Script.run (exec env) lateSteps u₀).1 := by
        unfold run
        rw [hsteps]
        rw [Script.run_append hrun] at hfalse ⊢
        cases hs : Script.run (exec env) lateSteps u₀ with
        | mk u ok =>
          rw [hs] at hfalse
          cases hfalse
          rfl
      rw [hrb] at hr
      generalize (Script.run (exec env) lateSteps u₀).1 = u at hlate hr
      obtain ⟨hrestored, hjunction⟩ :=
        rollback_restart env hr hlate.dbChanged (by rw [hlate.dump, hp.dump]) hexists
      have htarget : targetOf env = lstripV rel.tagName := by rw [targetOf, hrel]; rfl
      have hends : r.junction = some (lstripV m.currentVersion) ↔
          endsOnPrevious env m (targetOf env) step = true := by
        rw [hjunction, repoints_of_promoted hp hlate.prev hlate.stateTo hlate.tree, htarget]
        have hprev : prevDir u = lstripV m.currentVersion := by
          rw [prevDir, hlate.prev, hp.prev]
        unfold endsOnPrevious
        dsimp only
        rw [hprev]
        split
        · next hre => simp [hre]
        · next hre =>
          rw [Bool.not_eq_true] at hre
          rw [hlate.junction, hre, Bool.false_or]
      simp only [hrestored, hends]

end

/-- The new version does not become healthy: the rollback goes back to 1.0.0 and restores. -/
theorem restart_matches_unhealthy :
    let env := { Fixture.env with healthy := false }
    let r : Restart := ⟨some "1.0.0", true⟩
    Script.failing (exec env) steps (Update.start Fixture.machine none) = some .health ∧
      (run env Fixture.machine none).2 = some r ∧
      (migrated .health = false ∨
        (r.restored = true ↔ r.junction = some (lstripV Fixture.machine.currentVersion))) := by
  intro env r
  have hfail : Script.failing (exec env) steps (Update.start Fixture.machine none) = some .health :=
    by decide
  have hr : (run env Fixture.machine none).2 = some r := by decide
  exact ⟨hfail, hr, (restart_matches_iff env rfl rfl rfl hfail hr).2 (.inr (by decide))⟩

/-- The tree of 1.0.0 has lost its `site-packages`: the junction stays at 1.1.0, the database of
1.0.0 comes back, and the app tier is started. If the restore fails instead, 1.0.0 is started with
the database of 1.1.0. -/
theorem restart_mismatch :
    let env := { Fixture.env with healthy := false }
    let gutted := { Fixture.machine with
      tree := fun v => if v = "1.0.0" then some ⟨some "1.0.0", false, true⟩ else none }
    let r : Restart := ⟨some "1.1.0", true⟩
    let env' := { env with restoreOk := false }
    let r' : Restart := ⟨some "1.0.0", false⟩
    (Script.failing (exec env) steps (Update.start gutted none) = some .health ∧
      (run env gutted none).2 = some r ∧ (run env gutted none).1.db = 7 ∧
      ¬ (migrated .health = false ∨
        (r.restored = true ↔ r.junction = some (lstripV gutted.currentVersion)))) ∧
    Script.failing (exec env') steps (Update.start Fixture.machine none) = some .health ∧
      (run env' Fixture.machine none).2 = some r' ∧ (run env' Fixture.machine none).1.db = 8 ∧
      ¬ (migrated .health = false ∨
        (r'.restored = true ↔ r'.junction = some (lstripV Fixture.machine.currentVersion))) := by
  decide

end

end Launcher

end AeroXProtect
