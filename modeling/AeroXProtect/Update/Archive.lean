import AeroXProtect.Update.Run

/-!
# Verification of the downloaded archive

Which archives the update extracts (`extracted_iff`), and when an extracted archive has been checked
against the manifest of its release (`Verified`). The check is skipped when the digest is missing,
and a manifest that is missing, cannot be fetched or is empty has no digest and no minimum launcher
version: `archive_verified_iff` says that this is the only way an archive is extracted unchecked.
-/

open Lib

namespace AeroXProtect

namespace Launcher

section
variable {Db Archive : Type} (env : UpdateEnv Db Archive)

/-- The manifest the run works with: an empty object when there is none. -/
def manifestOf (rel : Release) : Json :=
  ((loadManifest env.fetchManifest rel.assets).getD .null).or .empty

/-- The file that is downloaded for a release. -/
def downloaded (rel : Release) : Option Archive :=
  (appAsset rel.assets (lstripV rel.tagName)).bind fun a => env.download a.url

/-- The archive the run extracts. -/
def extractedArchive (m : Machine Db) (stateTo : Option String) : Option Archive :=
  (Script.run (exec env) steps (Update.start m stateTo)).1.extracted

/-- The archive was checked: the manifest of the release was fetched and has a digest, which is that
of the archive, and the launcher is as new as the manifest asks for. -/
def Verified (a : Archive) : Prop :=
  ∃ rel manifest w v, chosenRelease env = some rel ∧
    loadManifest env.fetchManifest rel.assets = some manifest ∧
    digest? manifest = some (.str w) ∧ w ≠ "" ∧ env.sha256 a = lower w ∧
    (manifest.getD? "min_launcher_version" (.str "0")).bind vtupleOf = some v ∧
    ¬ v > vtuple launcherVersion

/-- The manifest of the release gives a digest. -/
def digestGiven : Bool :=
  (chosenRelease env).any fun rel => (digest? (manifestOf env rel)).any Json.truthy

/-- A check or a call before the extraction fails, or the extraction itself. -/
def refused (m : Machine Db) : Bool :=
  match chosenRelease env with
  | none => true
  | some rel =>
    !precheckPasses env m.currentVersion (lstripV rel.tagName) rel.assets (manifestOf env rel) ||
      !env.mkStaging || !env.clearTmp ||
      (downloaded env rel).all fun a =>
        !verifyPasses env (manifestOf env rel) a || (env.unzip a).isNone

/-! ## What is extracted -/

/-- The steps up to the extraction. -/
def verifySteps : List Step := [.checking, .precheck, .downloading, .verifying, .extracting]

theorem extracted_steps (u : Update Db Archive) :
    (Script.run (exec env) steps u).1.extracted =
      (Script.run (exec env) verifySteps u).1.extracted := by
  have hsteps : steps = verifySteps ++ (Step.backupDb :: steps.drop 6) := rfl
  rw [hsteps]
  generalize hr : Script.run (exec env) verifySteps u = r
  obtain ⟨u', ok⟩ := r
  cases ok with
  | true =>
    rw [Script.run_append hr]
    refine Script.run_invariant (I := fun v : Update Db Archive => v.extracted = u'.extracted)
      (fun s hs v hv => ?_) rfl
    exact ((exec_frame env s v).extracted (by rintro rfl; revert hs; decide)).trans hv
  | false =>
    rw [Script.run_append_fails (by rw [hr]), hr]

/-- What the checks, the download and the extraction extract. -/
theorem extracted_checked {u : Update Db Archive} (hnone : u.extracted = none) (a : Archive) :
    (Script.run (exec env) (verifySteps.drop 1) u).1.extracted = some a ↔
      precheckPasses env u.prev u.target u.assets u.manifest = true ∧
        env.mkStaging = true ∧ env.clearTmp = true ∧
        ((appAsset u.assets u.target).bind fun b => env.download b.url) = some a ∧
        verifyPasses env u.manifest a = true ∧ (env.unzip a).isSome = true := by
  unfold verifySteps
  simp only [List.drop_succ_cons, List.drop_zero, Script.run, exec]
  cases precheckPasses env u.prev u.target u.assets u.manifest with
  | false => simp [hnone]
  | true =>
    cases env.mkStaging with
    | false => simp [hnone]
    | true =>
      cases hzip : (appAsset u.assets u.target).bind fun b => env.download b.url with
      | none => simp [hnone, hzip]
      | some b =>
        have hb : (some b = some a ∧ verifyPasses env u.manifest a = true ∧
            (env.unzip a).isSome = true) ↔
            b = a ∧ verifyPasses env u.manifest b = true ∧ (env.unzip b).isSome = true := by
          rw [Option.some.injEq]
          exact and_congr_right fun hab => by rw [hab]
        rw [hb]
        cases hverify : verifyPasses env u.manifest b with
        | false => simp [hnone, hzip, hverify]
        | true =>
          cases env.clearTmp with
          | false => simp [hnone, hzip, hverify]
          | true =>
            cases hunzip : env.unzip b with
            | none => simp [hnone, hzip, hverify, hunzip]
            | some tree => cases env.unlinkZip <;> simp [hzip, hverify, hunzip]

/-- What is extracted has passed the checks before. -/
theorem extracted_iff (m : Machine Db) (stateTo : Option String) (a : Archive) :
    extractedArchive env m stateTo = some a ↔
      ∃ rel, chosenRelease env = some rel ∧
        precheckPasses env m.currentVersion (lstripV rel.tagName) rel.assets
          (manifestOf env rel) = true ∧
        env.mkStaging = true ∧ env.clearTmp = true ∧ downloaded env rel = some a ∧
        verifyPasses env (manifestOf env rel) a = true ∧ (env.unzip a).isSome = true := by
  rw [extractedArchive, extracted_steps]
  have hsteps : verifySteps = .checking :: verifySteps.drop 1 := rfl
  rw [hsteps]
  cases hrel : chosenRelease env with
  | none =>
    have hc : exec env .checking (Update.start m stateTo) = (Update.start m stateTo, false) := by
      simp only [exec, hrel]
    rw [Script.run_cons_fails hc]
    simp [Update.start]
  | some rel =>
    have hc : exec env .checking (Update.start m stateTo) =
        ({ Update.start m stateTo with
            target := lstripV rel.tagName, stateTo := some (lstripV rel.tagName)
            assets := rel.assets, manifest := manifestOf env rel }, true) := by
      simp only [exec, hrel]
      rfl
    rw [Script.run_cons hc, extracted_checked env rfl]
    exact ⟨fun h => ⟨rel, rfl, h⟩, fun ⟨_, hr, h⟩ => Option.some.inj hr ▸ h⟩

/-! ## Extracted archives are verified -/

/-- A manifest with a digest is a manifest that was fetched. -/
theorem truthy_of_digest {manifest want : Json} (h : digest? manifest = some want)
    (hw : want.truthy = true) : manifest.truthy = true := by
  cases manifest with
  | obj fields =>
    cases fields with
    | nil =>
      cases h
      cases hw
    | cons f fs => rfl
  | null | bool | num | str | arr => cases h

/-- A manifest with a digest that passes the checks was fetched, and the archive is verified. -/
theorem verified_of_checked {rel : Release} {prev : String} {a : Archive}
    (hrel : chosenRelease env = some rel) (hdigest : digestGiven env = true)
    (hpre : precheckPasses env prev (lstripV rel.tagName) rel.assets (manifestOf env rel) = true)
    (hverify : verifyPasses env (manifestOf env rel) a = true) : Verified env a := by
  rw [digestGiven, hrel, Option.any_some, Option.any_eq_true] at hdigest
  obtain ⟨want, hwant, htruthy⟩ := hdigest
  have hm : ∃ manifest, loadManifest env.fetchManifest rel.assets = some manifest ∧
      manifestOf env rel = manifest := by
    unfold manifestOf at hwant ⊢
    cases hload : loadManifest env.fetchManifest rel.assets with
    | none =>
      rw [hload] at hwant
      cases truthy_of_digest hwant htruthy
    | some manifest =>
      rw [hload, Option.getD_some, Json.or] at hwant
      refine ⟨manifest, rfl, ?_⟩
      rw [Option.getD_some, Json.or]
      split at hwant
      · next ht => rw [if_pos ht]
      · cases truthy_of_digest hwant htruthy
  obtain ⟨manifest, hload, rfl⟩ := hm
  rw [verifyPasses, hwant] at hverify
  simp only [htruthy, if_true] at hverify
  split at hverify
  · next w =>
    simp only [precheckPasses, Bool.and_eq_true, Option.any_eq_true] at hpre
    obtain ⟨⟨⟨-, v, hv, hmin⟩, -⟩, -⟩ := hpre
    refine ⟨rel, _, w, v, hrel, hload, hwant, ?_, by simpa using hverify, hv, by simpa using hmin⟩
    simpa [Json.truthy] using htruthy
  · cases hverify

/-- **Only verified archives are extracted, if the manifest gives a digest.** For every listing of
releases, every answer for the manifest and every downloaded file, on every machine: the archive
that is extracted was checked against the manifest of its release and that manifest's launcher
version exactly when the manifest gives a digest, or when nothing is extracted because a check or a
call fails before. -/
theorem archive_verified_iff (m : Machine Db) (stateTo : Option String) :
    (∀ a, extractedArchive env m stateTo = some a → Verified env a) ↔
      (digestGiven env = true ∨ refused env m = true) := by
  constructor
  · intro h
    by_contra hcond
    rw [not_or, Bool.not_eq_true, Bool.not_eq_true] at hcond
    obtain ⟨hdigest, hrefused⟩ := hcond
    unfold refused at hrefused
    split at hrefused
    · cases hrefused
    · next rel hrel =>
      simp only [Bool.or_eq_false_iff, Bool.not_eq_false', Option.all_eq_false] at hrefused
      obtain ⟨⟨⟨hpre, hmk⟩, hct⟩, a, hzip, hverify, hunzip⟩ := hrefused
      have ha := (extracted_iff env m stateTo a).2
        ⟨rel, hrel, hpre, hmk, hct, hzip, hverify, Option.isNone_eq_false_iff.1 hunzip⟩
      obtain ⟨rel', manifest, w, v, hrel', hload, hw, hne, -⟩ := h a ha
      obtain rfl := Option.some.inj (hrel'.symm.trans hrel)
      have htruthy : (Json.str w).truthy = true := by simpa [Json.truthy] using hne
      have hm : manifestOf env rel' = manifest := by
        rw [manifestOf, hload, Option.getD_some, Json.or, if_pos (truthy_of_digest hw htruthy)]
      rw [digestGiven, hrel', Option.any_some, hm, hw, Option.any_some, htruthy] at hdigest
      cases hdigest
  · rintro (hdigest | hrefused) a ha
    · obtain ⟨rel, hrel, hpre, -, -, -, hverify, -⟩ := (extracted_iff env m stateTo a).1 ha
      exact verified_of_checked env hrel hdigest hpre hverify
    · obtain ⟨rel, hrel, hpre, hmk, hct, hzip, hverify, hunzip⟩ :=
        (extracted_iff env m stateTo a).1 ha
      unfold refused at hrefused
      simp [hrel, hpre, hmk, hct, hzip, hverify, Option.isNone_eq_false_iff.2 hunzip] at hrefused

end

/-- A manifest that cannot be fetched: the archive is extracted, and nothing was checked. -/
theorem archive_unverified :
    let env := { Fixture.env with fetchManifest := fun _ => none }
    extractedArchive env Fixture.machine none = some "zip" ∧ ¬ Verified env "zip" ∧
      (run env Fixture.machine none).1.junction = some "1.1.0" := by
  refine ⟨by decide, ?_, by decide⟩
  rintro ⟨rel, manifest, -, -, -, hload, -⟩
  obtain ⟨named, -, hload⟩ := Option.bind_eq_some_iff.1 hload
  obtain ⟨a, -, hload⟩ := Option.bind_eq_some_iff.1 hload
  cases hload

end Launcher

end AeroXProtect
