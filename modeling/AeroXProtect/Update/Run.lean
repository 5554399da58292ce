import AeroXProtect.Lib.Json
import AeroXProtect.Lib.Script

/-!
# The launcher's update run

The launcher updates the installation by itself: it picks a release, downloads and verifies the
archive, extracts it next to the running version, dumps the database, stops the app tier, migrates
the database, points the junction `current` at the new version and starts the app tier again. One
handler catches whatever goes wrong in any of these steps and rolls back.

The run is a script of steps (`steps`, `exec`) over the machine and the local variables of `_run`;
`UpdateEnv` is everything the run does not decide itself: what the network answers, which calls of
the operating system fail, and what the archive and the migration turn out to be. A step that fails
leaves what it did before it failed. Version trees are named by their version, without the leading
`v` of the directory.
-/

open Lib

namespace AeroXProtect

namespace Launcher

/-! ## Versions -/

/-- `v.lstrip('v')`. -/
def lstripV (s : String) : String := String.ofList (s.toList.dropWhile fun c => c == 'v')

/-- `s.lower()`, of ASCII letters. -/
def lower (s : String) : String := String.ofList (s.toList.map Char.toLower)

/-- The values of the runs of digits, the one at the beginning started with `acc`. -/
def digitRuns : Option Nat → List Char → List Nat
  | acc, [] => acc.toList
  | acc, c :: cs =>
    if c.isDigit then digitRuns (some (acc.getD 0 * 10 + (c.toNat - '0'.toNat))) cs
    else acc.toList ++ digitRuns none cs

/-- `_PRE_RANK.get(…, 0)`. -/
def preRank (letters : List Char) : Nat :=
  match lower (String.ofList letters) with
  | "beta" => 1
  | "rc" => 2
  | _ => 0

/-- The part of a version before the first `-` and the part after it. -/
def partitionPre (s : String) : List Char × List Char :=
  let cs := (lstripV s).toList
  (cs.takeWhile fun c => c != '-', (cs.dropWhile fun c => c != '-').drop 1)

/-- The sortable key of a version. Source: `_vtuple`
(`windows/launcher/axp_launcher/update.py:43`), for ASCII digits. -/
def vtuple (v : String) : List Nat :=
  let (main, pre) := partitionPre (if v.isEmpty then "0" else v)
  let nums := ((digitRuns none main).take 3 ++ [0, 0, 0]).take 3
  if pre.isEmpty then nums ++ [3, 0]
  else
    let letters := pre.takeWhile Char.isAlpha
    let rest := pre.drop letters.length
    let rest := if rest.head? = some '.' then rest.drop 1 else rest
    let num := if letters.isEmpty then 0
      else ((digitRuns none (rest.takeWhile Char.isDigit)).head?).getD 0
    nums ++ [preRank letters, num]

/-- `_vtuple` of a value of the manifest; `none` is an exception. -/
def vtupleOf (v : Json) : Option (List Nat) :=
  if v.truthy then
    match v with
    | .str s => some (vtuple s)
    | _ => none
  else some (vtuple "0")

/-- Source: `_prerelease_rank` (`windows/launcher/axp_launcher/update.py:57`). -/
def prereleaseRank (tag : String) : Nat :=
  let (_, pre) := partitionPre tag
  if pre.isEmpty then 3 else preRank (pre.takeWhile Char.isAlpha)

/-- `CHANNEL_MIN_RANK.get(channel, 3)`. -/
def channelMinRank : String → Nat
  | "beta" => 1
  | "alpha" => 0
  | _ => 3

/-- `LAUNCHER_VERSION`. Source: `windows/launcher/axp_launcher/__init__.py`. -/
def launcherVersion : String := "1.0.0"

example : vtuple "v0.1.2-beta.3" = [0, 1, 2, 1, 3] ∧ vtuple "0.1.2" = [0, 1, 2, 3, 0] := by decide

/-! ## Releases -/

/-- An asset of a release. -/
structure Asset where
  name : String
  url : String
  size : Nat
  deriving DecidableEq, Repr

/-- A release as GitHub lists it. -/
structure Release where
  tagName : String
  draft : Bool
  assets : List Asset
  deriving DecidableEq, Repr

/-- `assets[name]` of `{a['name']: a for a in assets}`. -/
def asset? (assets : List Asset) (name : String) : Option Asset :=
  assets.reverse.find? fun a => a.name == name

/-- `MANIFEST_ASSET_RE`: `manifest-v`, letters, digits, dots and dashes, `.json`. -/
def isManifestName (name : String) : Bool :=
  let cs := name.toList
  let mid := (cs.drop 10).take (cs.length - 15)
  "manifest-v".toList.isPrefixOf cs && ".json".toList.isSuffixOf cs && !mid.isEmpty &&
    mid.all fun c => c.isAlphanum || c == '.' || c == '-'

/-- The newest release that is no draft and that the channel accepts. Source: `_pick_release`
(`windows/launcher/axp_launcher/update.py:99`). -/
def pickRelease (channel : String) (releases : List Release) : Option Release :=
  (releases.filter fun r => !r.draft && channelMinRank channel ≤ prereleaseRank r.tagName).foldl
    (fun best r =>
      match best with
      | none => some r
      | some b => if vtuple b.tagName < vtuple r.tagName then some r else some b) none

/-- The manifest, if the release has one and it can be fetched. Source: `_load_manifest`
(`windows/launcher/axp_launcher/update.py:144`). -/
def loadManifest (fetch : String → Option Json) (assets : List Asset) : Option Json := do
  let named ← assets.find? fun a => isManifestName a.name
  let a ← asset? assets named.name
  fetch a.url

/-- The digest the manifest gives for the archive; `none` is an exception. -/
def digest? (manifest : Json) : Option Json := do
  let app ← manifest.get? "app"
  (app.or .empty).get? "sha256"

/-! ## The machine -/

/-- A tree under `versions\`: what its `VERSION` file says, if it has one, and whether it has its
`site-packages` and `app` directories. -/
structure Tree where
  version : Option String
  sitePackages : Bool
  app : Bool
  deriving DecidableEq, Repr

/-- Source: `_version_dir_usable` (`windows/launcher/axp_launcher/update.py:320`). -/
def versionDirUsable : Option Tree → Bool
  | some t => t.version.isSome && t.sitePackages && t.app
  | none => false

/-- The app-tier services in start order. Source: `build_specs`
(`windows/launcher/axp_launcher/supervisor.py:62`). -/
def appTier : List String :=
  ["backend", "worker", "beat", "subs", "recorder", "encoder", "detector"]

/-- The installation: the tree `current` points at, the trees, the process of each service, and the
database. Processes are numbered; a number is not given twice. -/
structure Machine (Db : Type) where
  junction : Option String
  tree : String → Option Tree
  procs : String → Option Nat
  nextProc : Nat
  fresh : ∀ name p, procs name = some p → p < nextProc
  db : Db

section
variable {Db : Type}

namespace Machine

/-- Source: `env.current_version` (`windows/launcher/axp_launcher/env.py:65`). -/
def currentVersion (m : Machine Db) : String :=
  ((m.junction.bind m.tree).bind Tree.version).getD "0.0.0"

/-- The process of a service is gone. -/
def stopped (m : Machine Db) (name : String) : Machine Db :=
  { m with
    procs := fun n => if n = name then none else m.procs n
    fresh := by
      intro n p h
      split at h
      · cases h
      · exact m.fresh n p h }

/-- A service has a new process. -/
def spawned (m : Machine Db) (name : String) : Machine Db :=
  { m with
    procs := fun n => if n = name then some m.nextProc else m.procs n
    nextProc := m.nextProc + 1
    fresh := by
      intro n p h
      split at h
      · cases h
        exact Nat.lt_succ_self _
      · exact Nat.lt_succ_of_lt (m.fresh n p h) }

end Machine

/-- How the calls turn out that the run and the rollback both make. -/
structure Calls where
  /-- The service does not end when it is killed. -/
  stuck : String → Bool
  removeFails : Bool
  linkFails : Bool
  spawns : String → Bool
  spawnRaises : String → Bool

namespace Machine

variable (c : Calls)

/-- Source: `_stop_child` (`windows/launcher/axp_launcher/supervisor.py:275`). -/
def stopChild (name : String) (m : Machine Db) : Machine Db × Bool :=
  match m.procs name with
  | none => (m, true)
  | some _ => (m.stopped name, !c.stuck name)

/-- Source: `stop_all(app_only=True)` (`windows/launcher/axp_launcher/supervisor.py:300`). -/
def stopAll (m : Machine Db) : Machine Db × Bool := Script.run (stopChild c) appTier.reverse m

/-- Source: `_start_and_wait` (`windows/launcher/axp_launcher/supervisor.py:210`). -/
def startAndWait (name : String) (m : Machine Db) : Machine Db × Bool :=
  if c.spawnRaises name then (m, false)
  else if c.spawns name then (m.spawned name, true)
  else (m.stopped name, true)

/-- Source: `start_app_tier` (`windows/launcher/axp_launcher/supervisor.py:308`). -/
def startAppTier (m : Machine Db) : Machine Db × Bool := Script.run (startAndWait c) appTier m

/-- The junction is removed and made again. A junction whose tree is gone does not count as existing
and is in the way of the new one. Source: `_swap_junction`
(`windows/launcher/axp_launcher/update.py:306`). -/
def swapJunction (dir : String) (m : Machine Db) : Machine Db × Bool :=
  match m.junction with
  | none => if c.linkFails then (m, false) else ({ m with junction := some dir }, true)
  | some d =>
    if (m.tree d).isNone then (m, false)
    else if c.removeFails then (m, false)
    else if c.linkFails then ({ m with junction := none }, false)
    else ({ m with junction := some dir }, true)

/-- The junction, the trees and the database are the same. -/
structure SameStore (m m' : Machine Db) : Prop where
  junction : m'.junction = m.junction
  tree : m'.tree = m.tree
  db : m'.db = m.db

variable (m : Machine Db)

theorem sameStore_stopAll : SameStore m (m.stopAll c).1 := by
  refine Script.run_invariant (I := SameStore m) (fun name _ s hs => ?_) ⟨rfl, rfl, rfl⟩
  unfold stopChild
  split
  · exact hs
  · exact ⟨hs.junction, hs.tree, hs.db⟩

theorem sameStore_startAppTier : SameStore m (m.startAppTier c).1 := by
  refine Script.run_invariant (I := SameStore m) (fun name _ s hs => ?_) ⟨rfl, rfl, rfl⟩
  unfold startAndWait
  split
  · exact hs
  · split <;> exact ⟨hs.junction, hs.tree, hs.db⟩

/-- A swap leaves the services, the trees and the database alone. -/
theorem swapJunction_frame (dir : String) :
    (m.swapJunction c dir).1.procs = m.procs ∧ (m.swapJunction c dir).1.tree = m.tree ∧
      (m.swapJunction c dir).1.db = m.db ∧ (m.swapJunction c dir).1.nextProc = m.nextProc := by
  unfold swapJunction
  split
  · split <;> exact ⟨rfl, rfl, rfl, rfl⟩
  · split
    · exact ⟨rfl, rfl, rfl, rfl⟩
    · split
      · exact ⟨rfl, rfl, rfl, rfl⟩
      · split <;> exact ⟨rfl, rfl, rfl, rfl⟩

end Machine

end

/-! ## The run -/

/-- Everything the run does not decide: its arguments and configuration, the answers of the network,
the outcome of the file and process calls (`true` where a call succeeds), and what the archive, the
migration and the restore turn out to do. -/
structure UpdateEnv (Db Archive : Type) where
  version : Option String
  channel : String
  backupOn : Bool
  releaseByTag : String → Option Release
  releases : Option (List Release)
  fetchManifest : String → Option Json
  free : Option Nat
  mkStaging : Bool
  download : String → Option Archive
  sha256 : Archive → String
  clearTmp : Bool
  unzip : Archive → Option Tree
  unlinkZip : Bool
  mkBackups : Bool
  dumpOk : Bool
  forward : Calls
  removeStale : Bool
  /-- What is left of a stale tree that could not be removed. -/
  staleLeft : Option Tree
  rename : Bool
  migrate : Db → Db × Bool
  seed : Db → Db × Bool
  healthy : Bool
  writeInstalled : Bool
  back : Calls
  dumpExists : Bool
  restoreOk : Bool
  /-- What a restore that fails leaves of the database. -/
  restoreFailed : Db → Db

/-- The machine, `self.state['to']` and the local variables of `_run`. `extracted` is not in the
program: the archive that was extracted. -/
structure Update (Db Archive : Type) where
  machine : Machine Db
  prev : String
  stateTo : Option String
  target : String
  assets : List Asset
  manifest : Json
  zip : Option Archive
  tmp : Option Tree
  extracted : Option Archive
  dump : Option Db
  dbChanged : Bool

/-- The steps of `_run`. -/
inductive Step
  | checking | precheck | downloading | verifying | extracting | backupDb | stoppingApp
  | promoting | migrating | swapping | seeding | starting | health | finishing
  deriving DecidableEq, Repr

section
variable {Db Archive : Type} (env : UpdateEnv Db Archive)

/-- The release to install. -/
def chosenRelease : Option Release :=
  match env.version with
  | some v => if v.isEmpty then env.releases.bind (pickRelease env.channel) else env.releaseByTag v
  | none => env.releases.bind (pickRelease env.channel)

/-- The archive of a version among the assets. -/
def appAsset (assets : List Asset) (target : String) : Option Asset :=
  asset? assets ("aeroxprotect-windows-x64-app-v" ++ target ++ ".zip")

/-- The checks before the download; an exception in one of them fails too. -/
def precheckPasses (prev target : String) (assets : List Asset) (manifest : Json) : Bool :=
  target != prev &&
    (((manifest.getD? "min_launcher_version" (.str "0")).bind vtupleOf).any fun v =>
      !decide (v > vtuple launcherVersion)) &&
    (((manifest.getD? "min_from_version" (.str "0")).bind vtupleOf).any fun v =>
      !decide (vtuple prev < v)) &&
    ((appAsset assets target).any fun a => env.free.any fun free => !decide (free < a.size * 3))

/-- The check of the archive: a digest that is given must be that of the file. -/
def verifyPasses (manifest : Json) (a : Archive) : Bool :=
  match digest? manifest with
  | none => false
  | some want =>
    if want.truthy then
      match want with
      | .str w => env.sha256 a == lower w
      | _ => false
    else true

/-- One step: what it leaves, and whether it did not raise. Source: `_run`
(`windows/launcher/axp_launcher/update.py:163`). -/
def exec (s : Step) (u : Update Db Archive) : Update Db Archive × Bool :=
  match s with
  | .checking =>
    match chosenRelease env with
    | none => (u, false)
    | some rel =>
      let target := lstripV rel.tagName
      let manifest := ((loadManifest env.fetchManifest rel.assets).getD .null).or .empty
      ({ u with target, stateTo := some target, assets := rel.assets, manifest }, true)
  | .precheck => (u, precheckPasses env u.prev u.target u.assets u.manifest)
  | .downloading =>
    if env.mkStaging then
      match (appAsset u.assets u.target).bind fun a => env.download a.url with
      | none => (u, false)
      | some zip => ({ u with zip := some zip }, true)
    else (u, false)
  | .verifying => (u, u.zip.any fun a => verifyPasses env u.manifest a)
  | .extracting =>
    if env.clearTmp then
      match u.zip with
      | none => (u, false)
      | some a =>
        match env.unzip a with
        | none => (u, false)
        | some tree => ({ u with tmp := some tree, extracted := some a }, env.unlinkZip)
    else (u, false)
  | .backupDb =>
    if env.backupOn then
      if env.mkBackups then
        ({ u with dump := if env.dumpOk then some u.machine.db else none }, true)
      else (u, false)
    else (u, true)
  | .stoppingApp =>
    let (machine, ok) := u.machine.stopAll env.forward
    ({ u with machine }, ok)
  | .promoting =>
    let put (t : Option Tree) : Machine Db :=
      { u.machine with tree := fun v => if v = u.target then t else u.machine.tree v }
    if (u.machine.tree u.target).isSome && !env.removeStale then
      ({ u with machine := put env.staleLeft }, false)
    else if env.rename then ({ u with machine := put u.tmp, tmp := none }, true)
    else ({ u with machine := put none }, false)
  | .migrating =>
    let (db, ok) := env.migrate u.machine.db
    ({ u with dbChanged := true, machine := { u.machine with db } }, ok)
  | .swapping =>
    let (machine, ok) := u.machine.swapJunction env.forward u.target
    ({ u with machine }, ok)
  | .seeding =>
    let (db, ok) := env.seed u.machine.db
    ({ u with machine := { u.machine with db } }, ok)
  | .starting =>
    let (machine, ok) := u.machine.startAppTier env.forward
    ({ u with machine }, ok)
  | .health => (u, env.healthy)
  | .finishing =>
    if env.writeInstalled then
      let tree (v : String) : Option Tree :=
        if v = u.target || v = u.prev then u.machine.tree v else none
      ({ u with machine := { u.machine with tree } }, true)
    else (u, false)

/-- The steps before the app tier is stopped, and the others. -/
def earlySteps : List Step :=
  [.checking, .precheck, .downloading, .verifying, .extracting, .backupDb]

def steps : List Step :=
  earlySteps ++ [.stoppingApp, .promoting, .migrating, .swapping, .seeding, .starting, .health,
    .finishing]

/-- What a step leaves alone. -/
structure StepFrame (s : Step) (u v : Update Db Archive) : Prop where
  prev : v.prev = u.prev
  target : s ≠ .checking → v.stateTo = u.stateTo ∧ v.target = u.target
  extracted : s ≠ .extracting → v.extracted = u.extracted
  tmp : s ≠ .extracting → s ≠ .promoting → v.tmp = u.tmp
  dump : s ≠ .backupDb → v.dump = u.dump
  dbChanged : s ≠ .migrating → v.dbChanged = u.dbChanged
  machine : s ∈ earlySteps → v.machine = u.machine
  junction : s ≠ .swapping → v.machine.junction = u.machine.junction
  tree : s ≠ .promoting → s ≠ .finishing → v.machine.tree = u.machine.tree

theorem StepFrame.refl (s : Step) (u : Update Db Archive) : StepFrame s u u :=
  ⟨rfl, fun _ => ⟨rfl, rfl⟩, fun _ => rfl, fun _ _ => rfl, fun _ => rfl, fun _ => rfl, fun _ => rfl,
    fun _ => rfl, fun _ _ => rfl⟩

/-- A step that changes the machine only. -/
theorem StepFrame.of_machine {s : Step} {u : Update Db Archive} {m : Machine Db}
    (hs : s ∉ earlySteps) (hj : s ≠ .swapping → m.junction = u.machine.junction)
    (ht : s ≠ .promoting → s ≠ .finishing → m.tree = u.machine.tree) :
    StepFrame s u { u with machine := m } :=
  ⟨rfl, fun _ => ⟨rfl, rfl⟩, fun _ => rfl, fun _ _ => rfl, fun _ => rfl, fun _ => rfl,
    fun h => absurd h hs, hj, ht⟩

/-- Every step leaves alone what is not its business. -/
theorem exec_frame (s : Step) (u : Update Db Archive) : StepFrame s u (exec env s u).1 := by
  have hrefl := StepFrame.refl s u
  cases s with
  | checking =>
    unfold exec
    dsimp only
    split
    · exact hrefl
    · exact { hrefl with target := fun h => absurd rfl h }
  | downloading =>
    unfold exec
    dsimp only
    split
    · split <;> exact { hrefl with }
    · exact hrefl
  | extracting =>
    unfold exec
    dsimp only
    split
    · split
      · exact hrefl
      · split
        · exact hrefl
        · exact { hrefl with extracted := fun h => absurd rfl h, tmp := fun h => absurd rfl h }
    · exact hrefl
  | backupDb =>
    unfold exec
    dsimp only
    split
    · split
      · exact { hrefl with dump := fun h => absurd rfl h }
      · exact hrefl
    · exact hrefl
  | stoppingApp =>
    have hsame := u.machine.sameStore_stopAll env.forward
    exact .of_machine (by decide) (fun _ => hsame.junction) fun _ _ => hsame.tree
  | promoting =>
    unfold exec
    dsimp only
    split
    · exact .of_machine (by decide) (fun _ => rfl) fun h => absurd rfl h
    · split
      · exact { hrefl with
          tmp := fun _ h => absurd rfl h
          machine := fun h => absurd h (by decide)
          tree := fun h => absurd rfl h }
      · exact .of_machine (by decide) (fun _ => rfl) fun h => absurd rfl h
  | migrating =>
    exact { hrefl with
      machine := fun h => absurd h (by decide)
      dbChanged := fun h => absurd rfl h }
  | swapping =>
    exact .of_machine (by decide) (fun h => absurd rfl h) fun _ _ =>
      (u.machine.swapJunction_frame env.forward _).2.1
  | seeding => exact .of_machine (by decide) (fun _ => rfl) fun _ _ => rfl
  | starting =>
    have hsame := u.machine.sameStore_startAppTier env.forward
    exact .of_machine (by decide) (fun _ => hsame.junction) fun _ _ => hsame.tree
  | finishing =>
    unfold exec
    dsimp only
    split
    · exact .of_machine (by decide) (fun _ => rfl) fun _ h => absurd rfl h
    · exact hrefl
  | precheck | verifying | health => exact hrefl

variable {env} in
/-- The frame of a step whose outcome is known. -/
theorem StepFrame.of_exec {s : Step} {u v : Update Db Archive} {ok : Bool}
    (h : exec env s u = (v, ok)) : StepFrame s u v := by
  have hframe := exec_frame env s u
  rwa [h] at hframe

/-- The variables at the start; `stateTo` is what the last run has left in `self.state`. -/
def Update.start (m : Machine Db) (stateTo : Option String) : Update Db Archive where
  machine := m
  prev := m.currentVersion
  stateTo
  target := ""
  assets := []
  manifest := .empty
  zip := none
  tmp := none
  extracted := none
  dump := none
  dbChanged := false

/-! ## The rollback -/

/-- The app tier is started again: where the junction points then, and whether the database has been
restored. -/
structure Restart where
  junction : Option String
  restored : Bool
  deriving DecidableEq, Repr

/-- The trees the rollback compares: the previous version's and the target's. -/
def prevDir (u : Update Db Archive) : String := lstripV u.prev

def targetDir (u : Update Db Archive) : String := lstripV (u.stateTo.getD "")

/-- The rollback points the junction at the previous version: its tree is another one than the
target's, and complete. -/
def repoints (u : Update Db Archive) : Bool :=
  prevDir u != targetDir u && versionDirUsable (u.machine.tree (prevDir u))

/-- The database after the restore of a dump that exists, and whether it succeeded. Source:
`restore` (`windows/launcher/axp_launcher/mariadb_init.py:70`). -/
def restore (dump : Option Db) (db : Db) : Db × Bool :=
  match dump with
  | some d =>
    if env.dumpExists then if env.restoreOk then (d, true) else (env.restoreFailed db, false)
    else (db, false)
  | none => (db, false)

/-- Source: `_rollback` (`windows/launcher/axp_launcher/update.py:323`): the machine, and what the
app tier was started with, unless a call raised before. -/
def rollback (u : Update Db Archive) : Machine Db × Option Restart :=
  match u.machine.stopAll env.back with
  | (m, false) => (m, none)
  | (m, true) =>
    match if repoints u then m.swapJunction env.back (prevDir u) else (m, true) with
    | (m, false) => (m, none)
    | (m, true) =>
      let (db, restored) := restore env (if u.dbChanged then u.dump else none) m.db
      let m := { m with db }
      ((m.startAppTier env.back).1, some ⟨m.junction, restored⟩)

/-- A run of the update: the machine, and the restart if the run has failed. Source: `_run`. -/
def run (m : Machine Db) (stateTo : Option String) : Machine Db × Option Restart :=
  match Script.run (exec env) steps (Update.start m stateTo) with
  | (u, true) => (u.machine, none)
  | (u, false) => rollback env u

end

namespace Fixture

/-- Version 1.0.0 runs, with the backend as process 0; the database is a number. -/
def machine : Machine Nat where
  junction := some "1.0.0"
  tree := fun v => if v = "1.0.0" then some ⟨some "1.0.0", true, true⟩ else none
  procs := fun n => if n = "mariadb" then some 1 else if n = "backend" then some 0 else none
  nextProc := 2
  fresh := by
    intro n p h
    split at h
    · cases h; decide
    · split at h
      · cases h; decide
      · cases h
  db := 7

def calls : Calls := ⟨fun _ => false, false, false, fun _ => true, fun _ => false⟩

def release : Release :=
  ⟨"v1.1.0", false, [⟨"manifest-v1.1.0.json", "m", 1⟩,
    ⟨"aeroxprotect-windows-x64-app-v1.1.0.zip", "z", 10⟩]⟩

/-- A release 1.1.0 with a manifest, and every call succeeds. -/
def env : UpdateEnv Nat String where
  version := none
  channel := "stable"
  backupOn := true
  releaseByTag := fun _ => none
  releases := some [release]
  fetchManifest := fun _ => some (.obj [("app", .obj [("sha256", .str "AB")])])
  free := some 1000
  mkStaging := true
  download := fun _ => some "zip"
  sha256 := fun _ => "ab"
  clearTmp := true
  unzip := fun _ => some ⟨some "1.1.0", true, true⟩
  unlinkZip := true
  mkBackups := true
  dumpOk := true
  forward := calls
  removeStale := true
  staleLeft := none
  rename := true
  migrate := fun db => (db + 1, true)
  seed := fun db => (db, true)
  healthy := true
  writeInstalled := true
  back := calls
  dumpExists := true
  restoreOk := true
  restoreFailed := fun db => db

end Fixture

/-- The run of the fixture ends on the new version. -/
example : (run Fixture.env Fixture.machine none).1.junction = some "1.1.0" := by decide

end Launcher

end AeroXProtect
