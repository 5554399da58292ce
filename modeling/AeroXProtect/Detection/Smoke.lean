import AeroXProtect.Lib.History
import AeroXProtect.Lib.Spacing
import AeroXProtect.Lib.Table

/-!
# Smoke and fire alerts

Any number of processes take in batches of detections. Each batch of a camera with smoke detection
picks its best detection of smoke or fire, takes the camera's key with one atomic command and raises
an alert. `smoke_once` says that in every interleaving the alerts of a camera are owed to commands a
window apart, and each shows the best detection of its batch that reaches the floor of the settings.
-/

open Lib

namespace AeroXProtect

/-- A detection as `process_batch` reads it. -/
structure SmokeRow where
  label : String
  confidence : Int
  bbox : List Rat
  deriving DecidableEq, Repr

/-- What is handed to the event pipeline, and when the key of the camera was taken for it, if Redis
has answered. -/
structure SmokeAlert where
  cameraId : Nat
  subtype : String
  score : Int
  region : Option (List Rat)
  won : Option Int
  deriving DecidableEq, Repr

/-- `SMOKE_LABELS` -/
def smokeLabels : List String := ["smoke", "fire"]

/-- `DEFAULT_THRESHOLD` -/
def smokeThreshold : Int := 50

/-- `COOLDOWN_SECONDS` -/
def smokeCooldown : Int := 30

/-- Source: `_threshold` (`server/service/smoke_alert.py:42`). -/
def smokeFloor (minConfidence : Option Int) : Int :=
  match minConfidence with
  | some m => max smokeThreshold m
  | none => smokeThreshold

/-- The detections of smoke and fire of a batch that are good enough. -/
def smokeCandidates (floor : Int) (rows : List SmokeRow) : List SmokeRow :=
  rows.filter fun r => smokeLabels.contains r.label && decide (floor ≤ r.confidence)

/-- The alert for a detection. Source: `process_batch` (`server/service/smoke_alert.py:19`) and
`_bbox` (`server/service/smoke_alert.py:60`). -/
def smokeAlert (cameraId : Nat) (best : SmokeRow) (won : Option Int) : SmokeAlert where
  cameraId
  subtype := best.label
  score := best.confidence
  region := if best.bbox.length = 4 then some best.bbox else none
  won

/-- Where a batch is. -/
inductive SmokeStage
  | start
  | gate (best : SmokeRow)
  | raise (best : SmokeRow) (won : Option Int)
  | raised (best : SmokeRow) (won : Option Int)
  | lost (won : Option Int)
  | done
  deriving DecidableEq, Repr

/-- A batch of the detections of a camera. -/
structure SmokeCall where
  cameraId : Nat
  rows : List SmokeRow
  stage : SmokeStage
  deriving DecidableEq, Repr

structure SmokeStore where
  keys : Expiring Nat
  wins : List (Pass Nat)
  alerts : List SmokeAlert

/-- The environment of a statement: the clock, whether the camera has smoke detection, the floor of
the settings if there is one, whether Redis answers and whether the pipeline raises. The settings
are read for each detection of a batch, in one transaction, so that they are the same for all of
them. -/
structure SmokeEnv where
  now : Int
  on : Bool
  minConfidence : Option Int
  up : Bool
  raises : Bool
  deriving DecidableEq, Repr

/-- The next statement of a batch. Source: `process_batch` (`server/service/smoke_alert.py:19`) and
`_cooldown_ok` (`server/service/smoke_alert.py:65`). -/
def SmokeCall.exec (s : SmokeStore) (t : SmokeCall) (e : SmokeEnv) : SmokeStore × SmokeCall :=
  match t.stage with
  | .start =>
    if e.on then
      match maxBy SmokeRow.confidence (smokeCandidates (smokeFloor e.minConfidence) t.rows) with
      | some best => (s, { t with stage := .gate best })
      | none => (s, { t with stage := .done })
    else (s, { t with stage := .done })
  | .gate best =>
    if e.up then
      let r := s.keys.setNx e.now t.cameraId smokeCooldown
      if r.2 then
        ({ s with keys := r.1, wins := ⟨t.cameraId, e.now, smokeCooldown⟩ :: s.wins },
          { t with stage := .raise best (some e.now) })
      else ({ s with keys := r.1 }, { t with stage := .done })
    -- a Redis that does not answer does not keep an alert back
    else (s, { t with stage := .raise best none })
  | .raise best won =>
    if e.raises then (s, { t with stage := .lost won })
    else ({ s with alerts := smokeAlert t.cameraId best won :: s.alerts },
      { t with stage := .raised best won })
  | _ => (s, t)

abbrev SmokePool := Pool SmokeStore SmokeCall

abbrev SmokeAct := PoolAct (Nat × List SmokeRow) SmokeEnv

/-- One action of the scheduler. -/
def SmokePool.step (p : SmokePool) (a : SmokeAct) : SmokePool :=
  Pool.step (fun b : Nat × List SmokeRow => ⟨b.1, b.2, .start⟩) SmokeCall.exec p a

/-- Before the first batch. -/
def SmokePool.start (keys : Expiring Nat) : SmokePool := ⟨⟨keys, [], []⟩, []⟩

/-! ## Wins and alerts -/

/-- What a batch has taken the key of its camera for. -/
def SmokeCall.wins (t : SmokeCall) : List (Pass Nat) :=
  match t.stage with
  | .raise _ won | .raised _ won | .lost won =>
    (won.map fun w => (⟨t.cameraId, w, smokeCooldown⟩ : Pass Nat)).toList
  | _ => []

/-- What a batch has raised. -/
def SmokeCall.alerts (t : SmokeCall) : List SmokeAlert :=
  match t.stage with
  | .raised best won => [smokeAlert t.cameraId best won]
  | _ => []

/-- The command that an alert is owed to. -/
def SmokeAlert.pass (a : SmokeAlert) : Option (Pass Nat) :=
  a.won.map fun w => ⟨a.cameraId, w, smokeCooldown⟩

/-- The best detection of smoke or fire of a batch, with at least the confidence `least`. -/
structure BestOf (least : Int) (rows : List SmokeRow) (best : SmokeRow) : Prop where
  mem : best ∈ rows
  label : best.label ∈ smokeLabels
  floor : least ≤ best.confidence
  best : ∀ r ∈ rows, r.label ∈ smokeLabels → r.confidence ≤ best.confidence

/-- The detection that a batch is about to raise, or has raised. -/
def SmokeCall.best? (t : SmokeCall) : Option SmokeRow :=
  match t.stage with
  | .gate best | .raise best _ | .raised best _ => some best
  | _ => none

section
variable {s : SmokeStore} {t : SmokeCall} {e : SmokeEnv} {rows : List SmokeRow} {best : SmokeRow}

theorem bestOf_maxBy {floor : Int}
    (h : maxBy SmokeRow.confidence (smokeCandidates floor rows) = some best) :
    BestOf floor rows best := by
  have hmem : best ∈ smokeCandidates floor rows := List.argmax_mem h
  obtain ⟨hrow, hgood⟩ := List.mem_filter.1 hmem
  simp only [Bool.and_eq_true, List.contains_iff_mem, decide_eq_true_eq] at hgood
  refine ⟨hrow, hgood.1, hgood.2, fun r hr hlabel => ?_⟩
  by_cases hr' : floor ≤ r.confidence
  · have hcand : r ∈ smokeCandidates floor rows := List.mem_filter.2
      ⟨hr, by simp [hlabel, hr']⟩
    exact List.le_of_mem_argmax hcand h
  · omega

/-- What a statement does: nothing but a move of the batch that neither wins nor raises, the key is
taken, or an alert is raised. -/
theorem SmokeCall.exec_cases (s : SmokeStore) (t : SmokeCall) (e : SmokeEnv) :
    ((t.exec s e).1 = s ∧ (t.exec s e).2.wins = t.wins ∧ (t.exec s e).2.alerts = t.alerts) ∨
    (∃ now, (t.exec s e).1.wins = ⟨t.cameraId, now, smokeCooldown⟩ :: s.wins ∧
      (t.exec s e).1.alerts = s.alerts ∧ s.keys.live now t.cameraId = false ∧
      (t.exec s e).1.keys = s.keys.setex now t.cameraId smokeCooldown ∧
      (t.exec s e).2.wins = ⟨t.cameraId, now, smokeCooldown⟩ :: t.wins ∧
      (t.exec s e).2.alerts = t.alerts) ∨
    ∃ best won, t.stage = .raise best won ∧
      (t.exec s e).1 = { s with alerts := smokeAlert t.cameraId best won :: s.alerts } ∧
      (t.exec s e).2.wins = t.wins ∧
      (t.exec s e).2.alerts = smokeAlert t.cameraId best won :: t.alerts := by
  obtain ⟨cameraId, rows, stage⟩ := t
  cases stage with
  | start =>
    refine .inl ?_
    simp only [exec]
    repeat' split
    all_goals exact ⟨rfl, rfl, rfl⟩
  | gate best =>
    simp only [exec, Expiring.setNx]
    split
    · cases hlive : s.keys.live e.now cameraId with
      | true => exact .inl ⟨rfl, rfl, rfl⟩
      | false => exact .inr (.inl ⟨e.now, rfl, rfl, hlive, rfl, rfl, rfl⟩)
    · exact .inl ⟨rfl, rfl, rfl⟩
  | raise best won =>
    simp only [exec]
    split
    · exact .inl ⟨rfl, rfl, rfl⟩
    · exact .inr (.inr ⟨best, won, rfl, rfl, rfl, rfl⟩)
  | raised best won => exact .inl ⟨rfl, rfl, rfl⟩
  | lost won => exact .inl ⟨rfl, rfl, rfl⟩
  | done => exact .inl ⟨rfl, rfl, rfl⟩

theorem SmokeCall.batch_exec :
    (t.exec s e).2.cameraId = t.cameraId ∧ (t.exec s e).2.rows = t.rows := by
  unfold SmokeCall.exec Expiring.setNx
  repeat' split
  all_goals exact ⟨rfl, rfl⟩

/-- What a batch raises is what its first statement has picked. -/
theorem SmokeCall.best?_exec (h : (t.exec s e).2.best? = some best) :
    t.best? = some best ∨
      t.stage = .start ∧ e.on = true ∧ BestOf (smokeFloor e.minConfidence) t.rows best := by
  obtain ⟨cameraId, rows, stage⟩ := t
  cases stage with
  | start =>
    refine .inr ?_
    simp only [SmokeCall.exec] at h
    split at h
    · next hon =>
      split at h
      · next picked hpicked =>
        cases h
        exact ⟨rfl, hon, bestOf_maxBy hpicked⟩
      · cases h
    · cases h
  | _ =>
    refine .inl ?_
    simp only [SmokeCall.exec] at h
    repeat' split at h
    all_goals first
      | exact h
      | cases h

end

/-! ## Every interleaving -/

/-- The store has what the batches have won and raised, and the wins are a window apart. -/
structure SmokeInv (p : SmokePool) : Prop where
  wins : p.shared.wins.Perm (p.threads.flatMap SmokeCall.wins)
  alerts : p.shared.alerts.Perm (p.threads.flatMap SmokeCall.alerts)
  spaced : Spaced p.shared.keys p.shared.wins

section
variable {p : SmokePool}

theorem SmokeInv.step (h : SmokeInv p) (a : SmokeAct) : SmokeInv (p.step a) := by
  unfold SmokePool.step
  rcases Pool.step_cases p a with heq | ⟨b, -, heq⟩ | ⟨i, e, t, -, ht, heq⟩
  · rw [heq]
    exact h
  · rw [heq]
    exact ⟨by simpa [SmokeCall.wins] using h.wins, by simpa [SmokeCall.alerts] using h.alerts,
      h.spaced⟩
  rw [heq]
  -- what a statement adds to a log of the store it adds to that of its batch
  have hkeep {β : Type} {f : SmokeCall → List β} (hf : f (t.exec p.shared e).2 = f t) :
      (p.threads.flatMap f).Perm ((p.threads.set i (t.exec p.shared e).2).flatMap f) :=
    (Pool.perm_flatMap_exec f ht (.of_eq hf : List.Perm _ ([] ++ f t))).symm
  have hadd {β : Type} {f : SmokeCall → List β} {x : β} (hf : f (t.exec p.shared e).2 = x :: f t) :
      (x :: p.threads.flatMap f).Perm ((p.threads.set i (t.exec p.shared e).2).flatMap f) :=
    (Pool.perm_flatMap_exec f ht (.of_eq hf : List.Perm _ ([x] ++ f t))).symm
  rcases t.exec_cases p.shared e with ⟨hstore, hwins, halerts⟩ |
    ⟨now, hstore, halerts, hfree, hkeys, hwins, hsame⟩ | ⟨best, won, -, hstore, hwins, halerts⟩
  · rw [hstore]
    exact ⟨h.wins.trans (hkeep hwins), h.alerts.trans (hkeep halerts), h.spaced⟩
  · refine ⟨?_, ?_, ?_⟩
    · rw [hstore]
      exact (h.wins.cons _).trans (hadd hwins)
    · rw [halerts]
      exact h.alerts.trans (hkeep hsame)
    · rw [hstore, hkeys]
      exact h.spaced.pass _ hfree (by decide)
  · rw [hstore]
    exact ⟨h.wins.trans (hkeep hwins), (h.alerts.cons _).trans (hadd halerts), h.spaced⟩

/-- Two wins of a camera are a window apart, whichever came first. -/
def WindowApart (a b : Pass Nat) : Prop :=
  a.key = b.key → a.time + seconds smokeCooldown ≤ b.time ∨ b.time + seconds smokeCooldown ≤ a.time

theorem WindowApart.symm {a b : Pass Nat} (h : WindowApart a b) : WindowApart b a :=
  fun hkey => (h hkey.symm).symm

/-- The alerts of a batch are owed to what it has won. -/
theorem SmokeCall.pass_alerts (t : SmokeCall) :
    (t.alerts.filterMap SmokeAlert.pass).Sublist t.wins := by
  obtain ⟨cameraId, rows, stage⟩ := t
  cases stage with
  | raised best won =>
    cases won <;> exact .refl _
  | _ => exact List.nil_sublist _

theorem SmokeCall.ttl_wins {t : SmokeCall} {x : Pass Nat} (h : x ∈ t.wins) :
    x.ttl = smokeCooldown := by
  obtain ⟨cameraId, rows, stage⟩ := t
  cases stage with
  | raise best won | raised best won | lost won =>
    cases won with
    | none => cases h
    | some w =>
      rw [List.mem_singleton.1 h]
  | _ => cases h

theorem SmokeInv.apart (h : SmokeInv p) :
    (p.shared.alerts.filterMap SmokeAlert.pass).Pairwise WindowApart := by
  have hwins : p.shared.wins.Pairwise WindowApart := by
    refine h.spaced.apart.imp_of_mem fun {a b} _ hb hab hkey => .inr ?_
    obtain ⟨t, -, ht⟩ := List.mem_flatMap.1 (h.wins.subset hb)
    have hle := hab hkey
    rwa [SmokeCall.ttl_wins ht] at hle
  have hthreads := (h.wins.pairwise_iff WindowApart.symm).1 hwins
  have hsub : ((p.threads.flatMap SmokeCall.alerts).filterMap SmokeAlert.pass).Sublist
      (p.threads.flatMap SmokeCall.wins) := by
    generalize p.threads = l
    induction l with
    | nil => exact .slnil
    | cons t l ih =>
      rw [List.flatMap_cons, List.flatMap_cons, List.filterMap_append]
      exact t.pass_alerts.append ih
  exact ((h.alerts.filterMap _).pairwise_iff WindowApart.symm).2 (hthreads.sublist hsub)

end

/-- In every interleaving of batches, the alerts of a camera for which Redis has answered are owed
to commands that are a window apart; and each alert is for the best detection of smoke or fire of
one of the batches of the camera, with at least the floor that the batch has read from the
settings. -/
theorem smoke_once (keys : Expiring Nat) (as : List SmokeAct) :
    (((as.foldl SmokePool.step (.start keys)).shared.alerts.Pairwise fun a b =>
      a.cameraId = b.cameraId → ∀ v ∈ a.won, ∀ w ∈ b.won,
        v + seconds smokeCooldown ≤ w ∨ w + seconds smokeCooldown ≤ v)) ∧
    ∀ a ∈ (as.foldl SmokePool.step (.start keys)).shared.alerts,
      ∃ i t, (as.foldl SmokePool.step (.start keys)).threads[i]? = some t ∧
        t.cameraId = a.cameraId ∧
        ∃ pre e, pre ++ [.exec i e] <+: as ∧
          (pre.foldl SmokePool.step (.start keys)).threads[i]? = some { t with stage := .start } ∧
          e.on = true ∧ ∃ best, BestOf (smokeFloor e.minConfidence) t.rows best ∧
            a = smokeAlert t.cameraId best a.won := by
  have hinv : SmokeInv (as.foldl SmokePool.step (.start keys)) := by
    induction as using List.reverseRecOn with
    | nil => exact ⟨.nil, .nil, .nil⟩
    | append_singleton as a ih =>
      rw [List.foldl_append]
      exact ih.step a
  refine ⟨?_, fun a ha => ?_⟩
  · refine (List.pairwise_filterMap.1 hinv.apart).imp fun {a b} h hcam v hv w hw => ?_
    rw [Option.mem_def] at hv hw
    exact h _ (by rw [SmokeAlert.pass, hv]; rfl) _ (by rw [SmokeAlert.pass, hw]; rfl) hcam
  · obtain ⟨t, ht, hmem⟩ := List.mem_flatMap.1 (hinv.alerts.subset ha)
    obtain ⟨i, hi⟩ := List.getElem?_of_mem ht
    obtain ⟨cameraId, rows, stage⟩ := t
    cases stage with
    | raised best won =>
      obtain rfl := List.mem_singleton.1 hmem
      obtain ⟨pre, e, u, hpre, hu, hnot, hcam, hrows, hbest⟩ := Pool.exists_exec_getElem?
        (Q := fun t => t.cameraId = cameraId ∧ t.rows = rows ∧ t.best? = some best)
        (fun r h => absurd (h.2.2 : none = some best) (by simp))
        (fun t ht => absurd ht List.not_mem_nil) hi ⟨rfl, rfl, rfl⟩
      rw [SmokeCall.batch_exec.1] at hcam
      rw [SmokeCall.batch_exec.2] at hrows
      obtain hbefore | ⟨hstage, hon, hpicked⟩ := SmokeCall.best?_exec hbest
      · exact absurd ⟨hcam, hrows, hbefore⟩ hnot
      · obtain ⟨cameraId', rows', stage'⟩ := u
        obtain rfl : cameraId' = cameraId := hcam
        obtain rfl : rows' = rows := hrows
        obtain rfl : stage' = .start := hstage
        exact ⟨i, _, hi, rfl, pre, e, hpre, hu, hon, best, hpicked, rfl⟩
    | _ => cases hmem

end AeroXProtect
