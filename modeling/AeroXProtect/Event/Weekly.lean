import AeroXProtect.Event.Tables
import AeroXProtect.Lib.Decoded
import AeroXProtect.Lib.Script

/-!
# Weekly schedules

A schedule arrives as a list of rules, each a window of one weekday that may run past midnight.
`validateRules` checks the list and cuts such a window in two, `replaceForCamera` stores the result
in place of the camera's rows, and the resolver looks at the rows of one day only. `WeekRule` is the
rule that was meant, with its window on the circle of the 10080 minutes of the week, and
`schedule_mode` says that the resolver answers by the rules that were meant.
-/

open Lib

namespace AeroXProtect

/-! ## The check -/

/-- The text of a mode. -/
def ScheduleMode.text : ScheduleMode → String
  | .continuous => "continuous"
  | .event => "event"
  | .motionOnly => "motion_only"
  | .off => "off"

/-- Source: `MODES` (`server/model/schedule.py:11`). -/
def scheduleModes : List ScheduleMode := [.continuous, .event, .motionOnly, .off]

/-- The mode of a value in `MODES`. -/
def modeOf : PyValue → Option ScheduleMode
  | .str s => scheduleModes.find? fun m => decide (m.text = s)
  | _ => none

/-- A refusal, or an exception that the check does not expect. -/
inductive RulesError
  | invalid (message : String)
  | raised (e : PyError)
  deriving DecidableEq, Repr

/-- A rule with a mode. -/
structure CleanRule where
  rule : PyValue
  mode : ScheduleMode
  named : modeOf (rule.field "mode") = some mode

/-- The weekday and the minutes of a rule. -/
def ruleWindow (r : PyValue) : Except PyError (Int × Int × Int) := do
  let dow ← r.intAt "day_of_week"
  let start ← r.intAt "start_min"
  let stop ← r.intAt "end_min"
  return (dow, start, stop)

namespace CleanRule

/-- `{**r, key: v}` for a key other than the mode. -/
def set (c : CleanRule) (key : String) (v : PyValue) (h : "mode" ≠ key) : CleanRule :=
  ⟨c.rule.set key v, c.mode, (congrArg modeOf (PyValue.field_set_of_ne h)).trans c.named⟩

end CleanRule

/-- The check of one rule, and what is stored for it: the rule, or its two parts when it runs past
midnight. -/
def validateRule (r : PyValue) : Except RulesError (List CleanRule) :=
  match ruleWindow r with
  | .error .overflowError => .error (.raised .overflowError)
  | .error _ =>
    .error (.invalid "each rule needs integer day_of_week/start_min/end_min")
  | .ok (dow, start, stop) =>
    if ¬ (0 ≤ dow ∧ dow ≤ 6) then .error (.invalid "day_of_week must be 0..6")
    else if ¬ (0 ≤ start ∧ start ≤ 1440 ∧ 0 ≤ stop ∧ stop ≤ 1440 ∧ start ≠ stop) then
      .error (.invalid "require start_min/end_min in 0..1440 and start != end")
    else
      match hmode : modeOf (r.field "mode") with
      | none =>
        .error (.invalid "mode must be one of ('continuous', 'event', 'motion_only', 'off')")
      | some mode =>
        let c : CleanRule := ⟨r, mode, hmode⟩
        if start < stop then .ok [c]
        else
          .ok [(c.set "start_min" (.int start) (by decide)).set "end_min" (.int 1440) (by decide),
            ((c.set "day_of_week" (.int ((dow + 1) % 7)) (by decide)).set "start_min" (.int 0)
              (by decide)).set "end_min" (.int stop) (by decide)]

/-- Source: `_validate_rules` (`server/controller/schedule.py:11`). -/
def validateRules : PyValue → Except RulesError (List CleanRule)
  | .list items => do
    let cleaned ← items.mapM validateRule
    return cleaned.flatten
  | _ => .error (.invalid "rules must be a list")

/-! ## The rows -/

/-- A window of one weekday, its mode and its priority. -/
structure WeekRule where
  day : Int
  start : Int
  stop : Int
  mode : ScheduleMode
  priority : Int
  deriving DecidableEq, Repr

/-- The columns that are read of a rule. -/
def ruleColumns (c : CleanRule) : Except PyError WeekRule := do
  let (dow, start, stop) ← ruleWindow c.rule
  let priority ← c.rule.getD "priority" (.int 0) >>= PyValue.toInt
  return ⟨dow, start, stop, c.mode, priority⟩

/-- The row of a rule. -/
def WeekRule.row (x : WeekRule) (t : Schedules) (cameraId : Nat) : Schedule where
  id := t.freshKey
  cameraId := cameraId
  dayOfWeek := x.day.toNat
  startMin := x.start
  endMin := x.stop
  mode := x.mode
  priority := x.priority
  enabled := true
  deletedAt := none

/-- Replace the camera's rows. `committed` is whether the database takes the new ones; what raises
or is refused leaves the rows as they were. Source: `Schedule.replace_for_camera`
(`server/model/schedule.py:41`). -/
def Schedules.replaceForCamera (t : Schedules) (cameraId : Nat) (now : Int) (committed : Bool)
    (rules : List CleanRule) : Except PyError (Option Schedules) := do
  let columns ← rules.mapM ruleColumns
  let cleared := t.modify (fun g => decide (g.cameraId = cameraId) && g.deletedAt.isNone)
    fun g => { g with deletedAt := some now }
  return if committed then
    some (columns.foldl (fun t x => t.insert (x.row t cameraId)) cleared)
  else none

/-! ## The rules that were meant -/

/-- The value is this rule. -/
structure IsRule (r : PyValue) (x : WeekRule) : Prop where
  window : ruleWindow r = .ok (x.day, x.start, x.stop)
  mode : modeOf (r.field "mode") = some x.mode
  priority : r.getD "priority" (.int 0) >>= PyValue.toInt = .ok x.priority

namespace WeekRule

/-- The ranges that the check admits. -/
structure Valid (x : WeekRule) : Prop where
  day : 0 ≤ x.day ∧ x.day ≤ 6
  start : 0 ≤ x.start ∧ x.start ≤ 1440
  stop : 0 ≤ x.stop ∧ x.stop ≤ 1440
  ne : x.start ≠ x.stop

/-- The length of the window; one that does not end after it starts ends on the next day. -/
def length (x : WeekRule) : Int :=
  if x.start < x.stop then x.stop - x.start else x.stop + 1440 - x.start

/-- The window contains the minute of the day, on the circle of the minutes of the week. -/
def Contains (x : WeekRule) (dow minute : Int) : Prop :=
  (1440 * dow + minute - (1440 * x.day + x.start)) % 10080 < x.length

instance (x : WeekRule) (dow minute : Int) : Decidable (x.Contains dow minute) :=
  inferInstanceAs (Decidable (_ < _))

/-- The parts of a window that lie on one day each. -/
def parts (x : WeekRule) : List WeekRule :=
  if x.start < x.stop then [x]
  else [{ x with stop := 1440 }, { x with day := (x.day + 1) % 7, start := 0 }]

/-- The part of a day contains the minute. -/
def On (x : WeekRule) (dow minute : Int) : Prop :=
  x.day = dow ∧ x.start ≤ minute ∧ minute < x.stop

section
variable {x y : WeekRule} {dow minute : Int}

/-- The parts cover the window. -/
theorem contains_iff (h : x.Valid) (hdow : 0 ≤ dow ∧ dow ≤ 6) (hmin : 0 ≤ minute ∧ minute < 1440) :
    x.Contains dow minute ↔ ∃ y ∈ x.parts, y.On dow minute := by
  obtain ⟨hday, hstart, hstop, hne⟩ := h
  unfold Contains parts length On
  split
  · simp only [List.mem_singleton, exists_eq_left]
    omega
  · simp only [List.mem_cons, List.not_mem_nil, or_false, exists_eq_or_imp, exists_eq_left]
    omega

/-- A part has the mode and the priority of the rule. -/
theorem of_mem_parts (h : y ∈ x.parts) : y.mode = x.mode ∧ y.priority = x.priority := by
  unfold parts at h
  split at h
  · cases List.mem_singleton.1 h
    exact ⟨rfl, rfl⟩
  · rcases List.mem_pair.1 h with rfl | rfl <;> exact ⟨rfl, rfl⟩

theorem day_nonneg_of_mem_parts (hx : x.Valid) (h : y ∈ x.parts) : 0 ≤ y.day := by
  unfold parts at h
  split at h
  · cases List.mem_singleton.1 h
    exact hx.day.1
  · rcases List.mem_pair.1 h with rfl | rfl
    · exact hx.day.1
    · exact Int.emod_nonneg _ (by decide)

end

end WeekRule

/-- The mode is that of a rule of the highest priority among those whose window contains the minute,
and `continuous` when there is none. -/
structure FollowsRules (mode : ScheduleMode) (meant : List WeekRule) (dow minute : Int) : Prop where
  scheduled : (∃ x ∈ meant, x.Contains dow minute) → ∃ x ∈ meant, x.Contains dow minute ∧
    (∀ y ∈ meant, y.Contains dow minute → y.priority ≤ x.priority) ∧ mode = x.mode
  unscheduled : (∀ x ∈ meant, ¬ x.Contains dow minute) → mode = .continuous

/-! ## What is stored -/

section
variable {r : PyValue} {c : CleanRule} {clean : List CleanRule} {columns : List WeekRule}
  {dow start stop : Int} {x : WeekRule}

theorem ruleWindow_eq_ok : ruleWindow r = .ok (dow, start, stop) ↔
    r.intAt "day_of_week" = .ok dow ∧ r.intAt "start_min" = .ok start ∧
      r.intAt "end_min" = .ok stop := by
  unfold ruleWindow
  simp only [bind_eq_ok, pure, Except.pure, Except.ok.injEq, Prod.mk.injEq]
  constructor
  · rintro ⟨_, h₁, _, h₂, _, h₃, rfl, rfl, rfl⟩
    exact ⟨h₁, h₂, h₃⟩
  · rintro ⟨h₁, h₂, h₃⟩
    exact ⟨_, h₁, _, h₂, _, h₃, rfl, rfl, rfl⟩

theorem ruleColumns_eq_ok : ruleColumns c = .ok x ↔
    ruleWindow c.rule = .ok (x.day, x.start, x.stop) ∧ x.mode = c.mode ∧
      c.rule.getD "priority" (.int 0) >>= PyValue.toInt = .ok x.priority := by
  unfold ruleColumns
  simp only [bind_eq_ok, pure, Except.pure, Except.ok.injEq]
  constructor
  · rintro ⟨⟨_, _, _⟩, h₁, _, ⟨v, h₂, h₃⟩, rfl⟩
    exact ⟨h₁, rfl, v, h₂, h₃⟩
  · rintro ⟨h₁, h₂, h₃⟩
    exact ⟨_, h₁, _, h₃, by rw [← h₂]⟩

/-- A rule with other minutes has the same weekday, mode and priority. -/
theorem ruleColumns_set {a b : Int} {h₁ : "mode" ≠ "start_min"} {h₂ : "mode" ≠ "end_min"}
    (hd : c.rule.isDict = true)
    (h : ruleColumns ((c.set "start_min" (.int a) h₁).set "end_min" (.int b) h₂) = .ok x) :
    c.rule.intAt "day_of_week" = .ok x.day ∧ x.start = a ∧ x.stop = b ∧ x.mode = c.mode ∧
      c.rule.getD "priority" (.int 0) >>= PyValue.toInt = .ok x.priority := by
  have hd' : (c.rule.set "start_min" (.int a)).isDict = true := PyValue.isDict_set hd
  obtain ⟨hwindow, hmode, hpriority⟩ := ruleColumns_eq_ok.1 h
  rw [ruleWindow_eq_ok] at hwindow
  simp only [CleanRule.set, PyValue.intAt_set hd', PyValue.intAt_set hd, PyValue.getD_set hd',
    PyValue.getD_set hd, PyValue.toInt] at hwindow hpriority
  obtain ⟨hday, hstart, hstop⟩ := hwindow
  exact ⟨hday, (Except.ok.inj hstart).symm, (Except.ok.inj hstop).symm, hmode, hpriority⟩

/-- The columns of the rows of a rule are its parts. -/
theorem columns_of_validateRule (h : validateRule r = .ok clean)
    (hcolumns : List.Forall₂ (fun c x => ruleColumns c = .ok x) clean columns) :
    ∃ x, IsRule r x ∧ x.Valid ∧ columns = x.parts := by
  unfold validateRule at h
  split at h
  · cases h
  · cases h
  next dow start stop hw =>
  split at h
  · cases h
  next hday =>
  split at h
  · cases h
  next hrange =>
  split at h
  · cases h
  next mode hmode =>
  obtain ⟨hdow, hstart, hstop⟩ := ruleWindow_eq_ok.1 hw
  have hd := PyValue.isDict_of_intAt hdow
  dsimp only at h
  split at h
  · next hlt =>
    cases h
    cases hcolumns with
    | cons hx hnil =>
    cases hnil
    obtain ⟨hwindow, hxmode, hpriority⟩ := ruleColumns_eq_ok.1 hx
    cases hw.symm.trans hwindow
    exact ⟨_, ⟨hw, hmode.trans (congrArg some hxmode.symm), hpriority⟩,
      ⟨by omega, by omega, by omega, by omega⟩, (if_pos hlt).symm⟩
  · next hge =>
    cases h
    cases hcolumns with
    | @cons _ x _ _ hx hcolumns =>
    cases hcolumns with
    | @cons _ y _ _ hy hnil =>
    cases hnil
    obtain ⟨hday₁, hstart₁, hstop₁, hmode₁, hpriority₁⟩ := ruleColumns_set hd hx
    obtain ⟨hday₂, hstart₂, hstop₂, hmode₂, hpriority₂⟩ :=
      ruleColumns_set (PyValue.isDict_set hd) hy
    simp only [CleanRule.set, PyValue.intAt_set hd, PyValue.getD_set hd] at hday₂ hpriority₂
    obtain ⟨day₁, start₁, stop₁, mode₁, priority₁⟩ := x
    obtain ⟨day₂, start₂, stop₂, mode₂, priority₂⟩ := y
    simp only at hday₁ hstart₁ hstop₁ hmode₁ hpriority₁ hday₂ hstart₂ hstop₂ hmode₂ hpriority₂
    cases hdow.symm.trans hday₁
    cases Except.ok.inj hday₂
    cases Except.ok.inj (hpriority₁.symm.trans hpriority₂)
    subst hstart₁ hstop₁ hmode₁ hstart₂ hstop₂ hmode₂
    refine ⟨⟨dow, start₁, stop₂, _, priority₁⟩, ⟨hw, hmode, hpriority₁⟩, ?_, (if_neg hge).symm⟩
    constructor <;> dsimp only <;> omega

/-- The columns of the rows of a list of rules are the parts of the rules that were meant. -/
theorem columns_of_validateRules {items : List PyValue} {cleaned : List (List CleanRule)}
    (h : List.Forall₂ (fun r clean => validateRule r = .ok clean) items cleaned)
    (hcolumns : cleaned.flatten.mapM ruleColumns = .ok columns) :
    ∃ meant, List.Forall₂ IsRule items meant ∧ (∀ x ∈ meant, x.Valid) ∧
      columns = meant.flatMap WeekRule.parts := by
  induction h generalizing columns with
  | nil =>
    cases hcolumns
    exact ⟨[], .nil, nofun, rfl⟩
  | @cons r clean items cleaned hr _ ih =>
    rw [List.flatten_cons, List.mapM_append] at hcolumns
    obtain ⟨first, hfirst, hcolumns⟩ := bind_eq_ok.1 hcolumns
    obtain ⟨rest, hrest, hcolumns⟩ := bind_eq_ok.1 hcolumns
    cases hcolumns
    obtain ⟨x, hx, hvalid, rfl⟩ := columns_of_validateRule hr (mapM_eq_ok.1 hfirst)
    obtain ⟨meant, hmeant, hall, rfl⟩ := ih hrest
    exact ⟨x :: meant, .cons hx hmeant, List.forall_mem_cons.2 ⟨hvalid, hall⟩, rfl⟩

end

/-! ## The rows of the camera -/

/-- The rule that a row holds. -/
def Schedule.rule (g : Schedule) : WeekRule :=
  ⟨g.dayOfWeek, g.startMin, g.endMin, g.mode, g.priority⟩

section
variable {t : Schedules} {cameraId : Nat} {columns : List WeekRule} {now : Int}

theorem rule_row {x : WeekRule} (h : 0 ≤ x.day) : (x.row t cameraId).rule = x := by
  cases x
  simp only [Schedule.rule, WeekRule.row] at h ⊢
  rw [Int.toNat_of_nonneg h]

/-- The rows are appended. -/
theorem rows_foldl_insert (t : Schedules) (h : ∀ x ∈ columns, 0 ≤ x.day) :
    ∃ added, (columns.foldl (fun t x => t.insert (x.row t cameraId)) t).rows = t.rows ++ added ∧
      added.map Schedule.rule = columns ∧
      ∀ g ∈ added, g.cameraId = cameraId ∧ g.deletedAt = none ∧ g.enabled = true := by
  have hkey : ∀ (x : WeekRule) (t : Schedules), (x.row t cameraId).id = t.freshKey := fun _ _ => rfl
  obtain ⟨added, hrows, hall⟩ := Table.rows_foldl_insert hkey columns t
  refine ⟨added, hrows, ?_⟩
  clear hrows
  induction hall with
  | nil => exact ⟨rfl, nofun⟩
  | cons hrow _ ih =>
    obtain ⟨t, rfl⟩ := hrow
    obtain ⟨hx, hrest⟩ := List.forall_mem_cons.1 h
    obtain ⟨hmap, hlive⟩ := ih hrest
    exact ⟨congrArg₂ _ (rule_row hx) hmap, List.forall_mem_cons.2 ⟨⟨rfl, rfl, rfl⟩, hlive⟩⟩

/-- The live rows of the camera are those of the rules that were stored last. -/
theorem getForCameraDow_replaced {clean : List CleanRule} {committed : Bool} {t' : Schedules}
    (h : t.replaceForCamera cameraId now committed clean = .ok (some t'))
    (hcolumns : clean.mapM ruleColumns = .ok columns) (hday : ∀ x ∈ columns, 0 ≤ x.day) :
    ∃ added : List Schedule, added.map Schedule.rule = columns ∧ ∀ dow g,
      g ∈ t'.getForCameraDow cameraId dow ↔ g ∈ added ∧ g.dayOfWeek = dow := by
  unfold Schedules.replaceForCamera at h
  rw [hcolumns] at h
  cases committed with
  | false => cases h
  | true =>
    cases h
    obtain ⟨added, hrows, hmap, hall⟩ := @rows_foldl_insert cameraId columns (t.modify
      (fun g => decide (g.cameraId = cameraId) && g.deletedAt.isNone)
      fun g => { g with deletedAt := some now }) hday
    refine ⟨added, hmap, fun dow g => ?_⟩
    unfold Schedules.getForCameraDow
    rw [hrows, List.filter_append, List.mem_append, List.mem_filter, List.mem_filter]
    simp only [Bool.and_eq_true, decide_eq_true_iff, Option.isNone_iff_eq_none]
    constructor
    · rintro (⟨hg, ⟨⟨hcam, -⟩, hlive⟩, -⟩ | ⟨hg, ⟨⟨-, hdow⟩, -⟩, -⟩)
      · obtain ⟨x, -, rfl⟩ := Table.mem_modify.1 hg
        split at hlive
        · cases hlive
        · next hno =>
          rw [if_neg hno] at hcam
          exact absurd (by simp [hcam, hlive]) hno
      · exact ⟨hg, hdow⟩
    · rintro ⟨hg, hdow⟩
      obtain ⟨hcam, hlive, hen⟩ := hall g hg
      exact .inr ⟨hg, ⟨⟨hcam, hdow⟩, hlive⟩, hen⟩

/-- The first row of the highest priority. -/
theorem highestPriority_spec {l : List Schedule} :
    (l = [] ∧ highestPriority l = none) ∨
      ∃ g ∈ l, highestPriority l = some g ∧ ∀ g' ∈ l, g'.priority ≤ g.priority := by
  have hfold : ∀ (rest : List Schedule) (best : Schedule),
      let g := rest.foldl (fun best r => if r.priority > best.priority then r else best) best
      g ∈ best :: rest ∧ ∀ g' ∈ best :: rest, g'.priority ≤ g.priority := by
    intro rest
    induction rest with
    | nil =>
      exact fun best => ⟨.head _, fun g' hg' => by rw [List.mem_singleton.1 hg']; exact le_refl _⟩
    | cons r rest ih =>
      intro best
      obtain ⟨hmem, hmax⟩ := ih (if r.priority > best.priority then r else best)
      rw [List.foldl_cons]
      generalize rest.foldl (fun best r => if r.priority > best.priority then r else best)
        (if r.priority > best.priority then r else best) = g at hmem hmax ⊢
      have hhead := hmax _ (.head _)
      refine ⟨?_, List.forall_mem_cons.2 ⟨?_, List.forall_mem_cons.2 ⟨?_, fun g' hg' =>
        hmax g' (.tail _ hg')⟩⟩⟩
      · rcases List.mem_cons.1 hmem with rfl | hmem
        · split
          · exact .tail _ (.head _)
          · exact .head _
        · exact .tail _ (.tail _ hmem)
      · split at hhead <;> omega
      · split at hhead <;> omega
  cases l with
  | nil => exact .inl ⟨rfl, rfl⟩
  | cons r rest =>
    obtain ⟨hmem, hmax⟩ := hfold rest r
    exact .inr ⟨_, hmem, rfl, hmax⟩

end

/-- The resolver answers the mode of an applicable row of the highest priority, or `continuous`. -/
theorem mode_cases (t : Schedules) (siteLocal : Int → Nat × Int) (cameraId : Nat) (ts : Int) :
    ((∀ g ∈ t.getForCameraDow cameraId (siteLocal ts).1,
        ¬ g.rule.On (siteLocal ts).1 (siteLocal ts).2) ∧
      ScheduleResolver.mode t siteLocal cameraId ts = .continuous) ∨
    ∃ g ∈ t.getForCameraDow cameraId (siteLocal ts).1,
      g.rule.On (siteLocal ts).1 (siteLocal ts).2 ∧
      (∀ g' ∈ t.getForCameraDow cameraId (siteLocal ts).1,
        g'.rule.On (siteLocal ts).1 (siteLocal ts).2 → g'.priority ≤ g.priority) ∧
      ScheduleResolver.mode t siteLocal cameraId ts = g.mode := by
  have hmem : ∀ g, g ∈ ((t.getForCameraDow cameraId (siteLocal ts).1).filter fun r =>
      decide (r.startMin ≤ (siteLocal ts).2) && decide ((siteLocal ts).2 < r.endMin)) ↔
      g ∈ t.getForCameraDow cameraId (siteLocal ts).1 ∧
        g.rule.On (siteLocal ts).1 (siteLocal ts).2 := by
    intro g
    rw [List.mem_filter, Bool.and_eq_true, decide_eq_true_iff, decide_eq_true_iff]
    refine and_congr_right fun hg => ⟨fun h => ⟨?_, h⟩, fun h => h.2⟩
    obtain ⟨-, hrow⟩ := List.mem_filter.1 hg
    simp only [Bool.and_eq_true, decide_eq_true_iff] at hrow
    exact congrArg Int.ofNat hrow.1.1.2
  unfold ScheduleResolver.mode
  dsimp only
  rcases highestPriority_spec with ⟨hnil, hnone⟩ | ⟨g, hg, hsome, hmax⟩
  · rw [hnone]
    refine .inl ⟨fun g hg hon => ?_, rfl⟩
    have hin := (hmem g).2 ⟨hg, hon⟩
    rw [hnil] at hin
    cases hin
  · rw [hsome]
    obtain ⟨hrow, hon⟩ := (hmem g).1 hg
    exact .inr ⟨g, hrow, hon, fun g' hg' hon' => hmax g' ((hmem g').2 ⟨hg', hon'⟩), rfl⟩

/-- The resolver follows the rules that were meant. -/
theorem schedule_mode (t t' : Schedules) (cameraId : Nat) (now : Int) (committed : Bool)
    (rules : PyValue) (clean : List CleanRule) (siteLocal : Int → Nat × Int) (ts : Int)
    (hvalid : validateRules rules = .ok clean)
    (hstored : t.replaceForCamera cameraId now committed clean = .ok (some t'))
    (hdow : (siteLocal ts).1 ≤ 6) (hmin : 0 ≤ (siteLocal ts).2 ∧ (siteLocal ts).2 < 1440) :
    ∃ items meant, rules = .list items ∧ List.Forall₂ IsRule items meant ∧
      FollowsRules (ScheduleResolver.mode t' siteLocal cameraId ts) meant (siteLocal ts).1
        (siteLocal ts).2 := by
  cases rules with
  | list items =>
    obtain ⟨cleaned, hcleaned, hflat⟩ := bind_eq_ok.1 hvalid
    cases hflat
    obtain ⟨columns, hcolumns, -⟩ := bind_eq_ok.1 hstored
    obtain ⟨meant, hmeant, hall, heq⟩ := columns_of_validateRules (mapM_eq_ok.1 hcleaned) hcolumns
    have hday : ∀ x ∈ columns, 0 ≤ x.day := by
      intro x hx
      rw [heq] at hx
      obtain ⟨y, hy, hpart⟩ := List.mem_flatMap.1 hx
      exact WeekRule.day_nonneg_of_mem_parts (hall y hy) hpart
    obtain ⟨added, hmap, hrows⟩ := getForCameraDow_replaced hstored hcolumns hday
    have hdow' : (0 : Int) ≤ (siteLocal ts).1 ∧ ((siteLocal ts).1 : Int) ≤ 6 := by omega
    -- a row on the minute is a part of a rule that contains it, and the other way round
    have hrule : ∀ g ∈ t'.getForCameraDow cameraId (siteLocal ts).1,
        g.rule.On (siteLocal ts).1 (siteLocal ts).2 → ∃ x ∈ meant,
          x.Contains (siteLocal ts).1 (siteLocal ts).2 ∧ g.mode = x.mode ∧
            g.priority = x.priority := by
      intro g hg hon
      have hin : g.rule ∈ columns := hmap ▸ List.mem_map_of_mem ((hrows _ g).1 hg).1
      rw [heq] at hin
      obtain ⟨x, hx, hpart⟩ := List.mem_flatMap.1 hin
      exact ⟨x, hx, (WeekRule.contains_iff (hall x hx) hdow' hmin).2 ⟨_, hpart, hon⟩,
        WeekRule.of_mem_parts hpart⟩
    have hrow : ∀ x ∈ meant, x.Contains (siteLocal ts).1 (siteLocal ts).2 →
        ∃ g ∈ t'.getForCameraDow cameraId (siteLocal ts).1,
          g.rule.On (siteLocal ts).1 (siteLocal ts).2 ∧ g.priority = x.priority := by
      intro x hx hcontains
      obtain ⟨y, hpart, hon⟩ := (WeekRule.contains_iff (hall x hx) hdow' hmin).1 hcontains
      have hin : y ∈ columns := heq ▸ List.mem_flatMap.2 ⟨x, hx, hpart⟩
      rw [← hmap] at hin
      obtain ⟨g, hg, rfl⟩ := List.mem_map.1 hin
      exact ⟨g, (hrows _ g).2 ⟨hg, Int.ofNat_inj.1 hon.1⟩, hon, (WeekRule.of_mem_parts hpart).2⟩
    refine ⟨items, meant, rfl, hmeant, ?_⟩
    rcases mode_cases t' siteLocal cameraId ts with ⟨hnone, hmode⟩ | ⟨g, hg, hon, hmax, hmode⟩
    · refine ⟨?_, fun _ => hmode⟩
      rintro ⟨x, hx, hcontains⟩
      obtain ⟨g, hg, hon, -⟩ := hrow x hx hcontains
      exact absurd hon (hnone g hg)
    · obtain ⟨x, hx, hcontains, hm, hp⟩ := hrule g hg hon
      refine ⟨fun _ => ⟨x, hx, hcontains, fun y hy hy' => ?_, hmode.trans hm⟩, fun hno => ?_⟩
      · obtain ⟨g', hg', hon', hp'⟩ := hrow y hy hy'
        rw [← hp, ← hp']
        exact hmax g' hg' hon'
      · exact absurd hcontains (hno x hx)
  | _ => cases hvalid

namespace WeeklyFixture

/-- A rule as the client sends it. -/
def rule (dow start stop : Int) (mode : String) (priority : Int) : PyValue :=
  .dict [("day_of_week", .int dow), ("start_min", .int start), ("end_min", .int stop),
    ("mode", .str mode), ("priority", .int priority)]

/-- Sunday from 22:00 to 06:00, over a rule for all of Monday. -/
def overnight : PyValue :=
  .list [rule 6 1320 360 "off" 5, rule 0 0 1440 "event" 1]

/-- Monday's first hour is to be recorded. -/
def recorded : PyValue := .list [rule 0 0 60 "continuous" 0]

/-- Half past midnight on Monday. -/
def monday (_ : Int) : Nat × Int := (0, 30)

end WeeklyFixture

open WeeklyFixture in
/-- The rule of Sunday night applies on Monday morning. -/
theorem schedule_mode_overnight :
    ∃ clean t', validateRules overnight = .ok clean ∧
      Schedules.replaceForCamera ∅ 1 0 true clean = .ok (some t') ∧
      ScheduleResolver.mode t' monday 1 0 = .off ∧
      ∃ items meant, overnight = .list items ∧ List.Forall₂ IsRule items meant ∧
        FollowsRules (ScheduleResolver.mode t' monday 1 0) meant 0 30 :=
  ⟨_, _, rfl, rfl, by decide +kernel,
    schedule_mode ∅ _ 1 0 true overnight _ monday 0 rfl rfl (by decide) (by decide)⟩

open WeeklyFixture in
/-- Under a rule that says `continuous` the mode is `continuous`, too. -/
theorem continuous_by_rule :
    ∃ clean t' items meant, validateRules recorded = .ok clean ∧
      Schedules.replaceForCamera ∅ 1 0 true clean = .ok (some t') ∧
      recorded = .list items ∧ List.Forall₂ IsRule items meant ∧
      ¬ (ScheduleResolver.mode t' monday 1 0 = .continuous ↔ ∀ x ∈ meant, ¬ x.Contains 0 30) := by
  refine ⟨_, _, _, [⟨0, 0, 60, .continuous, 0⟩], rfl, rfl, rfl, .cons ⟨rfl, rfl, rfl⟩ .nil, ?_⟩
  intro h
  exact h.1 (by decide +kernel) _ (.head _) (by decide)

end AeroXProtect
