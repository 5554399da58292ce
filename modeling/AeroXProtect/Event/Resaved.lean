import AeroXProtect.Event.Weekly

/-!
# Saving a schedule again

A client reads the rules of a camera and saves them again. `ScheduleRow` is the row of a rule with
its texts, which the weekly resolver does not read: without them it is the row of `Event.Weekly`
(`plain_replaceForCamera`). The parts of a rule that runs past midnight are rules themselves, except
that a part may be empty, and an empty part is refused when it comes back (`resaved_iff`).
-/

open Lib

namespace AeroXProtect

/-! ## Rows -/

/-- A row of `schedules` with its texts. -/
structure ScheduleRow extends Schedule where
  name : PyValue
  timezone : PyValue
  groupUuid : PyValue

abbrev ScheduleRows := Table fun r : ScheduleRow => r.id

/-- What a rule says. -/
structure RuleContent where
  rule : WeekRule
  name : PyValue
  timezone : PyValue
  groupUuid : PyValue

def ScheduleRow.content (r : ScheduleRow) : RuleContent :=
  ⟨r.rule, r.name, r.timezone, r.groupUuid⟩

/-- A column of the database: what is read back of a value, or that it is refused. A value that was
read back is stored as it is. -/
structure Column where
  store : PyValue → Option PyValue
  stable : ∀ {v w}, store v = some w → store w = some w

/-- The columns that take what the client sends. The time zone is never null, and the number of the
priority is taken as it is or refused. -/
structure ScheduleColumns where
  name : Column
  timezone : Column
  groupUuid : Column
  priority : Int → Bool
  timezone_ne : ∀ {v w}, timezone.store v = some w → w.isNull = false

namespace ScheduleColumns

/-- The row that is read back. A time zone that is null takes its default. -/
def store (db : ScheduleColumns) (x : RuleContent) : Option RuleContent := do
  let name ← db.name.store x.name
  let timezone ← db.timezone.store (if x.timezone.isNull then .str "Asia/Seoul" else x.timezone)
  let groupUuid ← db.groupUuid.store x.groupUuid
  if db.priority x.rule.priority then some ⟨x.rule, name, timezone, groupUuid⟩ else none

/-- What was read back is stored as it is. -/
theorem store_store {db : ScheduleColumns} {x y : RuleContent} (h : db.store x = some y) :
    db.store y = some y ∧ y.rule = x.rule := by
  obtain ⟨name, hname, h⟩ := Option.bind_eq_some_iff.1 h
  obtain ⟨timezone, hzone, h⟩ := Option.bind_eq_some_iff.1 h
  obtain ⟨groupUuid, hgroup, h⟩ := Option.bind_eq_some_iff.1 h
  split at h
  · next hpriority =>
    cases h
    have hnull : timezone.isNull = false := db.timezone_ne hzone
    simp [store, db.name.stable hname, hnull, db.timezone.stable hzone,
      db.groupUuid.stable hgroup, hpriority]
  · cases h

end ScheduleColumns

/-! ## Saving and reading -/

/-- The row of a rule, before it is stored. -/
def ruleContent (c : CleanRule) : Except PyError RuleContent := do
  let name ← c.rule.get "name"
  let rule ← ruleColumns c
  let timezone ← c.rule.getD "timezone" (.str "Asia/Seoul")
  let groupUuid ← c.rule.get "group_uuid"
  return ⟨rule, name, timezone, groupUuid⟩

/-- The new row of the camera. -/
def RuleContent.row (x : RuleContent) (t : ScheduleRows) (cameraId : Nat) : ScheduleRow where
  id := t.freshKey
  cameraId := cameraId
  dayOfWeek := x.rule.day.toNat
  startMin := x.rule.start
  endMin := x.rule.stop
  mode := x.rule.mode
  priority := x.rule.priority
  enabled := true
  deletedAt := none
  name := x.name
  timezone := x.timezone
  groupUuid := x.groupUuid

/-- What a request ends with when its rules are not stored. -/
inductive SaveError
  | rules (e : RulesError)
  | raised (e : PyError)
  | refused
  deriving DecidableEq, Repr

namespace ScheduleRows

/-- Source: `Schedule.replace_for_camera` (`server/model/schedule.py:41`). -/
def replaceForCamera (db : ScheduleColumns) (t : ScheduleRows) (cameraId : Nat) (now : Int)
    (rules : List CleanRule) : Except SaveError ScheduleRows :=
  match rules.mapM ruleContent with
  | .error e => .error (.raised e)
  | .ok contents =>
    match contents.mapM db.store with
    | none => .error .refused
    | some stored =>
      let cleared := t.modify (fun g => decide (g.cameraId = cameraId) && g.deletedAt.isNone)
        fun g => { g with deletedAt := some now }
      .ok (stored.foldl (fun t x => t.insert (x.row t cameraId)) cleared)

/-- Source: `Schedule.get_for_camera` (`server/model/schedule.py:30`). -/
def getForCamera (t : ScheduleRows) (cameraId : Nat) : List ScheduleRow :=
  t.rows.filter fun g => decide (g.cameraId = cameraId) && g.deletedAt.isNone && g.enabled

end ScheduleRows

/-- Source: `Schedule.to_dict` (`server/model/schedule.py:64`). -/
def ScheduleRow.toDict (r : ScheduleRow) : PyValue :=
  .dict [("id", .str (toString r.id)), ("name", r.name), ("day_of_week", .int r.dayOfWeek),
    ("start_min", .int r.startMin), ("end_min", .int r.endMin), ("mode", .str r.mode.text),
    ("priority", .int r.priority), ("timezone", r.timezone), ("group_uuid", r.groupUuid)]

/-- Source: `ScheduleController.get_schedule` (`server/controller/schedule.py:40`). -/
def getSchedule (t : ScheduleRows) (cameraId : Nat) : List PyValue :=
  (t.getForCamera cameraId).map ScheduleRow.toDict

/-- Source: `ScheduleController.replace_schedule` (`server/controller/schedule.py:46`). -/
def replaceSchedule (db : ScheduleColumns) (t : ScheduleRows) (cameraId : Nat) (now : Int)
    (rules : PyValue) : Except SaveError ScheduleRows :=
  match validateRules rules with
  | .error e => .error (.rules e)
  | .ok clean => t.replaceForCamera db cameraId now clean

/-! ## Without the texts -/

/-- The table without the texts. -/
def ScheduleRows.plain (t : ScheduleRows) : Schedules :=
  ⟨t.rows.map ScheduleRow.toSchedule, by
    rw [List.map_map]
    exact t.nodup⟩

section
variable {db : ScheduleColumns} {t t' : ScheduleRows} {cameraId : Nat} {now : Int} {c : CleanRule}
  {clean : List CleanRule} {x : RuleContent} {stored : List RuleContent}

theorem ruleContent_eq_ok (h : ruleContent c = .ok x) : ruleColumns c = .ok x.rule := by
  obtain ⟨_, -, h⟩ := bind_eq_ok.1 h
  obtain ⟨rule, hrule, h⟩ := bind_eq_ok.1 h
  obtain ⟨_, -, h⟩ := bind_eq_ok.1 h
  obtain ⟨_, -, h⟩ := bind_eq_ok.1 h
  cases h
  exact hrule

/-- Rules that are stored have been read, and what is read back of them is stable. -/
theorem stored_of_replaceForCamera (h : t.replaceForCamera db cameraId now clean = .ok t') :
    ∃ stored : List RuleContent, clean.mapM ruleColumns = .ok (stored.map RuleContent.rule) ∧
      (∀ y ∈ stored, db.store y = some y) ∧
      t' = stored.foldl (fun t x => t.insert (x.row t cameraId)) (t.modify
        (fun g => decide (g.cameraId = cameraId) && g.deletedAt.isNone)
        fun g => { g with deletedAt := some now }) := by
  unfold ScheduleRows.replaceForCamera at h
  split at h
  · cases h
  · next contents hcontents =>
    split at h
    · cases h
    · next stored hstored =>
      cases h
      rw [mapM_eq_ok] at hcontents
      rw [mapM_eq_some_iff] at hstored
      refine ⟨stored, ?_, ?_, rfl⟩
      · have hrules : contents.map RuleContent.rule = stored.map RuleContent.rule := by
          clear hcontents
          induction hstored with
          | nil => rfl
          | cons hx _ ih => exact congrArg₂ List.cons (ScheduleColumns.store_store hx).2.symm ih
        rw [← hrules, mapM_eq_ok]
        exact (List.forall₂_map_right_iff (f := RuleContent.rule)).2
          (hcontents.imp fun c x hx => ruleContent_eq_ok hx)
      · clear hcontents
        induction hstored with
        | nil => exact List.forall_mem_nil _
        | cons hx _ ih => exact List.forall_mem_cons.2 ⟨(ScheduleColumns.store_store hx).1, ih⟩

theorem freshKey_plain (t : ScheduleRows) : t.plain.freshKey = t.freshKey := by
  simp only [Table.freshKey, ScheduleRows.plain, List.foldr_map]

theorem plain_insert (t : ScheduleRows) (x : RuleContent) :
    ScheduleRows.plain (t.insert (x.row t cameraId)) =
      t.plain.insert (x.rule.row t.plain cameraId) := by
  have hrow : (x.row t cameraId).toSchedule = x.rule.row t.plain cameraId := by
    rw [RuleContent.row, WeekRule.row, freshKey_plain]
  refine Table.eq_of_rows ?_
  rw [Table.rows_insert t.plain.ne_freshKey]
  show (t.insert (x.row t cameraId)).rows.map ScheduleRow.toSchedule = _
  rw [Table.rows_insert t.ne_freshKey, List.map_append, List.map_singleton, hrow]
  rfl

/-- Without the texts, rules are stored as the weekly resolver finds them. -/
theorem plain_replaceForCamera (h : t.replaceForCamera db cameraId now clean = .ok t') :
    t.plain.replaceForCamera cameraId now true clean = .ok (some t'.plain) := by
  obtain ⟨stored, hcolumns, -, rfl⟩ := stored_of_replaceForCamera h
  have hfold : ∀ (l : List RuleContent) (t : ScheduleRows),
      (l.foldl (fun t x => t.insert (x.row t cameraId)) t).plain =
        (l.map RuleContent.rule).foldl (fun t x => t.insert (x.row t cameraId)) t.plain := by
    intro l
    induction l with
    | nil => exact fun t => rfl
    | cons x l ih =>
      intro t
      rw [List.foldl_cons, ih, List.map_cons, List.foldl_cons, plain_insert]
  have hclear : ScheduleRows.plain (t.modify
      (fun g => decide (g.cameraId = cameraId) && g.deletedAt.isNone)
      fun g => { g with deletedAt := some now }) =
        t.plain.modify (fun g => decide (g.cameraId = cameraId) && g.deletedAt.isNone)
          fun g => { g with deletedAt := some now } := by
    refine Table.eq_of_rows ?_
    show List.map _ (List.map _ _) = List.map _ (List.map _ _)
    rw [List.map_map, List.map_map]
    refine List.map_congr_left fun g _ => ?_
    simp only [Function.comp]
    split <;> rfl
  unfold Schedules.replaceForCamera
  rw [hcolumns, hfold, hclear]
  rfl

/-- The camera's rules after they were stored. -/
theorem getForCamera_stored (h : ∀ x ∈ stored, 0 ≤ x.rule.day) :
    (ScheduleRows.getForCamera (stored.foldl (fun t x => t.insert (x.row t cameraId)) (t.modify
      (fun g => decide (g.cameraId = cameraId) && g.deletedAt.isNone)
      fun g => { g with deletedAt := some now })) cameraId).map ScheduleRow.content = stored := by
  have hkey : ∀ (x : RuleContent) (t : ScheduleRows), (x.row t cameraId).id = t.freshKey :=
    fun _ _ => rfl
  obtain ⟨added, hrows, hall⟩ := Table.rows_foldl_insert hkey stored (t.modify
    (fun g => decide (g.cameraId = cameraId) && g.deletedAt.isNone)
    fun g => { g with deletedAt := some now })
  have hcontent : added.map ScheduleRow.content = stored ∧
      ∀ g ∈ added, g.cameraId = cameraId ∧ g.deletedAt = none ∧ g.enabled = true := by
    clear hrows
    induction hall with
    | nil => exact ⟨rfl, nofun⟩
    | @cons x _ _ _ hrow _ ih =>
      obtain ⟨t, rfl⟩ := hrow
      obtain ⟨hx, hrest⟩ := List.forall_mem_cons.1 h
      obtain ⟨hmap, hlive⟩ := ih hrest
      refine ⟨congrArg₂ List.cons ?_ hmap, List.forall_mem_cons.2 ⟨⟨rfl, rfl, rfl⟩, hlive⟩⟩
      obtain ⟨⟨day, start, stop, mode, priority⟩, name, timezone, groupUuid⟩ := x
      simp only [ScheduleRow.content, Schedule.rule, RuleContent.row] at hx ⊢
      rw [Int.toNat_of_nonneg hx]
  have hold : (t.modify (fun g => decide (g.cameraId = cameraId) && g.deletedAt.isNone)
      fun g => { g with deletedAt := some now }).rows.filter (fun g =>
        decide (g.cameraId = cameraId) && g.deletedAt.isNone && g.enabled) = [] := by
    refine List.filter_eq_nil_iff.2 fun g hg => ?_
    obtain ⟨r, -, rfl⟩ := Table.mem_modify.1 hg
    split
    · simp
    · next hno =>
      rw [Bool.and_eq_true]
      exact fun hyes => hno hyes.1
  have hnew : added.filter (fun g =>
      decide (g.cameraId = cameraId) && g.deletedAt.isNone && g.enabled) = added := by
    refine List.filter_eq_self.2 fun g hg => ?_
    obtain ⟨hcam, hlive, hen⟩ := hcontent.2 g hg
    simp [hcam, hlive, hen]
  unfold ScheduleRows.getForCamera
  rw [hrows, List.filter_append, hold, hnew, List.nil_append]
  exact hcontent.1

end

/-! ## A rule that comes back -/

theorem modeOf_text (mode : ScheduleMode) : modeOf (.str mode.text) = some mode := by
  cases mode <;> decide

section
variable {r : PyValue} {dow start stop : Int} {mode : ScheduleMode} {row : ScheduleRow}

/-- A window that does not run past midnight is taken as it is. -/
theorem validateRule_of_lt (hw : ruleWindow r = .ok (dow, start, stop))
    (hmode : modeOf (r.field "mode") = some mode) (hdow : 0 ≤ dow ∧ dow ≤ 6)
    (hstart : 0 ≤ start) (hlt : start < stop) (hstop : stop ≤ 1440) :
    validateRule r = .ok [⟨r, mode, hmode⟩] := by
  unfold validateRule
  rw [hw]
  dsimp only
  rw [if_neg (by omega), if_neg (by omega)]
  split
  · next hnone => cases hmode.symm.trans hnone
  · next m hm =>
    cases hmode.symm.trans hm
    exact if_pos hlt

/-- An empty window is refused. -/
theorem validateRule_of_eq (hw : ruleWindow r = .ok (dow, start, start)) :
    ∃ e, validateRule r = .error e := by
  unfold validateRule
  rw [hw]
  dsimp only
  by_cases hdow : ¬ (0 ≤ dow ∧ dow ≤ 6)
  · exact ⟨_, if_pos hdow⟩
  · rw [if_neg hdow, if_pos (by omega)]
    exact ⟨_, rfl⟩

theorem ruleWindow_toDict (row : ScheduleRow) :
    ruleWindow row.toDict = .ok ((row.dayOfWeek : Int), row.startMin, row.endMin) := rfl

theorem mode_toDict (row : ScheduleRow) :
    modeOf (row.toDict.field "mode") = some row.mode := modeOf_text row.mode

theorem ruleContent_toDict {h : modeOf (row.toDict.field "mode") = some mode}
    (hm : mode = row.mode) :
    ruleContent ⟨row.toDict, mode, h⟩ = .ok row.content := by
  subst hm
  rfl

end

/-- A rule of the list that runs past midnight begins before midnight and ends after it. -/
def OffMidnight (items : List PyValue) : Prop :=
  ∀ r ∈ items, ∀ dow start stop, ruleWindow r = .ok (dow, start, stop) →
    start < stop ∨ start < 1440 ∧ 0 < stop

section
variable {db : ScheduleColumns} {t t' : ScheduleRows} {cameraId : Nat} {now : Int}
  {items : List PyValue} {x p : WeekRule}

/-- The parts of a rule are windows that end after they start, unless one is empty. -/
theorem WeekRule.parts_lt (hx : x.Valid) :
    (∀ p ∈ x.parts, p.start < p.stop) ↔ x.start < x.stop ∨ x.start < 1440 ∧ 0 < x.stop := by
  obtain ⟨-, hstart, hstop, hne⟩ := hx
  unfold parts
  split
  · next hlt => exact iff_of_true (by simpa using hlt) (.inl hlt)
  · next hge =>
    simp only [List.mem_cons, List.not_mem_nil, or_false, forall_eq_or_imp, forall_eq]
    omega

theorem WeekRule.range_of_mem_parts (hx : x.Valid) (hp : p ∈ x.parts) :
    (0 ≤ p.day ∧ p.day ≤ 6) ∧ 0 ≤ p.start ∧ p.start ≤ p.stop ∧ p.stop ≤ 1440 := by
  obtain ⟨hday, hstart, hstop, hne⟩ := hx
  unfold parts at hp
  split at hp
  · next hlt =>
    cases List.mem_singleton.1 hp
    omega
  · next hge =>
    rcases List.mem_pair.1 hp with rfl | rfl <;> dsimp only <;> omega

/-- The list of rules that was accepted, as it is stored. -/
theorem stored_of_replaceSchedule
    (h : replaceSchedule db t cameraId now (.list items) = .ok t') :
    ∃ meant, List.Forall₂ IsRule items meant ∧ (∀ x ∈ meant, x.Valid) ∧
      ∃ stored : List RuleContent, stored.map RuleContent.rule = meant.flatMap WeekRule.parts ∧
        (∀ y ∈ stored, db.store y = some y) ∧
        (t'.getForCamera cameraId).map ScheduleRow.content = stored := by
  unfold replaceSchedule at h
  split at h
  · cases h
  · next clean hvalid =>
    obtain ⟨cleaned, hcleaned, hflat⟩ := bind_eq_ok.1 hvalid
    cases hflat
    obtain ⟨stored, hcolumns, hstable, rfl⟩ := stored_of_replaceForCamera h
    obtain ⟨meant, hmeant, hall, heq⟩ := columns_of_validateRules (mapM_eq_ok.1 hcleaned) hcolumns
    refine ⟨meant, hmeant, hall, stored, heq, hstable, getForCamera_stored fun y hy => ?_⟩
    have hmem : y.rule ∈ meant.flatMap WeekRule.parts := heq ▸ List.mem_map_of_mem hy
    obtain ⟨x, hx, hpart⟩ := List.mem_flatMap.1 hmem
    exact WeekRule.day_nonneg_of_mem_parts (hall x hx) hpart

/-- Rows whose windows end after they start are accepted as they come back. -/
theorem validateRules_toDict {order : List ScheduleRow}
    (h : ∀ r ∈ order, (r.dayOfWeek : Int) ≤ 6 ∧ 0 ≤ r.startMin ∧ r.startMin < r.endMin ∧
      r.endMin ≤ 1440) :
    ∃ clean, validateRules (.list (order.map ScheduleRow.toDict)) = .ok clean ∧
      clean.mapM ruleContent = .ok (order.map ScheduleRow.content) := by
  have hclean : ∃ cleaned, (order.map ScheduleRow.toDict).mapM validateRule = .ok cleaned ∧
      cleaned.flatten.mapM ruleContent = .ok (order.map ScheduleRow.content) := by
    induction order with
    | nil => exact ⟨[], rfl, rfl⟩
    | cons r order ih =>
      obtain ⟨⟨hdow, hstart, hlt, hstop⟩, hrest⟩ := List.forall_mem_cons.1 h
      obtain ⟨cleaned, hcleaned, hcontents⟩ := ih hrest
      have hr := validateRule_of_lt (ruleWindow_toDict r) (mode_toDict r) ⟨by omega, hdow⟩ hstart
        hlt hstop
      refine ⟨[⟨r.toDict, r.mode, mode_toDict r⟩] :: cleaned, ?_, ?_⟩
      · rw [List.map_cons, List.mapM_cons, hr, hcleaned]
        rfl
      · rw [List.flatten_cons, List.singleton_append, List.mapM_cons, ruleContent_toDict rfl,
          hcontents]
        rfl
  obtain ⟨cleaned, hcleaned, hcontents⟩ := hclean
  exact ⟨cleaned.flatten, bind_eq_ok.2 ⟨cleaned, hcleaned, rfl⟩, hcontents⟩

/-- A row whose window is empty is refused when it comes back. -/
theorem replaceSchedule_of_empty (db : ScheduleColumns) (t : ScheduleRows) (now' : Int)
    {order : List ScheduleRow} {r : ScheduleRow}
    (hr : r ∈ order) (hempty : r.startMin = r.endMin) :
    ∃ e, replaceSchedule db t cameraId now' (.list (order.map ScheduleRow.toDict)) = .error e := by
  cases hvalid : validateRules (.list (order.map ScheduleRow.toDict)) with
  | error e => exact ⟨.rules e, by rw [replaceSchedule, hvalid]⟩
  | ok clean =>
    obtain ⟨cleaned, hcleaned, -⟩ := bind_eq_ok.1 hvalid
    have hw := ruleWindow_toDict r
    rw [← hempty] at hw
    obtain ⟨e, he⟩ := validateRule_of_eq hw
    have hret : ∀ d ∈ order.map ScheduleRow.toDict, Returns (validateRule d) :=
      returns_mapM.1 ⟨cleaned, hcleaned⟩
    obtain ⟨_, hok⟩ := hret _ (List.mem_map_of_mem hr)
    cases he.symm.trans hok

/-- The windows of the rows that are there are the parts of the rules that were meant. -/
theorem offMidnight_iff {meant : List WeekRule} (hmeant : List.Forall₂ IsRule items meant)
    (hall : ∀ x ∈ meant, x.Valid) :
    OffMidnight items ↔ ∀ p ∈ meant.flatMap WeekRule.parts, p.start < p.stop := by
  have hparts : (∀ p ∈ meant.flatMap WeekRule.parts, p.start < p.stop) ↔
      ∀ x ∈ meant, x.start < x.stop ∨ x.start < 1440 ∧ 0 < x.stop := by
    simp only [List.mem_flatMap, forall_exists_index, and_imp]
    rw [forall_comm]
    exact forall_congr' fun x => ⟨
      fun h hx => (WeekRule.parts_lt (hall x hx)).1 fun p hp => h p hx hp,
      fun h p hx hp => (WeekRule.parts_lt (hall x hx)).2 (h hx) p hp⟩
  rw [hparts]
  clear hparts hall
  induction hmeant with
  | nil => exact iff_of_true nofun nofun
  | @cons r x _ _ hr _ ih =>
    unfold OffMidnight at ih ⊢
    rw [List.forall_mem_cons, List.forall_mem_cons]
    refine and_congr ⟨fun h => h _ _ _ hr.window, fun h dow start stop hw => ?_⟩ ih
    cases hr.window.symm.trans hw
    exact h

end

/-- The rules that were stored, as they are read, are accepted again and leave the same rules, in
whatever order they come, exactly if no rule runs past midnight from midnight or up to midnight. -/
theorem resaved_iff (db : ScheduleColumns) (t t' : ScheduleRows) (cameraId : Nat) (now : Int)
    (items : List PyValue) (h : replaceSchedule db t cameraId now (.list items) = .ok t') :
    (∀ now' rules, rules.Perm (getSchedule t' cameraId) →
      ∃ t'', replaceSchedule db t' cameraId now' (.list rules) = .ok t'' ∧
        ((t''.getForCamera cameraId).map ScheduleRow.content).Perm
          ((t'.getForCamera cameraId).map ScheduleRow.content)) ↔ OffMidnight items := by
  obtain ⟨meant, hmeant, hall, stored, hrules, hstable, hrows⟩ := stored_of_replaceSchedule h
  rw [offMidnight_iff hmeant hall, ← hrules]
  constructor
  · intro hagain p hp
    obtain ⟨y, hy, rfl⟩ := List.mem_map.1 hp
    obtain ⟨x, hx, hpart⟩ := List.mem_flatMap.1 (hrules ▸ hp)
    obtain ⟨-, -, hle, -⟩ := WeekRule.range_of_mem_parts (hall x hx) hpart
    by_contra hge
    rw [← hrows] at hy
    obtain ⟨r, hr, rfl⟩ := List.mem_map.1 hy
    obtain ⟨t'', hok, -⟩ := hagain now _ (List.Perm.refl _)
    obtain ⟨e, he⟩ := replaceSchedule_of_empty db t' now hr
      (by simpa [ScheduleRow.content, Schedule.rule] using le_antisymm hle (not_lt.1 hge))
    cases he.symm.trans hok
  · intro hlt now' rules hperm
    obtain ⟨order, rfl, horder⟩ : ∃ order : List ScheduleRow, rules = order.map ScheduleRow.toDict ∧
        order.Perm (t'.getForCamera cameraId) := by
      have hrel := List.eq_map_comp_perm ScheduleRow.toDict
      exact (congrFun (congrFun hrel rules) (t'.getForCamera cameraId)).mpr hperm
    have hcontents : (order.map ScheduleRow.content).Perm stored := hrows ▸ horder.map _
    have hrange : ∀ r ∈ order, (r.dayOfWeek : Int) ≤ 6 ∧ 0 ≤ r.startMin ∧ r.startMin < r.endMin ∧
        r.endMin ≤ 1440 := by
      intro r hr
      have hmem : r.content ∈ stored := hcontents.subset (List.mem_map_of_mem hr)
      have hrule : r.rule ∈ stored.map RuleContent.rule :=
        List.mem_map_of_mem (f := RuleContent.rule) hmem
      obtain ⟨x, hx, hpart⟩ := List.mem_flatMap.1 (hrules ▸ hrule)
      obtain ⟨⟨-, hday⟩, hstart, -, hstop⟩ := WeekRule.range_of_mem_parts (hall x hx) hpart
      exact ⟨hday, hstart, hlt _ hrule, hstop⟩
    obtain ⟨clean, hvalid, hread⟩ := validateRules_toDict hrange
    have hstore : (order.map ScheduleRow.content).mapM db.store =
        some (order.map ScheduleRow.content) := by
      rw [mapM_eq_some (g := id) fun y hy => hstable y (hcontents.subset hy), List.map_id]
    refine ⟨_, by
      unfold replaceSchedule ScheduleRows.replaceForCamera
      rw [hvalid]
      dsimp only
      rw [hread]
      dsimp only
      rw [hstore], ?_⟩
    rw [getForCamera_stored, hrows]
    · exact hcontents
    · intro y hy
      obtain ⟨r, -, rfl⟩ := List.mem_map.1 hy
      exact Int.natCast_nonneg _

namespace ResavedFixture

open WeeklyFixture

/-- A column that takes texts and null. -/
def column : Column where
  store
    | .str s => some (.str s)
    | .null => some .null
    | _ => none
  stable := by
    intro v w h
    split at h <;> cases h <;> rfl

/-- A database of texts, without null in the time zone. -/
def db : ScheduleColumns where
  name := column
  timezone :=
    { store
        | .str s => some (.str s)
        | _ => none
      stable := by
        intro v w h
        split at h <;> cases h
        rfl }
  groupUuid := column
  priority n := decide (-32768 ≤ n ∧ n ≤ 32767)
  timezone_ne := by
    intro v w h
    dsimp only at h
    split at h <;> cases h
    rfl

/-- Monday from 22:00 to 06:00. -/
def night : List PyValue := [rule 0 1320 360 "event" 0]

/-- Monday from 22:00 to midnight, with the end as the first minute of the day. -/
def untilMidnight : List PyValue := [rule 0 1320 0 "event" 0]

end ResavedFixture

open ResavedFixture in
/-- A rule for the night can be saved again. -/
theorem resaved_night : ∃ t', replaceSchedule db ∅ 1 0 (.list night) = .ok t' ∧
    ((∀ now' rules, rules.Perm (getSchedule t' 1) →
      ∃ t'', replaceSchedule db t' 1 now' (.list rules) = .ok t'' ∧
        ((t''.getForCamera 1).map ScheduleRow.content).Perm
          ((t'.getForCamera 1).map ScheduleRow.content)) ↔ OffMidnight night) :=
  ⟨_, rfl, resaved_iff db ∅ _ 1 0 night rfl⟩

open ResavedFixture in
/-- A rule that ends at midnight leaves an empty part, which is not accepted again. -/
theorem not_resaved : ∃ t', replaceSchedule db ∅ 1 0 (.list untilMidnight) = .ok t' ∧
    ¬ ∀ now' rules, rules.Perm (getSchedule t' 1) →
      ∃ t'', replaceSchedule db t' 1 now' (.list rules) = .ok t'' ∧
        ((t''.getForCamera 1).map ScheduleRow.content).Perm
          ((t'.getForCamera 1).map ScheduleRow.content) := by
  refine ⟨_, rfl, fun h => ?_⟩
  obtain ⟨t'', hok, -⟩ := h 0 _ (List.Perm.refl _)
  cases hok

end AeroXProtect
