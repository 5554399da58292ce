import AeroXProtect.Lib.Json

/-!
# Permission maps

The evaluation of permission maps as they are stored: a user's rights come from two JSON documents,
the map of the role and the user's own, which nothing has validated. A map lists actions under
resources, and its scope maps list actions under cameras or dashboards. `has?` and `hasScope?` are
the two checks; `none` is a check that raises, because a document is not a map, or because a list
has items that cannot be collected in a set or sorted. `has?_eq_true` and `hasScope?_eq_true` say
when a right is held, in terms of what the documents list.
-/

open Lib

namespace AeroXProtect

namespace PermissionService

/-- What the checks read of a user: the map of the role, `null` without a role, and the user's own
map. -/
structure Holder where
  role : Json
  permissions : Json
  deriving DecidableEq, Repr

/-! ## Lists of actions -/

/-- `merged.setdefault(resource, set()).update(actions)`. -/
def addActions : List (String × List Json) → String → List Json → List (String × List Json)
  | [], resource, actions => [(resource, actions)]
  | (k, l) :: merged, resource, actions =>
    if k = resource then (k, l ++ actions) :: merged
    else (k, l) :: addActions merged resource actions

/-- One field of a map is merged. -/
def mergeField? (merged : List (String × List Json)) (field : String × Json) :
    Option (List (String × List Json)) :=
  match field.2 with
  | .arr actions =>
    if actions.all Json.hashable then some (addActions merged field.1 actions) else none
  | _ => some merged

/-- One map is merged. -/
def mergeSource? (merged : List (String × List Json)) (source : Json) :
    Option (List (String × List Json)) :=
  if !source.truthy then some merged
  else
    match source with
    | .obj fields => fields.foldlM mergeField? merged
    | _ => none

/-- `sorted` accepts the set: all texts, all numbers, or one value. -/
def sortable (actions : List Json) : Bool :=
  (actions.all fun x => x matches .str _) || (actions.all fun x => x matches .num _ | .bool _) ||
    actions.all fun x => x matches .null

/-- Source: `PermissionService.effective_permissions` (`server/service/permission.py:11`). The order
of the actions plays no part in the checks. -/
def effectivePermissions? (u : Holder) : Option (List (String × List Json)) := do
  let merged ← mergeSource? [] u.role
  let merged ← mergeSource? merged u.permissions
  if merged.all fun e => sortable e.2 then some merged else none

/-- The actions of one resource allow an action. -/
def allows (perms : List (String × List Json)) (resource : String) (action : Json) : Bool :=
  match perms.lookup resource with
  | some actions => Json.listed actions (.str "*") || Json.listed actions action
  | none => false

/-- Source: `PermissionService.has` (`server/service/permission.py:29`). -/
def has? (u : Holder) (resource : String) (action : Json) : Option Bool :=
  (effectivePermissions? u).map fun perms => allows perms "*" action || allows perms resource action

/-- `*` is listed under `*`. -/
def hasStar (perms : List (String × List Json)) : Bool :=
  match perms.lookup "*" with
  | some star => Json.listed star (.str "*")
  | none => false

/-- Source: `PermissionService.is_superuser` (`server/service/permission.py:46`). -/
def isSuperuser? (u : Holder) : Option Bool := (effectivePermissions? u).map hasStar

/-! ## Scope maps -/

/-- The scope map of one source. -/
def scopeFields (key : String) : Json → List (String × Json)
  | .obj fields =>
    match fields.lookup key with
    | some (.obj scope) => scope
    | _ => []
  | _ => []

/-- Source: `PermissionService._merged_scope` (`server/service/permission.py:53`). An entry of the
user comes before the one of the role. -/
def mergedScope (u : Holder) (key : String) : List (String × Json) :=
  scopeFields key u.permissions ++ scopeFields key u.role

/-- `scope.get(target)`. -/
def scopeGet (scope : List (String × Json)) (target : String) : Json :=
  (scope.lookup target).getD .null

/-- The entry that decides about a target: its own, or the one of `*` when it has none. -/
def scopeEntry (scope : List (String × Json)) (target : String) : Json :=
  if scopeGet scope target = .null then scopeGet scope "*" else scopeGet scope target

/-- What an entry allows. -/
def entryAllows? (entry : Json) (action : String) : Option Bool :=
  if !entry.truthy then some false
  else
    match entry.contains? action, entry.contains? "*" with
    | some a, some star => some (a || star)
    | _, _ => none

/-- The body of `has_camera_scope`, for any scope map. -/
def hasScope? (u : Holder) (key target action : String) : Option Bool :=
  (isSuperuser? u).bind fun superuser =>
    if superuser then some true else entryAllows? (scopeEntry (mergedScope u key) target) action

/-- Source: `PermissionService.has_camera_scope` (`server/service/permission.py:62`). -/
def hasCameraScope? (u : Holder) (cameraUuid action : String) : Option Bool :=
  hasScope? u "camera_scope" cameraUuid action

/-! ## When a right is held -/

/-- A map lists an action under a resource. -/
def Lists (source : Json) (resource : String) (x : Json) : Prop :=
  ∃ fields actions, source = .obj fields ∧ (resource, .arr actions) ∈ fields ∧ x ∈ actions

/-- One of the two maps lists an action under a resource. -/
def Holder.Lists (u : Holder) (resource : String) (x : Json) : Prop :=
  PermissionService.Lists u.role resource x ∨ PermissionService.Lists u.permissions resource x

/-- The maps can be evaluated. -/
def Holder.Evaluable (u : Holder) : Prop := (effectivePermissions? u).isSome = true

section
variable {u : Holder} {merged merged' : List (String × List Json)} {k resource : String} {x : Json}

theorem mem_addActions {actions : List Json} :
    x ∈ ((addActions merged resource actions).lookup k).getD [] ↔
      x ∈ (merged.lookup k).getD [] ∨ (resource = k ∧ x ∈ actions) := by
  induction merged with
  | nil =>
    by_cases h : k = resource
    · simp [addActions, h]
    · have hb : (k == resource) = false := beq_eq_false_iff_ne.2 h
      simp [addActions, List.lookup_cons, hb, Ne.symm h]
  | cons e merged ih =>
    obtain ⟨k', l⟩ := e
    rw [addActions]
    by_cases hr : k' = resource
    · rw [if_pos hr]
      by_cases hk : k = k'
      · simp [← hr, hk]
      · have hb : (k == k') = false := beq_eq_false_iff_ne.2 hk
        simp [List.lookup_cons, hb, ← hr, Ne.symm hk]
    · rw [if_neg hr]
      by_cases hk : k = k'
      · have hne : resource ≠ k := fun h => hr (hk.symm.trans h.symm)
        simp [hk, show resource ≠ k' from fun h => hr h.symm]
      · have hb : (k == k') = false := beq_eq_false_iff_ne.2 hk
        simp only [List.lookup_cons, hb]
        exact ih

theorem mem_mergeFields {fields : List (String × Json)}
    (h : fields.foldlM mergeField? merged = some merged') :
    x ∈ (merged'.lookup k).getD [] ↔ x ∈ (merged.lookup k).getD [] ∨
      ∃ actions, (k, .arr actions) ∈ fields ∧ x ∈ actions := by
  induction fields generalizing merged with
  | nil =>
    cases h
    simp
  | cons f fields ih =>
    obtain ⟨r, v⟩ := f
    rw [List.foldlM_cons] at h
    obtain ⟨m, hm, hrest⟩ := Option.bind_eq_some_iff.1 h
    rw [ih hrest]
    cases v with
    | arr actions =>
      have hm' : addActions merged r actions = m := by
        dsimp only [mergeField?] at hm
        split at hm
        · exact Option.some.inj hm
        · cases hm
      rw [← hm', mem_addActions]
      simp only [List.mem_cons, Prod.mk.injEq, Json.arr.injEq]
      grind
    | _ =>
      cases hm
      simp

theorem mem_mergeSource {source : Json} (h : mergeSource? merged source = some merged') :
    x ∈ (merged'.lookup k).getD [] ↔ x ∈ (merged.lookup k).getD [] ∨ Lists source k x := by
  unfold mergeSource? at h
  split at h
  · next hfalsy =>
    cases h
    refine (or_iff_left ?_).symm
    rintro ⟨fields, actions, rfl, hmem, -⟩
    have : fields.isEmpty = true := by simpa [Json.truthy] using hfalsy
    rw [List.isEmpty_iff] at this
    subst this
    cases hmem
  · cases source with
    | obj fields =>
      rw [mem_mergeFields h]
      refine or_congr_right ⟨?_, ?_⟩
      · rintro ⟨a, hf, hx⟩
        exact ⟨fields, a, rfl, hf, hx⟩
      · rintro ⟨fields', a, heq, hf, hx⟩
        cases heq
        exact ⟨a, hf, hx⟩
    | _ => cases h

/-- The effective permissions list what one of the maps lists. -/
theorem mem_effectivePermissions {perms : List (String × List Json)}
    (h : effectivePermissions? u = some perms) :
    x ∈ (perms.lookup k).getD [] ↔ u.Lists k x := by
  obtain ⟨m, hm, h⟩ := Option.bind_eq_some_iff.1 h
  obtain ⟨m', hm', h⟩ := Option.bind_eq_some_iff.1 h
  have hp : m' = perms := by
    split at h
    · exact Option.some.inj h
    · cases h
  rw [← hp, mem_mergeSource hm', mem_mergeSource hm]
  simp [Holder.Lists]

theorem allows_str {perms : List (String × List Json)} (h : effectivePermissions? u = some perms)
    {action : String} :
    allows perms k (.str action) = true ↔ u.Lists k (.str "*") ∨ u.Lists k (.str action) := by
  rw [← mem_effectivePermissions h, ← mem_effectivePermissions h]
  unfold allows
  cases perms.lookup k with
  | none => simp
  | some actions => simp [Json.listed_str]

/-- A right is held when an action or `*` is listed under the resource or under `*`. -/
theorem has?_eq_true {action : String} : has? u resource (.str action) = some true ↔
    u.Evaluable ∧ ∃ k, (k = "*" ∨ k = resource) ∧
      (u.Lists k (.str "*") ∨ u.Lists k (.str action)) := by
  unfold has? Holder.Evaluable
  cases h : effectivePermissions? u with
  | none => simp
  | some perms => simp [allows_str h, or_and_right, exists_or]

/-- A right that is held under a wildcard is held for each action and resource it stands for. -/
theorem has?_of_wildcard {k x action : String} (hk : k = "*" ∨ k = resource)
    (hx : x = "*" ∨ x = action) (h : has? u k (.str x) = some true) :
    has? u resource (.str action) = some true := by
  obtain ⟨hev, k', hk', hl⟩ := has?_eq_true.1 h
  refine has?_eq_true.2 ⟨hev, k', ?_, ?_⟩
  · rcases hk' with rfl | rfl
    · exact .inl rfl
    · exact hk
  · rcases hx with rfl | rfl
    · exact .inl (hl.elim id id)
    · exact hl

theorem hasStar_iff {perms : List (String × List Json)} (h : effectivePermissions? u = some perms) :
    hasStar perms = true ↔ u.Lists "*" (.str "*") := by
  rw [← mem_effectivePermissions h]
  unfold hasStar
  cases perms.lookup "*" with
  | none => simp
  | some actions => simp [Json.listed_str]

/-- A superuser has `*` listed under `*`. -/
theorem isSuperuser?_eq_some {b : Bool} :
    isSuperuser? u = some b ↔ u.Evaluable ∧ (b = true ↔ u.Lists "*" (.str "*")) := by
  unfold isSuperuser? Holder.Evaluable
  cases h : effectivePermissions? u with
  | none => simp
  | some perms =>
    rw [← hasStar_iff h]
    cases b <;> simp

/-- A scoped right is held by a superuser, and where the entry that decides allows it. -/
theorem hasScope?_eq_true {key target action : String} : hasScope? u key target action = some true ↔
    u.Evaluable ∧ (u.Lists "*" (.str "*") ∨
      entryAllows? (scopeEntry (mergedScope u key) target) action = some true) := by
  unfold hasScope?
  cases h : isSuperuser? u with
  | none =>
    have hnot : ¬ u.Evaluable := by
      unfold isSuperuser? at h
      rw [Option.map_eq_none_iff] at h
      simp [Holder.Evaluable, h]
    simp [hnot]
  | some b =>
    obtain ⟨hev, hstar⟩ := isSuperuser?_eq_some.1 h
    cases b with
    | true => simp [hev, hstar.1 rfl]
    | false =>
      have hno : ¬ u.Lists "*" (.str "*") := fun hl => Bool.false_ne_true (hstar.2 hl)
      simp [hev, hno]

theorem scopeEntry_eq (scope : List (String × Json)) (target : String) :
    scopeEntry scope target =
      scopeGet scope (if scopeGet scope target = .null then "*" else target) := by
  unfold scopeEntry
  split <;> rfl

/-- An entry that allows something is not empty, and can be searched. -/
theorem entryAllows?_eq_true {entry : Json} {action : String} :
    entryAllows? entry action = some true ↔ entry.truthy = true ∧
      ∃ a star, entry.contains? action = some a ∧ entry.contains? "*" = some star ∧
        (a = true ∨ star = true) := by
  unfold entryAllows?
  cases entry.truthy with
  | false => simp
  | true =>
    cases entry.contains? action with
    | none => simp
    | some a =>
      cases entry.contains? "*" with
      | none => simp
      | some star => simp

end

end PermissionService

end AeroXProtect
