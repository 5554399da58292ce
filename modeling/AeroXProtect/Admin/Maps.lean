import AeroXProtect.Admin.Permission
import AeroXProtect.Auth.User

/-!
# Permission maps of texts

The session requests read permission maps that list texts (`PermMap`), the administration reads them
as they are stored, any JSON (`PermissionService.Holder`). On maps of texts with each resource once
the checks are the same (`has?_holder`, `isSuperuser?_holder`).
-/

open Lib

namespace AeroXProtect

/-- An entry as it is stored. -/
def PermValue.json : PermValue → Json
  | .actions l => .arr (l.map Json.str)
  | .scope m => .obj (m.map fun e => (e.1, .arr (e.2.map Json.str)))

/-- A map as it is stored. -/
def PermMap.json (m : PermMap) : Json := .obj (m.map fun e => (e.1, e.2.json))

namespace PermissionService

/-- A user with a role, as the administration reads them. -/
def holder (role : Option Role) (u : User) : Holder where
  role := (role.map fun r => r.permissions.json).getD .null
  permissions := u.permissions.json

/-- The lists have texts only. -/
def Texts (merged : List (String × List Json)) : Prop := ∀ e ∈ merged, ∀ x ∈ e.2, ∃ s, x = .str s

section
variable {m : PermMap} {merged : List (String × List Json)} {k action : String}

theorem texts_addActions (h : Texts merged) (resource : String) (l : List String) :
    Texts (addActions merged resource (l.map Json.str)) := by
  have hl : ∀ x ∈ l.map Json.str, ∃ s, x = Json.str s := by
    intro x hx
    obtain ⟨s, -, rfl⟩ := List.mem_map.1 hx
    exact ⟨s, rfl⟩
  induction merged with
  | nil =>
    intro e he
    rw [addActions, List.mem_singleton] at he
    subst he
    exact hl
  | cons e merged ih =>
    obtain ⟨hfirst, hrest⟩ := List.forall_mem_cons.1 h
    obtain ⟨r, actions⟩ := e
    rw [addActions]
    split
    · refine List.forall_mem_cons.2 ⟨fun x hx => ?_, hrest⟩
      exact (List.mem_append.1 hx).elim (hfirst x) (hl x)
    · exact List.forall_mem_cons.2 ⟨hfirst, ih hrest⟩

theorem mergeFields_json (h : Texts merged) (m : PermMap) : ∃ merged',
    (m.map fun e => (e.1, e.2.json)).foldlM mergeField? merged = some merged' ∧ Texts merged' := by
  induction m generalizing merged with
  | nil => exact ⟨merged, rfl, h⟩
  | cons e m ih =>
    obtain ⟨r, v⟩ := e
    rw [List.map_cons, List.foldlM_cons]
    cases v with
    | actions l =>
      have hhash : (l.map Json.str).all Json.hashable = true := by simp [Json.hashable]
      obtain ⟨merged', hmerge, htexts⟩ := ih (texts_addActions h r l)
      refine ⟨merged', ?_, htexts⟩
      simp only [PermValue.json, mergeField?, hhash, if_true]
      exact hmerge
    | scope s =>
      obtain ⟨merged', hmerge, htexts⟩ := ih h
      exact ⟨merged', hmerge, htexts⟩

/-- A map of texts is merged. -/
theorem mergeSource_json (h : Texts merged) (m : PermMap) :
    ∃ merged', mergeSource? merged m.json = some merged' ∧ Texts merged' := by
  unfold mergeSource?
  split
  · exact ⟨merged, rfl, h⟩
  · exact mergeFields_json h m

/-- Maps of texts can be evaluated. -/
theorem evaluable_holder (role : Option Role) (u : User) : (holder role u).Evaluable := by
  have hnil : Texts [] := fun e he => absurd he List.not_mem_nil
  obtain ⟨merged, hrole, htexts⟩ : ∃ merged, mergeSource? [] (holder role u).role = some merged ∧
      Texts merged := by
    cases role with
    | none => exact ⟨[], rfl, hnil⟩
    | some r => exact mergeSource_json hnil r.permissions
  obtain ⟨merged', hown, htexts'⟩ := mergeSource_json htexts u.permissions
  have hsort : merged'.all (fun e => sortable e.2) = true := by
    refine List.all_eq_true.2 fun e he => ?_
    unfold sortable
    rw [Bool.or_eq_true, Bool.or_eq_true]
    refine .inl (.inl (List.all_eq_true.2 fun x hx => ?_))
    obtain ⟨s, rfl⟩ := htexts' e he x hx
    rfl
  unfold Holder.Evaluable effectivePermissions?
  rw [hrole, Option.bind_eq_bind, Option.bind_some]
  change ((mergeSource? merged u.permissions.json).bind _).isSome = true
  rw [hown, Option.bind_some, if_pos hsort]
  rfl

/-- The value of a key in a map that has each key once. -/
theorem lookup_eq_some_iff_mem {β : Type} {l : List (String × β)} {b : β}
    (hkeys : (l.map Prod.fst).Nodup) : l.lookup k = some b ↔ (k, b) ∈ l := by
  rw [List.lookup_eq_some_iff]
  constructor
  · rintro ⟨l₁, l₂, rfl, -⟩
    exact List.mem_append_right _ List.mem_cons_self
  · intro hmem
    obtain ⟨l₁, l₂, rfl⟩ := List.append_of_mem hmem
    refine ⟨l₁, l₂, rfl, fun p hp => ?_⟩
    rw [List.map_append, List.map_cons, List.nodup_append] at hkeys
    exact bne_iff_ne.2 (hkeys.2.2 p.1 (List.mem_map_of_mem hp) k List.mem_cons_self).symm

/-- What the stored map lists, of one that has each resource once. -/
theorem lists_json_iff (hkeys : (m.map Prod.fst).Nodup) :
    Lists m.json k (.str action) ↔ ∃ l, m.actions k = some l ∧ action ∈ l := by
  have hactions : ∀ l, m.actions k = some l ↔ (k, .actions l) ∈ m := by
    intro l
    rw [← lookup_eq_some_iff_mem hkeys, PermMap.actions]
    cases m.lookup k with
    | none => simp
    | some v => cases v <;> simp
  simp only [hactions]
  constructor
  · rintro ⟨fields, actions, hfields, hmem, hin⟩
    obtain rfl := Json.obj.inj hfields
    obtain ⟨⟨r, v⟩, hrow, heq⟩ := List.mem_map.1 hmem
    cases v with
    | scope s => simp [PermValue.json] at heq
    | actions l =>
      simp only [PermValue.json, Prod.mk.injEq, Json.arr.injEq] at heq
      obtain ⟨rfl, rfl⟩ := heq
      obtain ⟨t, ht, htext⟩ := List.mem_map.1 hin
      exact ⟨l, hrow, Json.str.inj htext ▸ ht⟩
  · rintro ⟨l, hrow, hin⟩
    exact ⟨_, _, rfl, List.mem_map.2 ⟨_, hrow, rfl⟩, List.mem_map_of_mem hin⟩

end

/-! ## The checks -/

section
variable {role : Option Role} {u : User} {resource action : String}

/-- The maps of a user have each resource once, as objects do. -/
structure Objects (role : Option Role) (u : User) : Prop where
  role : ∀ r ∈ role, (r.permissions.map Prod.fst).Nodup
  own : (u.permissions.map Prod.fst).Nodup

theorem lists_holder_iff (h : Objects role u) : (holder role u).Lists resource (.str action) ↔
    ∃ l, effectivePermissions role u resource = some l ∧ action ∈ l := by
  have hown := @lists_json_iff u.permissions resource action h.own
  have hrole : Lists (holder role u).role resource (.str action) ↔
      ∃ l, (role.bind fun r => r.permissions.actions resource) = some l ∧ action ∈ l := by
    cases hr : role with
    | none => simp [holder, Lists]
    | some r => exact lists_json_iff (h.role r hr)
  unfold Holder.Lists AeroXProtect.effectivePermissions
  rw [hrole]
  refine (or_congr_right hown).trans ?_
  cases (role.bind fun r => r.permissions.actions resource) with
  | none => cases u.permissions.actions resource <;> simp
  | some base => cases u.permissions.actions resource <;> simp

/-- A right is held when an action or `*` is listed under the resource or under `*`. -/
theorem hasPermission_iff : hasPermission role u resource action = true ↔
    ∃ k, (k = "*" ∨ k = resource) ∧
      ∃ l, effectivePermissions role u k = some l ∧ ("*" ∈ l ∨ action ∈ l) := by
  unfold hasPermission
  simp only [Bool.or_eq_true, or_and_right, exists_or, exists_eq_left]
  cases AeroXProtect.effectivePermissions role u "*" <;>
    cases AeroXProtect.effectivePermissions role u resource <;> simp

/-- A right is held by the one check as by the other. -/
theorem has?_holder (h : Objects role u) (resource action : String) :
    has? (holder role u) resource (.str action) = some (hasPermission role u resource action) := by
  have hev := evaluable_holder role u
  obtain ⟨b, hb⟩ : ∃ b, has? (holder role u) resource (.str action) = some b := by
    obtain ⟨perms, hperms⟩ := Option.isSome_iff_exists.1 hev
    rw [has?, hperms]
    exact ⟨_, rfl⟩
  rw [hb, Option.some_inj, Bool.eq_iff_iff, hasPermission_iff]
  have hheld := @has?_eq_true (holder role u) resource action
  rw [hb, Option.some_inj, and_iff_right hev] at hheld
  refine hheld.trans (exists_congr fun k => and_congr_right fun _ => ?_)
  rw [lists_holder_iff h, lists_holder_iff h, ← exists_or]
  exact exists_congr fun l => and_or_left.symm

/-- So is being a superuser. -/
theorem isSuperuser?_holder (h : Objects role u) :
    isSuperuser? (holder role u) = some (isSuperuser role u) := by
  rw [isSuperuser?_eq_some, lists_holder_iff h]
  refine ⟨evaluable_holder role u, ?_⟩
  unfold isSuperuser
  cases AeroXProtect.effectivePermissions role u "*" <;> simp

end

end PermissionService

end AeroXProtect
