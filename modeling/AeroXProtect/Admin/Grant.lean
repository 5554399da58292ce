import AeroXProtect.Admin.Users

/-!
# Rights that are granted

Who may grant what: a user who is not a superuser can only hand on rights they hold. The guard of a
grant goes through the maps of the request, and for lists of actions it decides as the checks do, so
no list is ever worth more than its grantor's. For scope maps it does not: where the grantor's own
entry for a camera is empty it falls back to the entry of `*`, an entry for `*` reaches cameras the
grantor has an entry of their own for, a text is compared letter by letter, and an entry of a map
that is kept may come to decide when another one is replaced. `no_escalation_iff` says that these
are all the ways to gain a right; `denied_camera_granted` is one of them.
-/

open Lib

namespace AeroXProtect

open PermissionService

/-! ## Changes of a user -/

/-- What a request does to what the checks read of a user: each of the two maps is kept or replaced.
-/
structure Change where
  before : Holder
  after : Holder
  roleKept : Bool
  permissionsKept : Bool
  deriving DecidableEq, Repr

namespace Change

/-- No right is new to both the user and the actor `a`. -/
structure NoEscalation (c : Change) (a : Holder) : Prop where
  actions : ∀ resource action, has? c.after resource (.str action) = some true →
    has? c.before resource (.str action) = some true ∨ has? a resource (.str action) = some true
  scopes : ∀ key target action, hasScope? c.after key target action = some true →
    hasScope? c.before key target action = some true ∨ hasScope? a key target action = some true

/-- The name under which the entry that decides about a target is found. -/
def decidingKey (u : Holder) (key target : String) : String :=
  if scopeGet (mergedScope u key) target = .null then "*" else target

/-- The entry that decides about a target. -/
def entry (u : Holder) (key target : String) : Json := scopeEntry (mergedScope u key) target

/-- The entry that decides about a target comes from a map that was kept. -/
def kept (c : Change) (key target : String) : Bool :=
  match (scopeFields key c.after.permissions).lookup (decidingKey c.after key target) with
  | some _ => c.permissionsKept
  | none => c.roleKept

/-- Another entry decides about the target than before, and it was kept, is a text, or is granted by
an actor with an entry of their own for the target, which is empty or not the one it was compared
with. -/
def Suspect (c : Change) (a : Holder) (key target : String) : Prop :=
  entry c.after key target ≠ entry c.before key target ∧
    (c.kept key target = true ∨ (∃ t, entry c.after key target = .str t) ∨
      (scopeGet (mergedScope a key) target ≠ .null ∧
        (decidingKey c.after key target = target →
          (scopeGet (mergedScope a key) target).truthy = false)))

/-- The rights of the entry that decides about the target are held. -/
def Covered (c : Change) (a : Holder) (key target : String) : Prop :=
  ∀ action, entryAllows? (entry c.after key target) action = some true →
    hasScope? c.before key target action = some true ∨ hasScope? a key target action = some true

/-- Every field of the map has passed the guard. -/
def Granted (a : Holder) (source : Json) : Prop :=
  ∀ fields, source = .obj fields → ∀ f ∈ fields, AdminWorld.guardField a f = .ok ()

/-- A map is kept, or is granted by the actor; and when one of them is granted, the guards have
evaluated the rights of the actor and of the user. -/
structure Guarded (c : Change) (a : Holder) : Prop where
  role : (c.roleKept = true ∧ c.after.role = c.before.role) ∨
    (c.roleKept = false ∧ Granted a c.after.role)
  permissions : (c.permissionsKept = true ∧ c.after.permissions = c.before.permissions) ∨
    (c.permissionsKept = false ∧ Granted a c.after.permissions)
  evaluated : c.after = c.before ∨ (isSuperuser? a = some false ∧ c.before.Evaluable)

section
variable {c : Change} {a : Holder} {source : Json} {key target resource action : String}

/-! ## Lists of actions -/

/-- What a granted map lists is held by the actor. -/
theorem Granted.has (h : Granted a source) (hl : Lists source resource (.str action)) :
    has? a resource (.str action) = some true := by
  obtain ⟨fields, actions, rfl, hf, hx⟩ := hl
  have hguard := forM_eq_ok.1 (h fields rfl _ hf) _ hx
  obtain ⟨held, hheld, hok⟩ := bind_eq_ok.1 hguard
  cases held with
  | false => cases hok
  | true => exact orRaise_eq_ok.1 hheld

/-- What is listed after the change was listed before it, or is held by the actor. -/
theorem Guarded.lists (h : c.Guarded a) (hl : c.after.Lists resource (.str action)) :
    c.before.Lists resource (.str action) ∨ has? a resource (.str action) = some true := by
  rcases hl with hl | hl
  · rcases h.role with ⟨-, heq⟩ | ⟨-, hgrant⟩
    · exact .inl (.inl (heq ▸ hl))
    · exact .inr (hgrant.has hl)
  · rcases h.permissions with ⟨-, heq⟩ | ⟨-, hgrant⟩
    · exact .inl (.inr (heq ▸ hl))
    · exact .inr (hgrant.has hl)

/-- No list of actions is worth more than its grantor's. -/
theorem Guarded.actions (h : c.Guarded a) (hhas : has? c.after resource (.str action) = some true) :
    has? c.before resource (.str action) = some true ∨
      has? a resource (.str action) = some true := by
  rcases h.evaluated with heq | ⟨-, hbefore⟩
  · exact .inl (heq ▸ hhas)
  · obtain ⟨-, k, hk, hl⟩ := has?_eq_true.1 hhas
    have hx : ∃ x, (x = "*" ∨ x = action) ∧ c.after.Lists k (.str x) := by
      rcases hl with hl | hl
      · exact ⟨"*", .inl rfl, hl⟩
      · exact ⟨action, .inr rfl, hl⟩
    obtain ⟨x, hx, hl⟩ := hx
    rcases h.lists hl with hl | hheld
    · have hheld : has? c.before k (.str x) = some true :=
        has?_eq_true.2 ⟨hbefore, k, .inr rfl, .inr hl⟩
      exact .inl (has?_of_wildcard hk hx hheld)
    · exact .inr (has?_of_wildcard hk hx hheld)

/-- Nobody becomes a superuser. -/
theorem Guarded.superuser (h : c.Guarded a) (hl : c.after.Lists "*" (.str "*")) :
    c.before.Lists "*" (.str "*") := by
  rcases h.evaluated with heq | ⟨hns, -⟩
  · exact heq ▸ hl
  · rcases h.lists hl with hl | hheld
    · exact hl
    · obtain ⟨-, hstar⟩ := isSuperuser?_eq_some.1 hns
      obtain ⟨-, k, hk, hl⟩ := has?_eq_true.1 hheld
      obtain rfl : k = "*" := hk.elim id id
      exact absurd (hstar.2 (hl.elim id id)) Bool.false_ne_true

/-! ## Scope maps -/

/-- What the guard compares an entry under the name `t` with. -/
def compared (own : List (String × Json)) (t : String) : Json :=
  (scopeGet own t).or ((scopeGet own "*").or (.arr []))

/-- An entry of a granted scope map has passed the guard. -/
theorem Granted.passed (h : Granted a source) {t : String} {e : Json}
    (hl : (scopeFields key source).lookup t = some e) :
    AdminWorld.guardScopeEntry (mergedScope a key) (t, e) = .ok () := by
  unfold scopeFields at hl
  split at hl
  · next fields =>
    split at hl
    · next scope hscope =>
      obtain ⟨l₁, l₂, heq, -⟩ := List.lookup_eq_some_iff.1 hscope
      have hmem : (key, Json.obj scope) ∈ fields := by simp [heq]
      obtain ⟨m₁, m₂, heq', -⟩ := List.lookup_eq_some_iff.1 hl
      have hmem' : (t, e) ∈ scope := by simp [heq']
      exact forM_eq_ok.1 (h fields rfl _ hmem) _ hmem'
    · cases hl
  · cases hl

/-- An entry that has passed the guard and is not a text allows no more than what it was compared
with. -/
theorem guardScopeEntry_allows {own : List (String × Json)} {t : String} {e : Json}
    (h : AdminWorld.guardScopeEntry own (t, e) = .ok ()) (htext : ∀ s, e ≠ .str s)
    (he : entryAllows? e action = some true) :
    entryAllows? (compared own t) action = some true := by
  obtain ⟨allowed, hallowed, h⟩ := bind_eq_ok.1 h
  have hset : (compared own t).toSet? = some allowed := orRaise_eq_ok.1 hallowed
  have hiter := Json.iter?_of_toSet? hset
  obtain ⟨htruthy, x, star, hx, hstar, hor⟩ := entryAllows?_eq_true.1 he
  obtain ⟨x', hx'⟩ := Json.contains?_isSome (s := action) hiter
  obtain ⟨star', hstar'⟩ := Json.contains?_isSome (s := "*") hiter
  -- it is enough that the action or `*` is in the set
  have enough : ∀ s, (s = action ∨ s = "*") → .str s ∈ allowed →
      entryAllows? (compared own t) action = some true := by
    intro s hs hmem
    refine entryAllows?_eq_true.2 ⟨Json.truthy_of_mem_iter? hiter hmem, x', star', hx', hstar', ?_⟩
    have hc := Json.contains?_of_mem_iter? hiter hmem
    rcases hs with rfl | rfl
    · exact .inl (Option.some.inj (hx'.symm.trans hc))
    · exact .inr (Option.some.inj (hstar'.symm.trans hc))
  split at h
  · next hlisted => exact enough "*" (.inr rfl) (Json.listed_str.1 hlisted)
  · obtain ⟨granted, hgranted, h⟩ := bind_eq_ok.1 h
    split at h
    · next hall =>
      have hset' : e.toSet? = some granted := by
        have hor : e.or (.arr [.str "*"]) = e := by rw [Json.or, htruthy, if_pos rfl]
        exact hor ▸ orRaise_eq_ok.1 hgranted
      have hin : ∀ s, e.contains? s = some true → .str s ∈ allowed := fun s hs =>
        Json.listed_str.1 (List.all_eq_true.1 hall _
          (Json.mem_iter?_of_contains? (Json.iter?_of_toSet? hset') htext hs))
      rcases hor with rfl | rfl
      · exact enough action (.inl rfl) (hin action hx)
      · exact enough "*" (.inr rfl) (hin "*" hstar)
    · cases h

/-- The entry that decides was found in one of the two maps. -/
theorem lookup_of_entry {u : Holder} {e : Json} (h : entry u key target = e)
    (he : e.truthy = true) :
    (scopeFields key u.permissions).lookup (decidingKey u key target) = some e ∨
    ((scopeFields key u.permissions).lookup (decidingKey u key target) = none ∧
      (scopeFields key u.role).lookup (decidingKey u key target) = some e) := by
  rw [entry, scopeEntry_eq] at h
  have hget : (mergedScope u key).lookup (decidingKey u key target) = some e := by
    change scopeGet (mergedScope u key) (decidingKey u key target) = e at h
    unfold scopeGet at h
    cases hl : (mergedScope u key).lookup (decidingKey u key target) with
    | none =>
      rw [hl] at h
      subst h
      cases he
    | some e' =>
      rw [hl] at h
      exact congrArg some h
  rw [mergedScope, List.lookup_append] at hget
  cases hp : (scopeFields key u.permissions).lookup (decidingKey u key target) with
  | none =>
    rw [hp] at hget
    exact .inr ⟨rfl, hget⟩
  | some e' =>
    rw [hp] at hget
    exact .inl hget

/-- An entry that was not kept has passed the guard. -/
theorem Guarded.passed (h : c.Guarded a) {e : Json} (he : entry c.after key target = e)
    (ht : e.truthy = true) (hkept : c.kept key target ≠ true) :
    AdminWorld.guardScopeEntry (mergedScope a key) (decidingKey c.after key target, e) =
      .ok () := by
  unfold kept at hkept
  rcases lookup_of_entry he ht with hl | ⟨hn, hl⟩
  · rw [hl] at hkept
    rcases h.permissions with ⟨hk, -⟩ | ⟨-, hgrant⟩
    · exact absurd hk hkept
    · exact hgrant.passed hl
  · rw [hn] at hkept
    rcases h.role with ⟨hk, -⟩ | ⟨-, hgrant⟩
    · exact absurd hk hkept
    · exact hgrant.passed hl

/-- Where the actor has no entry for the target, or a nonempty one that the guard looks at, the
guard compares with the entry that decides about the target for the actor. -/
theorem allows_of_compared {own : List (String × Json)} {t : String}
    (ht : t = target ∨ t = "*")
    (hown : scopeGet own target = .null ∨ (t = target ∧ (scopeGet own target).truthy = true))
    (h : entryAllows? (compared own t) action = some true) :
    entryAllows? (scopeEntry own target) action = some true := by
  have hempty : entryAllows? (.arr []) action = some false := rfl
  rcases hown with hnull | ⟨rfl, htruthy⟩
  · have hstar : compared own t = (scopeGet own "*").or (.arr []) := by
      unfold compared
      rcases ht with rfl | rfl
      · rw [hnull]
        rfl
      · unfold Json.or
        split
        · rfl
        · rfl
    rw [hstar] at h
    rw [scopeEntry, if_pos hnull]
    unfold Json.or at h
    split at h
    · exact h
    · rw [hempty] at h
      cases h
  · have hself : compared own t = scopeGet own t := by
      rw [compared, Json.or, if_pos htruthy]
    rw [hself] at h
    rw [scopeEntry, if_neg]
    · exact h
    · intro hnull
      rw [hnull] at htruthy
      cases htruthy

theorem Guarded.before_evaluable (h : c.Guarded a) (hev : c.after.Evaluable) :
    c.before.Evaluable := by
  rcases h.evaluated with hc | ⟨-, hb⟩
  · exact hc ▸ hev
  · exact hb

/-- Only the rights of suspect entries can be new. -/
theorem Guarded.covered (h : c.Guarded a) (hev : c.after.Evaluable)
    (hsus : ¬ c.Suspect a key target) : c.Covered a key target := by
  intro action hallow
  by_cases heq : entry c.after key target = entry c.before key target
  · rw [heq] at hallow
    exact .inl (hasScope?_eq_true.2 ⟨h.before_evaluable hev, .inr hallow⟩)
  · right
    have hnot := not_and.1 hsus heq
    rw [not_or, not_or] at hnot
    obtain ⟨hkept, htext, hown⟩ := hnot
    obtain ⟨htruthy, -⟩ := entryAllows?_eq_true.1 hallow
    have hguard := h.passed rfl htruthy hkept
    have hcmp := guardScopeEntry_allows hguard (fun s hs => htext ⟨s, hs⟩) hallow
    have hns : isSuperuser? a = some false := by
      rcases h.evaluated with hc | ⟨hns, -⟩
      · exact absurd (by rw [hc]) heq
      · exact hns
    refine hasScope?_eq_true.2 ⟨(isSuperuser?_eq_some.1 hns).1, .inr ?_⟩
    refine allows_of_compared ?_ ?_ hcmp
    · unfold decidingKey
      split
      · exact .inr rfl
      · exact .inl rfl
    · by_cases hnull : scopeGet (mergedScope a key) target = .null
      · exact .inl hnull
      · right
        have hdec := not_and.1 hown hnull
        rw [Classical.not_imp, Bool.not_eq_false] at hdec
        exact hdec

/-- A guarded change gives away no right exactly when the rights of its suspect entries are held. -/
theorem Guarded.noEscalation_iff (h : c.Guarded a) : c.NoEscalation a ↔
    (c.after.Evaluable → ∀ key target, c.Suspect a key target → c.Covered a key target) := by
  constructor
  · intro hno hev key target _ action hallow
    exact hno.scopes key target action (hasScope?_eq_true.2 ⟨hev, .inr hallow⟩)
  · intro hcov
    refine ⟨fun _ _ => h.actions, fun key target action hhas => ?_⟩
    obtain ⟨hev, hstar | hallow⟩ := hasScope?_eq_true.1 hhas
    · exact .inl (hasScope?_eq_true.2 ⟨h.before_evaluable hev, .inl (h.superuser hstar)⟩)
    · by_cases hsus : c.Suspect a key target
      · exact hcov hev key target hsus action hallow
      · exact h.covered hev hsus action hallow

end

end Change

/-! ## Accepted requests -/

namespace AdminWorld

section
variable (env : AdminEnv) (w : AdminWorld) (actor : Account)

/-- What an accepted request does to the rights of a user. A new user had none before. -/
def change : AdminAct → Option Change
  | .create data =>
    match (w.create env actor data).2 with
    | .ok u => some ⟨⟨.null, .null⟩, w.holder u, false, false⟩
    | .error _ => none
  | .update uuid data =>
    match w.acceptUpdate actor uuid data, (w.update env actor uuid data).2 with
    | .ok (u, fields, role), .ok u' =>
      some ⟨w.holder u, w.holder u', role.isNone, decide (field fields "permissions" = .null)⟩
    | _, _ => none
  | .delete _ => none

variable {env w actor}

/-- What a guard of a grant that was passed says. -/
theorem guardGrant_eq_ok {a : Holder} {role : Option AccountRole} {permissions : Json}
    (h : guardGrant a role permissions = .ok ()) (hns : isSuperuser? a ≠ some true) :
    isSuperuser? a = some false ∧ (∀ r, role = some r → Change.Granted a r.permissions) ∧
      (permissions ≠ .null → Change.Granted a permissions) := by
  obtain ⟨superuser, hsup, h⟩ := bind_eq_ok.1 h
  have hsup' : isSuperuser? a = some superuser := orRaise_eq_ok.1 hsup
  cases superuser with
  | true => exact absurd hsup' hns
  | false =>
    obtain ⟨fields, hfields, h⟩ := bind_eq_ok.1 h
    obtain ⟨⟨⟩, hrole, hperm⟩ := bind_eq_ok.1 h
    refine ⟨hsup', ?_, fun hnull => ?_⟩
    · rintro r rfl rfields hr f hf
      refine forM_eq_ok.1 hrole f ?_
      rw [grantedByRole, hr]
      exact hf
    · rintro pfields rfl f hf
      cases hfields
      exact forM_eq_ok.1 hperm f hf

/-- A target that was not refused is the actor, or was evaluated. -/
theorem guardTarget_eq_ok {u : Account} (h : w.guardTarget actor u = .ok ())
    (hns : isSuperuser? (w.holder actor) = some false) :
    actor.id = u.id ∨ (w.holder u).Evaluable := by
  unfold guardTarget at h
  split at h
  · next hid => exact .inl hid
  · right
    obtain ⟨own, hown, h⟩ := bind_eq_ok.1 h
    rw [hns] at hown
    cases hown
    obtain ⟨other, hother, -⟩ := bind_eq_ok.1 h
    exact (isSuperuser?_eq_some.1 (orRaise_eq_ok.1 hother)).1

theorem resolveRole_mem {name : Json} {r : AccountRole} (h : w.resolveRole name = .ok r) :
    r ∈ w.roles := by
  obtain ⟨s, -, h⟩ := bind_eq_ok.1 h
  split at h
  · next r' hr =>
    cases h
    exact List.mem_of_find?_eq_some hr
  · cases h

theorem requestedRole_mem {fields : List (String × Json)} {r : AccountRole}
    (h : w.requestedRole fields = .ok (some r)) : r ∈ w.roles := by
  unfold requestedRole at h
  split at h
  · cases hr : w.resolveRole (field fields "role") with
    | error e => rw [hr] at h; cases h
    | ok r' =>
      rw [hr] at h
      cases h
      exact resolveRole_mem hr
  · cases h

/-- An accepted update is a guarded change. -/
theorem guarded_update {u : Account} {fields : List (String × Json)} {role : Option AccountRole}
    (hactor : actor ∈ w.users) (hu : u ∈ w.users)
    (hns : isSuperuser? (w.holder actor) ≠ some true) (h : w.Accepted actor u fields role) :
    Change.Guarded ⟨w.holder u, w.holder (modify actor fields role u), role.isNone,
      decide (field fields "permissions" = .null)⟩ (w.holder actor) := by
  have hpkeep : field fields "permissions" = .null →
      (modify actor fields role u).permissions = u.permissions := fun hn => if_pos hn
  have hrkeep : role = none → (modify actor fields role u).roleId = u.roleId := by
    rintro rfl
    rfl
  refine ⟨?_, ?_, ?_⟩
  · cases role with
    | none => exact .inl ⟨rfl, rfl⟩
    | some r =>
      refine .inr ⟨rfl, ?_⟩
      have hrole : w.roleOf (modify actor fields (some r) u) = some r :=
        Table.get?_eq_some.2 ⟨requestedRole_mem h.requested, rfl⟩
      have hgrant := (guardGrant_eq_ok (h.grant (.inl rfl)) hns).2.1 r rfl
      unfold holder
      rwa [hrole]
  · by_cases hn : field fields "permissions" = .null
    · exact .inl ⟨decide_eq_true hn, hpkeep hn⟩
    · refine .inr ⟨decide_eq_false hn, ?_⟩
      have hgrant := (guardGrant_eq_ok (h.grant (.inr hn)) hns).2.2 hn
      have hnew : (modify actor fields role u).permissions = field fields "permissions" := if_neg hn
      unfold holder
      rwa [hnew]
  · by_cases hsome : role.isSome = true ∨ field fields "permissions" ≠ .null
    · right
      have hfalse := (guardGrant_eq_ok (h.grant hsome) hns).1
      refine ⟨hfalse, ?_⟩
      rcases guardTarget_eq_ok h.target hfalse with hid | hev
      · rw [← Table.eq_of_key_eq hactor hu hid]
        exact (isSuperuser?_eq_some.1 hfalse).1
      · exact hev
    · left
      rw [not_or, Option.not_isSome_iff_eq_none, not_not] at hsome
      unfold holder roleOf
      rw [hrkeep hsome.1, hpkeep hsome.2]

/-- What the checks of a new user have passed. -/
theorem checkCreate_eq_ok {fields : List (String × Json)} {loginId raw name : String}
    {role : AccountRole} (h : w.checkCreate actor fields = .ok (loginId, raw, name, role)) :
    role ∈ w.roles ∧
      guardGrant (w.holder actor) (some role) (field fields "permissions") = .ok () := by
  obtain ⟨_, -, h⟩ := bind_eq_ok.1 h
  obtain ⟨_, -, h⟩ := bind_eq_ok.1 h
  split at h
  · cases h
  · obtain ⟨_, -, h⟩ := bind_eq_ok.1 h
    split at h
    · cases h
    · split at h
      · cases h
      · obtain ⟨role', hrole, h⟩ := bind_eq_ok.1 h
        obtain ⟨⟨⟩, hgrant, h⟩ := bind_eq_ok.1 h
        split at h
        · cases h
          exact ⟨resolveRole_mem hrole, hgrant⟩
        · cases h

/-- An accepted creation is a guarded change. -/
theorem guarded_create {data : Json} {u : Account}
    (hns : isSuperuser? (w.holder actor) ≠ some true) (h : (w.create env actor data).2 = .ok u) :
    Change.Guarded ⟨⟨.null, .null⟩, w.holder u, false, false⟩ (w.holder actor) := by
  unfold create at h
  split at h
  · cases h
  · next fields loginId raw name role hchecks =>
    obtain ⟨fields', -, hchecks⟩ := bind_eq_ok.1 hchecks
    obtain ⟨x, hcheck, hx⟩ := bind_eq_ok.1 hchecks
    cases hx
    obtain ⟨hmem, hgrant⟩ := checkCreate_eq_ok hcheck
    obtain ⟨hfalse, hrole, hperm⟩ := guardGrant_eq_ok hgrant hns
    split at h
    · cases h
    · cases h
      have hroleOf : w.roleOf (newAccount env actor fields loginId raw name role) = some role :=
        Table.get?_eq_some.2 ⟨hmem, rfl⟩
      refine ⟨.inr ⟨rfl, ?_⟩, .inr ⟨rfl, ?_⟩, .inr ⟨hfalse, rfl⟩⟩
      · unfold holder
        rw [hroleOf]
        exact hrole role rfl
      · change Change.Granted _ ((field fields "permissions").or .empty)
        unfold Json.or
        split
        · next ht =>
          refine hperm fun hnull => ?_
          rw [hnull] at ht
          cases ht
        · rintro fields' heq f hf
          cases heq
          cases hf

/-- An accepted request is a guarded change. -/
theorem guarded_change {x : AdminAct} {c : Change} (hactor : actor ∈ w.users)
    (hns : isSuperuser? (w.holder actor) ≠ some true) (h : w.change env actor x = some c) :
    c.Guarded (w.holder actor) := by
  cases x with
  | create data =>
    dsimp only [change] at h
    split at h
    · next u hu =>
      cases h
      exact guarded_create hns hu
    · cases h
  | update uuid data =>
    dsimp only [change] at h
    split at h
    · next u fields role u' hacc hu' =>
      cases h
      obtain ⟨hu, -, haccepted⟩ := acceptUpdate_eq_ok hacc
      have heq : u' = modify actor fields role u := by
        unfold update at hu'
        rw [hacc] at hu'
        dsimp only at hu'
        split at hu'
        · cases hu'
        · cases hu'
          rfl
      rw [heq]
      exact guarded_update hactor (getByUuid_mem hu) hns haccepted
    · cases h
  | delete uuid => cases h

end

/-- **Rights are handed on, not gained.** After every request to create or update a user that is
accepted from an actor who is not a superuser, every right the user holds was held before or is held
by the actor, if and only if the rights of the suspect entries of scope maps are held: the entries
that come to decide about a target and were kept, are texts, or are granted by an actor with an
entry of their own for the target that is empty or that the guard did not look at. -/
theorem no_escalation_iff {env : AdminEnv} {w : AdminWorld} {actor : Account} {x : AdminAct}
    {c : Change} (hactor : actor ∈ w.users) (hns : isSuperuser? (w.holder actor) ≠ some true)
    (h : w.change env actor x = some c) :
    c.NoEscalation (w.holder actor) ↔
      (c.after.Evaluable → ∀ key target, c.Suspect (w.holder actor) key target →
        c.Covered (w.holder actor) key target) :=
  (guarded_change hactor hns h).noEscalation_iff

end AdminWorld

namespace GrantFixture

def role (id : Nat) (name : String) (permissions : Json) : AccountRole :=
  { id, name, permissions, deletedAt := none }

def account (id : Nat) (uuid : String) (roleId : Nat) (permissions : Json) : Account :=
  { id, uuid, loginId := uuid, password := "", name := .str uuid, email := .null,
    phoneNumber := .null, roleId, permissions, language := .str "en", isActive := true,
    tokenVersion := 0, lastUpdatedById := none, deletedAt := none }

/-- An operator may see and move every camera but `yard`, which is denied, and `hall`, which they
may only see. -/
def operator : Account :=
  account 20 "operator" 5 (.obj [("events", .arr [.str "read"]),
    ("users", .arr [.str "update"]), ("camera_scope", .obj [("*", .arr [.str "view", .str "ptz"]),
      ("yard", .arr []), ("hall", .arr [.str "view"])])])

/-- A clerk may update users, and sees no camera. -/
def clerk : Account := account 21 "clerk" 5 (.obj [("users", .arr [.str "update"])])

def guest : Account := account 22 "guest" 5 .empty

/-- A guard's role shows the camera `door`, which is denied to this guard. -/
def guard : Account :=
  account 23 "guard" 6 (.obj [("camera_scope", .obj [("door", .arr [])])])

def world : AdminWorld :=
  ⟨⟨[operator, clerk, guest, guard], by decide⟩,
    ⟨[role 5 "user" .empty,
      role 6 "guard" (.obj [("camera_scope", .obj [("door", .arr [.str "view"])])])], by decide⟩⟩

def env : AdminEnv := { UsersFixture.env with id := 24, uuid := "u24" }

def permissions (x : Json) : Json := .obj [("permissions", x)]

/-- The update gives the user a right on a camera that neither the user nor the actor had. -/
def gains (actor : Account) (uuid : String) (data : Json) (camera action : String) : Bool :=
  (world.change env actor (.update uuid data)).any fun c =>
    decide (isSuperuser? (world.holder actor) = some false) &&
    decide (hasCameraScope? c.after camera action = some true) &&
    decide (hasCameraScope? c.before camera action ≠ some true) &&
    decide (hasCameraScope? (world.holder actor) camera action ≠ some true)

/-- The request grants a list of actions. -/
def grantEvents : AdminAct :=
  .update "guest" (permissions (.obj [("events", .arr [.str "read"])]))

/-- A request that grants a camera the operator is denied. -/
def grantYard : AdminAct :=
  .update "guest" (permissions (.obj [("camera_scope", .obj [("yard", .arr [.str "view"])])]))

end GrantFixture

section
open GrantFixture

/-- A list of actions is granted, and nothing else is gained. -/
theorem no_escalation_fixture : ∃ c, world.change env operator grantEvents = some c ∧
    has? c.before "events" (.str "read") = some false ∧
    has? c.after "events" (.str "read") = some true ∧ c.NoEscalation (world.holder operator) := by
  have hc : world.change env operator grantEvents = some
      ⟨⟨.empty, .empty⟩, ⟨.empty, .obj [("events", .arr [.str "read"])]⟩, true, false⟩ := by
    decide +kernel
  refine ⟨_, hc, by decide +kernel, by decide +kernel, ?_⟩
  refine (AdminWorld.no_escalation_iff (by decide +kernel) (by decide +kernel) hc).2 ?_
  -- the new maps have no scope entries
  intro _ key target _ action hallow
  have hnone : mergedScope ⟨.empty, .obj [("events", .arr [.str "read"])]⟩ key = [] := by
    by_cases hk : key = "events"
    · subst hk
      rfl
    · have hb : (key == "events") = false := beq_eq_false_iff_ne.2 hk
      simp [mergedScope, scopeFields, Json.empty, List.lookup_cons, hb]
  change entryAllows? (scopeEntry (mergedScope _ key) target) action = some true at hallow
  rw [hnone] at hallow
  cases hallow

/-- A camera that is denied to the operator is granted by the operator; so is moving a camera the
operator may only see, by an entry for all cameras; and a clerk who sees no camera uncovers one by
taking an override away. -/
theorem denied_camera_granted :
    gains operator "guest" (permissions (.obj [("camera_scope",
      .obj [("yard", .arr [.str "view"])])])) "yard" "view" = true ∧
    gains operator "guest" (permissions (.obj [("camera_scope",
      .obj [("*", .arr [.str "ptz"])])])) "hall" "ptz" = true ∧
    gains clerk "guard" (permissions .empty) "door" "view" = true ∧
    ∃ c, world.change env operator grantYard = some c ∧ operator ∈ world.users ∧
      isSuperuser? (world.holder operator) = some false ∧
      ¬ c.NoEscalation (world.holder operator) := by
  refine ⟨by decide +kernel, by decide +kernel, by decide +kernel, ?_⟩
  have hsome : (world.change env operator grantYard).isSome = true := by decide +kernel
  obtain ⟨c, hc⟩ := Option.isSome_iff_exists.1 hsome
  refine ⟨c, hc, by decide +kernel, by decide +kernel, fun h => ?_⟩
  have key : (world.change env operator grantYard).all fun c =>
      decide (hasScope? c.after "camera_scope" "yard" "view" = some true) &&
      decide (hasScope? c.before "camera_scope" "yard" "view" ≠ some true) &&
      decide (hasScope? (world.holder operator) "camera_scope" "yard" "view" ≠ some true) := by
    decide +kernel
  rw [hc] at key
  simp only [Option.all_some, Bool.and_eq_true, decide_eq_true_eq] at key
  rcases h.scopes _ _ _ key.1.1 with hb | ha
  · exact key.1.2 hb
  · exact key.2 ha

end

end AeroXProtect
