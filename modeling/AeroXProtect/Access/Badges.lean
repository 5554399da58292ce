import AeroXProtect.Access.Swipes

/-!
# Badges that are out of use

A badge that is deleted stays deleted, and one that is disabled stays so until an edit enables it
(`AccessPool.enables`), whatever other edits and swipes come in between. `retired_badge` says that
from then on no door is driven for it, apart from the swipes that were granted before and had only
to drive the relay, once each.
-/

open Lib

namespace AeroXProtect.Access

/-! ## The rows of a badge -/

section
variable {hashPin collate : String → String} {s : AccessStore} {t : AccessThread} {e : AccessEnv}
  {id : Nat}

/-- There is a row of the badge, and every one satisfies `P`. -/
def AccessStore.Badge (id : Nat) (P : Credential → Prop) (s : AccessStore) : Prop :=
  (∃ c ∈ s.credentials, c.id = id) ∧ ∀ c ∈ s.credentials, c.id = id → P c

/-- What a statement does to the badges. -/
theorem credentials_exec (hashPin collate : String → String) (s : AccessStore) (t : AccessThread)
    (e : AccessEnv) : (exec hashPin collate s t e).1.credentials = s.credentials ∨
      (∃ data holder, t = .insertCredential data holder ∧
        (exec hashPin collate s t e).1.credentials =
        s.credentials ++ [Credential.create hashPin e.id data holder]) ∨
      ∃ seen new, t = .writeCredential seen new ∧ e.raises = false ∧
        (exec hashPin collate s t e).1.credentials =
          s.credentials.map fun c => if c.id = seen.id then seen.writeBack new c else c := by
  unfold exec
  cases t with
  | insertCredential data holder =>
    dsimp only
    split
    · exact .inl rfl
    · exact .inr (.inl ⟨data, holder, rfl, rfl⟩)
  | writeCredential seen new =>
    dsimp only
    split
    · exact .inl rfl
    · next h => exact .inr (.inr ⟨seen, new, rfl, by simpa using h, rfl⟩)
  | _ =>
    refine .inl ?_
    dsimp only
    repeat' split
    all_goals rfl

/-- A property of the rows of a badge that no write to them takes away is kept by a statement. -/
theorem AccessStore.Badge.exec {P : Credential → Prop} (h : s.Badge id P)
    (hfresh : ∀ c ∈ s.credentials, c.id ≠ e.id)
    (hwrite : ∀ seen new c, t = .writeCredential seen new → e.raises = false → seen.id = id → P c →
      P (seen.writeBack new c)) :
    (exec hashPin collate s t e).1.Badge id P := by
  obtain ⟨⟨c, hc, hid⟩, hall⟩ := h
  rcases credentials_exec hashPin collate s t e with heq | ⟨data, holder, -, heq⟩ |
    ⟨seen, new, rfl, hraises, heq⟩
  · exact ⟨⟨c, by rwa [heq], hid⟩, by rwa [heq]⟩
  · refine ⟨⟨c, by rw [heq]; exact List.mem_append_left _ hc, hid⟩, fun d hd hdid => ?_⟩
    rw [heq] at hd
    rcases List.mem_append.1 hd with hd | hd
    · exact hall d hd hdid
    · -- the id of the new row is not that of the badge
      obtain rfl := List.mem_singleton.1 hd
      exact absurd (hid.trans hdid.symm) (hfresh c hc)
  · have hkeep : ∀ d : Credential,
        (if d.id = seen.id then seen.writeBack new d else d).id = d.id := by
      intro d
      split <;> rfl
    refine ⟨⟨_, by rw [heq]; exact List.mem_map_of_mem hc, (hkeep c).trans hid⟩,
      fun d hd hdid => ?_⟩
    rw [heq] at hd
    obtain ⟨b, hb, rfl⟩ := List.mem_map.1 hd
    rw [hkeep] at hdid
    split
    · next hseen => exact hwrite seen new b rfl hraises (hseen.symm.trans hdid) (hall b hb hdid)
    · exact hall b hb hdid

/-- The badge can not be used. -/
def Credential.Out (c : Credential) : Prop := c.deleted = true ∨ c.enabled = false

/-- A swipe with the badge was granted, and the relay is still to be driven. -/
def AccessThread.waits (id : Nat) : AccessThread → Bool
  | .drive o => decide (o.decision.credential.map (·.id) = some id)
  | _ => false

/-- No swipe with a badge that is out of use gets to the relay. -/
theorem waits_exec (h : s.Badge id Credential.Out) :
    (exec hashPin collate s t e).2.waits id = false := by
  rw [Bool.eq_false_iff]
  intro hwaits
  cases hnext : (exec hashPin collate s t e).2 with
  | drive o =>
    rw [hnext] at hwaits
    have hcred : o.decision.credential.map (·.id) = some id := of_decide_eq_true hwaits
    obtain ⟨-, r, -, hadmits⟩ := drive_exec hnext
    rw [hcred] at hadmits
    generalize o.door.id = doorId at hadmits
    cases hadmits with
    | byBadge _ hauth =>
      rcases h.2 _ hauth.mem rfl with hdeleted | hdisabled
      · exact absurd hdeleted (by rw [hauth.live]; exact Bool.false_ne_true)
      · exact absurd hdisabled (by rw [hauth.enabled]; exact Bool.noConfusion)
  | _ =>
    rw [hnext] at hwaits
    cases hwaits

/-- A statement drives a door for a badge exactly if the thread has waited for it. -/
theorem countP_driven : (t.driven e).countP (fun x => decide (x.credentialId = some id)) =
    if t.waits id then 1 else 0 := by
  cases t with
  | drive o => simp [AccessThread.driven, AccessThread.waits, List.countP_singleton]
  | _ => rfl

end

/-! ## From then on -/

section
variable {ok : AccessPool → AccessAct → Prop} {id : Nat}
  {p q : AccessPool} {post : List AccessAct}

/-- While a badge is out of use, each door that is driven for it uses up a swipe that waited. -/
theorem drives_of_out (hashPin collate : String → String) {I : AccessPool → Prop}
    (hout : ∀ p, I p → p.shared.Badge id Credential.Out)
    (hstep : ∀ p a, I p → ok p a → I (p.step hashPin collate a))
    (hrun : Run (AccessPool.step hashPin collate) ok q post p) (hq : I q) :
    ∃ new, p.shared.drives = new ++ q.shared.drives ∧
      new.countP (fun x => decide (x.credentialId = some id)) +
        p.threads.countP (AccessThread.waits id) ≤ q.threads.countP (AccessThread.waits id) := by
  refine (hrun.invariant (I := fun p => I p ∧ ∃ new, p.shared.drives = new ++ q.shared.drives ∧
    new.countP (fun x => decide (x.credentialId = some id)) +
      p.threads.countP (AccessThread.waits id) ≤ q.threads.countP (AccessThread.waits id))
    (fun p a hp hok => ⟨hstep p a hp.1 hok, ?_⟩) ⟨hq, [], rfl, by simp⟩).2
  obtain ⟨hI, new, hdrives, hle⟩ := hp
  unfold AccessPool.step
  rcases Pool.step_cases p a with heq | ⟨r, -, heq⟩ | ⟨i, e, t, -, ht, heq⟩
  · rw [heq]
    exact ⟨new, hdrives, hle⟩
  · rw [heq]
    refine ⟨new, hdrives, ?_⟩
    simpa [List.countP_append, AccessThread.waits] using hle
  · rw [heq]
    refine ⟨t.driven e ++ new, by rw [drives_exec, hdrives, List.append_assoc], ?_⟩
    have hcount := Pool.countP_exec (AccessThread.waits id) ht
      (exec hashPin collate p.shared t e).2
    rw [waits_exec (hout p hI)] at hcount
    simp only [Bool.false_eq_true, if_false] at hcount
    rw [List.countP_append, countP_driven]
    dsimp only
    omega

end

/-- A statement that is about to enable a badge that is not deleted. -/
def AccessPool.enables (id : Nat) (p : AccessPool) : AccessAct → Bool
  | .spawn _ => false
  | .exec i e =>
    (p.threads[i]?).any fun
      | .writeCredential seen new =>
        decide (seen.id = id) && !seen.enabled && new.enabled && !e.raises
      | _ => false

/-- An edit in progress does not bring a deleted badge back. -/
def AccessThread.keepsDeleted : AccessThread → Prop
  | .writeCredential seen new => new.deleted = false → seen.deleted = false
  | _ => True

section
variable {hashPin collate : String → String} {s : AccessStore} {t : AccessThread} {e : AccessEnv}
  {r : AccessRequest} {id : Nat} {seen new c : Credential}

theorem keepsDeleted_exec : (exec hashPin collate s t e).2.keepsDeleted := by
  unfold exec
  cases t with
  | start r =>
    dsimp only
    split
    · trivial
    · generalize hnext : select hashPin collate { s with now := e.now } r e = t
      have hspec := select_spec hashPin collate { s with now := e.now } r e
      rw [hnext] at hspec
      cases hspec with
      | writeCredential hkeep => exact hkeep
      | _ => trivial
  | _ =>
    dsimp only
    repeat' split
    all_goals trivial

theorem keepsDeleted_step {p : AccessPool} {a : AccessAct} (hp : ∀ t ∈ p.threads, t.keepsDeleted) :
    ∀ t ∈ (p.step hashPin collate a).threads, t.keepsDeleted :=
  Pool.forall_step a hp (fun _ => trivial) fun _ _ _ => keepsDeleted_exec

/-- In every run no edit brings a deleted badge back. -/
theorem keepsDeleted_run {now : Int} {as : List AccessAct} {p : AccessPool}
    (h : Run (AccessPool.step hashPin collate) (fun p a => p.sound a = true) (.start now) as p) :
    ∀ t ∈ p.threads, t.keepsDeleted :=
  h.invariant (I := fun p => ∀ t ∈ p.threads, t.keepsDeleted)
    (fun _ _ hp _ => keepsDeleted_step hp) (fun _ ht => absurd ht List.not_mem_nil)

/-- A property of the rows of a badge that no edit in progress takes away is kept by a step. -/
theorem badge_step {p : AccessPool} {a : AccessAct} {P : Credential → Prop}
    (h : p.shared.Badge id P) (hok : p.sound a = true)
    (hwrite : ∀ i e seen new c, a = .exec i e → p.threads[i]? = some (.writeCredential seen new) →
      e.raises = false → seen.id = id → P c → P (seen.writeBack new c)) :
    (p.step hashPin collate a).shared.Badge id P := by
  unfold AccessPool.step
  rcases Pool.step_cases p a with heq | ⟨r, -, heq⟩ | ⟨i, e, t, rfl, ht, heq⟩
  · rwa [heq]
  · rwa [heq]
  · rw [heq]
    simp only [AccessPool.sound, Bool.and_eq_true, List.all_eq_true, bne_iff_ne] at hok
    refine h.exec hok.2 fun seen new c heq => ?_
    subst heq
    exact hwrite i e seen new c rfl ht

theorem deleted_writeBack (h : new.deleted = false → seen.deleted = false)
    (hc : c.deleted = true) : (seen.writeBack new c).deleted = true := by
  simp only [Credential.writeBack, writeColumn]
  split
  · exact hc
  · next hne =>
    cases hnew : new.deleted with
    | true => rfl
    | false => exact absurd (hnew.trans (h hnew).symm) hne

theorem enabled_writeBack (h : ¬ (seen.enabled = false ∧ new.enabled = true))
    (hc : c.enabled = false) : (seen.writeBack new c).enabled = false := by
  simp only [Credential.writeBack, writeColumn]
  split
  · exact hc
  · next hne =>
    cases hnew : new.enabled with
    | false => rfl
    | true =>
      cases hseen : seen.enabled with
      | false => exact absurd ⟨hseen, hnew⟩ h
      | true => exact absurd (hnew.trans hseen.symm) hne

end

/-- A badge that is out of use stays so while no edit enables it. -/
theorem out_step {hashPin collate : String → String} {p : AccessPool} {a : AccessAct} {id : Nat}
    (h : p.shared.Badge id Credential.Out) (hok : p.sound a = true) (hoff : p.enables id a = false)
    (hthreads : ∀ t ∈ p.threads, t.keepsDeleted) :
    (p.step hashPin collate a).shared.Badge id Credential.Out := by
  refine badge_step h hok fun i e seen new c ha ht hraises hseen hc => ?_
  subst ha
  rcases hc with hc | hc
  · exact .inl (deleted_writeBack (hthreads _ (List.mem_of_getElem? ht)) hc)
  · refine .inr (enabled_writeBack (fun hon => ?_) hc)
    simp [AccessPool.enables, ht, hseen, hraises, hon] at hoff

/-- What has been driven for a badge since a state: no more than the swipes that waited then. -/
def DrivenBefore (id : Nat) (q p : AccessPool) : Prop :=
  ∃ new, p.shared.drives = new ++ q.shared.drives ∧
    new.countP (fun x => decide (x.credentialId = some id)) ≤
      q.threads.countP (AccessThread.waits id)

/-- In every run: once a badge is deleted no door is driven for it any more, and neither once it is
disabled as long as no edit enables it, apart from the swipes that had only to drive the relay at
that moment, once each. -/
theorem retired_badge (hashPin collate : String → String) (now : Int) (pre : List AccessAct)
    (q : AccessPool) (id : Nat)
    (hrun : Run (AccessPool.step hashPin collate) (fun p a => p.sound a = true) (.start now) pre q)
    (hrow : ∃ c ∈ q.shared.credentials, c.id = id) :
    ((∀ c ∈ q.shared.credentials, c.id = id → c.deleted = true) → ∀ post p,
      Run (AccessPool.step hashPin collate) (fun p a => p.sound a = true) q post p →
      DrivenBefore id q p) ∧
    ((∀ c ∈ q.shared.credentials, c.id = id → c.deleted = true ∨ c.enabled = false) → ∀ post p,
      Run (AccessPool.step hashPin collate)
        (fun p a => p.sound a = true ∧ p.enables id a = false) q post p →
      DrivenBefore id q p) := by
  have hthreads := keepsDeleted_run hrun
  constructor
  · intro hdeleted post p hpost
    obtain ⟨new, hdrives, hle⟩ := drives_of_out hashPin collate
      (I := fun p => p.shared.Badge id (·.deleted = true) ∧ ∀ t ∈ p.threads, t.keepsDeleted)
      (fun p hp => ⟨hp.1.1, fun c hc hid => .inl (hp.1.2 c hc hid)⟩)
      (fun p a hp hok => ⟨badge_step hp.1 hok fun i e seen new c _ ht _ _ hc =>
          deleted_writeBack (hp.2 _ (List.mem_of_getElem? ht)) hc, keepsDeleted_step hp.2⟩)
      hpost ⟨⟨hrow, hdeleted⟩, hthreads⟩
    exact ⟨new, hdrives, by omega⟩
  · intro hout post p hpost
    obtain ⟨new, hdrives, hle⟩ := drives_of_out hashPin collate
      (I := fun p => p.shared.Badge id Credential.Out ∧ ∀ t ∈ p.threads, t.keepsDeleted)
      (fun p hp => hp.1)
      (fun p a hp hok => ⟨out_step hp.1 hok.1 hok.2 hp.2, keepsDeleted_step hp.2⟩)
      hpost ⟨⟨hrow, hout⟩, hthreads⟩
    exact ⟨new, hdrives, by omega⟩

namespace AccessFixture

/-- A swipe is granted, and before its relay is driven the badge is deleted. -/
def deleted : List AccessAct :=
  opened ++ [.spawn (.swipe 1 "A7" (some "1234") none), .exec 2 (at' 10 7),
    .spawn (.deleteCredential 2), .exec 3 (at' 11 7), .exec 3 (at' 11 7)]

/-- The relay is driven, and the badge is shown again. -/
def after : List AccessAct :=
  [.exec 2 (at' 12 7), .spawn (.swipe 1 "A7" (some "1234") none), .exec 4 (at' 13 7),
    .exec 4 (at' 13 8)]

/-- Where a list of actions leads. -/
def reached (as : List AccessAct) : AccessPool := as.foldl (AccessPool.step id id) (.start 0)

end AccessFixture

open AccessFixture in
/-- The swipe that was granted before the badge was deleted drives the relay, the one after it is
refused. -/
theorem retired_badge_deleted :
    DrivenBefore 2 (reached deleted) (after.foldl (AccessPool.step id id) (reached deleted)) ∧
      ((after.foldl (AccessPool.step id id) (reached deleted)).shared.drives.map (·.credentialId),
        (after.foldl (AccessPool.step id id) (reached deleted)).shared.events.map (·.reason)) =
      ([some 2], [.unknownCard]) :=
  ⟨(retired_badge id id 0 deleted (reached deleted) 2 (.of_admits (by decide +kernel))
    (by decide +kernel)).1 (by decide +kernel) after _ (.of_admits (by decide +kernel)),
    by decide +kernel⟩

end AeroXProtect.Access
