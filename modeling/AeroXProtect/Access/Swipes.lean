import AeroXProtect.Access.Doors
import AeroXProtect.Lib.History

/-!
# Who opens a door

`opened_by_right` says that a controller is driven, and an opening logged as granted, only by a
request that has itself been decided before: an opening by hand, or a swipe in whose first statement
the door and the badge had every property that `evaluate` asks for (`Authorized`).
-/

open Lib

namespace AeroXProtect.Access

section
variable {hashPin collate : String → String} {s : AccessStore} {now : Int} {door : Door}
  {card : String} {pin : Option String} {c : Credential}

/-! ## One decision -/

/-- What a swipe at a door needs, of the badge and of the door. -/
structure Authorized (hashPin collate : String → String) (s : AccessStore) (now : Int) (door : Door)
    (card : String) (pin : Option String) (c : Credential) : Prop where
  mem : c ∈ s.credentials
  live : c.deleted = false
  card : collate c.cardNumber = collate (normalizeCard card)
  doorEnabled : door.enabled = true
  enabled : c.enabled = true
  notBefore : ∀ t ∈ c.validFrom, t ≤ now
  notAfter : ∀ t ∈ c.validUntil, now ≤ t
  group : door.accessGroup = "public" ∨ c.accessGroup = door.accessGroup
  pin : door.requirePin = true → ∃ p ∈ pin, c.pinHash = some (hashPin p)

theorem Credential.isValidAt_iff :
    c.isValidAt now = true ↔ (∀ t ∈ c.validFrom, t ≤ now) ∧ ∀ t ∈ c.validUntil, now ≤ t := by
  unfold isValidAt
  cases c.validFrom <;> cases c.validUntil <;> simp

theorem Credential.pin_ok_iff :
    (c.pinHash.isNone || !c.verifyPin hashPin pin) = false ↔
      ∃ p ∈ pin, c.pinHash = some (hashPin p) := by
  unfold verifyPin
  cases hp : c.pinHash with
  | none => simp
  | some h =>
    cases pin with
    | none => simp
    | some p => simp [@eq_comm _ h]

theorem AccessStore.findByCard_eq_some (h : s.findByCard collate card = some c) :
    c ∈ s.credentials ∧ c.deleted = false ∧
      collate c.cardNumber = collate (normalizeCard card) := by
  have hp := List.find?_some h
  simp only [Bool.and_eq_true, decide_eq_true_eq, Bool.not_eq_true'] at hp
  exact ⟨List.mem_of_find?_eq_some h, hp.2, hp.1⟩

/-- A swipe is granted exactly if the badge that the card number finds has what the door asks for,
and the decision names that badge. -/
theorem evaluate_granted_iff :
    (evaluate hashPin collate s now door card pin).granted = true ↔
      ∃ c, s.findByCard collate card = some c ∧
        evaluate hashPin collate s now door card pin = ⟨true, .ok, some c⟩ ∧
        Authorized hashPin collate s now door card pin c := by
  constructor
  · intro h
    unfold evaluate at h ⊢
    split at h
    · cases h
    next hdoor =>
    split at h
    · cases h
    next c hfind =>
    split_ifs at h with henabled hvalid hgroup hpin
    have hvalid' := Credential.isValidAt_iff.1 (by simpa using hvalid)
    obtain ⟨hmem, hlive, hcard⟩ := AccessStore.findByCard_eq_some hfind
    refine ⟨c, hfind, ?_, hmem, hlive, hcard, by simpa using hdoor, by simpa using henabled,
      hvalid'.1, hvalid'.2, ?_, fun hreq => ?_⟩
    · rw [if_neg hdoor, if_neg henabled, if_neg hvalid, if_neg hgroup, if_neg hpin]
    · by_contra hno
      exact hgroup (not_or.1 hno)
    · rw [hreq, Bool.true_and, Bool.not_eq_true] at hpin
      exact Credential.pin_ok_iff.1 hpin
  · rintro ⟨c, -, heq, -⟩
    rw [heq]

end

/-! ## One statement -/

/-- The opening that a request has been decided on, and not yet answered. -/
def AccessThread.opening : AccessThread → Option Opening
  | .drive o | .mark o | .record o | .raising o _ => some o
  | _ => none

/-- What a statement asks of a controller. -/
def AccessThread.driven (t : AccessThread) (e : AccessEnv) : List Drive :=
  match t with
  | .drive o =>
    let r := Access.drive o.door "unlock" o.door.unlockSeconds e.http
    [⟨o.door.id, o.decision.credential.map (·.id), r.1, r.2, e.now⟩]
  | _ => []

/-- What a statement logs. -/
def AccessThread.logged (t : AccessThread) (e : AccessEnv) : List AccessEvent :=
  match t with
  | .record o => if e.raises then [] else [o.event e]
  | _ => []

section
variable {hashPin collate : String → String} {s : AccessStore} {t : AccessThread} {e : AccessEnv}
  {r : AccessRequest} {o : Opening}

@[simp] theorem AccessStore.drives_modifyDoor (id : Nat) (f : Door → Door) :
    (s.modifyDoor id f).drives = s.drives := rfl

@[simp] theorem AccessStore.events_modifyDoor (id : Nat) (f : Door → Door) :
    (s.modifyDoor id f).events = s.events := rfl

@[simp] theorem AccessStore.drives_modifyCredential (id : Nat) (f : Credential → Credential) :
    (s.modifyCredential id f).drives = s.drives := rfl

@[simp] theorem AccessStore.events_modifyCredential (id : Nat) (f : Credential → Credential) :
    (s.modifyCredential id f).events = s.events := rfl

@[simp] theorem now_exec : (exec hashPin collate s t e).1.now = e.now := by
  unfold exec
  cases t <;> dsimp only <;> (try split) <;> (try split) <;> rfl

theorem drives_exec : (exec hashPin collate s t e).1.drives = t.driven e ++ s.drives := by
  unfold exec AccessThread.driven
  cases t <;> dsimp only <;> (try split) <;> (try split) <;> rfl

theorem events_exec : (exec hashPin collate s t e).1.events = t.logged e ++ s.events := by
  unfold exec AccessThread.logged
  cases t <;> dsimp only <;> (try split) <;> (try split) <;> rfl

/-- A request that has been decided on had been before, or was decided by this statement. -/
theorem opening_exec (h : (exec hashPin collate s t e).2.opening = some o) :
    t.opening = some o ∨ ∃ r, t = .start r ∧ e.raises = false ∧
      (select hashPin collate { s with now := e.now } r e).opening = some o := by
  unfold exec at h
  cases t with
  | start r =>
    dsimp only at h
    split at h
    · cases h
    · next hraises => exact .inr ⟨r, rfl, by simpa using hraises, h⟩
  | _ =>
    refine .inl ?_
    dsimp only at h
    repeat' split at h
    all_goals first
      | exact h
      | cases h

/-- A request has the right to open a door: by hand, or with a badge. -/
inductive Admits (hashPin collate : String → String) (s : AccessStore) (now : Int) :
    AccessRequest → Nat → Option Nat → Prop
  | byHand {doorId : Nat} {door : Door} : s.door? doorId = some door →
      Admits hashPin collate s now (.unlock doorId) doorId none
  | byBadge {doorId : Nat} {door : Door} {card : String} {pin source : Option String}
      {c : Credential} : s.door? doorId = some door →
      Authorized hashPin collate s now door card pin c →
      Admits hashPin collate s now (.swipe doorId card pin source) doorId (some c.id)

theorem AccessStore.door?_eq_some {id : Nat} {d : Door} (h : s.door? id = some d) :
    d ∈ s.doors ∧ d.id = id ∧ d.deleted = false := by
  have hp := List.find?_some h
  simp only [Bool.and_eq_true, decide_eq_true_eq, Bool.not_eq_true'] at hp
  exact ⟨List.mem_of_find?_eq_some h, hp⟩

/-- What the number of a card is looked up by does not depend on the space around it. -/
theorem normalizeCard_strip (card : String) :
    normalizeCard (String.ofList (Lib.strip card.toList)) = normalizeCard card := by
  unfold normalizeCard
  rw [String.toList_ofList, Lib.strip, Lib.strip, stripBy_stripBy]

theorem Authorized.of_strip {now : Int} {door : Door} {card : String} {pin : Option String}
    {c : Credential} (h : Authorized hashPin collate s now door
      (String.ofList (Lib.strip card.toList)) pin c) :
    Authorized hashPin collate s now door card pin c :=
  { h with card := by rw [h.card, normalizeCard_strip] }

/-- Where the first statement of a request leads. -/
inductive Selected (hashPin collate : String → String) (s : AccessStore) (r : AccessRequest)
    (e : AccessEnv) : AccessThread → Prop
  | failed : Selected hashPin collate s r e .failed
  | drive {o : Opening} : e.flag = true → o.decision.granted = true →
      Admits hashPin collate s e.now r o.door.id (o.decision.credential.map (·.id)) →
      Selected hashPin collate s r e (.drive o)
  | record {o : Opening} : o.decision.granted = false → Selected hashPin collate s r e (.record o)
  | insertDoor {data : DoorData} : Selected hashPin collate s r e (.insertDoor data)
  | writeDoor {seen new : Door} : Selected hashPin collate s r e (.writeDoor seen new)
  | insertCredential {data : CredentialData} {holder : String} :
      Selected hashPin collate s r e (.insertCredential data holder)
  | writeCredential {seen new : Credential} : (new.deleted = false → seen.deleted = false) →
      Selected hashPin collate s r e (.writeCredential seen new)

theorem select_spec (hashPin collate : String → String) (s : AccessStore) (r : AccessRequest)
    (e : AccessEnv) : Selected hashPin collate s r e (select hashPin collate s r e) := by
  unfold select
  split
  · exact .failed
  next hflag =>
  have hflag : e.flag = true := by simpa using hflag
  cases r with
  | swipe doorId card pin source =>
    dsimp only
    split
    · next door c cs hdoor hstrip =>
      split
      · next hgranted =>
        obtain ⟨cred, -, heq, hauth⟩ := evaluate_granted_iff.1 hgranted
        refine .drive hflag hgranted ?_
        dsimp only
        rw [heq, (AccessStore.door?_eq_some hdoor).2.1]
        rw [← hstrip] at hauth
        exact .byBadge hdoor hauth.of_strip
      · next hdenied => exact .record (Bool.eq_false_iff.2 hdenied)
    · exact .failed
  | unlock doorId =>
    dsimp only
    split
    · next door hdoor =>
      refine .drive hflag rfl ?_
      dsimp only
      rw [(AccessStore.door?_eq_some hdoor).2.1]
      exact .byHand hdoor
    · exact .failed
  | updateDoor doorId data =>
    dsimp only
    split
    · next door _ =>
      cases door.modify data
      · exact .failed
      · exact .writeDoor
    · exact .failed
  | updateCredential credId data =>
    dsimp only
    split
    · exact .writeCredential fun h => h
    · exact .failed
  | deleteCredential credId =>
    dsimp only
    split
    · exact .writeCredential fun (h : true = false) => Bool.noConfusion h
    · exact .failed
  | _ =>
    dsimp only
    repeat' split
    all_goals constructor

/-- A request that is decided in favour has the right to what it asks for, and drives the relay. -/
theorem select_opening (h : (select hashPin collate s r e).opening = some o)
    (hgranted : o.decision.granted = true) :
    e.flag = true ∧
      Admits hashPin collate s e.now r o.door.id (o.decision.credential.map (·.id)) := by
  have hspec := select_spec hashPin collate s r e
  generalize select hashPin collate s r e = t at h hspec
  cases hspec with
  | drive hflag _ hadmits =>
    cases h
    exact ⟨hflag, hadmits⟩
  | record hdenied =>
    cases h
    rw [hdenied] at hgranted
    cases hgranted
  | _ => cases h

/-- Only a decision in favour leads to the relay. -/
theorem drive_exec (h : (exec hashPin collate s t e).2 = .drive o) :
    o.decision.granted = true ∧ ∃ r, t = .start r ∧
      Admits hashPin collate { s with now := e.now } e.now r o.door.id
        (o.decision.credential.map (·.id)) := by
  unfold exec at h
  cases t with
  | start r =>
    dsimp only at h
    split at h
    · cases h
    · have hspec := select_spec hashPin collate { s with now := e.now } r e
      rw [h] at hspec
      cases hspec with
      | drive _ hgranted hadmits => exact ⟨hgranted, r, rfl, hadmits⟩
  | _ =>
    dsimp only at h
    repeat' split at h
    all_goals cases h

/-- A door is marked after its relay was driven. -/
theorem mark_exec (h : (exec hashPin collate s t e).2 = .mark o) :
    t = .drive o ∧ (drive o.door "unlock" o.door.unlockSeconds e.http).2 = .ok := by
  unfold exec at h
  cases t with
  | drive o' =>
    dsimp only at h
    split at h
    · next hok =>
      cases h
      exact ⟨rfl, hok⟩
    · cases h
  | start r =>
    dsimp only at h
    split at h
    · cases h
    · have hspec := select_spec hashPin collate { s with now := e.now } r e
      rw [h] at hspec
      cases hspec
  | _ =>
    dsimp only at h
    repeat' split at h
    all_goals cases h

end

/-! ## Every run -/

section
variable {hashPin collate : String → String} {now : Int} {as : List AccessAct} {p : AccessPool}

/-- Where the actions lead, from empty tables on. -/
def AccessPool.after (hashPin collate : String → String) (now : Int) (as : List AccessAct) :
    AccessPool :=
  as.foldl (AccessPool.step hashPin collate) (.start now)

/-- The first statement of the request `i` was executed not after `time`, and decided it in favour
of a door and a badge: the actions before it led to a state in which the request had the right to
open the door. -/
def Decided (hashPin collate : String → String) (now : Int) (as : List AccessAct) (i doorId : Nat)
    (credentialId : Option Nat) (time : Int) : Prop :=
  ∃ pre e r, pre ++ [.exec i e] <+: as ∧ e.now ≤ time ∧
    (AccessPool.after hashPin collate now pre).threads[i]? = some (.start r) ∧ e.flag = true ∧
    Admits hashPin collate { (AccessPool.after hashPin collate now pre).shared with now := e.now }
      e.now r doorId credentialId

/-- What an action adds to the drives and to the log is added by a statement of a request that was
decided before, as far as it is a drive or an opening that is granted. -/
def Owed (hashPin collate : String → String) (now : Int) (pre : List AccessAct) (a : AccessAct) :
    Prop :=
  let p := AccessPool.after hashPin collate now pre
  let q := p.step hashPin collate a
  (q.shared.drives = p.shared.drives ∧ q.shared.events = p.shared.events) ∨
    ∃ i e t, a = .exec i e ∧ p.threads[i]? = some t ∧
      q.shared.drives = t.driven e ++ p.shared.drives ∧
      q.shared.events = t.logged e ++ p.shared.events ∧
      (∀ x ∈ t.driven e, Decided hashPin collate now pre i x.doorId x.credentialId x.time) ∧
      ∀ ev ∈ t.logged e, ev.granted = true →
        Decided hashPin collate now pre i ev.doorId ev.credentialId ev.time

/-- A drive by a statement of a request that was decided before. -/
def DrivenByRight (hashPin collate : String → String) (now : Int) (as : List AccessAct)
    (x : Drive) : Prop :=
  ∃ pre i e t, pre ++ [.exec i e] <+: as ∧
    (AccessPool.after hashPin collate now pre).threads[i]? = some t ∧ x ∈ t.driven e ∧
    Decided hashPin collate now pre i x.doorId x.credentialId x.time

theorem AccessPool.step_exec {i : Nat} {t : AccessThread} {e : AccessEnv}
    (h : p.threads[i]? = some t) : p.step hashPin collate (.exec i e) =
      ⟨(exec hashPin collate p.shared t e).1,
        p.threads.set i (exec hashPin collate p.shared t e).2⟩ :=
  Pool.step_exec h e

/-- The clock of the store does not go back. -/
theorem now_le_step {a : AccessAct} (hok : p.sound a = true) :
    p.shared.now ≤ (p.step hashPin collate a).shared.now := by
  unfold AccessPool.step
  rcases Pool.step_cases p a with heq | ⟨r, -, heq⟩ | ⟨i, e, t, rfl, ht, heq⟩
  · exact Int.le_of_eq (by rw [heq])
  · exact Int.le_of_eq (by rw [heq])
  · rw [heq]
    simp only [AccessPool.sound, Bool.and_eq_true, decide_eq_true_eq] at hok
    simpa using hok.1.1

theorem now_le_run {q : AccessPool}
    (h : Run (AccessPool.step hashPin collate) (fun p a => p.sound a = true) q as p) :
    q.shared.now ≤ p.shared.now :=
  h.invariant (I := fun p => q.shared.now ≤ p.shared.now)
    (fun _ _ hle hok => Int.le_trans hle (now_le_step hok)) (Int.le_refl _)

/-- What holds of the store at the end of a run is owed to a statement of the run. -/
theorem AccessPool.exists_exec
    (h : Run (AccessPool.step hashPin collate) (fun p a => p.sound a = true) (.start now) as p)
    {P : AccessStore → Prop} (hstart : ¬ P (AccessPool.start now).shared) (hend : P p.shared) :
    ∃ pre q i e u, pre ++ [.exec i e] <+: as ∧
      Run (AccessPool.step hashPin collate) (fun p a => p.sound a = true) (.start now) pre q ∧
      q.sound (.exec i e) = true ∧ q.threads[i]? = some u ∧ ¬ P q.shared ∧
      P (exec hashPin collate q.shared u e).1 := by
  rw [← h.foldl_eq] at hend
  obtain ⟨pre, i, e, u, hpre, hu, hnot, hbegin⟩ :=
    Pool.exists_exec_shared AccessThread.start (exec hashPin collate) hstart hend
  obtain ⟨hbefore, hok, -⟩ := h.ok_of_prefix hpre
  exact ⟨pre, _, i, e, u, hpre, hbefore, hok, hu, hnot, hbegin⟩

/-- A request that is in the middle of an opening in its favour was decided before. -/
theorem decided_of_opening
    (h : Run (AccessPool.step hashPin collate) (fun p a => p.sound a = true) (.start now) as p)
    {i : Nat} {t : AccessThread} (ht : p.threads[i]? = some t) {o : Opening}
    (ho : t.opening = some o) (hgranted : o.decision.granted = true) {time : Int}
    (htime : p.shared.now ≤ time) :
    Decided hashPin collate now as i o.door.id (o.decision.credential.map (·.id)) time := by
  rw [← h.foldl_eq] at ht
  obtain ⟨pre, e, u, hpre, hu, hnot, hbegin⟩ :=
    Pool.exists_exec_getElem? (Q := fun t => t.opening = some o)
      (fun r => by simp [AccessThread.opening]) (fun t ht => absurd ht List.not_mem_nil) ht ho
  change (AccessPool.after hashPin collate now pre).threads[i]? = some u at hu
  obtain hsame | ⟨r, rfl, -, hselect⟩ := opening_exec hbegin
  · exact absurd hsame hnot
  obtain ⟨hflag, hadmits⟩ := select_opening hselect hgranted
  obtain ⟨-, -, post, hpost⟩ := h.ok_of_prefix hpre
  have hlater := now_le_run hpost
  change ((AccessPool.after hashPin collate now pre).step hashPin collate (.exec i e)).shared.now ≤
    p.shared.now at hlater
  rw [AccessPool.step_exec hu, now_exec] at hlater
  exact ⟨pre, e, r, hpre, Int.le_trans hlater htime, hu, hflag, hadmits⟩

/-- In every run a relay is driven, and its door marked, only after a decision in favour. -/
theorem granted_of_relay
    (h : Run (AccessPool.step hashPin collate) (fun p a => p.sound a = true) (.start now) as p) :
    ∀ t ∈ p.threads, ∀ o, t = .drive o ∨ t = .mark o → o.decision.granted = true := by
  refine h.invariant
    (I := fun p => ∀ t ∈ p.threads, ∀ o, t = .drive o ∨ t = .mark o → o.decision.granted = true)
    (fun p a hp _ => Pool.forall_step a hp (fun r o ho => ?_) fun t e ht o ho => ?_)
    (fun t ht => absurd ht List.not_mem_nil)
  · rcases ho with ho | ho <;> cases ho
  · rcases ho with ho | ho
    · exact (drive_exec ho).1
    · exact ht o (.inl (mark_exec ho).1)

/-- A controller is driven by a request that was decided before. -/
theorem decided_of_driven
    (h : Run (AccessPool.step hashPin collate) (fun p a => p.sound a = true) (.start now) as p)
    {i : Nat} {t : AccessThread} (ht : p.threads[i]? = some t) {e : AccessEnv}
    (hle : p.shared.now ≤ e.now) {x : Drive} (hx : x ∈ t.driven e) :
    Decided hashPin collate now as i x.doorId x.credentialId x.time := by
  cases t with
  | drive o =>
    obtain rfl := List.mem_singleton.1 hx
    have hgranted := granted_of_relay h _ (List.mem_of_getElem? ht) o (.inl rfl)
    exact decided_of_opening h ht rfl hgranted hle
  | _ => exact absurd hx List.not_mem_nil

/-- An opening is logged as granted by a request that was decided before. -/
theorem decided_of_logged
    (h : Run (AccessPool.step hashPin collate) (fun p a => p.sound a = true) (.start now) as p)
    {i : Nat} {t : AccessThread} (ht : p.threads[i]? = some t) {e : AccessEnv}
    (hle : p.shared.now ≤ e.now) {ev : AccessEvent} (hev : ev ∈ t.logged e)
    (hgranted : ev.granted = true) :
    Decided hashPin collate now as i ev.doorId ev.credentialId ev.time := by
  cases t with
  | record o =>
    simp only [AccessThread.logged] at hev
    split at hev
    · exact absurd hev List.not_mem_nil
    · obtain rfl := List.mem_singleton.1 hev
      exact decided_of_opening h ht rfl hgranted hle
  | _ => exact absurd hev List.not_mem_nil

/-- Every drive of a run is one by right. -/
theorem drivenByRight_of_drives
    (hrun : Run (AccessPool.step hashPin collate) (fun p a => p.sound a = true) (.start now) as p)
    {x : Drive} (hx : x ∈ p.shared.drives) : DrivenByRight hashPin collate now as x := by
  obtain ⟨pre, q, i, e, u, hpre, hbefore, hok, hu, hnot, hbegin⟩ :=
    AccessPool.exists_exec hrun (P := fun s => x ∈ s.drives) List.not_mem_nil hx
  simp only [AccessPool.sound, Bool.and_eq_true, decide_eq_true_eq] at hok
  rw [drives_exec] at hbegin
  have hmem := (List.mem_append.1 hbegin).resolve_right hnot
  refine ⟨pre, i, e, u, hpre, ?_, hmem, decided_of_driven hbefore hu hok.1.1 hmem⟩
  rw [AccessPool.after, hbefore.foldl_eq, hu]

end

/-- In every run, from empty tables on, whatever an action adds to the drives or, granted, to the
log is added by a statement of a request whose own first statement decided it before, in a state in
which it had the right to open that door. -/
theorem opened_by_right (hashPin collate : String → String) (now : Int) (as : List AccessAct)
    (p : AccessPool)
    (hrun : Run (AccessPool.step hashPin collate) (fun p a => p.sound a = true) (.start now) as p) :
    ∀ pre a, pre ++ [a] <+: as → Owed hashPin collate now pre a := by
  intro pre a hpre
  obtain ⟨hbefore, hok, -⟩ := hrun.ok_of_prefix hpre
  change Run _ _ _ pre (AccessPool.after hashPin collate now pre) at hbefore
  change (AccessPool.after hashPin collate now pre).sound a = true at hok
  unfold Owed AccessPool.step
  dsimp only
  rcases Pool.step_cases (AccessPool.after hashPin collate now pre) a with
    heq | ⟨r, -, heq⟩ | ⟨i, e, t, rfl, ht, heq⟩ <;> rw [heq]
  · exact .inl ⟨rfl, rfl⟩
  · exact .inl ⟨rfl, rfl⟩
  · simp only [AccessPool.sound, Bool.and_eq_true, decide_eq_true_eq] at hok
    exact .inr ⟨i, e, t, rfl, ht, drives_exec, events_exec,
      fun x hx => decided_of_driven hbefore ht hok.1.1 hx,
      fun ev hev hgranted => decided_of_logged hbefore ht hok.1.1 hev hgranted⟩

namespace AccessFixture

/-- A statement at a second, with an id for a row. -/
def at' (now : Int) (id : Nat) : AccessEnv := ⟨seconds now, true, id, .status 200, true, false⟩

/-- A door of the group of the staff that asks for a PIN. -/
def staffDoor : DoorData :=
  ⟨some "Lab", some "mock", none, none, some "staff", some true, some 8, none⟩

/-- A badge of the staff with a PIN. -/
def staffBadge : CredentialData :=
  ⟨" A7 ", some "Kim", none, some "staff", some (some "1234"), none, some (some (seconds 90)), none⟩

/-- The door and the badge are created. -/
def opened : List AccessAct :=
  [.spawn (.createDoor staffDoor), .exec 0 (at' 0 1), .exec 0 (at' 0 1),
    .spawn (.createCredential staffBadge), .exec 1 (at' 1 2), .exec 1 (at' 1 2)]

/-- The badge is shown with its PIN and with another one, at the same time: the second swipe is
decided first, and the first one drives the relay. -/
def crossed : List AccessAct :=
  [.spawn (.swipe 1 "A7" (some "1234") none), .spawn (.swipe 1 "A7" (some "9999") none),
    .exec 3 (at' 10 7), .exec 2 (at' 10 7), .exec 3 (at' 10 7)]

/-- A swipe that is granted, through to its log entry. -/
def swiped : List AccessAct :=
  [.spawn (.swipe 1 "A7" (some "1234") (some "reader")), .exec 2 (at' 10 7), .exec 2 (at' 10 7),
    .exec 2 (at' 11 7), .exec 2 (at' 12 7), .exec 2 (at' 12 7)]

end AccessFixture

open AccessFixture in
/-- Of two swipes at the same time the one with the right PIN drives the relay, and was in the right
itself when it did. -/
theorem opened_by_right_badge :
    Owed id id 0 (opened ++ crossed) (.exec 2 (at' 11 8)) ∧
      (AccessPool.after id id 0 (opened ++ crossed)).shared.events.map (·.reason) = [.badPin] ∧
      (AccessPool.after id id 0 (opened ++ crossed ++ [.exec 2 (at' 11 8)])).shared.drives =
        [⟨1, some 2, none, .ok, seconds 11⟩] :=
  ⟨opened_by_right id id 0 (opened ++ crossed ++ [.exec 2 (at' 11 8)]) _
    (.of_admits (by decide +kernel)) (opened ++ crossed) (.exec 2 (at' 11 8)) (List.prefix_refl _),
    by decide +kernel, by decide +kernel⟩

end AeroXProtect.Access
