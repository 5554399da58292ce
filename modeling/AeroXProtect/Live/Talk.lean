import AeroXProtect.Lib.Lock
import AeroXProtect.Lib.Interleave
import AeroXProtect.Lib.Run

/-!
# The talk lock of a camera

At most one user speaks over a camera at a time. `acquire` takes the lock with one command, or reads
its owner and gives it more time; `release` reads the owner and removes the lock. The reading and
the acting are two commands on a key that may expire and be taken by another user in between.

A run interleaves the commands of any number of calls (`Lib.Pool`); every command is given the
instant it is executed at. `TalkStore.told` notes until when a user has been told that the lock is
theirs. `one_speaker` says that nothing goes wrong in a run in which no call acts on a key that has
changed hands since it was read (`TalkStore.ActsOnOwn`).
-/

open Lib

namespace AeroXProtect

/-! ## Calls -/

/-- The call, with the time to live an `acquire` asks for. -/
inductive TalkOp
  | acquire (ttl : Int)
  | release
  deriving DecidableEq, Repr

/-- The next command of a call: the conditional `SET`, the `GET`, or the `EXPIRE` or `DEL` after a
`GET` that read the caller's own id. A finished call keeps its answer, `none` for an exception. -/
inductive TalkPc
  | set | get | act
  | done (answer : Option Bool)
  deriving DecidableEq, Repr

structure TalkCall where
  camera : Nat
  user : Nat
  op : TalkOp
  pc : TalkPc
  deriving DecidableEq, Repr

/-- The locks, and until when a user was told to hold the lock of a camera. -/
structure TalkStore where
  now : Int
  locks : Locks Nat Nat
  told : Nat → Nat → Option Int

/-- A request: camera, user and call. -/
abbrev TalkRequest := Nat × Nat × TalkOp

/-- The call before its first command. -/
def TalkCall.start (r : TalkRequest) : TalkCall where
  camera := r.1
  user := r.2.1
  op := r.2.2
  pc := match r.2.2 with
    | .acquire _ => .set
    | .release => .get

namespace TalkStore

/-- A user is told to hold the lock until `stop`, or no longer to hold it. -/
def tell (s : TalkStore) (camera user : Nat) (stop : Option Int) : TalkStore :=
  { s with told := fun c u => if c = camera ∧ u = user then stop else s.told c u }

/-- One command of a call. Redis refuses a `SET` whose time to live is not positive. Source:
`acquire` (`server/service/talk_session.py:15`), `release`
(`server/service/talk_session.py:27`). -/
def exec (s : TalkStore) (t : TalkCall) (now : Int) : TalkStore × TalkCall :=
  let s := { s with now }
  match t.pc, t.op with
  | .set, .acquire ttl =>
    if ttl ≤ 0 then (s, { t with pc := .done none })
    else
      let (locks, taken) := s.locks.setNx now t.camera t.user ttl
      if taken then
        ({ s with locks }.tell t.camera t.user (some (now + seconds ttl)),
          { t with pc := .done (some true) })
      else (s, { t with pc := .get })
  | .get, _ =>
    if s.locks.holder now t.camera = some t.user then (s, { t with pc := .act })
    else (s, { t with pc := .done (some false) })
  | .act, .acquire ttl =>
    ({ s with locks := s.locks.expire now t.camera ttl }.tell t.camera t.user
      (some (now + seconds ttl)), { t with pc := .done (some true) })
  | .act, .release =>
    ({ s with locks := s.locks.del t.camera }.tell t.camera t.user none,
      { t with pc := .done (some true) })
  | .set, .release | .done _, _ => (s, t)

/-- The condition: when a call acts on the key it has read, the key still names its user; a key
that has expired may be removed. -/
def ActsOnOwn (s : TalkStore) (t : TalkCall) (now : Int) : Prop :=
  t.pc = .act → s.locks.holder now t.camera = some t.user ∨
    t.op = .release ∧ s.locks.holder now t.camera = none

instance (s : TalkStore) (t : TalkCall) (now : Int) : Decidable (s.ActsOnOwn t now) :=
  inferInstanceAs (Decidable (_ → _))

/-- A user is told to hold the lock at an instant. -/
def TellsAt (s : TalkStore) (now : Int) (camera user : Nat) : Prop :=
  ∃ e, s.told camera user = some e ∧ now < e

/-- The lock backs every user who is told to hold it. -/
def Backed (s : TalkStore) : Prop :=
  ∀ c u e, s.told c u = some e → e ≤ s.now ∨ ∃ e', s.locks.entry c = some (u, e') ∧ e ≤ e'

end TalkStore

abbrev TalkPool := Pool TalkStore TalkCall

abbrev TalkAct := PoolAct TalkRequest Int

namespace TalkPool

/-- One action of the scheduler. -/
def step (p : TalkPool) (a : TalkAct) : TalkPool := Pool.step TalkCall.start TalkStore.exec p a

/-- The clock does not go back. -/
def clock (p : TalkPool) : TalkAct → Bool
  | .spawn _ => true
  | .exec _ now => decide (p.shared.now ≤ now)

/-- The clock does not go back, and no call acts on a key that has changed hands. -/
def ok (p : TalkPool) : TalkAct → Bool
  | .spawn _ => true
  | .exec i now => decide (p.shared.now ≤ now) &&
      (p.threads[i]?).all fun t => decide (p.shared.ActsOnOwn t now)

/-- Before the first call. -/
def start (now : Int) (locks : Locks Nat Nat) : TalkPool := ⟨⟨now, locks, fun _ _ => none⟩, []⟩

end TalkPool

/-! ## One command -/

namespace TalkStore

variable {s : TalkStore} {t : TalkCall} {now : Int}

@[simp] theorem told_tell {c u camera user : Nat} {stop : Option Int} :
    (s.tell camera user stop).told c u =
      if c = camera ∧ u = user then stop else s.told c u := rfl

/-- Time passes. -/
theorem Backed.later (h : s.Backed) (hle : s.now ≤ now) : Backed { s with now } := by
  intro c u e he
  exact (h c u e he).imp (fun hnow => Int.le_trans hnow hle) id

/-- A lock that is free backs nobody, and a lock that is held only its holder. -/
theorem Backed.of_holder (h : s.Backed) {camera : Nat} {owner : Option Nat}
    (hown : s.locks.holder s.now camera = owner) {u : Nat} {e : Int}
    (he : s.told camera u = some e) (hne : owner ≠ some u) : e ≤ s.now := by
  rcases h camera u e he with hle | ⟨e', hentry, hle⟩
  · exact hle
  · by_contra hlt
    exact hne (hown.symm.trans (Locks.holder_eq_some_iff.2 ⟨e', hentry, by omega⟩))

/-- A user is given the lock, which was free or their own. -/
theorem Backed.give (h : s.Backed) {camera user : Nat} (ttl : Int)
    (hown : ∀ v, s.locks.holder s.now camera = some v → v = user) :
    Backed ({ s with locks := s.locks.set s.now camera user ttl }.tell camera user
      (some (s.now + seconds ttl))) := by
  intro c u e he
  rw [told_tell] at he
  split at he
  · next hcu =>
    obtain ⟨rfl, rfl⟩ := hcu
    obtain rfl := Option.some_inj.1 he
    exact .inr ⟨_, if_pos rfl, Int.le_refl _⟩
  · next hcu =>
    by_cases hc : c = camera
    · subst hc
      refine .inl (h.of_holder rfl he fun hheld => hcu ⟨rfl, hown u hheld⟩)
    · refine (h c u e he).imp id fun ⟨e', hentry, hle⟩ => ⟨e', ?_, hle⟩
      exact (if_neg hc).trans hentry

/-- A user gives the lock up, which was free or their own. -/
theorem Backed.giveUp (h : s.Backed) {camera user : Nat}
    (hown : ∀ v, s.locks.holder s.now camera = some v → v = user) :
    Backed ({ s with locks := s.locks.del camera }.tell camera user none) := by
  intro c u e he
  rw [told_tell] at he
  split at he
  · cases he
  · next hcu =>
    by_cases hc : c = camera
    · subst hc
      refine .inl (h.of_holder rfl he fun hheld => hcu ⟨rfl, hown u hheld⟩)
    · refine (h c u e he).imp id fun ⟨e', hentry, hle⟩ => ⟨e', ?_, hle⟩
      exact (if_neg hc).trans hentry

/-- One command keeps the locks backing what the users are told, if it acts on its user's key. -/
theorem Backed.exec (h : s.Backed) (hle : s.now ≤ now) (hown : s.ActsOnOwn t now) :
    (s.exec t now).1.Backed := by
  have hlater := h.later hle
  unfold TalkStore.exec
  cases hpc : t.pc with
  | set =>
    cases t.op with
    | release => exact hlater
    | acquire ttl =>
      dsimp only
      split
      · exact hlater
      · cases hheld : s.locks.holder now t.camera with
        | some v =>
          rw [Locks.setNx_of_some (by simp [hheld])]
          exact hlater
        | none =>
          rw [Locks.setNx_of_none hheld]
          exact hlater.give ttl fun v hv => by rw [hheld] at hv; cases hv
  | get =>
    dsimp only
    split
    · exact hlater
    · exact hlater
  | act =>
    cases hop : t.op with
    | acquire ttl =>
      have hheld : s.locks.holder now t.camera = some t.user := by
        rcases hown hpc with hheld | ⟨hrel, -⟩
        · exact hheld
        · rw [hop] at hrel
          cases hrel
      dsimp only
      rw [Locks.expire_of_holder hheld]
      exact hlater.give ttl fun v hv => Option.some_inj.1 (hv.symm.trans hheld)
    | release =>
      refine hlater.giveUp fun v hv => ?_
      rcases hown hpc with hheld | ⟨-, hfree⟩
      · exact Option.some_inj.1 (hv.symm.trans hheld)
      · rw [hfree] at hv
        cases hv
  | done answer => exact hlater

/-- Under the condition no command changes a key that another user holds. -/
theorem exec_keeps_others (hown : s.ActsOnOwn t now) {c v : Nat} (hv : v ≠ t.user)
    (hheld : s.locks.holder now c = some v) :
    (s.exec t now).1.locks.entry c = s.locks.entry c := by
  have hne : s.locks.holder now t.camera = none ∨ s.locks.holder now t.camera = some t.user →
      c ≠ t.camera := by
    rintro hor rfl
    rw [hheld] at hor
    rcases hor with hor | hor
    · cases hor
    · exact hv (Option.some_inj.1 hor)
  unfold TalkStore.exec
  cases hpc : t.pc with
  | set =>
    cases t.op with
    | release => rfl
    | acquire ttl =>
      dsimp only
      split
      · rfl
      · cases hfree : s.locks.holder now t.camera with
        | some u =>
          rw [Locks.setNx_of_some (by simp [hfree])]
          rfl
        | none =>
          rw [Locks.setNx_of_none hfree]
          exact if_neg (hne (.inl hfree))
  | get =>
    dsimp only
    split
    · rfl
    · rfl
  | act =>
    cases hop : t.op with
    | acquire ttl =>
      have hmine : s.locks.holder now t.camera = some t.user := by
        rcases hown hpc with hmine | ⟨hrel, -⟩
        · exact hmine
        · rw [hop] at hrel
          cases hrel
      dsimp only
      rw [Locks.expire_of_holder hmine]
      exact if_neg (hne (.inr hmine))
    | release =>
      refine if_neg (hne ?_)
      rcases hown hpc with hmine | ⟨-, hfree⟩
      · exact .inr hmine
      · exact .inl hfree
  | done answer => rfl

/-- At most one user is told to hold a lock. -/
theorem Backed.unique (h : s.Backed) (hle : s.now ≤ now) {c u v : Nat} (hu : s.TellsAt now c u)
    (hv : s.TellsAt now c v) : u = v := by
  have hentry : ∀ w, s.TellsAt now c w → ∃ e, s.locks.entry c = some (w, e) := by
    rintro w ⟨e, htold, hlt⟩
    rcases h c w e htold with hpast | ⟨e', he', -⟩
    · omega
    · exact ⟨e', he'⟩
  obtain ⟨e, he⟩ := hentry u hu
  obtain ⟨e', he'⟩ := hentry v hv
  rw [he] at he'
  cases he'
  rfl

end TalkStore

/-! ## Runs -/

namespace TalkPool

variable {p : TalkPool}

/-- What the guard says of a command. -/
theorem of_ok {i : Nat} {now : Int} {t : TalkCall} (ht : p.threads[i]? = some t)
    (h : p.ok (.exec i now) = true) : p.shared.now ≤ now ∧ p.shared.ActsOnOwn t now := by
  simpa [ok, ht] using h

/-- One action of the scheduler keeps the locks backing what the users are told. -/
theorem backed_step (h : p.shared.Backed) {a : TalkAct} (hok : p.ok a = true) :
    (p.step a).shared.Backed := by
  unfold step
  rcases Pool.step_cases p a with heq | ⟨r, -, heq⟩ | ⟨i, now, t, rfl, ht, heq⟩
  · rw [heq]
    exact h
  · rw [heq]
    exact h
  · rw [heq]
    obtain ⟨hle, hown⟩ := of_ok ht hok
    exact h.exec hle hown

/-- Nobody has been told anything at the start. -/
theorem backed_start (now : Int) (locks : Locks Nat Nat) : (start now locks).shared.Backed :=
  fun _ _ _ he => absurd he.symm (Option.some_ne_none _)

/-- **At most one user is told to hold the talk lock.** In every run in which no call acts on a key
that has changed hands since it read it: from any state on, at most one user has been told that the
lock of a camera is theirs until a time that has not come, and no next command changes a lock that
another user holds. -/
theorem one_speaker {now : Int} {locks : Locks Nat Nat} {as : List TalkAct}
    (hrun : Run step (fun p a => p.ok a = true) (start now locks) as p) :
    (∀ now' c u v, p.shared.now ≤ now' → p.shared.TellsAt now' c u → p.shared.TellsAt now' c v →
      u = v) ∧
    ∀ i now' t c v, p.threads[i]? = some t → p.ok (.exec i now') = true → v ≠ t.user →
      p.shared.locks.holder now' c = some v →
      (p.step (.exec i now')).shared.locks.entry c = p.shared.locks.entry c := by
  have hbacked : p.shared.Backed :=
    hrun.invariant (I := fun p => p.shared.Backed) (fun _ _ h hok => backed_step h hok)
      (backed_start now locks)
  refine ⟨fun now' c u v hle hu hv => hbacked.unique hle hu hv, ?_⟩
  intro i now' t c v ht hok hv hheld
  have hstep : p.step (.exec i now') = _ := Pool.step_exec ht now'
  rw [hstep]
  exact TalkStore.exec_keeps_others (of_ok ht hok).2 hv hheld

namespace TalkFixture

/-- A user asks for camera 7 for two minutes. -/
def asks (user : Nat) : TalkAct := .spawn (7, user, .acquire 120)

/-- The camera is free at time 0. -/
def free : TalkPool := start 0 ∅

/-- User 1 speaks and asks again, user 2 is refused, user 1 gives up and user 2 speaks. -/
def inTurn : List TalkAct :=
  [asks 1, .exec 0 0, asks 1, .exec 1 (seconds 60), .exec 1 (seconds 61), .exec 1 (seconds 62),
    asks 2, .exec 2 (seconds 70), .exec 2 (seconds 71), .spawn (7, 1, .release),
    .exec 3 (seconds 80), .exec 3 (seconds 81), asks 2, .exec 4 (seconds 90)]

/-- User 1 asks again a second before the lock expires; user 2 takes it between the `GET` and the
`EXPIRE`. -/
def renews : List TalkAct :=
  [asks 1, .exec 0 0, asks 1, .exec 1 (seconds 118), .exec 1 (seconds 119), asks 2,
    .exec 2 (seconds 121), .exec 1 (seconds 122)]

/-- The same with a `release` and its `DEL`. -/
def givesUp : List TalkAct :=
  [asks 1, .exec 0 0, .spawn (7, 1, .release), .exec 1 (seconds 119), asks 2,
    .exec 2 (seconds 121), .exec 1 (seconds 122)]

end TalkFixture

/-- User 2 speaks after user 1 has given up. -/
theorem one_speaker_fixture :
    let p := TalkFixture.inTurn.foldl step TalkFixture.free
    (p.shared.TellsAt (seconds 100) 7 2 ∧
      ∀ v, p.shared.TellsAt (seconds 100) 7 v → 2 = v) :=
  have hrun : Run step (fun p a => p.ok a = true) TalkFixture.free TalkFixture.inTurn _ :=
    .of_admits (by decide)
  have htold : (TalkFixture.inTurn.foldl step TalkFixture.free).shared.TellsAt (seconds 100) 7 2 :=
    ⟨seconds 210, by decide, by decide⟩
  ⟨htold, fun v hv => (one_speaker hrun).1 (seconds 100) 7 2 v (by decide) htold hv⟩

/-- User 1 extends the lock that user 2 has taken, and both are told to hold it. In the same order a
`release` removes the lock of user 2. -/
theorem acts_on_lock_of_another :
    (let p := TalkFixture.renews.foldl step TalkFixture.free
    Run step (fun p a => p.clock a = true) TalkFixture.free TalkFixture.renews p ∧
      p.shared.TellsAt (seconds 123) 7 1 ∧ p.shared.TellsAt (seconds 123) 7 2 ∧
      p.shared.locks.entry 7 = some (2, seconds 242)) ∧
    (let p := TalkFixture.givesUp.foldl step TalkFixture.free
    Run step (fun p a => p.clock a = true) TalkFixture.free TalkFixture.givesUp p ∧
      p.shared.TellsAt (seconds 123) 7 2 ∧ p.shared.locks.holder (seconds 123) 7 = none) :=
  ⟨⟨.of_admits (by decide), ⟨seconds 242, by decide, by decide⟩,
      ⟨seconds 241, by decide, by decide⟩, by decide⟩,
    .of_admits (by decide), ⟨seconds 241, by decide, by decide⟩, by decide⟩

end TalkPool

end AeroXProtect
