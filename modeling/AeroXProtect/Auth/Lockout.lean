import AeroXProtect.Auth.Session
import AeroXProtect.Lib.Interleave
import AeroXProtect.Lib.Run

/-!
# Attempts at the same time

Login attempts on one account, and its unlocking by an administrator, as threads over the account's
row: a request reads the row, looks at the lock and verifies the password against what it has read,
and writes the columns back that it has changed. `verified` is not in the program: it counts the
wrong passwords that were verified since the account was last unlocked, by a login, an administrator
or the end of the lock. `lockout_bound` says that attempts that do not disturb each other verify no
more wrong passwords than the limit and none while the account is locked.
-/

open Lib

namespace AeroXProtect

namespace User

/-- Source: `User.unlock` (`server/model/user.py:92`). -/
def unlock (u : User) : User := { u with lockedUntil := none, failedLoginCount := 0 }

/-- The columns in which `new` differs from what was read are written to the row. -/
def writeBack (seen new row : User) : User :=
  { row with
    failedLoginCount :=
      if new.failedLoginCount = seen.failedLoginCount then row.failedLoginCount
      else new.failedLoginCount
    lockedUntil := if new.lockedUntil = seen.lockedUntil then row.lockedUntil else new.lockedUntil
    lastLoginAt := if new.lastLoginAt = seen.lastLoginAt then row.lastLoginAt else new.lastLoginAt }

end User

/-- The row of the account, the clock, and the wrong passwords verified since the account was last
unlocked. -/
structure LoginAccount where
  user : User
  now : Int
  verified : Nat

/-- A request: a login with a password, or the unlocking by an administrator. -/
inductive AccountRequest
  | login (password : String)
  | unlock
  deriving DecidableEq, Repr

/-- Where a request is. -/
inductive AccountThread
  | select (r : AccountRequest)
  | verify (password : String) (seen : User)
  | failed (seen : User)
  | passed (seen : User)
  | clear (seen : User)
  | done
  deriving DecidableEq, Repr

namespace LoginAccount

/-- A write that may have unlocked the account. -/
def unlocking (s : LoginAccount) (user : User) : LoginAccount :=
  { s with user := user, verified := if user.isLocked s.now then s.verified else 0 }

/-- Time passes; the lock may end. -/
def pass (s : LoginAccount) (n : Nat) : LoginAccount :=
  { s with
    now := s.now + n
    verified := if s.user.isLocked s.now && !s.user.isLocked (s.now + n) then 0 else s.verified }

/-- A failed attempt is registered. A lock that ends at once has ended. -/
def register (cfg : AuthConfig) (s : LoginAccount) (seen : User) : LoginAccount :=
  let r := seen.registerFailedLogin s.now cfg.loginMaxFailed cfg.loginLockMinutes
  if r.2 then s.unlocking (seen.writeBack r.1 s.user)
  else { s with user := seen.writeBack r.1 s.user }

end LoginAccount

namespace AccountThread

/-- The next statement of a request. Source: `AuthController.login`
(`server/controller/auth.py:42`) and `UserController.unlock` (`server/controller/user.py:99`). -/
def exec (cfg : AuthConfig) (s : LoginAccount) (t : AccountThread) (_ : Unit) :
    LoginAccount × AccountThread :=
  match t with
  | .select (.login password) => (s, .verify password s.user)
  | .select .unlock => (s, .clear s.user)
  | .verify password seen =>
    if seen.isLocked s.now then (s, .done)
    else if !seen.verifyPassword cfg.argon2 password then
      ({ s with verified := s.verified + 1 }, .failed seen)
    else if seen.isActive then (s, .passed seen)
    else (s, .done)
  | .failed seen => (s.register cfg seen, .done)
  | .passed seen =>
    (s.unlocking (seen.writeBack (seen.registerSuccessfulLogin s.now) s.user), .done)
  | .clear seen => (s.unlocking (seen.writeBack seen.unlock s.user), .done)
  | .done => (s, .done)

/-- A wrong password was verified and the failure is not yet registered. -/
def isFailed : AccountThread → Bool
  | .failed _ => true
  | _ => false

end AccountThread

/-- Requests at work on an account. -/
abbrev Lockout := Pool LoginAccount AccountThread

/-- What happens: time passes, or a request starts or executes a statement. -/
inductive LockoutAct
  | pass (n : Nat)
  | run (a : PoolAct AccountRequest Unit)

namespace Lockout

def step (cfg : AuthConfig) (p : Lockout) : LockoutAct → Lockout
  | .pass n => ⟨p.shared.pass n, p.threads⟩
  | .run a => Pool.step AccountThread.select (AccountThread.exec cfg) p a

/-- The step verifies a password. -/
def Verifies (p : Lockout) (x : LockoutAct) (password : String) (seen : User) : Prop :=
  ∃ i, x = .run (.exec i ()) ∧ p.threads[i]? = some (.verify password seen) ∧
    seen.isLocked p.shared.now = false

/-- A password is verified against the row as it is, and a wrong one while no other failure is to be
registered. -/
def Undisturbed (cfg : AuthConfig) (p : Lockout) (x : LockoutAct) : Prop :=
  ∀ password seen, p.Verifies x password seen →
    seen.failedLoginCount = p.shared.user.failedLoginCount ∧
    seen.lockedUntil = p.shared.user.lockedUntil ∧
    (seen.verifyPassword cfg.argon2 password = false →
      ∀ t ∈ p.threads, t.isFailed = false)

/-- The password that a step verifies and the row that was read for it. -/
def verifying? (p : Lockout) : LockoutAct → Option (String × User)
  | .run (.exec i ()) =>
    match p.threads[i]? with
    | some (.verify password seen) =>
      if seen.isLocked p.shared.now then none else some (password, seen)
    | _ => none
  | _ => none

theorem verifying?_eq_some {p : Lockout} {x : LockoutAct} {password : String} {seen : User} :
    p.verifying? x = some (password, seen) ↔ p.Verifies x password seen := by
  constructor
  · intro h
    unfold verifying? at h
    split at h
    · next i =>
      split at h
      · next password' seen' hi =>
        split at h
        · cases h
        · next hopen =>
          cases h
          exact ⟨i, rfl, hi, Bool.eq_false_iff.2 hopen⟩
      · cases h
    · cases h
  · rintro ⟨i, rfl, hi, hopen⟩
    simp [verifying?, hi, hopen]

instance (cfg : AuthConfig) (p : Lockout) (x : LockoutAct) : Decidable (p.Undisturbed cfg x) :=
  decidable_of_iff (∀ v ∈ (p.verifying? x).toList,
    v.2.failedLoginCount = p.shared.user.failedLoginCount ∧
    v.2.lockedUntil = p.shared.user.lockedUntil ∧
    (v.2.verifyPassword cfg.argon2 v.1 = false → ∀ t ∈ p.threads, t.isFailed = false)) <| by
  simp [Undisturbed, verifying?_eq_some]

/-- The wrong passwords that were verified are counted in the row, or will be by the one request
that has still to register its failure. -/
structure Bounded (cfg : AuthConfig) (p : Lockout) : Prop where
  bound : (p.shared.verified : Int) ≤ cfg.loginMaxFailed
  oneFailed : p.threads.countP AccountThread.isFailed ≤ 1
  failed : ∀ seen, .failed seen ∈ p.threads → p.shared.verified ≤ seen.failedLoginCount + 1
  idle : p.threads.countP AccountThread.isFailed = 0 →
    p.shared.user.isLocked p.shared.now = false →
    p.shared.verified ≤ p.shared.user.failedLoginCount ∧
      (p.shared.verified : Int) < cfg.loginMaxFailed

section
variable {cfg : AuthConfig} {p : Lockout} {s : LoginAccount}

theorem countP_eq_zero : p.threads.countP AccountThread.isFailed = 0 ↔
    ∀ t ∈ p.threads, t.isFailed = false := by
  simp [List.countP_eq_zero]

/-- Time that passes keeps the bound. -/
theorem Bounded.pass (h : Bounded cfg p) (hpos : 0 < cfg.loginMaxFailed) (n : Nat) :
    Bounded cfg ⟨p.shared.pass n, p.threads⟩ := by
  have hle : (p.shared.pass n).verified ≤ p.shared.verified := by
    unfold LoginAccount.pass
    dsimp only
    split <;> omega
  refine ⟨?_, h.oneFailed, fun seen hseen => hle.trans (h.failed seen hseen), fun hnone hopen => ?_⟩
  · have := h.bound
    dsimp only
    omega
  · unfold LoginAccount.pass at hopen ⊢
    dsimp only at hopen ⊢
    rw [hopen]
    cases hlocked : p.shared.user.isLocked p.shared.now with
    | true => exact ⟨Nat.zero_le _, hpos⟩
    | false => exact h.idle hnone hlocked

/-- A write that may unlock the account keeps the bound, whatever it writes. -/
theorem Bounded.unlocking (h : Bounded cfg p) (hpos : 0 < cfg.loginMaxFailed) (user : User)
    {threads : List AccountThread}
    (hone : threads.countP AccountThread.isFailed ≤ 1)
    (hsub : ∀ seen, .failed seen ∈ threads → .failed seen ∈ p.threads) :
    Bounded cfg ⟨p.shared.unlocking user, threads⟩ := by
  have hle : (p.shared.unlocking user).verified ≤ p.shared.verified := by
    unfold LoginAccount.unlocking
    dsimp only
    split <;> omega
  refine ⟨?_, hone, fun seen hseen => hle.trans (h.failed seen (hsub seen hseen)),
    fun _ hopen => ?_⟩
  · have := h.bound
    dsimp only
    omega
  · unfold LoginAccount.unlocking at hopen ⊢
    dsimp only at hopen ⊢
    rw [hopen]
    exact ⟨Nat.zero_le _, hpos⟩

/-- The one failure that is to be registered keeps the bound when it is registered. -/
theorem Bounded.register (h : Bounded cfg p) (hpos : 0 < cfg.loginMaxFailed) {seen : User}
    (hseen : .failed seen ∈ p.threads) {threads : List AccountThread}
    (hnone : threads.countP AccountThread.isFailed = 0) :
    Bounded cfg ⟨p.shared.register cfg seen, threads⟩ := by
  have hsub : ∀ u, .failed u ∈ threads → .failed u ∈ p.threads := fun u hu => by
    have := (List.countP_eq_zero.1 hnone) _ hu
    simp [AccountThread.isFailed] at this
  unfold LoginAccount.register
  dsimp only
  split
  · exact h.unlocking hpos _ (by omega) hsub
  · next hopen =>
    have hcount := h.failed seen hseen
    unfold User.registerFailedLogin at hopen ⊢
    dsimp only at hopen ⊢
    split at hopen
    · exact absurd rfl hopen
    · next hlt =>
      rw [if_neg hlt]
      refine ⟨h.bound, hnone.le.trans (Nat.zero_le 1), fun u hu => h.failed u (hsub u hu),
        fun _ _ => ?_⟩
      unfold User.writeBack
      dsimp only
      rw [if_neg (by omega)]
      exact ⟨hcount, by omega⟩

/-- A thread that moves from one harmless place to another changes nothing. -/
theorem Bounded.quiet (h : Bounded cfg p) {threads : List AccountThread}
    (hcount : threads.countP AccountThread.isFailed = p.threads.countP AccountThread.isFailed)
    (hsub : ∀ seen, .failed seen ∈ threads → .failed seen ∈ p.threads) :
    Bounded cfg ⟨p.shared, threads⟩ :=
  ⟨h.bound, hcount ▸ h.oneFailed, fun seen hseen => h.failed seen (hsub seen hseen),
    fun hnone hopen => h.idle (hcount ▸ hnone) hopen⟩

/-- A wrong password is verified while no failure is to be registered. -/
theorem Bounded.verify (h : Bounded cfg p) {seen : User} {threads : List AccountThread}
    (hidle : p.threads.countP AccountThread.isFailed = 0)
    (hopen : p.shared.user.isLocked p.shared.now = false)
    (hcount : seen.failedLoginCount = p.shared.user.failedLoginCount)
    (hone : threads.countP AccountThread.isFailed = 1)
    (hfailed : ∀ u, .failed u ∈ threads → u = seen) :
    Bounded cfg ⟨{ p.shared with verified := p.shared.verified + 1 }, threads⟩ := by
  obtain ⟨hle, hlt⟩ := h.idle hidle hopen
  refine ⟨?_, hone.le, fun u hu => ?_, fun hnone _ => ?_⟩
  · push_cast
    omega
  · rw [hfailed u hu, hcount]
    exact Nat.succ_le_succ hle
  · rw [hone] at hnone
    cases hnone

/-- A step that does not disturb keeps the bound. -/
theorem Bounded.step (h : Bounded cfg p) (hpos : 0 < cfg.loginMaxFailed) (x : LockoutAct)
    (hx : p.Undisturbed cfg x) : Bounded cfg (p.step cfg x) := by
  cases x with
  | pass n => exact h.pass hpos n
  | run a =>
    rcases @Pool.step_cases _ _ _ _ AccountThread.select (AccountThread.exec cfg) p a with
      heq | ⟨r, -, heq⟩ | ⟨i, e, t, rfl, hi, heq⟩ <;> rw [Lockout.step, heq]
    · exact h
    · refine h.quiet (by simp [AccountThread.isFailed]) fun seen hseen => ?_
      simpa using hseen
    · have hcount := fun t' : AccountThread => Pool.countP_exec AccountThread.isFailed hi t'
      have hsub : ∀ t', t'.isFailed = false → ∀ seen, .failed seen ∈ p.threads.set i t' →
          .failed seen ∈ p.threads := by
        intro t' ht' seen hseen
        rcases List.mem_or_eq_of_mem_set hseen with hseen | rfl
        · exact hseen
        · cases ht'
      have hquiet : ∀ t', t.isFailed = false → t'.isFailed = false →
          (p.threads.set i t').countP AccountThread.isFailed =
            p.threads.countP AccountThread.isFailed := by
        intro t' ht ht'
        have := hcount t'
        rw [ht, ht'] at this
        simpa using this
      cases t with
      | select r =>
        cases r with
        | login password => exact h.quiet (hquiet _ rfl rfl) (hsub _ rfl)
        | unlock => exact h.quiet (hquiet _ rfl rfl) (hsub _ rfl)
      | done => exact h.quiet (hquiet _ rfl rfl) (hsub _ rfl)
      | passed seen =>
        exact h.unlocking hpos _ ((hquiet _ rfl rfl).le.trans h.oneFailed) (hsub _ rfl)
      | clear seen =>
        exact h.unlocking hpos _ ((hquiet _ rfl rfl).le.trans h.oneFailed) (hsub _ rfl)
      | failed seen =>
        have hdone : (p.threads.set i .done).countP AccountThread.isFailed + 1 =
          p.threads.countP AccountThread.isFailed + 0 := hcount .done
        have hone := h.oneFailed
        have hnone : (p.threads.set i .done).countP AccountThread.isFailed = 0 := by omega
        exact h.register hpos (List.mem_of_getElem? hi) hnone
      | verify password seen =>
        unfold AccountThread.exec
        dsimp only
        split
        · exact h.quiet (hquiet _ rfl rfl) (hsub _ rfl)
        · next hopen =>
          obtain ⟨hfails, huntil, halone⟩ := hx password seen
            ⟨i, rfl, hi, Bool.eq_false_iff.2 hopen⟩
          split
          · next hwrong =>
            have hidle := countP_eq_zero.2 (halone (by simpa using hwrong))
            have hfailed : (p.threads.set i (.failed seen)).countP AccountThread.isFailed + 0 =
              p.threads.countP AccountThread.isFailed + 1 := hcount (.failed seen)
            refine h.verify hidle ?_ hfails (by rw [hidle] at hfailed; exact hfailed) ?_
            · unfold User.isLocked at hopen ⊢
              rw [← huntil]
              exact Bool.eq_false_iff.2 hopen
            · intro u hu
              rcases List.mem_or_eq_of_mem_set hu with hu | hu
              · have := halone (by simpa using hwrong) _ hu
                cases this
              · exact (AccountThread.failed.inj hu)
          · split
            · exact h.quiet (hquiet _ rfl rfl) (hsub _ rfl)
            · exact h.quiet (hquiet _ rfl rfl) (hsub _ rfl)

end

end Lockout

/-- In every run of requests on an account whose verifications are not disturbed, whatever time
passes in between: no more wrong passwords are verified than the limit between two moments at which
the account was unlocked, and no password is verified while it is locked. -/
theorem lockout_bound (cfg : AuthConfig) (user : User) (now : Int) (as : List LockoutAct)
    (hpos : 0 < cfg.loginMaxFailed)
    (hok : ∀ pre x, pre ++ [x] <+: as →
      Lockout.Undisturbed cfg (pre.foldl (Lockout.step cfg) ⟨⟨user, now, 0⟩, []⟩) x) :
    (∀ pre, pre <+: as →
      ((pre.foldl (Lockout.step cfg) ⟨⟨user, now, 0⟩, []⟩).shared.verified : Int) ≤
        cfg.loginMaxFailed) ∧
    ∀ pre x password seen, pre ++ [x] <+: as →
      Lockout.Verifies (pre.foldl (Lockout.step cfg) ⟨⟨user, now, 0⟩, []⟩) x password seen →
      (pre.foldl (Lockout.step cfg) ⟨⟨user, now, 0⟩, []⟩).shared.user.isLocked
        (pre.foldl (Lockout.step cfg) ⟨⟨user, now, 0⟩, []⟩).shared.now = false := by
  constructor
  · intro pre hpre
    have hbounded : Lockout.Bounded cfg (pre.foldl (Lockout.step cfg) ⟨⟨user, now, 0⟩, []⟩) := by
      induction pre using List.reverseRecOn with
      | nil =>
        exact ⟨hpos.le, Nat.zero_le 1, fun _ h => (List.not_mem_nil h).elim,
          fun _ _ => ⟨Nat.zero_le _, hpos⟩⟩
      | append_singleton pre x ih =>
        rw [List.foldl_append]
        exact (ih ((List.prefix_append pre [x]).trans hpre)).step hpos x (hok pre x hpre)
    exact hbounded.bound
  · intro pre x password seen hpre hverifies
    obtain ⟨-, huntil, -⟩ := hok pre x hpre password seen hverifies
    obtain ⟨-, -, -, hopen⟩ := hverifies
    unfold User.isLocked at hopen ⊢
    rw [← huntil]
    exact hopen

namespace LockoutFixture

open AuthFixture

/-- Six attempts that all have read the row before the first password is verified. -/
def parallel : List LockoutAct :=
  List.replicate 6 (.run (.spawn (.login "guess"))) ++
    (List.range 6).map (fun i => .run (.exec i ())) ++
    (List.range 6).map fun i => .run (.exec i ())

/-- Five attempts, one after the other, and a sixth that has read the row before. -/
def late : List LockoutAct :=
  [.run (.spawn (.login "guess")), .run (.exec 0 ())] ++
    ((List.range 5).flatMap fun i => .run (.spawn (.login "guess")) ::
      List.replicate 3 (.run (.exec (i + 1) ())))

/-- Nine requests that are all there from the start. The right password and a wrong one are read
together, three wrong ones follow, and an administrator reads the row before the fifth failure locks
the account: what he writes changes nothing. The next attempt is refused, and after the lock has
ended one more is verified. -/
def overlapping : List LockoutAct :=
  .run (.spawn (.login "open sesame")) :: List.replicate 5 (.run (.spawn (.login "guess"))) ++
    .run (.spawn .unlock) :: List.replicate 2 (.run (.spawn (.login "guess"))) ++
    [0, 1, 0, 0, 1, 1, 2, 2, 2, 3, 3, 3, 4, 4, 4, 5, 6, 5, 5, 6, 7, 7].map
      (fun i => .run (.exec i ())) ++
    .pass (seconds 1800).toNat :: List.replicate 3 (.run (.exec 8 ()))

theorem undisturbed_overlapping : ∀ pre x, pre ++ [x] <+: overlapping →
    Lockout.Undisturbed config (pre.foldl (Lockout.step config) ⟨⟨user, 0, 0⟩, []⟩) x := by
  have hok : admits (Lockout.step config) (fun p x => decide (Lockout.Undisturbed config p x))
      ⟨⟨user, 0, 0⟩, []⟩ overlapping = true := by decide +kernel
  exact fun pre x hpre => of_decide_eq_true (forall_prefix_of_admits hok pre x hpre)

end LockoutFixture

open AuthFixture LockoutFixture in
/-- The attempts reach the limit and lock the account, the one behind the lock is refused, and the
count starts again when the lock has ended. -/
theorem lockout_overlapping :
    ((∀ pre, pre <+: overlapping →
      ((pre.foldl (Lockout.step config) ⟨⟨user, 0, 0⟩, []⟩).shared.verified : Int) ≤ 5) ∧
    ∀ pre x password seen, pre ++ [x] <+: overlapping →
      Lockout.Verifies (pre.foldl (Lockout.step config) ⟨⟨user, 0, 0⟩, []⟩) x password seen →
      (pre.foldl (Lockout.step config) ⟨⟨user, 0, 0⟩, []⟩).shared.user.isLocked
        (pre.foldl (Lockout.step config) ⟨⟨user, 0, 0⟩, []⟩).shared.now = false) ∧
    (((overlapping.take 31).foldl
        (Lockout.step config) ⟨⟨user, 0, 0⟩, []⟩).shared.user.lockedUntil = some (seconds 1800) ∧
    ((overlapping.take 31).foldl (Lockout.step config) ⟨⟨user, 0, 0⟩, []⟩).shared.verified = 5 ∧
    (overlapping.foldl (Lockout.step config) ⟨⟨user, 0, 0⟩, []⟩).shared.verified = 1) :=
  ⟨lockout_bound config user 0 overlapping (by decide) undisturbed_overlapping,
    by decide +kernel, by decide +kernel, by decide +kernel⟩

open AuthFixture LockoutFixture in
/-- Attempts at the same time verify more passwords than the limit of five, and one that has read
the row before the lock verifies its password behind it. -/
theorem not_lockout :
    (parallel.foldl (Lockout.step config) ⟨⟨user, 0, 0⟩, []⟩).shared.verified = 6 ∧
    config.loginMaxFailed = 5 ∧
    (Lockout.Verifies (late.foldl (Lockout.step config) ⟨⟨user, 0, 0⟩, []⟩)
      (.run (.exec 0 ())) "guess" user ∧
      (late.foldl (Lockout.step config) ⟨⟨user, 0, 0⟩, []⟩).shared.user.isLocked
        (late.foldl (Lockout.step config) ⟨⟨user, 0, 0⟩, []⟩).shared.now = true) := by
  refine ⟨by decide +kernel, rfl, ⟨0, rfl, ?_, ?_⟩, ?_⟩ <;> decide +kernel

end AeroXProtect
