import AeroXProtect.Share.Link
import AeroXProtect.Lib.Interleave
import AeroXProtect.Lib.Run

/-!
# The rate limiters

Three limiters count requests in the cache server: `INCR` counts one, and when it answers one, the
counter is new and `EXPIRE` gives it its time to live. They differ in key, limit and window only
(`Limiter`). A call is a thread of the two commands; between any two commands time passes, its
worker may stop, and the cache server may not answer. `rate_limits_reset_iff` says in which runs the
limits reset: a counter whose `EXPIRE` is not executed is never given one again (`Stuck.run`).
-/

open Lib

namespace AeroXProtect.RateLimits

/-! ## The limiters -/

/-- The counter of a request, how many requests a window allows, and the length of the window. -/
structure Limiter where
  key : String
  limit : Nat
  windowS : Int
  deriving DecidableEq, Repr

/-- A call that nothing interrupts. What the cache server does not answer is allowed. -/
def Limiter.check (l : Limiter) (m : Counters String) (now : Int) (up : RedisUp) :
    Counters String × Bool :=
  if !up.incr then (m, true)
  else
    let (m', n) := m.incr now l.key
    if n = 1 then
      if up.expire then (m'.expire now l.key l.windowS, decide (n ≤ l.limit)) else (m', true)
    else (m', decide (n ≤ l.limit))

section
variable {l : Limiter} {m : Counters String} {now : Int}

theorem Limiter.check_first (h : m.value now l.key = 0) (up : Bool) :
    l.check m now ⟨true, up⟩ =
      if up then ((m.incr now l.key).1.expire now l.key l.windowS, decide (1 ≤ l.limit))
      else ((m.incr now l.key).1, true) := by
  have hn : (m.incr now l.key).2 = 1 := by rw [Counters.incr_snd, h]
  simp only [check, hn, Bool.not_true, Bool.false_eq_true, if_false, if_true]

theorem Limiter.check_next (h : m.value now l.key ≠ 0) (up : Bool) :
    l.check m now ⟨true, up⟩ =
      ((m.incr now l.key).1, decide (m.value now l.key + 1 ≤ l.limit)) := by
  have hn : (m.incr now l.key).2 ≠ 1 := by
    rw [Counters.incr_snd]
    omega
  simp only [check, hn, Bool.not_true, Bool.false_eq_true, if_false]
  rfl

end

section
variable (c : ShareConfig)

/-- What `rateLimitOk` counts on. -/
def sharePasswordLimiter (token : String) (ip : Option String) : Limiter :=
  ⟨rateLimitKey c token ip, pwAttemptLimit, pwWindowS⟩

theorem rateLimitOk_eq_check (m : Counters String) (now : Int) (token : String)
    (ip : Option String) (up : RedisUp) :
    rateLimitOk c m now token ip up = (sharePasswordLimiter c token ip).check m now up := rfl

def claimRatePerMin : Nat := 10

def pairingClaimLimiter (ip : Option String) : Limiter where
  key := c.redisKeyPrefix ++ ":pairclaim:" ++
    match ip with
    | some a => if a = "" then "unknown" else a
    | none => "unknown"
  limit := claimRatePerMin
  windowS := 60

/-- Source: `rate_limit_ok` (`server/service/pairing_code.py:49`). -/
def pairingRateLimitOk (m : Counters String) (now : Int) (ip : Option String) (up : RedisUp) :
    Counters String × Bool :=
  (pairingClaimLimiter c ip).check m now up

def apiTokenLimiter (id rateLimitPerMin : Nat) : Limiter where
  key := c.redisKeyPrefix ++ ":apitok:" ++ toString id ++ ":rl"
  limit := if rateLimitPerMin = 0 then 120 else rateLimitPerMin
  windowS := 60

/-- Source: `check_rate_limit` (`server/service/api_token.py:16`), of a token with this identifier
and this `rate_limit_per_min`. -/
def checkRateLimit (m : Counters String) (now : Int) (id rateLimitPerMin : Nat) (up : RedisUp) :
    Counters String × Bool :=
  (apiTokenLimiter c id rateLimitPerMin).check m now up

end

/-- A request that one of the limiters is asked about. -/
inductive RateRequest
  | sharePassword (token : String) (ip : Option String)
  | pairingClaim (ip : Option String)
  | apiToken (id rateLimitPerMin : Nat)
  deriving DecidableEq, Repr

namespace RateRequest

def limiter (c : ShareConfig) : RateRequest → Limiter
  | sharePassword token ip => sharePasswordLimiter c token ip
  | pairingClaim ip => pairingClaimLimiter c ip
  | apiToken id rateLimitPerMin => apiTokenLimiter c id rateLimitPerMin

variable {c : ShareConfig}

theorem limit_pos (r : RateRequest) : 1 ≤ (r.limiter c).limit := by
  cases r with
  | sharePassword => exact Nat.le_of_ble_eq_true rfl
  | pairingClaim => exact Nat.le_of_ble_eq_true rfl
  | apiToken id rate =>
    show 1 ≤ if rate = 0 then 120 else rate
    split <;> omega

/-- Counters of one key have one window: the limiters with different windows have different keys. -/
theorem windowS_eq {r r' : RateRequest} (h : (r.limiter c).key = (r'.limiter c).key) :
    (r.limiter c).windowS = (r'.limiter c).windowS := by
  have hclaim : ∀ x y z : String, c.redisKeyPrefix ++ ":share_pw:" ++ x ++ ":" ++ y ≠
      c.redisKeyPrefix ++ ":pairclaim:" ++ z := by
    intro x y z hkey
    simpa [String.toList_append] using congrArg String.toList hkey
  have htoken : ∀ (x y : String) (id : Nat), c.redisKeyPrefix ++ ":share_pw:" ++ x ++ ":" ++ y ≠
      c.redisKeyPrefix ++ ":apitok:" ++ toString id ++ ":rl" := by
    intro x y id hkey
    simpa [String.toList_append] using congrArg String.toList hkey
  cases r with
  | sharePassword =>
    cases r' with
    | sharePassword => rfl
    | pairingClaim => exact absurd h (hclaim _ _ _)
    | apiToken => exact absurd h (htoken _ _ _)
  | pairingClaim =>
    cases r' with
    | sharePassword => exact absurd h.symm (hclaim _ _ _)
    | pairingClaim | apiToken => rfl
  | apiToken =>
    cases r' with
    | sharePassword => exact absurd h.symm (htoken _ _ _)
    | pairingClaim | apiToken => rfl

end RateRequest

/-! ## The calls as threads -/

/-- A counted request: the value `INCR` answered, the limit it is held against, and when. -/
structure RateEvent where
  count : Nat
  limit : Nat
  time : Int
  deriving DecidableEq, Repr

namespace RateEvent

/-- The answer of the call. -/
def allowed (e : RateEvent) : Bool := decide (e.count ≤ e.limit)

/-- The request started a new counter. -/
def opens (e : RateEvent) : Bool := decide (e.count = 1)

end RateEvent

/-- The counters and the clock of the cache server. `log` and `last` are not in the program: the
requests that were counted on each key, the newest first, and when the last command of a call was
executed on it. -/
structure RateState where
  counters : Counters String
  clock : Int
  log : String → List RateEvent
  last : String → Option Int

namespace RateState

/-- The cache server before the first request. -/
def start : RateState := ⟨∅, 0, fun _ => [], fun _ => none⟩

/-- `INCR` of a call at `now`. -/
def incr (s : RateState) (l : Limiter) (now : Int) : RateState :=
  let (counters, n) := s.counters.incr now l.key
  { counters, clock := now
    log := fun k => if k = l.key then ⟨n, l.limit, now⟩ :: s.log k else s.log k
    last := fun k => if k = l.key then some now else s.last k }

/-- `EXPIRE` of a call at `now`. -/
def expire (s : RateState) (l : Limiter) (now : Int) : RateState :=
  { s with
    counters := s.counters.expire now l.key l.windowS, clock := now
    last := fun k => if k = l.key then some now else s.last k }

/-- A request at `t` would be refused. -/
def refuses (s : RateState) (l : Limiter) (t : Int) : Prop :=
  l.limit < s.counters.value t l.key + 1

end RateState

/-- What happens at a command of a call: it is executed a time after the command before it, by a
cache server that answers or not, or the worker has stopped. -/
inductive RateEnv
  | command (wait : Nat) (up : Bool)
  | stop
  deriving DecidableEq, Repr

/-- Where a call is: the command it executes next. -/
inductive RateThread
  | incr (r : RateRequest)
  | expire (r : RateRequest)
  | done (r : RateRequest) (allowed : Bool)
  | stopped
  deriving DecidableEq, Repr

namespace RateThread

/-- The next command of a call. Source: `rate_limit_ok` (`server/service/share_link.py:57`,
`server/service/pairing_code.py:49`) and `check_rate_limit` (`server/service/api_token.py:16`), cut
at their commands. -/
def exec (c : ShareConfig) (s : RateState) (t : RateThread) (e : RateEnv) :
    RateState × RateThread :=
  match t, e with
  | .done r allowed, _ => (s, .done r allowed)
  | _, .stop => (s, .stopped)
  | .stopped, _ => (s, .stopped)
  | .incr r, .command wait up =>
    let now := s.clock + wait
    let l := r.limiter c
    if !up then ({ s with clock := now }, .done r true)
    else
      let n := (s.counters.incr now l.key).2
      (s.incr l now, if n = 1 then .expire r else .done r (decide (n ≤ l.limit)))
  | .expire r, .command wait up =>
    let now := s.clock + wait
    let l := r.limiter c
    if !up then ({ s with clock := now }, .done r true)
    else (s.expire l now, .done r (decide (1 ≤ l.limit)))

section
variable {c : ShareConfig} {s : RateState} {r : RateRequest} {wait : Nat}

theorem exec_incr_first (h : s.counters.value (s.clock + wait) (r.limiter c).key = 0) :
    exec c s (.incr r) (.command wait true) =
      (s.incr (r.limiter c) (s.clock + wait), .expire r) := by
  simp [exec, Counters.incr_snd, h]

theorem exec_incr_next (h : s.counters.value (s.clock + wait) (r.limiter c).key ≠ 0) :
    exec c s (.incr r) (.command wait true) = (s.incr (r.limiter c) (s.clock + wait),
      .done r (decide (s.counters.value (s.clock + wait) (r.limiter c).key + 1 ≤
        (r.limiter c).limit))) := by
  have hn : (s.counters.incr (s.clock + wait) (r.limiter c).key).2 ≠ 1 := by
    rw [Counters.incr_snd]
    omega
  simp only [exec, Bool.not_true, Bool.false_eq_true, if_false, if_neg hn]
  rfl

theorem exec_expire : exec c s (.expire r) (.command wait true) =
    (s.expire (r.limiter c) (s.clock + wait), .done r (decide (1 ≤ (r.limiter c).limit))) := rfl

end

/-- A call that nothing interrupts does what `Limiter.check` does. -/
theorem exec_exec (c : ShareConfig) (s : RateState) (r : RateRequest) (up : RedisUp) :
    ∃ s', (let x := exec c s (.incr r) (.command 0 up.incr)
        exec c x.1 x.2 (.command 0 up.expire)) =
          (s', .done r ((r.limiter c).check s.counters s.clock up).2) ∧
      s'.counters = ((r.limiter c).check s.counters s.clock up).1 := by
  have hnow : s.clock + (0 : Nat) = s.clock := add_zero _
  obtain ⟨up, up'⟩ := up
  cases up with
  | false => exact ⟨_, rfl, rfl⟩
  | true =>
    by_cases hvalue : s.counters.value s.clock (r.limiter c).key = 0
    · rw [exec_incr_first (by rwa [hnow]), hnow, Limiter.check_first hvalue]
      cases up' with
      | false => exact ⟨_, rfl, rfl⟩
      | true =>
        refine ⟨_, exec_expire, ?_⟩
        show (s.counters.incr s.clock _).1.expire (s.clock + (0 : Nat)) _ _ = _
        rw [hnow]
        rfl
    · rw [exec_incr_next (by rwa [hnow]), hnow, Limiter.check_next hvalue]
      exact ⟨_, rfl, rfl⟩

/-- The call has started the counter of a key and its `EXPIRE` comes next. -/
def pending (c : ShareConfig) (key : String) : RateThread → Bool
  | .expire r => decide ((r.limiter c).key = key)
  | _ => false

theorem pending_expire (c : ShareConfig) (r : RateRequest) :
    (RateThread.expire r).pending c (r.limiter c).key = true :=
  decide_eq_true rfl

end RateThread

/-- The scheduler of the calls. -/
def rateStep (c : ShareConfig) :
    Pool RateState RateThread → PoolAct RateRequest RateEnv → Pool RateState RateThread :=
  Pool.step RateThread.incr (RateThread.exec c)

/-- No request yet. -/
def rateStart : Pool RateState RateThread := ⟨.start, []⟩

/-! ## The law -/

/-- The requests counted on a counter since it was started, of a log of its key. -/
def window : List RateEvent → List RateEvent
  | [] => []
  | e :: log => if e.opens then [e] else e :: window log

/-- The limits reset. A counter without a time to live belongs to a call whose `EXPIRE` comes next.
Without such a call, what is refused is refused within a window of the last command on its counter.
In one window no more requests are allowed than the largest limit they are held against, and windows
of one key do not overlap. -/
structure RateLaw (c : ShareConfig) (p : Pool RateState RateThread) : Prop where
  ttl : ∀ (r : RateRequest) n, p.shared.counters.cell (r.limiter c).key = some (n, none) →
    ∃ t ∈ p.threads, t.pending c (r.limiter c).key = true
  resets : ∀ (r : RateRequest) t, p.shared.clock ≤ t → p.shared.refuses (r.limiter c) t →
    (∀ u ∈ p.threads, u.pending c (r.limiter c).key = false) →
    ∃ last, p.shared.last (r.limiter c).key = some last ∧
      t ≤ last + seconds (r.limiter c).windowS
  bound : ∀ (r : RateRequest) (most : Nat),
    (∀ e ∈ window (p.shared.log (r.limiter c).key), e.limit ≤ most) →
    (window (p.shared.log (r.limiter c).key)).countP RateEvent.allowed ≤ most
  apart : ∀ r : RateRequest, ((p.shared.log (r.limiter c).key).filter RateEvent.opens).Pairwise
    fun newer older => older.time + seconds (r.limiter c).windowS ≤ newer.time

/-- At an `EXPIRE`, the worker has not stopped and the cache server answers. -/
def expires (p : Pool RateState RateThread) : PoolAct RateRequest RateEnv → Bool
  | .spawn _ => true
  | .exec i e =>
    match p.threads[i]?, e with
    | some (.expire _), .stop => false
    | some (.expire _), .command _ up => up
    | _, _ => true

/-- At an `EXPIRE` that is not executed, the call ends and the counters stay as they are. -/
theorem eq_of_not_expires {c : ShareConfig} {p : Pool RateState RateThread}
    {a : PoolAct RateRequest RateEnv} (h : expires p a = false) :
    ∃ i e r t' now, a = .exec i e ∧ p.threads[i]? = some (.expire r) ∧
      RateThread.exec c p.shared (.expire r) e = ({ p.shared with clock := now }, t') ∧
      t'.pending c (r.limiter c).key = false := by
  cases a with
  | spawn r => cases h
  | exec i e =>
    simp only [expires] at h
    cases ht : p.threads[i]? with
    | none => simp [ht] at h
    | some t =>
      cases t with
      | incr | done | stopped => simp [ht] at h
      | expire r =>
        cases e with
        | stop => exact ⟨i, _, r, _, _, rfl, ht, rfl, rfl⟩
        | command wait up =>
          rw [ht] at h
          obtain rfl : up = false := h
          exact ⟨i, _, r, _, _, rfl, ht, rfl, rfl⟩

/-! ## One key -/

/-- `n`, …, `1`. -/
def countdown : Nat → List Nat
  | 0 => []
  | n + 1 => (n + 1) :: countdown n

theorem countP_countdown (n most : Nat) : (countdown n).countP (· ≤ most) ≤ most := by
  suffices h : (countdown n).countP (· ≤ most) = min n most by omega
  induction n with
  | zero => simp [countdown]
  | succ n ih =>
    rw [countdown, List.countP_cons, ih]
    split <;> simp_all <;> omega

theorem window_cons_of_opens {e : RateEvent} (h : e.opens = true) (log : List RateEvent) :
    window (e :: log) = [e] :=
  if_pos h

theorem window_cons_of_not_opens {e : RateEvent} (h : e.opens = false) (log : List RateEvent) :
    window (e :: log) = e :: window log :=
  if_neg (by simp [h])

/-- What holds of the counter of a key, its requests, its last command and the number of calls whose
`EXPIRE` on it comes next. -/
structure Counting (windowS clock : Int) (cell : Option (Nat × Option Int)) (log : List RateEvent)
    (last : Option Int) (pending : Nat) : Prop where
  fresh : cell = none → pending = 0 ∧ log = []
  lasting : ∀ n, cell = some (n, none) → pending = 1
  timed : ∀ n e, cell = some (n, some e) → pending = 0 ∧
    (∃ t, last = some t ∧ t ≤ clock ∧ e ≤ t + seconds windowS) ∧
    ∀ o ∈ log, o.opens = true → o.time + seconds windowS ≤ e
  counts : ∀ n x, cell = some (n, x) → 1 ≤ n ∧ (window log).map RateEvent.count = countdown n
  past : ∀ o ∈ log, o.time ≤ clock
  apart : (log.filter RateEvent.opens).Pairwise
    fun newer older => older.time + seconds windowS ≤ newer.time

namespace Counting

variable {windowS clock now : Int} {m : Counters String} {key : String} {log : List RateEvent}
  {last : Option Int} {pending : Nat}

/-- Time passes. -/
theorem wait {cell : Option (Nat × Option Int)} (h : Counting windowS clock cell log last pending)
    (hle : clock ≤ now) : Counting windowS now cell log last pending where
  fresh := h.fresh
  lasting := h.lasting
  timed n e hcell := by
    obtain ⟨hpending, ⟨t, hlast, ht, he⟩, hopen⟩ := h.timed n e hcell
    exact ⟨hpending, ⟨t, hlast, ht.trans hle, he⟩, hopen⟩
  counts := h.counts
  past o ho := (h.past o ho).trans hle
  apart := h.apart

/-- A request starts a counter: there is none, or it has ended. -/
theorem incr_first (h : Counting windowS clock (m.cell key) log last pending) (hle : clock ≤ now)
    (hvalue : m.value now key = 0) (limit : Nat) :
    Counting windowS now ((m.incr now key).1.cell key) (⟨1, limit, now⟩ :: log) (some now)
      (pending + 1) := by
  have hold : pending = 0 ∧ ∀ o ∈ log, o.opens = true → o.time + seconds windowS ≤ now := by
    cases hcell : m.cell key with
    | none =>
      obtain ⟨hpending, rfl⟩ := h.fresh hcell
      exact ⟨hpending, nofun⟩
    | some x =>
      obtain ⟨n, x⟩ := x
      have hn := (h.counts n x hcell).1
      cases x with
      | none =>
        rw [Counters.value_of_lasting hcell] at hvalue
        omega
      | some e =>
        rw [Counters.value_of_timed hcell] at hvalue
        obtain ⟨hpending, -, hopen⟩ := h.timed n e hcell
        refine ⟨hpending, fun o ho hopens => (hopen o ho hopens).trans ?_⟩
        split at hvalue <;> omega
  obtain ⟨rfl, hold⟩ := hold
  rw [Counters.cell_incr_self, hvalue]
  have hopens : RateEvent.opens ⟨1, limit, now⟩ = true := rfl
  refine ⟨nofun, fun _ _ => rfl, nofun, ?_, ?_, ?_⟩
  · rintro n x ⟨⟩
    rw [window_cons_of_opens hopens]
    exact ⟨le_rfl, rfl⟩
  · intro o ho
    rcases List.mem_cons.1 ho with rfl | ho
    · exact le_rfl
    · exact (h.past o ho).trans hle
  · rw [List.filter_cons_of_pos hopens]
    refine List.pairwise_cons.2 ⟨fun o ho => ?_, h.apart⟩
    obtain ⟨ho, hopens⟩ := List.mem_filter.1 ho
    exact hold o ho hopens

/-- A request is counted on a counter that lives. -/
theorem incr_next (h : Counting windowS clock (m.cell key) log last pending) (hle : clock ≤ now)
    (hvalue : m.value now key ≠ 0) (limit : Nat) :
    Counting windowS now ((m.incr now key).1.cell key)
      (⟨m.value now key + 1, limit, now⟩ :: log) (some now) pending := by
  obtain ⟨n, x, hcell⟩ : ∃ n x, m.cell key = some (n, x) := by
    cases hcell : m.cell key with
    | none => exact absurd (Counters.value_of_none hcell) hvalue
    | some x => exact ⟨x.1, x.2, rfl⟩
  have hn : m.value now key = n := by
    cases x with
    | none => exact Counters.value_of_lasting hcell
    | some e =>
      rw [Counters.value_of_timed hcell] at hvalue ⊢
      split at hvalue
      · next hlt => exact if_pos hlt
      · exact absurd rfl hvalue
  have hopens : RateEvent.opens ⟨n + 1, limit, now⟩ = false := by
    simp only [RateEvent.opens, decide_eq_false_iff_not]
    omega
  have hcounts := h.counts n x hcell
  rw [Counters.cell_incr_self, if_neg hvalue, hn, hcell]
  refine ⟨nofun, ?_, ?_, ?_, ?_, ?_⟩
  · intro k hk
    obtain ⟨-, rfl⟩ := Prod.mk.inj (Option.some.inj hk)
    exact h.lasting n hcell
  · intro k e hk
    obtain ⟨-, rfl⟩ := Prod.mk.inj (Option.some.inj hk)
    obtain ⟨hpending, ⟨t, -, ht, he⟩, hopen⟩ := h.timed n e hcell
    refine ⟨hpending, ⟨now, rfl, le_rfl, he.trans (by omega)⟩, fun o ho hopens' => ?_⟩
    rcases List.mem_cons.1 ho with rfl | ho
    · exact absurd hopens' (by simp [hopens])
    · exact hopen o ho hopens'
  · rintro k y ⟨⟩
    rw [window_cons_of_not_opens hopens, List.map_cons, hcounts.2]
    exact ⟨by omega, rfl⟩
  · intro o ho
    rcases List.mem_cons.1 ho with rfl | ho
    · exact le_rfl
    · exact (h.past o ho).trans hle
  · rw [List.filter_cons_of_neg (by simp [hopens])]
    exact h.apart

/-- A counter that a call has still to give its time to live has none. -/
theorem cell_of_pending {cell : Option (Nat × Option Int)}
    (h : Counting windowS clock cell log last (pending + 1)) : ∃ n, cell = some (n, none) := by
  cases hcell : cell with
  | none => cases (h.fresh hcell).1
  | some x =>
    obtain ⟨n, x⟩ := x
    cases x with
    | none => exact ⟨n, rfl⟩
    | some e => cases (h.timed n e hcell).1

/-- A call that started the counter gives it its time to live. -/
theorem expire (h : Counting windowS clock (m.cell key) log last (pending + 1))
    (hle : clock ≤ now) : Counting windowS now ((m.expire now key windowS).cell key) log (some now)
      pending := by
  obtain ⟨n, hcell⟩ := h.cell_of_pending
  have hpending := h.lasting n hcell
  rw [Counters.cell_expire_self, hcell]
  refine ⟨nofun, nofun, ?_, ?_, fun o ho => (h.past o ho).trans hle, h.apart⟩
  · rintro k e ⟨⟩
    refine ⟨by omega, ⟨now, rfl, le_rfl, le_rfl⟩, fun o ho _ => ?_⟩
    have := h.past o ho
    omega
  · rintro k y ⟨⟩
    exact h.counts n none hcell

end Counting

/-! ## Every key, in every run -/

/-- Every limiter's key is counted as it should be. -/
def RateInv (c : ShareConfig) (p : Pool RateState RateThread) : Prop :=
  ∀ r : RateRequest, Counting (r.limiter c).windowS p.shared.clock
    (p.shared.counters.cell (r.limiter c).key) (p.shared.log (r.limiter c).key)
    (p.shared.last (r.limiter c).key) (p.threads.countP (RateThread.pending c (r.limiter c).key))

section
variable {c : ShareConfig} {p : Pool RateState RateThread}

theorem RateInv.start : RateInv c rateStart := by
  intro r
  exact ⟨fun _ => ⟨rfl, rfl⟩, nofun, nofun, nofun, nofun, .nil⟩

/-- The invariant is the law. -/
theorem RateInv.law (h : RateInv c p) : RateLaw c p where
  ttl r n hcell := List.countP_pos_iff.1 (by rw [(h r).lasting n hcell]; exact Nat.one_pos)
  resets r t hle hrefuses hnone := by
    have hzero : p.threads.countP (RateThread.pending c (r.limiter c).key) = 0 :=
      List.countP_eq_zero.2 fun u hu => by simp [hnone u hu]
    have hlimit := r.limit_pos (c := c)
    unfold RateState.refuses at hrefuses
    cases hcell : p.shared.counters.cell (r.limiter c).key with
    | none =>
      rw [Counters.value_of_none hcell] at hrefuses
      omega
    | some x =>
      obtain ⟨n, x⟩ := x
      cases x with
      | none => cases hzero.symm.trans ((h r).lasting n hcell)
      | some e =>
        obtain ⟨-, ⟨last, hlast, -, he⟩, -⟩ := (h r).timed n e hcell
        rw [Counters.value_of_timed hcell] at hrefuses
        refine ⟨last, hlast, ?_⟩
        split at hrefuses <;> omega
  bound r most hmost := by
    cases hcell : p.shared.counters.cell (r.limiter c).key with
    | none =>
      rw [((h r).fresh hcell).2]
      exact Nat.zero_le _
    | some x =>
      calc (window (p.shared.log (r.limiter c).key)).countP RateEvent.allowed
          ≤ (window (p.shared.log (r.limiter c).key)).countP fun e => decide (e.count ≤ most) := by
            refine List.countP_mono_left fun e he hallowed => decide_eq_true ?_
            exact (of_decide_eq_true hallowed).trans (hmost e he)
        _ = (countdown x.1).countP (· ≤ most) := by
            rw [← ((h r).counts x.1 x.2 hcell).2, List.countP_map]
            rfl
        _ ≤ most := countP_countdown x.1 most
  apart r := (h r).apart

/-- A thread that moves on without a command on the key of `r`, to a state in which its `EXPIRE` on
it comes next exactly if it did before. -/
theorem RateInv.elsewhere {i : Nat} {t t' : RateThread} {s : RateState} {r : RateRequest}
    (h : RateInv c p) (ht : p.threads[i]? = some t) (hle : p.shared.clock ≤ s.clock)
    (hcell : s.counters.cell (r.limiter c).key = p.shared.counters.cell (r.limiter c).key)
    (hlog : s.log (r.limiter c).key = p.shared.log (r.limiter c).key)
    (hlast : s.last (r.limiter c).key = p.shared.last (r.limiter c).key)
    (hpending : t'.pending c (r.limiter c).key = t.pending c (r.limiter c).key) :
    Counting (r.limiter c).windowS s.clock (s.counters.cell (r.limiter c).key)
      (s.log (r.limiter c).key) (s.last (r.limiter c).key)
      ((p.threads.set i t').countP (RateThread.pending c (r.limiter c).key)) := by
  have hcount := Pool.countP_exec (RateThread.pending c (r.limiter c).key) ht t'
  rw [hpending] at hcount
  rw [hcell, hlog, hlast, Nat.add_right_cancel hcount]
  exact (h r).wait hle

/-- A call counts its request. -/
theorem RateInv.incr {i : Nat} {r : RateRequest} (h : RateInv c p)
    (ht : p.threads[i]? = some (.incr r)) (wait : Nat) :
    RateInv c ⟨(RateThread.exec c p.shared (.incr r) (.command wait true)).1,
      p.threads.set i (RateThread.exec c p.shared (.incr r) (.command wait true)).2⟩ := by
  intro r'
  have hle : p.shared.clock ≤ p.shared.clock + wait := by omega
  have hcount := Pool.countP_exec (RateThread.pending c (r.limiter c).key) ht
  by_cases hvalue : p.shared.counters.value (p.shared.clock + wait) (r.limiter c).key = 0
  · rw [RateThread.exec_incr_first hvalue]
    by_cases hkey : (r'.limiter c).key = (r.limiter c).key
    · have hthis := hcount (.expire r)
      simp only [RateThread.pending, Bool.false_eq_true, if_false, decide_true, if_true,
        Nat.add_zero] at hthis
      dsimp only
      rw [hkey, RateRequest.windowS_eq hkey, hthis]
      have hfirst := (h r).incr_first hle hvalue (r.limiter c).limit
      simpa only [RateState.incr, if_true, Counters.incr_snd, hvalue] using hfirst
    · exact h.elsewhere ht hle (Counters.cell_incr_of_ne hkey) (if_neg hkey) (if_neg hkey)
        (decide_eq_false (Ne.symm hkey))
  · rw [RateThread.exec_incr_next hvalue]
    by_cases hkey : (r'.limiter c).key = (r.limiter c).key
    · have hthis := hcount (.done r (decide (p.shared.counters.value (p.shared.clock + wait)
        (r.limiter c).key + 1 ≤ (r.limiter c).limit)))
      simp only [RateThread.pending, Bool.false_eq_true, if_false, Nat.add_zero] at hthis
      dsimp only
      rw [hkey, RateRequest.windowS_eq hkey, hthis]
      have hnext := (h r).incr_next hle hvalue (r.limiter c).limit
      simpa only [RateState.incr, if_true, Counters.incr_snd] using hnext
    · exact h.elsewhere ht hle (Counters.cell_incr_of_ne hkey) (if_neg hkey) (if_neg hkey) rfl

/-- A call gives the counter it started its time to live. -/
theorem RateInv.expire {i : Nat} {r : RateRequest} (h : RateInv c p)
    (ht : p.threads[i]? = some (.expire r)) (wait : Nat) :
    RateInv c ⟨(RateThread.exec c p.shared (.expire r) (.command wait true)).1,
      p.threads.set i (RateThread.exec c p.shared (.expire r) (.command wait true)).2⟩ := by
  intro r'
  rw [RateThread.exec_expire]
  have hle : p.shared.clock ≤ p.shared.clock + wait := by omega
  by_cases hkey : (r'.limiter c).key = (r.limiter c).key
  · have hcount := Pool.countP_exec (RateThread.pending c (r.limiter c).key) ht
      (.done r (decide (1 ≤ (r.limiter c).limit)))
    simp only [RateThread.pending, Bool.false_eq_true, if_false, decide_true, if_true,
      Nat.add_zero] at hcount
    have hr := h r
    rw [← hcount] at hr
    dsimp only
    rw [hkey, RateRequest.windowS_eq hkey]
    simpa only [RateState.expire, if_true] using hr.expire hle
  · exact h.elsewhere ht hle (Counters.cell_expire_of_ne hkey) rfl (if_neg hkey)
      (decide_eq_false (Ne.symm hkey)).symm

/-- A step that executes the `EXPIRE` it comes to keeps the invariant. -/
theorem RateInv.step (h : RateInv c p) {a : PoolAct RateRequest RateEnv}
    (hok : expires p a = true) : RateInv c (rateStep c p a) := by
  rcases @Pool.step_cases _ _ _ _ RateThread.incr (RateThread.exec c) p a with
    hstep | ⟨r, rfl, hstep⟩ | ⟨i, e, t, rfl, ht, hstep⟩
  · rwa [rateStep, hstep]
  · rw [rateStep, hstep]
    intro r'
    have hnew : (p.threads ++ [RateThread.incr r]).countP
        (RateThread.pending c (r'.limiter c).key) =
          p.threads.countP (RateThread.pending c (r'.limiter c).key) := by
      rw [List.countP_append]
      rfl
    dsimp only
    rw [hnew]
    exact h r'
  · rw [rateStep, hstep]
    -- a step without a command on a counter
    have hidle : ∀ s' t', s'.counters = p.shared.counters → s'.log = p.shared.log →
        s'.last = p.shared.last → p.shared.clock ≤ s'.clock →
        (∀ key, t'.pending c key = t.pending c key) → RateInv c ⟨s', p.threads.set i t'⟩ := by
      intro s' t' hcounters hlog hlast hle hpending r'
      exact h.elsewhere ht hle (by rw [hcounters]) (by rw [hlog]) (by rw [hlast]) (hpending _)
    have hwait : ∀ wait : Nat, p.shared.clock ≤ p.shared.clock + wait := fun wait => by omega
    cases t with
    | done r allowed => exact hidle _ _ rfl rfl rfl le_rfl fun _ => rfl
    | stopped => cases e <;> exact hidle _ _ rfl rfl rfl le_rfl fun _ => rfl
    | incr r =>
      cases e with
      | stop => exact hidle _ _ rfl rfl rfl le_rfl fun _ => rfl
      | command wait up =>
        cases up with
        | false => exact hidle _ _ rfl rfl rfl (hwait wait) fun _ => rfl
        | true => exact h.incr ht wait
    | expire r =>
      simp only [expires, ht] at hok
      cases e with
      | stop => cases hok
      | command wait up =>
        subst hok
        exact h.expire ht wait

/-- An `EXPIRE` that is not executed leaves a counter without a time to live behind. -/
theorem RateInv.expires_of_law (h : RateInv c p) {a : PoolAct RateRequest RateEnv}
    (hlaw : RateLaw c (rateStep c p a)) : expires p a = true := by
  by_contra hnot
  obtain ⟨i, e, r, t', now, rfl, ht, hexec, hpending⟩ :=
    eq_of_not_expires (c := c) (Bool.eq_false_of_not_eq_true hnot)
  have hcount := Pool.countP_exec (RateThread.pending c (r.limiter c).key) ht t'
  rw [RateThread.pending_expire, hpending] at hcount
  simp only [if_true, Bool.false_eq_true, if_false, Nat.add_zero] at hcount
  -- the call was the only one, and its counter has no time to live
  have hr := h r
  rw [← hcount] at hr
  obtain ⟨n, hcell⟩ := hr.cell_of_pending
  have hone := hr.lasting n hcell
  rw [rateStep, Pool.step_exec ht, hexec] at hlaw
  obtain ⟨u, hu, hpend⟩ := hlaw.ttl r n hcell
  have hpos := List.countP_pos_iff.2 ⟨u, hu, hpend⟩
  dsimp only at hpos
  omega

/-! ## What an interruption leaves -/

/-- The counter of a key reads at least `n` and has no time to live, and no call will give it
one. -/
structure Stuck (c : ShareConfig) (key : String) (n : Nat) (p : Pool RateState RateThread) :
    Prop where
  lasting : ∃ m, n ≤ m ∧ p.shared.counters.cell key = some (m, none)
  abandoned : ∀ t ∈ p.threads, t.pending c key = false

namespace Stuck

variable {key : String} {n : Nat}

/-- A thread moves, and the counter does not change. -/
theorem of_cell_eq {i : Nat} {t' : RateThread} {s : RateState} (h : Stuck c key n p)
    (hcell : s.counters.cell key = p.shared.counters.cell key) (ht' : t'.pending c key = false) :
    Stuck c key n ⟨s, p.threads.set i t'⟩ where
  lasting := by rw [hcell]; exact h.lasting
  abandoned := Pool.forall_exec h.abandoned ht'

/-- Every request is counted on it. -/
theorem incr {i : Nat} {r : RateRequest} (h : Stuck c (r.limiter c).key n p) (hn : 1 ≤ n)
    (ht : p.threads[i]? = some (.incr r)) (wait : Nat) :
    Stuck c (r.limiter c).key (n + 1) (rateStep c p (.exec i (.command wait true))) := by
  obtain ⟨m, hm, hcell⟩ := h.lasting
  have hvalue : p.shared.counters.value (p.shared.clock + wait) (r.limiter c).key = m :=
    Counters.value_of_lasting hcell
  have hne : p.shared.counters.value (p.shared.clock + wait) (r.limiter c).key ≠ 0 := by omega
  rw [rateStep, Pool.step_exec ht, RateThread.exec_incr_next hne]
  refine ⟨⟨m + 1, by omega, ?_⟩, Pool.forall_exec h.abandoned rfl⟩
  dsimp only [RateState.incr]
  rw [Counters.cell_incr_self, if_neg hne, hvalue, hcell]
  rfl

theorem mono {m : Nat} (h : Stuck c key n p) (hle : m ≤ n) : Stuck c key m p where
  lasting := h.lasting.imp fun _ hk => ⟨hle.trans hk.1, hk.2⟩
  abandoned := h.abandoned

/-- Whatever happens next, the counter stays. -/
theorem step (h : Stuck c key n p) (hn : 1 ≤ n) (a : PoolAct RateRequest RateEnv) :
    Stuck c key n (rateStep c p a) := by
  rcases @Pool.step_cases _ _ _ _ RateThread.incr (RateThread.exec c) p a with
    hstep | ⟨r, rfl, hstep⟩ | ⟨i, e, t, rfl, ht, hstep⟩
  · rwa [rateStep, hstep]
  · rw [rateStep, hstep]
    exact ⟨h.lasting, Pool.forall_spawn h.abandoned rfl⟩
  · have habandoned := h.abandoned t (List.mem_of_getElem? ht)
    rw [rateStep, hstep]
    cases t with
    | done r allowed => exact h.of_cell_eq rfl rfl
    | stopped => cases e <;> exact h.of_cell_eq rfl rfl
    | incr r =>
      cases e with
      | stop => exact h.of_cell_eq rfl rfl
      | command wait up =>
        cases up with
        | false => exact h.of_cell_eq rfl rfl
        | true =>
          by_cases hkey : key = (r.limiter c).key
          · subst hkey
            have hcounted := (h.incr hn ht wait).mono (Nat.le_succ n)
            rwa [rateStep, Pool.step_exec ht] at hcounted
          · by_cases hvalue : p.shared.counters.value (p.shared.clock + wait) (r.limiter c).key = 0
            · rw [RateThread.exec_incr_first hvalue]
              exact h.of_cell_eq (Counters.cell_incr_of_ne hkey) (decide_eq_false (Ne.symm hkey))
            · rw [RateThread.exec_incr_next hvalue]
              exact h.of_cell_eq (Counters.cell_incr_of_ne hkey) rfl
    | expire r =>
      have hkey : key ≠ (r.limiter c).key := fun heq => of_decide_eq_false habandoned heq.symm
      cases e with
      | stop => exact h.of_cell_eq rfl rfl
      | command wait up =>
        cases up with
        | false => exact h.of_cell_eq rfl rfl
        | true => exact h.of_cell_eq (Counters.cell_expire_of_ne hkey) rfl

/-- In every run. -/
theorem run (h : Stuck c key n p) (hn : 1 ≤ n) (as : List (PoolAct RateRequest RateEnv)) :
    Stuck c key n (as.foldl (rateStep c) p) := by
  induction as generalizing p with
  | nil => exact h
  | cons a as ih => exact ih (h.step hn a)

/-- So many further requests. -/
theorem requests {r : RateRequest} (h : Stuck c (r.limiter c).key n p) (hn : 1 ≤ n) (k : Nat) :
    ∃ as : List (PoolAct RateRequest RateEnv),
      Stuck c (r.limiter c).key (n + k) (as.foldl (rateStep c) p) := by
  induction k with
  | zero => exact ⟨[], h⟩
  | succ k ih =>
    obtain ⟨as, has⟩ := ih
    refine ⟨as ++ [.spawn r, .exec (as.foldl (rateStep c) p).threads.length (.command 0 true)], ?_⟩
    rw [List.foldl_append]
    exact (has.step (by omega) (.spawn r)).incr (by omega) List.getElem?_concat_length 0

/-- Once the counter reads the limit, a request is refused at any time. -/
theorem refuses {l : Limiter} (h : Stuck c l.key n p) (hn : l.limit ≤ n) (t : Int) :
    p.shared.refuses l t := by
  obtain ⟨m, hm, hcell⟩ := h.lasting
  unfold RateState.refuses
  rw [Counters.value_of_lasting hcell]
  omega

end Stuck

end

/-! ## The result -/

/-- In every run, the limits reset exactly if every `EXPIRE` that a call comes to is executed. -/
theorem rate_limits_reset_iff (c : ShareConfig) (as : List (PoolAct RateRequest RateEnv)) :
    (∀ pre, pre <+: as → RateLaw c (pre.foldl (rateStep c) rateStart)) ↔
      ∀ pre a, pre ++ [a] <+: as → expires (pre.foldl (rateStep c) rateStart) a = true :=
  forall_prefix_iff_of_invariant (fun _ _ h hok => h.step hok)
    (fun _ _ h hlaw => h.expires_of_law hlaw) (fun _ h => h.law) RateInv.start

/-- A worker stops after the first `INCR` for the claims of an address: no call is under way and the
counter has no time to live. After ten further claims the address is refused for ever. -/
theorem claims_refused_for_ever :
    let c : ShareConfig := ⟨id, "secret", "aeroxprotect"⟩
    let r : RateRequest := .pairingClaim (some "192.0.2.7")
    let p := [.spawn r, .exec 0 (.command 0 true), .exec 0 .stop].foldl (rateStep c) rateStart
    ¬ RateLaw c p ∧ ∃ as : List (PoolAct RateRequest RateEnv), ∀ more t,
      ((as ++ more).foldl (rateStep c) p).shared.refuses (r.limiter c) t := by
  intro c r p
  have hcell : p.shared.counters.cell (r.limiter c).key = some (1, none) := by
    show ((∅ : Counters String).incr (0 + (0 : Nat)) (r.limiter c).key).1.cell _ = _
    exact Counters.cell_incr_self
  have hthreads : p.threads = [.stopped] := rfl
  have hstuck : Stuck c (r.limiter c).key 1 p := by
    refine ⟨⟨1, le_rfl, hcell⟩, ?_⟩
    rw [hthreads]
    rintro t ⟨⟩
    · rfl
    · contradiction
  constructor
  · intro hlaw
    obtain ⟨t, ht, hpending⟩ := hlaw.ttl r 1 hcell
    rw [hstuck.abandoned t ht] at hpending
    cases hpending
  · obtain ⟨as, has⟩ := hstuck.requests le_rfl 10
    refine ⟨as, fun more t => ?_⟩
    rw [List.foldl_append]
    exact (has.run (by omega) more).refuses (Nat.le_succ 10) t

end AeroXProtect.RateLimits
