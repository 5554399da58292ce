import AeroXProtect.Lib.Clock
import AeroXProtect.Lib.History

/-!
# The toggles of a process

A process keeps the toggles of the installation for fifteen seconds: `is_enabled` looks at the table
again when they are older, and a toggle that the process itself writes makes them old at once. The
calls of a process run at the same time (`Lib.Pool`), a look at the table sees it as it was when the
request began its transaction, and other processes write the table as well.

`flags_fresh` is what an answer says about the table: in any run from a moment at which the toggles
are old and no request has looked at the table, an answer is what the table said at a moment of the
run, and not longer ago than fifteen seconds and twice the time that a look takes. After a write,
that is an answer from the table with the write, unless a request that began before it was still
looking.
-/

open Lib

namespace AeroXProtect

namespace FeatureFlag

/-! ## Calls -/

/-- The toggles that there are, and whether each is on. -/
abbrev Flags := String → Option Bool

/-- `_CACHE_TTL_S` -/
def cacheTtl : Int := seconds 15

/-- The table, and the clock and the module variables of a process. -/
structure Process where
  now : Int
  table : Flags
  cache : Flags
  cacheAt : Int

/-- What a request asks, and the table as it was when the request began its transaction. -/
structure Ask where
  key : String
  dflt : Bool
  snapshot : Flags
  began : Int

/-- The statement of `is_enabled` that comes next; `comparing` and `storing` have read the clock. -/
inductive Place
  | timing
  | comparing (n : Int)
  | refreshing
  | stamping
  | storing (n : Int)
  | returning
  | answered (enabled : Bool)
  deriving DecidableEq, Repr

/-- A request: one that is to ask, one inside `is_enabled`, a `set_flag` before and after its
commit, and a write of another process. -/
inductive Call
  | asking (key : String) (dflt : Bool)
  | inside (a : Ask) (place : Place)
  | setting (key : String) (enabled : Bool)
  | invalidating
  | elsewhere (key : String) (enabled : Option Bool)
  | done

/-- What can be requested. -/
inductive Request
  | isEnabled (key : String) (dflt : Bool)
  | setFlag (key : String) (enabled : Bool)
  | elsewhere (key : String) (enabled : Option Bool)
  deriving DecidableEq, Repr

def Call.start : Request → Call
  | .isEnabled key dflt => .asking key dflt
  | .setFlag key enabled => .setting key enabled
  | .elsewhere key enabled => .elsewhere key enabled

namespace Process

/-- Source: `FeatureFlag.set_enabled` (`server/model/feature_flag.py:104`). -/
def write (s : Process) (key : String) (enabled : Option Bool) : Process :=
  { s with table := fun k => if k = key then enabled else s.table k }

/-- One statement of `is_enabled`, with `_map` and `_refresh`.
Source: `is_enabled` (`server/service/feature_flag.py:37`). -/
def isEnabled (s : Process) (a : Ask) : Place → Process × Place
  | .timing => (s, .comparing s.now)
  | .comparing n => (s, if n - s.cacheAt > cacheTtl then .refreshing else .returning)
  | .refreshing => ({ s with cache := a.snapshot }, .stamping)
  | .stamping => (s, .storing s.now)
  | .storing n => ({ s with cacheAt := n }, .returning)
  | .returning => (s, .answered ((s.cache a.key).getD a.dflt))
  | .answered enabled => (s, .answered enabled)

/-- One statement of a call. Source: `is_enabled` (`server/service/feature_flag.py:37`), `set_flag`
(`server/service/feature_flag.py:51`) and `invalidate` (`server/service/feature_flag.py:26`). -/
def call (s : Process) : Call → Process × Call
  | .asking key dflt => (s, .inside ⟨key, dflt, s.table, s.now⟩ .timing)
  | .inside a place => ((s.isEnabled a place).1, .inside a (s.isEnabled a place).2)
  | .setting key enabled => (s.write key (some enabled), .invalidating)
  | .invalidating => ({ s with cacheAt := 0 }, .done)
  | .elsewhere key enabled => (s.write key enabled, .done)
  | .done => (s, .done)

/-- One statement of a call, at an instant of the clock. -/
def exec (s : Process) (c : Call) (now : Int) : Process × Call := { s with now }.call c

end Process

abbrev FlagPool := Pool Process Call

abbrev FlagAct := PoolAct Request Int

namespace FlagPool

def step (p : FlagPool) (a : FlagAct) : FlagPool := Pool.step Call.start Process.exec p a

/-- The calls that look at the table: from the comparison to the stamp. -/
def looks : Call → Option Int
  | .inside a .refreshing => some a.began
  | .inside a .stamping => some a.began
  | _ => none

/-- The clock does not go back, and a look at the table has its stamp at most `d` after the
transaction began. -/
def prompt (d : Int) (p : FlagPool) : FlagAct → Bool
  | .spawn _ => true
  | .exec i now => decide (p.shared.now ≤ now) &&
      (p.threads[i]?).all fun c => (looks c).all fun began => decide (now ≤ began + d)

/-- The toggles are old, which they are when the clock is past the fifteen seconds that they are
kept for, and no request has begun a transaction. -/
structure Quiet (p : FlagPool) : Prop where
  old : p.shared.cacheAt = 0
  booted : cacheTtl < p.shared.now
  calls : ∀ a place, .inside a place ∉ p.threads

/-- What the table said at a moment of a run. -/
def Was (p : FlagPool) (as : List FlagAct) (τ : Int) (flags : Flags) : Prop :=
  ∃ pre, pre <+: as ∧ (pre.foldl step p).shared.now = τ ∧ (pre.foldl step p).shared.table = flags

end FlagPool

/-! ## One statement -/

section
variable {W : Int → Flags → Prop} {d now now' τ : Int} {o : Option Int} {a : Ask} {place : Place}
  {s : Process} {p q : FlagPool}

/-- What a call inside `is_enabled` relies on, where `W` says what the table has been and `o` from
which moment the process has its toggles. -/
def Place.Sound (W : Int → Flags → Prop) (d now : Int) (o : Option Int) (a : Ask) : Place → Prop
  | .timing => True
  | .comparing n => a.began ≤ n ∧ cacheTtl < n
  | .refreshing => True
  | .stamping => ∃ τ ∈ o, a.began ≤ τ + d
  | .storing n => a.began ≤ n ∧ 0 ≤ n ∧ n ≤ now ∧ ∃ τ ∈ o, n ≤ τ + 2 * d
  | .returning => ∃ τ ∈ o, a.began ≤ τ + cacheTtl + 2 * d
  | .answered enabled => ∃ τ flags, W τ flags ∧ τ ≤ now ∧ a.began ≤ τ + cacheTtl + 2 * d ∧
      enabled = (flags a.key).getD a.dflt

/-- The module variables: nothing has been read, or the toggles are those of the moment `τ`, and the
stamp is not much later. -/
def Process.Held (W : Int → Flags → Prop) (d : Int) (s : Process) : Option Int → Prop
  | none => s.cacheAt = 0
  | some τ => W τ s.cache ∧ τ ≤ s.now ∧ 0 ≤ s.cacheAt ∧ s.cacheAt ≤ s.now ∧ s.cacheAt ≤ τ + 2 * d

theorem Process.Held.cacheAt_le (hs : s.Held W d o) (hboot : cacheTtl < s.now) :
    0 ≤ s.cacheAt ∧ s.cacheAt ≤ s.now := by
  have httl : 0 ≤ cacheTtl := by decide
  cases o with
  | none =>
    have hzero : s.cacheAt = 0 := hs
    omega
  | some τ => exact ⟨hs.2.2.1, hs.2.2.2.1⟩

/-- A call inside `is_enabled` between two of its statements. -/
structure Ask.Sound (W : Int → Flags → Prop) (d now : Int) (o : Option Int) (a : Ask)
    (place : Place) : Prop where
  snapshot : W a.began a.snapshot
  began : a.began ≤ now
  place : place.Sound W d now o a

theorem Ask.Sound.later (h : a.Sound W d now o place) (hnow : now ≤ now') :
    a.Sound W d now' o place := by
  refine ⟨h.snapshot, Int.le_trans h.began hnow, ?_⟩
  have hplace := h.place
  cases place with
  | storing n =>
    obtain ⟨hbegan, hpos, hn, ho⟩ := hplace
    exact ⟨hbegan, hpos, Int.le_trans hn hnow, ho⟩
  | answered enabled =>
    obtain ⟨τ, flags, hW, hτ, hbegan, heq⟩ := hplace
    exact ⟨τ, flags, hW, Int.le_trans hτ hnow, hbegan, heq⟩
  | _ => exact hplace

/-- New toggles, of a moment that is not long ago, are good for all calls. -/
theorem Ask.Sound.refresh (h : a.Sound W d now o place) (hτ : τ ≤ now) (hd : now ≤ τ + d) :
    a.Sound W d now (some τ) place := by
  refine ⟨h.snapshot, h.began, ?_⟩
  have hplace := h.place
  have hbegan := h.began
  have httl : 0 ≤ cacheTtl := by decide
  cases place with
  | stamping => exact ⟨τ, rfl, by omega⟩
  | storing n =>
    obtain ⟨hn, hpos, hnow, -⟩ := hplace
    exact ⟨hn, hpos, hnow, τ, rfl, by omega⟩
  | returning => exact ⟨τ, rfl, by omega⟩
  | _ => exact hplace

/-- What one statement of `is_enabled` leads to: it keeps the table and the clock, the variables
hold what the table was at a moment that is not before the one they held, and the call goes on. -/
theorem Process.isEnabled_sound {o : Option Int} (hs : s.Held W d o)
    (h : a.Sound W d s.now o place) (hboot : cacheTtl < s.now)
    (hlook : place = .refreshing ∨ place = .stamping → s.now ≤ a.began + d) :
    (s.isEnabled a place).1.now = s.now ∧ ∃ o', (s.isEnabled a place).1.Held W d o' ∧
      a.Sound W d s.now o' (s.isEnabled a place).2 ∧
      (o' = o ∨ ∃ τ, o' = some τ ∧ τ ≤ s.now ∧ s.now ≤ τ + d) := by
  obtain ⟨hsnap, hbegan, hplace⟩ := h
  have httl : 0 ≤ cacheTtl := by decide
  cases place with
  | timing => exact ⟨rfl, o, hs, ⟨hsnap, hbegan, hbegan, hboot⟩, .inl rfl⟩
  | comparing n =>
    obtain ⟨hn, hboot⟩ := hplace
    refine ⟨rfl, o, hs, ⟨hsnap, hbegan, ?_⟩, .inl rfl⟩
    change Place.Sound W d s.now o a (if n - s.cacheAt > cacheTtl then .refreshing else .returning)
    split
    · trivial
    · next hold =>
      cases o with
      | none =>
        -- toggles that have never been read are old
        have hzero : s.cacheAt = 0 := hs
        omega
      | some τ =>
        obtain ⟨-, -, -, -, hstamp⟩ := hs
        exact ⟨τ, rfl, by omega⟩
  | refreshing =>
    have hd := hlook (.inl rfl)
    have hstamp := hs.cacheAt_le hboot
    have hle : s.cacheAt ≤ a.began + 2 * d := by omega
    exact ⟨rfl, some a.began, ⟨hsnap, hbegan, hstamp.1, hstamp.2, hle⟩,
      ⟨hsnap, hbegan, a.began, rfl, by omega⟩, .inr ⟨a.began, rfl, hbegan, hd⟩⟩
  | stamping =>
    have hd := hlook (.inr rfl)
    obtain ⟨τ, rfl, hτ⟩ := hplace
    exact ⟨rfl, _, hs, ⟨hsnap, hbegan, hbegan, by omega, Int.le_refl _, τ, rfl, by omega⟩, .inl rfl⟩
  | storing n =>
    obtain ⟨hn, hpos, hnow, τ, rfl, hτ⟩ := hplace
    exact ⟨rfl, some τ, ⟨hs.1, hs.2.1, hpos, hnow, hτ⟩, ⟨hsnap, hbegan, τ, rfl, by omega⟩,
      .inl rfl⟩
  | returning =>
    obtain ⟨τ, rfl, hτ⟩ := hplace
    exact ⟨rfl, some τ, hs, ⟨hsnap, hbegan, τ, s.cache, hs.1, hs.2.1, hτ, rfl⟩, .inl rfl⟩
  | answered enabled => exact ⟨rfl, o, hs, ⟨hsnap, hbegan, hplace⟩, .inl rfl⟩

/-! ## Runs -/

/-- A pool between two statements. -/
structure FlagPool.Sound (W : Int → Flags → Prop) (d : Int) (p : FlagPool) (o : Option Int) :
    Prop where
  held : p.shared.Held W d o
  booted : cacheTtl < p.shared.now
  asks : ∀ a place, .inside a place ∈ p.threads → a.Sound W d p.shared.now o place

/-- The variables at a later moment, and after the toggles have been made old. -/
theorem Process.Held.later (hs : s.Held W d o) (hnow : s.now ≤ now) :
    Process.Held W d { s with now } o := by
  cases o with
  | none => exact hs
  | some τ =>
    obtain ⟨hW, hτ, hpos, hle, hstamp⟩ := hs
    exact ⟨hW, Int.le_trans hτ hnow, hpos, Int.le_trans hle hnow, hstamp⟩

theorem Process.Held.invalidate (hs : s.Held W d o) (hboot : cacheTtl < s.now) :
    Process.Held W d { s with cacheAt := 0 } o := by
  have hstamp := hs.cacheAt_le hboot
  cases o with
  | none => rfl
  | some τ =>
    obtain ⟨hW, hτ, -, -, hle⟩ := hs
    refine ⟨hW, hτ, Int.le_refl _, ?_, ?_⟩
    · change 0 ≤ s.now
      omega
    · change 0 ≤ τ + 2 * d
      omega

theorem FlagPool.Sound.later (h : p.Sound W d o) (hnow : p.shared.now ≤ now) :
    FlagPool.Sound W d ⟨{ p.shared with now }, p.threads⟩ o :=
  ⟨h.held.later hnow, Int.lt_of_lt_of_le h.booted hnow,
    fun a place ha => (h.asks a place ha).later hnow⟩

/-- A pool in which one thread has moved. -/
theorem FlagPool.Sound.set {i : Nat} {c : Call} (hs : s.Held W d o) (hboot : cacheTtl < s.now)
    (hasks : ∀ a place, .inside a place ∈ p.threads → a.Sound W d s.now o place)
    (hc : ∀ a place, c = .inside a place → a.Sound W d s.now o place) :
    FlagPool.Sound W d ⟨s, p.threads.set i c⟩ o := by
  refine ⟨hs, hboot, fun a place ha => ?_⟩
  rcases List.mem_or_eq_of_mem_set ha with ha | ha
  · exact hasks a place ha
  · exact hc a place ha.symm

/-- What one statement of a thread keeps. -/
theorem FlagPool.Sound.call {i : Nat} {c : Call} (h : p.Sound W d o) (hc : p.threads[i]? = some c)
    (hW : W (p.shared.call c).1.now (p.shared.call c).1.table)
    (hlook : ∀ began ∈ looks c, p.shared.now ≤ began + d) :
    ∃ o', FlagPool.Sound W d ⟨(p.shared.call c).1, p.threads.set i (p.shared.call c).2⟩ o' := by
  cases c with
  | asking key dflt =>
    refine ⟨o, .set h.held h.booted h.asks fun a place heq => ?_⟩
    cases heq
    exact ⟨hW, Int.le_refl _, trivial⟩
  | inside a place =>
    have ha := h.asks a place (List.mem_of_getElem? hc)
    have hprompt : place = .refreshing ∨ place = .stamping → p.shared.now ≤ a.began + d := by
      rintro (rfl | rfl)
      · exact hlook _ rfl
      · exact hlook _ rfl
    obtain ⟨hnow, o', hheld, hplace, hold⟩ := Process.isEnabled_sound h.held ha h.booted hprompt
    refine ⟨o', .set hheld (hnow ▸ h.booted) (fun b place hb => ?_) fun b place heq => ?_⟩
    · change b.Sound W d (p.shared.isEnabled a _).1.now o' place
      rw [hnow]
      rcases hold with rfl | ⟨τ, rfl, hτ, hd⟩
      · exact h.asks b place hb
      · exact (h.asks b place hb).refresh hτ hd
    · cases heq
      change a.Sound W d (p.shared.isEnabled a _).1.now o' _
      rw [hnow]
      exact hplace
  | setting key enabled =>
    exact ⟨o, .set h.held h.booted h.asks fun _ _ heq => nomatch heq⟩
  | invalidating =>
    exact ⟨o, .set (h.held.invalidate h.booted) h.booted h.asks fun _ _ heq => nomatch heq⟩
  | elsewhere key enabled =>
    exact ⟨o, .set h.held h.booted h.asks fun _ _ heq => nomatch heq⟩
  | done => exact ⟨o, .set h.held h.booted h.asks fun _ _ heq => nomatch heq⟩

/-- **What one action keeps.** -/
theorem FlagPool.Sound.step {x : FlagAct} (h : p.Sound W d o) (hx : prompt d p x = true)
    (hW : W (p.step x).shared.now (p.step x).shared.table) : ∃ o', (p.step x).Sound W d o' := by
  cases x with
  | spawn r =>
    refine ⟨o, h.held, h.booted, fun a place ha => ?_⟩
    rcases List.mem_append.1 ha with ha | ha
    · exact h.asks a place ha
    · cases r <;> cases List.mem_singleton.1 ha
  | exec i now =>
    cases hc : p.threads[i]? with
    | none =>
      refine ⟨o, ?_⟩
      rw [FlagPool.step, Pool.step, hc]
      exact h
    | some c =>
      have heq : p.step (.exec i now) = ⟨({ p.shared with now }.call c).1,
        p.threads.set i ({ p.shared with now }.call c).2⟩ := Pool.step_exec hc now
      rw [heq] at hW ⊢
      simp only [prompt, hc, Option.all_some, Bool.and_eq_true, decide_eq_true_eq] at hx
      refine FlagPool.Sound.call (h.later hx.1) hc hW fun began hbegan => ?_
      rw [Option.mem_def.1 hbegan, Option.all_some] at hx
      exact of_decide_eq_true hx.2

theorem FlagPool.Quiet.sound (h : p.Quiet) : p.Sound W d none :=
  ⟨h.old, h.booted, fun a place ha => absurd ha (h.calls a place)⟩

end

/-- **An answer is what the table said not long ago.** In any run from a moment at which the toggles
are old and no request has begun its transaction, an answer is what the table said at a moment of
the run, and that moment is not earlier than fifteen seconds and twice `d` before the request began,
where `d` bounds the time from the begin of a transaction to the stamp of its refresh. -/
theorem flags_fresh {p q : FlagPool} {as : List FlagAct} {d : Int} (hp : p.Quiet)
    (h : Run FlagPool.step (fun p x => FlagPool.prompt d p x = true) p as q) {a : Ask}
    {enabled : Bool} (ha : .inside a (.answered enabled) ∈ q.threads) :
    ∃ τ flags, p.Was as τ flags ∧ a.began - cacheTtl - 2 * d ≤ τ ∧ τ ≤ q.shared.now ∧
      enabled = (flags a.key).getD a.dflt := by
  have hsound : ∃ o, q.Sound (p.Was as) d o := by
    refine h.visits.invariant (I := fun q => ∃ o, FlagPool.Sound (p.Was as) d q o) ?_
      ⟨none, hp.sound⟩
    rintro u x ⟨o, hu⟩ ⟨hprompt, pre, hpre, heq⟩
    exact hu.step hprompt ⟨pre, hpre, by rw [heq], by rw [heq]⟩
  obtain ⟨o, hq⟩ := hsound
  obtain ⟨τ, flags, hwas, hτ, hbegan, heq⟩ := (hq.asks a _ ha).place
  exact ⟨τ, flags, hwas, by omega, hτ, heq⟩

/-- A process that has just started. -/
def fixture : FlagPool := ⟨⟨seconds 20, fun k => if k = "maps" then some true else none,
  fun _ => none, 0⟩, []⟩

/-- A request reads the toggles, another process turns one off, and ten seconds later a request is
still told that it is on. -/
def fixtureActs : List FlagAct :=
  .spawn (.isEnabled "maps" false) :: List.replicate 7 (.exec 0 (seconds 20)) ++
    [.spawn (.elsewhere "maps" (some false)), .exec 1 (seconds 21),
      .spawn (.isEnabled "maps" false)] ++ List.replicate 4 (.exec 2 (seconds 31))

theorem flags_fresh_fixture : ∃ τ flags, fixture.Was fixtureActs τ flags ∧
    seconds 31 - cacheTtl - 2 * seconds 1 ≤ τ ∧
    τ ≤ (fixtureActs.foldl FlagPool.step fixture).shared.now ∧
    true = (flags "maps").getD false :=
  flags_fresh (d := seconds 1) (a := ⟨"maps", false, fun k => if k = "maps" then some false else
      if k = "maps" then some true else none, seconds 31⟩)
    ⟨rfl, by decide, fun _ _ => List.not_mem_nil⟩ (Run.of_admits (by decide))
    (List.mem_of_getElem? (i := 2) rfl)

end FeatureFlag

end AeroXProtect
