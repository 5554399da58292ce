import AeroXProtect.Lib.Clock
import AeroXProtect.Lib.Interleave
import AeroXProtect.Lib.Run

/-!
# The cooldown of a flow

`on_trigger` goes through the flows that a trigger matches: it asks Redis whether the cooldown key
of the flow is there, and if not it writes the key and starts a run. The two commands are apart, and
any number of workers dispatch at once (`Lib.Pool`): two of them may both find no key, and both
start a run (`cooldown_race`). `flow_cooldown` says that nothing else goes wrong: in a run in which
no dispatch asks for the key of a flow while another one is between its two commands
(`DispatchPool.Undisturbed`), the runs of the flow are a cooldown apart, and what was dispatched
besides is logged as skipped.
-/

open Lib

namespace AeroXProtect.Flow

/-! ## Dispatches -/

/-- What a dispatch has logged for a flow, and when. -/
structure FlowLog where
  flow : Nat
  started : Bool
  time : Int
  deriving DecidableEq, Repr

/-- A call of `on_trigger`: the flows it matches, those that are still to come, what it has logged
for the others, and whether it has found no key of the first flow to come and is to write it. -/
structure Dispatch where
  flows : List Nat
  todo : List Nat
  runs : List FlowLog
  marking : Bool
  dead : Bool
  deriving DecidableEq, Repr

/-- The call before its first command. -/
def Dispatch.start (flows : List Nat) : Dispatch := ⟨flows, flows, [], false, false⟩

/-- The call is between the two commands for a flow. -/
def Dispatch.marks (f : Nat) (t : Dispatch) : Bool :=
  t.marking && decide (t.todo.head? = some f)

/-- The call logs the first flow to come and goes on to the next one. -/
def Dispatch.log (t : Dispatch) (e : FlowLog) : Dispatch :=
  { t with todo := t.todo.tail, runs := t.runs ++ [e], marking := false }

/-- The cooldown keys, and all that was logged, newest first. -/
structure FlowStore where
  now : Int
  keys : Expiring Nat
  log : List FlowLog

/-- When a command is executed, whether Redis answers, and whether the worker dies instead. -/
structure DispatchEnv where
  now : Int
  up : Bool
  dies : Bool
  deriving DecidableEq, Repr

namespace FlowStore

/-- What is logged for a flow. -/
def put (s : FlowStore) (e : FlowLog) : FlowStore := { s with log := e :: s.log }

/-- `_mark_cooldown`: Redis refuses a time to live that is not positive, and a failure is
swallowed. -/
def mark (s : FlowStore) (ttl : Int) (f : Nat) (up : Bool) : FlowStore :=
  if up ∧ 0 < ttl then { s with keys := s.keys.setex s.now f ttl } else s

/-- One command of a call, with what the call does up to the next one: a run is started after the
key has been written, and a flow without a cooldown needs no command. -/
def exec (cooldown : Nat → Int) (s : FlowStore) (t : Dispatch) (e : DispatchEnv) :
    FlowStore × Dispatch :=
  let s := { s with now := e.now }
  match t.todo with
  | [] => (s, t)
  | f :: _ =>
    if t.dead then (s, t)
    else if e.dies then (s, { t with dead := true, marking := false })
    else if cooldown f = 0 then (s.put ⟨f, true, e.now⟩, t.log ⟨f, true, e.now⟩)
    else if t.marking then
      ((s.mark (cooldown f) f e.up).put ⟨f, true, e.now⟩, t.log ⟨f, true, e.now⟩)
    -- `_within_cooldown`: a Redis that does not answer does not stop the flows
    else if e.up && s.keys.live e.now f then (s.put ⟨f, false, e.now⟩, t.log ⟨f, false, e.now⟩)
    else (s, { t with marking := true })

/-- The instants at which runs of a flow were started, newest first. -/
def starts (s : FlowStore) (f : Nat) : List Int :=
  (s.log.filter fun e => e.started && decide (e.flow = f)).map (·.time)

end FlowStore

abbrev DispatchPool := Pool FlowStore Dispatch

abbrev DispatchAct := PoolAct (List Nat) DispatchEnv

namespace DispatchPool

/-- One action of the scheduler. -/
def step (cooldown : Nat → Int) (p : DispatchPool) (a : DispatchAct) : DispatchPool :=
  Pool.step Dispatch.start (FlowStore.exec cooldown) p a

/-- The clock does not go back, and Redis answers. -/
def answers (p : DispatchPool) : DispatchAct → Bool
  | .spawn _ => true
  | .exec _ e => decide (p.shared.now ≤ e.now) && e.up

/-- The clock does not go back, Redis answers where a call is at the flow `f`, and no call asks for
its key while another one is between its two commands for the flow. -/
def undisturbed (f : Nat) (p : DispatchPool) : DispatchAct → Bool
  | .spawn _ => true
  | .exec i e => decide (p.shared.now ≤ e.now) &&
      (p.threads[i]?).all fun t => !decide (t.todo.head? = some f) ||
        e.up && (t.marking || p.threads.all fun u => !u.marks f)

/-- Before the first dispatch. -/
def start (now : Int) (keys : Expiring Nat) : DispatchPool := ⟨⟨now, keys, []⟩, []⟩

end DispatchPool

/-! ## One command -/

section
variable {cooldown : Nat → Int} {s : FlowStore} {t : Dispatch} {e : DispatchEnv} {f : Nat}

/-- What a command does: nothing, or the worker dies, or the call logs the first flow to come (one
without a cooldown, one whose key it has just written, one whose key it has found), or it has found
no key. -/
theorem FlowStore.exec_cases (cooldown : Nat → Int) (s : FlowStore) (t : Dispatch)
    (e : DispatchEnv) :
    s.exec cooldown t e = ({ s with now := e.now }, t) ∨
    s.exec cooldown t e =
      ({ s with now := e.now }, { t with dead := true, marking := false }) ∨
    ∃ f rest, t.todo = f :: rest ∧ (
      cooldown f = 0 ∧ s.exec cooldown t e =
        (({ s with now := e.now } : FlowStore).put ⟨f, true, e.now⟩, t.log ⟨f, true, e.now⟩) ∨
      t.marking = true ∧ s.exec cooldown t e =
        ((({ s with now := e.now } : FlowStore).mark (cooldown f) f e.up).put ⟨f, true, e.now⟩,
          t.log ⟨f, true, e.now⟩) ∨
      s.exec cooldown t e =
        (({ s with now := e.now } : FlowStore).put ⟨f, false, e.now⟩, t.log ⟨f, false, e.now⟩) ∨
      t.marking = false ∧ (e.up && s.keys.live e.now f) = false ∧
        s.exec cooldown t e = ({ s with now := e.now }, { t with marking := true })) := by
  unfold FlowStore.exec
  cases htodo : t.todo with
  | nil => exact .inl rfl
  | cons f rest =>
    simp only
    split_ifs with hdead hdies hzero hmark hlive
    · exact .inl rfl
    · exact .inr (.inl rfl)
    · exact .inr (.inr ⟨f, rest, rfl, .inl ⟨hzero, rfl⟩⟩)
    · exact .inr (.inr ⟨f, rest, rfl, .inr (.inl ⟨hmark, rfl⟩)⟩)
    · exact .inr (.inr ⟨f, rest, rfl, .inr (.inr (.inl rfl))⟩)
    · exact .inr (.inr ⟨f, rest, rfl, .inr (.inr (.inr
        ⟨Bool.eq_false_iff.2 hmark, Bool.eq_false_iff.2 hlive, rfl⟩))⟩)

@[simp] theorem FlowStore.starts_put {x : FlowLog} : (s.put x).starts f =
    if x.started = true ∧ x.flow = f then x.time :: s.starts f else s.starts f := by
  simp only [starts, put, List.filter_cons, Bool.and_eq_true, decide_eq_true_eq]
  split <;> rfl

@[simp] theorem FlowStore.starts_now {now : Int} :
    ({ s with now } : FlowStore).starts f = s.starts f := rfl

@[simp] theorem FlowStore.starts_mark {ttl : Int} {g : Nat} {up : Bool} :
    (s.mark ttl g up).starts f = s.starts f := by
  unfold mark
  split <;> rfl

theorem FlowStore.now_mark {ttl : Int} {g : Nat} {up : Bool} : (s.mark ttl g up).now = s.now := by
  unfold mark
  split <;> rfl

/-- Writing the key of another flow. -/
theorem FlowStore.expiry_mark_of_ne {ttl : Int} {g : Nat} {up : Bool} (h : f ≠ g) :
    (s.mark ttl g up).keys.expiry f = s.keys.expiry f := by
  unfold mark
  split
  · exact Expiring.expiry_setex_of_ne h
  · rfl

theorem FlowStore.expiry_mark {ttl : Int} (h : 0 < ttl) :
    (s.mark ttl f true).keys.expiry f = some (s.now + seconds ttl) := by
  rw [mark, if_pos ⟨rfl, h⟩]
  exact Expiring.expiry_setex_self _ _ _ _

@[simp] theorem Dispatch.marks_log {x : FlowLog} : (t.log x).marks f = false := rfl

/-! ## The log -/

/-- The log is what the calls have logged, and a call whose worker lives has logged the flows it
matches up to those still to come. -/
structure LogInv (p : DispatchPool) : Prop where
  perm : p.shared.log.Perm (p.threads.flatMap (·.runs))
  calls : ∀ t ∈ p.threads, t.runs.map (·.flow) ++ t.todo = t.flows

variable {p : DispatchPool}

/-- A command logs as much in the store as in the call. -/
theorem FlowStore.exec_log (cooldown : Nat → Int) (s : FlowStore) (t : Dispatch)
    (e : DispatchEnv) : ∃ new, (s.exec cooldown t e).1.log = new ++ s.log ∧
      ((s.exec cooldown t e).2.runs).Perm (new ++ t.runs) ∧
      (t.runs.map (·.flow) ++ t.todo = t.flows →
        (s.exec cooldown t e).2.runs.map (·.flow) ++ (s.exec cooldown t e).2.todo =
          (s.exec cooldown t e).2.flows) := by
  have hmark : ∀ (s : FlowStore) ttl f up, (s.mark ttl f up).log = s.log := by
    intro s ttl f up
    unfold mark
    split <;> rfl
  have hlog : ∀ f rest (b : Bool), t.todo = f :: rest →
      (t.log ⟨f, b, e.now⟩).runs.Perm ([⟨f, b, e.now⟩] ++ t.runs) ∧
        (t.runs.map (·.flow) ++ t.todo = t.flows →
          (t.log ⟨f, b, e.now⟩).runs.map (·.flow) ++ (t.log ⟨f, b, e.now⟩).todo =
            (t.log ⟨f, b, e.now⟩).flows) := by
    intro f rest b htodo
    refine ⟨List.perm_append_comm, fun h => ?_⟩
    simpa [Dispatch.log, htodo] using h
  rcases s.exec_cases cooldown t e with h | h | ⟨f, rest, htodo, h⟩
  · exact ⟨[], by rw [h]; rfl, by rw [h]; rfl, by rw [h]; exact id⟩
  · exact ⟨[], by rw [h]; rfl, by rw [h]; rfl, by rw [h]; exact id⟩
  rcases h with ⟨-, h⟩ | ⟨-, h⟩ | h | ⟨-, -, h⟩
  · exact ⟨[⟨f, true, e.now⟩], by rw [h]; rfl, by rw [h]; exact hlog f rest true htodo⟩
  · refine ⟨[⟨f, true, e.now⟩], ?_, by rw [h]; exact hlog f rest true htodo⟩
    rw [h, FlowStore.put, hmark]
    rfl
  · exact ⟨[⟨f, false, e.now⟩], by rw [h]; rfl, by rw [h]; exact hlog f rest false htodo⟩
  · exact ⟨[], by rw [h]; rfl, by rw [h]; rfl, by rw [h]; exact id⟩

theorem LogInv.step (h : LogInv p) (a : DispatchAct) : LogInv (p.step cooldown a) := by
  unfold DispatchPool.step
  rcases Pool.step_cases p a with heq | ⟨flows, -, heq⟩ | ⟨i, e, t, -, ht, heq⟩
  · rw [heq]
    exact h
  · rw [heq]
    exact ⟨by simpa [Dispatch.start] using h.perm, Pool.forall_spawn h.calls rfl⟩
  · rw [heq]
    obtain ⟨new, hlog, hruns, hcall⟩ := p.shared.exec_log cooldown t e
    refine ⟨?_, Pool.forall_exec h.calls (hcall (h.calls t (List.mem_of_getElem? ht)))⟩
    rw [hlog]
    exact (h.perm.append_left new).trans (Pool.perm_flatMap_exec _ ht hruns).symm

/-! ## The starts -/

/-- The runs of the flow are a cooldown apart, the key lives for a cooldown after the last one, and
at most one call is between its two commands, which then has found the last cooldown over. -/
structure CooldownInv (cooldown : Nat → Int) (f : Nat) (p : DispatchPool) : Prop where
  apart : (p.shared.starts f).Pairwise fun later earlier =>
    earlier + seconds (cooldown f) ≤ later
  key : ∀ a ∈ (p.shared.starts f).head?,
    p.shared.keys.expiry f = some (a + seconds (cooldown f))
  one : p.threads.countP (Dispatch.marks f) ≤ 1
  ended : 0 < p.threads.countP (Dispatch.marks f) →
    ∀ a ∈ (p.shared.starts f).head?, a + seconds (cooldown f) ≤ p.shared.now

/-- A start that is a cooldown behind the last one. -/
theorem pairwise_starts_cons {c now : Int} {l : List Int} (hc : 0 ≤ c)
    (h : l.Pairwise fun later earlier => earlier + c ≤ later)
    (hlast : ∀ a ∈ l.head?, a + c ≤ now) :
    (now :: l).Pairwise fun later earlier => earlier + c ≤ later := by
  refine List.pairwise_cons.2 ⟨fun b hb => ?_, h⟩
  cases l with
  | nil => cases hb
  | cons a l =>
    have ha := hlast a rfl
    rcases List.mem_cons.1 hb with rfl | hb
    · exact ha
    · have hab := (List.pairwise_cons.1 h).1 b hb
      omega

/-- Only the clock, and calls that are not between two commands, change. -/
theorem CooldownInv.later (h : CooldownInv cooldown f p) {s' : FlowStore} {l : List Dispatch}
    (hle : p.shared.now ≤ s'.now) (hstarts : s'.starts f = p.shared.starts f)
    (hkey : s'.keys.expiry f = p.shared.keys.expiry f)
    (hcount : l.countP (Dispatch.marks f) ≤ p.threads.countP (Dispatch.marks f)) :
    CooldownInv cooldown f ⟨s', l⟩ where
  apart := by rw [hstarts]; exact h.apart
  key := by rw [hstarts, hkey]; exact h.key
  one := Nat.le_trans hcount h.one
  ended hpos a ha := by
    rw [hstarts] at ha
    exact Int.le_trans (h.ended (Nat.lt_of_lt_of_le hpos hcount) a ha) hle

/-- A call that moves without getting between its two commands for the flow. -/
theorem countP_marks_le {i : Nat} {t' : Dispatch} {l : List Dispatch} (h : l[i]? = some t)
    (ht' : t'.marks f = true → t.marks f = true) :
    (l.set i t').countP (Dispatch.marks f) ≤ l.countP (Dispatch.marks f) := by
  have hcount := Pool.countP_exec (Dispatch.marks f) h t'
  cases hm : t'.marks f with
  | false =>
    rw [hm] at hcount
    simp only [Bool.false_eq_true, if_false] at hcount
    omega
  | true =>
    rw [hm, ht' hm] at hcount
    omega

theorem CooldownInv.exec (hf : 0 < cooldown f) (h : CooldownInv cooldown f p) {i : Nat}
    (ht : p.threads[i]? = some t) (hle : p.shared.now ≤ e.now)
    (hup : t.todo.head? = some f → e.up = true)
    (hfree : t.todo.head? = some f → t.marking = false →
      p.threads.countP (Dispatch.marks f) = 0) :
    CooldownInv cooldown f ⟨(p.shared.exec cooldown t e).1,
      p.threads.set i (p.shared.exec cooldown t e).2⟩ := by
  have hpos : 0 ≤ seconds (cooldown f) := by
    unfold seconds
    omega
  rcases p.shared.exec_cases cooldown t e with heq | heq | ⟨g, rest, htodo, heq⟩
  · rw [heq]
    exact h.later hle rfl rfl (countP_marks_le ht id)
  · rw [heq]
    exact h.later hle rfl rfl (countP_marks_le ht (by simp [Dispatch.marks]))
  rcases heq with ⟨hzero, heq⟩ | ⟨hmark, heq⟩ | heq | ⟨hmark, hlive, heq⟩
  · have hne : g ≠ f := by
      rintro rfl
      omega
    rw [heq]
    exact h.later hle (by simp [hne]) rfl (countP_marks_le ht (by simp))
  · by_cases hgf : g = f
    · subst hgf
      have hin : t.marks g = true := by simp [Dispatch.marks, hmark, htodo]
      have hcount := Pool.countP_exec (Dispatch.marks g) ht (t.log ⟨g, true, e.now⟩)
      rw [hin, Dispatch.marks_log] at hcount
      simp only [if_true, Bool.false_eq_true, if_false] at hcount
      have hone := h.one
      have hover := h.ended (by omega)
      rw [heq, hup (by rw [htodo]; rfl)]
      refine ⟨?_, ?_, by dsimp only; omega, fun hpos => ?_⟩
      · simpa using pairwise_starts_cons hpos h.apart fun a ha => Int.le_trans (hover a ha) hle
      · intro a ha
        obtain rfl : e.now = a := by simpa using ha
        exact FlowStore.expiry_mark hf
      · dsimp only at hpos
        omega
    · rw [heq]
      refine h.later ?_ (by simp [hgf]) (FlowStore.expiry_mark_of_ne (Ne.symm hgf))
        (countP_marks_le ht (by simp))
      rw [FlowStore.put, FlowStore.now_mark]
      exact hle
  · rw [heq]
    exact h.later hle (by simp) rfl (countP_marks_le ht (by simp))
  · by_cases hgf : g = f
    · subst hgf
      have hhead : t.todo.head? = some g := by rw [htodo]; rfl
      have hzero := hfree hhead hmark
      have hcount := Pool.countP_exec (Dispatch.marks g) ht { t with marking := true }
      have hnot : t.marks g = false := by simp [Dispatch.marks, hmark]
      have hin : ({ t with marking := true } : Dispatch).marks g = true := by
        simp [Dispatch.marks, htodo]
      rw [hnot, hin] at hcount
      simp only [if_true, Bool.false_eq_true, if_false] at hcount
      rw [heq]
      refine ⟨h.apart, h.key, by dsimp only; omega, fun _ a ha => ?_⟩
      rw [hup hhead, Bool.true_and, Expiring.live, h.key a ha, decide_eq_false_iff_not] at hlive
      exact Int.le_of_lt (Int.not_le.1 hlive)
    · rw [heq]
      refine h.later hle rfl rfl (countP_marks_le ht ?_)
      simp [Dispatch.marks, htodo, hgf]

theorem CooldownInv.step (hf : 0 < cooldown f) (h : CooldownInv cooldown f p) {a : DispatchAct}
    (hok : p.undisturbed f a = true) : CooldownInv cooldown f (p.step cooldown a) := by
  unfold DispatchPool.step
  rcases Pool.step_cases p a with heq | ⟨flows, -, heq⟩ | ⟨i, e, t, rfl, ht, heq⟩
  · rw [heq]
    exact h
  · rw [heq]
    refine h.later (Int.le_refl _) rfl rfl ?_
    simp [List.countP_append, Dispatch.start, Dispatch.marks]
  · rw [heq]
    have hguard : p.shared.now ≤ e.now ∧ (t.todo.head? = some f → e.up = true ∧
        (t.marking = true ∨ ∀ u ∈ p.threads, u.marks f = false)) := by
      simp only [DispatchPool.undisturbed, ht, Option.all_some, Bool.and_eq_true, Bool.or_eq_true,
        decide_eq_true_eq, Bool.not_eq_true', decide_eq_false_iff_not, List.all_eq_true] at hok
      exact ⟨hok.1, fun hhead => hok.2.resolve_left (not_not.2 hhead)⟩
    refine h.exec hf ht hguard.1 (fun hhead => (hguard.2 hhead).1) fun hhead hmark => ?_
    rw [List.countP_eq_zero]
    intro u hu
    rw [((hguard.2 hhead).2.resolve_left (by simp [hmark])) u hu]
    exact Bool.false_ne_true

end

/-- For a flow with a cooldown: in every run in which the clock does not go back, Redis answers the
calls that are at the flow, and no call asks for the key of the flow while another one is between
its two commands, the runs of the flow are started a cooldown apart. The log is what the calls have
logged, and each call has logged the flows that it matches, one by one. -/
theorem flow_cooldown (cooldown : Nat → Int) (f : Nat) (hf : 0 < cooldown f) (now : Int)
    (keys : Expiring Nat) (as : List DispatchAct) (p : DispatchPool)
    (hrun : Run (DispatchPool.step cooldown) (fun p a => p.undisturbed f a = true)
      (.start now keys) as p) :
    ((p.shared.starts f).Pairwise fun later earlier => earlier + seconds (cooldown f) ≤ later) ∧
      p.shared.log.Perm (p.threads.flatMap (·.runs)) ∧
      ∀ t ∈ p.threads, t.runs.map (·.flow) ++ t.todo = t.flows := by
  have hcool : CooldownInv cooldown f p := hrun.invariant (fun _ _ h hok => h.step hf hok)
    ⟨.nil, nofun, Nat.zero_le _, fun h => absurd h (Nat.lt_irrefl _)⟩
  have hlog : LogInv p := hrun.invariant (fun _ a h _ => h.step a) ⟨.nil, nofun⟩
  exact ⟨hcool.apart, hlog.perm, hlog.calls⟩

namespace CooldownFixture

/-- Redis answers at an instant. -/
def at' (now : Int) : DispatchEnv := ⟨seconds now, true, false⟩

/-- Two dispatches of a flow, one after the other. -/
def inTurn : List DispatchAct :=
  [.spawn [1], .exec 0 (at' 0), .exec 0 (at' 0), .spawn [1], .exec 1 (at' 5)]

/-- Two dispatches of a flow that both ask for the key before one of them writes it. -/
def race : List DispatchAct :=
  [.spawn [1], .spawn [1], .exec 0 (at' 0), .exec 1 (at' 0), .exec 0 (at' 0), .exec 1 (at' 1)]

end CooldownFixture

open CooldownFixture in
/-- The second one of two dispatches in turn is skipped. -/
theorem flow_cooldown_inTurn :
    (inTurn.foldl (DispatchPool.step fun _ => 60) (.start 0 ∅)).shared.log =
      [⟨1, false, seconds 5⟩, ⟨1, true, seconds 0⟩] ∧
    ((inTurn.foldl (DispatchPool.step fun _ => 60) (.start 0 ∅)).shared.starts 1).Pairwise
      fun later earlier => earlier + seconds 60 ≤ later :=
  ⟨by decide, (flow_cooldown (fun _ => 60) 1 (by decide) 0 ∅ inTurn _
    (.of_admits (by decide))).1⟩

open CooldownFixture in
/-- Both dispatches of a race start a run, one second apart under a cooldown of a minute. -/
theorem cooldown_race :
    ∃ p, Run (DispatchPool.step fun _ => 60) (fun p a => p.answers a = true) (.start 0 ∅) race p ∧
      p.shared.starts 1 = [seconds 1, seconds 0] ∧
      ¬ (p.shared.starts 1).Pairwise fun later earlier => earlier + seconds 60 ≤ later :=
  ⟨_, .of_admits (by decide), by decide, by decide⟩

end AeroXProtect.Flow
