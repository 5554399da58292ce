import Mathlib.Data.List.Basic
import Mathlib.Tactic.Common

/-!
# Threads over a shared store

A `Pool` is a shared store and a list of threads. An action starts a thread or lets one thread
execute its next statement, which reads and writes the store atomically; the scheduler chooses which
thread goes next, so a run of `Pool.step` is an interleaving at the granularity of statements. A
thread that has finished stays in the list with its answer. `Pool.step_cases` is the inversion every
invariant is proved from, `Pool.forall_step` the invariant rule for a property of the threads,
`Pool.countP_exec` what a statement does to the number of threads in a given kind of state, and
`Pool.alone` a thread that is not interrupted.
-/

namespace Lib

/-- A store shared by threads. -/
structure Pool (σ τ : Type) where
  shared : σ
  threads : List τ

/-- What the scheduler does: start a thread for a request, or let a thread execute a statement in
the environment `e`. -/
inductive PoolAct (ρ ε : Type)
  | spawn (r : ρ)
  | exec (i : Nat) (e : ε)

namespace Pool

section
variable {σ τ ρ ε : Type} {start : ρ → τ} {exec : σ → τ → ε → σ × τ} {p : Pool σ τ}

/-- One action of the scheduler. -/
def step (start : ρ → τ) (exec : σ → τ → ε → σ × τ) (p : Pool σ τ) : PoolAct ρ ε → Pool σ τ
  | .spawn r => ⟨p.shared, p.threads ++ [start r]⟩
  | .exec i e =>
    match p.threads[i]? with
    | none => p
    | some t => ⟨(exec p.shared t e).1, p.threads.set i (exec p.shared t e).2⟩

/-- A statement of the thread `t` at position `i`. -/
theorem step_exec {i : Nat} {t : τ} (h : p.threads[i]? = some t) (e : ε) :
    p.step start exec (.exec i e) =
      ⟨(exec p.shared t e).1, p.threads.set i (exec p.shared t e).2⟩ := by
  simp [step, h]

/-- What one action does: nothing, a new thread, or a statement of one thread. -/
theorem step_cases (p : Pool σ τ) (a : PoolAct ρ ε) :
    p.step start exec a = p ∨
    (∃ r, a = .spawn r ∧ p.step start exec a = ⟨p.shared, p.threads ++ [start r]⟩) ∨
    (∃ i e t, a = .exec i e ∧ p.threads[i]? = some t ∧ p.step start exec a =
      ⟨(exec p.shared t e).1, p.threads.set i (exec p.shared t e).2⟩) := by
  cases a with
  | spawn r => exact .inr (.inl ⟨r, rfl, rfl⟩)
  | exec i e =>
    cases h : p.threads[i]? with
    | none => exact .inl (by simp [step, h])
    | some t => exact .inr (.inr ⟨i, e, t, rfl, h, step_exec h e⟩)

/-- How many threads are in a kind of state after one of them moved. -/
theorem countP_exec {i : Nat} {t : τ} {l : List τ} (q : τ → Bool) (h : l[i]? = some t) (t' : τ) :
    (l.set i t').countP q + (if q t then 1 else 0) = l.countP q + (if q t' then 1 else 0) := by
  obtain ⟨hi, rfl⟩ := List.getElem?_eq_some_iff.1 h
  rw [List.countP_set hi]
  cases hq : q l[i] with
  | true =>
    have : 0 < l.countP q := List.countP_pos_iff.2 ⟨l[i], List.getElem_mem hi, hq⟩
    rw [if_pos rfl]
    omega
  | false => simp

/-- A thread after one of them moved is a thread from before, or the one that moved. -/
theorem mem_exec {i : Nat} {t u : τ} {l : List τ} (h : l[i]? = some t) (t' : τ) (hu : u ∈ l) :
    u = t ∨ u ∈ l.set i t' := by
  obtain ⟨j, hj, rfl⟩ := List.getElem_of_mem hu
  obtain ⟨hi, rfl⟩ := List.getElem?_eq_some_iff.1 h
  rcases eq_or_ne i j with rfl | hij
  · exact .inl rfl
  · refine .inr (List.mem_iff_getElem.2 ⟨j, by rwa [List.length_set], ?_⟩)
    rw [List.getElem_set_of_ne hij]

/-- The thread that moved is there. -/
theorem mem_exec_self {i : Nat} {t t' : τ} {l : List τ} (h : l[i]? = some t) : t' ∈ l.set i t' :=
  List.mem_set (List.getElem?_eq_some_iff.1 h).1 t'

/-- A property of all threads that a new one has too. -/
theorem forall_spawn {P : τ → Prop} {l : List τ} {t : τ} (hl : ∀ u ∈ l, P u) (ht : P t) :
    ∀ u ∈ l ++ [t], P u :=
  List.forall_mem_append.2 ⟨hl, List.forall_mem_singleton.2 ht⟩

/-- A property of all threads that the one that moved has still. -/
theorem forall_exec {P : τ → Prop} {i : Nat} {l : List τ} {t' : τ} (hl : ∀ u ∈ l, P u)
    (ht' : P t') : ∀ u ∈ l.set i t', P u :=
  fun u hu => (List.mem_or_eq_of_mem_set hu).elim (hl u) fun heq => heq ▸ ht'

/-- A property of all threads: a new one has it, and a statement keeps it. -/
theorem forall_step {P : τ → Prop} (a : PoolAct ρ ε) (hp : ∀ t ∈ p.threads, P t)
    (hstart : ∀ r, P (start r)) (hexec : ∀ t e, P t → P (exec p.shared t e).2) :
    ∀ t ∈ (p.step start exec a).threads, P t := by
  rcases p.step_cases a with heq | ⟨r, -, heq⟩ | ⟨i, e, t, -, ht, heq⟩ <;> rw [heq]
  · exact hp
  · exact forall_spawn hp (hstart r)
  · exact forall_exec hp (hexec t e (hp t (List.mem_of_getElem? ht)))

/-- At each position after one thread moved: that thread, or the thread from before. -/
theorem getElem?_exec {i j : Nat} {t' u : τ} {l : List τ} (h : (l.set i t')[j]? = some u) :
    j = i ∧ u = t' ∨ j ≠ i ∧ l[j]? = some u := by
  rw [List.getElem?_set] at h
  split at h
  · next hij =>
    split at h
    · exact .inl ⟨hij.symm, (Option.some_inj.1 h).symm⟩
    · cases h
  · next hij => exact .inr ⟨Ne.symm hij, h⟩

/-- At each position after a thread was started: a thread from before, or the new one at the end. -/
theorem getElem?_spawn {j : Nat} {t u : τ} {l : List τ} (h : (l ++ [t])[j]? = some u) :
    l[j]? = some u ∨ j = l.length ∧ u = t := by
  rcases Nat.lt_or_ge j l.length with hlt | hge
  · exact .inl (by rwa [List.getElem?_append_left hlt] at h)
  · rw [List.getElem?_append_right hge, List.getElem?_singleton] at h
    split at h
    · next hj => exact .inr ⟨by omega, (Option.some_inj.1 h).symm⟩
    · cases h

/-- What the threads have put down, after one of them moved and put down `new`. -/
theorem perm_flatMap_exec {β : Type} {i : Nat} {t t' : τ} {l : List τ} (f : τ → List β)
    (h : l[i]? = some t) {new : List β} (ht : (f t').Perm (new ++ f t)) :
    ((l.set i t').flatMap f).Perm (new ++ l.flatMap f) := by
  induction l generalizing i with
  | nil => cases h
  | cons u l ih =>
    cases i with
    | zero =>
      cases h
      rw [List.set_cons_zero, List.flatMap_cons, List.flatMap_cons, ← List.append_assoc]
      exact ht.append_right _
    | succ i =>
      rw [List.set_cons_succ, List.flatMap_cons, List.flatMap_cons]
      refine ((ih (by simpa using h)).append_left _).trans ?_
      rw [← List.append_assoc, ← List.append_assoc]
      exact List.perm_append_comm.append_right _

/-- So many statements of one thread, all in the environment `e`, without an interruption. -/
def alone (exec : σ → τ → ε → σ × τ) (e : ε) : Nat → σ × τ → σ × τ
  | 0, x => x
  | n + 1, x => alone exec e n (exec x.1 x.2 e)

theorem alone_add (e : ε) (m n : Nat) (x : σ × τ) :
    alone exec e (m + n) x = alone exec e n (alone exec e m x) := by
  induction m generalizing x with
  | zero => rw [Nat.zero_add, alone]
  | succ m ih => rw [Nat.succ_add, alone, ih, alone]

/-- A thread that does nothing more. -/
theorem alone_of_fixed {e : ε} {s : σ} {t : τ} (h : exec s t e = (s, t)) (n : Nat) :
    alone exec e n (s, t) = (s, t) := by
  induction n with
  | zero => rfl
  | succ n ih => rw [alone, h, ih]

end

end Pool

end Lib
