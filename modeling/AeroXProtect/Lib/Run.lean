import Mathlib.Data.List.Induction
import Mathlib.Tactic.Common

/-!
# Runs of a transition function

`Run step ok s as t`: the actions `as` lead from `s` to `t`, each taken in a state that admits it.
The guard `ok` carries what the environment promises (a clock that does not go back, fresh names)
and, where a law holds only under a condition, that condition on the state before each step.
`Run.invariant` is the rule every safety result uses: what holds at the start and is kept by every
admitted step holds at the end of every run. `occurs` and `latest` are for laws about the order of
events in a log that a run keeps.
-/

namespace Lib

section
variable {σ α : Type}

/-- The actions `as` lead from one state to another, each admitted by `ok` where it is taken. -/
inductive Run (step : σ → α → σ) (ok : σ → α → Prop) : σ → List α → σ → Prop
  | nil {s : σ} : Run step ok s [] s
  | cons {s t : σ} {a : α} {as : List α} : ok s a → Run step ok (step s a) as t →
      Run step ok s (a :: as) t

variable {step : σ → α → σ} {ok : σ → α → Prop} {s t : σ} {as : List α}

/-- A property that holds at the start and that every admitted step keeps holds at the end. -/
theorem Run.invariant {I : σ → Prop} (h : Run step ok s as t)
    (hstep : ∀ s a, I s → ok s a → I (step s a)) (hs : I s) : I t := by
  induction h with
  | nil => exact hs
  | cons hok _ ih => exact ih (hstep _ _ hs hok)

/-- A run under a guard is one under a weaker guard. -/
theorem Run.mono {ok' : σ → α → Prop} (h : Run step ok s as t) (himp : ∀ s a, ok s a → ok' s a) :
    Run step ok' s as t := by
  induction h with
  | nil => exact .nil
  | cons hok _ ih => exact .cons (himp _ _ hok) ih

/-- A property that a step from a state with it keeps exactly if the step is admitted holds in every
state of a run exactly if every step of the run is admitted. -/
theorem forall_prefix_iff {I : σ → Prop} (hstep : ∀ s a, I s → (I (step s a) ↔ ok s a)) (hs : I s) :
    (∀ pre, pre <+: as → I (pre.foldl step s)) ↔
      ∀ pre a, pre ++ [a] <+: as → ok (pre.foldl step s) a := by
  constructor
  · intro h pre a hpre
    have hlast := h _ hpre
    rw [List.foldl_append] at hlast
    exact (hstep _ _ (h pre ((List.prefix_append pre [a]).trans hpre))).1 hlast
  · intro h pre
    induction pre using List.reverseRecOn with
    | nil => exact fun _ => hs
    | append_singleton pre a ih =>
      intro hpre
      rw [List.foldl_append]
      exact (hstep _ _ (ih ((List.prefix_append pre [a]).trans hpre))).2 (h pre a hpre)

/-- The same where a stronger invariant carries the property: admitted steps keep the invariant, and
a step that keeps the property is admitted. -/
theorem forall_prefix_iff_of_invariant {I J : σ → Prop} (hkeep : ∀ s a, J s → ok s a → J (step s a))
    (hneed : ∀ s a, J s → I (step s a) → ok s a) (himp : ∀ s, J s → I s) (hs : J s) :
    (∀ pre, pre <+: as → I (pre.foldl step s)) ↔
      ∀ pre a, pre ++ [a] <+: as → ok (pre.foldl step s) a := by
  have hJ : (∀ pre a, pre ++ [a] <+: as → ok (pre.foldl step s) a) →
      ∀ pre, pre <+: as → J (pre.foldl step s) := by
    intro hok pre
    induction pre using List.reverseRecOn with
    | nil => exact fun _ => hs
    | append_singleton pre a ih =>
      intro hpre
      rw [List.foldl_append]
      exact hkeep _ _ (ih ((List.prefix_append pre [a]).trans hpre)) (hok pre a hpre)
  constructor
  · intro h pre
    -- the first step that is not admitted would be taken in a state with the invariant
    suffices hpre : pre <+: as → J (pre.foldl step s) by
      intro a ha
      refine hneed _ a (hpre ((List.prefix_append pre [a]).trans ha)) ?_
      have hlast := h _ ha
      rwa [List.foldl_append] at hlast
    induction pre using List.reverseRecOn with
    | nil => exact fun _ => hs
    | append_singleton pre a ih =>
      intro hpre
      have hbefore := ih ((List.prefix_append pre [a]).trans hpre)
      have hafter := h _ hpre
      rw [List.foldl_append] at hafter ⊢
      exact hkeep _ _ hbefore (hneed _ a hbefore hafter)
  · exact fun hok pre hpre => himp _ (hJ hok pre hpre)

/-- The same for a property of the actions that were taken. -/
theorem forall_history_iff {I : List α → Prop} {ok : List α → α → Prop}
    (hstep : ∀ h a, I h → (I (h ++ [a]) ↔ ok h a)) (hs : I []) :
    (∀ pre, pre <+: as → I pre) ↔ ∀ pre a, pre ++ [a] <+: as → ok pre a := by
  have hself : ∀ l : List α, l.foldl (fun h a => h ++ [a]) [] = l := by
    intro l
    induction l using List.reverseRecOn with
    | nil => rfl
    | append_singleton l a ih => rw [List.foldl_append, ih]; rfl
  have h : (∀ pre, pre <+: as → I (pre.foldl (fun h a => h ++ [a]) [])) ↔
      ∀ pre a, pre ++ [a] <+: as → ok (pre.foldl (fun h a => h ++ [a]) []) a :=
    forall_prefix_iff hstep hs
  simp only [hself] at h
  exact h

/-- A part of the state that only some of the actions change, each by itself, after a run: these
actions alone make it. -/
theorem foldl_view {τ : Type} (view : σ → τ) (mine : α → Bool) (move : τ → α → τ)
    (hmine : ∀ s, ∀ a ∈ as, mine a = true → view (step s a) = move (view s) a)
    (hother : ∀ s, ∀ a ∈ as, mine a = false → view (step s a) = view s) :
    view (as.foldl step s) = (as.filter mine).foldl move (view s) := by
  induction as generalizing s with
  | nil => rfl
  | cons a as ih =>
    rw [List.foldl_cons, ih (fun s b hb => hmine s b (.tail _ hb))
      fun s b hb => hother s b (.tail _ hb)]
    cases h : mine a with
    | true => rw [List.filter_cons_of_pos h, List.foldl_cons, hmine s a (.head _) h]
    | false => rw [List.filter_cons_of_neg (by simp [h]), hother s a (.head _) h]

/-- The same where each action is a list of moves of the part. -/
theorem foldl_view_flatMap {τ β : Type} (view : σ → τ) (moves : α → List β) (move : τ → β → τ)
    (h : ∀ s, ∀ a ∈ as, view (step s a) = (moves a).foldl move (view s)) :
    view (as.foldl step s) = (as.flatMap moves).foldl move (view s) := by
  induction as generalizing s with
  | nil => rfl
  | cons a as ih =>
    rw [List.foldl_cons, ih fun s b hb => h s b (.tail _ hb), List.flatMap_cons,
      List.foldl_append, h s a (.head _)]

/-- A guard on every step of a run, step by step. -/
theorem forall_prefix_cons {a : α} : (∀ pre b, pre ++ [b] <+: a :: as → ok (pre.foldl step s) b) ↔
    ok s a ∧ ∀ pre b, pre ++ [b] <+: as → ok (pre.foldl step (step s a)) b := by
  constructor
  · intro h
    exact ⟨h [] a ⟨as, rfl⟩, fun pre b hpre => h (a :: pre) b (List.prefix_cons_inj a |>.2 hpre)⟩
  · rintro ⟨hhead, htail⟩ pre b hpre
    cases pre with
    | nil =>
      obtain ⟨rest, heq⟩ := hpre
      obtain rfl : b = a := (List.cons.inj heq).1
      exact hhead
    | cons c pre =>
      rw [List.cons_append, List.cons_prefix_cons] at hpre
      obtain ⟨rfl, hpre⟩ := hpre
      exact htail pre b hpre

theorem forall_prefix_nil : ∀ pre b, pre ++ [b] <+: ([] : List α) → ok (pre.foldl step s) b := by
  intro pre b hpre
  exact absurd (List.prefix_nil.1 hpre) (by simp)

/-- A guard that can be evaluated, checked along a list of actions. -/
def admits (step : σ → α → σ) (ok : σ → α → Bool) : σ → List α → Bool
  | _, [] => true
  | s, a :: as => ok s a && admits step ok (step s a) as

/-- Actions that pass the check are a run. -/
theorem Run.of_admits {ok : σ → α → Bool} (h : admits step ok s as = true) :
    Run step (fun s a => ok s a = true) s as (as.foldl step s) := by
  induction as generalizing s with
  | nil => exact .nil
  | cons a as ih =>
    rw [admits, Bool.and_eq_true] at h
    exact .cons h.1 (ih h.2)

/-- Every step of actions that pass the check is admitted. -/
theorem forall_prefix_of_admits {ok : σ → α → Bool} (h : admits step ok s as = true) :
    ∀ pre a, pre ++ [a] <+: as → ok (pre.foldl step s) a = true := by
  induction as generalizing s with
  | nil => exact @forall_prefix_nil _ _ step (fun s a => ok s a = true) s
  | cons a as ih =>
    rw [admits, Bool.and_eq_true] at h
    exact (@forall_prefix_cons _ _ step (fun s a => ok s a = true) s as a).2 ⟨h.1, ih h.2⟩

end

/-- In a log kept newest first there is an event that satisfies `p`, which is also given the log
before that event. -/
def occurs {ε : Type} (p : ε → List ε → Bool) : List ε → Bool
  | [] => false
  | e :: before => p e before || occurs p before

@[simp] theorem occurs_cons {ε : Type} (p : ε → List ε → Bool) (e : ε) (log : List ε) :
    occurs p (e :: log) = (p e log || occurs p log) := rfl

section
variable {ε : Type} {p : ε → Option Bool}

/-- What the newest event that says something says, and `false` when none does. -/
def latest (p : ε → Option Bool) (log : List ε) : Bool := (log.findSome? p).getD false

@[simp] theorem latest_nil : latest p ([] : List ε) = false := rfl

@[simp] theorem latest_cons (e : ε) (log : List ε) :
    latest p (e :: log) = (p e).getD (latest p log) := by
  unfold latest
  rw [List.findSome?_cons]
  cases p e <;> rfl

/-- In a log in which no event says no, the answer is whether one says yes. -/
theorem latest_eq_true_iff {log : List ε} (h : ∀ e ∈ log, p e ≠ some false) :
    latest p log = true ↔ ∃ e ∈ log, p e = some true := by
  induction log with
  | nil => simp
  | cons e log ih =>
    have hrest := ih fun e he => h e (.tail _ he)
    cases he : p e with
    | none => simp [he, hrest]
    | some b =>
      cases b with
      | true => simp [he]
      | false => exact absurd he (h e (.head _))

/-- Events that say nothing do not change the answer. -/
theorem latest_append (events log : List ε) (h : ∀ e ∈ events, p e = none) :
    latest p (events ++ log) = latest p log := by
  induction events with
  | nil => rfl
  | cons e events ih =>
    rw [List.cons_append, latest_cons, h e (.head _), Option.getD_none]
    exact ih fun e he => h e (.tail _ he)

end

end Lib
