import Mathlib.Data.List.Basic
import Mathlib.Data.List.Induction
import Mathlib.Tactic.Common

/-!
# Greedy choice

Candidates are looked at one after the other, and a candidate is chosen unless it clashes with one
that was chosen before. Of the chosen no two clash (`pairwise_greedy`), and a candidate that is
passed over clashes with a chosen one that comes before it (`greedy_covers`), so that in a list
sorted by rank it clashes with one of no lower rank.
-/

namespace Lib

section
variable {γ : Type} (clash : γ → γ → Bool)

/-- One candidate is looked at. -/
def choose (chosen : List γ) (p : γ) : List γ :=
  if chosen.any (clash p) then chosen else chosen ++ [p]

/-- The chosen candidates. -/
def greedy (l : List γ) : List γ := l.foldl (choose clash) []

variable {clash} {l : List γ} {p : γ}

theorem greedy_append_singleton (l : List γ) (p : γ) :
    greedy clash (l ++ [p]) = choose clash (greedy clash l) p := by
  rw [greedy, List.foldl_append]
  rfl

/-- Only candidates are chosen, in their order. -/
theorem greedy_sublist (l : List γ) : (greedy clash l).Sublist l := by
  induction l using List.reverseRecOn with
  | nil => exact .slnil
  | append_singleton l p ih =>
    rw [greedy_append_singleton, choose]
    split
    · exact ih.trans (List.sublist_append_left l [p])
    · exact ih.append (.refl [p])

theorem mem_of_mem_greedy (h : p ∈ greedy clash l) : p ∈ l := (greedy_sublist l).subset h

/-- No two of the chosen clash. -/
theorem pairwise_greedy (clash : γ → γ → Bool) (l : List γ) :
    (greedy clash l).Pairwise fun a b => clash b a = false := by
  induction l using List.reverseRecOn with
  | nil => exact .nil
  | append_singleton l p ih =>
    rw [greedy_append_singleton, choose]
    split
    · exact ih
    · next hfree =>
      refine List.pairwise_append.2 ⟨ih, List.pairwise_singleton _ _, fun a ha b hb => ?_⟩
      rw [List.mem_singleton.1 hb]
      simpa using fun hclash => hfree (List.any_eq_true.2 ⟨a, ha, hclash⟩)

/-- A candidate is chosen, or it clashes with a chosen one before it. -/
theorem greedy_covers (clash : γ → γ → Bool) {R : γ → γ → Prop} (h : l.Pairwise R) (hp : p ∈ l) :
    p ∈ greedy clash l ∨ ∃ q ∈ greedy clash l, clash p q = true ∧ R q p := by
  induction l using List.reverseRecOn with
  | nil => cases hp
  | append_singleton l x ih =>
    obtain ⟨hl, -, hlast⟩ := List.pairwise_append.1 h
    have hkeep : ∀ q ∈ greedy clash l, q ∈ choose clash (greedy clash l) x := fun q hq => by
      unfold choose
      split
      · exact hq
      · exact List.mem_append_left _ hq
    rw [greedy_append_singleton]
    rcases List.mem_append.1 hp with hp | hp
    · exact (ih hl hp).imp (hkeep p) fun ⟨q, hq, hclash⟩ => ⟨q, hkeep q hq, hclash⟩
    · obtain rfl := List.mem_singleton.1 hp
      by_cases hany : (greedy clash l).any (clash p) = true
      · obtain ⟨q, hq, hclash⟩ := List.any_eq_true.1 hany
        exact .inr ⟨q, hkeep q hq, hclash, hlast q (mem_of_mem_greedy hq) p (.head _)⟩
      · left
        rw [choose, if_neg hany]
        exact List.mem_append_right _ (.head _)

end

end Lib
