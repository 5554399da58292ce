import AeroXProtect.Lib.Interleave
import AeroXProtect.Lib.Run

/-!
# Where a state comes from

What holds at the end of a run and did not hold at its start began with one of its actions
(`exists_begin`). For threads over a shared store this names the statement that a thread's place or
an entry of the store is owed to (`Pool.exists_exec_getElem?`, `Pool.exists_exec_shared`), with the
actions before it, so that a law can speak of the state in which something was decided.
-/

namespace Lib

section
variable {σ α : Type} {step : σ → α → σ} {ok : σ → α → Prop} {s t : σ} {as : List α}

/-- A run ends where its actions lead. -/
theorem Run.foldl_eq (h : Run step ok s as t) : as.foldl step s = t := by
  induction h with
  | nil => rfl
  | cons _ _ ih => exact ih

/-- The first actions of a run are a run, and the others are a run from where they lead. -/
theorem Run.split {pre post : List α} (h : Run step ok s (pre ++ post) t) :
    Run step ok s pre (pre.foldl step s) ∧ Run step ok (pre.foldl step s) post t := by
  induction pre generalizing s with
  | nil => exact ⟨.nil, h⟩
  | cons a pre ih =>
    cases h with
    | cons hok h => exact ⟨.cons hok (ih h).1, (ih h).2⟩

/-- Each action of a run is admitted where it is taken. -/
theorem Run.ok_of_prefix {pre : List α} {a : α} (h : Run step ok s as t)
    (hpre : pre ++ [a] <+: as) :
    Run step ok s pre (pre.foldl step s) ∧ ok (pre.foldl step s) a ∧
      ∃ post, Run step ok (step (pre.foldl step s) a) post t := by
  obtain ⟨post, rfl⟩ := hpre
  rw [List.append_assoc] at h
  obtain ⟨hbefore, hafter⟩ := h.split
  cases hafter with
  | cons hok hrest => exact ⟨hbefore, hok, post, hrest⟩

/-- Each step of a run leads to the state after one of the beginnings of its actions. -/
theorem Run.visits (h : Run step ok s as t) : Run step
    (fun u a => ok u a ∧ ∃ pre, pre <+: as ∧ pre.foldl step s = step u a) s as t := by
  induction h with
  | nil => exact .nil
  | @cons s t a as hok _ ih =>
    refine .cons ⟨hok, [a], ⟨as, rfl⟩, rfl⟩ (ih.mono ?_)
    rintro u b ⟨hb, pre, hpre, heq⟩
    exact ⟨hb, a :: pre, List.prefix_cons_inj a |>.2 hpre, heq⟩

/-- What holds at the end of a run and not at its start begins with one of its actions. -/
theorem exists_begin (step : σ → α → σ) {P : σ → Prop} (hs : ¬ P s) (h : P (as.foldl step s)) :
    ∃ pre a, pre ++ [a] <+: as ∧ ¬ P (pre.foldl step s) ∧ P (step (pre.foldl step s) a) := by
  induction as using List.reverseRecOn with
  | nil => exact absurd h hs
  | append_singleton as a ih =>
    by_cases hbefore : P (as.foldl step s)
    · obtain ⟨pre, b, hpre, hbegin⟩ := ih hbefore
      exact ⟨pre, b, hpre.trans (List.prefix_append as [a]), hbegin⟩
    · rw [List.foldl_append] at h
      exact ⟨as, a, List.prefix_rfl, hbefore, h⟩

end

namespace Pool

section
variable {σ τ ρ ε : Type} {start : ρ → τ} {exec : σ → τ → ε → σ × τ} {p : Pool σ τ}
  {as : List (PoolAct ρ ε)}

/-- A thread that is where no thread starts was brought there by a statement of its own. -/
theorem exists_exec_getElem? {Q : τ → Prop} (hstart : ∀ r, ¬ Q (start r))
    (hp : ∀ t ∈ p.threads, ¬ Q t) {i : Nat} {t : τ}
    (ht : (as.foldl (Pool.step start exec) p).threads[i]? = some t) (hQ : Q t) :
    ∃ pre e u, pre ++ [.exec i e] <+: as ∧
      (pre.foldl (Pool.step start exec) p).threads[i]? = some u ∧ ¬ Q u ∧
      Q (exec (pre.foldl (Pool.step start exec) p).shared u e).2 := by
  obtain ⟨pre, a, hpre, hbefore, v, hv, hQv⟩ := exists_begin (Pool.step start exec)
    (P := fun p => ∃ t, p.threads[i]? = some t ∧ Q t)
    (fun ⟨t, ht, hQ⟩ => hp t (List.mem_of_getElem? ht) hQ) ⟨t, ht, hQ⟩
  rcases Pool.step_cases (pre.foldl (Pool.step start exec) p) a with
    heq | ⟨r, -, heq⟩ | ⟨j, e, u, rfl, hu, heq⟩ <;> rw [heq] at hv
  · exact absurd ⟨v, hv, hQv⟩ hbefore
  · rcases getElem?_spawn hv with hv | ⟨-, rfl⟩
    · exact absurd ⟨v, hv, hQv⟩ hbefore
    · exact absurd hQv (hstart r)
  · rcases getElem?_exec hv with ⟨rfl, rfl⟩ | ⟨-, hv⟩
    · exact ⟨pre, e, u, hpre, hu, fun hQu => hbefore ⟨u, hu, hQu⟩, hQv⟩
    · exact absurd ⟨v, hv, hQv⟩ hbefore

/-- What holds of the store and did not hold at the start is owed to a statement. -/
theorem exists_exec_shared (start : ρ → τ) (exec : σ → τ → ε → σ × τ) {P : σ → Prop}
    (hp : ¬ P p.shared) (h : P (as.foldl (Pool.step start exec) p).shared) :
    ∃ pre i e u, pre ++ [.exec i e] <+: as ∧
      (pre.foldl (Pool.step start exec) p).threads[i]? = some u ∧
      ¬ P (pre.foldl (Pool.step start exec) p).shared ∧
      P (exec (pre.foldl (Pool.step start exec) p).shared u e).1 := by
  obtain ⟨pre, a, hpre, hbefore, hafter⟩ := exists_begin (Pool.step start exec)
    (P := fun p => P p.shared) hp h
  rcases Pool.step_cases (pre.foldl (Pool.step start exec) p) a with
    heq | ⟨r, -, heq⟩ | ⟨i, e, u, rfl, hu, heq⟩
  · rw [heq] at hafter
    exact absurd hafter hbefore
  · rw [heq] at hafter
    exact absurd hafter hbefore
  · rw [heq] at hafter
    exact ⟨pre, i, e, u, hpre, hu, hbefore, hafter⟩

end

end Pool

end Lib
