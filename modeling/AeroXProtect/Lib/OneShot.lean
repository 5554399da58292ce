import AeroXProtect.Lib.Interleave

/-!
# One-time resources

A resource that threads over a shared store may win once: a credential that is burned when it is
used, a row that is claimed. A thread wins it with one atomic statement (`Moves.take`), or checks it
with one statement and burns it with a later one (`Moves.check`, `Moves.burn`). `OneShot.Inv.exec`
is the rule: as long as no thread checks or takes the resource while another one is between its
check and its burn, at most one thread wins it (`OneShot.Inv.one`), and the resource stays burned
from then on. For a resource that is only ever taken atomically there is no such thread, and
nothing is asked of the scheduler.
-/

namespace Lib

/-- A resource: whether it is burned, and which threads are between check and burn or have won. -/
structure OneShot (σ τ : Type) where
  burned : σ → Prop
  holds : τ → Bool
  won : τ → Bool

namespace OneShot

section
variable {σ τ : Type}

/-- What a statement does to the resource, from the store `s` and the thread `t` to `s'` and `t'`.
`free` says that no thread is between its check and its burn. -/
inductive Moves (o : OneShot σ τ) (free : Prop) (s s' : σ) (t t' : τ) : Prop
  | idle (hb : o.burned s → o.burned s') (hh : o.holds t' = o.holds t) (hw : o.won t' = o.won t)
  | check (hfree : free) (hb : ¬ o.burned s) (hh : o.holds t = false) (hw : o.won t = false)
      (hw' : o.won t' = false)
  | take (hfree : free) (hb : ¬ o.burned s) (hb' : o.burned s') (hh : o.holds t = false)
      (hw : o.won t = false) (hh' : o.holds t' = false)
  | burn (hb' : o.burned s') (hh : o.holds t = true) (hh' : o.holds t' = false)
  | drop (hb : o.burned s → o.burned s') (hh' : o.holds t' = false) (hw' : o.won t' = false)

/-- At most one thread holds the resource or has won it, and a resource that was won is burned. -/
structure Inv (o : OneShot σ τ) (p : Pool σ τ) : Prop where
  one : p.threads.countP o.holds + p.threads.countP o.won ≤ 1
  burned : 0 < p.threads.countP o.won → o.burned p.shared

variable {o : OneShot σ τ} {p : Pool σ τ}

/-- Nobody has won before the first thread. -/
theorem Inv.start (o : OneShot σ τ) (s : σ) : o.Inv ⟨s, []⟩ :=
  ⟨by simp, fun h => absurd h (by simp)⟩

/-- A new thread that neither holds nor has won the resource. -/
theorem Inv.spawn (h : o.Inv p) {t : τ} (hh : o.holds t = false) (hw : o.won t = false) :
    o.Inv ⟨p.shared, p.threads ++ [t]⟩ := by
  have hholds : (p.threads ++ [t]).countP o.holds = p.threads.countP o.holds := by
    simp [List.countP_append, hh]
  have hwon : (p.threads ++ [t]).countP o.won = p.threads.countP o.won := by
    simp [List.countP_append, hw]
  exact ⟨by rw [hholds, hwon]; exact h.one, by rw [hwon]; exact h.burned⟩

/-- The rule for a statement of one thread. -/
theorem Inv.exec (h : o.Inv p) {i : Nat} {t : τ} (hi : p.threads[i]? = some t) {s' : σ} {t' : τ}
    (hm : o.Moves (p.threads.countP o.holds = 0) p.shared s' t t') :
    o.Inv ⟨s', p.threads.set i t'⟩ := by
  have hone := h.one
  have hholds := Pool.countP_exec o.holds hi t'
  have hwon := Pool.countP_exec o.won hi t'
  cases hm with
  | idle hb hh hw =>
    rw [hh] at hholds
    rw [hw] at hwon
    refine ⟨by dsimp only; omega, fun hpos => hb (h.burned ?_)⟩
    dsimp only at hpos
    omega
  | check hfree hb hh hw hw' =>
    rw [hh] at hholds
    rw [hw, hw'] at hwon
    have hnone : p.threads.countP o.won = 0 := by
      by_contra hpos
      exact hb (h.burned (by omega))
    refine ⟨?_, fun hpos => ?_⟩ <;> dsimp only at * <;> grind
  | take hfree hb hb' hh hw hh' =>
    rw [hh, hh'] at hholds
    rw [hw] at hwon
    have hnone : p.threads.countP o.won = 0 := by
      by_contra hpos
      exact hb (h.burned (by omega))
    refine ⟨?_, fun _ => hb'⟩
    dsimp only at *
    grind
  | burn hb' hh hh' =>
    rw [hh, hh'] at hholds
    refine ⟨?_, fun _ => hb'⟩
    dsimp only at *
    grind
  | drop hb hh' hw' =>
    rw [hh'] at hholds
    rw [hw'] at hwon
    refine ⟨?_, fun hpos => hb (h.burned ?_)⟩ <;> dsimp only at * <;> grind

end

end OneShot

end Lib
