import AeroXProtect.Lib.Script

/-!
# Loops over cells

A loop gives each of its items a turn. An item has a cell of its own, found by its key, and shares a
store with the others; a turn rewrites its cell and the store, and an exception in it ends the loop
(`Cells.exec` is a statement of a script). When only the item and its cell decide whether a turn
raises, `run_snd_iff` says when the loop runs through, `cell_run` what it leaves in each cell, and
`sharedAt_of_step` is the invariant rule for the store that an item finds. `isolated_iff` compares
the loop with the one without an item: the other cells end up alike, and the loop runs through,
exactly if no turn raises and the turns of the others do the same from the stores they find in the
two loops.
-/

namespace Lib

/-- A cell for each key, and a store. -/
structure Cells (ι κ σ : Type) where
  cell : ι → κ
  shared : σ

namespace Cells

section
variable {α ι κ σ : Type} [DecidableEq ι] (key : α → ι) (turn : α → κ → σ → (κ × σ) × Bool)

/-- The turn of one item, and whether the loop goes on. -/
def exec (a : α) (s : Cells ι κ σ) : Cells ι κ σ × Bool :=
  (⟨fun k => if k = key a then (turn a (s.cell (key a)) s.shared).1.1 else s.cell k,
    (turn a (s.cell (key a)) s.shared).1.2⟩, (turn a (s.cell (key a)) s.shared).2)

/-- The store that the item of a key finds at its turn. -/
def sharedAt (l : List α) (s : Cells ι κ σ) (k : ι) : σ :=
  (Script.run (exec key turn) (l.takeWhile fun a => decide (key a ≠ k)) s).1.shared

variable {key turn} {l : List α} {s s' : Cells ι κ σ}

@[simp] theorem cell_exec {a : α} {k : ι} : (exec key turn a s).1.cell k =
    if k = key a then (turn a (s.cell (key a)) s.shared).1.1 else s.cell k := rfl

/-- A cell without an item in the loop is left alone. -/
theorem cell_run_of_not_mem {k : ι} (h : k ∉ l.map key) :
    (Script.run (exec key turn) l s).1.cell k = s.cell k := by
  refine Script.run_invariant (I := fun t : Cells ι κ σ => t.cell k = s.cell k)
    (fun a ha t ht => ?_) rfl
  have hne : k ≠ key a := fun heq => h (heq ▸ List.mem_map_of_mem ha)
  rw [cell_exec, if_neg hne, ht]

section
variable {go : α → κ → Bool} (hgo : ∀ a c m, (turn a c m).2 = go a c)
include hgo

/-- The loop runs through when no turn raises. -/
theorem run_snd_iff (hnd : (l.map key).Nodup) :
    (Script.run (exec key turn) l s).2 = true ↔ ∀ a ∈ l, go a (s.cell (key a)) = true := by
  induction l generalizing s with
  | nil => simp [Script.run]
  | cons a l ih =>
    obtain ⟨ha, hnd⟩ := List.nodup_cons.1 hnd
    have hsnd : (exec key turn a s).2 = go a (s.cell (key a)) := hgo _ _ _
    have hrest : ∀ b ∈ l, (exec key turn a s).1.cell (key b) = s.cell (key b) := fun b hb =>
      if_neg fun heq : key b = key a => ha (heq ▸ List.mem_map_of_mem hb)
    rw [Script.run_cons_eq, List.forall_mem_cons, ← hsnd]
    split
    · next hok =>
      rw [ih hnd, and_iff_right hok]
      exact forall₂_congr fun b hb => by rw [hrest b hb]
    · next hno => simp [hno]

/-- A loop that runs through gives each item one turn, with its own cell and the store that the
items before it have left. -/
theorem cell_run (hnd : (l.map key).Nodup) (hrun : ∀ a ∈ l, go a (s.cell (key a)) = true) {a : α}
    (ha : a ∈ l) : (Script.run (exec key turn) l s).1.cell (key a) =
      (turn a (s.cell (key a)) (sharedAt key turn l s (key a))).1.1 := by
  induction l generalizing s with
  | nil => cases ha
  | cons b l ih =>
    obtain ⟨hb, hnd⟩ := List.nodup_cons.1 hnd
    have hsnd : (exec key turn b s).2 = true := (hgo _ _ _).trans (hrun b (.head _))
    have hrest : ∀ a ∈ l, (exec key turn b s).1.cell (key a) = s.cell (key a) := fun a ha =>
      if_neg fun heq : key a = key b => hb (heq ▸ List.mem_map_of_mem ha)
    rw [Script.run_cons_eq, if_pos hsnd]
    rcases List.mem_cons.1 ha with rfl | ha
    · rw [cell_run_of_not_mem hb, cell_exec, if_pos rfl, sharedAt,
        List.takeWhile_cons_of_neg (by simp)]
      rfl
    · have hne : key b ≠ key a := fun heq => hb (heq ▸ List.mem_map_of_mem ha)
      have hat : sharedAt key turn (b :: l) s (key a) =
          sharedAt key turn l (exec key turn b s).1 (key a) := by
        unfold sharedAt
        rw [List.takeWhile_cons_of_pos (by simpa using hne), Script.run_cons_eq, if_pos hsnd]
      rw [ih hnd (fun c hc => by rw [hrest c hc]; exact hrun c (.tail _ hc)) ha, hrest a ha, hat]

/-- The loop without an item leaves the other cells as the loop with it does, and the loop with it
runs through, exactly if no turn raises and each other turn does the same from both stores. -/
theorem isolated_iff (hnd : (l.map key).Nodup) {k₀ : ι}
    (hcell : ∀ k, k ≠ k₀ → s'.cell k = s.cell k) :
    ((Script.run (exec key turn) l s).2 = true ∧ ∀ k, k ≠ k₀ →
      (Script.run (exec key turn) l s).1.cell k =
        (Script.run (exec key turn) (l.filter fun a => !decide (key a = k₀)) s').1.cell k) ↔
    (∀ a ∈ l, go a (s.cell (key a)) = true) ∧ ∀ a ∈ l, key a ≠ k₀ →
      (turn a (s.cell (key a)) (sharedAt key turn l s (key a))).1.1 =
        (turn a (s.cell (key a)) (sharedAt key turn
          (l.filter fun a => !decide (key a = k₀)) s' (key a))).1.1 := by
  rw [run_snd_iff hgo hnd]
  refine and_congr_right fun hall => ?_
  have hnd' : ((l.filter fun a => !decide (key a = k₀)).map key).Nodup :=
    (List.filter_sublist.map key).nodup hnd
  have hall' : ∀ a ∈ l.filter fun a => !decide (key a = k₀), go a (s'.cell (key a)) = true := by
    intro a ha
    obtain ⟨hmem, hne⟩ := List.mem_filter.1 ha
    rw [hcell (key a) (by simpa using hne)]
    exact hall a hmem
  have hturn : ∀ a ∈ l, key a ≠ k₀ →
      (Script.run (exec key turn) (l.filter fun a => !decide (key a = k₀)) s').1.cell (key a) =
        (turn a (s.cell (key a)) (sharedAt key turn
          (l.filter fun a => !decide (key a = k₀)) s' (key a))).1.1 := by
    intro a ha hne
    rw [cell_run hgo hnd' hall' (List.mem_filter.2 ⟨ha, by simpa using hne⟩), hcell (key a) hne]
  constructor
  · intro h a ha hne
    rw [← cell_run hgo hnd hall ha, ← hturn a ha hne]
    exact h (key a) hne
  · intro h k hk
    by_cases hmem : k ∈ l.map key
    · obtain ⟨a, ha, rfl⟩ := List.mem_map.1 hmem
      rw [cell_run hgo hnd hall ha, hturn a ha hk]
      exact h a ha hk
    · have hmem' : k ∉ (l.filter fun a => !decide (key a = k₀)).map key := fun hin =>
        hmem ((List.filter_sublist.map key).subset hin)
      rw [cell_run_of_not_mem hmem, cell_run_of_not_mem hmem', hcell k hk]

end

end

end Cells

end Lib
