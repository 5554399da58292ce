import Mathlib.Data.Finset.Card
import Mathlib.Order.Interval.Finset.Defs
import Mathlib.Tactic.Common
import Mathlib.Tactic.Linarith
import Mathlib.Tactic.Ring

/-!
# Ranges with a step

`range(start, stop, step)`: the integers from `start` on that come before `stop`, in steps that may
go up or down. `mem_range` says which integers these are; no integer is listed twice.
-/

namespace Lib

/-- `len(range(start, stop, step))` -/
def rangeLength (start stop step : Int) : Nat :=
  if 0 < step then ((stop - start + step - 1) / step).toNat
  else ((start - stop - step - 1) / -step).toNat

/-- `range(start, stop, step)` -/
def range (start stop step : Int) : List Int :=
  (List.range (rangeLength start stop step)).map fun i : Nat => start + i * step

section
variable {start stop step v : Int}

theorem lt_rangeLength_of_pos (hstep : 0 < step) {i : Nat} :
    i < rangeLength start stop step ↔ start + i * step < stop := by
  rw [rangeLength, if_pos hstep, Int.lt_toNat, Int.lt_iff_add_one_le, Int.le_ediv_iff_mul_le hstep]
  constructor <;> intro h <;> linarith

theorem lt_rangeLength_of_neg (hstep : step < 0) {i : Nat} :
    i < rangeLength start stop step ↔ stop < start + i * step := by
  rw [rangeLength, if_neg (by omega), Int.lt_toNat, Int.lt_iff_add_one_le,
    Int.le_ediv_iff_mul_le (by omega)]
  constructor <;> intro h <;> linarith

/-- The members of a range. -/
theorem mem_range (hstep : step ≠ 0) : v ∈ range start stop step ↔
    step ∣ v - start ∧ if 0 < step then start ≤ v ∧ v < stop else stop < v ∧ v ≤ start := by
  simp only [range, List.mem_map, List.mem_range]
  rcases lt_or_gt_of_ne hstep with hneg | hpos
  · rw [if_neg (by omega)]
    constructor
    · rintro ⟨i, hi, rfl⟩
      have hlt := (lt_rangeLength_of_neg hneg).1 hi
      have hle : (i : Int) * step ≤ 0 := Int.mul_nonpos_of_nonneg_of_nonpos (by omega) hneg.le
      exact ⟨⟨i, by ring⟩, hlt, by omega⟩
    · rintro ⟨⟨k, hk⟩, hlt, hle⟩
      have hk0 : 0 ≤ k := by
        by_contra hk0
        nlinarith
      refine ⟨k.toNat, (lt_rangeLength_of_neg hneg).2 ?_, ?_⟩ <;> rw [Int.toNat_of_nonneg hk0] <;>
        linarith
  · rw [if_pos hpos]
    constructor
    · rintro ⟨i, hi, rfl⟩
      have hlt := (lt_rangeLength_of_pos hpos).1 hi
      have hle : 0 ≤ (i : Int) * step := Int.mul_nonneg (by omega) hpos.le
      exact ⟨⟨i, by ring⟩, by omega, hlt⟩
    · rintro ⟨⟨k, hk⟩, hle, hlt⟩
      have hk0 : 0 ≤ k := by
        by_contra hk0
        nlinarith
      refine ⟨k.toNat, (lt_rangeLength_of_pos hpos).2 ?_, ?_⟩ <;> rw [Int.toNat_of_nonneg hk0] <;>
        linarith

theorem length_range : (range start stop step).length = rangeLength start stop step := by
  rw [range, List.length_map, List.length_range]

theorem nodup_range (hstep : step ≠ 0) : (range start stop step).Nodup := by
  refine List.Nodup.map (fun i j hij => ?_) List.nodup_range
  have hmul : (i : Int) * step = j * step := by linarith
  exact_mod_cast mul_right_cancel₀ hstep hmul

/-- A range lists as many integers as its length says. -/
theorem card_toFinset_range (hstep : step ≠ 0) :
    (range start stop step).toFinset.card = rangeLength start stop step := by
  rw [List.toFinset_card_of_nodup (nodup_range hstep), length_range]

end

end Lib
