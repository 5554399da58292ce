import Mathlib.Data.List.Basic
import Mathlib.Tactic.Common

/-!
# Fan-out without isolation

A loop over receivers that skips some and serves the others, one after the other, and that an
exception ends: the receivers after one that raises are not served. `Fanout.served` are those that
are. When the receivers belong to owners, the receivers of one owner are served as if the others
were not there, except for those that stand behind a receiver of another owner that raises
(`filter_served`); so two loops over the same receivers of the owner serve them alike exactly when
the same ones are blocked (`filter_served_eq_iff`).
-/

namespace Lib

/-- What the loop does with a receiver. -/
inductive Fanout
  | skip | serve | raise
  deriving DecidableEq, Repr

namespace Fanout

section
variable {α : Type} (f : α → Fanout) (own : α → Bool)

/-- The receivers that are served. -/
def served : List α → List α
  | [] => []
  | x :: l =>
    match f x with
    | .skip => served l
    | .serve => x :: served l
    | .raise => []

/-- A receiver of another owner that stands before `x` raises. -/
def blocked [DecidableEq α] (l : List α) (x : α) : Bool :=
  (l.takeWhile fun y => decide (y ≠ x)).any fun y => !own y && decide (f y = .raise)

variable {f own} {l l' : List α}

theorem mem_of_mem_served {x : α} (h : x ∈ served f l) : x ∈ l ∧ f x = .serve := by
  induction l with
  | nil => cases h
  | cons y l ih =>
    rw [served] at h
    split at h
    · exact ⟨List.mem_cons_of_mem y (ih h).1, (ih h).2⟩
    · next hf =>
      rcases List.mem_cons.1 h with rfl | h
      · exact ⟨List.mem_cons_self, hf⟩
      · exact ⟨List.mem_cons_of_mem y (ih h).1, (ih h).2⟩
    · cases h

theorem served_congr {g : α → Fanout} (h : ∀ x ∈ l, f x = g x) : served f l = served g l := by
  induction l with
  | nil => rfl
  | cons x l ih =>
    rw [List.forall_mem_cons] at h
    rw [served, served, h.1, ih h.2]

section
variable [DecidableEq α]

theorem blocked_cons_of_ne {x y : α} (h : y ≠ x) :
    blocked f own (y :: l) x = (!own y && decide (f y = .raise) || blocked f own l x) := by
  unfold blocked
  rw [List.takeWhile_cons_of_pos (by simpa using h), List.any_cons]

theorem blocked_cons_self {x : α} : blocked f own (x :: l) x = false := by
  unfold blocked
  rw [List.takeWhile_cons_of_neg (by simp)]
  rfl

/-- The receivers of the owner that are served: those of the loop over them alone, less those that
are blocked. -/
theorem filter_served (hl : l.Nodup) : (served f l).filter own =
    (served f (l.filter own)).filter fun x => !blocked f own l x := by
  induction l with
  | nil => rfl
  | cons y l ih =>
    obtain ⟨hy, hl⟩ := List.nodup_cons.1 hl
    -- the receivers behind `y` are blocked by `y` or as before
    have hne : ∀ x ∈ served f (l.filter own), y ≠ x := by
      rintro x hx rfl
      exact hy (List.mem_filter.1 (mem_of_mem_served hx).1).1
    have keep : (!own y && decide (f y = .raise)) = false →
        (served f (l.filter own)).filter (fun x => !blocked f own (y :: l) x) =
          (served f l).filter own := by
      intro hfree
      rw [ih hl]
      refine List.filter_congr fun x hx => ?_
      rw [blocked_cons_of_ne (hne x hx), hfree, Bool.false_or]
    cases hown : own y with
    | true =>
      rw [List.filter_cons_of_pos hown]
      have hkeep := keep (by rw [hown]; rfl)
      cases hf : f y with
      | skip =>
        rw [served, served, hf]
        exact hkeep.symm
      | serve =>
        rw [served, served, hf]
        dsimp only
        rw [List.filter_cons_of_pos hown, List.filter_cons_of_pos (by rw [blocked_cons_self]; rfl),
          hkeep]
      | raise =>
        rw [served, served, hf]
        rfl
    | false =>
      rw [List.filter_cons_of_neg (by simp [hown])]
      cases hf : f y with
      | skip =>
        rw [served, hf]
        exact (keep (by rw [hown, hf]; rfl)).symm
      | serve =>
        rw [served, hf]
        dsimp only
        rw [List.filter_cons_of_neg (by simp [hown])]
        exact (keep (by rw [hown, hf]; rfl)).symm
      | raise =>
        rw [served, hf]
        refine (List.filter_eq_nil_iff.2 fun x hx => ?_).symm
        rw [blocked_cons_of_ne (hne x hx), hown, hf]
        simp

/-- Two loops that do the same with the receivers of the owner serve them alike exactly when the
same ones are blocked. -/
theorem filter_served_eq_iff {g : α → Fanout} (hl : l.Nodup) (hl' : l'.Nodup)
    (hown : l.filter own = l'.filter own) (hf : ∀ x ∈ l, own x = true → f x = g x) :
    (served f l).filter own = (served g l').filter own ↔
      ∀ x ∈ served f (l.filter own), blocked f own l x = blocked g own l' x := by
  have hserved : served g (l'.filter own) = served f (l.filter own) := by
    rw [← hown]
    refine (served_congr fun x hx => ?_).symm
    obtain ⟨hmem, hx⟩ := List.mem_filter.1 hx
    exact hf x hmem hx
  rw [filter_served hl, filter_served hl', hserved]
  constructor
  · intro h x hx
    have hiff : x ∈ (served f (l.filter own)).filter (fun x => !blocked f own l x) ↔
        x ∈ (served f (l.filter own)).filter fun x => !blocked g own l' x := by rw [h]
    simp only [List.mem_filter, hx, true_and, Bool.not_eq_eq_eq_not, Bool.not_true] at hiff
    rw [Bool.eq_iff_iff, ← not_iff_not, Bool.not_eq_true, Bool.not_eq_true]
    exact hiff
  · intro h
    refine List.filter_congr fun x hx => ?_
    rw [h x hx]

end

end

end Fanout

end Lib
