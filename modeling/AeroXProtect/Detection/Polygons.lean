import AeroXProtect.Lib.Circuit
import AeroXProtect.Detection.Zones
import Mathlib.Algebra.Order.Field.Basic
import Mathlib.Tactic.FieldSimp
import Mathlib.Tactic.Linarith

/-!
# Polygons in exact arithmetic

Over an ordered field the test of an edge does not mind the direction of the edge, so that being
inside a polygon is a sum around its vertices in the ring of two elements: it does not depend on the
vertex that comes first or on the direction of the list, and a chord divides it. The area is the
size of such a sum too.
-/

open Lib

namespace AeroXProtect

section
variable {α : Type} [Field α] {tiny x y : α}

/-- The line through two points is met at the same place from either of them. -/
theorem meet_comm {a b c d : α} (h : b ≠ d) :
    (c - a) * (y - b) / (d - b) + a = (a - c) * (y - d) / (b - d) + c := by
  have hdb : d - b ≠ 0 := sub_ne_zero.2 h.symm
  have hbd : b - d ≠ 0 := sub_ne_zero.2 h
  field_simp
  ring

variable [LinearOrder α]

theorem crosses_self (v : α × α) : crosses tiny x y v v = false := by
  simp [crosses]

/-- The test of an edge does not mind its direction. -/
theorem crosses_comm (vi vj : α × α) : crosses tiny x y vi vj = crosses tiny x y vj vi := by
  by_cases h : vi.2 = vj.2
  · simp [crosses, h]
  · have hij : vi.2 - vj.2 ≠ 0 := sub_ne_zero.2 h
    have hji : vj.2 - vi.2 ≠ 0 := sub_ne_zero.2 (Ne.symm h)
    rw [crosses, crosses, if_neg hij, if_neg hji, meet_comm h, bne_comm]

/-- An edge there and back is crossed an even number of times. -/
theorem crosses_add_crosses (vi vj : α × α) :
    crosses tiny x y vi vj + crosses tiny x y vj vi = 0 := by
  rw [crosses_comm, BooleanRing.add_self]

/-- Being inside is the parity of the edges that are crossed. -/
theorem pointInPolygon_eq_around (polygon : List (α × α)) :
    pointInPolygon tiny x y polygon = around (crosses tiny x y) polygon := by
  have hflip : (fun vi vj => crosses tiny x y vj vi) = crosses tiny x y := by
    funext vi vj
    exact crosses_comm vj vi
  unfold pointInPolygon
  split
  · next h =>
    rcases polygon with _ | ⟨v, _ | ⟨w, _ | ⟨u, rest⟩⟩⟩
    · rfl
    · simp [around, crosses_self]
    · have hback : crosses tiny x y v w + crosses tiny x y w v = 0 := crosses_add_crosses v w
      exact hback.symm.trans (by simp [around])
    · exact absurd h (by simp)
  · rw [foldl_toggle (fun e : (α × α) × (α × α) => crosses tiny x y e.1 e.2)]
    exact (foldl_rotateRight _ polygon).trans (by rw [hflip])

theorem pointInPolygon_rotate (polygon : List (α × α)) (k : Nat) :
    pointInPolygon tiny x y (polygon.rotate k) = pointInPolygon tiny x y polygon := by
  rw [pointInPolygon_eq_around, pointInPolygon_eq_around, around_rotate]

theorem pointInPolygon_reverse (polygon : List (α × α)) :
    pointInPolygon tiny x y polygon.reverse = pointInPolygon tiny x y polygon := by
  rw [pointInPolygon_eq_around, pointInPolygon_eq_around, around_reverse]
  congr 1
  funext vi vj
  exact crosses_comm vj vi

/-- A chord divides the inside of a polygon. -/
theorem pointInPolygon_chord (polygon : List (α × α)) {i j : Nat} (hij : i < j)
    (hj : j < polygon.length) :
    pointInPolygon tiny x y polygon =
      (pointInPolygon tiny x y (between polygon i j) ^^
        pointInPolygon tiny x y (beyond polygon i j)) := by
  rw [pointInPolygon_eq_around, pointInPolygon_eq_around, pointInPolygon_eq_around,
    ← Bool.add_eq_xor]
  exact around_chord crosses_add_crosses hij hj

/-- A point on the diagonal of a square is in one of the halves. -/
example : let square : List (Rat × Rat) := [(0, 0), (4, 0), (4, 4), (0, 4)]
    (pointInPolygon 1 2 2 (between square 0 2), pointInPolygon 1 2 2 (beyond square 0 2)) =
      (true, false) := by decide +kernel

end

/-! ## The area -/

section
variable {α : Type} [Field α] {two : α}

/-- Twice the area that an edge adds, with its sign. -/
def shoelace (v w : α × α) : α := v.1 * w.2 - w.1 * v.2

theorem shoelace_add_shoelace (v w : α × α) : shoelace v w + shoelace w v = 0 := by
  unfold shoelace
  ring

variable [LinearOrder α] [IsStrictOrderedRing α]

/-- The area is the size of the sum of its edges. -/
theorem polygonArea_eq_around (polygon : List (α × α)) :
    polygonArea two polygon = |around shoelace polygon| / two := by
  unfold polygonArea
  split
  · next h =>
    have hzero : around shoelace polygon = 0 := by
      match polygon, h with
      | [], _ => rfl
      | [v], _ => simp [around, shoelace]
      | [v, w], _ =>
        have hback := shoelace_add_shoelace v w
        exact (by simp [around] : around shoelace [v, w] = shoelace v w + shoelace w v).trans hback
    rw [hzero, abs_zero, zero_div]
  · have hsum := foldl_rotateLeft shoelace polygon
    unfold shoelace at hsum
    simp only [hsum]
    split
    · next hneg => exact congrArg (· / two) (abs_of_neg hneg).symm
    · next hpos => exact congrArg (· / two) (abs_of_nonneg (not_lt.1 hpos)).symm

theorem polygonArea_rotate (polygon : List (α × α)) (k : Nat) :
    polygonArea two (polygon.rotate k) = polygonArea two polygon := by
  rw [polygonArea_eq_around, polygonArea_eq_around, around_rotate]

theorem polygonArea_reverse (polygon : List (α × α)) :
    polygonArea two polygon.reverse = polygonArea two polygon := by
  have hflip : (fun v w : α × α => shoelace w v) = fun v w => negAddMonoidHom (shoelace v w) := by
    funext v w
    exact eq_neg_of_add_eq_zero_right (shoelace_add_shoelace v w)
  rw [polygonArea_eq_around, polygonArea_eq_around, around_reverse, hflip, around, along_map]
  exact congrArg (· / two) (abs_neg _)

/-- The parts of a chord have at least the area in all. -/
theorem polygonArea_chord_le (htwo : 0 ≤ two) (polygon : List (α × α)) {i j : Nat} (hij : i < j)
    (hj : j < polygon.length) :
    polygonArea two polygon ≤
      polygonArea two (between polygon i j) + polygonArea two (beyond polygon i j) := by
  rw [polygonArea_eq_around, polygonArea_eq_around, polygonArea_eq_around, ← add_div,
    around_chord shoelace_add_shoelace hij hj]
  exact div_le_div_of_nonneg_right (abs_add_le _ _) htwo

end

end AeroXProtect
