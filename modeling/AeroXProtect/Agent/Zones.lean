import AeroXProtect.Detection.Polygons
import AeroXProtect.Agent.Tracker

/-!
# The zones of a pipeline

The worker keeps the detections that stand in an include zone of the camera, if it has one, and in
no ignore zone. It has a copy of its own of the functions on polygons, which answers what the
server's answer, so that what a pipeline keeps stands in the zones for the server too.
-/

open Lib

namespace AeroXProtect

/-! ## The worker's copy -/

namespace Worker

section
variable {α : Type} [Zero α] [Add α] [Sub α] [Mul α] [Div α] [LT α] [DecidableLT α] [DecidableEq α]
  (tiny x y : α)

/-- The body of the loop: the vertex `i`, the vertex `j` before it and the point. -/
def toggle (inside : Bool) (vi vj : α × α) : Bool :=
  if (decide (y < vi.2) != decide (y < vj.2)) && decide (x < (vj.1 - vi.1) * (y - vi.2) /
      (if vj.2 - vi.2 = 0 then tiny else vj.2 - vi.2) + vi.1) then !inside
  else inside

/-- The loop carries the answer and the vertex before. Source: `point_in_polygon`
(`worker/detector/zones.py:6`). -/
def pointInPolygon (polygon : List (α × α)) : Bool :=
  if polygon.length < 3 then false
  else
    match polygon.getLast? with
    | none => false
    | some last => (polygon.foldl (fun s vi => (toggle tiny x y s.1 vi s.2, vi)) (false, last)).1

/-- The copy answers what the server's function answers, whatever the arithmetic. -/
theorem pointInPolygon_eq (polygon : List (α × α)) :
    pointInPolygon tiny x y polygon = AeroXProtect.pointInPolygon tiny x y polygon := by
  unfold pointInPolygon AeroXProtect.pointInPolygon
  split
  · rfl
  · split
    · next hnone =>
      rw [List.getLast?_eq_none_iff.1 hnone]
      rfl
    · next last hlast =>
      rw [rotateRight_of_getLast? hlast]
      exact foldl_carry (toggle tiny x y) polygon false last

end

/-- Source: `bottom_center` (`worker/detector/zones.py:21`). -/
def bottomCenter (bbox : Box) : Rat × Rat := ((bbox.x1 + bbox.x2) / 2, max bbox.y1 bbox.y2)

theorem bottomCenter_eq (b : Box) :
    bottomCenter b = AeroXProtect.bottomCenter 2 b.x1 b.y1 b.x2 b.y2 := by
  rw [bottomCenter, max_def_lt]
  rfl

end Worker

/-! ## The filter -/

/-- The polygons of a camera, in fractions of the frame. -/
structure ZoneFilter where
  «include» : List (List (Rat × Rat))
  ignore : List (List (Rat × Rat))
  deriving DecidableEq, Repr

namespace ZoneFilter

/-- Source: `ZoneFilter.__init__` (`worker/detector/zones.py:27`), with what the spec has under the
two keys. -/
def init («include» ignore : Option (List (List (Rat × Rat)))) : ZoneFilter :=
  ⟨include.getD [], ignore.getD []⟩

section
variable (f : ZoneFilter) (det : Found) (frameW frameH : Int)

/-- Where the detection stands in the frame, in fractions of it. -/
def foot : Rat × Rat :=
  let b := Worker.bottomCenter det.bbox
  (b.1 / max 1 frameW, b.2 / max 1 frameH)

/-- The detection stands in the polygon. -/
def stands (polygon : List (Rat × Rat)) : Bool :=
  Worker.pointInPolygon (1 / 10 ^ 12) (foot det frameW frameH).1 (foot det frameW frameH).2 polygon

/-- Source: `ZoneFilter.keep` (`worker/detector/zones.py:32`). -/
def keep : Bool :=
  if !f.include.isEmpty && !f.include.any (stands det frameW frameH) then false
  else if f.ignore.any (stands det frameW frameH) then false
  else true

/-- Source: `ZoneFilter.filter` (`worker/detector/zones.py:41`). -/
def filter (detections : List Found) : List Found :=
  detections.filter fun d => f.keep d frameW frameH

variable {f det frameW frameH}

theorem keep_iff : f.keep det frameW frameH = true ↔
    (f.include = [] ∨ ∃ p ∈ f.include, stands det frameW frameH p = true) ∧
      ∀ p ∈ f.ignore, stands det frameW frameH p = false := by
  unfold keep
  split
  · next h =>
    simp only [Bool.and_eq_true, Bool.not_eq_true', List.isEmpty_eq_false_iff,
      List.any_eq_false, Bool.not_eq_true] at h
    refine iff_of_false Bool.false_ne_true ?_
    rintro ⟨hnil | ⟨p, hp, hin⟩, -⟩
    · exact h.1 hnil
    · exact Bool.false_ne_true ((h.2 p hp).symm.trans hin)
  · next h =>
    have hinc : f.include = [] ∨ ∃ p ∈ f.include, stands det frameW frameH p = true := by
      by_contra hno
      rw [not_or, not_exists] at hno
      refine h ?_
      simp only [Bool.and_eq_true, Bool.not_eq_true', List.isEmpty_eq_false_iff,
        List.any_eq_false, Bool.not_eq_true]
      exact ⟨hno.1, fun p hp => Bool.eq_false_iff.2 fun hin => hno.2 p ⟨hp, hin⟩⟩
    split
    · next hign =>
      refine iff_of_false Bool.false_ne_true fun hkeep => ?_
      obtain ⟨p, hp, hin⟩ := List.any_eq_true.1 hign
      exact Bool.false_ne_true ((hkeep.2 p hp).symm.trans hin)
    · next hign =>
      refine iff_of_true rfl ⟨hinc, fun p hp => Bool.eq_false_iff.2 fun hin => hign ?_⟩
      exact List.any_eq_true.2 ⟨p, hp, hin⟩

/-- A detection that stands in a polygon stands in one side of a chord, and in one only. -/
theorem stands_chord (polygon : List (Rat × Rat)) {i j : Nat} (hij : i < j)
    (hj : j < polygon.length) : stands det frameW frameH polygon =
      (stands det frameW frameH (between polygon i j) ^^
        stands det frameW frameH (beyond polygon i j)) := by
  unfold stands
  rw [Worker.pointInPolygon_eq, Worker.pointInPolygon_eq, Worker.pointInPolygon_eq]
  exact pointInPolygon_chord polygon hij hj

/-- What stands in one of the polygons stands in one of them after one is divided. -/
theorem exists_stands_divide {zs ws : List (List (Rat × Rat))} {polygon : List (Rat × Rat)}
    {i j : Nat} (hij : i < j) (hj : j < polygon.length)
    (h : ∃ p ∈ zs ++ polygon :: ws, stands det frameW frameH p = true) :
    ∃ p ∈ zs ++ between polygon i j :: beyond polygon i j :: ws,
      stands det frameW frameH p = true := by
  obtain ⟨p, hp, hin⟩ := h
  rcases List.mem_append.1 hp with hp | hp
  · exact ⟨p, List.mem_append_left _ hp, hin⟩
  rcases List.mem_cons.1 hp with rfl | hp
  · rw [stands_chord p hij hj] at hin
    cases hside : stands det frameW frameH (between p i j) with
    | true => exact ⟨_, by simp, hside⟩
    | false =>
      rw [hside, Bool.false_xor] at hin
      exact ⟨_, by simp, hin⟩
  · exact ⟨p, by simp [hp], hin⟩

/-- An include zone that is divided loses no detection. -/
theorem keep_divide_include {zs ws ignore : List (List (Rat × Rat))} {polygon : List (Rat × Rat)}
    {i j : Nat} (hij : i < j) (hj : j < polygon.length)
    (h : keep ⟨zs ++ polygon :: ws, ignore⟩ det frameW frameH = true) :
    keep ⟨zs ++ between polygon i j :: beyond polygon i j :: ws, ignore⟩ det frameW frameH =
      true := by
  obtain ⟨hinc, hign⟩ := keep_iff.1 h
  exact keep_iff.2 ⟨.inr (exists_stands_divide hij hj (hinc.resolve_left (by simp))), hign⟩

/-- An ignore zone that is divided lets no detection through that it dropped. -/
theorem keep_of_divide_ignore {zs ws inc : List (List (Rat × Rat))} {polygon : List (Rat × Rat)}
    {i j : Nat} (hij : i < j) (hj : j < polygon.length)
    (h : keep ⟨inc, zs ++ between polygon i j :: beyond polygon i j :: ws⟩ det frameW frameH =
      true) : keep ⟨inc, zs ++ polygon :: ws⟩ det frameW frameH = true := by
  obtain ⟨hinc, hign⟩ := keep_iff.1 h
  refine keep_iff.2 ⟨hinc, fun p hp => Bool.eq_false_iff.2 fun hin => ?_⟩
  obtain ⟨q, hq, hstands⟩ := exists_stands_divide hij hj ⟨p, hp, hin⟩
  exact Bool.false_ne_true ((hign q hq).symm.trans hstands)

/-- For the server, which is told the box in fractions of the frame, the detection stands in the
same polygons. -/
theorem stands_report (hw : 1 ≤ frameW) (hh : 1 ≤ frameH) (polygon : List (Rat × Rat)) :
    let b := det.bbox
    let p := bottomCenter 2 (b.x1 / frameW) (b.y1 / frameH) (b.x2 / frameW) (b.y2 / frameH)
    stands det frameW frameH polygon = pointInPolygon (1 / 10 ^ 12) p.1 p.2 polygon := by
  intro b p
  have hpos : (0 : Rat) ≤ frameH := by exact_mod_cast Int.le_of_lt hh
  have hfoot : foot det frameW frameH = p := by
    refine Prod.ext ?_ ?_
    · change (b.x1 + b.x2) / 2 / ((max 1 frameW : Int) : Rat) =
        (b.x1 / frameW + b.x2 / frameW) / 2
      rw [max_eq_right hw]
      ring
    · change max b.y1 b.y2 / ((max 1 frameH : Int) : Rat) =
        if b.y1 / frameH < b.y2 / frameH then b.y2 / frameH else b.y1 / (frameH : Rat)
      rw [max_eq_right hh, ← max_def_lt, max_div_div_right hpos]
  rw [stands, Worker.pointInPolygon_eq, hfoot]

end

end ZoneFilter

/-- Whatever the polygon and the point: being inside does not depend on the vertex that comes first
or on the direction of the list; a chord from the `i`-th vertex to the `j`-th divides the polygon
into two, and the point is inside it just when it is inside one of them and not the other; and the
worker's copy answers the same as the server's function, also in the program's arithmetic. -/
theorem polygon_laws (tiny x y : Rat) (polygon : List (Rat × Rat)) :
    (∀ k, pointInPolygon tiny x y (polygon.rotate k) = pointInPolygon tiny x y polygon) ∧
    pointInPolygon tiny x y polygon.reverse = pointInPolygon tiny x y polygon ∧
    (∀ i j, i < j → j < polygon.length → pointInPolygon tiny x y polygon =
      (pointInPolygon tiny x y (between polygon i j) ^^
        pointInPolygon tiny x y (beyond polygon i j))) ∧
    Worker.pointInPolygon tiny x y polygon = pointInPolygon tiny x y polygon ∧
    ∀ (tiny x y : Double) (polygon : List (Double × Double)),
      Worker.pointInPolygon tiny x y polygon = pointInPolygon tiny x y polygon :=
  ⟨pointInPolygon_rotate polygon, pointInPolygon_reverse polygon,
    fun _ _ => pointInPolygon_chord polygon, Worker.pointInPolygon_eq tiny x y polygon,
    Worker.pointInPolygon_eq⟩

end AeroXProtect
