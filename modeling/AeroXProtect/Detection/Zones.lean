import AeroXProtect.Lib.Circuit
import AeroXProtect.Lib.Number
import AeroXProtect.Lib.Table

/-!
# Zones of a camera

A detection is attributed to the include zone of its camera in which its box stands: the middle of
the bottom edge is looked for in the polygons. The functions on polygons are stated for any type of
coordinates with the operations they need. A stored polygon is a list of decoded values of any kind:
there the same functions may raise (`pointInStored`, `storedArea`), and `Drawable` says when they do
not; on pairs of floating-point numbers they are the others (`pointInStored_floats`).
-/

open Lib

namespace AeroXProtect

/-! ## Polygons -/

section
variable {α : Type} [Zero α] [Add α] [Sub α] [Neg α] [Mul α] [Div α] [LT α] [DecidableLT α]
  [DecidableEq α]

/-- The point of a box at which it stands. Source: `bottom_center`
(`server/service/geometry.py:6`); `two` is 2. -/
def bottomCenter (two : α) (x1 y1 x2 y2 : α) : α × α :=
  ((x1 + x2) / two, if y1 < y2 then y2 else y1)

/-- A ray from the point crosses the edge between two vertices; `tiny` is the height that the source
puts for 0. -/
def crosses (tiny x y : α) (vi vj : α × α) : Bool :=
  decide (y < vi.2) != decide (y < vj.2) &&
    decide (x < (vj.1 - vi.1) * (y - vi.2) / (if vj.2 - vi.2 = 0 then tiny else vj.2 - vi.2) + vi.1)

/-- Ray casting: each vertex with the one before it. Source: `point_in_polygon`
(`server/service/geometry.py:12`). -/
def pointInPolygon (tiny x y : α) (polygon : List (α × α)) : Bool :=
  if polygon.length < 3 then false
  else
    (polygon.zip (polygon.rotateRight 1)).foldl
      (fun inside e => if crosses tiny x y e.1 e.2 then !inside else inside) false

/-- Source: `polygon_area` (`server/service/geometry.py:28`); `two` is 2. -/
def polygonArea (two : α) (polygon : List (α × α)) : α :=
  if polygon.length < 3 then 0
  else
    let s := (polygon.zip (polygon.rotateLeft 1)).foldl
      (fun s e => s + (e.1.1 * e.2.2 - e.2.1 * e.1.2)) 0
    (if s < 0 then -s else s) / two

end

/-! ## Stored polygons -/

/-- What the source puts for a height of 0. -/
def tiny : Double := Double.ofRat (1 / 10 ^ 12)

/-- `v[0], v[1]` -/
def corner (v : PyValue) : Except PyError (PyValue × PyValue) := do
  let x ← v.item 0
  let y ← v.item 1
  return (x, y)

/-- `crosses`, of two vertices that are decoded values: the first coordinates are used only where
one vertex is below the point and the other is not. -/
def crossesStored (x y : Double) (vi vj : PyValue) : Except PyError Bool := do
  let (xi, yi) ← corner vi
  let (xj, yj) ← corner vj
  let hi ← yi.toNumber
  let hj ← yj.toNumber
  if y.lt hi.exact = y.lt hj.exact then return false
  else
    let b ← xj.toNumber
    let a ← xi.toNumber
    let width ← (← b.sub a).toDouble
    let above ← hi.toDouble
    let height ← hj.sub hi
    let height ← (if height.isZero then Number.float tiny else height).toDouble
    let left ← a.toDouble
    return x.lt (((width.mul (y.sub above)).div height).add left)

/-- Source: `point_in_polygon` (`server/service/geometry.py:12`). -/
def pointInStored (x y : Double) (polygon : List PyValue) : Except PyError Bool :=
  if polygon.length < 3 then .ok false
  else
    (polygon.zip (polygon.rotateRight 1)).foldlM (fun (inside : Bool) e => do
      let crossed ← crossesStored x y e.1 e.2
      return if crossed then !inside else inside) false

/-- `x1 * y2 - x2 * y1`, to be added to a floating-point number. -/
def shoelaceStored (v w : PyValue) : Except PyError Double := do
  let (x1, y1) ← v.unpackPair
  let (x2, y2) ← w.unpackPair
  let a ← (← x1.toNumber).mul (← y2.toNumber)
  let b ← (← x2.toNumber).mul (← y1.toNumber)
  (← a.sub b).toDouble

/-- Source: `polygon_area` (`server/service/geometry.py:28`). -/
def storedArea (polygon : List PyValue) : Except PyError Double :=
  if polygon.length < 3 then .ok (.finite 0)
  else do
    let s ← (polygon.zip (polygon.rotateLeft 1)).foldlM (fun (s : Double) e => do
      let t ← shoelaceStored e.1 e.2
      return s.add t) (.finite 0)
    return s.abs.div (.finite 2)

/-- The vertex has coordinates, of which the second is a number. -/
structure Corner (v x : PyValue) (h : Number) : Prop where
  fst : v.item 0 = .ok x
  snd : ∃ y, v.item 1 = .ok y ∧ y.toNumber = .ok h

/-- Two vertices with heights; where the point is between these, the first coordinates are numbers
too, and none of the differences is too large for a floating-point number. -/
def EdgeReadable (y : Double) (vi vj : PyValue) : Prop :=
  ∃ xi hi xj hj, Corner vi xi hi ∧ Corner vj xj hj ∧ (y.lt hi.exact ≠ y.lt hj.exact →
    ∃ a b, xi.toNumber = .ok a ∧ xj.toNumber = .ok b ∧ b.Apart a ∧ hi.huge = false ∧
      hj.Apart hi ∧ a.huge = false)

/-- The vertex is a pair of numbers. -/
def Pair (v : PyValue) (a b : Number) : Prop :=
  ∃ x y, v.unpackPair = .ok (x, y) ∧ x.toNumber = .ok a ∧ y.toNumber = .ok b

/-- Two pairs of numbers, the products of which are not too large for a floating-point number. -/
def TermReadable (v w : PyValue) : Prop :=
  ∃ a b c d, Pair v a b ∧ Pair w c d ∧ ∃ m n, a.mul d = .ok m ∧ c.mul b = .ok n ∧ m.Apart n

/-- The polygon can be searched for the point, and measured if the point is inside. -/
structure Drawable (x y : Double) (polygon : List PyValue) : Prop where
  edges : 3 ≤ polygon.length → ∀ e ∈ polygon.zip (polygon.rotateRight 1), EdgeReadable y e.1 e.2
  terms : pointInStored x y polygon = .ok true →
    ∀ e ∈ polygon.zip (polygon.rotateLeft 1), TermReadable e.1 e.2

section
variable {x y : Double} {v w vi vj : PyValue} {polygon : List PyValue}

/-- A vertex as the editor stores it. -/
def vertex (p : Double × Double) : PyValue := .list [.float p.1, .float p.2]

theorem crossesStored_vertex (p q : Double × Double) :
    crossesStored x y (vertex p) (vertex q) = .ok (crosses tiny x y p q) := by
  have hstep : crossesStored x y (vertex p) (vertex q) =
      if y.lt p.2 = y.lt q.2 then .ok false
      else (if decide (q.2 - p.2 = .finite 0) then Number.float tiny
          else .float (q.2 - p.2)).toDouble >>= fun height =>
        .ok (x.lt ((q.1 - p.1) * (y - p.2) / height + p.1)) := rfl
  have hcross : crosses tiny x y p q = (y.lt p.2 != y.lt q.2 &&
      x.lt ((q.1 - p.1) * (y - p.2) / (if q.2 - p.2 = .finite 0 then tiny else q.2 - p.2) +
        p.1)) := by
    simp [crosses, LT.lt]
    rfl
  rw [hstep, hcross]
  split
  · next hside => rw [hside, bne_self_eq_false, Bool.false_and]
  · next hside =>
    rw [bne_iff_ne.2 hside, Bool.true_and]
    by_cases hzero : q.2 - p.2 = .finite 0
    · rw [if_pos (decide_eq_true hzero), if_pos hzero]
      rfl
    · rw [if_neg (by simpa using hzero), if_neg hzero]
      rfl

/-- On pairs of floating-point numbers the search is the one above. -/
theorem pointInStored_floats (polygon : List (Double × Double)) :
    pointInStored x y (polygon.map vertex) = .ok (pointInPolygon tiny x y polygon) := by
  unfold pointInStored pointInPolygon
  rw [List.length_map]
  split
  · rfl
  · rw [rotateRight_one_map, List.zip_map, List.foldlM_map]
    refine foldlM_eq_ok fun inside e _ => ?_
    simp only [Prod.map_fst, Prod.map_snd, crossesStored_vertex]
    rfl

/-- So is the area. -/
theorem storedArea_floats (polygon : List (Double × Double)) :
    storedArea (polygon.map vertex) = .ok (polygonArea (.finite 2) polygon) := by
  unfold storedArea polygonArea
  rw [List.length_map]
  split
  · rfl
  · have hsum : ((polygon.map vertex).zip ((polygon.map vertex).rotateLeft 1)).foldlM
        (fun (s : Double) e => do
          let t ← shoelaceStored e.1 e.2
          return s.add t) (.finite 0) =
        .ok ((polygon.zip (polygon.rotateLeft 1)).foldl
          (fun s e => s + (e.1.1 * e.2.2 - e.2.1 * e.1.2)) 0) := by
      rw [rotateLeft_one_map, List.zip_map, List.foldlM_map]
      exact foldlM_eq_ok fun s e _ => rfl
    rw [hsum]
    rfl

end

/-! ## The table -/

inductive ZoneKind
  | «include» | ignore
  deriving DecidableEq, Repr

/-- A row of `detection_zones`. The polygon is a list of at least three values, as `_validate`
(`server/controller/detection_zone.py:16`) lets through; what they are is not checked. -/
structure DetectionZone where
  id : Nat
  cameraId : Nat
  kind : ZoneKind
  polygon : List PyValue
  enabled : Bool
  priority : Int
  deletedAt : Option Int
  deriving Repr

abbrev DetectionZones := Table DetectionZone.id

namespace DetectionZones

/-- The enabled zones of a camera, by falling priority and then by id. Source:
`DetectionZone.get_for_camera` (`server/model/detection_zone.py:32`). -/
def getForCamera (t : DetectionZones) (cameraId : Nat) : List DetectionZone :=
  orderBy (fun z => -z.priority) (orderBy DetectionZone.id (t.rows.filter fun z =>
    decide (z.cameraId = cameraId) && z.deletedAt.isNone && z.enabled))

/-- The include zones of a camera, as the cache of a batch holds them. -/
def includes (t : DetectionZones) (cameraId : Nat) : List DetectionZone :=
  (t.getForCamera cameraId).filter fun z => decide (z.kind = .include)

/-- The zone of a box: of the include zones in which it stands the one of the highest priority, and
of these the smallest (which of several zones, one with an area that overflows to no number, comes
first is left at this sort). Source: `_attribute_zone`
(`server/service/detection_ingest.py:118`). -/
def attributeZone (t : DetectionZones) (cameraId : Nat) (x1 y1 x2 y2 : Double) :
    Except PyError (Option Nat) := do
  let (bx, y) := bottomCenter (.finite 2) x1 y1 x2 y2
  let hits ← select (fun z => pointInStored bx y z.polygon) (t.includes cameraId)
  let keyed ← hits.mapM fun z => do
    let area ← storedArea z.polygon
    return (z, area)
  let sorted := keyed.mergeSort fun a b =>
    decide (b.1.priority < a.1.priority) || decide (a.1.priority = b.1.priority) && !b.2.lt a.2
  return sorted.head?.map fun z => z.1.id

end DetectionZones

end AeroXProtect
