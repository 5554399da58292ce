import AeroXProtect.Lib.Text
import Mathlib.Data.List.Infix
import Mathlib.Data.Rat.Defs
import Mathlib.Tactic.Common

/-!
# Decoded JSON values

A JSON document as a Python program sees it after decoding: `null` is `None`, a number is an exact
rational, and an object is the list of its fields in the order of their keys, so that two objects
with the same fields are the same value. The functions are the operations programs apply to such a
value before they trust it: its truth value (`truthy`, `or`), the lookup of a key (`getD?`, which
raises on anything but an object) and the conversion `int(x)` (`toInt?`). Raising is `none`.
-/

namespace Lib

/-- A decoded JSON value. -/
inductive Json
  | null
  | bool (b : Bool)
  | num (q : Rat)
  | str (s : String)
  | arr (items : List Json)
  | obj (fields : List (String × Json))
  deriving Repr

namespace Json

/-! ## Equality -/

mutual

/-- Equality of values, decided along their structure. -/
def decEq : (a b : Json) → Decidable (a = b)
  | .null, .null => isTrue rfl
  | .bool a, .bool b => decidable_of_iff (a = b) (by rw [Json.bool.injEq])
  | .num a, .num b => decidable_of_iff (a = b) (by rw [Json.num.injEq])
  | .str a, .str b => decidable_of_iff (a = b) (by rw [Json.str.injEq])
  | .arr a, .arr b =>
    match decEqItems a b with
    | isTrue h => isTrue (by rw [h])
    | isFalse h => isFalse (by rw [Json.arr.injEq]; exact h)
  | .obj a, .obj b =>
    match decEqFields a b with
    | isTrue h => isTrue (by rw [h])
    | isFalse h => isFalse (by rw [Json.obj.injEq]; exact h)
  | .null, .bool _ | .null, .num _ | .null, .str _ | .null, .arr _ | .null, .obj _
  | .bool _, .null | .bool _, .num _ | .bool _, .str _ | .bool _, .arr _ | .bool _, .obj _
  | .num _, .null | .num _, .bool _ | .num _, .str _ | .num _, .arr _ | .num _, .obj _
  | .str _, .null | .str _, .bool _ | .str _, .num _ | .str _, .arr _ | .str _, .obj _
  | .arr _, .null | .arr _, .bool _ | .arr _, .num _ | .arr _, .str _ | .arr _, .obj _
  | .obj _, .null | .obj _, .bool _ | .obj _, .num _ | .obj _, .str _ | .obj _, .arr _ =>
    isFalse nofun

def decEqItems : (a b : List Json) → Decidable (a = b)
  | [], [] => isTrue rfl
  | [], _ :: _ | _ :: _, [] => isFalse nofun
  | a :: as, b :: bs =>
    match decEq a b, decEqItems as bs with
    | isTrue h, isTrue hs => isTrue (by rw [h, hs])
    | isFalse h, _ => isFalse fun he => h (List.cons.inj he).1
    | _, isFalse hs => isFalse fun he => hs (List.cons.inj he).2

def decEqFields : (a b : List (String × Json)) → Decidable (a = b)
  | [], [] => isTrue rfl
  | [], _ :: _ | _ :: _, [] => isFalse nofun
  | (k, a) :: as, (k', b) :: bs =>
    if hk : k = k' then
      match decEq a b, decEqFields as bs with
      | isTrue h, isTrue hs => isTrue (by rw [hk, h, hs])
      | isFalse h, _ => isFalse fun he => h (Prod.mk.inj (List.cons.inj he).1).2
      | _, isFalse hs => isFalse fun he => hs (List.cons.inj he).2
    else isFalse fun he => hk (Prod.mk.inj (List.cons.inj he).1).1

end

instance : DecidableEq Json := decEq

/-! ## Access -/

/-- The truth value of a value. -/
def truthy : Json → Bool
  | .null => false
  | .bool b => b
  | .num q => q != 0
  | .str s => s != ""
  | .arr l => !l.isEmpty
  | .obj l => !l.isEmpty

/-- `x or y`. -/
def or (x y : Json) : Json := if x.truthy then x else y

/-- The empty object. -/
def empty : Json := .obj []

/-- `d.get(key, dflt)`; raises when `d` is not an object. -/
def getD? (d : Json) (key : String) (dflt : Json) : Option Json :=
  match d with
  | .obj fields => some ((fields.lookup key).getD dflt)
  | _ => none

/-- `d.get(key)`, with `null` for a missing key. -/
def get? (d : Json) (key : String) : Option Json := d.getD? key .null

/-- `d.get(key)` of an object, and `null` of any other value. -/
def field (d : Json) (key : String) : Json := (d.get? key).getD .null

/-- `isinstance(x, dict)`. -/
def isObj : Json → Bool
  | .obj _ => true
  | _ => false

/-- `d[key]`; raises when `d` is not an object or has no such key. -/
def index? (d : Json) (key : String) : Option Json :=
  match d with
  | .obj fields => fields.lookup key
  | _ => none

/-- The values a `for` loop runs over: the items of an array, the keys of an object, the characters
of a text; raises on the others. -/
def iter? : Json → Option (List Json)
  | .arr items => some items
  | .obj fields => some (fields.map fun f => .str f.1)
  | .str s => some (s.toList.map fun c => .str c.toString)
  | .null | .bool _ | .num _ => none

/-- The value can be a dictionary key. -/
def hashable : Json → Bool
  | .arr _ | .obj _ => false
  | .null | .bool _ | .num _ | .str _ => true

/-- A value as a member of a set: there `True` is `1`. -/
def key : Json → Json
  | .bool b => .num (if b then 1 else 0)
  | x => x

/-- `x in items`, of hashable items. -/
def listed (items : List Json) (x : Json) : Bool := items.any fun y => decide (y.key = x.key)

/-- `set(x)`; raises when `x` cannot be iterated, or has an item that is not hashable. -/
def toSet? (x : Json) : Option (List Json) :=
  x.iter?.bind fun items => if items.all hashable then some items else none

/-- `x in texts`, where each text is compared in turn. -/
def isOneOf (texts : List String) (x : Json) : Bool := texts.any fun t => decide (x = .str t)

/-- `s in x`: an item of an array, a key of an object, a part of a text; raises on the others. -/
def contains? (x : Json) (s : String) : Option Bool :=
  match x with
  | .arr items => some (items.any fun y => decide (y = .str s))
  | .obj fields => some (fields.any fun f => f.1 == s)
  | .str t => some (decide (s.toList <:+: t.toList))
  | .null | .bool _ | .num _ => none

/-- `int(x)`: a number is rounded towards zero; raises on `null`, arrays and objects, and on a text
that is not an integer. -/
def toInt? : Json → Option Int
  | .num q => some (q.num.tdiv q.den)
  | .bool b => some (if b then 1 else 0)
  | .str s => parseInt s.toList
  | .null | .arr _ | .obj _ => none

/-! ## Fields -/

theorem get?_of_isObj {d : Json} (h : d.isObj = true) (key : String) :
    d.get? key = some (d.field key) := by
  cases d with
  | obj fields => rfl
  | _ => cases h

/-- A field with a value that is true is there. -/
theorem index?_of_truthy {d : Json} {key : String} (h : (d.field key).truthy = true) :
    d.index? key = some (d.field key) := by
  cases d with
  | obj fields =>
    cases hl : fields.lookup key with
    | none => simp [field, get?, getD?, hl, truthy] at h
    | some v => simp [index?, field, get?, getD?, hl]
  | _ => cases h

/-- Only an object has a field that is a text. -/
theorem isObj_of_field {d : Json} {key s : String} (h : d.field key = .str s) :
    d.isObj = true := by
  cases d with
  | obj fields => rfl
  | _ => cases h

theorem isOneOf_iff {texts : List String} {x : Json} :
    isOneOf texts x = true ↔ ∃ t ∈ texts, x = .str t := by
  simp [isOneOf]

@[simp] theorem isOneOf_str {texts : List String} {s : String} :
    isOneOf texts (.str s) = true ↔ s ∈ texts := by
  simp [isOneOf]

/-! ## Texts in sets -/

theorem listed_str {items : List Json} {s : String} :
    listed items (.str s) = true ↔ .str s ∈ items := by
  unfold listed
  rw [List.any_eq_true]
  constructor
  · rintro ⟨y, hy, heq⟩
    rw [decide_eq_true_eq] at heq
    cases y with
    | bool b => cases heq
    | str t =>
      cases heq
      exact hy
    | _ => cases heq
  · exact fun h => ⟨.str s, h, decide_eq_true rfl⟩

section
variable {x : Json} {items : List Json} {s : String}

theorem iter?_of_toSet? (h : x.toSet? = some items) : x.iter? = some items := by
  obtain ⟨l, hl, h⟩ := Option.bind_eq_some_iff.1 h
  split at h
  · cases h
    exact hl
  · cases h

/-- A text in `set(x)` is in `x`. -/
theorem contains?_of_mem_iter? (h : x.iter? = some items) (hs : .str s ∈ items) :
    x.contains? s = some true := by
  cases x with
  | arr l =>
    cases h
    simpa [contains?] using hs
  | obj fields =>
    cases h
    obtain ⟨f, hf, heq⟩ := List.mem_map.1 hs
    cases heq
    simp only [contains?, Option.some.injEq, List.any_eq_true, beq_iff_eq]
    exact ⟨f, hf, rfl⟩
  | str t =>
    cases h
    obtain ⟨c, hc, heq⟩ := List.mem_map.1 hs
    cases heq
    obtain ⟨l, r, hsplit⟩ := List.append_of_mem hc
    have hin : c.toString.toList <:+: t.toList :=
      ⟨l, r, by rw [hsplit, Char.toString_eq_singleton, String.toList_singleton]; simp⟩
    simp only [contains?, decide_eq_true hin]
  | _ => cases h

/-- A text in `x` is in `set(x)`, unless `x` is a text. -/
theorem mem_iter?_of_contains? (h : x.iter? = some items) (htext : ∀ t, x ≠ .str t)
    (hc : x.contains? s = some true) : .str s ∈ items := by
  cases x with
  | arr l =>
    cases h
    simpa [contains?] using hc
  | obj fields =>
    cases h
    simp only [contains?, Option.some.injEq, List.any_eq_true, beq_iff_eq] at hc
    obtain ⟨f, hf, rfl⟩ := hc
    exact List.mem_map.2 ⟨f, hf, rfl⟩
  | str t => exact absurd rfl (htext t)
  | _ => cases h

/-- What has an item is not empty. -/
theorem truthy_of_mem_iter? {y : Json} (h : x.iter? = some items) (hy : y ∈ items) :
    x.truthy = true := by
  cases x with
  | arr l =>
    cases h
    cases items with
    | nil => cases hy
    | cons => rfl
  | obj fields =>
    cases h
    cases fields with
    | nil => cases hy
    | cons => rfl
  | str t =>
    cases h
    have hne : t ≠ "" := by
      rintro rfl
      cases hy
    simp [truthy, hne]
  | _ => cases h

/-- What can be iterated can be searched. -/
theorem contains?_isSome (h : x.iter? = some items) : ∃ b, x.contains? s = some b := by
  cases x with
  | arr l => exact ⟨_, rfl⟩
  | obj fields => exact ⟨_, rfl⟩
  | str t => exact ⟨_, rfl⟩
  | _ => cases h

end

end Json

end Lib
