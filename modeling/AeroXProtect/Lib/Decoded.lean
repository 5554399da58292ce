import AeroXProtect.Lib.Script
import AeroXProtect.Lib.Text
import Mathlib.Data.Rat.Floor
import Mathlib.Tactic.Linarith

/-!
# Decoded values with floating-point numbers

What `json.loads` can answer: besides texts, lists and objects there are integers of any size and
binary floating-point numbers, infinities and NaN among them. The conversions `int(x)` and
`float(x)` and the accesses to an object name the exception they raise, since a program that guards
a conversion guards it against some exceptions only. `Double.ofRat` is the rounding to the nearest
number of 64 bits, ties to even. Texts are sequences of Unicode scalar values.
-/

namespace Lib

/-- The exceptions of the conversions and accesses, of a platform call and of a statement that the
database refuses. -/
inductive PyError
  | typeError | valueError | overflowError | attributeError | keyError | indexError | osError
  | dataError
  deriving DecidableEq, Repr

/-- `except (TypeError, ValueError)` -/
def PyError.conversion : PyError → Bool
  | .typeError | .valueError => true
  | _ => false

/-! ## Floating-point numbers -/

/-- A floating-point number of 64 bits. -/
inductive Double
  | finite (q : Rat)
  | inf (negative : Bool)
  | nan
  deriving DecidableEq, Repr

namespace Double

/-- The nearest integer, the even one of two. -/
def roundHalfEven (q : Rat) : Int :=
  let below := q.floor
  if q - below < 1 / 2 then below
  else if 1 / 2 < q - below then below + 1
  else if below % 2 = 0 then below
  else below + 1

/-- The exponent of the largest power of two up to the magnitude of a number that is not 0. -/
def exponent (q : Rat) : Int :=
  let e : Int := Nat.log2 q.num.natAbs - Nat.log2 q.den
  if (2 : Rat) ^ e ≤ |q| then e else e - 1

/-- The nearest number of 64 bits; too large a magnitude is an infinity. -/
def ofRat (q : Rat) : Double :=
  if q = 0 then .finite 0
  else
    let unit : Rat := 2 ^ max (exponent q - 52) (-1074)
    let r := roundHalfEven (q / unit) * unit
    if (2 : Rat) ^ (1024 : Nat) ≤ |r| then .inf (decide (q < 0)) else .finite r

/-- The digits of a part of a number; an absent part is 0. -/
def parsePart (cs : List Char) : Option (Nat × Nat) :=
  if cs.isEmpty then some (0, 0)
  else
    let groups := cs.splitOn '_'
    if groups.all fun g => !g.isEmpty && g.all Char.isDigit then
      some (Nat.ofDigitChars 10 groups.flatten 0, groups.flatten.length)
    else none

/-- A number without an exponent: digits, a point, digits, of which one part may be absent. -/
def parseMantissa (cs : List Char) : Option Rat :=
  match cs.splitOn '.' with
  | [whole] => if whole.isEmpty then none else (parsePart whole).map fun x => (x.1 : Rat)
  | [whole, fraction] =>
    if whole.isEmpty && fraction.isEmpty then none
    else do
      let w ← parsePart whole
      let f ← parsePart fraction
      some (w.1 + f.1 / 10 ^ f.2)
  | _ => none

/-- The exponent after `e`: a sign and digits. -/
def parseExponent (cs : List Char) : Option Int :=
  match cs with
  | '-' :: cs => if cs.isEmpty then none else (parsePart cs).map fun x => -(x.1 : Int)
  | '+' :: cs => if cs.isEmpty then none else (parsePart cs).map fun x => (x.1 : Int)
  | cs => if cs.isEmpty then none else (parsePart cs).map fun x => (x.1 : Int)

/-- The number after the sign, in lower case. -/
def parseUnsigned (cs : List Char) : Option Double :=
  if cs = "inf".toList ∨ cs = "infinity".toList then some (.inf false)
  else if cs = "nan".toList then some .nan
  else
    match cs.splitOn 'e' with
    | [mantissa] => (parseMantissa mantissa).map ofRat
    | [mantissa, e] => do
      let m ← parseMantissa mantissa
      let n ← parseExponent e
      some (ofRat (m * (10 : Rat) ^ n))
    | _ => none

def neg : Double → Double
  | .finite q => .finite (-q)
  | .inf negative => .inf !negative
  | .nan => .nan

/-- `float(s)`; `none` for a `ValueError`. -/
def parse (s : List Char) : Option Double :=
  match (stripBy isAsciiSpace (s.map toAscii)).map Char.toLower with
  | '-' :: cs => (parseUnsigned cs).map neg
  | '+' :: cs => parseUnsigned cs
  | cs => parseUnsigned cs

/-! ### Arithmetic -/

/-- `x < y` -/
def lt : Double → Double → Bool
  | .finite p, .finite q => decide (p < q)
  | .finite _, .inf negative => !negative
  | .inf negative, .finite _ => negative
  | .inf negative, .inf negative' => negative && !negative'
  | .nan, _ | _, .nan => false

/-- `x <= y` -/
def le (x y : Double) : Bool := x.lt y || x == y && x != .nan

def add : Double → Double → Double
  | .finite p, .finite q => ofRat (p + q)
  | .finite _, .inf negative | .inf negative, .finite _ => .inf negative
  | .inf negative, .inf negative' => if negative = negative' then .inf negative else .nan
  | .nan, _ | _, .nan => .nan

def sub (x y : Double) : Double := x.add y.neg

/-- An infinity times a number. -/
def infMul (negative : Bool) (q : Rat) : Double :=
  if q = 0 then .nan else .inf (negative != decide (q < 0))

def mul : Double → Double → Double
  | .finite p, .finite q => ofRat (p * q)
  | .finite q, .inf negative | .inf negative, .finite q => infMul negative q
  | .inf negative, .inf negative' => .inf (negative != negative')
  | .nan, _ | _, .nan => .nan

/-- `x / y` for a `y` that is not 0. -/
def div : Double → Double → Double
  | .finite p, .finite q => ofRat (p / q)
  | .finite _, .inf _ => .finite 0
  | .inf negative, .finite q => .inf (negative != decide (q < 0))
  | .inf _, .inf _ => .nan
  | .nan, _ | _, .nan => .nan

/-- `abs(x)` -/
def abs (x : Double) : Double := if x.lt (.finite 0) then x.neg else x

/-- `round(x, digits)` -/
def roundTo (digits : Nat) : Double → Double
  | .finite q => ofRat (roundHalfEven (q * 10 ^ digits) / 10 ^ digits)
  | x => x

/-- `int(round(x))` -/
def roundInt : Double → Except PyError Int
  | .finite q => .ok (roundHalfEven q)
  | .inf _ => .error .overflowError
  | .nan => .error .valueError

instance : Zero Double := ⟨.finite 0⟩
instance : Add Double := ⟨add⟩
instance : Sub Double := ⟨sub⟩
instance : Neg Double := ⟨neg⟩
instance : Mul Double := ⟨mul⟩
instance : Div Double := ⟨div⟩
instance : LT Double := ⟨fun x y => x.lt y = true⟩
instance : DecidableLT Double := fun x y => inferInstanceAs (Decidable (x.lt y = true))

theorem abs_roundHalfEven_sub_le (q : Rat) : |(roundHalfEven q : Rat) - q| ≤ 1 / 2 := by
  have hle : (q.floor : Rat) ≤ q := Rat.floor_le q
  have hlt : q < q.floor + 1 := by exact_mod_cast Rat.lt_floor_add_one q
  unfold roundHalfEven
  simp only
  rw [abs_le]
  split_ifs <;> push_cast <;> constructor <;> linarith

/-- The exponent is that of a power of two up to the magnitude. -/
theorem two_zpow_exponent_le {q : Rat} (hq : q ≠ 0) : (2 : Rat) ^ exponent q ≤ |q| := by
  unfold exponent
  simp only
  split
  · assumption
  have hnum : (2 : Rat) ^ (Nat.log2 q.num.natAbs : Int) ≤ |(q.num : Rat)| := by
    have h := Nat.log2_self_le (n := q.num.natAbs) (by simpa using hq)
    rw [zpow_natCast, ← Int.cast_abs, Int.abs_eq_natAbs]
    exact_mod_cast h
  have hden : (q.den : Rat) ≤ (2 : Rat) ^ ((Nat.log2 q.den : Int) + 1) := by
    have h := (Nat.lt_log2_self (n := q.den)).le
    have hcast : (2 : Rat) ^ ((Nat.log2 q.den : Int) + 1) =
        ((2 ^ (Nat.log2 q.den + 1) : Nat) : Rat) := by
      push_cast
      rw [← zpow_natCast]
      push_cast
      rfl
    rw [hcast]
    exact_mod_cast h
  have habs : |q| = |(q.num : Rat)| / q.den := by
    conv_lhs => rw [← Rat.num_div_den q]
    rw [abs_div, Nat.abs_cast]
  have hpos : (0 : Rat) < q.den := by exact_mod_cast q.den_pos
  rw [habs, le_div_iff₀ hpos]
  calc (2 : Rat) ^ ((Nat.log2 q.num.natAbs : Int) - Nat.log2 q.den - 1) * q.den
      ≤ (2 : Rat) ^ ((Nat.log2 q.num.natAbs : Int) - Nat.log2 q.den - 1) *
          (2 : Rat) ^ ((Nat.log2 q.den : Int) + 1) :=
        mul_le_mul_of_nonneg_left hden (zpow_pos two_pos _).le
    _ = (2 : Rat) ^ (Nat.log2 q.num.natAbs : Int) := by
        rw [← zpow_add₀ two_ne_zero]
        congr 1
        ring
    _ ≤ |(q.num : Rat)| := hnum

/-- Rounding is off by little, and what is rounded to an infinity is large. -/
theorem ofRat_cases (q : Rat) :
    (∃ r, ofRat q = .finite r ∧ |r - q| ≤ |q| / 2 ^ 52 + 1 / 2 ^ 60) ∨
      (ofRat q = .inf (decide (q < 0)) ∧ 2 ^ 60 ≤ |q|) := by
  by_cases hq : q = 0
  · exact .inl ⟨0, by rw [ofRat, if_pos hq], by rw [hq]; norm_num⟩
  set unit : Rat := 2 ^ max (exponent q - 52) (-1074) with hunit
  set r : Rat := roundHalfEven (q / unit) * unit with hr
  have hpos : 0 < unit := zpow_pos two_pos _
  have hsmall : unit ≤ |q| / 2 ^ 52 + 1 / 2 ^ 60 := by
    have hnonneg : 0 ≤ |q| / 2 ^ 52 := div_nonneg (abs_nonneg q) (by norm_num)
    rw [hunit]
    rcases max_choice (exponent q - 52) (-1074) with h | h <;> rw [h]
    · rw [zpow_sub₀ two_ne_zero]
      refine (div_le_div_of_nonneg_right (two_zpow_exponent_le hq) (by norm_num)).trans ?_
      exact le_add_of_nonneg_right (by norm_num)
    · have hpow : (2 : Rat) ^ (-1074 : Int) ≤ 2 ^ (-60 : Int) :=
        zpow_le_zpow_right₀ (by norm_num) (by norm_num)
      refine hpow.trans (le_add_of_nonneg_of_le hnonneg ?_)
      norm_num
  have herror : |r - q| ≤ |q| / 2 ^ 52 + 1 / 2 ^ 60 := by
    have heq : r - q = (roundHalfEven (q / unit) - q / unit) * unit := by
      rw [sub_mul, div_mul_cancel₀ _ hpos.ne']
    rw [heq, abs_mul, abs_of_pos hpos]
    have := mul_le_mul_of_nonneg_right (abs_roundHalfEven_sub_le (q / unit)) hpos.le
    linarith
  by_cases hbig : (2 : Rat) ^ (1024 : Nat) ≤ |r|
  · refine .inr ⟨by simp only [ofRat, if_neg hq]; exact if_pos hbig, ?_⟩
    have hlarge : (2 : Rat) ^ 61 ≤ |r| :=
      (pow_le_pow_right₀ (by norm_num) (by norm_num)).trans hbig
    have htri : |r| ≤ |r - q| + |q| := by simpa using abs_add_le (r - q) q
    norm_num at hlarge herror ⊢
    linarith only [hlarge, htri, herror]
  · exact .inl ⟨r, by simp only [ofRat, if_neg hq]; exact if_neg hbig, herror⟩

theorem le_finite_iff {x y : Rat} : (finite x).le (.finite y) = true ↔ x ≤ y := by
  rw [le_iff_lt_or_eq]
  simp [le, lt]

/-- Rounding leaves a number that is not too near a bound on its side of it. -/
theorem le_ofRat_iff {q bound : Rat} (hb : 1 ≤ bound) (hb' : bound ≤ 2 ^ 20)
    (hfar : 1 / 2 ^ 25 < |q - bound|) :
    (ofRat q).le (.finite bound) = true ↔ q ≤ bound := by
  rcases ofRat_cases q with ⟨r, hr, herror⟩ | ⟨hr, hlarge⟩
  · rw [hr, le_finite_iff]
    rw [abs_le] at herror
    norm_num at hb' hfar herror
    rcases le_or_gt q bound with hqb | hqb
    · rw [abs_of_nonpos (by linarith)] at hfar
      refine iff_of_true ?_ hqb
      rcases le_total 0 q with hq | hq
      · rw [abs_of_nonneg hq] at herror
        linarith
      · rw [abs_of_nonpos hq] at herror
        linarith
    · rw [abs_of_nonneg (by linarith)] at hfar
      rw [abs_of_nonneg (by linarith)] at herror
      refine iff_of_false (not_le.2 ?_) (not_le.2 hqb)
      linarith
  · rw [hr]
    norm_num at hb' hlarge
    by_cases hq : q < 0
    · simp only [hq, decide_true]
      exact iff_of_true rfl (by linarith)
    · simp only [hq, decide_false]
      rw [abs_of_nonneg (not_lt.1 hq)] at hlarge
      exact iff_of_false (by simp [le, lt]) (by linarith)

end Double

/-! ## Values -/

/-- A decoded value. -/
inductive PyValue
  | null
  | bool (b : Bool)
  | int (n : Int)
  | float (x : Double)
  | str (s : String)
  | list (items : List PyValue)
  | dict (fields : List (String × PyValue))
  deriving Repr

namespace PyValue

/-- The truth value of a value. -/
def truthy : PyValue → Bool
  | .null => false
  | .bool b => b
  | .int n => n != 0
  | .float x => x != .finite 0
  | .str s => s != ""
  | .list l => !l.isEmpty
  | .dict l => !l.isEmpty

/-- `x or y` -/
def or (x y : PyValue) : PyValue := if x.truthy then x else y

def isNull : PyValue → Bool
  | .null => true
  | _ => false

def isDict : PyValue → Bool
  | .dict _ => true
  | _ => false

/-- `d.get(key, dflt)` -/
def getD (d : PyValue) (key : String) (dflt : PyValue) : Except PyError PyValue :=
  match d with
  | .dict fields => .ok ((fields.lookup key).getD dflt)
  | _ => .error .attributeError

/-- `d.get(key)` -/
def get (d : PyValue) (key : String) : Except PyError PyValue := d.getD key .null

/-- `d[key]` for a text: the other values have no such index. -/
def index (d : PyValue) (key : String) : Except PyError PyValue :=
  match d with
  | .dict fields =>
    match fields.lookup key with
    | some v => .ok v
    | none => .error .keyError
  | _ => .error .typeError

/-- `d.get(key)` of an object, and `null` of any other value. -/
def field (d : PyValue) (key : String) : PyValue :=
  match d with
  | .dict fields => (fields.lookup key).getD .null
  | _ => .null

/-- `d.get(key, dflt)` of an object, and `dflt` of any other value. -/
def fieldD (d : PyValue) (key : String) (dflt : PyValue) : PyValue :=
  match d with
  | .dict fields => (fields.lookup key).getD dflt
  | _ => dflt

/-- `{**d, key: v}` -/
def set (d : PyValue) (key : String) (v : PyValue) : PyValue :=
  match d with
  | .dict fields => .dict ((key, v) :: fields.filter fun f => f.1 != key)
  | _ => d

/-- The value can be a dictionary key. -/
def hashable : PyValue → Bool
  | .list _ | .dict _ => false
  | .null | .bool _ | .int _ | .float _ | .str _ => true

/-- The value of a number, as it compares with an integer. -/
def number : PyValue → Option Rat
  | .bool b => some (if b then 1 else 0)
  | .int n => some n
  | .float (.finite q) => some q
  | _ => none

def infinite : PyValue → Bool
  | .float (.inf _) => true
  | _ => false

/-- `int(x)` -/
def toInt : PyValue → Except PyError Int
  | .bool b => .ok (if b then 1 else 0)
  | .int n => .ok n
  | .float (.finite q) => .ok (q.num.tdiv q.den)
  | .float (.inf _) => .error .overflowError
  | .float .nan => .error .valueError
  | .str s =>
    match parseInt s.toList with
    | some n => .ok n
    | none => .error .valueError
  | .null | .list _ | .dict _ => .error .typeError

/-- `int(d[key])` -/
def intAt (d : PyValue) (key : String) : Except PyError Int := d.index key >>= toInt

/-- An integer as a floating-point number. -/
def floatOfInt (n : Int) : Except PyError Double :=
  match Double.ofRat n with
  | .inf _ => .error .overflowError
  | x => .ok x

/-- `float(x)` -/
def toFloat : PyValue → Except PyError Double
  | .bool b => .ok (.finite (if b then 1 else 0))
  | .int n => floatOfInt n
  | .float x => .ok x
  | .str s =>
    match Double.parse s.toList with
    | some x => .ok x
    | none => .error .valueError
  | .null | .list _ | .dict _ => .error .typeError

/-- An integer beyond the largest floating-point number. -/
def huge : PyValue → Bool
  | .int n =>
    match Double.ofRat n with
    | .inf _ => true
    | _ => false
  | _ => false

/-- `n / d` of integers, `d` not 0. -/
def divInt (n d : Int) : Except PyError Double :=
  match Double.ofRat (n / d) with
  | .inf _ => .error .overflowError
  | x => .ok x

section
variable {v : PyValue}

theorem truthy_of_infinite (h : v.infinite = true) : v.truthy = true := by
  cases v with
  | float x =>
    cases x with
    | inf negative => rfl
    | _ => cases h
  | _ => cases h

/-- `int(x)` behind `except (TypeError, ValueError)` raises for infinities. -/
theorem toInt_caught : (∀ e, v.toInt = .error e → e.conversion = true) ↔ v.infinite = false := by
  constructor
  · intro h
    cases v with
    | float x =>
      cases x with
      | inf negative => cases h .overflowError rfl
      | _ => rfl
    | _ => rfl
  · intro h e he
    cases v with
    | null | list _ | dict _ => cases he; rfl
    | bool _ | int _ => cases he
    | float x =>
      cases x with
      | finite q => cases he
      | inf negative => cases h
      | nan => cases he; rfl
    | str s =>
      rw [toInt] at he
      split at he
      · cases he
      · cases he; rfl

/-- What `int(x)` raises. -/
theorem toInt_raises {e : PyError} (h : v.toInt = .error e) : e = .valueError ∨
    e = .overflowError ∨ e = .typeError ∧ (v.isNull = true ∨ v.hashable = false) := by
  cases v with
  | null => cases h; exact .inr (.inr ⟨rfl, .inl rfl⟩)
  | list _ | dict _ => cases h; exact .inr (.inr ⟨rfl, .inr rfl⟩)
  | bool _ | int _ => cases h
  | float x =>
    cases x with
    | finite q => cases h
    | inf negative => cases h; exact .inr (.inl rfl)
    | nan => cases h; exact .inl rfl
  | str s =>
    rw [toInt] at h
    split at h
    · cases h
    · cases h; exact .inl rfl

theorem divInt_raises {n d : Int} {e : PyError} (h : divInt n d = .error e) :
    e = .overflowError := by
  unfold divInt at h
  split at h
  · cases h; rfl
  · cases h

/-- `float(x)` behind `except (TypeError, ValueError)` raises for integers that are too large. -/
theorem toFloat_caught : (∀ e, v.toFloat = .error e → e.conversion = true) ↔ v.huge = false := by
  cases v with
  | int n =>
    rw [toFloat, floatOfInt, huge]
    split
    · simp [PyError.conversion]
    · simp
  | str s =>
    rw [toFloat]
    split
    · simp [huge]
    · simp [huge, PyError.conversion]
  | _ => simp [toFloat, huge, PyError.conversion]

end

/-! ## Fields -/

section
variable {d v w : PyValue} {key key' : String}

theorem lookup_set {fields : List (String × PyValue)} :
    List.lookup key' ((key, v) :: fields.filter fun f => f.1 != key) =
      if key' = key then some v else fields.lookup key' := by
  by_cases h : key' = key
  · simp [h]
  · have hhead : (key' == key) = false := by simpa using h
    rw [if_neg h, List.lookup_cons, hhead]
    show List.lookup key' (fields.filter fun f => f.1 != key) = fields.lookup key'
    induction fields with
    | nil => rfl
    | cons f fields ih =>
      obtain ⟨k, x⟩ := f
      by_cases hk : k = key
      · simp [hk, List.lookup_cons, hhead, ih]
      · by_cases heq : key' = k <;> simp [hk, List.lookup_cons, heq, ih]

theorem isDict_set (h : d.isDict = true) : (d.set key v).isDict = true := by
  cases d with
  | dict fields => rfl
  | _ => cases h

/-- The lookups after a field is written. -/
theorem index_set (h : d.isDict = true) :
    (d.set key v).index key' = if key' = key then .ok v else d.index key' := by
  cases d with
  | dict fields =>
    simp only [set, index, lookup_set]
    by_cases h' : key' = key <;> simp [h']
  | _ => cases h

theorem intAt_set (h : d.isDict = true) :
    (d.set key v).intAt key' = if key' = key then v.toInt else d.intAt key' := by
  unfold intAt
  rw [index_set h]
  split <;> rfl

theorem getD_set (h : d.isDict = true) :
    (d.set key v).getD key' w = if key' = key then .ok v else d.getD key' w := by
  cases d with
  | dict fields =>
    simp only [set, getD, lookup_set]
    split <;> rfl
  | _ => cases h

theorem field_set (h : d.isDict = true) :
    (d.set key v).field key' = if key' = key then v else d.field key' := by
  cases d with
  | dict fields =>
    simp only [set, field, lookup_set]
    split <;> rfl
  | _ => cases h

theorem field_set_of_ne (h : key' ≠ key) : (d.set key v).field key' = d.field key' := by
  cases d with
  | dict fields => exact (field_set rfl).trans (if_neg h)
  | _ => rfl

/-- Only an object has the method `get`. -/
theorem get_eq_ok : d.get key = .ok v ↔ d.isDict = true ∧ d.field key = v := by
  cases d with
  | dict fields => simp [get, getD, field, isDict]
  | _ => simp [get, getD, isDict]

theorem returns_get : Returns (d.get key) ↔ d.isDict = true := by
  simp only [Returns, get_eq_ok, exists_and_left, exists_eq', and_true]

/-- Only an object has a key. -/
theorem isDict_of_intAt {n : Int} (h : d.intAt key = .ok n) : d.isDict = true := by
  cases d with
  | dict fields => rfl
  | _ => cases h

end

end PyValue

/-! ## The runtime -/

/-- What depends on the runtime and on its tables: `repr(x)` of a value that is not a text,
`s.lower()`, `s.upper()`, the MD5 digest of a text, and `datetime.fromtimestamp(x, UTC)` in
microseconds, which raises three exceptions. -/
structure Runtime where
  repr : PyValue → String
  lower : String → String
  upper : String → String
  md5 : String → BitVec 128
  fromTimestamp : Double → Except PyError Int
  raises : ∀ x e, fromTimestamp x = .error e →
    e = .valueError ∨ e = .overflowError ∨ e = .osError

namespace Runtime

/-- `str(x)` -/
def str (rt : Runtime) : PyValue → String
  | .str s => s
  | x => rt.repr x

/-- `hashlib.md5(s.encode()).hexdigest()` -/
def hexdigest (rt : Runtime) (s : String) : String := (rt.md5 s).toHex

/-- A number of seconds in microseconds: the fraction is rounded. -/
def micros (q : Rat) : Int :=
  let whole := q.num.tdiv q.den
  match Double.ofRat ((q - whole) * 10 ^ 6) with
  | .finite fraction => whole * 10 ^ 6 + Double.roundHalfEven fraction
  | _ => whole * 10 ^ 6

/-- `datetime.fromtimestamp(x, UTC)` with a `time_t` of 64 bits and a `tm_year` of 32: too many
seconds, a year that `gmtime` cannot give, a year that is not in 1..9999. -/
def fromTimestamp64 : Double → Except PyError Int
  | .nan => .error .valueError
  | .inf _ => .error .overflowError
  | .finite q =>
    let seconds := micros q / 10 ^ 6
    if seconds < -2 ^ 63 ∨ 2 ^ 63 ≤ seconds then .error .overflowError
    else if seconds < -67768040609740800 ∨ 67768036191676799 < seconds then .error .osError
    else if seconds < -62135596800 ∨ 253402300799 < seconds then .error .valueError
    else .ok (micros q)

theorem fromTimestamp64_raises (x : Double) (e : PyError) (h : fromTimestamp64 x = .error e) :
    e = .valueError ∨ e = .overflowError ∨ e = .osError := by
  cases x with
  | nan => cases h; exact .inl rfl
  | inf negative => cases h; exact .inr (.inl rfl)
  | finite q =>
    dsimp only [fromTimestamp64] at h
    split at h
    · cases h; exact .inr (.inl rfl)
    · split at h
      · cases h; exact .inr (.inr rfl)
      · split at h
        · cases h; exact .inl rfl
        · cases h

/-- A runtime for ASCII texts, as far as no other value is printed and no digest is taken. -/
def ascii : Runtime where
  repr _ := ""
  lower := String.toLower
  upper := String.toUpper
  md5 _ := 0
  fromTimestamp := fromTimestamp64
  raises := fromTimestamp64_raises

end Runtime

end Lib
