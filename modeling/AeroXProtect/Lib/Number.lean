import AeroXProtect.Lib.Decoded

/-!
# Arithmetic of decoded numbers

What a program computes with the numbers of a decoded value before it has looked at their types:
integers of any size stay integers among themselves, and one floating-point number makes the other
operand one, which raises for an integer that is too large. Comparisons are exact. What is neither a
number nor a truth value is a `TypeError` here, also where the repetition of a text or a list comes
before it.
-/

namespace Lib

/-- An operand. -/
inductive Number
  | int (n : Int)
  | float (x : Double)
  deriving DecidableEq, Repr

namespace Number

/-- The value, which a comparison takes as it is. -/
def exact : Number → Double
  | .int n => .finite n
  | .float x => x

/-- `a < b` -/
def lt (a b : Number) : Bool := a.exact.lt b.exact

def isZero (a : Number) : Bool := decide (a.exact = .finite 0)

/-- The operand beside a floating-point number. -/
def toDouble : Number → Except PyError Double
  | .int n => PyValue.floatOfInt n
  | .float x => .ok x

/-- An integer beyond the largest floating-point number. -/
def huge : Number → Bool
  | .int n => (PyValue.int n).huge
  | .float _ => false

/-- An operation, on integers and on floating-point numbers. -/
def arith (f : Int → Int → Int) (g : Double → Double → Double) (a b : Number) :
    Except PyError Number :=
  match a, b with
  | .int m, .int n => .ok (.int (f m n))
  | _, _ => do
    let x ← a.toDouble
    let y ← b.toDouble
    return .float (g x y)

def add : Number → Number → Except PyError Number := arith (· + ·) Double.add
def sub : Number → Number → Except PyError Number := arith (· - ·) Double.sub
def mul : Number → Number → Except PyError Number := arith (· * ·) Double.mul

/-- `a - b` is a number that a floating-point number can hold. -/
def Apart (a b : Number) : Prop := ∃ d, a.sub b = .ok d ∧ d.huge = false

variable {a b : Number} {f : Int → Int → Int} {g : Double → Double → Double} {x y : Double}

end Number

namespace PyValue

/-- The operand that a value is. -/
def toNumber : PyValue → Except PyError Number
  | .bool b => .ok (.int (if b then 1 else 0))
  | .int n => .ok (.int n)
  | .float x => .ok (.float x)
  | .null | .str _ | .list _ | .dict _ => .error .typeError

/-- `v[k]`; a decoded object has no key that is an integer. -/
def item (v : PyValue) (k : Nat) : Except PyError PyValue :=
  match v with
  | .list items =>
    match items[k]? with
    | some x => .ok x
    | none => .error .indexError
  | .str s =>
    match s.toList[k]? with
    | some c => .ok (.str c.toString)
    | none => .error .indexError
  | .dict _ => .error .keyError
  | .null | .bool _ | .int _ | .float _ => .error .typeError

/-- `a, b = v` -/
def unpackPair (v : PyValue) : Except PyError (PyValue × PyValue) :=
  match v with
  | .list [a, b] => .ok (a, b)
  | .list _ => .error .valueError
  | .str s =>
    match s.toList with
    | [a, b] => .ok (.str a.toString, .str b.toString)
    | _ => .error .valueError
  | .dict [(a, _), (b, _)] => .ok (.str a, .str b)
  | .dict _ => .error .valueError
  | .null | .bool _ | .int _ | .float _ => .error .typeError

end PyValue

end Lib
