import AeroXProtect.Lib.Text
import Mathlib.Algebra.Group.Nat.Defs

/-!
# Internet addresses

Addresses of both families, their texts and the blocks they are told apart by. A text of the older
family has four decimal numbers without leading zeros; one of the newer family has eight hexadecimal
numbers, of which a run of zeros may be left out once, may end in a text of the older family, and
may name a scope. An address of the older family can be written in the newer one (`mapped`), and
then it is the older address that a connection goes to (`unmapped`).
-/

namespace Lib

/-- An address. -/
inductive Address
  | v4 (a : BitVec 32)
  | v6 (a : BitVec 128)
  deriving DecidableEq, Repr

namespace Address

/-! ## Texts -/

/-- A number of an address of the older family. -/
def parseOctet (cs : List Char) : Option Nat :=
  if cs.isEmpty || !cs.all Char.isDigit || 3 < cs.length then none
  else if cs ≠ ['0'] ∧ cs.head? = some '0' then none
  else if 255 < Nat.ofDigitChars 10 cs 0 then none
  else some (Nat.ofDigitChars 10 cs 0)

def parseV4 (cs : List Char) : Option Nat := do
  let octets := cs.splitOn '.'
  if octets.length ≠ 4 then none
  let values ← octets.mapM parseOctet
  return values.foldl (fun n v => 256 * n + v) 0

/-- A number of an address of the newer family. -/
def parseHextet (cs : List Char) : Option Nat :=
  let isHex := fun c : Char => c.isDigit || decide ('a' ≤ c ∧ c ≤ 'f' ∨ 'A' ≤ c ∧ c ≤ 'F')
  let value := fun c : Char => if c.isDigit then c.toNat - 48 else c.toLower.toNat - 87
  if cs.isEmpty || !cs.all isHex || 4 < cs.length then none
  else some (cs.foldl (fun n c => 16 * n + value c) 0)

/-- The numbers of a text, where a last part with dots counts as two. -/
def parseParts (parts : List (List Char)) : Option (List (List Char)) :=
  match parts.getLast? with
  | some last =>
    if last.contains '.' then do
      let a ← parseV4 last
      return parts.dropLast ++ [Nat.toDigits 16 (a / 65536), Nat.toDigits 16 (a % 65536)]
    else some parts
  | none => none

/-- The numbers from a part to the left and to the right of the run of zeros. -/
def parseSkipped (hi lo : List (List Char)) : Option Nat := do
  -- an empty end belongs to the run
  let hi ← if hi.head? = some [] then (if hi.length = 1 then some [] else none) else some hi
  let lo ← if lo.getLast? = some [] then (if lo.length = 1 then some [] else none) else some lo
  if 8 ≤ hi.length + lo.length then none
  let his ← hi.mapM parseHextet
  let los ← lo.mapM parseHextet
  let values := his ++ List.replicate (8 - (hi.length + lo.length)) 0 ++ los
  return values.foldl (fun n v => 65536 * n + v) 0

def parseV6 (cs : List Char) : Option Nat := do
  let parts := cs.splitOn ':'
  if parts.length < 3 then none
  let parts ← parseParts parts
  if 9 < parts.length then none
  let inner := (List.range parts.length).filter fun i =>
    decide (0 < i ∧ i + 1 < parts.length) && (parts[i]?.getD []).isEmpty
  match inner with
  | [] =>
    if parts.length ≠ 8 then none
    let values ← parts.mapM parseHextet
    return values.foldl (fun n v => 65536 * n + v) 0
  | [i] => parseSkipped (parts.take i) (parts.drop (i + 1))
  | _ => none

/-- The text without its scope. -/
def dropScope (cs : List Char) : Option (List Char) :=
  match cut '%' cs with
  | none => some cs
  | some (address, scope) =>
    if scope.isEmpty || scope.contains '%' then none else some address

/-- `ipaddress.ip_address(s)`; `none` for a `ValueError`. -/
def parse (cs : List Char) : Option Address :=
  match parseV4 cs with
  | some a => some (.v4 (BitVec.ofNat 32 a))
  | none =>
    if cs.contains '/' then none
    else ((dropScope cs).bind parseV6).map fun a => .v6 (BitVec.ofNat 128 a)

end Address

/-! ## Blocks -/

/-- The addresses that start with the first `bits` bits of another one of the same family. -/
structure Network where
  address : Address
  bits : Nat
  deriving DecidableEq, Repr

/-- `a in net`, of the same family. -/
def Network.contains (net : Network) : Address → Bool
  | .v4 a =>
    match net.address with
    | .v4 b => decide (a.toNat / 2 ^ (32 - net.bits) = b.toNat / 2 ^ (32 - net.bits))
    | .v6 _ => false
  | .v6 a =>
    match net.address with
    | .v4 _ => false
    | .v6 b => decide (a.toNat / 2 ^ (128 - net.bits) = b.toNat / 2 ^ (128 - net.bits))

namespace Address

/-- `a.ipv4_mapped` -/
def mapped : Address → Option (BitVec 32)
  | .v4 _ => none
  | .v6 a => if a.toNat / 2 ^ 32 = 0xffff then some (BitVec.ofNat 32 a.toNat) else none

/-- The address that a connection goes to. -/
def unmapped (a : Address) : Address := (a.mapped.map v4).getD a

/-- The multicast addresses of each family. -/
def multicast : Address → Bool
  | .v4 a => decide (a.toNat / 2 ^ 28 = 0xe)
  | .v6 a => decide (a.toNat / 2 ^ 120 = 0xff)

/-- The address of each family that stands for none. -/
def unspecified : Address → Bool
  | .v4 a => decide (a = 0)
  | .v6 a => decide (a = 0)

/-- `a.is_multicast`, which looks at the address that is mapped. -/
def isMulticast (a : Address) : Bool := a.unmapped.multicast

/-- `a.is_unspecified` -/
def isUnspecified (a : Address) : Bool := a.unmapped.unspecified

example : parse "192.168.1.20".toList = some (.v4 0xc0a80114) := by decide +kernel
example : parse "fe80::1%eth0".toList = some (.v6 (0xfe80 <<< 112 + 1)) := by decide +kernel
example : parse "::ffff:127.0.0.1".toList = some (.v6 0xffff7f000001) := by decide +kernel
example : parse "127.1".toList = none ∧ parse "0177.0.0.1".toList = none ∧
    parse "1::2::3".toList = none := by decide +kernel

end Address

end Lib
