import Mathlib.Tactic.Common

/-!
# Texts as Python reads them

White space, digits, `int(s)` and `int(s, 16)` of a text, with Unicode as Python takes it: a decimal
digit of any script counts, single underscores may separate digits, one sign and white space may
come around them, and a text of more than 4300 decimal digits is refused. `parseInt_of_digits` says
what ASCII digits are read as, `parseInt_formatInt` is the round trip with the decimal text of an
integer, and `cut_append` says where a text is cut at a character.
-/

namespace Lib

/-- A white-space character. -/
def isSpace (c : Char) : Bool :=
  let n := c.toNat
  decide (9 ≤ n ∧ n ≤ 13 ∨ 28 ≤ n ∧ n ≤ 32 ∨ n = 0x85 ∨ n = 0xa0 ∨ n = 0x1680 ∨
    0x2000 ≤ n ∧ n ≤ 0x200a ∨ n = 0x2028 ∨ n = 0x2029 ∨ n = 0x202f ∨ n = 0x205f ∨ n = 0x3000)

/-- A text without the characters that satisfy `p` at its ends. -/
def stripBy (p : Char → Bool) (s : List Char) : List Char :=
  ((s.dropWhile p).reverse.dropWhile p).reverse

/-- `s.strip()` -/
def strip (s : List Char) : List Char := stripBy isSpace s

/-- A character that ends a line. -/
def isLineBreak (c : Char) : Bool :=
  let n := c.toNat
  decide (10 ≤ n ∧ n ≤ 13 ∨ 28 ≤ n ∧ n ≤ 30 ∨ n = 0x85 ∨ n = 0x2028 ∨ n = 0x2029)

/-- `s.splitlines()` behind the characters of a line that has begun, the last one first. -/
def splitLinesFrom (line : List Char) : List Char → List (List Char)
  | [] => if line.isEmpty then [] else [line.reverse]
  | '\r' :: '\n' :: s => line.reverse :: splitLinesFrom [] s
  | c :: s =>
    if isLineBreak c then line.reverse :: splitLinesFrom [] s else splitLinesFrom (c :: line) s

/-- `s.splitlines()` -/
def splitLines (s : List Char) : List (List Char) := splitLinesFrom [] s

/-- `s.split()`: the parts between white space. -/
def words (s : List Char) : List (List Char) := (s.splitOnP isSpace).filter fun w => !w.isEmpty

/-- `s.split(c, 1)` of a text with the character; `none` for one without it. -/
def cut (c : Char) (s : List Char) : Option (List Char × List Char) :=
  if c ∈ s then some (s.takeWhile (· != c), (s.dropWhile (· != c)).tail) else none

/-- The zeros of the decimal digits that Unicode has besides the ASCII ones. -/
def digitZeros : List Nat :=
  [0x660, 0x6f0, 0x7c0, 0x966, 0x9e6, 0xa66, 0xae6, 0xb66, 0xbe6, 0xc66, 0xce6, 0xd66, 0xde6, 0xe50,
    0xed0, 0xf20, 0x1040, 0x1090, 0x17e0, 0x1810, 0x1946, 0x19d0, 0x1a80, 0x1a90, 0x1b50, 0x1bb0,
    0x1c40, 0x1c50, 0xa620, 0xa8d0, 0xa900, 0xa9d0, 0xa9f0, 0xaa50, 0xabf0, 0xff10, 0x104a0,
    0x10d30, 0x11066, 0x110f0, 0x11136, 0x111d0, 0x112f0, 0x11450, 0x114d0, 0x11650, 0x116c0,
    0x11730, 0x118e0, 0x11950, 0x11c50, 0x11d50, 0x11da0, 0x11f50, 0x16a60, 0x16ac0, 0x16b50,
    0x1d7ce, 0x1d7d8, 0x1d7e2, 0x1d7ec, 0x1d7f6, 0x1e140, 0x1e2f0, 0x1e4f0, 0x1e950, 0x1fbf0]

/-- The ranges of the digits that are not decimal. -/
def digitRanges : List (Nat × Nat) :=
  [(0xb2, 0xb3), (0xb9, 0xb9), (0x1369, 0x1371), (0x19da, 0x19da), (0x2070, 0x2070),
    (0x2074, 0x2079), (0x2080, 0x2089), (0x2460, 0x2468), (0x2474, 0x247c), (0x2488, 0x2490),
    (0x24ea, 0x24ea), (0x24f5, 0x24fd), (0x24ff, 0x24ff), (0x2776, 0x277e), (0x2780, 0x2788),
    (0x278a, 0x2792), (0x10a40, 0x10a43), (0x10e60, 0x10e68), (0x11052, 0x1105a),
    (0x1f100, 0x1f10a)]

/-- `s.isdigit()` -/
def isDigitText (s : List Char) : Bool :=
  !s.isEmpty && s.all fun c => c.isDigit ||
    digitZeros.any (fun z => decide (z ≤ c.toNat ∧ c.toNat < z + 10)) ||
    digitRanges.any fun r => decide (r.1 ≤ c.toNat ∧ c.toNat ≤ r.2)

/-- A character as `int` takes it: white space and digits beyond ASCII become a space and ASCII
digits, other characters become one that is no digit. -/
def toAscii (c : Char) : Char :=
  if c.toNat < 127 then c
  else if isSpace c then ' '
  else
    match digitZeros.find? fun z => decide (z ≤ c.toNat ∧ c.toNat < z + 10) with
    | some z => Nat.digitChar (c.toNat - z)
    | none => '?'

/-- White space around an ASCII number. -/
def isAsciiSpace (c : Char) : Bool := decide (9 ≤ c.toNat ∧ c.toNat ≤ 13 ∨ c.toNat = 32)

def maxStrDigits : Nat := 4300

/-- The digits of a number, with single underscores between them. -/
def parseDigits (cs : List Char) : Option Nat :=
  let groups := cs.splitOn '_'
  if (groups.all fun g => !g.isEmpty && g.all Char.isDigit) ∧
      groups.flatten.length ≤ maxStrDigits then
    some (Nat.ofDigitChars 10 groups.flatten 0)
  else none

/-- `int(s)`; `none` for a `ValueError`. -/
def parseInt (s : List Char) : Option Int :=
  match stripBy isAsciiSpace (s.map toAscii) with
  | '-' :: cs => (parseDigits cs).map fun n : Nat => -(n : Int)
  | '+' :: cs => (parseDigits cs).map fun n : Nat => (n : Int)
  | cs => (parseDigits cs).map fun n : Nat => (n : Int)

/-- The hexadecimal digits of a number, with single underscores between them. -/
def parseHexDigits (cs : List Char) : Option Nat :=
  let groups := cs.splitOn '_'
  let isHex := fun c : Char => c.isDigit || decide ('a' ≤ c ∧ c ≤ 'f' ∨ 'A' ≤ c ∧ c ≤ 'F')
  let value := fun c : Char => if c.isDigit then c.toNat - 48 else c.toLower.toNat - 87
  if groups.all fun g => !g.isEmpty && g.all isHex then
    some (groups.flatten.foldl (fun n c => 16 * n + value c) 0)
  else none

/-- A hexadecimal number after the sign: a prefix may come before the digits, and an underscore
after the prefix. -/
def parseHexUnsigned : List Char → Option Nat
  | '0' :: 'x' :: '_' :: cs | '0' :: 'X' :: '_' :: cs => parseHexDigits cs
  | '0' :: 'x' :: cs | '0' :: 'X' :: cs => parseHexDigits cs
  | cs => parseHexDigits cs

/-- `int(s, 16)`; `none` for a `ValueError`. -/
def parseHex (s : List Char) : Option Int :=
  match stripBy isAsciiSpace (s.map toAscii) with
  | '-' :: cs => (parseHexUnsigned cs).map fun n : Nat => -(n : Int)
  | '+' :: cs => (parseHexUnsigned cs).map fun n : Nat => (n : Int)
  | cs => (parseHexUnsigned cs).map fun n : Nat => (n : Int)

/-- `'%d' % n`, without a limit on its length. -/
def formatInt (n : Int) : List Char :=
  (if n < 0 then ['-'] else []) ++ Nat.toDigits 10 n.natAbs

/-! ## Cutting a text -/

section
variable {c : Char} {s a b : List Char}

theorem cut_append (h : c ∉ a) : cut c (a ++ c :: b) = some (a, b) := by
  have hall : ∀ x ∈ a, (x != c) = true := by
    intro x hx
    rw [bne_iff_ne]
    rintro rfl
    exact h hx
  rw [cut, if_pos (by simp), List.takeWhile_append_of_pos hall, List.dropWhile_append_of_pos hall]
  simp

theorem cut_eq_none : cut c s = none ↔ c ∉ s := by
  unfold cut
  split <;> simp_all

end

/-! ## The round trip -/

section
variable {c : Char} {n : Nat}

theorem isDigit_toNat (h : c.isDigit = true) : 48 ≤ c.toNat ∧ c.toNat ≤ 57 := by
  simp only [Char.isDigit, Bool.and_eq_true, decide_eq_true_eq, ge_iff_le,
    UInt32.le_iff_toNat_le] at h
  exact h

theorem isAsciiSpace_of_isDigit (h : c.isDigit = true) : isAsciiSpace c = false := by
  have hrange := isDigit_toNat h
  rw [isAsciiSpace, decide_eq_false_iff_not]
  omega

theorem toAscii_of_lt (h : c.toNat < 127) : toAscii c = c := if_pos h

/-- A text without white space at its ends. -/
theorem stripBy_eq_self {p : Char → Bool} {s : List Char} (h : ∀ c ∈ s, p c = false) :
    stripBy p s = s := by
  have hdrop : ∀ l : List Char, (∀ c ∈ l, p c = false) → l.dropWhile p = l := by
    intro l hl
    cases l with
    | nil => rfl
    | cons c l => simp [hl c (.head _)]
  rw [stripBy, hdrop s h, hdrop _ fun c hc => h c (List.mem_reverse.1 hc), List.reverse_reverse]

theorem dropWhile_dropWhile_self (p : Char → Bool) (s : List Char) :
    (s.dropWhile p).dropWhile p = s.dropWhile p := by
  induction s with
  | nil => rfl
  | cons c s ih =>
    rw [List.dropWhile_cons]
    split
    · exact ih
    · next hc => rw [List.dropWhile_cons, if_neg hc]

/-- A text that was stripped stays as it is. -/
theorem stripBy_stripBy (p : Char → Bool) (s : List Char) :
    stripBy p (stripBy p s) = stripBy p s := by
  -- stripping the end leaves the first character, which the front stripping has kept
  have hfront : (stripBy p s).dropWhile p = stripBy p s := by
    cases hs : stripBy p s with
    | nil => rfl
    | cons c rest =>
      obtain ⟨back, hback⟩ : stripBy p s <+: s.dropWhile p := by
        have := List.reverse_prefix.2 (List.dropWhile_suffix p (l := (s.dropWhile p).reverse))
        rwa [List.reverse_reverse] at this
      have hself := dropWhile_dropWhile_self p s
      rw [← hback, hs, List.cons_append, List.dropWhile_cons] at hself
      split at hself
      · have hle := (List.dropWhile_suffix p (l := rest ++ back)).length_le
        rw [hself, List.length_cons] at hle
        omega
      · next hc => rw [List.dropWhile_cons, if_neg hc]
  rw [stripBy, hfront, stripBy, List.reverse_reverse, dropWhile_dropWhile_self]

theorem isDigit_toDigits (hc : c ∈ Nat.toDigits 10 n) : c.isDigit = true :=
  Nat.isDigit_of_mem_toDigits (by decide) (by decide) hc

/-- Digits are read as a number, unless there are too many. -/
theorem parseDigits_of_digits {s : List Char} (hne : s ≠ []) (h : ∀ c ∈ s, c.isDigit = true) :
    parseDigits s =
      if s.length ≤ maxStrDigits then some (Nat.ofDigitChars 10 s 0) else none := by
  have hsplit : s.splitOn '_' = [s] := by
    exact List.splitOn_eq_singleton fun hmem => absurd (h _ hmem) (by decide)
  have hall : s.all Char.isDigit = true := List.all_eq_true.2 h
  have hempty : s.isEmpty = false := by simpa using hne
  simp [parseDigits, hsplit, hall, hempty]

theorem parseDigits_toDigits (hlen : (Nat.toDigits 10 n).length ≤ maxStrDigits) :
    parseDigits (Nat.toDigits 10 n) = some n := by
  rw [parseDigits_of_digits Nat.toDigits_ne_nil fun c hc => isDigit_toDigits hc, if_pos hlen,
    Nat.ofDigitChars_ten_toDigits]

/-- A text of ASCII digits is read as its digits. -/
theorem parseInt_of_digits {s : List Char} (hne : s ≠ []) (h : ∀ c ∈ s, c.isDigit = true) :
    parseInt s =
      if s.length ≤ maxStrDigits then some (Nat.ofDigitChars 10 s 0 : Int) else none := by
  have hmap : s.map toAscii = s := by
    refine (List.map_congr_left fun c hc => ?_).trans (List.map_id _)
    exact toAscii_of_lt (by have := isDigit_toNat (h c hc); omega)
  have hstrip : stripBy isAsciiSpace s = s :=
    stripBy_eq_self fun c hc => isAsciiSpace_of_isDigit (h c hc)
  rw [parseInt, hmap, hstrip]
  split
  · exact absurd (h '-' List.mem_cons_self) (by decide)
  · exact absurd (h '+' List.mem_cons_self) (by decide)
  · rw [parseDigits_of_digits hne h]
    split <;> rfl

/-- The characters of a decimal text are a sign and digits. -/
theorem mem_formatInt {n : Int} (h : c ∈ formatInt n) : c = '-' ∨ c.isDigit = true := by
  rcases List.mem_append.1 h with h | h
  · split at h
    · exact .inl (List.mem_singleton.1 h)
    · cases h
  · exact .inr (isDigit_toDigits h)

/-- Reading the decimal text of an integer, if it is not too long. -/
theorem parseInt_formatInt {n : Int} (hlen : (Nat.toDigits 10 n.natAbs).length ≤ maxStrDigits) :
    parseInt (formatInt n) = some n := by
  have hmap : (formatInt n).map toAscii = formatInt n := by
    refine (List.map_congr_left fun c hc => ?_).trans (List.map_id _)
    rcases mem_formatInt hc with rfl | hc
    · rfl
    · exact toAscii_of_lt (by have := isDigit_toNat hc; omega)
  have hstrip : stripBy isAsciiSpace (formatInt n) = formatInt n := by
    refine stripBy_eq_self fun c hc => ?_
    rcases mem_formatInt hc with rfl | hc
    · rfl
    · exact isAsciiSpace_of_isDigit hc
  rw [parseInt, hmap, hstrip, formatInt]
  by_cases hneg : n < 0
  · rw [if_pos hneg]
    simp only [List.singleton_append, parseDigits_toDigits hlen, Option.map_some,
      Option.some.injEq]
    omega
  · rw [if_neg hneg, List.nil_append]
    have hpos : ((n.natAbs : Nat) : Int) = n := by omega
    split
    · next cs heq =>
      exact absurd (isDigit_toDigits (heq ▸ List.mem_cons_self : '-' ∈ Nat.toDigits 10 n.natAbs))
        (by decide)
    · next cs heq =>
      exact absurd (isDigit_toDigits (heq ▸ List.mem_cons_self : '+' ∈ Nat.toDigits 10 n.natAbs))
        (by decide)
    · rw [parseDigits_toDigits hlen, Option.map_some, hpos]

end

end Lib
