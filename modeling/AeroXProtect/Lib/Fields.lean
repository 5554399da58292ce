import Mathlib

/-!
# Texts with fields of a fixed width

A format of digits and separators prints numbers, each with zeros in front up to its width, and
reads them again. `readFields_printFields` is the round trip, for numbers that fit their widths, and
`printFields_lt` says that the texts are ordered as the numbers.
-/

namespace Lib

/-- `'%0*d' % (w, n)` -/
def padded (w n : Nat) : List Char := (Nat.toDigits 10 n).leftpad w '0'

/-- The number that `w` digits say, and what is behind them. -/
def readDigits (w : Nat) (s : List Char) : Option (Nat × List Char) :=
  if (s.take w).length = w ∧ (s.take w).all Char.isDigit then
    some (Nat.ofDigitChars 10 (s.take w) 0, s.drop w)
  else none

/-- A part of a format. -/
inductive Field
  | digits (width : Nat)
  | lit (c : Char)
  deriving DecidableEq, Repr

/-- The text of some numbers. -/
def printFields : List Field → List Nat → List Char
  | [], _ => []
  | .lit c :: fields, ns => c :: printFields fields ns
  | .digits w :: fields, ns => padded w (ns.headD 0) ++ printFields fields ns.tail

/-- The numbers of a text, and what is behind them. -/
def readFields : List Field → List Char → Option (List Nat × List Char)
  | [], s => some ([], s)
  | .lit c :: fields, s => if s.head? = some c then readFields fields s.tail else none
  | .digits w :: fields, s =>
    (readDigits w s).bind fun r => (readFields fields r.2).map fun x => (r.1 :: x.1, x.2)

/-- Each number has a place that it fits. -/
def Fits : List Field → List Nat → Prop
  | [], ns => ns = []
  | .lit _ :: fields, ns => Fits fields ns
  | .digits w :: fields, ns => 0 < w ∧ ∃ n rest, ns = n :: rest ∧ n < 10 ^ w ∧ Fits fields rest

section
variable {w n : Nat} {c : Char} {fields : List Field} {ns : List Nat}

theorem isDigit_padded (h : c ∈ padded w n) : c.isDigit = true := by
  unfold padded List.leftpad at h
  rcases List.mem_append.1 h with h | h
  · rw [(List.mem_replicate.1 h).2]
    rfl
  · exact Nat.isDigit_of_mem_toDigits (by decide) (by decide) h

theorem length_padded (hw : 0 < w) (h : n < 10 ^ w) : (padded w n).length = w := by
  rw [padded, List.length_leftpad]
  exact Nat.max_eq_left ((Nat.length_toDigits_le_iff (by decide) hw).2 h)

theorem ofDigitChars_padded (w n : Nat) : Nat.ofDigitChars 10 (padded w n) 0 = n := by
  rw [padded, List.leftpad, Nat.ofDigitChars_append, Nat.ofDigitChars_replicate_zero,
    Nat.mul_zero, Nat.ofDigitChars_ten_toDigits]

theorem readDigits_padded (hw : 0 < w) (h : n < 10 ^ w) (s : List Char) :
    readDigits w (padded w n ++ s) = some (n, s) := by
  have hlen := length_padded hw h
  have hall : (padded w n).all Char.isDigit = true := List.all_eq_true.2 fun c => isDigit_padded
  rw [readDigits, List.take_left' hlen, List.drop_left' hlen, if_pos ⟨hlen, hall⟩,
    ofDigitChars_padded]

/-- **The round trip.** -/
theorem readFields_printFields (h : Fits fields ns) (s : List Char) :
    readFields fields (printFields fields ns ++ s) = some (ns, s) := by
  induction fields generalizing ns with
  | nil =>
    obtain rfl : ns = [] := h
    rfl
  | cons f fields ih =>
    cases f with
    | lit c =>
      rw [printFields, List.cons_append, readFields, List.head?_cons, if_pos rfl, List.tail_cons]
      exact ih h
    | digits w =>
      obtain ⟨hw, n, rest, rfl, hn, hfits⟩ := h
      rw [printFields, List.append_assoc, readFields, List.headD_cons, List.tail_cons,
        readDigits_padded hw hn, Option.bind_some, ih hfits]
      rfl

/-- The characters of a text are digits and the separators of the format. -/
theorem mem_printFields (h : c ∈ printFields fields ns) :
    c.isDigit = true ∨ .lit c ∈ fields := by
  induction fields generalizing ns with
  | nil => cases h
  | cons f fields ih =>
    cases f with
    | lit c' =>
      rcases List.mem_cons.1 h with rfl | h
      · exact .inr (.head _)
      · exact (ih h).imp_right (.tail _)
    | digits w =>
      rcases List.mem_append.1 h with h | h
      · exact .inl (isDigit_padded h)
      · exact (ih h).imp_right (.tail _)

/-! ## The order of texts -/

/-- The number so far decides between texts of the same length. -/
theorem ofDigitChars_lt {s t : List Char} {a b : Nat} (hlen : s.length = t.length)
    (hs : ∀ c ∈ s, c.isDigit = true) (h : a < b) :
    Nat.ofDigitChars 10 s a < Nat.ofDigitChars 10 t b := by
  induction s generalizing t a b with
  | nil =>
    obtain rfl : t = [] := List.length_eq_zero_iff.1 hlen.symm
    exact h
  | cons c s ih =>
    cases t with
    | nil => cases hlen
    | cons d t =>
      have hc := hs c (.head _)
      simp only [Char.isDigit, Bool.and_eq_true, decide_eq_true_eq, UInt32.le_iff_toNat_le] at hc
      have hnine : c.toNat ≤ 57 := hc.2
      rw [Nat.ofDigitChars_cons, Nat.ofDigitChars_cons]
      refine ih (Nat.succ.inj hlen) (fun c hc => hs c (.tail _ hc)) ?_
      have hzero : '0'.toNat = 48 := rfl
      omega

/-- Texts of digits of the same length are ordered as their numbers. -/
theorem ofDigitChars_lt_of_lt {s t : List Char} {a : Nat} (hlen : s.length = t.length)
    (hs : ∀ c ∈ s, c.isDigit = true) (ht : ∀ c ∈ t, c.isDigit = true) (h : s < t) :
    Nat.ofDigitChars 10 s a < Nat.ofDigitChars 10 t a := by
  induction s generalizing t a with
  | nil =>
    obtain rfl : t = [] := List.length_eq_zero_iff.1 hlen.symm
    exact absurd h (lt_irrefl _)
  | cons c s ih =>
    cases t with
    | nil => cases hlen
    | cons d t =>
      rw [Nat.ofDigitChars_cons, Nat.ofDigitChars_cons]
      rcases List.cons_lt_cons_iff.1 h with hcd | ⟨rfl, hst⟩
      · refine ofDigitChars_lt (Nat.succ.inj hlen) (fun c hc => hs c (.tail _ hc)) ?_
        have hc := hs c (.head _)
        simp only [Char.isDigit, Bool.and_eq_true, decide_eq_true_eq, UInt32.le_iff_toNat_le] at hc
        have hzero : 48 ≤ c.toNat := hc.1
        have hlt : c.toNat < d.toNat := hcd
        have hzero' : '0'.toNat = 48 := rfl
        omega
      · exact ih (Nat.succ.inj hlen) (fun c hc => hs c (.tail _ hc))
          (fun c hc => ht c (.tail _ hc)) hst

theorem padded_lt {m : Nat} (hw : 0 < w) (hn : n < 10 ^ w) (hm : m < 10 ^ w) (h : n < m) :
    padded w n < padded w m := by
  rcases lt_trichotomy (padded w n) (padded w m) with hlt | heq | hgt
  · exact hlt
  · rw [← ofDigitChars_padded w n, heq, ofDigitChars_padded] at h
    exact absurd h (lt_irrefl _)
  · have hlen := (length_padded hw hm).trans (length_padded hw hn).symm
    have hback := ofDigitChars_lt_of_lt (a := 0) hlen (fun c => isDigit_padded)
      (fun c => isDigit_padded) hgt
    rw [ofDigitChars_padded, ofDigitChars_padded] at hback
    omega

/-- Between texts of the same length the order is decided before what follows. -/
theorem append_lt_append {s t : List Char} (hlen : s.length = t.length) (h : s < t)
    (x y : List Char) : s ++ x < t ++ y := by
  induction s generalizing t with
  | nil =>
    obtain rfl : t = [] := List.length_eq_zero_iff.1 hlen.symm
    exact absurd h (lt_irrefl _)
  | cons c s ih =>
    cases t with
    | nil => cases hlen
    | cons d t =>
      rcases List.cons_lt_cons_iff.1 h with hcd | ⟨rfl, hst⟩
      · exact List.cons_lt_cons_iff.2 (.inl hcd)
      · exact List.cons_lt_cons_iff.2 (.inr ⟨rfl, ih (Nat.succ.inj hlen) hst⟩)

/-- Texts of a format are ordered as their numbers. -/
theorem printFields_lt {ms : List Nat} (hn : Fits fields ns) (hm : Fits fields ms) (h : ns < ms)
    (s t : List Char) : printFields fields ns ++ s < printFields fields ms ++ t := by
  induction fields generalizing ns ms with
  | nil =>
    obtain rfl : ns = [] := hn
    obtain rfl : ms = [] := hm
    exact absurd h (lt_irrefl _)
  | cons f fields ih =>
    cases f with
    | lit c => exact List.cons_lt_cons_iff.2 (.inr ⟨rfl, ih hn hm h⟩)
    | digits w =>
      obtain ⟨hw, n, ns, rfl, hnw, hns⟩ := hn
      obtain ⟨-, m, ms, rfl, hmw, hms⟩ := hm
      simp only [printFields, List.headD_cons, List.tail_cons, List.append_assoc]
      rcases List.cons_lt_cons_iff.1 h with hlt | ⟨rfl, hlt⟩
      · exact append_lt_append ((length_padded hw hnw).trans (length_padded hw hmw).symm)
          (padded_lt hw hnw hmw hlt) _ _
      · exact List.append_left_lt (ih hns hms hlt)

end

end Lib
