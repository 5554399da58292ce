import AeroXProtect.Lib.Calendar
import AeroXProtect.Lib.Range
import AeroXProtect.Lib.Script
import AeroXProtect.Lib.Text
import Mathlib.Data.Finset.Lattice.Basic
import Mathlib.Data.Int.ConditionallyCompleteOrder
import Mathlib.Order.Interval.Set.Defs

/-!
# Cron expressions

A flow is started by a schedule when its cron expression matches the current minute. `cronMatch`
cuts the expression up and reads the numbers with `int`, which takes more than the digits that the
documented notation has: signs, underscores, digits of other scripts, and so steps that go down.
What raises a `ValueError` does not match; a set that does not fit into memory raises. `IsField` is
the documented notation with the values that a field names, and `cron_match_iff` says when the two
agree.
-/

open Lib

namespace AeroXProtect

namespace Cron

/-! ## The matcher -/

inductive CronError
  | valueError | memoryError
  deriving DecidableEq, Repr

/-- Source: `_RANGES` (`server/util/cron.py:4`). -/
def cronRanges : List (Int × Int) := [(0, 59), (0, 23), (1, 31), (1, 12), (0, 7)]

/-- The first and the last value of a part without a step. -/
def readRange (lo hi : Int) (part : List Char) : Option (Int × Int) :=
  if part = ['*'] then some (lo, hi)
  else
    match cut '-' part with
    | some (a, b) => do
      let start ← parseInt a
      let stop ← parseInt b
      some (start, stop)
    | none => (parseInt part).map fun n => (n, n)

/-- The first and the last value of a part and its step. -/
def readPart (lo hi : Int) (part : List Char) : Option (Int × Int × Int) :=
  match cut '/' part with
  | some (part, steps) => do
    let step ← parseInt steps
    let (start, stop) ← readRange lo hi part
    some (start, stop, step)
  | none => do
    let (start, stop) ← readRange lo hi part
    some (start, stop, 1)

/-- `out.update(range(start, stop, step))` of a set that can hold `memory` integers. -/
def updateRange (memory : Nat) (out : Finset Int) (start stop step : Int) :
    Except CronError (Finset Int) :=
  if step = 0 then .error .valueError
  else if memory < rangeLength start stop step then .error .memoryError
  else
    let out := out ∪ (range start stop step).toFinset
    if memory < out.card then .error .memoryError else .ok out

/-- The values of one part more. -/
def addPart (memory : Nat) (lo hi : Int) (out : Finset Int) (part : List Char) :
    Except CronError (Finset Int) :=
  match readPart lo hi part with
  | none => .error .valueError
  | some (start, stop, step) => updateRange memory out start (stop + 1) step

/-- Source: `_field_set` (`server/util/cron.py:7`). -/
def fieldSet (memory : Nat) (field : List Char) (lo hi : Int) : Except CronError (Finset Int) :=
  (field.splitOn ',').foldlM (addPart memory lo hi) ∅

/-- A field with the value it is compared with and its range, at its position. -/
structure CronSlot where
  field : List Char
  value : Int
  lo : Int
  hi : Int
  position : Nat

/-- The fields beside the values of the instant. -/
def cronSlots (fields : List (List Char)) (dt : DateTime) : List CronSlot :=
  let dow := dt.isoweekday % 7
  let values : List Int := [dt.minute, dt.hour, dt.day, dt.month, dow]
  ((fields.zip values).zip cronRanges).zipIdx.map fun x =>
    ⟨x.1.1.1, x.1.1.2, x.1.2.1, x.1.2.2, x.2⟩

/-- The loop over the fields. -/
def matchFields (memory : Nat) : List CronSlot → Except CronError Bool
  | [] => .ok true
  | x :: rest => do
    let allowed ← fieldSet memory x.field x.lo x.hi
    -- 7 is an alias of Sunday
    let allowed := if x.position = 4 ∧ 7 ∈ allowed then insert 0 allowed else allowed
    if x.value ∈ allowed then matchFields memory rest else .ok false

/-- Source: `cron_match` (`server/util/cron.py:25`). -/
def cronMatch (memory : Nat) (expr : List Char) (dt : DateTime) : Except CronError Bool :=
  rescue (fun e => e == .valueError) false <|
    let fields := words expr
    if fields.length ≠ 5 then .ok false else matchFields memory (cronSlots fields dt)

/-! ## The documented notation -/

/-- `n` in decimal digits. -/
def IsNumeral (s : List Char) (n : Int) : Prop :=
  s ≠ [] ∧ (∀ c ∈ s, c.isDigit = true) ∧ n = Nat.ofDigitChars 10 s 0

/-- A numeral that is not longer than `int` takes it. -/
def IsShortNumeral (s : List Char) (n : Int) : Prop := IsNumeral s n ∧ s.length ≤ maxStrDigits

section
variable (numeral : List Char → Int → Prop) (lo hi : Int)

/-- The first and the last value of `*`, of a number and of `a-b`. -/
inductive IsRange : List Char → Int → Int → Prop
  | star : IsRange ['*'] lo hi
  | single {s : List Char} {n : Int} : numeral s n → IsRange s n n
  | span {a b : List Char} {m n : Int} : numeral a m → numeral b n → IsRange (a ++ '-' :: b) m n

/-- A range, or every so many values of one. -/
inductive IsPart : List Char → Set Int → Prop
  | plain {s : List Char} {a b : Int} : IsRange numeral lo hi s a b → IsPart s (Set.Icc a b)
  | step {s t : List Char} {a b k : Int} : IsRange numeral lo hi s a b → numeral t k → 1 ≤ k →
    IsPart (s ++ '/' :: t) {v | v ∈ Set.Icc a b ∧ k ∣ v - a}

/-- Parts with commas between them, and the values they name. -/
inductive IsField : List Char → Set Int → Prop
  | part {s : List Char} {S : Set Int} : IsPart numeral lo hi s S → IsField s S
  | cons {s t : List Char} {S T : Set Int} : IsPart numeral lo hi s S → IsField t T →
    IsField (s ++ ',' :: t) (S ∪ T)

/-- The field names the value. -/
def Names (field : List Char) (v : Int) : Prop := ∃ S, IsField numeral lo hi field S ∧ v ∈ S

end

/-- The expression has five fields in the notation, and each names its part of the instant; a day of
the week of 7 is Sunday, too. -/
def CronNames (numeral : List Char → Int → Prop) (expr : List Char) (dt : DateTime) : Prop :=
  ∃ minute hour day month dow, words expr = [minute, hour, day, month, dow] ∧
    Names numeral 0 59 minute dt.minute ∧ Names numeral 0 23 hour dt.hour ∧
    Names numeral 1 31 day dt.day ∧ Names numeral 1 12 month dt.month ∧
    (Names numeral 0 7 dow (dt.isoweekday % 7) ∨
      dt.isoweekday % 7 = 0 ∧ Names numeral 0 7 dow 7)

/-! ## What is read -/

/-- The values of a part as `int` reads its numbers. -/
def readSet (lo hi : Int) (part : List Char) : Option (Finset Int) :=
  (readPart lo hi part).bind fun x =>
    if x.2.2 = 0 then none else some (range x.1 (x.2.1 + 1) x.2.2).toFinset

/-- The values of parts, beside others. -/
def readParts (lo hi : Int) : List (List Char) → Finset Int → Option (Finset Int)
  | [], out => some out
  | part :: rest, out => (readSet lo hi part).bind fun S => readParts lo hi rest (out ∪ S)

/-- The values of a field. -/
def readField (lo hi : Int) (field : List Char) : Option (Finset Int) :=
  readParts lo hi (field.splitOn ',') ∅

/-- The values of the parts fit into memory, as far as the parts can be read. -/
def Fits (memory : Nat) (lo hi : Int) : List (List Char) → Finset Int → Prop
  | [], _ => True
  | part :: rest, out => ∀ S, readSet lo hi part = some S →
    (out ∪ S).card ≤ memory ∧ Fits memory lo hi rest (out ∪ S)

section
variable {memory : Nat} {lo hi : Int} {out S : Finset Int} {part : List Char}
  {parts : List (List Char)}

theorem addPart_of_none (h : readSet lo hi part = none) :
    addPart memory lo hi out part = .error .valueError := by
  unfold readSet at h
  unfold addPart
  cases hread : readPart lo hi part with
  | none => rfl
  | some x =>
    rw [hread, Option.bind_some] at h
    split at h
    · next hzero => exact if_pos hzero
    · cases h

theorem addPart_of_some (h : readSet lo hi part = some S) : addPart memory lo hi out part =
    if memory < (out ∪ S).card then .error .memoryError else .ok (out ∪ S) := by
  unfold readSet at h
  unfold addPart
  cases hread : readPart lo hi part with
  | none => rw [hread] at h; cases h
  | some x =>
    rw [hread, Option.bind_some] at h
    split at h
    · cases h
    · next hstep =>
      cases h
      dsimp only [updateRange]
      rw [if_neg hstep]
      split
      · next hlong =>
        rw [if_pos]
        rw [← card_toFinset_range hstep] at hlong
        exact hlong.trans_le (Finset.card_le_card Finset.subset_union_right)
      · rfl

/-- The parts of a field that fits. -/
theorem foldlM_addPart_of_fits (h : Fits memory lo hi parts out) :
    parts.foldlM (addPart memory lo hi) out =
      match readParts lo hi parts out with
      | some S => .ok S
      | none => .error .valueError := by
  induction parts generalizing out with
  | nil => rfl
  | cons part rest ih =>
    rw [List.foldlM_cons, readParts]
    cases hread : readSet lo hi part with
    | none =>
      rw [addPart_of_none hread]
      rfl
    | some S =>
      obtain ⟨hcard, hrest⟩ := h S hread
      rw [addPart_of_some hread, if_neg (by omega)]
      exact ih hrest

/-- The parts of a field that does not fit. -/
theorem foldlM_addPart_of_not_fits (h : ¬ Fits memory lo hi parts out) :
    parts.foldlM (addPart memory lo hi) out = .error .memoryError := by
  induction parts generalizing out with
  | nil => exact absurd trivial h
  | cons part rest ih =>
    simp only [Fits, not_forall] at h
    obtain ⟨S, hread, h⟩ := h
    rw [List.foldlM_cons, addPart_of_some hread]
    split
    · rfl
    · next hcard => exact ih fun hrest => h ⟨by omega, hrest⟩

end

namespace CronSlot

/-- The values let the slot pass. -/
def Allows (x : CronSlot) (S : Finset Int) : Prop :=
  x.value ∈ (if x.position = 4 ∧ 7 ∈ S then insert 0 S else S)

/-- The field is read and names the value. -/
def Hit (x : CronSlot) : Prop := ∃ S, readField x.lo x.hi x.field = some S ∧ x.Allows S

/-- The fields fit into memory, as far as they are looked at. -/
def AllFit (memory : Nat) : List CronSlot → Prop
  | [] => True
  | x :: rest => Fits memory x.lo x.hi (x.field.splitOn ',') ∅ ∧ (x.Hit → AllFit memory rest)

variable {memory : Nat} {xs : List CronSlot}

theorem matchFields_of_not_allFit (h : ¬ AllFit memory xs) :
    matchFields memory xs = .error .memoryError := by
  induction xs with
  | nil => exact absurd trivial h
  | cons x rest ih =>
    rw [matchFields]
    by_cases hfits : Fits memory x.lo x.hi (x.field.splitOn ',') ∅
    · obtain ⟨hhit, hrest⟩ := Classical.not_imp.1 fun himp => h ⟨hfits, himp⟩
      obtain ⟨S, hread, hallows⟩ := hhit
      rw [fieldSet, foldlM_addPart_of_fits hfits]
      rw [readField] at hread
      rw [hread]
      exact (if_pos hallows).trans (ih hrest)
    · rw [fieldSet, foldlM_addPart_of_not_fits hfits]
      rfl

theorem matchFields_of_allFit (h : AllFit memory xs) :
    matchFields memory xs = .ok true ∧ (∀ x ∈ xs, x.Hit) ∨
      (matchFields memory xs = .ok false ∨ matchFields memory xs = .error .valueError) ∧
        ¬ ∀ x ∈ xs, x.Hit := by
  induction xs with
  | nil => exact .inl ⟨rfl, nofun⟩
  | cons x rest ih =>
    obtain ⟨hfits, hrest⟩ := h
    rw [matchFields, List.forall_mem_cons]
    rw [fieldSet, foldlM_addPart_of_fits hfits]
    cases hread : readParts x.lo x.hi (x.field.splitOn ',') ∅ with
    | none =>
      refine .inr ⟨.inr rfl, fun hall => ?_⟩
      obtain ⟨S, hS, -⟩ := hall.1
      cases hread.symm.trans hS
    | some S =>
      by_cases hallows : x.Allows S
      · have hhit : x.Hit := ⟨S, hread, hallows⟩
        rw [show (do
          let allowed ← Except.ok S
          let allowed := if x.position = 4 ∧ 7 ∈ allowed then insert 0 allowed else allowed
          if x.value ∈ allowed then matchFields memory rest else .ok false) =
            matchFields memory rest from if_pos hallows]
        simpa only [hhit, true_and] using ih (hrest hhit)
      · refine .inr ⟨.inl (if_neg hallows), fun hall => hallows ?_⟩
        obtain ⟨T, hT, hT'⟩ := hall.1
        cases hread.symm.trans hT
        exact hT'

end CronSlot

/-! ## The notation and what is read -/

section
variable {lo hi a b n : Int} {s t : List Char} {S : Set Int} {F : Finset Int}

theorem not_mem_of_isNumeral {c : Char} (h : IsNumeral s n) (hc : c.isDigit = false) : c ∉ s :=
  fun hmem => by simp [h.2.1 c hmem] at hc

theorem parseInt_of_isShortNumeral (h : IsShortNumeral s n) : parseInt s = some n := by
  obtain ⟨⟨hne, hdigits, rfl⟩, hlen⟩ := h
  rw [parseInt_of_digits hne hdigits, if_pos hlen]

theorem isShortNumeral_of_parseInt (h : IsNumeral s n) {m : Int} (hread : parseInt s = some m) :
    IsShortNumeral s n ∧ m = n := by
  obtain ⟨hne, hdigits, rfl⟩ := h
  rw [parseInt_of_digits hne hdigits] at hread
  split at hread
  · next hlen =>
    cases hread
    exact ⟨⟨⟨hne, hdigits, rfl⟩, hlen⟩, rfl⟩
  · cases hread

/-- The characters that separate parts and steps are in no range. -/
theorem not_mem_of_isRange {c : Char} (h : IsRange IsNumeral lo hi s a b) (hc : c.isDigit = false)
    (hstar : c ≠ '*') (hminus : c ≠ '-') : c ∉ s := by
  cases h with
  | star => simpa using hstar
  | single hn => exact not_mem_of_isNumeral hn hc
  | span hm hn =>
    simp only [List.mem_append, List.mem_cons, not_or]
    exact ⟨not_mem_of_isNumeral hm hc, hminus, not_mem_of_isNumeral hn hc⟩

theorem not_mem_of_isPart (h : IsPart IsNumeral lo hi s S) : ',' ∉ s := by
  cases h with
  | plain hr => exact not_mem_of_isRange hr (by decide) (by decide) (by decide)
  | step hr hk _ =>
    simp only [List.mem_append, List.mem_cons, not_or]
    exact ⟨not_mem_of_isRange hr (by decide) (by decide) (by decide), by decide,
      not_mem_of_isNumeral hk (by decide)⟩

theorem IsRange.toLong (h : IsRange IsShortNumeral lo hi s a b) :
    IsRange IsNumeral lo hi s a b := by
  cases h with
  | star => exact .star
  | single hn => exact .single hn.1
  | span hm hn => exact .span hm.1 hn.1

theorem IsPart.toLong (h : IsPart IsShortNumeral lo hi s S) : IsPart IsNumeral lo hi s S := by
  cases h with
  | plain hr => exact .plain hr.toLong
  | step hr hk hpos => exact .step hr.toLong hk.1 hpos

theorem readRange_numeral (h : IsNumeral s n) :
    readRange lo hi s = (parseInt s).map fun n => (n, n) := by
  have hstar : s ≠ ['*'] := fun heq => not_mem_of_isNumeral h (by decide : '*'.isDigit = false)
    (heq ▸ List.mem_singleton_self _)
  rw [readRange, if_neg hstar, cut_eq_none.2 (not_mem_of_isNumeral h (by decide))]

theorem readRange_span (h : IsNumeral s n) : readRange lo hi (s ++ '-' :: t) =
    (parseInt s).bind fun start => (parseInt t).bind fun stop => some (start, stop) := by
  have hstar : s ++ '-' :: t ≠ ['*'] := fun heq => by
    have hmem : '-' ∈ ['*'] := heq ▸ List.mem_append_right _ (.head _)
    simp at hmem
  rw [readRange, if_neg hstar, cut_append (not_mem_of_isNumeral h (by decide))]
  rfl

theorem readRange_of_isRange (h : IsRange IsShortNumeral lo hi s a b) :
    readRange lo hi s = some (a, b) := by
  cases h with
  | star => rfl
  | single hn => rw [readRange_numeral hn.1, parseInt_of_isShortNumeral hn, Option.map_some]
  | span hm hn =>
    rw [readRange_span hm.1, parseInt_of_isShortNumeral hm, parseInt_of_isShortNumeral hn]
    rfl

theorem isRange_of_readRange (h : IsRange IsNumeral lo hi s a b) {x : Int × Int}
    (hread : readRange lo hi s = some x) : IsRange IsShortNumeral lo hi s a b := by
  cases h with
  | star => exact .star
  | single hn =>
    rw [readRange_numeral hn] at hread
    obtain ⟨m, hm, -⟩ := Option.map_eq_some_iff.1 hread
    exact .single (isShortNumeral_of_parseInt hn hm).1
  | span hm hn =>
    rw [readRange_span hm] at hread
    obtain ⟨_, hstart, hread⟩ := Option.bind_eq_some_iff.1 hread
    obtain ⟨_, hstop, -⟩ := Option.bind_eq_some_iff.1 hread
    exact .span (isShortNumeral_of_parseInt hm hstart).1 (isShortNumeral_of_parseInt hn hstop).1

theorem readPart_plain (h : IsRange IsNumeral lo hi s a b) :
    readPart lo hi s = (readRange lo hi s).bind fun x => some (x.1, x.2, 1) := by
  rw [readPart, cut_eq_none.2 (not_mem_of_isRange h (by decide) (by decide) (by decide))]
  rfl

theorem readPart_step (h : IsRange IsNumeral lo hi s a b) : readPart lo hi (s ++ '/' :: t) =
    (parseInt t).bind fun k => (readRange lo hi s).bind fun x => some (x.1, x.2, k) := by
  rw [readPart, cut_append (not_mem_of_isRange h (by decide) (by decide) (by decide))]
  rfl

/-- A part in the notation, with numerals that are not too long, is read as the values it names. -/
theorem readSet_of_isPart (h : IsPart IsShortNumeral lo hi s S) :
    ∃ F, readSet lo hi s = some F ∧ (F : Set Int) = S := by
  cases h with
  | @plain _ a b hr =>
    rw [readSet, readPart_plain hr.toLong, readRange_of_isRange hr]
    refine ⟨(range a (b + 1) 1).toFinset, rfl, Set.ext fun v => ?_⟩
    rw [Finset.mem_coe, List.mem_toFinset, mem_range (by decide)]
    simp only [one_dvd, true_and, Set.mem_Icc, zero_lt_one, if_true]
    omega
  | @step _ _ a b k hr hk hpos =>
    have hk0 : k ≠ 0 := by omega
    rw [readSet, readPart_step hr.toLong, readRange_of_isRange hr, parseInt_of_isShortNumeral hk]
    refine ⟨(range a (b + 1) k).toFinset, if_neg hk0, Set.ext fun v => ?_⟩
    rw [Finset.mem_coe, List.mem_toFinset, mem_range hk0, if_pos (show (0 : Int) < k by omega),
      Int.lt_add_one_iff]
    exact and_comm

/-- A part in the notation that is read has no numeral that is too long. -/
theorem isPart_of_readSet (h : IsPart IsNumeral lo hi s S) (hread : readSet lo hi s = some F) :
    IsPart IsShortNumeral lo hi s S := by
  obtain ⟨x, hx, -⟩ := Option.bind_eq_some_iff.1 hread
  cases h with
  | plain hr =>
    rw [readPart_plain hr] at hx
    obtain ⟨_, hx, -⟩ := Option.bind_eq_some_iff.1 hx
    exact .plain (isRange_of_readRange hr hx)
  | step hr hk hpos =>
    rw [readPart_step hr] at hx
    obtain ⟨_, hstep, hx⟩ := Option.bind_eq_some_iff.1 hx
    obtain ⟨_, hx, -⟩ := Option.bind_eq_some_iff.1 hx
    exact .step (isRange_of_readRange hr hx) (isShortNumeral_of_parseInt hk hstep).1 hpos

end

section
variable {lo hi : Int} {s : List Char} {S : Set Int} {out F : Finset Int}

theorem IsField.toLong (h : IsField IsShortNumeral lo hi s S) : IsField IsNumeral lo hi s S := by
  induction h with
  | part hs => exact .part hs.toLong
  | cons hs _ ih => exact .cons hs.toLong ih

/-- The characters of the notation. -/
theorem char_of_isField (h : IsField IsNumeral lo hi s S) :
    ∀ c ∈ s, c.isDigit = true ∨ c ∈ ['*', '-', '/', ','] := by
  have hrange : ∀ {s a b}, IsRange IsNumeral lo hi s a b →
      ∀ c ∈ s, c.isDigit = true ∨ c ∈ ['*', '-', '/', ','] := by
    intro s a b h c hc
    by_contra hno
    simp only [List.mem_cons, List.not_mem_nil, or_false, not_or, Bool.not_eq_true] at hno
    exact not_mem_of_isRange h hno.1 hno.2.1 hno.2.2.1 hc
  have hpart : ∀ {s S}, IsPart IsNumeral lo hi s S →
      ∀ c ∈ s, c.isDigit = true ∨ c ∈ ['*', '-', '/', ','] := by
    intro s S h
    cases h with
    | plain hr => exact hrange hr
    | step hr hk _ =>
      exact List.forall_mem_append.2 ⟨hrange hr, List.forall_mem_cons.2
        ⟨.inr (by decide), fun c hc => .inl (hk.2.1 c hc)⟩⟩
  induction h with
  | part hs => exact hpart hs
  | cons hs _ ih =>
    exact List.forall_mem_append.2 ⟨hpart hs, List.forall_mem_cons.2 ⟨.inr (by decide), ih⟩⟩

theorem readParts_of_isField (h : IsField IsShortNumeral lo hi s S) (out : Finset Int) :
    ∃ F, readParts lo hi (s.splitOn ',') out = some F ∧ (F : Set Int) = ↑out ∪ S := by
  induction h generalizing out with
  | part hs =>
    obtain ⟨F, hread, rfl⟩ := readSet_of_isPart hs
    rw [List.splitOn_eq_singleton (not_mem_of_isPart hs.toLong), readParts, hread]
    exact ⟨_, rfl, Finset.coe_union _ _⟩
  | cons hs _ ih =>
    obtain ⟨F, hread, rfl⟩ := readSet_of_isPart hs
    rw [List.splitOn_append_cons_self_of_not_mem (not_mem_of_isPart hs.toLong), readParts, hread]
    obtain ⟨G, hread, hG⟩ := ih (out ∪ F)
    exact ⟨G, hread, by rw [hG, Finset.coe_union, Set.union_assoc]⟩

/-- A field in the notation, with numerals that are not too long, is read as the values it names. -/
theorem readField_of_isField (h : IsField IsShortNumeral lo hi s S) :
    ∃ F, readField lo hi s = some F ∧ (F : Set Int) = S := by
  obtain ⟨F, hread, hF⟩ := readParts_of_isField h ∅
  exact ⟨F, hread, by rw [hF, Finset.coe_empty, Set.empty_union]⟩

/-- A field in the notation that is read has no numeral that is too long. -/
theorem isField_of_readParts (h : IsField IsNumeral lo hi s S)
    (hread : readParts lo hi (s.splitOn ',') out = some F) : IsField IsShortNumeral lo hi s S := by
  induction h generalizing out with
  | part hs =>
    rw [List.splitOn_eq_singleton (not_mem_of_isPart hs)] at hread
    obtain ⟨G, hG, -⟩ := Option.bind_eq_some_iff.1 hread
    exact .part (isPart_of_readSet hs hG)
  | cons hs _ ih =>
    rw [List.splitOn_append_cons_self_of_not_mem (not_mem_of_isPart hs)] at hread
    obtain ⟨G, hG, hread⟩ := Option.bind_eq_some_iff.1 hread
    exact .cons (isPart_of_readSet hs hG) (ih hread)

end

/-! ## When the two agree -/

/-- The slot's field is in the notation and names the value. -/
def CronSlot.NamedBy (numeral : List Char → Int → Prop) (x : CronSlot) : Prop :=
  Names numeral x.lo x.hi x.field x.value ∨
    x.position = 4 ∧ x.value = 0 ∧ Names numeral x.lo x.hi x.field 7

section
variable {memory : Nat} {expr : List Char} {dt : DateTime} {x : CronSlot} {S : Set Int}
  {F : Finset Int} {numeral : List Char → Int → Prop}

theorem CronSlot.NamedBy.toLong (h : x.NamedBy IsShortNumeral) : x.NamedBy IsNumeral := by
  rcases h with ⟨S, hS, hv⟩ | ⟨hp, hv, S, hS, h7⟩
  · exact .inl ⟨S, hS.toLong, hv⟩
  · exact .inr ⟨hp, hv, S, hS.toLong, h7⟩

theorem cronNames_iff : CronNames numeral expr dt ↔
    (words expr).length = 5 ∧ ∀ x ∈ cronSlots (words expr) dt, x.NamedBy numeral := by
  constructor
  · rintro ⟨minute, hour, day, month, dow, hwords, hminute, hhour, hday, hmonth, hdow⟩
    rw [hwords]
    refine ⟨rfl, ?_⟩
    simp only [cronSlots, cronRanges, List.zip_cons_cons, List.zip_nil_right, List.zipIdx_cons,
      List.zipIdx_nil, List.map_cons, List.map_nil, List.forall_mem_cons]
    exact ⟨.inl hminute, .inl hhour, .inl hday, .inl hmonth,
      hdow.imp id fun h => ⟨rfl, h⟩, nofun⟩
  · rintro ⟨hlen, hall⟩
    obtain ⟨minute, hour, day, month, dow, hwords⟩ : ∃ minute hour day month dow,
        words expr = [minute, hour, day, month, dow] := by
      match words expr, hlen with
      | [minute, hour, day, month, dow], _ => exact ⟨minute, hour, day, month, dow, rfl⟩
    rw [hwords] at hall
    simp only [cronSlots, cronRanges, List.zip_cons_cons, List.zip_nil_right, List.zipIdx_cons,
      List.zipIdx_nil, List.map_cons, List.map_nil, List.forall_mem_cons] at hall
    obtain ⟨hminute, hhour, hday, hmonth, hdow, -⟩ := hall
    refine ⟨minute, hour, day, month, dow, hwords, hminute.resolve_right (by simp),
      hhour.resolve_right (by simp), hday.resolve_right (by simp),
      hmonth.resolve_right (by simp), hdow.imp id And.right⟩

/-- The values that a field is read as, and the ones it names. -/
theorem CronSlot.allows_iff (h : (F : Set Int) = S) : x.Allows F ↔
    x.value ∈ S ∨ x.position = 4 ∧ x.value = 0 ∧ 7 ∈ S := by
  subst h
  unfold Allows
  simp only [Finset.mem_coe]
  split
  · next h =>
    rw [Finset.mem_insert]
    tauto
  · next h => tauto

/-- A slot whose field is in the notation passes exactly if the field names the value, or would
with a shorter numeral. -/
theorem CronSlot.hit_iff (h : IsField IsNumeral x.lo x.hi x.field S) :
    x.Hit ↔ x.NamedBy IsShortNumeral := by
  constructor
  · rintro ⟨F, hread, hallows⟩
    have hshort := isField_of_readParts h hread
    obtain ⟨G, hG, hGS⟩ := readField_of_isField hshort
    cases hread.symm.trans hG
    rcases (CronSlot.allows_iff hGS).1 hallows with hv | ⟨hp, hv, h7⟩
    · exact .inl ⟨S, hshort, hv⟩
    · exact .inr ⟨hp, hv, S, hshort, h7⟩
  · intro hnamed
    rcases hnamed with ⟨T, hT, hv⟩ | ⟨hp, hv, T, hT, h7⟩
    · obtain ⟨F, hread, hF⟩ := readField_of_isField hT
      exact ⟨F, hread, (CronSlot.allows_iff hF).2 (.inl hv)⟩
    · obtain ⟨F, hread, hF⟩ := readField_of_isField hT
      exact ⟨F, hread, (CronSlot.allows_iff hF).2 (.inr ⟨hp, hv, h7⟩)⟩

end

/-- The fields fit into memory as far as they are looked at; an expression that passes as `int`
reads it is in the notation; and one that names the instant does so without numerals that are too
long. -/
structure CronPlain (memory : Nat) (expr : List Char) (dt : DateTime) : Prop where
  fits : (words expr).length = 5 → CronSlot.AllFit memory (cronSlots (words expr) dt)
  plain : (words expr).length = 5 → (∀ x ∈ cronSlots (words expr) dt, x.Hit) →
    ∀ x ∈ cronSlots (words expr) dt, ∃ S, IsField IsNumeral x.lo x.hi x.field S
  short : CronNames IsNumeral expr dt → CronNames IsShortNumeral expr dt

/-- The matcher answers by the documented notation exactly if the expression is plain. -/
theorem cron_match_iff (memory : Nat) (expr : List Char) (dt : DateTime) :
    (∃ b, cronMatch memory expr dt = .ok b ∧ (b = true ↔ CronNames IsNumeral expr dt)) ↔
      CronPlain memory expr dt := by
  by_cases hlen : (words expr).length = 5
  · have hmatch : cronMatch memory expr dt =
        rescue (fun e => e == .valueError) false
          (matchFields memory (cronSlots (words expr) dt)) := by
      rw [cronMatch, if_neg (not_not.2 hlen)]
    by_cases hfit : CronSlot.AllFit memory (cronSlots (words expr) dt)
    · -- the matcher answers whether every slot passes
      have hok : ∃ b, cronMatch memory expr dt = .ok b ∧
          (b = true ↔ ∀ x ∈ cronSlots (words expr) dt, x.Hit) := by
        rw [hmatch]
        rcases CronSlot.matchFields_of_allFit hfit with ⟨h, hall⟩ | ⟨h | h, hall⟩ <;> rw [h]
        · exact ⟨true, rfl, by simpa using hall⟩
        · exact ⟨false, rfl, by simpa using hall⟩
        · exact ⟨false, rfl, by simpa using hall⟩
      obtain ⟨b, hb, hb'⟩ := hok
      constructor
      · rintro ⟨b', hb₁, hnames⟩
        obtain rfl : b = b' := Except.ok.inj (hb.symm.trans hb₁)
        refine ⟨fun _ => hfit, fun _ hhits x hx => ?_, fun hdoc => ?_⟩
        · obtain ⟨-, hall⟩ := cronNames_iff.1 (hnames.1 (hb'.2 hhits))
          rcases hall x hx with ⟨S, hS, -⟩ | ⟨-, -, S, hS, -⟩
          · exact ⟨S, hS⟩
          · exact ⟨S, hS⟩
        · have hhits := hb'.1 (hnames.2 hdoc)
          refine cronNames_iff.2 ⟨hlen, fun x hx => ?_⟩
          rcases (cronNames_iff.1 hdoc).2 x hx with ⟨S, hS, -⟩ | ⟨-, -, S, hS, -⟩
          · exact (CronSlot.hit_iff hS).1 (hhits x hx)
          · exact (CronSlot.hit_iff hS).1 (hhits x hx)
      · intro h
        refine ⟨b, hb, hb'.trans ⟨fun hhits => ?_, fun hdoc x hx => ?_⟩⟩
        · refine cronNames_iff.2 ⟨hlen, fun x hx => ?_⟩
          obtain ⟨S, hS⟩ := h.plain hlen hhits x hx
          exact ((CronSlot.hit_iff hS).1 (hhits x hx)).toLong
        · have hshort := (cronNames_iff.1 (h.short hdoc)).2 x hx
          rcases hshort.toLong with ⟨S, hS, -⟩ | ⟨-, -, S, hS, -⟩
          · exact (CronSlot.hit_iff hS).2 hshort
          · exact (CronSlot.hit_iff hS).2 hshort
    · refine iff_of_false ?_ fun h => hfit (h.fits hlen)
      rintro ⟨b, hb, -⟩
      rw [hmatch, CronSlot.matchFields_of_not_allFit hfit] at hb
      cases hb
  · have hdoc : ¬ CronNames IsNumeral expr dt := fun h => hlen (cronNames_iff.1 h).1
    refine iff_of_true ⟨false, ?_, by simpa using hdoc⟩
      ⟨fun h => absurd h hlen, fun h => absurd h hlen, fun h => absurd h hdoc⟩
    rw [cronMatch, if_pos hlen]
    rfl

namespace CronFixture

/-- Monday, the 8th of June 2026, at nine. -/
def monday : DateTime where
  year := 2026
  month := 6
  day := 8
  hour := 9
  minute := 0
  year_pos := by decide
  month_range := by decide
  day_range := by decide
  hour_lt := by decide
  minute_lt := by decide

/-- A minute with a sign. -/
def signed : List Char := "+0 9 * * 1".toList

end CronFixture

open CronFixture in
/-- A number with a sign is taken. -/
theorem cron_match_signed :
    ¬ ∃ b, cronMatch 1000 signed monday = .ok b ∧
      (b = true ↔ CronNames IsNumeral signed monday) := by
  have hmatch : cronMatch 1000 signed monday = .ok true := by decide +kernel
  rintro ⟨b, hb, hdoc⟩
  obtain rfl : true = b := Except.ok.inj (hmatch.symm.trans hb)
  have hall := (cronNames_iff.1 (hdoc.1 rfl)).2 ⟨"+0".toList, 0, 0, 59, 0⟩
    (by
      rw [show words signed = ["+0".toList, "9".toList, "*".toList, "*".toList, "1".toList] by
        decide +kernel]
      exact .head _)
  obtain ⟨S, hS⟩ : ∃ S, IsField IsNumeral 0 59 "+0".toList S := by
    rcases hall with ⟨S, hS, -⟩ | ⟨-, -, S, hS, -⟩
    · exact ⟨S, hS⟩
    · exact ⟨S, hS⟩
  exact absurd (char_of_isField hS '+' (by decide)) (by decide)

end Cron

end AeroXProtect
