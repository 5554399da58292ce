import AeroXProtect.Lib.Text
import AeroXProtect.Update.Run
import Mathlib

/-!
# Release tags

The launcher reads a tag twice: `_vtuple` makes a key of it, by which releases are compared, and
`_prerelease_rank` says whether the channel takes it. `VersionTag` is a tag as the releases are
named, with numbers of any length, and `VersionTag.Precedes` the order of semantic versions. The key
of such a tag is its three numbers, its rank and the number of the prerelease (`vtuple_text`), so
that the keys are in the order of the versions (`vtuple_lt_iff`), and the rank is the fourth part of
every key (`prereleaseRank_eq`). `int` refuses a number of more than 4300 digits, and with it the
whole list of releases (`vtuple?`, `pickRelease?`); where it refuses none, the pick is that of an
update (`pickRelease?_eq_some`).
-/

open Lib

namespace AeroXProtect.Launcher

/-! ## Keys with the limit on numbers -/

/-- A decimal digit of any script as the ASCII one. -/
def asciiDigit (c : Char) : Char :=
  match digitZeros.find? fun z => decide (z ≤ c.toNat ∧ c.toNat < z + 10) with
  | some z => Nat.digitChar (c.toNat - z)
  | none => c

def asciiDigits (s : String) : String := String.ofList (s.toList.map asciiDigit)

/-- `re.findall(r'\d+', s)` -/
def runs (cs : List Char) : List (List Char) :=
  (cs.splitOnP fun c => !c.isDigit).filter fun w => !w.isEmpty

/-- The texts that `_vtuple` hands to `int`. -/
def numbers (v : String) : List (List Char) :=
  let (main, pre) := partitionPre (if v.isEmpty then "0" else v)
  let letters := pre.takeWhile Char.isAlpha
  let rest := pre.drop letters.length
  let rest := if rest.head? = some '.' then rest.drop 1 else rest
  let num := if letters.isEmpty then [] else rest.takeWhile Char.isDigit
  (runs main).take 3 ++ if num.isEmpty then [] else [num]

/-- Source: `_vtuple` (`windows/launcher/axp_launcher/update.py:43`); `none` for a `ValueError` of
`int`. -/
def vtuple? (v : String) : Option (List Nat) :=
  let v := asciiDigits v
  if ∀ n ∈ numbers v, n.length ≤ maxStrDigits then some (vtuple v) else none

/-- The releases that are no drafts and that the channel accepts. -/
def candidates (channel : String) (releases : List Release) : List Release :=
  releases.filter fun r => !r.draft && channelMinRank channel ≤ prereleaseRank r.tagName

/-- One turn of `max`: the first of equals stays. -/
def newer (best : Option (List Nat × Release)) (x : List Nat × Release) :
    Option (List Nat × Release) :=
  match best with
  | none => some x
  | some b => if b.1 < x.1 then some x else some b

/-- Source: `_pick_release` (`windows/launcher/axp_launcher/update.py:99`); `none` when it
raises. -/
def pickRelease? (channel : String) (releases : List Release) : Option (Option Release) := do
  let keyed ← (candidates channel releases).mapM fun r => (vtuple? r.tagName).map fun k => (k, r)
  return (keyed.foldl newer none).map Prod.snd

/-! ## Tags -/

/-- A number: one or more digits. -/
structure Numeral where
  digits : List Char
  ne_nil : digits ≠ []
  isDigit : ∀ c ∈ digits, c.isDigit = true

def Numeral.value (n : Numeral) : Nat := Nat.ofDigitChars 10 n.digits 0

/-- Python reads the number. -/
def Numeral.Readable (n : Numeral) : Prop := n.digits.length ≤ maxStrDigits

inductive Stage
  | alpha | beta | rc
  deriving DecidableEq, Repr

def Stage.text : Stage → String
  | alpha => "alpha"
  | beta => "beta"
  | rc => "rc"

def Stage.rank : Stage → Nat
  | alpha => 0
  | beta => 1
  | rc => 2

/-- A tag `vX.Y.Z`, `vX.Y.Z-stage` or `vX.Y.Z-stage.N`. -/
structure VersionTag where
  major : Numeral
  minor : Numeral
  patch : Numeral
  pre : Option (Stage × Option Numeral)

namespace VersionTag

def preText : Option (Stage × Option Numeral) → List Char
  | none => []
  | some (stage, none) => '-' :: stage.text.toList
  | some (stage, some n) => '-' :: (stage.text.toList ++ '.' :: n.digits)

def text (t : VersionTag) : String :=
  String.ofList ('v' :: (t.major.digits ++ '.' :: (t.minor.digits ++ '.' :: t.patch.digits)) ++
    preText t.pre)

/-- The number of the prerelease; one that is missing counts as 0. -/
def preNumber : Option (Stage × Option Numeral) → Nat
  | some (_, some n) => n.value
  | _ => 0

def preRank : Option (Stage × Option Numeral) → Nat
  | none => 3
  | some (stage, _) => stage.rank

/-- `_vtuple` can read the numbers. -/
structure Readable (t : VersionTag) : Prop where
  major : t.major.Readable
  minor : t.minor.Readable
  patch : t.patch.Readable
  pre : ∀ stage n, t.pre = some (stage, some n) → n.Readable

/-- The order of prereleases: alpha, beta, rc, and the release after them. -/
inductive PrePrecedes : (p q : Option (Stage × Option Numeral)) → Prop
  | release (p) : PrePrecedes (some p) none
  | stage {s s' n n'} (h : s.rank < s'.rank) : PrePrecedes (some (s, n)) (some (s', n'))
  | number {s n n'} (h : preNumber (some (s, n)) < preNumber (some (s, n'))) :
      PrePrecedes (some (s, n)) (some (s, n'))

/-- The order of semantic versions. -/
inductive Precedes : (t u : VersionTag) → Prop
  | major {t u} (h : t.major.value < u.major.value) : Precedes t u
  | minor {t u} (hmajor : t.major.value = u.major.value) (h : t.minor.value < u.minor.value) :
      Precedes t u
  | patch {t u} (hmajor : t.major.value = u.major.value) (hminor : t.minor.value = u.minor.value)
      (h : t.patch.value < u.patch.value) : Precedes t u
  | pre {t u} (hmajor : t.major.value = u.major.value) (hminor : t.minor.value = u.minor.value)
      (hpatch : t.patch.value = u.patch.value) (h : PrePrecedes t.pre u.pre) : Precedes t u

/-- What a channel accepts: `alpha` everything, `beta` no alpha, and any other one releases only. -/
def Accepted (t : VersionTag) (channel : String) : Prop :=
  match channel with
  | "alpha" => True
  | "beta" => ∀ n, t.pre ≠ some (.alpha, n)
  | _ => t.pre = none

end VersionTag

/-! ## Runs of digits -/

section
variable {c : Char} {cs ds : List Char}

theorem runs_of_digits (hne : ds ≠ []) (h : ∀ c ∈ ds, c.isDigit = true) : runs ds = [ds] := by
  unfold runs
  rw [List.splitOnP_eq_singleton fun c hc => by rw [h c hc]; rfl]
  simp [hne]

theorem runs_cons_of_not_digit (h : c.isDigit = false) : runs (c :: cs) = runs cs := by
  unfold runs
  rw [List.splitOnP_cons_eq_if_modifyHead, if_pos (by rw [h]; rfl)]
  rfl

/-- A run before a character that is no digit. -/
theorem runs_append (hne : ds ≠ []) (h : ∀ c ∈ ds, c.isDigit = true) (hc : c.isDigit = false) :
    runs (ds ++ c :: cs) = ds :: runs cs := by
  unfold runs
  rw [List.splitOnP_append_cons _ _ (by rw [hc]; rfl),
    List.splitOnP_eq_singleton fun c hc => by rw [h c hc]; rfl]
  simp [hne]

/-- The numbers of `_vtuple` are the values of the runs. -/
theorem digitRuns_eq_runs (ds : List Char) (h : ∀ c ∈ ds, c.isDigit = true) (cs : List Char) :
    digitRuns (if ds = [] then none else some (Nat.ofDigitChars 10 ds 0)) cs =
      (runs (ds ++ cs)).map fun r => Nat.ofDigitChars 10 r 0 := by
  induction cs generalizing ds with
  | nil =>
    by_cases hds : ds = []
    · simp [digitRuns, hds, runs]
    · simp [digitRuns, hds, runs_of_digits hds h]
  | cons c cs ih =>
    cases hdigit : c.isDigit with
    | true =>
      have hsnoc : ∀ x ∈ ds ++ [c], x.isDigit = true := by
        intro x hx
        rcases List.mem_append.1 hx with hx | hx
        · exact h x hx
        · rw [List.mem_singleton.1 hx, hdigit]
      have hih := ih (ds ++ [c]) hsnoc
      rw [if_neg (by simp), List.append_assoc, List.singleton_append] at hih
      rw [← hih, digitRuns, if_pos hdigit]
      by_cases hds : ds = []
      · simp [hds, Nat.ofDigitChars]
      · simp [hds, Nat.ofDigitChars, Nat.mul_comm]
    | false =>
      have hih := ih [] (by simp)
      rw [if_pos rfl, List.nil_append] at hih
      rw [digitRuns, if_neg (by simp [hdigit]), hih]
      by_cases hds : ds = []
      · simp [hds, runs_cons_of_not_digit hdigit]
      · simp [hds, runs_append hds h hdigit]

theorem digitRuns_none (cs : List Char) :
    digitRuns none cs = (runs cs).map fun r => Nat.ofDigitChars 10 r 0 :=
  digitRuns_eq_runs [] (by simp) cs

end

/-! ## Reading a tag -/

/-- The parts of a text `v` main, then nothing or a dash and the rest. -/
theorem partitionPre_eq {s : String} {main tail : List Char} (hs : s.toList = 'v' :: (main ++ tail))
    (hv : ∀ c ∈ main.head?, c ≠ 'v') (hne : main ≠ []) (hdash : '-' ∉ main)
    (htail : tail = [] ∨ ∃ pre, tail = '-' :: pre) : partitionPre s = (main, tail.drop 1) := by
  have hstrip : (lstripV s).toList = main ++ tail := by
    unfold lstripV
    rw [String.toList_ofList, hs, List.dropWhile_cons_of_pos (by rfl)]
    cases main with
    | nil => exact absurd rfl hne
    | cons c main =>
      have hc : (c == 'v') = false := beq_eq_false_iff_ne.2 (hv c rfl)
      rw [List.cons_append, List.dropWhile_cons_of_neg (by simp [hc])]
  have hmain : ∀ c ∈ main, (c != '-') = true := fun c hc => by
    rw [bne_iff_ne]
    rintro rfl
    exact hdash hc
  unfold partitionPre
  simp only [hstrip]
  rw [List.takeWhile_append_of_pos hmain, List.dropWhile_append_of_pos hmain]
  rcases htail with rfl | ⟨pre, rfl⟩ <;> simp

theorem asciiDigit_of_lt {c : Char} (h : c.toNat < 128) : asciiDigit c = c := by
  have hzeros : ∀ z ∈ digitZeros, 128 ≤ z := by decide
  unfold asciiDigit
  rw [List.find?_eq_none.2]
  intro z hz
  have hle := hzeros z hz
  simp only [decide_eq_true_eq, not_and, not_lt]
  omega

theorem Numeral.takeWhile_isDigit (n : Numeral) : n.digits.takeWhile Char.isDigit = n.digits := by
  have htake := @List.takeWhile_append_of_pos _ Char.isDigit n.digits [] n.isDigit
  rwa [List.append_nil, List.takeWhile_nil, List.append_nil] at htake

namespace VersionTag

variable {t u : VersionTag}

def mainText (t : VersionTag) : List Char :=
  t.major.digits ++ '.' :: (t.minor.digits ++ '.' :: t.patch.digits)

theorem text_toList : t.text.toList = 'v' :: (t.mainText ++ preText t.pre) := by
  unfold text mainText
  rw [String.toList_ofList]
  simp

theorem mem_mainText {c : Char} (h : c ∈ t.mainText) : c.isDigit = true ∨ c = '.' := by
  unfold mainText at h
  simp only [List.mem_append, List.mem_cons] at h
  rcases h with h | h | h | h | h
  · exact .inl (t.major.isDigit c h)
  · exact .inr h
  · exact .inl (t.minor.isDigit c h)
  · exact .inr h
  · exact .inl (t.patch.isDigit c h)

/-- The characters of a stage are ASCII letters. -/
theorem letters_stage (stage : Stage) :
    ∀ c ∈ stage.text.toList, c.isAlpha = true ∧ c.toNat < 128 := by
  have hall : stage.text.toList.all (fun c => c.isAlpha && decide (c.toNat < 128)) = true := by
    cases stage <;> rfl
  simpa using hall

theorem mem_preText {p : Option (Stage × Option Numeral)} {c : Char} (h : c ∈ preText p) :
    c.isDigit = true ∨ c.toNat < 128 := by
  match p with
  | none => cases h
  | some (stage, none) =>
    rcases List.mem_cons.1 h with rfl | h
    · exact .inr (by decide)
    · exact .inr (letters_stage stage c h).2
  | some (stage, some n) =>
    simp only [preText, List.mem_cons, List.mem_append] at h
    rcases h with rfl | h | rfl | h
    · exact .inr (by decide)
    · exact .inr (letters_stage stage c h).2
    · exact .inr (by decide)
    · exact .inl (n.isDigit c h)

/-- A tag has no character beyond ASCII. -/
theorem asciiDigits_text : asciiDigits t.text = t.text := by
  have hall : ∀ c ∈ t.text.toList, asciiDigit c = c := by
    intro c hc
    have hlt : ∀ {c : Char}, c.isDigit = true → c.toNat < 128 := fun h => by
      have hrange := isDigit_toNat h
      omega
    refine asciiDigit_of_lt ?_
    rw [text_toList, List.mem_cons, List.mem_append] at hc
    rcases hc with rfl | hc | hc
    · decide
    · rcases mem_mainText hc with h | rfl
      · exact hlt h
      · decide
    · exact (mem_preText hc).elim hlt id
  unfold asciiDigits
  rw [List.map_congr_left hall, List.map_id', String.ofList_toList]

theorem partitionPre_text : partitionPre t.text = (t.mainText, (preText t.pre).drop 1) := by
  refine partitionPre_eq text_toList ?_ ?_ ?_ ?_
  · intro c hc
    have hdigit : c.isDigit = true := by
      cases hmajor : t.major.digits with
      | nil => exact absurd hmajor t.major.ne_nil
      | cons d ds =>
        rw [mainText, hmajor, List.cons_append, List.head?_cons, Option.mem_some_iff] at hc
        exact hc ▸ t.major.isDigit d (hmajor ▸ List.mem_cons_self)
    rintro rfl
    exact absurd hdigit (by decide)
  · unfold mainText
    simp
  · intro h
    rcases mem_mainText h with h | h
    · exact absurd h (by decide)
    · exact absurd h (by decide)
  · match t.pre with
    | none => exact .inl rfl
    | some (stage, none) => exact .inr ⟨_, rfl⟩
    | some (stage, some n) => exact .inr ⟨_, rfl⟩

theorem runs_mainText : runs t.mainText = [t.major.digits, t.minor.digits, t.patch.digits] := by
  unfold mainText
  rw [runs_append t.major.ne_nil t.major.isDigit (by decide),
    runs_append t.minor.ne_nil t.minor.isDigit (by decide),
    runs_of_digits t.patch.ne_nil t.patch.isDigit]

theorem text_not_empty : t.text.isEmpty = false := by
  cases hempty : t.text.isEmpty with
  | false => rfl
  | true =>
    have htext := text_toList (t := t)
    rw [String.isEmpty_iff.1 hempty] at htext
    cases htext

/-- The letters of a stage end at the dot. -/
theorem takeWhile_stage (stage : Stage) {tail : List Char} (h : tail.takeWhile Char.isAlpha = []) :
    (stage.text.toList ++ tail).takeWhile Char.isAlpha = stage.text.toList := by
  have hletters : ∀ c ∈ stage.text.toList, c.isAlpha = true := fun c hc =>
    (letters_stage stage c hc).1
  rw [List.takeWhile_append_of_pos hletters, h, List.append_nil]

theorem preRank_stage (stage : Stage) : Launcher.preRank stage.text.toList = stage.rank := by
  cases stage <;> decide

theorem stage_ne_nil (stage : Stage) : stage.text.toList.isEmpty = false := by
  cases stage <;> decide

/-- The key of a tag. -/
theorem vtuple_text : vtuple t.text =
    [t.major.value, t.minor.value, t.patch.value, preRank t.pre, preNumber t.pre] := by
  unfold vtuple
  rw [text_not_empty, if_neg (by decide), partitionPre_text]
  dsimp only
  rw [digitRuns_none, runs_mainText]
  match t.pre with
  | none => rfl
  | some (stage, none) =>
    have hletters := @takeWhile_stage stage [] rfl
    rw [List.append_nil] at hletters
    simp only [preText, List.drop_succ_cons, List.drop_zero, hletters, stage_ne_nil]
    simp [preRank_stage, preRank, preNumber, digitRuns, Numeral.value]
  | some (stage, some n) =>
    have hletters := @takeWhile_stage stage ('.' :: n.digits) rfl
    have hempty : (stage.text.toList ++ '.' :: n.digits).isEmpty = false := by simp
    simp only [preText, List.drop_succ_cons, List.drop_zero, hletters, hempty, stage_ne_nil]
    simp [preRank_stage, preRank, preNumber, digitRuns_none, n.takeWhile_isDigit,
      runs_of_digits n.ne_nil n.isDigit, Numeral.value]

/-- The texts that `int` reads of a tag. -/
theorem numbers_text : numbers t.text =
    [t.major.digits, t.minor.digits, t.patch.digits] ++
      match t.pre with
      | some (_, some n) => [n.digits]
      | _ => [] := by
  unfold numbers
  rw [text_not_empty, if_neg (by decide), partitionPre_text]
  dsimp only
  rw [runs_mainText]
  match t.pre with
  | none => rfl
  | some (stage, none) =>
    have hletters := @takeWhile_stage stage [] rfl
    rw [List.append_nil] at hletters
    simp only [preText, List.drop_succ_cons, List.drop_zero, hletters, stage_ne_nil]
    simp
  | some (stage, some n) =>
    have hletters := @takeWhile_stage stage ('.' :: n.digits) rfl
    simp only [preText, List.drop_succ_cons, List.drop_zero, hletters, stage_ne_nil]
    simp [n.takeWhile_isDigit, n.ne_nil]

theorem readable_iff : (∀ n ∈ numbers t.text, n.length ≤ maxStrDigits) ↔ t.Readable := by
  rw [numbers_text, List.forall_mem_append, List.forall_mem_cons, List.forall_mem_cons,
    List.forall_mem_singleton]
  constructor
  · rintro ⟨⟨hmajor, hminor, hpatch⟩, hpre⟩
    refine ⟨hmajor, hminor, hpatch, fun stage n hn => hpre n.digits ?_⟩
    rw [hn]
    exact List.mem_singleton_self _
  · intro h
    refine ⟨⟨h.major, h.minor, h.patch⟩, fun ds hds => ?_⟩
    split at hds
    · next stage n hn =>
      rw [List.mem_singleton.1 hds]
      exact h.pre stage n hn
    · cases hds

/-- The key of a tag, when Python reads its numbers. -/
theorem vtuple?_text_of_readable (h : t.Readable) : vtuple? t.text = some (vtuple t.text) := by
  unfold vtuple?
  rw [asciiDigits_text, if_pos (readable_iff.2 h)]

theorem vtuple?_text_of_not_readable (h : ¬ t.Readable) : vtuple? t.text = none := by
  unfold vtuple?
  rw [asciiDigits_text, if_neg (fun hall => h (readable_iff.1 hall))]

/-! ## The order of the keys -/

theorem rank_lt (stage : Stage) : stage.rank < 3 := by cases stage <;> decide

theorem rank_injective : Function.Injective Stage.rank := by
  intro s s' h
  cases s <;> cases s' <;> first | rfl | cases h

theorem prePrecedes_iff {p q : Option (Stage × Option Numeral)} :
    PrePrecedes p q ↔
      preRank p < preRank q ∨ preRank p = preRank q ∧ preNumber p < preNumber q := by
  constructor
  · intro h
    cases h with
    | release p => exact .inl (rank_lt p.1)
    | stage h => exact .inl h
    | number h => exact .inr ⟨rfl, h⟩
  · intro h
    match p, q with
    | none, none =>
      rcases h with h | ⟨-, h⟩
      · exact absurd h (lt_irrefl _)
      · exact absurd h (lt_irrefl _)
    | none, some (s, n) =>
      have hlt := rank_lt s
      simp only [preRank] at h
      omega
    | some p, none => exact .release p
    | some (s, n), some (s', n') =>
      rcases h with h | ⟨hrank, h⟩
      · exact .stage h
      · obtain rfl := rank_injective hrank
        exact .number h

/-- **The keys are in the order of the versions.** -/
theorem vtuple_lt_iff : vtuple t.text < vtuple u.text ↔ Precedes t u := by
  rw [vtuple_text, vtuple_text]
  simp only [List.cons_lt_cons_iff, List.lt_irrefl, and_false, or_false]
  constructor
  · rintro (h | ⟨hmajor, h | ⟨hminor, h | ⟨hpatch, h⟩⟩⟩)
    · exact .major h
    · exact .minor hmajor h
    · exact .patch hmajor hminor h
    · exact .pre hmajor hminor hpatch (prePrecedes_iff.2 h)
  · intro h
    cases h with
    | major h => exact .inl h
    | minor hmajor h => exact .inr ⟨hmajor, .inl h⟩
    | patch hmajor hminor h => exact .inr ⟨hmajor, .inr ⟨hminor, .inl h⟩⟩
    | pre hmajor hminor hpatch h =>
      exact .inr ⟨hmajor, .inr ⟨hminor, .inr ⟨hpatch, prePrecedes_iff.1 h⟩⟩⟩

end VersionTag

/-! ## The rank of a key -/

/-- A digit of another script becomes a digit; what is no digit stays. -/
theorem asciiDigit_cases (c : Char) :
    asciiDigit c = c ∨ 128 ≤ c.toNat ∧ (asciiDigit c).isDigit = true := by
  have hzeros : ∀ z ∈ digitZeros, 128 ≤ z := by decide
  unfold asciiDigit
  split
  · next z hz =>
    have hp := List.find?_some hz
    have hle := hzeros z (List.mem_of_find?_eq_some hz)
    simp only [decide_eq_true_eq] at hp
    refine .inr ⟨by omega, ?_⟩
    rw [Nat.isDigit_digitChar, decide_eq_true_eq]
    omega
  · exact .inl rfl

/-- A test that treats the digits like what is beyond ASCII does not see the difference. -/
theorem test_asciiDigit {q : Char → Bool} (hdigit : ∀ c, c.isDigit = true → q c = false)
    (hbeyond : ∀ c, 128 ≤ c.toNat → q c = false) (c : Char) : q (asciiDigit c) = q c := by
  rcases asciiDigit_cases c with h | ⟨hlarge, h⟩
  · rw [h]
  · rw [hdigit _ h, hbeyond c hlarge]

theorem isAlpha_toNat {c : Char} (h : c.isAlpha = true) :
    65 ≤ c.toNat ∧ c.toNat ≤ 90 ∨ 97 ≤ c.toNat ∧ c.toNat ≤ 122 := by
  simp only [Char.isAlpha, Char.isUpper, Char.isLower, Bool.or_eq_true, Bool.and_eq_true,
    decide_eq_true_eq, ge_iff_le, UInt32.le_iff_toNat_le] at h
  exact h

theorem isAlpha_asciiDigit (c : Char) : (asciiDigit c).isAlpha = c.isAlpha := by
  refine test_asciiDigit (fun c h => ?_) (fun c h => ?_) c
  · have hrange := isDigit_toNat h
    rw [Bool.eq_false_iff]
    intro halpha
    have := isAlpha_toNat halpha
    omega
  · rw [Bool.eq_false_iff]
    intro halpha
    have := isAlpha_toNat halpha
    omega

theorem beq_asciiDigit {x : Char} (hx : x.toNat < 128) (hdigit : x.isDigit = false) (c : Char) :
    (asciiDigit c == x) = (c == x) := by
  refine @test_asciiDigit (fun c => c == x) (fun c h => ?_) (fun c h => ?_) c
  · rw [beq_eq_false_iff_ne]
    rintro rfl
    rw [hdigit] at h
    cases h
  · rw [beq_eq_false_iff_ne]
    rintro rfl
    omega

theorem partitionPre_asciiDigits (tag : String) :
    partitionPre (asciiDigits tag) =
      ((partitionPre tag).1.map asciiDigit, (partitionPre tag).2.map asciiDigit) := by
  have hv : (fun c => c == 'v') ∘ asciiDigit = fun c => c == 'v' :=
    funext fun c => beq_asciiDigit (by decide) (by decide) c
  have hdash : (fun c => c != '-') ∘ asciiDigit = fun c => c != '-' :=
    funext fun c => congrArg not (beq_asciiDigit (by decide) (by decide) c)
  unfold partitionPre lstripV asciiDigits
  simp only [String.toList_ofList, List.dropWhile_map, List.takeWhile_map, hv, hdash, List.map_drop]

theorem prereleaseRank_asciiDigits (tag : String) :
    prereleaseRank (asciiDigits tag) = prereleaseRank tag := by
  have halpha : Char.isAlpha ∘ asciiDigit = Char.isAlpha := funext isAlpha_asciiDigit
  have hletters : ∀ cs : List Char,
      (cs.takeWhile Char.isAlpha).map asciiDigit = cs.takeWhile Char.isAlpha := by
    intro cs
    refine (List.map_congr_left fun c hc => ?_).trans (List.map_id _)
    have hrange := isAlpha_toNat (List.all_eq_true.1 List.all_takeWhile c hc)
    exact asciiDigit_of_lt (by omega)
  unfold prereleaseRank
  rw [partitionPre_asciiDigits]
  simp only [List.isEmpty_map, List.takeWhile_map, halpha, hletters]

/-- Three numbers come before the rank. -/
theorem getElem_three (l : List Nat) (rank num : Nat) :
    (((l.take 3 ++ [0, 0, 0]).take 3) ++ [rank, num])[3]? = some rank := by
  have hlen : ((l.take 3 ++ [0, 0, 0]).take 3).length = 3 := by simp
  rw [List.getElem?_append_right (Nat.le_of_eq hlen), hlen]
  rfl

/-- The fourth part of a key is the rank of the tag. -/
theorem vtuple_getElem (v : String) : (vtuple v)[3]? = some (prereleaseRank v) := by
  by_cases hv : v = ""
  · have hkey : vtuple "" = [0, 0, 0, 3, 0] := by decide
    have hrank : prereleaseRank "" = 3 := by decide
    rw [hv, hkey, hrank]
    rfl
  · have hempty : v.isEmpty = false := Bool.eq_false_iff.2 fun h => hv (String.isEmpty_iff.1 h)
    unfold vtuple prereleaseRank
    rw [hempty, if_neg (by decide)]
    generalize partitionPre v = parts
    obtain ⟨main, pre⟩ := parts
    dsimp only
    by_cases hpre : pre.isEmpty = true
    · rw [if_pos hpre, if_pos hpre]
      exact getElem_three _ _ _
    · rw [if_neg hpre, if_neg hpre]
      exact getElem_three _ _ _

/-- **The two readings of a tag agree.** -/
theorem prereleaseRank_eq {tag : String} {key : List Nat} (h : vtuple? tag = some key) :
    key[3]? = some (prereleaseRank tag) := by
  have hkey : vtuple (asciiDigits tag) = key := by
    unfold vtuple? at h
    rw [Option.ite_none_right_eq_some] at h
    exact Option.some.inj h.2
  rw [← hkey, vtuple_getElem, prereleaseRank_asciiDigits]

/-! ## The pick -/

theorem accepted_iff {t : VersionTag} {channel : String} :
    channelMinRank channel ≤ prereleaseRank t.text ↔ t.Accepted channel := by
  have hrank : prereleaseRank t.text = VersionTag.preRank t.pre := by
    have hkey := vtuple_getElem t.text
    rw [VersionTag.vtuple_text] at hkey
    exact (Option.some.inj hkey).symm
  rw [hrank]
  unfold channelMinRank VersionTag.Accepted
  split
  · match t.pre with
    | none => simp [VersionTag.preRank]
    | some (stage, n) => cases stage <;> simp [VersionTag.preRank, Stage.rank]
  · simp
  · match t.pre with
    | none => simp [VersionTag.preRank]
    | some (stage, n) => cases stage <;> simp [VersionTag.preRank, Stage.rank]

/-- `max` answers nothing for nothing, and else the first of the greatest. -/
theorem foldl_newer (l : List (List Nat × Release)) :
    (l.foldl newer none = none ↔ l = []) ∧
      ∀ b, l.foldl newer none = some b → b ∈ l ∧ ∀ x ∈ l, x.1 ≤ b.1 := by
  induction l using List.reverseRecOn with
  | nil => exact ⟨by simp, nofun⟩
  | append_singleton l y ih =>
    rw [List.foldl_append, List.foldl_cons, List.foldl_nil]
    cases hbest : l.foldl newer none with
    | none =>
      obtain rfl := ih.1.1 hbest
      refine ⟨by simp [newer], fun b hb => ?_⟩
      obtain rfl := Option.some.inj hb
      simp
    | some b =>
      obtain ⟨hmem, hmax⟩ := ih.2 b hbest
      unfold newer
      dsimp only
      split
      · next hlt =>
        refine ⟨by simp, fun b' hb' => ?_⟩
        obtain rfl := Option.some.inj hb'
        refine ⟨by simp, fun x hx => ?_⟩
        rcases List.mem_append.1 hx with hx | hx
        · exact (hmax x hx).trans hlt.le
        · rw [List.mem_singleton.1 hx]
      · next hlt =>
        refine ⟨by simp, fun b' hb' => ?_⟩
        obtain rfl := Option.some.inj hb'
        refine ⟨List.mem_append_left _ hmem, fun x hx => ?_⟩
        rcases List.mem_append.1 hx with hx | hx
        · exact hmax x hx
        · rw [List.mem_singleton.1 hx]
          exact not_lt.1 hlt

section
variable {channel : String} {releases : List Release} {r : Release}

theorem mem_candidates : r ∈ candidates channel releases ↔
    r ∈ releases ∧ r.draft = false ∧ channelMinRank channel ≤ prereleaseRank r.tagName := by
  unfold candidates
  rw [List.mem_filter, Bool.and_eq_true, Bool.not_eq_true', decide_eq_true_eq]

/-- The release has the greatest key of those that the channel accepts. -/
structure Newest (channel : String) (releases : List Release) (r : Release) : Prop where
  candidate : r ∈ candidates channel releases
  newest : ∀ x ∈ candidates channel releases, ∃ k k', vtuple? x.tagName = some k ∧
    vtuple? r.tagName = some k' ∧ k ≤ k'

/-- A candidate whose number is too long ends the pick with an exception. -/
theorem pickRelease?_eq_none (h : ∃ x ∈ candidates channel releases, vtuple? x.tagName = none) :
    pickRelease? channel releases = none := by
  obtain ⟨x, hx, hkey⟩ := h
  have hkeyed : ((candidates channel releases).mapM fun r =>
      (vtuple? r.tagName).map fun k => (k, r)) = none := by
    rw [Option.eq_none_iff_forall_not_mem]
    intro keyed hkeyed
    have hall := (List.forall₂_and_left (p := fun r => (vtuple? r.tagName).isSome = true) _ _).1
      ((mapM_eq_some_iff.1 hkeyed).imp fun r b hb =>
        ⟨by rw [← Option.isSome_map, hb, Option.isSome_some], hb⟩)
    have hsome := hall.1 x hx
    rw [hkey] at hsome
    cases hsome
  unfold pickRelease?
  rw [hkeyed]
  rfl

/-- What is picked of candidates whose numbers can be read. -/
theorem pickRelease?_spec
    (h : ∀ x ∈ candidates channel releases, (vtuple? x.tagName).isSome = true) :
    ∃ best, pickRelease? channel releases = some best ∧
      (best = none ↔ candidates channel releases = []) ∧ ∀ r ∈ best, Newest channel releases r := by
  have hread : ∀ x ∈ candidates channel releases, (vtuple? x.tagName).map (fun k => (k, x)) =
      some ((vtuple? x.tagName).getD [], x) := by
    intro x hx
    obtain ⟨k, hk⟩ := Option.isSome_iff_exists.1 (h x hx)
    rw [hk]
    rfl
  obtain ⟨hnone, hmax⟩ := foldl_newer ((candidates channel releases).map fun x =>
    ((vtuple? x.tagName).getD [], x))
  refine ⟨_, by unfold pickRelease?; rw [mapM_eq_some hread]; rfl, ?_, fun r hr => ?_⟩
  · rw [Option.map_eq_none_iff, hnone, List.map_eq_nil_iff]
  · obtain ⟨⟨key, r'⟩, hb, rfl⟩ := Option.map_eq_some_iff.1 hr
    obtain ⟨hmem, hle⟩ := hmax _ hb
    obtain ⟨x, hx, heq⟩ := List.mem_map.1 hmem
    obtain ⟨rfl, rfl⟩ := Prod.mk.inj heq
    refine ⟨hx, fun y hy => ?_⟩
    obtain ⟨k, hk⟩ := Option.isSome_iff_exists.1 (h y hy)
    obtain ⟨k', hk'⟩ := Option.isSome_iff_exists.1 (h x hx)
    have hley := hle _ (List.mem_map_of_mem hy)
    simp only [hk, hk', Option.getD_some] at hley
    exact ⟨k, k', hk, hk', hley⟩

/-- `int` reads the numbers of a tag in ASCII that are not too long. -/
theorem vtuple?_eq_some {v : String} (hascii : asciiDigits v = v)
    (hshort : ∀ n ∈ numbers v, n.length ≤ maxStrDigits) : vtuple? v = some (vtuple v) := by
  unfold vtuple?
  rw [hascii]
  exact if_pos hshort

/-- The pick compares the keys as an update does, when `int` reads them all. -/
theorem pickRelease?_eq_some
    (h : ∀ x ∈ candidates channel releases, vtuple? x.tagName = some (vtuple x.tagName)) :
    pickRelease? channel releases = some (pickRelease channel releases) := by
  have hread : ∀ x ∈ candidates channel releases, (vtuple? x.tagName).map (fun k => (k, x)) =
      some (vtuple x.tagName, x) := fun x hx => by rw [h x hx]; rfl
  -- the running best has its own key
  obtain ⟨pick, heq, hpick⟩ : ∃ pick : Option Release → Release → Option Release,
      pickRelease channel releases = (candidates channel releases).foldl pick none ∧
      ∀ best r, newer (best.map fun r => (vtuple r.tagName, r)) (vtuple r.tagName, r) =
        (pick best r).map fun r => (vtuple r.tagName, r) := by
    refine ⟨_, rfl, fun best r => ?_⟩
    cases best with
    | none => rfl
    | some b =>
      simp only [newer, Option.map_some]
      split <;> rfl
  have hfold (best : Option Release) (rs : List Release) :
      (rs.map fun r => (vtuple r.tagName, r)).foldl newer
          (best.map fun r => (vtuple r.tagName, r)) =
        (rs.foldl pick best).map fun r => (vtuple r.tagName, r) := by
    induction rs generalizing best with
    | nil => rfl
    | cons r rs ih => rw [List.map_cons, List.foldl_cons, List.foldl_cons, ← ih, hpick]
  have hnone := hfold none (candidates channel releases)
  rw [Option.map_none] at hnone
  unfold pickRelease?
  rw [mapM_eq_some hread, heq]
  change some ((List.foldl newer none _).map Prod.snd) = _
  rw [hnone, Option.map_map]
  exact congrArg some Option.map_id'

end

/-- **Versions and channels.** The keys of tags with numbers that Python reads are in the order of
the versions, the rank of a tag is the rank of its key and says whether the channel takes it, and
the pick is a release with the greatest key of those that the channel accepts, or nothing when there
is none. -/
theorem version_order :
    (∀ t : VersionTag, t.Readable → vtuple? t.text = some [t.major.value, t.minor.value,
      t.patch.value, VersionTag.preRank t.pre, VersionTag.preNumber t.pre]) ∧
    (∀ t u : VersionTag, t.Readable → u.Readable → ∃ k k', vtuple? t.text = some k ∧
      vtuple? u.text = some k' ∧ (k < k' ↔ t.Precedes u)) ∧
    (∀ tag key, vtuple? tag = some key → key[3]? = some (prereleaseRank tag)) ∧
    (∀ (t : VersionTag) channel,
      channelMinRank channel ≤ prereleaseRank t.text ↔ t.Accepted channel) ∧
    ∀ channel releases,
      (∀ x ∈ candidates channel releases, (vtuple? x.tagName).isSome = true) →
        ∃ best, pickRelease? channel releases = some best ∧
          (best = none ↔ candidates channel releases = []) ∧
          ∀ r ∈ best, Newest channel releases r := by
  refine ⟨fun t ht => ?_, fun t u ht hu => ?_, fun tag key h => prereleaseRank_eq h,
    fun t channel => accepted_iff, fun channel releases h => pickRelease?_spec h⟩
  · rw [VersionTag.vtuple?_text_of_readable ht, VersionTag.vtuple_text]
  · exact ⟨_, _, VersionTag.vtuple?_text_of_readable ht, VersionTag.vtuple?_text_of_readable hu,
      VersionTag.vtuple_lt_iff⟩

/-! ## A number that Python does not read -/

/-- A number of so many ones. -/
def ones (n : Nat) : Numeral :=
  ⟨List.replicate (n + 1) '1', by simp, fun c hc => by rw [List.eq_of_mem_replicate hc]; rfl⟩

/-- `v1…1.1.1`, with 4301 digits in the first number. -/
def longTag : VersionTag := ⟨ones 4300, ones 0, ones 0, none⟩

theorem longTag_not_readable : ¬ longTag.Readable := by
  intro h
  have hlen : (List.replicate 4301 '1').length ≤ 4300 := h.major
  rw [List.length_replicate] at hlen
  exact absurd hlen (by decide)

/-- The tag has no key, and a list with its release cannot be picked from. -/
theorem long_number_raises :
    vtuple? longTag.text = none ∧
      pickRelease? "stable" [⟨longTag.text, false, []⟩, ⟨"v1.0.0", false, []⟩] = none := by
  have hkey := VersionTag.vtuple?_text_of_not_readable longTag_not_readable
  refine ⟨hkey, pickRelease?_eq_none ⟨_, mem_candidates.2 ⟨List.mem_cons_self, rfl, ?_⟩, hkey⟩⟩
  exact accepted_iff.2 rfl

end AeroXProtect.Launcher
