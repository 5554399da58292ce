import AeroXProtect.Lib.Dates
import AeroXProtect.Lib.Fields
import AeroXProtect.Storage.Files
import Mathlib

/-!
# The names of recorded files

ffmpeg names each file by the second in which it begins it. The names are ordered as these seconds
(`segmentName_lt`), and the indexer reads the second again (`parseStartTs_segmentName`).
-/

open Lib

namespace AeroXProtect

namespace Recording

/-- `'seg-%Y%m%d-%H%M%S'` -/
def nameFields : List Field :=
  [.lit 's', .lit 'e', .lit 'g', .lit '-', .digits 4, .digits 2, .digits 2, .lit '-', .digits 2,
    .digits 2, .digits 2]

/-- The name of a file that ffmpeg begins at an instant.
Source: `out_pattern` in `Supervisor._start` (`worker/recorder/supervisor.py:193`). -/
def segmentName (container : String) (t : Int) : String :=
  String.ofList (printFields nameFields (clockFields t) ++ '.' :: (segmentExt container).toList)

section
variable {container container' : String} {t t' : Int}

/-- The date of an instant, of a year of four digits. -/
theorem isDate_clock (h : IsDatetime t) :
    IsDate (t / days 1 + 719162).toNat (dateOf (t / days 1 + 719162).toNat).1
      (dateOf (t / days 1 + 719162).toNat).2.1 (dateOf (t / days 1 + 719162).toNat).2.2 ∧
    (dateOf (t / days 1 + 719162).toNat).1 < 10000 := by
  obtain ⟨hlow, hhigh⟩ := h
  unfold days seconds at hlow hhigh
  have hdate := isDate_dateOf (t / days 1 + 719162).toNat
  exact ⟨hdate, hdate.year_lt (by unfold days seconds; omega)⟩

theorem fits_clockFields (h : IsDatetime t) : Fits nameFields (clockFields t) := by
  obtain ⟨hdate, hyear⟩ := isDate_clock h
  have hmonth := hdate.month_range
  have hday := hdate.day_range
  have hle := @daysInMonth_le (dateOf (t / days 1 + 719162).toNat).1
    (dateOf (t / days 1 + 719162).toNat).2.1
  unfold clockFields seconds
  refine ⟨by decide, _, _, rfl, ?_, by decide, _, _, rfl, ?_, by decide, _, _, rfl, ?_,
    by decide, _, _, rfl, ?_, by decide, _, _, rfl, ?_, by decide, _, _, rfl, ?_, rfl⟩
  all_goals
    unfold days seconds at *
    omega

/-- The names of files are ordered as the seconds in which they were begun. -/
theorem segmentName_lt (h : IsDatetime t) (h' : IsDatetime t')
    (hlt : epochSeconds t < epochSeconds t') :
    segmentName container t < segmentName container' t' := by
  rw [String.lt_iff, segmentName, segmentName, String.toList_ofList, String.toList_ofList]
  exact printFields_lt (fits_clockFields h) (fits_clockFields h') (clockFields_lt h hlt) _ _

/-- The name has the extension of the container. -/
theorem endsWith_segmentName :
    (segmentName container t).endsWith ("." ++ segmentExt container) = true := by
  rw [← String.endsWith_toSlice, String.Slice.endsWith_string_iff, String.copy_toSlice, segmentName,
    String.toList_ofList, String.toList_append]
  exact List.suffix_append _ _

theorem digitsOf_append {n : Nat} {ds : List Char} (hlen : ds.length = n)
    (hall : ∀ c ∈ ds, c.isDigit = true) (rest : List Char) :
    digitsOf n (ds ++ rest) = some (ds, rest) := by
  rw [digitsOf, List.take_left' hlen, List.drop_left' hlen,
    if_pos ⟨hlen, List.all_eq_true.2 hall⟩]

/-- A name of eight and six digits is one that is looked for. -/
theorem searchName_ofList {date time : List Char} (hdate : date.length = 8)
    (hdate' : ∀ c ∈ date, c.isDigit = true) (htime : time.length = 6)
    (htime' : ∀ c ∈ time, c.isDigit = true) (container : String) :
    searchName (String.ofList ('s' :: 'e' :: 'g' :: '-' ::
      (date ++ '-' :: (time ++ '.' :: (segmentExt container).toList)))) = some (date, time) := by
  have hext : '.' :: (segmentExt container).toList ∈
      [".mp4".toList, ".ts".toList, ".mp4\n".toList, ".ts\n".toList] := by
    unfold segmentExt
    split <;> decide
  have hmatch : matchName ('s' :: 'e' :: 'g' :: '-' ::
      (date ++ '-' :: (time ++ '.' :: (segmentExt container).toList))) = some (date, time) := by
    rw [matchName, List.drop_succ_cons, List.drop_succ_cons, List.drop_succ_cons,
      List.drop_succ_cons, List.drop_zero, digitsOf_append hdate hdate']
    simp only [Option.bind_eq_bind, Option.bind_some, List.head?_cons, List.tail_cons,
      digitsOf_append htime htime', guard, hext]
    rfl
  rw [searchName, String.toList_ofList, List.tails_cons, List.findSome?_cons, hmatch]

/-- The number that the digits of a part of a name say. -/
theorem numberOf_padded (w n : Nat) : numberOf (padded w n) = n := ofDigitChars_padded w n

/-- The instant that a name says, number by number. -/
theorem parseStartTs_eq {filename : String} {y m d hh mm ss : Nat} (hy : y < 10 ^ 4)
    (hm : m < 10 ^ 2) (hhh : hh < 10 ^ 2) (hmm : mm < 10 ^ 2)
    (hname : searchName filename = some (padded 4 y ++ (padded 2 m ++ padded 2 d),
      padded 2 hh ++ (padded 2 mm ++ padded 2 ss)))
    (hdate : 1 ≤ y ∧ 1 ≤ m ∧ m ≤ 12 ∧ 1 ≤ d ∧ d ≤ daysInMonth y m)
    (htime : hh < 24 ∧ mm < 60 ∧ ss < 60) : parseStartTs filename =
      some (days (dayNumber y m d) + seconds (3600 * hh + 60 * mm + ss)) := by
  have hy4 := length_padded (w := 4) (by decide) hy
  have hm2 := length_padded (w := 2) (by decide) hm
  have hh2 := length_padded (w := 2) (by decide) hhh
  have hmm2 := length_padded (w := 2) (by decide) hmm
  have hday : (padded 4 y ++ (padded 2 m ++ padded 2 d)).drop 6 = padded 2 d := by
    rw [← List.append_assoc]
    exact List.drop_left' (by rw [List.length_append, hy4, hm2])
  have hsec : (padded 2 hh ++ (padded 2 mm ++ padded 2 ss)).drop 4 = padded 2 ss := by
    rw [← List.append_assoc]
    exact List.drop_left' (by rw [List.length_append, hh2, hmm2])
  unfold parseStartTs
  simp only [hname, Option.bind_eq_bind, Option.bind_some, List.take_left' hy4, List.drop_left' hy4,
    List.take_left' hm2, List.take_left' hh2, List.drop_left' hh2, List.take_left' hmm2, hday, hsec,
    numberOf_padded, guard, hdate, htime]
  simp

theorem digits_padded {n k l v w x : Nat} :
    ∀ c ∈ padded v n ++ (padded w k ++ padded x l), c.isDigit = true := by
  intro c hc
  rcases List.mem_append.1 hc with hc | hc
  · exact isDigit_padded hc
  · exact (List.mem_append.1 hc).elim isDigit_padded isDigit_padded

/-- The instant that the text of a date and a time of day says. -/
theorem parseStartTs_printFields {y m d hh mm ss : Nat} (hy : y < 10000)
    (hdate : 1 ≤ y ∧ 1 ≤ m ∧ m ≤ 12 ∧ 1 ≤ d ∧ d ≤ daysInMonth y m)
    (htime : hh < 24 ∧ mm < 60 ∧ ss < 60) (container : String) :
    parseStartTs (String.ofList (printFields nameFields [y, m, d, hh, mm, ss] ++
      '.' :: (segmentExt container).toList)) =
      some (days (dayNumber y m d) + seconds (3600 * hh + 60 * mm + ss)) := by
  have hle := @daysInMonth_le y m
  have hlen : ∀ n < 100, (padded 2 n).length = 2 := fun n hn => length_padded (by decide) hn
  have hdlen : (padded 4 y ++ (padded 2 m ++ padded 2 d)).length = 8 := by
    rw [List.length_append, List.length_append, length_padded (by decide) hy, hlen m (by omega),
      hlen d (by omega)]
  have htlen : (padded 2 hh ++ (padded 2 mm ++ padded 2 ss)).length = 6 := by
    rw [List.length_append, List.length_append, hlen hh (by omega), hlen mm (by omega),
      hlen ss (by omega)]
  refine parseStartTs_eq hy (by omega) (by omega) (by omega) ?_ hdate htime
  rw [← searchName_ofList hdlen digits_padded htlen digits_padded container]
  simp only [nameFields, printFields, List.headD_cons, List.tail_cons, List.append_assoc,
    List.cons_append, List.nil_append]

/-- The name is the date, and the second in which the file was begun. -/
theorem parseStartTs_segmentName (h : IsDatetime t) :
    parseStartTs (segmentName container t) = some (seconds (epochSeconds t)) := by
  obtain ⟨hdate, hyear⟩ := isDate_clock h
  obtain ⟨hlow, -⟩ := h
  have hsec : (t % days 1 / seconds 1).toNat < 86400 := by
    unfold days seconds
    omega
  rw [segmentName, clockFields, parseStartTs_printFields hyear
    ⟨hdate.year_pos, hdate.month_range.1, hdate.month_range.2, hdate.day_range⟩
    ⟨by omega, by omega, by omega⟩, hdate.dayNumber]
  unfold days seconds epochSeconds at *
  congr 1
  omega

/-- The indexer looks for the name. -/
theorem isSome_searchName (h : IsDatetime t) :
    (searchName (segmentName container t)).isSome = true := by
  have hparse := @parseStartTs_segmentName container t h
  unfold parseStartTs at hparse
  cases hs : searchName (segmentName container t) with
  | none =>
    rw [hs] at hparse
    cases hparse
  | some x => rfl

end

end Recording

end AeroXProtect
