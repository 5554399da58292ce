import AeroXProtect.Detection.Observations
import Mathlib.Data.List.Forall2

/-!
# The key of a plate

A read is matched against the watch list by its key: the text in upper case, without any character
outside `A`-`Z` and `0`-`9`, and with the glyphs that OCR confuses folded into one. So the key drops
white space and separators, but letters and digits of other scripts too. `matchKey_eq_iff` says what
it identifies: two texts have one key exactly when the characters that are kept look alike one by
one. For texts that have nothing but these characters and separators, this is equality up to case,
separators and look-alikes (`matchKey_eq_iff_separated`).
-/

open Lib

namespace AeroXProtect.LprIngest

/-- A character of `[A-Z0-9]`. -/
def isKept (c : Char) : Bool := decide ('A' ≤ c ∧ c ≤ 'Z' ∨ '0' ≤ c ∧ c ≤ '9')

/-- The classes of glyphs that look alike. -/
def glyphs : List (List Char) :=
  [['0', 'O', 'Q', 'D'], ['1', 'I', 'L'], ['2', 'Z'], ['5', 'S'], ['8', 'B']]

/-- The characters are the same, or they look alike. -/
def SameGlyph (a b : Char) : Prop := a = b ∨ ∃ g ∈ glyphs, a ∈ g ∧ b ∈ g

/-- A text in upper case, without separators, and with look-alikes folded into one. -/
def separated (rt : Runtime) (sep : Char → Bool) (text : String) : List Char :=
  ((rt.upper text).toList.filter fun c => !sep c).map fold

/-! ## Look-alikes -/

/-- The glyph that stands for a class is in it. -/
theorem fold_of_mem {g : List Char} (hg : g ∈ glyphs) {c : Char} (hc : c ∈ g) :
    some (fold c) = g.head? := by
  have hall : glyphs.all (fun g => g.all fun c => decide (some (fold c) = g.head?)) = true := by
    decide
  exact of_decide_eq_true (List.all_eq_true.1 (List.all_eq_true.1 hall g hg) c hc)

/-- A character that is folded is in a class. -/
theorem sameGlyph_fold (c : Char) : SameGlyph c (fold c) := by
  unfold fold
  split_ifs with h₁ h₂ h₃ h₄ h₅
  · exact .inr ⟨['0', 'O', 'Q', 'D'], by simp [glyphs], by simp [h₁], by simp⟩
  · exact .inr ⟨['1', 'I', 'L'], by simp [glyphs], by simp [h₂], by simp⟩
  · exact .inr ⟨['2', 'Z'], by simp [glyphs], by simp [h₃], by simp⟩
  · exact .inr ⟨['5', 'S'], by simp [glyphs], by simp [h₄], by simp⟩
  · exact .inr ⟨['8', 'B'], by simp [glyphs], by simp [h₅], by simp⟩
  · exact .inl rfl

/-- No character is in two classes. -/
theorem glyphs_unique {g g' : List Char} (hg : g ∈ glyphs) (hg' : g' ∈ glyphs) {c : Char}
    (hc : c ∈ g) (hc' : c ∈ g') : g = g' := by
  have hall : glyphs.all (fun g => glyphs.all fun g' =>
      decide (g = g') || g.all fun c => !g'.contains c) = true := by decide
  have hpair := List.all_eq_true.1 (List.all_eq_true.1 hall g hg) g' hg'
  rcases Bool.or_eq_true_iff.1 hpair with heq | hapart
  · exact of_decide_eq_true heq
  · have hnot := List.all_eq_true.1 hapart c hc
    simp [hc'] at hnot

theorem fold_eq_iff {a b : Char} : fold a = fold b ↔ SameGlyph a b := by
  constructor
  · intro h
    rcases sameGlyph_fold a with ha | ⟨g, hg, hag, hfa⟩ <;>
      rcases sameGlyph_fold b with hb | ⟨g', hg', hbg, hfb⟩
    · exact .inl (ha.trans (h.trans hb.symm))
    · exact .inr ⟨g', hg', ha ▸ h ▸ hfb, hbg⟩
    · exact .inr ⟨g, hg, hag, hb ▸ h ▸ hfa⟩
    · obtain rfl := glyphs_unique hg hg' hfa (h ▸ hfb)
      exact .inr ⟨g, hg, hag, hbg⟩
  · rintro (rfl | ⟨g, hg, ha, hb⟩)
    · rfl
    · exact Option.some.inj ((fold_of_mem hg ha).trans (fold_of_mem hg hb).symm)

/-! ## What the key identifies -/

section
variable {rt : Runtime} {s t : String}

theorem normalize_toList : (normalize rt s).toList = (rt.upper s).toList.filter isKept :=
  String.toList_ofList

/-- Two texts have one key exactly when their characters look alike one by one. -/
theorem matchKey_eq_iff :
    matchKey rt s = matchKey rt t ↔
      List.Forall₂ SameGlyph (normalize rt s).toList (normalize rt t).toList := by
  unfold matchKey
  rw [String.ofList_inj, ← List.forall₂_eq_eq_eq, List.forall₂_map_left_iff,
    List.forall₂_map_right_iff]
  simp only [fold_eq_iff]

/-- A text that has nothing but kept characters and separators. -/
theorem separated_eq {sep : Char → Bool} (hsep : ∀ c, isKept c = true → sep c = false)
    (hs : ∀ c ∈ (rt.upper s).toList, isKept c = true ∨ sep c = true) :
    separated rt sep s = (matchKey rt s).toList := by
  unfold separated matchKey
  rw [String.toList_ofList, normalize_toList]
  congr 1
  refine List.filter_congr fun c hc => ?_
  cases hkept : isKept c with
  | true => simp [hsep c hkept]
  | false => simpa [hkept] using hs c hc

/-- Texts of kept characters and separators have one key exactly when they are equal up to case,
separators and look-alikes. -/
theorem matchKey_eq_iff_separated {sep : Char → Bool}
    (hsep : ∀ c, isKept c = true → sep c = false)
    (hs : ∀ c ∈ (rt.upper s).toList, isKept c = true ∨ sep c = true)
    (ht : ∀ c ∈ (rt.upper t).toList, isKept c = true ∨ sep c = true) :
    matchKey rt s = matchKey rt t ↔ separated rt sep s = separated rt sep t := by
  rw [separated_eq hsep hs, separated_eq hsep ht, String.toList_inj]

theorem key_of_matchPlate {plates : List PlateListEntry} {key : String} {e : PlateListEntry}
    (h : matchPlate plates key = some e) : e.plateKey = key := by
  unfold matchPlate at h
  split at h
  · cases h
  · rw [Option.or_eq_some_iff] at h
    have hmem : e ∈ plates.filter fun p =>
        decide (p.plateKey = key) && p.enabled && p.deletedAt.isNone := by
      rcases h with h | ⟨-, h⟩
      · exact List.mem_of_find?_eq_some h
      · exact List.mem_of_mem_head? h
    simp only [List.mem_filter, Bool.and_eq_true, decide_eq_true_eq] at hmem
    exact hmem.2.1.1

/-- The entry that a plate hits has the key of the text that is stored. -/
theorem key_of_judgePlate {o : Observer} {rep : PyValue} {row : Row} {e : PlateListEntry}
    (h : o.judgePlate rep = .accepted row) (he : row.entry = some e) :
    e.plateKey = matchKey o.rt row.plateText := by
  obtain ⟨cam, confidence, -, ts, -, rfl⟩ := Observer.judgePlate_eq_accepted.1 h
  simp only [Observer.plateRow] at he ⊢
  split at he
  · exact key_of_matchPlate he
  · cases he

end

/-- **Plates that match.** Two texts have one key exactly when the letters `A`-`Z` and digits that
are left of them look alike one by one; for texts with nothing else but separators this is equality
up to case, separators and look-alikes. Two plates that hit the same entry have stored texts with
one key, and so has a text that the entry was keyed with. -/
theorem plate_match_iff (o : Observer) :
    (∀ s t, matchKey o.rt s = matchKey o.rt t ↔
      List.Forall₂ SameGlyph (normalize o.rt s).toList (normalize o.rt t).toList) ∧
    (∀ sep : Char → Bool, (∀ c, isKept c = true → sep c = false) → ∀ s t,
      (∀ c ∈ (o.rt.upper s).toList ++ (o.rt.upper t).toList, isKept c = true ∨ sep c = true) →
        (matchKey o.rt s = matchKey o.rt t ↔ separated o.rt sep s = separated o.rt sep t)) ∧
    (∀ rep rep' row row' e, o.judgePlate rep = .accepted row → o.judgePlate rep' = .accepted row' →
      row.entry = some e → row'.entry = some e →
        List.Forall₂ SameGlyph (normalize o.rt row.plateText).toList
          (normalize o.rt row'.plateText).toList) ∧
    ∀ rep row e text, o.judgePlate rep = .accepted row → row.entry = some e →
      e.plateKey = matchKey o.rt text →
        List.Forall₂ SameGlyph (normalize o.rt row.plateText).toList
          (normalize o.rt text).toList := by
  refine ⟨fun s t => matchKey_eq_iff, fun sep hsep s t hall => ?_,
    fun rep rep' row row' e hrow hrow' he he' => ?_, fun rep row e text hrow he hkey => ?_⟩
  · rw [List.forall_mem_append] at hall
    exact matchKey_eq_iff_separated hsep hall.1 hall.2
  · exact matchKey_eq_iff.1 ((key_of_judgePlate hrow he).symm.trans (key_of_judgePlate hrow' he'))
  · exact matchKey_eq_iff.1 ((key_of_judgePlate hrow he).symm.trans hkey)

/-- White space and the punctuation of ASCII. -/
def isSeparator (c : Char) : Bool :=
  Lib.isSpace c || decide (c.toNat < 128 ∧ c.isAlphanum = false)

/-- An entry for a plate of digits. -/
def digitsEntry : PlateListEntry := ⟨1, "123456", .deny, none, true, none⟩

/-- Two plates with different Hangul letters hit the same entry, and two whose texts differ after 24
characters are stored alike. -/
theorem hangul_plates_match :
    matchKey .ascii "12가3456" = matchKey .ascii "12나3456" ∧
      separated .ascii isSeparator "12가3456" ≠ separated .ascii isSeparator "12나3456" ∧
      matchPlate [digitsEntry] (matchKey .ascii "12가3456") = some digitsEntry ∧
      matchPlate [digitsEntry] (matchKey .ascii "12나3456") = some digitsEntry ∧
      rawText .ascii (.str "AAAAAAAAAAAAAAAAAAAAAAAAA") =
        rawText .ascii (.str "AAAAAAAAAAAAAAAAAAAAAAAAC") := by
  have hkey : ∀ s ∈ ["12가3456", "12나3456"], matchKey .ascii s = digitsEntry.plateKey := by
    intro s hs
    unfold matchKey
    rw [normalize_toList]
    have hfolded : (((Runtime.ascii.upper s).toList.filter isKept).map fold) =
        digitsEntry.plateKey.toList := by
      revert s
      decide +kernel
    rw [hfolded, String.ofList_toList]
  rw [hkey _ (by simp), hkey _ (by simp)]
  refine ⟨rfl, by decide +kernel, by decide +kernel, by decide +kernel, by decide +kernel⟩

end AeroXProtect.LprIngest
