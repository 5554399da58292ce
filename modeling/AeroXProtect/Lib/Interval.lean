import Mathlib.Order.Lattice
import Mathlib.Order.MinMax
import Mathlib.Tactic.Common

/-!
# Intervals on a line

An interval is a pair of its ends, and its instants are those from the first end on and before the
second. `merge near lo hi` joins a list of items that is sorted by `lo` into ranges: an item joins
the range before it when `near` says so, and the range grows to the later end. `gaps cursor stop` is
the sweep that lists what intervals sorted by their first end leave free between two instants:

```
for lo, hi in intervals:
    if lo > cursor: emit (cursor, lo)
    cursor = max(cursor, hi)
if cursor < stop: emit (cursor, stop)
```

`covered_gaps_iff` says which instants lie in a gap, `mem_gaps_iff` that the gaps are the longest
free intervals (`MaximalFree`).
-/

namespace Lib.Interval

section
variable {α : Type} [LinearOrder α]

/-- The instant lies in the interval. -/
def Covers (i : α × α) (t : α) : Prop := i.1 ≤ t ∧ t < i.2

/-- The instant lies in one of the intervals. -/
def Covered (l : List (α × α)) (t : α) : Prop := ∃ i ∈ l, Covers i t

/-- No instant from `a` on and before `b` is covered. -/
def Free (covered : α → Prop) (a b : α) : Prop := ∀ t, a ≤ t → t < b → ¬ covered t

/-- A free interval between `lo` and `hi` that is part of no other one. -/
structure MaximalFree (covered : α → Prop) (lo hi a b : α) : Prop where
  lt : a < b
  lo_le : lo ≤ a
  le_hi : b ≤ hi
  free : Free covered a b
  maximal : ∀ a' b', lo ≤ a' → a' ≤ a → b ≤ b' → b' ≤ hi → Free covered a' b' → a' = a ∧ b' = b

instance (i : α × α) (t : α) : Decidable (Covers i t) := inferInstanceAs (Decidable (_ ∧ _))

instance (l : List (α × α)) (t : α) : Decidable (Covered l t) :=
  inferInstanceAs (Decidable (∃ i ∈ l, Covers i t))

theorem covered_cons {i : α × α} {l : List (α × α)} {t : α} :
    Covered (i :: l) t ↔ Covers i t ∨ Covered l t := by
  simp [Covered]

/-- Two of several intervals that come one after the other. -/
theorem apart_of_ne {l : List (α × α)} (h : l.Pairwise fun i j => i.2 < j.1) {i j : α × α}
    (hi : i ∈ l) (hj : j ∈ l) (hne : i ≠ j) : i.2 < j.1 ∨ j.2 < i.1 := by
  induction l with
  | nil => cases hi
  | cons k l ih =>
    obtain ⟨hk, hrest⟩ := List.pairwise_cons.1 h
    rcases List.mem_cons.1 hi with rfl | hil <;> rcases List.mem_cons.1 hj with rfl | hjl
    · exact absurd rfl hne
    · exact .inl (hk j hjl)
    · exact .inr (hk i hil)
    · exact ih hrest hil hjl

variable {covered covered' : α → Prop} {lo hi a b c d : α}

/-- Only the instants between the bounds matter. -/
theorem MaximalFree.congr (h : ∀ t, lo ≤ t → t < hi → (covered t ↔ covered' t)) :
    MaximalFree covered lo hi a b ↔ MaximalFree covered' lo hi a b := by
  have hfree : ∀ a b, lo ≤ a → b ≤ hi → (Free covered a b ↔ Free covered' a b) := by
    intro a b ha hb
    refine forall_congr' fun t => forall_congr' fun hat => forall_congr' fun htb => ?_
    rw [h t (ha.trans hat) (htb.trans_le hb)]
  constructor
  · intro hm
    refine ⟨hm.lt, hm.lo_le, hm.le_hi, (hfree a b hm.lo_le hm.le_hi).1 hm.free, ?_⟩
    intro a' b' ha' haa' hbb' hb' hf
    exact hm.maximal a' b' ha' haa' hbb' hb' ((hfree a' b' ha' hb').2 hf)
  · intro hm
    refine ⟨hm.lt, hm.lo_le, hm.le_hi, (hfree a b hm.lo_le hm.le_hi).2 hm.free, ?_⟩
    intro a' b' ha' haa' hbb' hb' hf
    exact hm.maximal a' b' ha' haa' hbb' hb' ((hfree a' b' ha' hb').1 hf)

/-- A free interval is maximal when just before it there is a bound or a covered instant at which
every earlier start is caught, and at its end a bound or a covered instant. -/
theorem maximalFree_of_ends (hlt : a < b) (hlo : lo ≤ a) (hhi : b ≤ hi) (hfree : Free covered a b)
    (hleft : a = lo ∨ ∃ s, s < a ∧ ∀ t, s ≤ t → t < a → covered t)
    (hright : b = hi ∨ covered b) : MaximalFree covered lo hi a b := by
  refine ⟨hlt, hlo, hhi, hfree, fun a' b' ha' haa' hbb' hb' hf => ⟨?_, ?_⟩⟩
  · by_contra hne
    have ha'lt : a' < a := lt_of_le_of_ne haa' hne
    rcases hleft with rfl | ⟨s, hs, hcov⟩
    · exact absurd ha'lt (not_lt.2 ha')
    · have hmax : max a' s < a := max_lt ha'lt hs
      exact hf _ (le_max_left _ _) ((hmax.trans hlt).trans_le hbb') (hcov _ (le_max_right _ _) hmax)
  · by_contra hne
    have hb'lt : b < b' := lt_of_le_of_ne hbb' (Ne.symm hne)
    rcases hright with rfl | hcov
    · exact absurd hb'lt (not_lt.2 hb')
    · exact hf b (haa'.trans hlt.le) hb'lt hcov

/-- Two maximal free intervals with a common instant are the same. -/
theorem MaximalFree.eq_of_mem (h : MaximalFree covered lo hi a b)
    (h' : MaximalFree covered lo hi c d) {t : α} (hat : a ≤ t) (htb : t < b) (hct : c ≤ t)
    (htd : t < d) : a = c ∧ b = d := by
  have hunion : Free covered (min a c) (max b d) := by
    intro u hu hu' hcov
    rcases le_or_gt t u with htu | hut
    · rcases lt_max_iff.1 hu' with hub | hud
      · exact h.free u (hat.trans htu) hub hcov
      · exact h'.free u (hct.trans htu) hud hcov
    · rcases min_le_iff.1 hu with hau | hcu
      · exact h.free u hau (hut.trans htb) hcov
      · exact h'.free u hcu (hut.trans htd) hcov
  have hlo := le_min h.lo_le h'.lo_le
  have hhi := max_le h.le_hi h'.le_hi
  obtain ⟨h₁, h₂⟩ := h.maximal _ _ hlo (min_le_left _ _) (le_max_left _ _) hhi hunion
  obtain ⟨h₃, h₄⟩ := h'.maximal _ _ hlo (min_le_right _ _) (le_max_right _ _) hhi hunion
  exact ⟨h₁.symm.trans h₃, h₂.symm.trans h₄⟩

end

/-! ## Merging -/

section
variable {α ι : Type} [LinearOrder α] (near : α → ι → Bool) (lo hi : ι → α)

/-- The ranges of the items after the range `cur` that is still open. -/
def mergeFrom (cur : α × α) : List ι → List (α × α)
  | [] => [cur]
  | x :: l =>
    if near cur.2 x then mergeFrom (cur.1, max cur.2 (hi x)) l
    else cur :: mergeFrom (lo x, hi x) l

/-- The ranges that a list of items forms. -/
def merge : List ι → List (α × α)
  | [] => []
  | x :: l => mergeFrom near lo hi (lo x, hi x) l

variable {near lo hi} {cur r : α × α} {l : List ι}

theorem mem_mergeFrom_start (hsorted : l.Pairwise fun x y => lo x ≤ lo y)
    (hcur : ∀ x ∈ l, cur.1 ≤ lo x) (h : r ∈ mergeFrom near lo hi cur l) : cur.1 ≤ r.1 := by
  induction l generalizing cur with
  | nil =>
    rw [List.mem_singleton.1 h]
  | cons x l ih =>
    obtain ⟨hx, hsorted⟩ := List.pairwise_cons.1 hsorted
    have hcurx := hcur x (.head _)
    rw [mergeFrom] at h
    split at h
    · exact @ih (cur.1, max cur.2 (hi x)) hsorted (fun y hy => hcur y (.tail _ hy)) h
    · rcases List.mem_cons.1 h with rfl | h
      · exact le_refl _
      · exact hcurx.trans (ih hsorted hx h)

/-- The ranges are apart, when an item that does not join begins after the open range. -/
theorem pairwise_mergeFrom (hnear : ∀ e x, near e x = false → e < lo x)
    (hsorted : l.Pairwise fun x y => lo x ≤ lo y) :
    (mergeFrom near lo hi cur l).Pairwise fun r r' => r.2 < r'.1 := by
  induction l generalizing cur with
  | nil => exact List.pairwise_singleton _ _
  | cons x l ih =>
    obtain ⟨hx, hsorted⟩ := List.pairwise_cons.1 hsorted
    rw [mergeFrom]
    split
    · exact ih hsorted
    · next hfar =>
      refine List.pairwise_cons.2 ⟨fun r hr => ?_, ih hsorted⟩
      exact (hnear _ _ (Bool.not_eq_true _ ▸ hfar)).trans_le (mem_mergeFrom_start hsorted hx hr)

theorem sorted_mergeFrom (hcur : ∀ x ∈ l, cur.1 ≤ lo x)
    (hsorted : l.Pairwise fun x y => lo x ≤ lo y) :
    (mergeFrom near lo hi cur l).Pairwise fun r r' => r.1 ≤ r'.1 := by
  induction l generalizing cur with
  | nil => exact List.pairwise_singleton _ _
  | cons x l ih =>
    obtain ⟨hx, hsorted⟩ := List.pairwise_cons.1 hsorted
    rw [mergeFrom]
    split
    · exact ih (fun y hy => hcur y (.tail _ hy)) hsorted
    · refine List.pairwise_cons.2 ⟨fun r hr => ?_, ih hx hsorted⟩
      exact (hcur x (.head _)).trans (mem_mergeFrom_start hsorted hx hr)

/-- The open range and every item lie in a range. -/
theorem exists_mergeFrom (hcur : ∀ x ∈ l, cur.1 ≤ lo x)
    (hsorted : l.Pairwise fun x y => lo x ≤ lo y) :
    (∃ r ∈ mergeFrom near lo hi cur l, r.1 ≤ cur.1 ∧ cur.2 ≤ r.2) ∧
      ∀ x ∈ l, ∃ r ∈ mergeFrom near lo hi cur l, r.1 ≤ lo x ∧ hi x ≤ r.2 := by
  induction l generalizing cur with
  | nil => exact ⟨⟨cur, .head _, le_refl _, le_refl _⟩, nofun⟩
  | cons x l ih =>
    obtain ⟨hx, hsorted⟩ := List.pairwise_cons.1 hsorted
    have hcurx := hcur x (.head _)
    rw [mergeFrom]
    split
    · obtain ⟨⟨r, hr, hr₁, hr₂⟩, hrest⟩ :=
        @ih (cur.1, max cur.2 (hi x)) (fun y hy => hcur y (.tail _ hy)) hsorted
      refine ⟨⟨r, hr, hr₁, (le_max_left _ _).trans hr₂⟩, fun y hy => ?_⟩
      rcases List.mem_cons.1 hy with rfl | hy
      · exact ⟨r, hr, hr₁.trans hcurx, (le_max_right _ _).trans hr₂⟩
      · exact hrest y hy
    · obtain ⟨⟨r, hr, hr₁, hr₂⟩, hrest⟩ := @ih (lo x, hi x) hx hsorted
      refine ⟨⟨cur, .head _, le_refl _, le_refl _⟩, fun y hy => ?_⟩
      rcases List.mem_cons.1 hy with rfl | hy
      · exact ⟨r, .tail _ hr, hr₁, hr₂⟩
      · obtain ⟨r', hr', h⟩ := hrest y hy
        exact ⟨r', .tail _ hr', h⟩

/-- The ends of a range are ends of items, or of the range that was open. -/
theorem ends_of_mem_mergeFrom (h : r ∈ mergeFrom near lo hi cur l) :
    (r.1 = cur.1 ∨ ∃ x ∈ l, r.1 = lo x) ∧ (r.2 = cur.2 ∨ ∃ x ∈ l, r.2 = hi x) := by
  induction l generalizing cur with
  | nil =>
    rw [List.mem_singleton.1 h]
    exact ⟨.inl rfl, .inl rfl⟩
  | cons x l ih =>
    rw [mergeFrom] at h
    split at h
    · obtain ⟨h₁, h₂⟩ := ih h
      refine ⟨h₁.imp_right fun ⟨y, hy, heq⟩ => ⟨y, .tail _ hy, heq⟩, ?_⟩
      rcases h₂ with h₂ | ⟨y, hy, heq⟩
      · rcases max_choice cur.2 (hi x) with hmax | hmax
        · exact .inl (h₂.trans hmax)
        · exact .inr ⟨x, .head _, h₂.trans hmax⟩
      · exact .inr ⟨y, .tail _ hy, heq⟩
    · rcases List.mem_cons.1 h with rfl | h
      · exact ⟨.inl rfl, .inl rfl⟩
      · obtain ⟨h₁, h₂⟩ := ih h
        refine ⟨.inr ?_, .inr ?_⟩
        · rcases h₁ with h₁ | ⟨y, hy, heq⟩
          · exact ⟨x, .head _, h₁⟩
          · exact ⟨y, .tail _ hy, heq⟩
        · rcases h₂ with h₂ | ⟨y, hy, heq⟩
          · exact ⟨x, .head _, h₂⟩
          · exact ⟨y, .tail _ hy, heq⟩

theorem proper_mergeFrom (hcur : cur.1 < cur.2) (hproper : ∀ x ∈ l, lo x < hi x)
    (h : r ∈ mergeFrom near lo hi cur l) : r.1 < r.2 := by
  induction l generalizing cur with
  | nil =>
    rw [List.mem_singleton.1 h]
    exact hcur
  | cons x l ih =>
    have hrest : ∀ y ∈ l, lo y < hi y := fun y hy => hproper y (.tail _ hy)
    rw [mergeFrom] at h
    split at h
    · exact @ih (cur.1, max cur.2 (hi x)) (lt_max_of_lt_left hcur) hrest h
    · rcases List.mem_cons.1 h with rfl | h
      · exact hcur
      · exact @ih (lo x, hi x) (hproper x (.head _)) hrest h

/-- Merging items that begin no later than the open range ends covers no new instant. -/
theorem covered_mergeFrom {t : α} (hnear : ∀ e x, near e x = true → lo x ≤ e)
    (h : Covered (mergeFrom near lo hi cur l) t) :
    Covers cur t ∨ ∃ x ∈ l, Covers (lo x, hi x) t := by
  induction l generalizing cur with
  | nil =>
    obtain ⟨r, hr, h⟩ := h
    exact .inl (List.mem_singleton.1 hr ▸ h)
  | cons x l ih =>
    rw [mergeFrom] at h
    split at h
    · next hjoin =>
      rcases ih h with ⟨h₁, h₂⟩ | ⟨y, hy, hcov⟩
      · rcases lt_max_iff.1 h₂ with h₂ | h₂
        · exact .inl ⟨h₁, h₂⟩
        · rcases lt_or_ge t cur.2 with hlt | hge
          · exact .inl ⟨h₁, hlt⟩
          · exact .inr ⟨x, .head _, (hnear _ _ hjoin).trans hge, h₂⟩
      · exact .inr ⟨y, .tail _ hy, hcov⟩
    · rcases covered_cons.1 h with h | h
      · exact .inl h
      · rcases ih h with h | ⟨y, hy, hcov⟩
        · exact .inr ⟨x, .head _, h⟩
        · exact .inr ⟨y, .tail _ hy, hcov⟩

theorem pairwise_merge (hnear : ∀ e x, near e x = false → e < lo x)
    (hsorted : l.Pairwise fun x y => lo x ≤ lo y) :
    (merge near lo hi l).Pairwise fun r r' => r.2 < r'.1 := by
  cases l with
  | nil => exact .nil
  | cons x l => exact pairwise_mergeFrom hnear (List.pairwise_cons.1 hsorted).2

/-- The ranges are sorted. -/
theorem sorted_merge (hsorted : l.Pairwise fun x y => lo x ≤ lo y) :
    (merge near lo hi l).Pairwise fun r r' => r.1 ≤ r'.1 := by
  cases l with
  | nil => exact .nil
  | cons x l =>
    obtain ⟨hx, hsorted⟩ := List.pairwise_cons.1 hsorted
    exact sorted_mergeFrom hx hsorted

/-- Every item lies in a range. -/
theorem exists_merge (hsorted : l.Pairwise fun x y => lo x ≤ lo y) {x : ι} (hx : x ∈ l) :
    ∃ r ∈ merge near lo hi l, r.1 ≤ lo x ∧ hi x ≤ r.2 := by
  cases l with
  | nil => cases hx
  | cons y l =>
    obtain ⟨hy, hsorted⟩ := List.pairwise_cons.1 hsorted
    have hfrom : (∃ r ∈ mergeFrom near lo hi (lo y, hi y) l, r.1 ≤ lo y ∧ hi y ≤ r.2) ∧
        ∀ x ∈ l, ∃ r ∈ mergeFrom near lo hi (lo y, hi y) l, r.1 ≤ lo x ∧ hi x ≤ r.2 :=
      exists_mergeFrom hy hsorted
    rcases List.mem_cons.1 hx with rfl | hx
    · exact hfrom.1
    · exact hfrom.2 x hx

/-- The ranges of items that are not empty are not empty. -/
theorem proper_merge (hproper : ∀ x ∈ l, lo x < hi x) (h : r ∈ merge near lo hi l) : r.1 < r.2 := by
  cases l with
  | nil => cases h
  | cons x l => exact proper_mergeFrom (hproper x (.head _)) (fun y hy => hproper y (.tail _ hy)) h

/-- The ends of a range are ends of items. -/
theorem ends_of_mem_merge (h : r ∈ merge near lo hi l) :
    (∃ x ∈ l, r.1 = lo x) ∧ ∃ x ∈ l, r.2 = hi x := by
  cases l with
  | nil => cases h
  | cons x l =>
    obtain ⟨h₁, h₂⟩ := ends_of_mem_mergeFrom h
    constructor
    · rcases h₁ with h₁ | ⟨y, hy, heq⟩
      · exact ⟨x, .head _, h₁⟩
      · exact ⟨y, .tail _ hy, heq⟩
    · rcases h₂ with h₂ | ⟨y, hy, heq⟩
      · exact ⟨x, .head _, h₂⟩
      · exact ⟨y, .tail _ hy, heq⟩

/-- Merging items that touch or overlap covers the same instants. -/
theorem covered_merge_iff {t : α} (hnear : ∀ e x, near e x = true → lo x ≤ e)
    (hsorted : l.Pairwise fun x y => lo x ≤ lo y) :
    Covered (merge near lo hi l) t ↔ ∃ x ∈ l, Covers (lo x, hi x) t := by
  constructor
  · intro h
    cases l with
    | nil =>
      obtain ⟨r, hr, -⟩ := h
      cases hr
    | cons x l =>
      rcases covered_mergeFrom hnear h with h | ⟨y, hy, h⟩
      · exact ⟨x, .head _, h⟩
      · exact ⟨y, .tail _ hy, h⟩
  · rintro ⟨x, hx, h₁, h₂⟩
    have hmerge : ∃ r ∈ merge near lo hi l, r.1 ≤ lo x ∧ hi x ≤ r.2 := exists_merge hsorted hx
    obtain ⟨r, hr, hr₁, hr₂⟩ := hmerge
    exact ⟨r, hr, hr₁.trans h₁, h₂.trans_le hr₂⟩

end

/-! ## The sweep -/

section
variable {α : Type} [LinearOrder α]

/-- What the intervals leave free from `cursor` on and before `stop`. -/
def gaps (cursor stop : α) : List (α × α) → List (α × α)
  | [] => if cursor < stop then [(cursor, stop)] else []
  | i :: l =>
    if cursor < i.1 then (cursor, i.1) :: gaps (max cursor i.2) stop l
    else gaps (max cursor i.2) stop l

variable {cursor stop t : α} {l : List (α × α)} {g : α × α}

/-- The sweep, one interval on. -/
theorem mem_gaps_cons {i : α × α} : g ∈ gaps cursor stop (i :: l) ↔
    (cursor < i.1 ∧ g = (cursor, i.1)) ∨ g ∈ gaps (max cursor i.2) stop l := by
  rw [gaps]
  split
  · next h => simp [h]
  · next h => simp [h]

/-- The instants in the gaps are those between the bounds that are in no interval. -/
theorem covered_gaps_iff (hsorted : l.Pairwise fun i j => i.1 ≤ j.1) (hstop : ∀ i ∈ l, i.1 ≤ stop) :
    Covered (gaps cursor stop l) t ↔ cursor ≤ t ∧ t < stop ∧ ¬ Covered l t := by
  induction l generalizing cursor with
  | nil =>
    rw [gaps]
    split
    · simp [Covered, Covers]
    · next h =>
      have hno : cursor ≤ t → ¬ t < stop := fun h₁ h₂ => h (h₁.trans_lt h₂)
      simpa [Covered] using hno
  | cons i l ih =>
    obtain ⟨hi, hsorted⟩ := List.pairwise_cons.1 hsorted
    have hstopi := hstop i (.head _)
    have hbefore : t < i.1 → ¬ Covered l t := by
      rintro ht ⟨j, hj, hcov⟩
      exact absurd (hcov.1.trans_lt ht) (not_lt.2 (hi j hj))
    have hrest := @ih (max cursor i.2) hsorted fun j hj => hstop j (.tail _ hj)
    have hcons : Covered (gaps cursor stop (i :: l)) t ↔
        (cursor ≤ t ∧ t < i.1) ∨ Covered (gaps (max cursor i.2) stop l) t := by
      rw [gaps]
      split
      · rw [covered_cons, Covers]
      · next h => exact ⟨.inr, Or.rec (fun hc => absurd (hc.1.trans_lt hc.2) h) id⟩
    rw [hcons, hrest, covered_cons, not_or, max_le_iff, Covers]
    constructor
    · rintro (⟨h₁, h₂⟩ | ⟨⟨h₁, h₂⟩, h₃, h₄⟩)
      · exact ⟨h₁, h₂.trans_le hstopi, fun h => absurd h.1 (not_le.2 h₂), hbefore h₂⟩
      · exact ⟨h₁, h₃, fun h => absurd h.2 (not_lt.2 h₂), h₄⟩
    · rintro ⟨h₁, h₂, h₃, h₄⟩
      rcases lt_or_ge t i.1 with hlt | hge
      · exact .inl ⟨h₁, hlt⟩
      · exact .inr ⟨⟨h₁, not_lt.1 fun h => h₃ ⟨hge, h⟩⟩, h₂, h₄⟩

/-- A gap begins at the cursor or where an interval ends, and ends where one begins or at the
stop. -/
theorem ends_of_mem_gaps (h : g ∈ gaps cursor stop l) :
    (g.1 = cursor ∨ ∃ i ∈ l, g.1 = i.2) ∧ (g.2 = stop ∨ ∃ i ∈ l, g.2 = i.1) := by
  induction l generalizing cursor with
  | nil =>
    rw [gaps] at h
    split at h
    · rw [List.mem_singleton.1 h]
      exact ⟨.inl rfl, .inl rfl⟩
    · cases h
  | cons i l ih =>
    rcases mem_gaps_cons.1 h with ⟨-, rfl⟩ | h
    · exact ⟨.inl rfl, .inr ⟨i, .head _, rfl⟩⟩
    · obtain ⟨h₁, h₂⟩ := ih h
      refine ⟨?_, h₂.imp_right fun ⟨j, hj, heq⟩ => ⟨j, .tail _ hj, heq⟩⟩
      rcases h₁ with h₁ | ⟨j, hj, heq⟩
      · rcases max_choice cursor i.2 with hmax | hmax
        · exact .inl (h₁.trans hmax)
        · exact .inr ⟨i, .head _, h₁.trans hmax⟩
      · exact .inr ⟨j, .tail _ hj, heq⟩

theorem bounds_of_mem_gaps (hstop : ∀ i ∈ l, i.1 ≤ stop) (h : g ∈ gaps cursor stop l) :
    cursor ≤ g.1 ∧ g.1 < g.2 ∧ g.2 ≤ stop := by
  induction l generalizing cursor with
  | nil =>
    rw [gaps] at h
    split at h
    · next hlt =>
      rw [List.mem_singleton.1 h]
      exact ⟨le_refl _, hlt, le_refl _⟩
    · cases h
  | cons i l ih =>
    rcases mem_gaps_cons.1 h with ⟨hlt, rfl⟩ | h
    · exact ⟨le_refl _, hlt, hstop i (.head _)⟩
    · obtain ⟨h₁, h₂⟩ := ih (fun j hj => hstop j (.tail _ hj)) h
      exact ⟨(le_max_left _ _).trans h₁, h₂⟩

/-- The gaps come in order. -/
theorem pairwise_gaps (hproper : ∀ i ∈ l, i.1 < i.2) (hstop : ∀ i ∈ l, i.1 ≤ stop) :
    (gaps cursor stop l).Pairwise fun g g' => g.2 < g'.1 := by
  induction l generalizing cursor with
  | nil =>
    rw [gaps]
    split
    · exact List.pairwise_singleton _ _
    · exact .nil
  | cons i l ih =>
    have hrest := @ih (max cursor i.2) (fun j hj => hproper j (.tail _ hj)) fun j hj =>
      hstop j (.tail _ hj)
    rw [gaps]
    split
    · refine List.pairwise_cons.2 ⟨fun g hg => ?_, hrest⟩
      have hle := (bounds_of_mem_gaps (fun j hj => hstop j (.tail _ hj)) hg).1
      exact (hproper i (.head _)).trans_le ((le_max_right _ _).trans hle)
    · exact hrest

/-- The gaps are the maximal free intervals. -/
theorem mem_gaps_iff (hsorted : l.Pairwise fun i j => i.1 ≤ j.1) (hproper : ∀ i ∈ l, i.1 < i.2)
    (hstop : ∀ i ∈ l, i.1 ≤ stop) :
    g ∈ gaps cursor stop l ↔ MaximalFree (Covered l) cursor stop g.1 g.2 := by
  have hmax : ∀ g ∈ gaps cursor stop l, MaximalFree (Covered l) cursor stop g.1 g.2 := by
    intro g hg
    obtain ⟨hlo, hlt, hhi⟩ := bounds_of_mem_gaps hstop hg
    obtain ⟨hleft, hright⟩ := ends_of_mem_gaps hg
    refine maximalFree_of_ends hlt hlo hhi (fun t h₁ h₂ => ?_) ?_ ?_
    · exact ((covered_gaps_iff hsorted hstop).1 ⟨g, hg, h₁, h₂⟩).2.2
    · refine hleft.imp_right ?_
      rintro ⟨i, hi, heq⟩
      exact ⟨i.1, heq ▸ hproper i hi, fun t h₁ h₂ => ⟨i, hi, h₁, heq ▸ h₂⟩⟩
    · refine hright.imp_right ?_
      rintro ⟨i, hi, heq⟩
      exact ⟨i, hi, heq.ge, heq ▸ hproper i hi⟩
  refine ⟨hmax g, fun h => ?_⟩
  -- the gap that its first instant lies in is the interval itself
  obtain ⟨g', hg', hcov⟩ := (covered_gaps_iff hsorted hstop).2
    ⟨h.lo_le, h.lt.trans_le h.le_hi, h.free _ (le_refl _) h.lt⟩
  obtain ⟨h₁, h₂⟩ := h.eq_of_mem (hmax g' hg') (le_refl _) h.lt hcov.1 hcov.2
  rwa [Prod.ext h₁ h₂]

/-- A free interval lies in a gap. -/
theorem exists_gap_of_free (hsorted : l.Pairwise fun i j => i.1 ≤ j.1)
    (hproper : ∀ i ∈ l, i.1 < i.2) (hstop : ∀ i ∈ l, i.1 ≤ stop) {a b : α} (hlt : a < b)
    (hlo : cursor ≤ a) (hhi : b ≤ stop) (hfree : Free (Covered l) a b) :
    ∃ g ∈ gaps cursor stop l, g.1 ≤ a ∧ b ≤ g.2 := by
  obtain ⟨g, hg, h₁, h₂⟩ := (covered_gaps_iff hsorted hstop).2
    ⟨hlo, hlt.trans_le hhi, hfree a (le_refl _) hlt⟩
  have hmax := (mem_gaps_iff hsorted hproper hstop).1 hg
  have hunion : Free (Covered l) g.1 (max g.2 b) := by
    intro t ht ht' hcov
    rcases lt_or_ge t g.2 with hlt' | hge
    · exact hmax.free t ht hlt' hcov
    · rcases lt_max_iff.1 ht' with h | h
      · exact absurd h (not_lt.2 hge)
      · exact hfree t (h₂.le.trans hge) h hcov
  obtain ⟨-, heq⟩ := hmax.maximal _ _ hmax.lo_le (le_refl _) (le_max_left _ _)
    (max_le hmax.le_hi hhi) hunion
  exact ⟨g, hg, h₁, heq ▸ le_max_right _ _⟩

end

end Lib.Interval
