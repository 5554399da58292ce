import Mathlib.Algebra.BigOperators.Group.List.Basic
import Mathlib.Algebra.Order.BigOperators.Group.List
import Mathlib.Algebra.Order.Ring.Int
import Mathlib.Tactic.Common

/-!
# Draining a list

`drain size skip need l` is the loop that takes elements from the front of `l` until the sizes taken
add up to `need`, passing over the elements `skip` excludes:

```
for x in l:
    if need <= 0: break
    if skip(x): continue
    take(x); need -= size(x)
```

`mem_drain_iff` says which elements are taken, `drain_eq_filter_of_lt` what happens when the list is
too short for the need. `exists_mem_take` and `exists_mem_take_iff` are about a loop that only sees
a window of the list, and `exists_rounds` about one that asks for the next window until there is
nothing in it.
-/

namespace Lib

section
variable {α : Type} {size : α → Int} {skip : α → Bool} {need : Int} {l pre post : List α} {x : α}

/-- The elements the loop takes, in order. -/
def drain (size : α → Int) (skip : α → Bool) : Int → List α → List α
  | _, [] => []
  | need, x :: l =>
    if need ≤ 0 then []
    else if skip x then drain size skip need l
    else x :: drain size skip (need - size x) l

/-- The size of a list of elements. -/
def total (size : α → Int) (l : List α) : Int := (l.map size).sum

@[simp] theorem total_nil : total size ([] : List α) = 0 := rfl

@[simp] theorem total_cons : total size (x :: l) = size x + total size l := by
  simp [total]

@[simp] theorem total_append (l l' : List α) :
    total size (l ++ l') = total size l + total size l' := by
  simp [total]

theorem total_nonneg (hsize : ∀ x, 0 ≤ size x) (l : List α) : 0 ≤ total size l :=
  List.sum_nonneg (by simpa using fun x _ => hsize x)

theorem total_le_of_sublist (hsize : ∀ x, 0 ≤ size x) {l' : List α} (h : l'.Sublist l) :
    total size l' ≤ total size l := by
  induction h with
  | slnil => exact le_refl _
  | cons y _ ih =>
    have := hsize y
    rw [total_cons]
    omega
  | cons_cons y _ ih =>
    rw [total_cons, total_cons]
    omega

theorem drain_of_nonpos (h : need ≤ 0) : drain size skip need l = [] := by
  cases l with
  | nil => rfl
  | cons x l => rw [drain, if_pos h]

/-- The loop only asks whether to pass over the elements of its list. -/
theorem drain_congr {skip' : α → Bool} (h : ∀ x ∈ l, skip x = skip' x) :
    drain size skip need l = drain size skip' need l := by
  induction l generalizing need with
  | nil => rfl
  | cons x l ih =>
    have ih' := fun need => @ih need fun y hy => h y (.tail _ hy)
    rw [drain, drain, h x (.head _), ih', ih']

/-- The elements passed over might as well not be in the list. -/
theorem drain_filter :
    drain size skip need l = drain size (fun _ => false) need (l.filter fun x => !skip x) := by
  induction l generalizing need with
  | nil => rfl
  | cons x l ih =>
    by_cases hn : need ≤ 0
    · rw [drain_of_nonpos hn, drain_of_nonpos hn]
    · rw [drain, if_neg hn]
      cases hx : skip x with
      | true => simp [hx, ih]
      | false => simp [hx, ih, drain, hn]

/-- What is taken stands in the list, in its order. -/
theorem drain_sublist : (drain size skip need l).Sublist (l.filter fun x => !skip x) := by
  rw [drain_filter]
  generalize l.filter (fun x => !skip x) = l'
  induction l' generalizing need with
  | nil => exact .slnil
  | cons x l' ih =>
    rw [drain]
    split
    · exact List.nil_sublist _
    · exact ih.cons_cons x

/-- A taken element is in the list and is not one to pass over. -/
theorem mem_of_mem_drain (h : x ∈ drain size skip need l) : x ∈ l ∧ skip x = false := by
  simpa using drain_sublist.subset h

/-- There is a need before each element that is taken. -/
theorem total_lt_of_drain_eq (h : drain size skip need l = pre ++ x :: post) :
    total size pre < need := by
  induction l generalizing need pre with
  | nil => simp [drain] at h
  | cons y l ih =>
    rw [drain] at h
    split at h
    · simp at h
    · split at h
      · exact ih h
      · cases pre with
        | nil =>
          rw [total_nil]
          omega
        | cons z pre =>
          rw [List.cons_append, List.cons.injEq] at h
          obtain ⟨rfl, h⟩ := h
          have := ih h
          rw [total_cons]
          omega

/-- A list whose elements do not meet the need is taken whole. -/
theorem drain_eq_filter_of_lt (h : 0 < need - total size (drain size skip need l)) :
    drain size skip need l = l.filter fun x => !skip x := by
  rw [drain_filter] at h ⊢
  generalize l.filter (fun x => !skip x) = l' at h ⊢
  induction l' generalizing need with
  | nil => rfl
  | cons x l' ih =>
    rw [drain] at h ⊢
    split at h
    · next hn =>
      rw [total_nil] at h
      omega
    · next hn =>
      rw [if_neg hn]
      simp only [Bool.false_eq_true, if_false, total_cons] at h ⊢
      rw [ih (by omega)]

/-- An element of the list is taken exactly when the elements before it do not meet the need. -/
theorem mem_drain_iff (hsize : ∀ x, 0 ≤ size x) (hpre : x ∉ pre)
    (hskip : skip x = false) :
    x ∈ drain size skip need (pre ++ x :: post) ↔
      0 < need - total size (pre.filter fun y => !skip y) := by
  induction pre generalizing need with
  | nil =>
    rw [List.nil_append, drain]
    by_cases hn : need ≤ 0
    · simp [hn]
    · simp only [hn, if_false, hskip, List.filter_nil, total_nil]
      simp
      omega
  | cons y pre ih =>
    obtain ⟨hy, hpre⟩ := List.ne_and_not_mem_of_not_mem_cons hpre
    rw [List.cons_append, drain]
    have hnn := total_nonneg hsize (pre.filter fun y => !skip y)
    by_cases hn : need ≤ 0
    · have := hsize y
      cases hsy : skip y <;> simp [hn, hsy] <;> omega
    · cases hsy : skip y with
      | true => simpa [hn, hsy] using ih hpre
      | false =>
        simp only [hn, if_false, hsy, Bool.false_eq_true, List.mem_cons, hy, false_or, ih hpre,
          List.filter_cons, Bool.not_false, if_true, total_cons]
        omega

/-- What is taken is a prefix of the elements not passed over. -/
theorem exists_drain_eq_take :
    ∃ k, drain size skip need l = (l.filter fun x => !skip x).take k := by
  rw [drain_filter]
  generalize l.filter (fun x => !skip x) = l'
  induction l' generalizing need with
  | nil => exact ⟨0, rfl⟩
  | cons x l' ih =>
    rw [drain]
    split
    · exact ⟨0, rfl⟩
    · obtain ⟨k, hk⟩ := @ih (need - size x)
      exact ⟨k + 1, by rw [if_neg Bool.false_ne_true, hk, List.take_succ_cons]⟩

/-- A sequence of lists, each a part of the one before, comes to rest. -/
theorem exists_eq_succ_of_sublist {f : Nat → List α} (h : ∀ n, (f (n + 1)).Sublist (f n)) :
    ∃ n, f (n + 1) = f n := by
  by_contra hno
  have hall : ∀ n, (f n).length + n ≤ (f 0).length := by
    intro n
    induction n with
    | zero => exact le_refl _
    | succ n ih =>
      have hlt : ¬ (f n).length ≤ (f (n + 1)).length := fun hle =>
        hno ⟨n, (h n).eq_of_length_le hle⟩
      omega
  have := hall ((f 0).length + 1)
  omega

/-- While there is a need, something is taken unless every element is one to pass over. -/
theorem drain_eq_nil_iff (hn : 0 < need) :
    drain size skip need l = [] ↔ ∀ x ∈ l, skip x = true := by
  constructor
  · intro h x hx
    have hall : drain size skip need l = l.filter fun x => !skip x :=
      drain_eq_filter_of_lt (by rw [h]; simpa using hn)
    rw [h] at hall
    have := List.filter_eq_nil_iff.1 hall.symm x hx
    simpa using this
  · intro h
    have : l.filter (fun x => !skip x) = [] := List.filter_eq_nil_iff.2 (by simpa using h)
    rw [drain_filter, this]
    rfl

/-- **A window hides nothing behind too few elements**: when an element that satisfies `p` has fewer
than `n` elements without `p` before it, an element with `p` is among the first `n`. -/
theorem exists_mem_take {p : α → Bool} {n : Nat} (hl : l = pre ++ x :: post) (hx : p x = true)
    (hfew : (pre.filter fun y => !p y).length < n) : ∃ y ∈ l.take n, p y = true := by
  subst hl
  induction pre generalizing n with
  | nil =>
    obtain ⟨m, rfl⟩ : ∃ m, n = m + 1 := ⟨n - 1, by simp at hfew; omega⟩
    exact ⟨x, by simp, hx⟩
  | cons y pre ih =>
    obtain ⟨m, rfl⟩ : ∃ m, n = m + 1 := ⟨n - 1, by omega⟩
    cases hy : p y with
    | true => exact ⟨y, by simp, hy⟩
    | false =>
      simp only [List.filter_cons, hy, Bool.not_false, if_true, List.length_cons] at hfew
      obtain ⟨z, hz, hpz⟩ := ih (n := m) (by omega)
      exact ⟨z, by simpa using .inr hz, hpz⟩

/-- An element with `p` has fewer than `n` elements before it. -/
def InWindow (p : α → Bool) (n : Nat) (l : List α) : Prop :=
  ∃ pre x post, l = pre ++ x :: post ∧ p x = true ∧ pre.length < n

/-- A window of the first `n` elements shows an element with `p` exactly if there is one within it.
-/
theorem exists_mem_take_iff {p : α → Bool} {n : Nat} :
    (∃ y ∈ l.take n, p y = true) ↔ InWindow p n l := by
  constructor
  · rintro ⟨y, hy, hp⟩
    obtain ⟨pre, post, hsplit⟩ := List.append_of_mem hy
    refine ⟨pre, y, post ++ l.drop n, ?_, hp, ?_⟩
    · conv_lhs => rw [← List.take_append_drop n l, hsplit]
      rw [List.append_assoc, List.cons_append]
    · have hlen := List.length_take_le n l
      rw [hsplit, List.length_append, List.length_cons] at hlen
      omega
  · rintro ⟨pre, x, post, hsplit, hp, hlen⟩
    exact exists_mem_take hsplit hp (lt_of_le_of_lt (List.length_filter_le ..) hlen)

end

section
variable {α σ : Type}

/-- Rounds over what is asked for, until there is nothing:

```
while True:
    batch = ask(s)
    if not batch: break
    for x in batch: s = turn(s, x)
```

`none` when the loop is not over after `fuel` questions. -/
def rounds (ask : σ → List α) (turn : σ → α → σ) : (fuel : Nat) → σ → Option σ
  | 0, _ => none
  | fuel + 1, s => if (ask s).isEmpty then some s else rounds ask turn fuel ((ask s).foldl turn s)

variable {ask : σ → List α} {turn : σ → α → σ} {I : σ → Prop}

/-- Rounds that keep a property and leave less to do each time come to an end, in a state with the
property in which there is nothing to ask for. -/
theorem exists_rounds (rest : σ → Nat) (hround : ∀ s, I s → ask s ≠ [] →
      I ((ask s).foldl turn s) ∧ rest ((ask s).foldl turn s) < rest s) {s : σ} (hs : I s) :
    ∃ t, (∀ fuel, rest s < fuel → rounds ask turn fuel s = some t) ∧ I t ∧ ask t = [] := by
  induction hn : rest s using Nat.strongRecOn generalizing s with
  | ind n ih =>
    subst hn
    cases hask : ask s with
    | nil =>
      refine ⟨s, fun fuel hfuel => ?_, hs, hask⟩
      obtain ⟨fuel, rfl⟩ := Nat.exists_eq_succ_of_ne_zero (Nat.ne_zero_of_lt hfuel)
      rw [rounds, hask]
      rfl
    | cons x xs =>
      have hne : ask s ≠ [] := by rw [hask]; exact List.cons_ne_nil x xs
      obtain ⟨hI, hless⟩ := hround s hs hne
      obtain ⟨t, ht, htI, htask⟩ := ih _ hless hI rfl
      refine ⟨t, fun fuel hfuel => ?_, htI, htask⟩
      obtain ⟨fuel, rfl⟩ := Nat.exists_eq_succ_of_ne_zero (Nat.ne_zero_of_lt hfuel)
      rw [rounds, if_neg (by simpa using hne)]
      exact ht fuel (by omega)

end

end Lib
