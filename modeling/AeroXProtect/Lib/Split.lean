import Mathlib.Data.List.Induction
import Mathlib.Tactic.Common

/-!
# Splitting at a delimiter

`splitAtAll sep l` is `l.split(sep)`: the pieces of `l` between the leftmost occurrences of a
delimiter that do not overlap. A list of which only a part is known can be split by parts, when
what is behind the last delimiter is kept for the next part (`splitAtAll_append`). `feed` is the
loop that does so, and `foldl_feed` says that for any splitting with this law the pieces do not
depend on how the list was cut.
-/

namespace Lib

section
variable {α : Type} [DecidableEq α]

/-- What is before the leftmost occurrence of the delimiter and what is behind it. -/
def breakAt (sep : List α) : List α → Option (List α × List α)
  | [] => none
  | a :: l =>
    if sep.isPrefixOf (a :: l) then some ([], (a :: l).drop sep.length)
    else (breakAt sep l).map fun r => (a :: r.1, r.2)

/-- The pieces, of which each delimiter ends one; the fuel is the length of the list. -/
def splitFuel (sep : List α) : Nat → List α → List (List α)
  | 0, l => [l]
  | fuel + 1, l =>
    match breakAt sep l with
    | none => [l]
    | some (piece, rest) => piece :: splitFuel sep fuel rest

/-- `l.split(sep)` -/
def splitAtAll (sep l : List α) : List (List α) := splitFuel sep l.length l

variable {sep l m piece rest : List α}

/-! ## The leftmost occurrence -/

theorem length_of_breakAt (h : breakAt sep l = some (piece, rest)) :
    l.length = piece.length + sep.length + rest.length := by
  induction l generalizing piece with
  | nil => cases h
  | cons a l ih =>
    unfold breakAt at h
    split at h
    · next hpre =>
      cases h
      have hle := (List.isPrefixOf_iff_prefix.1 hpre).length_le
      rw [List.length_drop, List.length_nil]
      omega
    · obtain ⟨r, hr, heq⟩ := Option.map_eq_some_iff.1 h
      cases heq
      rw [List.length_cons, List.length_cons, ih hr]
      omega

/-- What comes later does not move the leftmost occurrence. -/
theorem breakAt_append (h : breakAt sep l = some (piece, rest)) :
    breakAt sep (l ++ m) = some (piece, rest ++ m) := by
  induction l generalizing piece with
  | nil => cases h
  | cons a l ih =>
    have hle := length_of_breakAt h
    have hpre : sep.isPrefixOf (a :: (l ++ m)) = sep.isPrefixOf (a :: l) := by
      rw [Bool.eq_iff_iff, List.isPrefixOf_iff_prefix, List.isPrefixOf_iff_prefix,
        ← List.cons_append]
      have hpart : (a :: l) <+: a :: l ++ m := List.prefix_append _ _
      exact ⟨fun h => List.prefix_of_prefix_length_le h hpart (by omega), fun h => h.trans hpart⟩
    unfold breakAt at h
    rw [List.cons_append, breakAt, hpre]
    split at h
    · next hp =>
      cases h
      rw [if_pos hp, ← List.cons_append, List.drop_append_of_le_length (by omega)]
    · next hp =>
      obtain ⟨r, hr, heq⟩ := Option.map_eq_some_iff.1 h
      cases heq
      rw [if_neg hp, ih hr]
      rfl

/-! ## The pieces -/

theorem splitFuel_eq (hsep : sep ≠ []) {n : Nat} (hn : l.length ≤ n) :
    splitFuel sep n l = splitAtAll sep l := by
  induction n using Nat.strongRecOn generalizing l with
  | ind n ih =>
    have hpos := List.length_pos_iff.2 hsep
    unfold splitAtAll
    cases n with
    | zero =>
      rw [Nat.le_zero] at hn
      rw [hn]
    | succ n =>
      cases l with
      | nil => rfl
      | cons a l =>
        rw [List.length_cons, splitFuel, splitFuel]
        cases hbreak : breakAt sep (a :: l) with
        | none => rfl
        | some r =>
          have hlen := length_of_breakAt hbreak
          rw [List.length_cons] at hlen hn
          simp only
          rw [ih n (by omega) (by omega), ih l.length (by omega) (by omega)]

theorem splitAtAll_of_none (h : breakAt sep l = none) : splitAtAll sep l = [l] := by
  unfold splitAtAll
  cases hlen : l.length with
  | zero => rfl
  | succ n => rw [splitFuel, h]

theorem splitAtAll_of_some (hsep : sep ≠ []) (h : breakAt sep l = some (piece, rest)) :
    splitAtAll sep l = piece :: splitAtAll sep rest := by
  have hlen := length_of_breakAt h
  have hpos := List.length_pos_iff.2 hsep
  obtain ⟨n, hn⟩ : ∃ n, l.length = n + 1 := ⟨l.length - 1, by omega⟩
  rw [splitAtAll, hn, splitFuel, h]
  simp only
  rw [splitFuel_eq hsep (by omega)]

theorem splitAtAll_ne_nil : splitAtAll sep l ≠ [] := by
  unfold splitAtAll
  cases l.length with
  | zero => exact List.cons_ne_nil _ _
  | succ n =>
    rw [splitFuel]
    split <;> exact List.cons_ne_nil _ _

/-- **Splitting by parts**: the pieces of a list that goes on are those of the part that is known,
but the last, and those of the last one with what comes. -/
theorem splitAtAll_append (hsep : sep ≠ []) (l m : List α) :
    splitAtAll sep (l ++ m) = (splitAtAll sep l).dropLast ++
      splitAtAll sep ((splitAtAll sep l).getLastD [] ++ m) := by
  induction hn : l.length using Nat.strongRecOn generalizing l with
  | ind n ih =>
    cases hbreak : breakAt sep l with
    | none =>
      rw [splitAtAll_of_none hbreak]
      rfl
    | some r =>
      obtain ⟨piece, rest⟩ := r
      have hlen := length_of_breakAt hbreak
      have hpos := List.length_pos_iff.2 hsep
      have hlast : (piece :: splitAtAll sep rest).getLastD [] =
          (splitAtAll sep rest).getLastD [] := by
        have hne : splitAtAll sep rest ≠ [] := splitAtAll_ne_nil
        obtain ⟨x, xs, hx⟩ := List.exists_cons_of_ne_nil hne
        rw [hx]
        rfl
      rw [splitAtAll_of_some hsep (breakAt_append hbreak), splitAtAll_of_some hsep hbreak, hlast,
        List.dropLast_cons_of_ne_nil splitAtAll_ne_nil, List.cons_append,
        ih rest.length (by omega) rest rfl]

end

/-! ## Feeding -/

section
variable {α β : Type} {f : List α → List β × List α}

/-- A splitting that answers the complete pieces and what is left can go on with what comes. -/
structure Resumable (f : List α → List β × List α) : Prop where
  nil : f [] = ([], [])
  append : ∀ l m, f (l ++ m) = ((f l).1 ++ (f ((f l).2 ++ m)).1, (f ((f l).2 ++ m)).2)

/-- One more chunk: `parts, buffer = f(buffer + chunk)`. -/
def feed (f : List α → List β × List α) (s : List β × List α) (chunk : List α) :
    List β × List α :=
  (s.1 ++ (f (s.2 ++ chunk)).1, (f (s.2 ++ chunk)).2)

/-- **The cut does not matter**: chunks that are fed one by one give what the whole list gives. -/
theorem foldl_feed (h : Resumable f) (chunks : List (List α)) :
    chunks.foldl (feed f) ([], []) = f chunks.flatten := by
  induction chunks using List.reverseRecOn with
  | nil => exact h.nil.symm
  | append_singleton chunks chunk ih =>
    rw [List.foldl_append, ih, List.flatten_append, List.flatten_singleton, h.append]
    rfl

/-- What is left has no complete piece in it. -/
theorem Resumable.idem (h : Resumable f) (l : List α) : f (f l).2 = ([], (f l).2) := by
  have happ := h.append l []
  rw [List.append_nil, List.append_nil] at happ
  refine Prod.ext ?_ (congrArg Prod.snd happ).symm
  exact (List.append_right_eq_self.1 (congrArg Prod.fst happ).symm)

end

end Lib
