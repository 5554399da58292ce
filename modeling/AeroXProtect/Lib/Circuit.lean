import Mathlib.Algebra.BigOperators.Group.List.Basic
import Mathlib.Algebra.Ring.BooleanRing
import Mathlib.Data.List.Rotate
import Mathlib.Data.List.Zip

/-!
# Sums around a circuit

A function of two vertices is summed over the steps of a path, or of a circuit, which goes on from
its last vertex to the first. The sum around a circuit does not depend on where it starts
(`around_rotate`), and for a function whose sum over a step there and back is zero it is the sum of
those around the two circuits that a chord makes of it (`around_chord`). A parity is such a sum: the
booleans are the ring of two elements.
-/

namespace Lib

section
variable {α β M : Type} [AddCommMonoid M] (f : α → α → M)

/-- The sum over the steps of a path. -/
def along : List α → M
  | a :: b :: l => f a b + along (b :: l)
  | _ => 0

/-- The sum over the steps of a circuit. -/
def around (l : List α) : M := along f (l ++ l.head?.toList)

/-- The vertices of a circuit from the `i`-th to the `j`-th. -/
def between (l : List α) (i j : Nat) : List α := (l.drop i).take (j + 1 - i)

/-- The vertices of a circuit from the `j`-th on around to the `i`-th. -/
def beyond (l : List α) (i j : Nat) : List α := l.drop j ++ l.take (i + 1)

variable {f} {l m : List α} {a b : α}

@[simp] theorem along_nil : along f [] = 0 := rfl

@[simp] theorem along_singleton : along f [a] = 0 := rfl

@[simp] theorem along_cons_cons : along f (a :: b :: l) = f a b + along f (b :: l) := rfl

@[simp] theorem around_nil : around f [] = 0 := rfl

theorem around_cons : around f (a :: l) = along f (a :: l ++ [a]) := rfl

/-- A path is divided at a vertex. -/
theorem along_append (l m : List α) (a : α) :
    along f (l ++ a :: m) = along f (l ++ [a]) + along f (a :: m) := by
  induction l with
  | nil => exact (zero_add _).symm
  | cons b l ih =>
    cases l with
    | nil => simp
    | cons c l =>
      rw [List.cons_append, List.cons_append, along_cons_cons, ← List.cons_append, ih, ← add_assoc]
      rfl

/-- The path the other way. -/
theorem along_reverse (l : List α) : along f l.reverse = along (fun a b => f b a) l := by
  induction l with
  | nil => rfl
  | cons a l ih =>
    cases l with
    | nil => rfl
    | cons b l =>
      rw [List.reverse_cons, List.reverse_cons, List.append_assoc, List.singleton_append,
        along_append, ← List.reverse_cons, ih, along_cons_cons, along_cons_cons, along_singleton,
        add_zero, add_comm]

/-- A circuit is two paths between two of its vertices. -/
theorem around_append (a b : α) (l m : List α) :
    around f (a :: l ++ b :: m) = along f (a :: l ++ [b]) + along f (b :: m ++ [a]) := by
  have hclose : a :: l ++ b :: m ++ [a] = a :: l ++ b :: (m ++ [a]) := by simp
  rw [List.cons_append, around_cons, ← List.cons_append, hclose, along_append]
  rfl

/-- A circuit may start anywhere. -/
theorem around_append_comm (l m : List α) : around f (l ++ m) = around f (m ++ l) := by
  cases l with
  | nil => rw [List.nil_append, List.append_nil]
  | cons a l =>
    cases m with
    | nil => rw [List.nil_append, List.append_nil]
    | cons b m => rw [around_append, around_append, add_comm]

theorem around_rotate (l : List α) (k : Nat) : around f (l.rotate k) = around f l := by
  rw [List.rotate_eq_drop_append_take_mod, around_append_comm, List.take_append_drop]

/-- The circuit the other way. -/
theorem around_reverse (l : List α) : around f l.reverse = around (fun a b => f b a) l := by
  cases l with
  | nil => rfl
  | cons a l =>
    rw [List.reverse_cons, around_append_comm, List.singleton_append, around_cons, around_cons,
      ← along_reverse]
    simp

/-- A homomorphism is applied to each step, or to the sum. -/
theorem along_map {N : Type} [AddCommMonoid N] (φ : M →+ N) (l : List α) :
    along (fun a b => φ (f a b)) l = φ (along f l) := by
  induction l with
  | nil => exact (map_zero φ).symm
  | cons a l ih =>
    cases l with
    | nil => exact (map_zero φ).symm
    | cons b l => rw [along_cons_cons, along_cons_cons, ih, map_add]

/-! ## Chords -/

theorem between_append (l m n : List α) (a b : α) :
    between (l ++ a :: m ++ b :: n) l.length (l.length + m.length + 1) = a :: m ++ [b] := by
  have hcount : l.length + m.length + 1 + 1 - l.length = (a :: m).length + 1 := by
    simp
    omega
  rw [between, List.append_assoc, List.drop_left, hcount, List.take_length_add_append]
  rfl

theorem beyond_append (l m n : List α) (a b : α) :
    beyond (l ++ a :: m ++ b :: n) l.length (l.length + m.length + 1) = b :: n ++ (l ++ [a]) := by
  have hdrop : l.length + m.length + 1 = (l ++ a :: m).length := by
    simp
    omega
  rw [beyond, hdrop, List.drop_left, List.append_assoc, List.take_length_add_append]
  rfl

/-- The vertices of a chord, and the paths around them. -/
theorem exists_append {i j : Nat} (hij : i < j) (hj : j < l.length) :
    ∃ l₁ a l₂ b l₃, l = l₁ ++ a :: l₂ ++ b :: l₃ ∧ l₁.length = i ∧
      l₁.length + l₂.length + 1 = j := by
  have hsplit : ∀ (m : List α) (k : Nat), k < m.length →
      ∃ m₁ c m₂, m = m₁ ++ c :: m₂ ∧ m₁.length = k := fun m k hk =>
    ⟨m.take k, m[k], m.drop (k + 1), by rw [List.getElem_cons_drop, List.take_append_drop],
      by rw [List.length_take, min_eq_left hk.le]⟩
  obtain ⟨l₁, a, m, rfl, rfl⟩ := hsplit l i (hij.trans hj)
  rw [List.length_append, List.length_cons] at hj
  obtain ⟨l₂, b, l₃, rfl, hlen⟩ := hsplit m (j - l₁.length - 1) (by omega)
  exact ⟨l₁, a, l₂, b, l₃, by simp, rfl, by omega⟩

/-- A chord is passed once each way. -/
theorem around_chord (hf : ∀ a b, f a b + f b a = 0) {i j : Nat} (hij : i < j)
    (hj : j < l.length) : around f l = around f (between l i j) + around f (beyond l i j) := by
  obtain ⟨l₁, a, l₂, b, l₃, rfl, rfl, rfl⟩ := exists_append hij hj
  have hleft : around f (a :: l₂ ++ [b]) = along f (a :: l₂ ++ [b]) + f b a := by
    simpa using around_append a b l₂ []
  have hright : around f (b :: l₃ ++ (l₁ ++ [a])) = along f (b :: l₃ ++ (l₁ ++ [a])) + f a b := by
    simpa using around_append b a (l₃ ++ l₁) []
  calc around f (l₁ ++ a :: l₂ ++ b :: l₃)
    _ = around f (a :: l₂ ++ b :: (l₃ ++ l₁)) := by
      rw [List.append_assoc, around_append_comm]
      simp
    _ = along f (a :: l₂ ++ [b]) + along f (b :: (l₃ ++ l₁) ++ [a]) := around_append ..
    _ = along f (a :: l₂ ++ [b]) + f b a + (along f (b :: l₃ ++ (l₁ ++ [a])) + f a b) := by
      rw [add_add_add_comm, hf, add_zero, ← List.cons_append, List.append_assoc (b :: l₃)]
    _ = _ := by rw [between_append, beyond_append, hleft, hright]

/-! ## Loops over the steps -/

/-- A loop that adds up. -/
theorem foldl_add (g : β → M) (l : List β) (s : M) :
    l.foldl (fun s e => s + g e) s = s + (l.map g).sum := by
  induction l generalizing s with
  | nil => exact (add_zero s).symm
  | cons e l ih => rw [List.foldl_cons, ih, List.map_cons, List.sum_cons, add_assoc]

/-- The steps of a path that returns, as pairs. -/
theorem sum_zip (a b : α) (l : List α) :
    (((a :: l).zip (l ++ [b])).map fun e => f e.1 e.2).sum = along f (a :: l ++ [b]) := by
  induction l generalizing a with
  | nil => simp
  | cons c l ih =>
    rw [List.cons_append, List.zip_cons_cons, List.map_cons, List.sum_cons, ih]
    rfl

theorem rotateLeft_one (a : α) (l : List α) : (a :: l).rotateLeft 1 = l ++ [a] := by
  rcases l with - | ⟨b, l⟩
  · rfl
  · simp [List.rotateLeft]

theorem rotateRight_one (a : α) (l : List α) : (l ++ [a]).rotateRight 1 = a :: l := by
  rcases l with - | ⟨b, l⟩
  · rfl
  · simp [List.rotateRight]

theorem rotateLeft_one_map (g : α → β) (l : List α) :
    (l.map g).rotateLeft 1 = (l.rotateLeft 1).map g := by
  cases l with
  | nil => rfl
  | cons a l => simp only [List.map_cons, rotateLeft_one, List.map_append, List.map_nil]

theorem rotateRight_one_map (g : α → β) (l : List α) :
    (l.map g).rotateRight 1 = (l.rotateRight 1).map g := by
  cases l using List.reverseRecOn with
  | nil => rfl
  | append_singleton l a =>
    simp only [List.map_append, List.map_cons, List.map_nil, rotateRight_one]

/-- A loop over each vertex and the next one. -/
theorem foldl_rotateLeft (f : α → α → M) (l : List α) :
    (l.zip (l.rotateLeft 1)).foldl (fun s e => s + f e.1 e.2) 0 = around f l := by
  rw [foldl_add, zero_add]
  cases l with
  | nil => rfl
  | cons a l => rw [rotateLeft_one, sum_zip, around_cons]

/-- A loop over each vertex and the one before it. -/
theorem foldl_rotateRight (f : α → α → M) (l : List α) :
    (l.zip (l.rotateRight 1)).foldl (fun s e => s + f e.1 e.2) 0 =
      around (fun a b => f b a) l := by
  rw [foldl_add, zero_add]
  cases l using List.reverseRecOn with
  | nil => rfl
  | append_singleton l a =>
    rw [rotateRight_one, ← List.zip_swap, List.map_map, around_append_comm, List.singleton_append,
      around_cons]
    exact sum_zip (f := fun a b => f b a) a a l

end

/-- A loop that carries the vertex before, from the last one on. -/
theorem foldl_carry {α σ : Type} (step : σ → α → α → σ) (l : List α) (s : σ) (p : α) :
    (l.foldl (fun s v => (step s.1 v s.2, v)) (s, p)).1 =
      (l.zip (p :: l.dropLast)).foldl (fun s e => step s e.1 e.2) s := by
  induction l generalizing s p with
  | nil => rfl
  | cons v l ih =>
    cases l with
    | nil => rfl
    | cons w l =>
      rw [List.dropLast_cons_of_ne_nil (List.cons_ne_nil w l), List.zip_cons_cons, List.foldl_cons,
        List.foldl_cons]
      exact ih (step s v p) v

theorem rotateRight_of_getLast? {α : Type} {l : List α} {p : α} (h : l.getLast? = some p) :
    l.rotateRight 1 = p :: l.dropLast := by
  have hl : l.dropLast ++ [p] = l := List.dropLast_append_getLast? p h
  rw [← hl, rotateRight_one, hl]

/-- A loop that toggles adds up in the ring of two elements. -/
theorem foldl_toggle {β : Type} (p : β → Bool) (l : List β) (s : Bool) :
    l.foldl (fun s e => if p e then !s else s) s = l.foldl (fun s e => s + p e) s := by
  congr 1
  funext s e
  cases p e <;> cases s <;> rfl

end Lib
