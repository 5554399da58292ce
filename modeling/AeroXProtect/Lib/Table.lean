import Mathlib.Data.List.MinMax
import Mathlib.Data.List.Sort
import Mathlib.Tactic.Common

/-!
# Keyed tables

A table is a list of rows whose keys are distinct: the rows of a relation with a primary key or a
unique column. The operations are the statements a program issues against it: the lookup of one
key (`Table.get?`), `INSERT` (`Table.insert`, refused when the key is taken), `UPDATE … WHERE`
(`Table.modify`, for a column other than the key) and `DELETE … WHERE` (`Table.delete`). Each keeps
the keys distinct, so the distinctness is a field of the structure and no later proof shows it
again. `orderBy` is `ORDER BY … ASC`, as a stable sort.
-/

namespace Lib

/-- Rows with distinct keys. -/
structure Table {α κ : Type} (key : α → κ) where
  rows : List α
  nodup : (rows.map key).Nodup

namespace Table

section
variable {α κ : Type} {key : α → κ}

instance : EmptyCollection (Table key) := ⟨⟨[], List.nodup_nil⟩⟩

instance : Membership α (Table key) := ⟨fun t r => r ∈ t.rows⟩

@[simp] theorem mem_rows {t : Table key} {r : α} : r ∈ t.rows ↔ r ∈ t := Iff.rfl

instance [DecidableEq α] (r : α) (t : Table key) : Decidable (r ∈ t) :=
  inferInstanceAs (Decidable (r ∈ t.rows))

instance {t : Table key} {p : α → Prop} [DecidablePred p] : Decidable (∃ r ∈ t, p r) :=
  inferInstanceAs (Decidable (∃ r ∈ t.rows, p r))

instance {t : Table key} {p : α → Prop} [DecidablePred p] : Decidable (∀ r ∈ t, p r) :=
  inferInstanceAs (Decidable (∀ r ∈ t.rows, p r))

theorem not_mem_empty (r : α) : ¬ r ∈ (∅ : Table key) := List.not_mem_nil

theorem eq_of_rows {t t' : Table key} (h : t.rows = t'.rows) : t = t' := by
  cases t
  cases t'
  cases h
  rfl

theorem nodup_rows (t : Table key) : t.rows.Nodup := List.Nodup.of_map key t.nodup

/-- Two rows of a table with the same key are the same row. -/
theorem eq_of_key_eq {t : Table key} {r r' : α} (hr : r ∈ t) (hr' : r' ∈ t)
    (h : key r = key r') : r = r' :=
  List.inj_on_of_nodup_map t.nodup hr hr' h

/-! ## Lookup -/

/-- `SELECT … WHERE key = k`: the row with the key `k`. -/
def get? [DecidableEq κ] (t : Table key) (k : κ) : Option α :=
  t.rows.find? fun r => decide (key r = k)

/-- A lookup answers the row exactly when the row is in the table under that key. -/
theorem get?_eq_some [DecidableEq κ] {t : Table key} {k : κ} {r : α} :
    t.get? k = some r ↔ r ∈ t ∧ key r = k := by
  constructor
  · intro h
    exact ⟨List.mem_of_find?_eq_some h, by simpa using List.find?_some h⟩
  · rintro ⟨hr, rfl⟩
    cases hf : t.get? (key r) with
    | none => exact absurd (decide_eq_true rfl) (List.find?_eq_none.1 hf r hr)
    | some r' =>
      have hk : key r' = key r := by simpa using List.find?_some hf
      rw [eq_of_key_eq (List.mem_of_find?_eq_some hf) hr hk]

/-- The first row with a value in a column that is not marked as deleted is a row of the table. -/
theorem live_of_find? {β γ : Type} [BEq β] [LawfulBEq β] {t : Table key} {column : α → β} {b : β}
    {deletedAt : α → Option γ} {r : α}
    (h : (t.rows.find? fun x => column x == b && (deletedAt x).isNone) = some r) :
    r ∈ t ∧ column r = b ∧ deletedAt r = none := by
  have hp := List.find?_some h
  rw [Bool.and_eq_true, beq_iff_eq, Option.isNone_iff_eq_none] at hp
  exact ⟨List.mem_of_find?_eq_some h, hp.1, hp.2⟩

/-- A lookup of a key among the rows that are not marked as deleted answers the row with the key. -/
theorem find?_live_eq_some {γ : Type} [BEq κ] [LawfulBEq κ] {t : Table key}
    {deletedAt : α → Option γ} {k : κ} {r : α} :
    (t.rows.find? fun x => key x == k && (deletedAt x).isNone) = some r ↔
      r ∈ t ∧ key r = k ∧ deletedAt r = none := by
  constructor
  · exact live_of_find?
  · rintro ⟨hr, rfl, hdel⟩
    cases hf : t.rows.find? fun x => key x == key r && (deletedAt x).isNone with
    | none => exact absurd (by simp [hdel]) (List.find?_eq_none.1 hf r hr)
    | some r' =>
      obtain ⟨hr', hk, -⟩ := live_of_find? hf
      rw [eq_of_key_eq hr' hr hk]

/-- Two tables with the same lookups have the same rows. -/
theorem mem_congr [DecidableEq κ] {t t' : Table key} (h : ∀ k, t.get? k = t'.get? k) {r : α} :
    r ∈ t ↔ r ∈ t' := by
  have ht : ∀ t : Table key, r ∈ t ↔ t.get? (key r) = some r :=
    fun t => ⟨fun hr => get?_eq_some.2 ⟨hr, rfl⟩, fun hg => (get?_eq_some.1 hg).1⟩
  rw [ht, ht, h]

/-- Two selections of rows have the same keys when they have the same rows. -/
theorem perm_map_key_iff {t : Table key} {l l' : List α} (hl : ∀ r ∈ l, r ∈ t)
    (hl' : ∀ r ∈ l', r ∈ t) (hn : (l.map key).Nodup) (hn' : (l'.map key).Nodup) :
    (l.map key).Perm (l'.map key) ↔ ∀ r, r ∈ l ↔ r ∈ l' := by
  have hmem {l : List α} (hl : ∀ r ∈ l, r ∈ t) {r : α} (hr : r ∈ t) :
      key r ∈ l.map key ↔ r ∈ l := by
    refine ⟨fun h => ?_, List.mem_map_of_mem⟩
    obtain ⟨r', hr', hk⟩ := List.mem_map.1 h
    exact eq_of_key_eq (hl r' hr') hr hk ▸ hr'
  rw [List.perm_ext_iff_of_nodup hn hn']
  constructor
  · intro h r
    constructor
    · intro hr
      exact (hmem hl' (hl r hr)).1 ((h _).1 (List.mem_map_of_mem hr))
    · intro hr
      exact (hmem hl (hl' r hr)).1 ((h _).2 (List.mem_map_of_mem hr))
  · intro h k
    simp only [List.mem_map, h]

/-- A lookup answers nothing exactly when no row has the key. -/
theorem get?_eq_none [DecidableEq κ] {t : Table key} {k : κ} :
    t.get? k = none ↔ ∀ r ∈ t, key r ≠ k := by
  simp [get?, List.find?_eq_none]

/-! ## Writes -/

/-- `INSERT`: the row is appended, unless its key is taken. -/
def insert [DecidableEq κ] (t : Table key) (r : α) : Table key :=
  if h : key r ∈ t.rows.map key then t
  else
    ⟨t.rows ++ [r], by
      rw [List.map_append, List.nodup_append]
      refine ⟨t.nodup, List.nodup_singleton _, fun a ha b hb hab => h ?_⟩
      rw [List.map_cons, List.map_nil, List.mem_singleton] at hb
      exact hb ▸ hab ▸ ha⟩

/-- An insertion of a row with a new key appends it. -/
theorem rows_insert [DecidableEq κ] {t : Table key} {r : α} (h : ∀ x ∈ t, key x ≠ key r) :
    (t.insert r).rows = t.rows ++ [r] := by
  have hn : key r ∉ t.rows.map key := fun hm => by
    obtain ⟨x, hx, hk⟩ := List.mem_map.1 hm
    exact h x hx hk
  simp [insert, hn]

/-- The rows after the insertion of a row with a new key. -/
theorem mem_insert [DecidableEq κ] {t : Table key} {r x : α} (h : ∀ x ∈ t, key x ≠ key r) :
    x ∈ t.insert r ↔ x ∈ t ∨ x = r := by
  rw [← mem_rows, rows_insert h, List.mem_append, List.mem_singleton, mem_rows]

/-- The rows after an insertion, whether or not it is refused. -/
theorem mem_or_eq_of_mem_insert [DecidableEq κ] {t : Table key} {r x : α} (h : x ∈ t.insert r) :
    x ∈ t ∨ x = r := by
  unfold insert at h
  split at h
  · exact .inl h
  · rcases List.mem_append.1 h with h | h
    · exact .inl h
    · exact .inr (List.mem_singleton.1 h)

/-- An insertion keeps the rows that are there. -/
theorem mem_insert_of_mem [DecidableEq κ] {t : Table key} {r x : α} (h : x ∈ t) :
    x ∈ t.insert r := by
  unfold insert
  split
  · exact h
  · exact List.mem_append_left _ h

/-- When a condition holds of two rows, it holds of one with another key. -/
theorem exists_key_ne {t : Table key} {p : α → Bool} (h : 2 ≤ t.rows.countP p) (k : κ) :
    ∃ r ∈ t, p r = true ∧ key r ≠ k := by
  by_contra hall
  have hk : ∀ r ∈ t.rows.filter p, key r = k := by
    intro r hr
    by_contra hne
    obtain ⟨hmem, hp⟩ := List.mem_filter.1 hr
    exact hall ⟨r, hmem, hp, hne⟩
  rw [List.countP_eq_length_filter, ← List.length_map (f := key)] at h
  have hsub : ((t.rows.filter p).map key).Nodup := t.nodup.sublist (List.filter_sublist.map key)
  have hle : ((t.rows.filter p).map key).length ≤ [k].length := by
    refine hsub.length_le_of_subset fun x hx => ?_
    obtain ⟨r, hr, rfl⟩ := List.mem_map.1 hx
    exact List.mem_singleton.2 (hk r hr)
  rw [List.length_singleton] at hle
  omega

/-- `UPDATE … WHERE p`: the rows that satisfy `p` are rewritten by `f`, which keeps the key. -/
def modify (t : Table key) (p : α → Bool) (f : α → α)
    (hf : ∀ r, key (f r) = key r := by intro; rfl) : Table key :=
  ⟨t.rows.map fun r => if p r then f r else r, by
    have hk : (t.rows.map fun r => if p r then f r else r).map key = t.rows.map key := by
      rw [List.map_map]
      refine List.map_congr_left fun r _ => ?_
      show key (if p r then f r else r) = key r
      split
      · exact hf r
      · rfl
    rw [hk]; exact t.nodup⟩

variable {p : α → Bool} {f : α → α} {hf : ∀ r, key (f r) = key r}

/-- The rows after an update. -/
theorem mem_modify {t : Table key} {x : α} :
    x ∈ t.modify p f hf ↔ ∃ r ∈ t, x = if p r then f r else r := by
  show x ∈ List.map _ _ ↔ _
  simp only [List.mem_map, mem_rows]
  exact ⟨fun ⟨r, hr, h⟩ => ⟨r, hr, h.symm⟩, fun ⟨r, hr, h⟩ => ⟨r, hr, h.symm⟩⟩

/-- What an update makes of a row. -/
theorem mem_modify_of_mem {t : Table key} {r : α} (hf : ∀ r, key (f r) = key r) (hr : r ∈ t) :
    (if p r then f r else r) ∈ t.modify p f hf :=
  mem_modify.2 ⟨r, hr, rfl⟩

/-- A row the update does not select stays. -/
theorem mem_modify_of_neg {t : Table key} {r : α} (hr : r ∈ t) (hp : ¬ p r = true) :
    r ∈ t.modify p f hf :=
  mem_modify.2 ⟨r, hr, by rw [if_neg hp]⟩

/-- An update that leaves every selected row as it is does nothing. -/
theorem modify_eq_self {t : Table key} (h : ∀ r ∈ t, p r = true → f r = r) :
    t.modify p f hf = t := by
  have hrows : (t.rows.map fun r => if p r then f r else r) = t.rows := by
    refine (List.map_congr_left fun r hr => ?_).trans (List.map_id _)
    split
    · next hp => exact h r hr hp
    · rfl
  cases t
  simpa [modify] using hrows

/-- An update whose rows are not selected again does nothing a second time, nor on fewer rows. -/
theorem modify_again {t : Table key} {q : α → Bool} (hsub : ∀ r, q r = true → p r = true)
    (hdone : ∀ r, q (f r) = false) : (t.modify p f hf).modify q f hf = t.modify p f hf := by
  refine modify_eq_self fun r hr hq => ?_
  obtain ⟨r₀, -, rfl⟩ := mem_modify.1 hr
  split at hq
  · rw [hdone] at hq
    cases hq
  · next hno => exact absurd (hsub _ hq) hno

/-- The first row with a property after an update that keeps the property. -/
theorem find?_modify {t : Table key} {q : α → Bool} (h : ∀ r, q (f r) = q r) :
    (t.modify p f hf).rows.find? q = (t.rows.find? q).map fun r => if p r then f r else r := by
  unfold modify
  rw [List.find?_map]
  have hq : (q ∘ fun r => if p r then f r else r) = q := by
    funext r
    simp only [Function.comp]
    split
    · exact h r
    · rfl
  rw [hq]

/-- The first row with a property after the insertion of a row with a new key. -/
theorem find?_insert [DecidableEq κ] {t : Table key} {r : α} {q : α → Bool}
    (h : ∀ x ∈ t, key x ≠ key r) :
    (t.insert r).rows.find? q = (t.rows.find? q).or (if q r then some r else none) := by
  rw [rows_insert h, List.find?_append]
  cases hq : q r <;> simp [hq]

/-- `DELETE … WHERE p`. -/
def delete (t : Table key) (p : α → Bool) : Table key :=
  ⟨t.rows.filter fun r => !p r, (List.filter_sublist.map key).nodup t.nodup⟩

/-- The rows after a deletion. -/
theorem mem_delete {t : Table key} {x : α} : x ∈ t.delete p ↔ x ∈ t ∧ p x = false := by
  show x ∈ List.filter _ _ ↔ _
  simp

/-! ## Lookups after a write of one key -/

variable [DecidableEq κ]

/-- The lookups after the insertion of a row with a new key. -/
theorem get?_insert {t : Table key} {r : α} {k : κ} (h : t.get? (key r) = none) :
    (t.insert r).get? k = if k = key r then some r else t.get? k := by
  rw [get?_eq_none] at h
  unfold get?
  rw [rows_insert h, List.find?_append]
  split
  · next hk =>
    subst hk
    rw [List.find?_eq_none.2 fun x hx => by simpa using h x hx]
    simp
  · next hk => simp [Ne.symm hk]

/-- The lookups after an update: the rewritten row, if the update selects it. -/
theorem get?_modify_eq_map {t : Table key} {k : κ} :
    (t.modify p f hf).get? k = (t.get? k).map fun r => if p r then f r else r :=
  find?_modify fun r => by rw [hf]

/-- The lookups after the update of the row of one key. -/
theorem get?_modify {t : Table key} {k k' : κ} :
    (t.modify (fun r => decide (key r = k)) f hf).get? k' =
      if k' = k then (t.get? k').map f else t.get? k' := by
  rw [get?_modify_eq_map]
  cases hg : t.get? k' with
  | none => simp
  | some r =>
    obtain ⟨-, hk⟩ := get?_eq_some.1 hg
    by_cases h : k' = k <;> simp [h, hk]

/-- The lookups after the deletion of the row of one key. -/
theorem get?_delete {t : Table key} {k k' : κ} :
    (t.delete fun r => decide (key r = k)).get? k' = if k' = k then none else t.get? k' := by
  split
  · next h =>
    rw [get?_eq_none]
    rintro r hr rfl
    rw [mem_delete] at hr
    simp [h] at hr
  · next h =>
    cases hg : t.get? k' with
    | none =>
      rw [get?_eq_none] at hg ⊢
      exact fun r hr => hg r (mem_delete.1 hr).1
    | some r =>
      rw [get?_eq_some] at hg ⊢
      exact ⟨mem_delete.2 ⟨hg.1, by simpa [hg.2] using h⟩, hg.2⟩

end

/-! ## Fresh numeric keys -/

section
variable {α : Type} {key : α → Nat}

/-- A number above every key of the table, what an id generator hands out. -/
def freshKey (t : Table key) : Nat := t.rows.foldr (fun r n => max (key r) n) 0 + 1

theorem lt_freshKey {t : Table key} {r : α} (hr : r ∈ t) : key r < t.freshKey := by
  have h : ∀ l : List α, r ∈ l → key r ≤ l.foldr (fun r n => max (key r) n) 0 := by
    intro l
    induction l with
    | nil => intro h; cases h
    | cons x l ih =>
      intro h
      rcases List.mem_cons.1 h with rfl | h
      · exact le_max_left _ _
      · exact (ih h).trans (le_max_right _ _)
  exact Nat.lt_succ_of_le (h t.rows hr)

/-- No row has the fresh key. -/
theorem ne_freshKey (t : Table key) : ∀ r ∈ t, key r ≠ t.freshKey :=
  fun _ hr => (lt_freshKey hr).ne

/-- Rows that are inserted one after the other under fresh keys are appended. -/
theorem rows_foldl_insert {β : Type} {mk : β → Table key → α}
    (hmk : ∀ x t, key (mk x t) = t.freshKey) (l : List β) (t : Table key) :
    ∃ added, (l.foldl (fun t x => t.insert (mk x t)) t).rows = t.rows ++ added ∧
      List.Forall₂ (fun x r => ∃ t, r = mk x t) l added := by
  induction l generalizing t with
  | nil => exact ⟨[], (List.append_nil _).symm, .nil⟩
  | cons x l ih =>
    obtain ⟨added, hrows, hall⟩ := ih (t.insert (mk x t))
    rw [rows_insert fun r hr => hmk x t ▸ t.ne_freshKey r hr, List.append_assoc] at hrows
    exact ⟨mk x t :: added, hrows, .cons ⟨t, rfl⟩ hall⟩

end

end Table

/-! ## Keys as texts -/

/-- The decimal notation tells numbers apart. -/
theorem toString_nat_inj {m n : Nat} : toString m = toString n ↔ m = n := by
  constructor
  · intro h
    rw [Nat.toString_eq_repr, Nat.toString_eq_repr, Nat.repr_eq_ofList_toDigits,
      Nat.repr_eq_ofList_toDigits, String.ofList_inj] at h
    rw [← Nat.ofDigitChars_ten_toDigits (n := m), h, Nat.ofDigitChars_ten_toDigits]
  · rintro rfl; rfl

/-! ## Ordering -/

section
variable {α β : Type} [LinearOrder β]

/-- `ORDER BY f ASC`: the rows by increasing `f`, rows with equal `f` in their given order. -/
def orderBy (f : α → β) (l : List α) : List α := l.insertionSort fun a b => f a ≤ f b

@[simp] theorem mem_orderBy {f : α → β} {l : List α} {a : α} : a ∈ orderBy f l ↔ a ∈ l :=
  List.mem_insertionSort _

theorem perm_orderBy (f : α → β) (l : List α) : (orderBy f l).Perm l := List.perm_insertionSort _ l

/-- `max(l, key=f)`: the first element with the greatest value. -/
abbrev maxBy (f : α → β) (l : List α) : Option α := l.argmax f

/-- The rows that a query selects and orders have distinct keys. -/
theorem Table.nodup_map_orderBy {κ : Type} {key : α → κ} (t : Table key) (f : α → β)
    (p : α → Bool) : ((orderBy f (t.rows.filter p)).map key).Nodup :=
  ((perm_orderBy _ _).map key).nodup_iff.2 ((List.filter_sublist.map key).nodup t.nodup)

theorem Table.nodup_orderBy {κ : Type} {key : α → κ} (t : Table key) (f : α → β)
    (p : α → Bool) : (orderBy f (t.rows.filter p)).Nodup :=
  List.Nodup.of_map key (t.nodup_map_orderBy f p)

theorem pairwise_orderBy (f : α → β) (l : List α) :
    (orderBy f l).Pairwise fun a b => f a ≤ f b := List.pairwise_insertionSort _ l

/-- `a` comes before `b` in the order: by the column, or in the list when the column is the same. -/
def Precedes (f : α → β) (l : List α) (a b : α) : Prop :=
  f a < f b ∨ f a = f b ∧ [a, b].Sublist l

/-- In a list without repetition not both of two rows come before the other. -/
theorem Precedes.asymm {f : α → β} {l : List α} {a b : α} (hl : l.Nodup)
    (hab : Precedes f l a b) : ¬ Precedes f l b a := by
  rcases hab with hab | ⟨heq, hab⟩ <;> rintro (hba | ⟨heq', hba⟩)
  · exact lt_asymm hab hba
  · exact hab.ne' heq'
  · exact hba.ne' heq
  · have hsame := (hl.perm_iff_eq_of_sublist hab hba).1 (.swap b a [])
    obtain rfl : a = b := (List.cons.inj hsame).1
    exact absurd (hl.sublist hab) (by simp)

/-- The first row of an order comes before the other rows. -/
theorem precedes_of_head? {f : α → β} {l : List α} {a b : α} (hl : l.Nodup)
    (ha : (orderBy f l).head? = some a) (hb : b ∈ l) (hne : b ≠ a) : Precedes f l a b := by
  obtain ⟨rest, hrest⟩ := List.head?_eq_some_iff.1 ha
  have hnd : (a :: rest).Nodup := hrest ▸ (perm_orderBy f l).nodup_iff.2 hl
  have hpw : (a :: rest).Pairwise fun a b => f a ≤ f b := hrest ▸ pairwise_orderBy f l
  have hbr : b ∈ rest := (List.mem_cons.1 (hrest ▸ mem_orderBy.2 hb)).resolve_left hne
  have hal : a ∈ l := mem_orderBy.1 (hrest ▸ List.mem_cons_self)
  rcases ((List.pairwise_cons.1 hpw).1 b hbr).lt_or_eq with hlt | heq
  · exact .inl hlt
  refine .inr ⟨heq, ?_⟩
  obtain ⟨pre, post, rfl⟩ := List.append_of_mem hal
  rcases List.mem_append.1 hb with hb | hb
  · -- a row with the same value earlier in the list would be before it in the order
    have hpair : [b, a].Sublist (orderBy f (pre ++ a :: post)) :=
      List.pair_sublist_insertionSort heq.ge
        ((List.singleton_sublist.2 hb).append (List.singleton_sublist.2 List.mem_cons_self))
    rw [hrest] at hpair
    have hfirst : [a, b].Sublist (a :: rest) := (List.singleton_sublist.2 hbr).cons_cons a
    have hsame := (hnd.perm_iff_eq_of_sublist hfirst hpair).1 (.swap b a [])
    exact absurd (List.cons.inj hsame).1 hne.symm
  · have hpost : [b].Sublist post :=
      List.singleton_sublist.2 ((List.mem_cons.1 hb).resolve_left hne)
    exact (hpost.cons_cons a).trans (List.sublist_append_right pre _)

/-- A rewriting of the rows that keeps the ordering column keeps the order. -/
theorem orderBy_map {f : α → β} {g : α → α} (h : ∀ a, f (g a) = f a) (l : List α) :
    orderBy f (l.map g) = (orderBy f l).map g :=
  (List.map_insertionSort _ _ g l fun a _ b _ => by rw [h, h]).symm

/-- A rewriting of the rows that keeps the selecting columns selects the same rows. -/
theorem filter_map_of_eq {p : α → Bool} {g : α → α} (h : ∀ a, p (g a) = p a) (l : List α) :
    (l.map g).filter p = (l.filter p).map g := by
  have hp : p ∘ g = p := funext h
  rw [List.filter_map, hp]

/-- A rewriting of the rows that keeps the columns that are read reads the same. -/
theorem map_map_of_eq {γ : Type} {q : α → γ} {g : α → α} (h : ∀ a, q (g a) = q a) (l : List α) :
    (l.map g).map q = l.map q := by
  rw [List.map_map]
  exact List.map_congr_left fun a _ => h a

/-- Without its last row an order has no longer the greatest. -/
theorem not_mem_dropLast_orderBy {f : α → β} {l : List α} {a : α} (hl : l.Nodup)
    (hmax : ∀ b ∈ l, b ≠ a → f b < f a) : a ∉ (orderBy f l).dropLast := by
  intro h
  have hne : orderBy f l ≠ [] := List.ne_nil_of_mem (List.dropLast_subset _ h)
  have hsplit := List.dropLast_append_getLast hne
  have hnodup : (orderBy f l).Nodup := (perm_orderBy f l).nodup_iff.2 hl
  have hsorted := pairwise_orderBy f l
  have hlast : (orderBy f l).getLast hne ∈ l := mem_orderBy.1 (List.getLast_mem hne)
  rw [← hsplit] at hnodup hsorted
  have hle := (List.pairwise_append.1 hsorted).2.2 a h _ (List.mem_singleton_self _)
  have hdiff := (List.nodup_append.1 hnodup).2.2 a h _ (List.mem_singleton_self _)
  exact absurd hle (not_le.2 (hmax _ hlast (Ne.symm hdiff)))

/-- It still has every row before another one. -/
theorem mem_dropLast_orderBy {f : α → β} {l : List α} {a b : α} (ha : a ∈ l) (hb : b ∈ l)
    (hlt : f a < f b) : a ∈ (orderBy f l).dropLast := by
  have hne : orderBy f l ≠ [] := List.ne_nil_of_mem ((@mem_orderBy α β _ f l a).2 ha)
  have hsplit := List.dropLast_append_getLast hne
  have hsorted := pairwise_orderBy f l
  have ha' := (@mem_orderBy α β _ f l a).2 ha
  have hb' := (@mem_orderBy α β _ f l b).2 hb
  rw [← hsplit] at hsorted ha' hb'
  refine (List.mem_append.1 ha').resolve_right fun hlast => ?_
  rw [List.mem_singleton] at hlast
  rcases List.mem_append.1 hb' with hb' | hb'
  · have hle := (List.pairwise_append.1 hsorted).2.2 b hb' _ (List.mem_singleton_self _)
    rw [← hlast] at hle
    exact absurd hlt (not_lt.2 hle)
  · rw [List.mem_singleton.1 hb', ← hlast] at hlt
    exact lt_irrefl _ hlt

end

end Lib
