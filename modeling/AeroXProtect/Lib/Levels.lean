import AeroXProtect.Lib.Table

/-!
# Levels and their edges

A snapshot says of each key it names whether the key is active. Who takes one snapshot after the
other reports the keys that have risen and those that have fallen (`edges`); a key that was active
and that the next snapshot does not name has fallen without a report. `edges_balance` is the ledger
of one snapshot: for any class of keys, what rises and what was active is what falls, what is
active and what has vanished.
-/

namespace Lib

/-- What a snapshot says of the keys it names. -/
abbrev Levels (κ : Type) := Table (Prod.fst : κ × Bool → κ)

namespace Levels

section
variable {κ : Type} [DecidableEq κ] {t cur prev : Levels κ} {k k' : κ} {b : Bool}

/-- `levels[k] = b`: a key keeps its place. -/
def set (t : Levels κ) (k : κ) (b : Bool) : Levels κ :=
  if (t.get? k).isSome then t.modify (fun r => decide (r.1 = k)) fun r => (r.1, b)
  else t.insert (k, b)

/-- `levels.get(k, False)` -/
def active (t : Levels κ) (k : κ) : Bool :=
  match t.get? k with
  | some r => r.2
  | none => false

/-- How many keys of a class are active. -/
def activeCount (t : Levels κ) (p : κ → Bool) : Nat := t.rows.countP fun r => r.2 && p r.1

/-- The active keys that the next snapshot does not name. -/
def vanished (prev cur : Levels κ) : List κ :=
  (prev.rows.filter fun r => r.2 && (cur.get? r.1).isNone).map Prod.fst

/-- The keys of the next snapshot whose level is not what it was. -/
def edges (prev cur : Levels κ) : List (κ × Bool) := cur.rows.filter fun r => r.2 != prev.active r.1

theorem get?_set : (t.set k b).get? k' = if k' = k then some (k, b) else t.get? k' := by
  unfold set
  cases h : t.get? k with
  | none =>
    have hinsert := @Table.get?_insert _ _ _ _ t (k, b) k' h
    rw [Option.isSome_none, if_neg Bool.false_ne_true, hinsert]
  | some r =>
    obtain ⟨hr, hkey⟩ := Table.get?_eq_some.1 h
    rw [Option.isSome_some, if_pos rfl, Table.get?_modify]
    split
    · next heq =>
      rw [heq, h, Option.map_some, ← hkey]
    · rfl

theorem active_iff : t.active k = true ↔ (k, true) ∈ t := by
  unfold active
  constructor
  · intro h
    split at h
    · next r hr =>
      obtain ⟨hmem, hkey⟩ := Table.get?_eq_some.1 hr
      have heq : r = (k, true) := Prod.ext hkey h
      rwa [heq] at hmem
    · cases h
  · intro h
    rw [Table.get?_eq_some.2 ⟨h, rfl⟩]

/-- The active keys that are named again are the named keys that were active. -/
theorem countP_again (p : κ → Bool) (prev cur : Levels κ) :
    cur.rows.countP (fun r => p r.1 && prev.active r.1) =
      prev.rows.countP (fun r => r.2 && p r.1 && (cur.get? r.1).isSome) := by
  rw [List.countP_eq_length_filter, List.countP_eq_length_filter, ← List.length_map (f := Prod.fst),
    ← List.length_map (f := Prod.fst)]
  refine List.Perm.length_eq ((List.perm_ext_iff_of_nodup ?_ ?_).2 fun k => ?_)
  · exact cur.nodup.sublist (List.filter_sublist.map _)
  · exact prev.nodup.sublist (List.filter_sublist.map _)
  · simp only [List.mem_map, List.mem_filter, Bool.and_eq_true]
    constructor
    · rintro ⟨r, ⟨hr, hp, hact⟩, rfl⟩
      refine ⟨(r.1, true), ⟨active_iff.1 hact, ⟨rfl, hp⟩, ?_⟩, rfl⟩
      rw [Table.get?_eq_some.2 ⟨hr, rfl⟩]
      rfl
    · rintro ⟨r, ⟨hr, ⟨hact, hp⟩, hsome⟩, rfl⟩
      obtain ⟨x, hx⟩ := Option.isSome_iff_exists.1 hsome
      obtain ⟨hmem, hkey⟩ := Table.get?_eq_some.1 hx
      refine ⟨x, ⟨hmem, hkey ▸ hp, ?_⟩, hkey⟩
      rw [hkey, active_iff, ← hact]
      exact hr

/-- **The ledger of one snapshot.** -/
theorem edges_balance (p : κ → Bool) (prev cur : Levels κ) :
    (edges prev cur).countP (fun r => r.2 && p r.1) + prev.activeCount p =
      (edges prev cur).countP (fun r => !r.2 && p r.1) + cur.activeCount p +
        (vanished prev cur).countP p := by
  have hagain := countP_again p prev cur
  -- the keys that were active, by whether they are named again
  have hprev := List.countP_eq_countP_filter_add prev.rows (fun r => r.2 && p r.1)
    fun r => (cur.get? r.1).isSome
  -- the keys that are active, and those that were, by the level they have now
  have hcur := List.countP_eq_countP_filter_add cur.rows (fun r => r.2 && p r.1)
    fun r => prev.active r.1
  have hwas := List.countP_eq_countP_filter_add cur.rows (fun r => p r.1 && prev.active r.1)
    fun r => r.2
  unfold activeCount edges vanished
  rw [List.countP_map]
  simp only [List.countP_filter] at *
  have hrise : cur.rows.countP (fun r => r.2 && p r.1 && (r.2 != prev.active r.1)) =
      cur.rows.countP (fun r => r.2 && p r.1 && !prev.active r.1) :=
    List.countP_congr fun r _ => by cases r.2 <;> simp
  have hfall : cur.rows.countP (fun r => !r.2 && p r.1 && (r.2 != prev.active r.1)) =
      cur.rows.countP (fun r => p r.1 && prev.active r.1 && !r.2) :=
    List.countP_congr fun r _ => by cases r.2 <;> simp
  have hstay : cur.rows.countP (fun r => p r.1 && prev.active r.1 && r.2) =
      cur.rows.countP (fun r => r.2 && p r.1 && prev.active r.1) :=
    List.countP_congr fun r _ => by cases r.2 <;> simp
  have hlost : prev.rows.countP (fun r => r.2 && p r.1 && !(cur.get? r.1).isSome) =
      prev.rows.countP (fun r => p r.1 && (r.2 && (cur.get? r.1).isNone)) :=
    List.countP_congr fun r _ => by cases r.2 <;> cases cur.get? r.1 <;> simp
  simp only [Function.comp_def] at *
  omega

end

end Levels

end Lib
