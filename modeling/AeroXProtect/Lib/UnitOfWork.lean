import Mathlib.Data.List.Pairwise
import Mathlib.Tactic.Common

/-!
# A unit of work over tables

A session of an object-relational mapper: statements are executed at once in its transaction, the
objects that are added to it are written when it commits (`UnitOfWork.commit`). When one of these
writes fails, the transaction is rolled back and the session is of no use until the program rolls it
back itself. `foldlM_insertUnique` is the flush of rows into a table with a unique key.
-/

namespace Lib

section
variable {σ ω : Type}

/-- What is committed, what the transaction sees, the writes that wait for the commit, and whether
the session can be used. -/
structure UnitOfWork (σ ω : Type) where
  committed : σ
  seen : σ
  pending : List ω
  active : Bool

namespace UnitOfWork

/-- A session without a transaction. -/
def clean (s : σ) : UnitOfWork σ ω := ⟨s, s, [], true⟩

/-- A statement in the transaction; `false` when it raises. -/
def execute (f : σ → σ) (u : UnitOfWork σ ω) : UnitOfWork σ ω × Bool :=
  if u.active then ({ u with seen := f u.seen }, true) else (u, false)

/-- `session.add` -/
def add (w : ω) (u : UnitOfWork σ ω) : UnitOfWork σ ω := { u with pending := u.pending ++ [w] }

/-- `session.commit`, with the writes one after the other; `false` when it raises. -/
def commit (flush : σ → ω → Option σ) (u : UnitOfWork σ ω) : UnitOfWork σ ω × Bool :=
  if u.active then
    match u.pending.foldlM flush u.seen with
    | some s => (clean s, true)
    | none => (⟨u.committed, u.committed, [], false⟩, false)
  else (u, false)

variable {flush : σ → ω → Option σ} {s t seen : σ} {ws : List ω}

theorem commit_of_some (h : ws.foldlM flush seen = some t) :
    commit flush ⟨s, seen, ws, true⟩ = (clean t, true) := by
  simp [commit, h]

theorem commit_of_none (h : ws.foldlM flush seen = none) :
    commit flush ⟨s, seen, ws, true⟩ = (⟨s, s, [], false⟩, false) := by
  simp [commit, h]

/-- A session in which a write has failed does not commit. -/
theorem commit_of_inactive {u : UnitOfWork σ ω} (h : u.active = false) :
    u.commit flush = (u, false) := by
  simp [commit, h]

end UnitOfWork

end

section
variable {α : Type} {ok : α → Bool} {clash : α → α → Bool} {rows new out : List α}

/-- A row is written when the table takes it and no row has its key. -/
def insertUnique (ok : α → Bool) (clash : α → α → Bool) (rows : List α) (r : α) :
    Option (List α) :=
  if ok r && rows.all fun d => !clash d r then some (rows ++ [r]) else none

/-- Rows are written when the table takes each of them and no two rows have one key. -/
theorem foldlM_insertUnique : new.foldlM (insertUnique ok clash) rows = some out ↔
    out = rows ++ new ∧ (∀ r ∈ new, ok r = true) ∧ (∀ d ∈ rows, ∀ r ∈ new, clash d r = false) ∧
      new.Pairwise fun d r => clash d r = false := by
  induction new generalizing rows with
  | nil =>
    rw [List.foldlM_nil, List.append_nil]
    constructor
    · rintro ⟨⟩
      exact ⟨rfl, nofun, fun _ _ => nofun, .nil⟩
    · rintro ⟨rfl, -⟩
      rfl
  | cons r new ih =>
    rw [List.foldlM_cons, insertUnique]
    by_cases hr : ok r = true ∧ ∀ d ∈ rows, clash d r = false
    · rw [if_pos (by simpa using hr)]
      refine (@ih (rows ++ [r])).trans ?_
      rw [List.append_assoc, List.pairwise_cons]
      simp only [List.singleton_append, List.mem_append, List.mem_singleton, List.forall_mem_cons]
      grind
    · rw [if_neg (by simpa using hr)]
      simp only [Option.bind_eq_bind, Option.bind_none, reduceCtorEq, false_iff,
        List.forall_mem_cons]
      rintro ⟨-, ⟨hok, -⟩, hclash, -⟩
      exact hr ⟨hok, fun d hd => (hclash d hd).1⟩

end

end Lib
