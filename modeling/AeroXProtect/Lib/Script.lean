import Mathlib.Data.List.ReduceOption
import Mathlib.Tactic.Common

/-!
# Scripts of statements that may fail

A script is a list of statements, each of which changes a state and succeeds or fails. It runs up to
the first failure (`run`), and what a crash leaves behind is the run of a first part of it
(`List.take`). A script that runs through can be cut anywhere (`run_append`, `run_of_append`); what
every statement keeps, failing or not, the script keeps (`run_invariant`). A loop over items is such
a script: all items are reached when none but the last one fails (`reached_eq_self_iff`). A request
that only checks is a computation in `Except`: `bind_eq_ok`, `forM_eq_ok` and `mapM_eq_ok` say what
has passed when it succeeds, and `Returns` that it does not raise.
-/

namespace Lib.Script

section
variable {σ ι : Type} (exec : ι → σ → σ × Bool)

/-- The state when the script has ended, and whether it ran through. -/
def run : List ι → σ → σ × Bool
  | [], s => (s, true)
  | i :: is, s =>
    match exec i s with
    | (s', true) => run is s'
    | (s', false) => (s', false)

/-- The statement at which the script fails. -/
def failing : List ι → σ → Option ι
  | [], _ => none
  | i :: is, s =>
    match exec i s with
    | (s', true) => failing is s'
    | (_, false) => some i

/-- The statements that are reached. -/
def reached : List ι → σ → List ι
  | [], _ => []
  | i :: is, s => i :: if (exec i s).2 then reached is (exec i s).1 else []

variable {exec}

theorem run_cons {i : ι} {is : List ι} {s s' : σ} (h : exec i s = (s', true)) :
    run exec (i :: is) s = run exec is s' := by
  rw [run, h]

theorem run_cons_fails {i : ι} {is : List ι} {s s' : σ} (h : exec i s = (s', false)) :
    run exec (i :: is) s = (s', false) := by
  rw [run, h]

/-- One statement and the rest. -/
theorem run_cons_eq (i : ι) (is : List ι) (s : σ) : run exec (i :: is) s =
    if (exec i s).2 then run exec is (exec i s).1 else exec i s := by
  rcases h : exec i s with ⟨s', b⟩
  cases b with
  | true => exact run_cons h
  | false => exact run_cons_fails h

/-- The first statement of a script that runs through succeeds. -/
theorem run_of_cons {i : ι} {is : List ι} {s t : σ} (h : run exec (i :: is) s = (t, true)) :
    ∃ s', exec i s = (s', true) ∧ run exec is s' = (t, true) := by
  rw [run] at h
  split at h
  · next s' hs => exact ⟨s', hs, h⟩
  · cases h

/-- A script whose first part runs through goes on with the rest. -/
theorem run_append {is js : List ι} {s s' : σ} (h : run exec is s = (s', true)) :
    run exec (is ++ js) s = run exec js s' := by
  induction is generalizing s with
  | nil => cases h; rfl
  | cons i is ih =>
    rw [run] at h
    split at h
    · next t ht => rw [List.cons_append, run_cons ht, ih h]
    · cases h

/-- A script whose first part fails ends there. -/
theorem run_append_fails {is js : List ι} {s : σ} (h : (run exec is s).2 = false) :
    run exec (is ++ js) s = run exec is s := by
  induction is generalizing s with
  | nil => cases h
  | cons i is ih =>
    rw [run] at h
    split at h
    · next t ht => rw [List.cons_append, run_cons ht, run_cons ht, ih h]
    · next t ht => rw [List.cons_append, run_cons_fails ht, run_cons_fails ht]

/-- The parts of a script that runs through run through. -/
theorem run_of_append {is js : List ι} {s t : σ} (h : run exec (is ++ js) s = (t, true)) :
    ∃ s', run exec is s = (s', true) ∧ run exec js s' = (t, true) := by
  induction is generalizing s with
  | nil => exact ⟨s, rfl, h⟩
  | cons i is ih =>
    rw [List.cons_append, run] at h
    split at h
    · next s₁ hs =>
      obtain ⟨s', h₁, h₂⟩ := ih h
      exact ⟨s', by rw [run_cons hs, h₁], h₂⟩
    · cases h

/-- The statement at which a script fails is one of its first part, or the first part runs through
and it is one of the rest. -/
theorem failing_append {is js : List ι} {s : σ} {i : ι} (h : failing exec (is ++ js) s = some i) :
    failing exec is s = some i ∨
      ∃ s', run exec is s = (s', true) ∧ failing exec js s' = some i := by
  induction is generalizing s with
  | nil => exact .inr ⟨s, rfl, h⟩
  | cons j is ih =>
    rw [List.cons_append, failing] at h
    split at h
    · next s₁ hs =>
      rcases ih h with hf | ⟨s', hrun, hf⟩
      · exact .inl (by rw [failing, hs]; exact hf)
      · exact .inr ⟨s', by rw [run_cons hs, hrun], hf⟩
    · next s₁ hs =>
      obtain rfl := Option.some.inj h
      exact .inl (by rw [failing, hs])

/-- The failing statement is one of the script's. -/
theorem mem_of_failing {is : List ι} {s : σ} {i : ι} (h : failing exec is s = some i) : i ∈ is := by
  induction is generalizing s with
  | nil => cases h
  | cons j is ih =>
    rw [failing] at h
    split at h
    · exact .tail _ (ih h)
    · obtain rfl := Option.some.inj h
      exact .head _

theorem run_of_failing {is : List ι} {s : σ} {i : ι} (h : failing exec is s = some i) :
    (run exec is s).2 = false := by
  induction is generalizing s with
  | nil => cases h
  | cons j is ih =>
    rw [failing] at h
    split at h
    · next s₁ hs => rw [run_cons hs]; exact ih h
    · next s₁ hs => rw [run_cons_fails hs]

/-- What holds at the start and is kept by the statements holds at the end. -/
theorem run_invariant {I : σ → Prop} {is : List ι} {s : σ}
    (hstep : ∀ i ∈ is, ∀ s, I s → I (exec i s).1) (hs : I s) : I (run exec is s).1 := by
  induction is generalizing s with
  | nil => exact hs
  | cons i is ih =>
    have hi := hstep i (.head _) s hs
    rw [run]
    split
    · next s' hs' => exact ih (fun j hj => hstep j (.tail _ hj)) (by rwa [hs'] at hi)
    · next s' hs' => rwa [hs'] at hi

/-- All statements are reached when none but the last one fails. -/
theorem reached_eq_self_iff {is : List ι} {s : σ} : reached exec is s = is ↔
    ∀ pre i post, is = pre ++ i :: post → post ≠ [] → (exec i (run exec pre s).1).2 = true := by
  constructor
  · intro h pre i post his hpost
    induction pre generalizing is s with
    | nil =>
      subst his
      rw [List.nil_append, reached, List.cons_inj_right] at h
      split at h
      · assumption
      · exact absurd h.symm hpost
    | cons j pre ih =>
      subst his
      rw [List.cons_append, reached, List.cons_inj_right] at h
      rw [run_cons_eq]
      split at h
      · next hgo =>
        rw [if_pos hgo]
        exact ih h rfl
      · exact absurd h.symm (List.append_ne_nil_of_right_ne_nil _ (List.cons_ne_nil _ _))
  · intro h
    induction is generalizing s with
    | nil => rfl
    | cons i is ih =>
      rw [reached, List.cons_inj_right]
      by_cases hnil : is = []
      · subst hnil
        exact ite_self _
      · have hgo : (exec i s).2 = true := h [] i is rfl hnil
        rw [if_pos hgo]
        refine ih fun pre j post his hpost => ?_
        have hj := h (i :: pre) j post (by rw [his]; rfl) hpost
        rwa [run_cons_eq, if_pos hgo] at hj

end

/-- A loop that rewrites the items of a list, up to the first one that fails. -/
def sweep {α : Type} (f : α → α × Bool) : List α → List α
  | [] => []
  | a :: l => (f a).1 :: if (f a).2 then sweep f l else l

/-- Each item is left alone or rewritten. -/
theorem mem_sweep {α : Type} {f : α → α × Bool} {l : List α} {b : α} (h : b ∈ sweep f l) :
    ∃ a ∈ l, b = a ∨ b = (f a).1 := by
  induction l with
  | nil => cases h
  | cons a l ih =>
    rcases List.mem_cons.1 h with rfl | h
    · exact ⟨a, .head _, .inr rfl⟩
    · split at h
      · obtain ⟨x, hx, hb⟩ := ih h
        exact ⟨x, .tail _ hx, hb⟩
      · exact ⟨b, .tail _ h, .inl rfl⟩

end Lib.Script

namespace Lib

section
variable {ε α β : Type}

/-- Two computations in sequence succeed when both do. -/
theorem bind_eq_ok {x : Except ε α} {f : α → Except ε β} {b : β} :
    x >>= f = .ok b ↔ ∃ a, x = .ok a ∧ f a = .ok b := by
  cases x with
  | error e => simp [bind, Except.bind]
  | ok a => simp [bind, Except.bind]

/-- A loop of checks succeeds when each check does. -/
theorem forM_eq_ok {l : List α} {f : α → Except ε Unit} :
    l.forM f = .ok () ↔ ∀ a ∈ l, f a = .ok () := by
  induction l with
  | nil => simp [List.forM, pure, Except.pure]
  | cons a l ih =>
    change (f a >>= fun _ => l.forM f) = .ok () ↔ _
    rw [bind_eq_ok, List.forall_mem_cons, ← ih]
    exact ⟨fun ⟨_, ha, hl⟩ => ⟨ha, hl⟩, fun ⟨ha, hl⟩ => ⟨_, ha, hl⟩⟩

/-- A list of computations succeeds when each does. -/
theorem mapM_eq_ok {l : List α} {f : α → Except ε β} {bs : List β} :
    l.mapM f = .ok bs ↔ List.Forall₂ (fun a b => f a = .ok b) l bs := by
  induction l generalizing bs with
  | nil =>
    cases bs with
    | nil => exact iff_of_true rfl .nil
    | cons b bs => exact iff_of_false nofun nofun
  | cons a l ih =>
    simp only [List.mapM_cons, bind_eq_ok, ih, pure, Except.pure, Except.ok.injEq]
    constructor
    · rintro ⟨b, ha, bs, hl, rfl⟩
      exact .cons ha hl
    · intro h
      cases h with
      | cons ha hl => exact ⟨_, ha, _, hl, rfl⟩

/-- Two computations in sequence fail when the first one does, or the second one after it. -/
theorem bind_eq_error {x : Except ε α} {f : α → Except ε β} {e : ε} :
    x >>= f = .error e ↔ x = .error e ∨ ∃ a, x = .ok a ∧ f a = .error e := by
  cases x with
  | error e' => simp [bind, Except.bind]
  | ok a => simp [bind, Except.bind]

/-- A list of computations fails at the first one that fails. -/
theorem mapM_eq_error {l : List α} {f : α → Except ε β} {e : ε} :
    l.mapM f = .error e ↔ ∃ pre a post, l = pre ++ a :: post ∧
      (∀ x ∈ pre, ∃ b, f x = .ok b) ∧ f a = .error e := by
  induction l with
  | nil =>
    refine ⟨nofun, ?_⟩
    rintro ⟨pre, a, post, h, -⟩
    cases pre <;> cases h
  | cons x l ih =>
    rw [List.mapM_cons, bind_eq_error]
    constructor
    · rintro (h | ⟨b, hx, h⟩)
      · exact ⟨[], x, l, rfl, nofun, h⟩
      · rcases bind_eq_error.1 h with h | ⟨bs, -, h⟩
        · obtain ⟨pre, a, post, rfl, hpre, ha⟩ := ih.1 h
          exact ⟨x :: pre, a, post, rfl, List.forall_mem_cons.2 ⟨⟨b, hx⟩, hpre⟩, ha⟩
        · cases h
    · rintro ⟨pre, a, post, h, hpre, ha⟩
      cases pre with
      | nil =>
        cases h
        exact .inl ha
      | cons y pre =>
        cases h
        obtain ⟨⟨b, hx⟩, hpre⟩ := List.forall_mem_cons.1 hpre
        exact .inr ⟨b, hx, bind_eq_error.2 (.inl (ih.2 ⟨pre, a, post, rfl, hpre, ha⟩))⟩

/-- A comprehension whose items can all be read. -/
theorem mapM_eq_some {l : List α} {f : α → Option β} {g : α → β}
    (h : ∀ a ∈ l, f a = some (g a)) : l.mapM f = some (l.map g) := by
  induction l with
  | nil => rfl
  | cons a l ih =>
    obtain ⟨ha, hl⟩ := List.forall_mem_cons.1 h
    rw [List.mapM_cons, ha, ih hl]
    rfl

/-- A list of reads succeeds when each one does. -/
theorem mapM_eq_some_iff {l : List α} {f : α → Option β} {bs : List β} :
    l.mapM f = some bs ↔ List.Forall₂ (fun a b => f a = some b) l bs := by
  induction l generalizing bs with
  | nil =>
    cases bs with
    | nil => exact iff_of_true rfl .nil
    | cons b bs => exact iff_of_false nofun nofun
  | cons a l ih =>
    simp only [List.mapM_cons, Option.bind_eq_bind, Option.bind_eq_some_iff, ih, pure,
      Option.some.injEq]
    constructor
    · rintro ⟨b, ha, bs, hl, rfl⟩
      exact .cons ha hl
    · intro h
      cases h with
      | cons ha hl => exact ⟨_, ha, _, hl, rfl⟩

/-- What a list of reads has read. -/
theorem mem_of_mapM {l : List α} {f : α → Option β} {bs : List β} {b : β}
    (h : l.mapM f = some bs) : b ∈ bs ↔ ∃ a ∈ l, f a = some b := by
  rw [mapM_eq_some_iff] at h
  induction h with
  | nil => simp
  | cons ha _ ih => rw [List.mem_cons, ih, List.exists_mem_cons_iff, ha, Option.some_inj, eq_comm]

theorem exists_mapM {l : List α} {f : α → Option β} :
    (∃ bs, l.mapM f = some bs) ↔ ∀ a ∈ l, ∃ b, f a = some b := by
  simp only [mapM_eq_some_iff]
  induction l with
  | nil => exact iff_of_true ⟨[], .nil⟩ nofun
  | cons a l ih =>
    rw [List.forall_mem_cons, ← ih]
    constructor
    · rintro ⟨bs, h⟩
      cases h with
      | cons ha hl => exact ⟨⟨_, ha⟩, _, hl⟩
    · rintro ⟨⟨b, ha⟩, bs, hl⟩
      exact ⟨b :: bs, .cons ha hl⟩

/-- One read after another. -/
theorem seq_eq_some {a b : Option Unit} :
    (a.bind fun _ => b) = some () ↔ a = some () ∧ b = some () := by
  cases a with
  | none => simp
  | some u => simp

/-- A loop of reads succeeds when each one does. -/
theorem forM_eq_some {l : List α} {f : α → Option Unit} :
    l.forM f = some () ↔ ∀ a ∈ l, f a = some () := by
  induction l with
  | nil => simp [List.forM, pure]
  | cons a l ih =>
    change (f a >>= fun _ => l.forM f) = some () ↔ _
    rw [Option.bind_eq_bind, Option.bind_eq_some_iff, List.forall_mem_cons, ← ih]
    exact ⟨fun ⟨_, ha, hl⟩ => ⟨ha, hl⟩, fun ⟨ha, hl⟩ => ⟨_, ha, hl⟩⟩

/-- The items of a list, each of which may raise, be left out or be turned into another one. -/
def comprehension (f : α → Option (Option β)) (l : List α) : Option (List β) :=
  (l.mapM f).map List.reduceOption

theorem comprehension_eq_some {l : List α} {f : α → Option (Option β)} {g : α → Option β}
    (h : ∀ a ∈ l, f a = some (g a)) : comprehension f l = some (l.filterMap g) := by
  rw [comprehension, mapM_eq_some h, Option.map_some, List.reduceOption, List.filterMap_map]
  rfl

end

/-! ## Computations that do not raise -/

section
variable {ε α β : Type}

/-- `try: return x` `except …: return fallback` -/
def rescue (caught : ε → Bool) (fallback : α) : Except ε α → Except ε α
  | .ok a => .ok a
  | .error e => if caught e then .ok fallback else .error e

/-- The computation does not raise. -/
def Returns (x : Except ε α) : Prop := ∃ a, x = .ok a

variable {x : Except ε α} {f : α → Except ε β}

@[simp] theorem returns_ok {a : α} : Returns (.ok a : Except ε α) := ⟨a, rfl⟩

@[simp] theorem returns_pure {a : α} : Returns (pure a : Except ε α) := ⟨a, rfl⟩

@[simp] theorem returns_error {e : ε} : ¬ Returns (.error e : Except ε α) := by
  rintro ⟨_, h⟩
  cases h

@[simp] theorem returns_bind : Returns (x >>= f) ↔ ∃ a, x = .ok a ∧ Returns (f a) := by
  cases x with
  | error e => simp [bind, Except.bind]
  | ok a => simp [bind, Except.bind]

@[simp] theorem returns_map {g : α → β} : Returns (g <$> x) ↔ Returns x := by
  cases x with
  | error e => exact iff_of_false returns_error returns_error
  | ok a => exact iff_of_true returns_ok returns_ok

@[simp] theorem returns_rescue {caught : ε → Bool} {fallback : α} :
    Returns (rescue caught fallback x) ↔ ∀ e, x = .error e → caught e = true := by
  cases x with
  | ok a => simp [rescue]
  | error e =>
    by_cases h : caught e = true
    · simp [rescue, h]
    · simp [rescue, h]

/-- A list of computations returns when each does. -/
@[simp] theorem returns_mapM {l : List α} {f : α → Except ε β} :
    Returns (l.mapM f) ↔ ∀ a ∈ l, Returns (f a) := by
  induction l with
  | nil => simp
  | cons a l ih =>
    rw [List.mapM_cons, returns_bind, List.forall_mem_cons, ← ih]
    constructor
    · rintro ⟨b, hb, h⟩
      obtain ⟨bs, hbs, -⟩ := returns_bind.1 h
      exact ⟨⟨b, hb⟩, ⟨bs, hbs⟩⟩
    · rintro ⟨⟨b, hb⟩, ⟨bs, hbs⟩⟩
      exact ⟨b, hb, returns_bind.2 ⟨bs, hbs, returns_pure⟩⟩

/-- A loop whose steps return makes the same of the state as one that cannot raise. -/
theorem foldlM_eq_ok {l : List α} {f : β → α → Except ε β} {g : β → α → β} {b : β}
    (h : ∀ b, ∀ a ∈ l, f b a = .ok (g b a)) : l.foldlM f b = .ok (l.foldl g b) := by
  induction l generalizing b with
  | nil => rfl
  | cons a l ih =>
    rw [List.foldlM_cons, h b a (.head _), List.foldl_cons]
    exact ih fun b x hx => h b x (.tail _ hx)

/-- `[a for a in l if f(a)]`, where the test may raise. -/
def select (f : α → Except ε Bool) : List α → Except ε (List α)
  | [] => .ok []
  | a :: l => do
    let keep ← f a
    let rest ← select f l
    return if keep then a :: rest else rest

end

end Lib
