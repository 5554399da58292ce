import Mathlib.Data.List.Nodup
import Mathlib.Data.List.Perm.Subperm
import Mathlib.Data.List.TakeWhile
import Mathlib.Tactic.Common

/-!
# Work lists

A queue of entries is worked off from the front: an entry that has been visited, or that is not
known, is skipped, the others are visited once, and a visit puts entries at the end of the queue and
may fail. The loop makes at most a given number of visits (`loop`). When the entries a visit adds
depend on the entry alone, the visited ones are those that are reachable (`Reach`), each once, and
the queue is worked off when there are fewer reachable entries than visits allowed (`loop_reach`).
`loop_invariant` says what the visits keep of the state they work on, and `loop_isSome` when no
visit fails.
-/

namespace Lib

/-- The entries visited so far, the entries to come, and the state that the visits work on. -/
structure Work (α σ : Type) where
  done : List α
  queue : List α
  state : σ

namespace Worklist

section
variable {α σ : Type} [DecidableEq α] (known : α → Bool) (visit : α → σ → Option (σ × List α))

/-- The loop with at most `k` visits. -/
def loop : (k : Nat) → Work α σ → Option (Work α σ)
  | 0, w => some w
  | k + 1, w =>
    match w.queue.dropWhile fun a => decide (a ∈ w.done) || !known a with
    | [] => some { w with queue := [] }
    | a :: rest =>
      match visit a w.state with
      | none => none
      | some (s, next) => loop k ⟨w.done ++ [a], rest ++ next, s⟩

end

section
variable {α : Type} (known : α → Bool)

/-- The known entries, other than those of `done`, that can be reached from the queue. -/
inductive Reach (succ : α → List α) (done queue : List α) : α → Prop
  | start {a : α} (ha : a ∈ queue) (hknown : known a = true) (hnew : a ∉ done) :
    Reach succ done queue a
  | next {a b : α} (ha : Reach succ done queue a) (hb : b ∈ succ a) (hknown : known b = true)
    (hnew : b ∉ done) : Reach succ done queue b

end

section
variable {α σ : Type} {known : α → Bool} {visit : α → σ → Option (σ × List α)}
  {succ : α → List α} {done queue : List α}

/-- The loop is under way: what it has visited is reachable and what is in the queue is reachable
when it is not to be skipped, and no entry that it has been given is lost. -/
structure Underway (known : α → Bool) (succ : α → List α) (done queue visited : List α)
    (w : Work α σ) : Prop where
  done_eq : w.done = done ++ visited
  nodup : visited.Nodup
  reach : ∀ a ∈ visited, Reach known succ done queue a
  pending : ∀ a ∈ w.queue, known a = true → a ∉ done → Reach known succ done queue a
  given : ∀ a ∈ queue, known a = true → a ∈ w.done ∨ a ∈ w.queue
  added : ∀ a ∈ visited, ∀ b ∈ succ a, known b = true → b ∈ w.done ∨ b ∈ w.queue

theorem Underway.init (s : σ) : Underway known succ done queue [] ⟨done, queue, s⟩ where
  done_eq := (List.append_nil _).symm
  nodup := .nil
  reach := nofun
  pending _ ha hknown hnew := .start ha hknown hnew
  given _ ha _ := .inr ha
  added := nofun

variable {visited : List α} {w : Work α σ}

/-- When the queue is worked off, all that is reachable has been visited. -/
theorem Underway.visited_iff (h : Underway known succ done queue visited w) (hq : w.queue = [])
    (a : α) : a ∈ visited ↔ Reach known succ done queue a := by
  have hmem : ∀ b, b ∉ done → b ∈ w.done ∨ b ∈ w.queue → b ∈ visited := by
    intro b hnew hb
    rw [hq, h.done_eq, List.mem_append] at hb
    simpa [hnew] using hb
  refine ⟨h.reach a, fun hreach => ?_⟩
  induction hreach with
  | start ha hknown hnew => exact hmem _ hnew (h.given _ ha hknown)
  | next _ hb hknown hnew ih => exact hmem _ hnew (h.added _ ih _ hb hknown)

/-- The entries visited are no more than those that are reachable. -/
theorem Underway.length_le (h : Underway known succ done queue visited w) {univ : List α}
    (huniv : ∀ a, Reach known succ done queue a → a ∈ univ) : visited.length ≤ univ.length :=
  (List.subperm_of_subset h.nodup fun a ha => huniv a (h.reach a ha)).length_le

variable [DecidableEq α]

/-- An entry that is skipped is no loss. -/
theorem mem_rest {b : α} (hknown : known b = true) (hb : b ∈ w.done ∨ b ∈ w.queue) :
    b ∈ w.done ∨ b ∈ w.queue.dropWhile fun a => decide (a ∈ w.done) || !known a := by
  rcases hb with hb | hb
  · exact .inl hb
  · rw [← List.takeWhile_append_dropWhile (p := fun a => decide (a ∈ w.done) || !known a)
      (l := w.queue), List.mem_append] at hb
    rcases hb with hb | hb
    · have hskip := List.mem_takeWhile_imp hb
      rw [hknown] at hskip
      exact .inl (by simpa using hskip)
    · exact .inr hb

/-- The next entry to visit is reachable and new. -/
theorem Underway.next_mem (h : Underway known succ done queue visited w) {a : α} {rest : List α}
    (hq : w.queue.dropWhile (fun a => decide (a ∈ w.done) || !known a) = a :: rest) :
    Reach known succ done queue a ∧ a ∉ visited := by
  have hskip := List.head_dropWhile_not (fun a => decide (a ∈ w.done) || !known a)
    (l := w.queue) (by rw [hq]; exact List.cons_ne_nil _ _)
  simp only [hq, List.head_cons, Bool.or_eq_false_iff, decide_eq_false_iff_not,
    Bool.not_eq_false'] at hskip
  have hnew := hskip.1
  rw [h.done_eq, List.mem_append, not_or] at hnew
  refine ⟨h.pending a ?_ hskip.2 hnew.1, hnew.2⟩
  exact (List.dropWhile_sublist _).subset (hq ▸ List.mem_cons_self)

/-- A visit leaves the loop under way. -/
theorem Underway.after_visit (h : Underway known succ done queue visited w) {a : α} {rest : List α}
    (hq : w.queue.dropWhile (fun a => decide (a ∈ w.done) || !known a) = a :: rest) (s : σ) :
    Underway known succ done queue (visited ++ [a]) ⟨w.done ++ [a], rest ++ succ a, s⟩ := by
  obtain ⟨hreach, hnew⟩ := h.next_mem hq
  have hkeep : ∀ b, known b = true → b ∈ w.done ∨ b ∈ w.queue →
      b ∈ w.done ++ [a] ∨ b ∈ rest ++ succ a := by
    intro b hknown hb
    have hb' := mem_rest hknown hb
    rw [hq] at hb'
    rcases hb' with hb' | hb'
    · exact .inl (List.mem_append_left _ hb')
    · rcases List.mem_cons.1 hb' with rfl | hb'
      · exact .inl (List.mem_append_right _ (.head _))
      · exact .inr (List.mem_append_left _ hb')
  have hrest : ∀ b ∈ rest, b ∈ w.queue := fun b hb =>
    (List.dropWhile_sublist _).subset (hq ▸ List.mem_cons_of_mem a hb)
  exact {
    done_eq := by rw [h.done_eq, List.append_assoc]
    nodup := List.nodup_append.2 ⟨h.nodup, List.nodup_singleton _, by
      rintro x hx y hy rfl
      exact hnew (List.mem_singleton.1 hy ▸ hx)⟩
    reach := by
      intro b hb
      rcases List.mem_append.1 hb with hb | hb
      · exact h.reach b hb
      · rw [List.mem_singleton.1 hb]
        exact hreach
    pending := by
      intro b hb hknown hdone
      rcases List.mem_append.1 hb with hb | hb
      · exact h.pending b (hrest b hb) hknown hdone
      · exact .next hreach hb hknown hdone
    given := fun b hb hknown => hkeep b hknown (h.given b hb hknown)
    added := by
      intro b hb c hc hknown
      rcases List.mem_append.1 hb with hb | hb
      · exact hkeep c hknown (h.added b hb c hc hknown)
      · rw [List.mem_singleton.1 hb] at hc
        exact .inr (List.mem_append_right _ hc) }

/-- From a state of the loop on which it goes on for `k` visits: it visits what is reachable, and
what each visit keeps holds at its end. -/
theorem loop_underway {I : List α → σ → Prop} {univ : List α} {k : Nat}
    (hsucc : ∀ a s s' next, visit a s = some (s', next) → next = succ a)
    (hstep : ∀ a v s s' next, Reach known succ done queue a → I v s →
      visit a s = some (s', next) → I (v ++ [a]) s')
    (huniv : ∀ a, Reach known succ done queue a → a ∈ univ) (hk : univ.length < visited.length + k)
    (h : Underway known succ done queue visited w) (hI : I visited w.state) {w' : Work α σ}
    (hloop : loop known visit k w = some w') : ∃ visited', w'.queue = [] ∧
      Underway known succ done queue visited' w' ∧ I visited' w'.state := by
  induction k generalizing visited w with
  | zero =>
    have hle := h.length_le huniv
    omega
  | succ k ih =>
    rw [loop] at hloop
    split at hloop
    · next hq =>
      cases hloop
      have hkeep : ∀ b, known b = true → b ∈ w.done ∨ b ∈ w.queue →
          b ∈ w.done ∨ b ∈ ([] : List α) := by
        intro b hknown hb
        simpa [hq] using mem_rest hknown hb
      exact ⟨visited, rfl, ⟨h.done_eq, h.nodup, h.reach, nofun,
        fun a ha hknown => hkeep a hknown (h.given a ha hknown),
        fun a ha b hb hknown => hkeep b hknown (h.added a ha b hb hknown)⟩, hI⟩
    · next a rest hq =>
      split at hloop
      · cases hloop
      · next s next hvisit =>
        obtain rfl := hsucc _ _ _ _ hvisit
        refine ih ?_ (h.after_visit hq s) (hstep _ _ _ _ _ (h.next_mem hq).1 hI hvisit) hloop
        rw [List.length_append, List.length_singleton]
        omega

/-- A loop whose cap is above the number of the reachable entries works its queue off: it visits
what is reachable, each entry once, and what each visit keeps holds at the end. -/
theorem loop_reach (succ : α → List α) (I : List α → σ → Prop) (univ : List α) {k : Nat} {s : σ}
    (hsucc : ∀ a s s' next, visit a s = some (s', next) → next = succ a)
    (hstep : ∀ a v s s' next, Reach known succ done queue a → I v s →
      visit a s = some (s', next) → I (v ++ [a]) s')
    (huniv : ∀ a, Reach known succ done queue a → a ∈ univ) (hk : univ.length < k) (hI : I [] s)
    {w : Work α σ} (hloop : loop known visit k ⟨done, queue, s⟩ = some w) :
    w.queue = [] ∧ ∃ visited, w.done = done ++ visited ∧ visited.Nodup ∧
      (∀ a, a ∈ visited ↔ Reach known succ done queue a) ∧ I visited w.state := by
  obtain ⟨visited, hq, hw, hI⟩ := loop_underway hsucc hstep huniv (by simpa using hk)
    (.init s) hI hloop
  exact ⟨hq, visited, hw.done_eq, hw.nodup, hw.visited_iff hq, hI⟩

/-- A loop in which no visit of a reachable entry fails ends. -/
theorem loop_isSome (succ : α → List α) (I : σ → Prop) {k : Nat}
    (hsucc : ∀ a s s' next, visit a s = some (s', next) → next = succ a)
    (hok : ∀ a s, Reach known succ done queue a → I s →
      ∃ s' next, visit a s = some (s', next) ∧ I s')
    (h : Underway known succ done queue visited w) (hI : I w.state) :
    ∃ w', loop known visit k w = some w' := by
  induction k generalizing visited w with
  | zero => exact ⟨w, rfl⟩
  | succ k ih =>
    rw [loop]
    split
    · exact ⟨_, rfl⟩
    · next a rest hq =>
      obtain ⟨s', next, hvisit, hI'⟩ := hok a w.state (h.next_mem hq).1 hI
      obtain rfl := hsucc _ _ _ _ hvisit
      rw [hvisit]
      exact ih (h.after_visit hq s') hI'

end

end Worklist

end Lib
