import AeroXProtect.Lib.Script
import Mathlib.Logic.Basic

/-!
# Batches of reports

The reports of a batch are judged one by one: a report is rejected with a reason, it is accepted and
becomes a row, or the judgement raises, and then the whole batch is lost. A judgement is a monad
(`Verdict`) in which computations may be `unguarded` or `guarded`; `Calm` says that it does not
raise, and has one rule for each way to write a judgement. `Intake.run` judges a first part of the
batch and hands the rows to a table, which takes all of them or refuses. `Intake.isolated_iff` says
when a batch is handled report by report (`Isolated`).
-/

namespace Lib

/-! ## Judgements -/

/-- What becomes of a report: an exception, a rejection with its reason, or a row. -/
inductive Verdict (ε κ ρ : Type)
  | raised (e : ε)
  | rejected (reason : κ)
  | accepted (row : ρ)
  deriving DecidableEq, Repr

namespace Verdict

section
variable {ε κ ρ σ : Type}

instance : Monad (Verdict ε κ) where
  pure := accepted
  bind v f := match v with
    | .raised e => .raised e
    | .rejected reason => .rejected reason
    | .accepted a => f a

/-- A computation whose exceptions are not caught. -/
def unguarded : Except ε ρ → Verdict ε κ ρ
  | .ok a => .accepted a
  | .error e => .raised e

/-- A computation whose caught exceptions reject the report. -/
def guarded (caught : ε → Bool) (reason : κ) : Except ε ρ → Verdict ε κ ρ
  | .ok a => .accepted a
  | .error e => if caught e then .rejected reason else .raised e

/-- A check that rejects the report. -/
def require (b : Bool) (reason : κ) : Verdict ε κ Unit :=
  if b then .accepted () else .rejected reason

/-- A value that may be missing. -/
def found (reason : κ) : Option ρ → Verdict ε κ ρ
  | some a => .accepted a
  | none => .rejected reason

/-- The judgement with other reasons. -/
def relabel {κ' : Type} (f : κ → κ') : Verdict ε κ ρ → Verdict ε κ' ρ
  | .raised e => .raised e
  | .rejected reason => .rejected (f reason)
  | .accepted a => .accepted a

/-- The row of an accepted report. -/
def row? : Verdict ε κ ρ → Option ρ
  | .accepted row => some row
  | _ => none

/-- The reason of a rejected report. -/
def reason? : Verdict ε κ ρ → Option κ
  | .rejected reason => some reason
  | _ => none

/-- The judgement does not raise. -/
def Calm (v : Verdict ε κ ρ) : Prop := ∀ e, v ≠ .raised e

variable {v : Verdict ε κ ρ} {f : ρ → Verdict ε κ σ} {x : Except ε ρ} {caught : ε → Bool}
  {reason : κ} {a : ρ} {b : Bool}

theorem row?_eq_some : v.row? = some a ↔ v = .accepted a := by
  cases v <;> simp [row?]

theorem reason?_eq_some : v.reason? = some reason ↔ v = .rejected reason := by
  cases v <;> simp [reason?]

@[simp] theorem calm_accepted : Calm (.accepted a : Verdict ε κ ρ) := fun _ h => by cases h

@[simp] theorem calm_pure : Calm (pure a : Verdict ε κ ρ) := calm_accepted

@[simp] theorem calm_rejected : Calm (.rejected reason : Verdict ε κ ρ) := fun _ h => by cases h

@[simp] theorem calm_unguarded : Calm (unguarded x : Verdict ε κ ρ) ↔ Returns x := by
  cases x with
  | ok a => simp [unguarded]
  | error e => simp [unguarded, Calm]

@[simp] theorem calm_guarded :
    Calm (guarded caught reason x) ↔ ∀ e, x = .error e → caught e = true := by
  cases x with
  | ok a => simp [guarded]
  | error e =>
    by_cases h : caught e = true
    · simp [guarded, h]
    · simp [guarded, h, Calm]

@[simp] theorem calm_require : Calm (require b reason : Verdict ε κ Unit) := by
  cases b
  · exact calm_rejected
  · exact calm_accepted

@[simp] theorem calm_found {o : Option ρ} : Calm (found reason o : Verdict ε κ ρ) := by
  cases o
  · exact calm_rejected
  · exact calm_accepted

@[simp] theorem calm_relabel {κ' : Type} {g : κ → κ'} : Calm (v.relabel g) ↔ Calm v := by
  cases v <;> simp [relabel, Calm]

/-- Judgements in sequence do not raise when the first one does not and, if the report passes it,
neither does the second. -/
@[simp] theorem calm_bind : Calm (v >>= f) ↔ Calm v ∧ ∀ a, v = .accepted a → Calm (f a) := by
  cases v with
  | raised e => simp [bind, Calm]
  | rejected reason => simp [bind, Calm]
  | accepted a => simp [bind]

/-- A report that is accepted has passed each part of the judgement. -/
@[simp] theorem bind_eq_accepted {c : σ} :
    v >>= f = .accepted c ↔ ∃ a, v = .accepted a ∧ f a = .accepted c := by
  cases v with
  | raised e => simp [bind]
  | rejected reason => simp [bind]
  | accepted a => simp [bind]

@[simp] theorem pure_eq_accepted {a' : ρ} : (pure a : Verdict ε κ ρ) = .accepted a' ↔ a = a' := by
  simp [pure]

@[simp] theorem unguarded_eq_accepted :
    (unguarded x : Verdict ε κ ρ) = .accepted a ↔ x = .ok a := by
  cases x with
  | ok a => simp [unguarded]
  | error e => simp [unguarded]

@[simp] theorem guarded_eq_accepted : guarded caught reason x = .accepted a ↔ x = .ok a := by
  cases x with
  | ok a => simp [guarded]
  | error e =>
    simp only [guarded, reduceCtorEq, iff_false]
    split <;> simp

@[simp] theorem found_eq_accepted {o : Option ρ} :
    (found reason o : Verdict ε κ ρ) = .accepted a ↔ o = some a := by
  cases o <;> simp [found]

@[simp] theorem relabel_eq_accepted {κ' : Type} {g : κ → κ'} :
    v.relabel g = .accepted a ↔ v = .accepted a := by
  cases v <;> simp [relabel]

@[simp] theorem require_eq_accepted {u : Unit} :
    (require b reason : Verdict ε κ Unit) = .accepted u ↔ b = true := by
  cases b <;> simp [require]

end

end Verdict

/-! ## The loop -/

/-- An accepted report with its index in the batch and its row. -/
structure BatchEntry (α ρ : Type) where
  idx : Nat
  report : α
  row : ρ
  deriving DecidableEq, Repr

/-- What a batch leads to: the accepted reports, and the indices of the rejected ones with their
reasons. -/
structure Outcome (κ α ρ : Type) where
  accepted : List (BatchEntry α ρ)
  rejected : List (Nat × κ)
  deriving DecidableEq, Repr

namespace Outcome

section
variable {κ α ρ : Type}

def rows (o : Outcome κ α ρ) : List ρ := o.accepted.map BatchEntry.row

def reports (o : Outcome κ α ρ) : List α := o.accepted.map BatchEntry.report

/-- The report with this index is accepted. -/
def Accepts (o : Outcome κ α ρ) (i : Nat) : Prop := ∃ a ∈ o.accepted, a.idx = i

/-- The report with this index is rejected with a reason. -/
def Rejects (o : Outcome κ α ρ) (i : Nat) : Prop := ∃ reason, (i, reason) ∈ o.rejected

end

end Outcome

section
variable {ε κ α ρ : Type} (judge : α → Verdict ε κ ρ)

/-- The judgements of the reports from an index on. -/
def collect : Nat → List α → Except ε (Outcome κ α ρ)
  | _, [] => .ok ⟨[], []⟩
  | i, rep :: reps =>
    match judge rep with
    | .raised e => .error e
    | .rejected reason => do
      let o ← collect (i + 1) reps
      return { o with rejected := (i, reason) :: o.rejected }
    | .accepted row => do
      let o ← collect (i + 1) reps
      return { o with accepted := ⟨i, rep, row⟩ :: o.accepted }

/-- The report if it is accepted. -/
def acceptance (p : α × Nat) : Option (BatchEntry α ρ) :=
  (judge p.1).row?.map fun row => ⟨p.2, p.1, row⟩

/-- The index and the reason if the report is rejected. -/
def rejection (p : α × Nat) : Option (Nat × κ) :=
  (judge p.1).reason?.map fun reason => (p.2, reason)

variable {judge} {i : Nat} {l : List α} {o : Outcome κ α ρ}

/-- The loop comes to its end when no judgement raises, and each report is then where its judgement
puts it. -/
theorem collect_eq_ok : collect judge i l = .ok o ↔
    (∀ rep ∈ l, (judge rep).Calm) ∧ o.accepted = (l.zipIdx i).filterMap (acceptance judge) ∧
      o.rejected = (l.zipIdx i).filterMap (rejection judge) := by
  induction l generalizing i o with
  | nil =>
    obtain ⟨accepted, rejected⟩ := o
    simp [collect, eq_comm]
  | cons rep reps ih =>
    rw [List.forall_mem_cons, List.zipIdx_cons, List.filterMap_cons, List.filterMap_cons, collect,
      acceptance, rejection]
    dsimp only
    cases hv : judge rep with
    | raised e => simp [Verdict.Calm]
    | rejected reason =>
      simp only [Verdict.calm_rejected, true_and]
      constructor
      · intro h
        obtain ⟨o', ho', hret⟩ := bind_eq_ok.1 h
        cases hret
        obtain ⟨hcalm, hacc, hrej⟩ := ih.1 ho'
        exact ⟨hcalm, hacc, congrArg _ hrej⟩
      · rintro ⟨hcalm, hacc, hrej⟩
        obtain ⟨accepted, rejected⟩ := o
        cases hrej
        exact bind_eq_ok.2 ⟨⟨accepted, (reps.zipIdx (i + 1)).filterMap (rejection judge)⟩,
          ih.2 ⟨hcalm, hacc, rfl⟩, rfl⟩
    | accepted row =>
      simp only [Verdict.calm_accepted, true_and]
      constructor
      · intro h
        obtain ⟨o', ho', hret⟩ := bind_eq_ok.1 h
        cases hret
        obtain ⟨hcalm, hacc, hrej⟩ := ih.1 ho'
        exact ⟨hcalm, congrArg _ hacc, hrej⟩
      · rintro ⟨hcalm, hacc, hrej⟩
        obtain ⟨accepted, rejected⟩ := o
        cases hacc
        exact bind_eq_ok.2 ⟨⟨_, rejected⟩, ih.2 ⟨hcalm, rfl, hrej⟩, rfl⟩

/-- The loop comes to its end when no judgement raises. -/
theorem exists_collect : (∃ o, collect judge i l = .ok o) ↔ ∀ rep ∈ l, (judge rep).Calm := by
  constructor
  · rintro ⟨o, ho⟩
    exact (collect_eq_ok.1 ho).1
  · exact fun h => ⟨⟨_, _⟩, collect_eq_ok.2 ⟨h, rfl, rfl⟩⟩

theorem accepts_iff {k : Nat} (h : collect judge 0 l = .ok o) :
    o.Accepts k ↔ ∃ rep, l[k]? = some rep ∧ ∃ row, judge rep = .accepted row := by
  rw [Outcome.Accepts, (collect_eq_ok.1 h).2.1]
  constructor
  · rintro ⟨a, ha, rfl⟩
    obtain ⟨⟨rep, j⟩, hmem, hacceptance⟩ := List.mem_filterMap.1 ha
    obtain ⟨row, hrow, rfl⟩ := Option.map_eq_some_iff.1 hacceptance
    exact ⟨rep, List.mk_mem_zipIdx_iff_getElem?.1 hmem, row, Verdict.row?_eq_some.1 hrow⟩
  · rintro ⟨rep, hrep, row, hrow⟩
    refine ⟨⟨k, rep, row⟩, List.mem_filterMap.2 ⟨(rep, k), ?_, ?_⟩, rfl⟩
    · exact List.mk_mem_zipIdx_iff_getElem?.2 hrep
    · exact Option.map_eq_some_iff.2 ⟨row, Verdict.row?_eq_some.2 hrow, rfl⟩

theorem rejects_iff {k : Nat} (h : collect judge 0 l = .ok o) :
    o.Rejects k ↔ ∃ rep, l[k]? = some rep ∧ ∃ reason, judge rep = .rejected reason := by
  rw [Outcome.Rejects, (collect_eq_ok.1 h).2.2]
  constructor
  · rintro ⟨reason, hrejected⟩
    obtain ⟨⟨rep, j⟩, hmem, hrejection⟩ := List.mem_filterMap.1 hrejected
    obtain ⟨reason', hreason, heq⟩ := Option.map_eq_some_iff.1 hrejection
    obtain ⟨rfl, rfl⟩ := Prod.mk.inj heq
    exact ⟨rep, List.mk_mem_zipIdx_iff_getElem?.1 hmem, reason', Verdict.reason?_eq_some.1 hreason⟩
  · rintro ⟨rep, hrep, reason, hreason⟩
    refine ⟨reason, List.mem_filterMap.2 ⟨(rep, k), ?_, ?_⟩⟩
    · exact List.mk_mem_zipIdx_iff_getElem?.2 hrep
    · exact Option.map_eq_some_iff.2 ⟨reason, Verdict.reason?_eq_some.2 hreason, rfl⟩

/-- The rows are those of the accepted reports, in the order of the batch. -/
theorem rows_of_collect (h : collect judge i l = .ok o) :
    o.rows = l.filterMap fun rep => (judge rep).row? := by
  conv_rhs => rw [← List.zipIdx_map_fst i l, List.filterMap_map]
  rw [Outcome.rows, (collect_eq_ok.1 h).2.1, List.map_filterMap]
  refine List.filterMap_congr fun p _ => ?_
  rw [acceptance, Option.map_map]
  exact Option.map_id'

theorem reports_of_collect (h : collect judge i l = .ok o) :
    o.reports = l.filter fun rep => (judge rep).row?.isSome := by
  conv_rhs => rw [← List.zipIdx_map_fst i l, List.filter_map, ← List.filterMap_eq_filter,
    List.map_filterMap]
  rw [Outcome.reports, (collect_eq_ok.1 h).2.1, List.map_filterMap]
  refine List.filterMap_congr fun p _ => ?_
  rw [acceptance, Option.map_map, Option.guard_eq_ite]
  cases h : (judge p.1).row? <;> simp [h]

end

/-! ## The intake -/

/-- How many reports of a batch are judged, how one is judged, and which rows the table takes; the
`refusal` is raised when it does not take them all. -/
structure Intake (ε κ α ρ : Type) where
  cap : Nat
  judge : α → Verdict ε κ ρ
  takes : ρ → Bool
  refusal : ε

namespace Intake

section
variable {ε κ α ρ : Type} (t : Intake ε κ α ρ)

/-- The intake of a batch. -/
def run (batch : List α) : Except ε (Outcome κ α ρ) := do
  let o ← collect t.judge 0 (batch.take t.cap)
  if o.rows.all t.takes then return o else throw t.refusal

/-- The report does not raise, nor does the table refuse its row. -/
structure Harmless (rep : α) : Prop where
  calm : (t.judge rep).Calm
  taken : ∀ row, t.judge rep = .accepted row → t.takes row = true

/-- The batch is handled report by report: nothing is raised, each report is either accepted or
rejected with a reason, and the accepted ones lead to the same rows without the others. -/
def Isolated (batch : List α) : Prop :=
  ∃ o, t.run batch = .ok o ∧
    (∀ i < batch.length, Xor (o.Accepts i) (o.Rejects i)) ∧
    ∃ o', t.run o.reports = .ok o' ∧ o'.rows = o.rows ∧ o'.rejected = []

variable {t}

theorem run_eq_ok {batch : List α} {o : Outcome κ α ρ} : t.run batch = .ok o ↔
    collect t.judge 0 (batch.take t.cap) = .ok o ∧ ∀ row ∈ o.rows, t.takes row = true := by
  unfold run
  rw [bind_eq_ok]
  constructor
  · rintro ⟨o', ho', hret⟩
    split at hret
    · next htakes =>
      cases hret
      exact ⟨ho', List.all_eq_true.1 htakes⟩
    · cases hret
  · rintro ⟨ho, htakes⟩
    exact ⟨o, ho, if_pos (List.all_eq_true.2 htakes)⟩

/-- The rows that a batch leads to are taken when each of them is. -/
theorem exists_run {batch : List α} : (∃ o, t.run batch = .ok o) ↔
    ∀ rep ∈ batch.take t.cap, t.Harmless rep := by
  constructor
  · rintro ⟨o, ho⟩ rep hrep
    obtain ⟨hcollect, htakes⟩ := run_eq_ok.1 ho
    refine ⟨(collect_eq_ok.1 hcollect).1 rep hrep, fun row hrow => htakes row ?_⟩
    rw [rows_of_collect hcollect]
    exact List.mem_filterMap.2 ⟨rep, hrep, Verdict.row?_eq_some.2 hrow⟩
  · intro h
    obtain ⟨o, ho⟩ := exists_collect.2 fun rep hrep => (h rep hrep).calm
    refine ⟨o, run_eq_ok.2 ⟨ho, fun row hrow => ?_⟩⟩
    rw [rows_of_collect ho] at hrow
    obtain ⟨rep, hrep, hrow⟩ := List.mem_filterMap.1 hrow
    exact (h rep hrep).taken row (Verdict.row?_eq_some.1 hrow)

/-- The rows are those of the accepted reports. -/
theorem mem_rows_of_run {batch : List α} {o : Outcome κ α ρ} {row : ρ} (h : t.run batch = .ok o) :
    row ∈ o.rows ↔ ∃ rep ∈ batch.take t.cap, t.judge rep = .accepted row := by
  rw [rows_of_collect (run_eq_ok.1 h).1, List.mem_filterMap]
  exact exists_congr fun rep => and_congr_right fun _ => Verdict.row?_eq_some

/-- Each report that is judged is either accepted or rejected. -/
theorem accounted_of_run {batch : List α} {o : Outcome κ α ρ} (h : t.run batch = .ok o) {i : Nat}
    (hi : i < batch.length) : Xor (o.Accepts i) (o.Rejects i) ↔ i < t.cap := by
  obtain ⟨hcollect, -⟩ := run_eq_ok.1 h
  rw [accepts_iff hcollect, rejects_iff hcollect, List.getElem?_take]
  by_cases hcap : i < t.cap
  · simp only [hcap, if_true, iff_true, List.getElem?_eq_getElem hi, Option.some.injEq,
      exists_eq_left']
    have hmem : batch[i] ∈ batch.take t.cap :=
      List.mem_take_iff_getElem.2 ⟨i, by omega, rfl⟩
    have hcalm := (collect_eq_ok.1 hcollect).1 _ hmem
    cases hv : t.judge batch[i] with
    | raised e => exact absurd hv (hcalm e)
    | rejected reason => exact .inr ⟨⟨reason, rfl⟩, by simp⟩
    | accepted row => exact .inl ⟨⟨row, rfl⟩, by simp⟩
  · simp [hcap, Xor]

/-- The accepted reports of a batch lead to its rows on their own. -/
theorem run_reports {batch : List α} {o : Outcome κ α ρ} (h : t.run batch = .ok o) :
    ∃ o', t.run o.reports = .ok o' ∧ o'.rows = o.rows ∧ o'.rejected = [] := by
  obtain ⟨hcollect, htakes⟩ := run_eq_ok.1 h
  have hreports := reports_of_collect hcollect
  have hcap : o.reports.take t.cap = o.reports := by
    refine List.take_of_length_le ?_
    rw [hreports]
    exact Nat.le_trans (List.length_filter_le _ _) (List.length_take_le _ _)
  have haccepted : ∀ rep ∈ o.reports, ∃ row, t.judge rep = .accepted row := by
    intro rep hrep
    rw [hreports] at hrep
    obtain ⟨row, hrow⟩ := Option.isSome_iff_exists.1 (List.mem_filter.1 hrep).2
    exact ⟨row, Verdict.row?_eq_some.1 hrow⟩
  obtain ⟨o', ho'⟩ : ∃ o', collect t.judge 0 o.reports = .ok o' := by
    refine exists_collect.2 fun rep hrep => ?_
    obtain ⟨row, hrow⟩ := haccepted rep hrep
    rw [hrow]
    exact Verdict.calm_accepted
  have hrows : o'.rows = o.rows := by
    rw [rows_of_collect ho', rows_of_collect hcollect, hreports, List.filterMap_filter]
    refine List.filterMap_congr fun rep _ => ?_
    cases (t.judge rep).row? <;> rfl
  refine ⟨o', run_eq_ok.2 ⟨by rw [hcap, ho'], hrows ▸ htakes⟩, hrows, ?_⟩
  rw [(collect_eq_ok.1 ho').2.2, List.filterMap_eq_nil_iff]
  intro p hp
  obtain ⟨row, hrow⟩ := haccepted p.1 (List.fst_mem_of_mem_zipIdx hp)
  rw [rejection, hrow]
  rfl

/-- A batch is handled report by report when it is not too long and each report is harmless. -/
theorem isolated_iff {batch : List α} :
    t.Isolated batch ↔ batch.length ≤ t.cap ∧ ∀ rep ∈ batch, t.Harmless rep := by
  constructor
  · rintro ⟨o, ho, hall, -⟩
    have hcap : batch.length ≤ t.cap := by
      by_contra hlong
      exact absurd ((accounted_of_run ho (by omega)).1 (hall t.cap (by omega))) (Nat.lt_irrefl _)
    refine ⟨hcap, ?_⟩
    rw [← List.take_of_length_le hcap]
    exact exists_run.1 ⟨o, ho⟩
  · rintro ⟨hcap, h⟩
    rw [← List.take_of_length_le hcap] at h
    obtain ⟨o, ho⟩ := exists_run.2 h
    exact ⟨o, ho, fun i hi => (accounted_of_run ho hi).2 (by omega), run_reports ho⟩

end

end Intake

end Lib
