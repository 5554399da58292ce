import AeroXProtect.Recorder.Supervisor
import AeroXProtect.Event.Tables

/-!
# Dual recording

`_record_stream` and `_sub_stream` are two searches over the streams of a camera. The later
alternatives of `_sub_stream` pass the recorded stream over, the two that go by a role do not. So
the second recorder gets a stream of its own exactly when the first stream with the role that is
asked for is not the one that is recorded anyway (`dual_stream_apart_iff`).
-/

open Lib

namespace AeroXProtect

/-- A stream of a camera that can be recorded twice. -/
structure DualStream extends RecordStream where
  isDefaultLive : Bool
  deriving DecidableEq, Repr

/-- A camera with its choice of a second stream. -/
structure DualCamera where
  dualRecordStream : Option String
  streams : Table fun x : DualStream => x.id

namespace DualCamera

variable (cam : DualCamera)

/-- Source: `_record_stream` (`worker/recorder/supervisor.py:296`), as `recordStream`. -/
def mainStream : Option RecordStream :=
  recordStream (cam.streams.rows.map DualStream.toRecordStream)

/-- Source: `_sub_stream` (`worker/recorder/supervisor.py:325`). -/
def subStream : Option DualStream :=
  let streams := cam.streams.rows
  if streams.length < 2 then none
  else
    let mainId := cam.mainStream.map RecordStream.id
    let picked :=
      if truthy cam.dualRecordStream then
        streams.find? fun x => decide (some x.role = cam.dualRecordStream)
      else none
    picked.or
      (((streams.find? fun x => decide (x.role = "sub")).or
        (streams.find? fun x => x.isDefaultLive && decide (some x.id ≠ mainId))).or
          (streams.find? fun x => decide (some x.id ≠ mainId)))

/-- The role the search starts with: the chosen one if a stream has it, else `sub`. -/
def askedRole : String :=
  match cam.dualRecordStream with
  | none => "sub"
  | some chosen =>
    if chosen ≠ "" ∧ ∃ x ∈ cam.streams, x.role = chosen then chosen else "sub"

end DualCamera

/-- `x` is the first row with `p`. -/
def FirstWith {α : Type} (p : α → Prop) (l : List α) (x : α) : Prop :=
  ∃ pre post, l = pre ++ x :: post ∧ p x ∧ ∀ y ∈ pre, ¬ p y

/-- The stream is the one to record: the first default-full one; without one the first `main`
stream; without either the first stream. -/
def DualCamera.Recorded (cam : DualCamera) (x : DualStream) : Prop :=
  FirstWith (fun y => y.isDefaultFull = true) cam.streams.rows x ∨
    (∀ y ∈ cam.streams, ¬ y.isDefaultFull = true) ∧
      (FirstWith (fun y => y.role = "main") cam.streams.rows x ∨
        (∀ y ∈ cam.streams, ¬ y.role = "main") ∧ FirstWith (fun _ => True) cam.streams.rows x)

/-- The first stream with the role that is asked for is not the one to record. -/
def DualCamera.Apart (cam : DualCamera) : Prop :=
  cam.streams.rows.length < 2 ∨
    ∀ x, FirstWith (fun y => y.role = cam.askedRole) cam.streams.rows x → ¬ cam.Recorded x

/-! ## The first stream -/

section
variable {α : Type} {p : α → Prop} [DecidablePred p] {l : List α} {x : α}

theorem find?_iff_firstWith : l.find? (fun y => decide (p y)) = some x ↔ FirstWith p l x := by
  rw [List.find?_eq_some_iff_append]
  unfold FirstWith
  simp only [Bool.not_eq_true', decide_eq_true_eq, decide_eq_false_iff_not]
  constructor
  · rintro ⟨hp, pre, post, rfl, hpre⟩
    exact ⟨pre, post, rfl, hp, hpre⟩
  · rintro ⟨pre, post, rfl, hp, hpre⟩
    exact ⟨hp, pre, post, rfl, hpre⟩

theorem head?_iff_firstWith : l.head? = some x ↔ FirstWith (fun _ => True) l x := by
  rw [← find?_iff_firstWith]
  cases l <;> simp

omit [DecidablePred p] in
theorem FirstWith.mem (hx : FirstWith p l x) : x ∈ l := by
  obtain ⟨pre, post, rfl, -, -⟩ := hx
  exact List.mem_append_right pre List.mem_cons_self

theorem FirstWith.unique {y : α} (hx : FirstWith p l x) (hy : FirstWith p l y) : x = y :=
  Option.some.inj ((find?_iff_firstWith.2 hx).symm.trans (find?_iff_firstWith.2 hy))

end

namespace DualCamera

variable {cam : DualCamera} {x : DualStream}

/-- The search of `_record_stream` among the streams with all their columns. -/
def found (cam : DualCamera) : Option DualStream :=
  (cam.streams.rows.find? fun x => decide (x.isDefaultFull = true)).or
    ((cam.streams.rows.find? fun x => decide (x.role = "main")).or cam.streams.rows.head?)

theorem mainStream_eq : cam.mainStream = cam.found.map DualStream.toRecordStream := by
  unfold mainStream recordStream found
  rw [← Option.or_assoc, Option.map_or, Option.map_or, List.find?_map, List.find?_map,
    List.head?_map]
  simp only [Bool.decide_eq_true]
  rfl

theorem found_eq_some : cam.found = some x ↔ cam.Recorded x := by
  unfold found Recorded
  rw [Option.or_eq_some_iff, Option.or_eq_some_iff, find?_iff_firstWith, find?_iff_firstWith,
    head?_iff_firstWith, List.find?_eq_none, List.find?_eq_none]
  simp only [decide_eq_true_eq, Table.mem_rows]

theorem mem_of_found (h : cam.found = some x) : x ∈ cam.streams := by
  unfold found at h
  rw [Option.or_eq_some_iff, Option.or_eq_some_iff] at h
  rcases h with h | ⟨-, h | ⟨-, h⟩⟩
  · exact List.mem_of_find?_eq_some h
  · exact List.mem_of_find?_eq_some h
  · exact List.mem_of_mem_head? h

/-- A stream is the recorded one when its id is. -/
theorem mainId_eq_some (hx : x ∈ cam.streams) :
    cam.mainStream.map RecordStream.id = some x.id ↔ cam.Recorded x := by
  rw [← found_eq_some, mainStream_eq, Option.map_map]
  constructor
  · intro h
    obtain ⟨y, hy, hid⟩ := Option.map_eq_some_iff.1 h
    rw [hy, Table.eq_of_key_eq (mem_of_found hy) hx hid]
  · intro h
    rw [h]
    rfl

/-! ## The second stream -/

/-- The alternatives that pass the recorded stream over. -/
def others (cam : DualCamera) : Option DualStream :=
  let mainId := cam.mainStream.map RecordStream.id
  (cam.streams.rows.find? fun x => x.isDefaultLive && decide (some x.id ≠ mainId)).or
    (cam.streams.rows.find? fun x => decide (some x.id ≠ mainId))

theorem subStream_eq (h : 2 ≤ cam.streams.rows.length) :
    cam.subStream =
      (cam.streams.rows.find? fun x => decide (x.role = cam.askedRole)).or cam.others := by
  unfold subStream others askedRole
  rw [if_neg (Nat.not_lt.2 h)]
  cases hchosen : cam.dualRecordStream with
  | none => simp [truthy, Option.or_assoc]
  | some chosen =>
    by_cases hempty : chosen = ""
    · simp [truthy, hempty, Option.or_assoc]
    · by_cases hrole : ∃ x ∈ cam.streams, x.role = chosen
      · obtain ⟨y, hy, hyrole⟩ := hrole
        obtain ⟨z, hz⟩ : ∃ z, cam.streams.rows.find? (fun x => decide (x.role = chosen)) = some z :=
          Option.isSome_iff_exists.1 (List.find?_isSome.2 ⟨y, hy, by simpa using hyrole⟩)
        have hask : ∃ x ∈ cam.streams, x.role = chosen := ⟨y, hy, hyrole⟩
        simp [truthy, hempty, hask, hz]
      · have hfind : cam.streams.rows.find? (fun x => decide (x.role = chosen)) = none := by
          refine List.find?_eq_none.2 fun y hy hyrole => hrole ⟨y, hy, ?_⟩
          simpa using hyrole
        simp [truthy, hempty, hrole, hfind, Option.or_assoc]

theorem id_ne_of_others (h : cam.others = some x) :
    cam.mainStream.map RecordStream.id ≠ some x.id := by
  unfold others at h
  rw [Option.or_eq_some_iff] at h
  rcases h with h | ⟨-, h⟩
  · have hp := List.find?_some h
    rw [Bool.and_eq_true, decide_eq_true_eq] at hp
    exact hp.2.symm
  · have hp := List.find?_some h
    rw [decide_eq_true_eq] at hp
    exact hp.symm

/-- Of two streams one is not the recorded one. -/
theorem others_isSome (h : 2 ≤ cam.streams.rows.length) : cam.others.isSome = true := by
  have hother : ∃ x ∈ cam.streams, some x.id ≠ cam.mainStream.map RecordStream.id := by
    rcases hrows : cam.streams.rows with _ | ⟨x, _ | ⟨y, l⟩⟩
    · simp [hrows] at h
    · simp [hrows] at h
    · have hnodup := cam.streams.nodup
      rw [hrows, List.map_cons, List.map_cons, List.nodup_cons] at hnodup
      have hne : x.id ≠ y.id := fun he => hnodup.1 (he ▸ List.mem_cons_self)
      have hx : x ∈ cam.streams := by
        rw [← Table.mem_rows, hrows]
        exact List.mem_cons_self
      have hy : y ∈ cam.streams := by
        rw [← Table.mem_rows, hrows]
        exact List.mem_cons_of_mem _ List.mem_cons_self
      by_cases hmain : some x.id = cam.mainStream.map RecordStream.id
      · exact ⟨y, hy, fun hmain' => hne (Option.some.inj (hmain.trans hmain'.symm))⟩
      · exact ⟨x, hx, hmain⟩
  obtain ⟨x, hx, hmain⟩ := hother
  unfold others
  rw [Option.isSome_or, Bool.or_eq_true]
  exact .inr (List.find?_isSome.2 ⟨x, hx, by simpa using hmain⟩)

/-- What the second recorder gets of two or more streams: the first with the role that is asked for,
else one that is not recorded. -/
theorem subStream_cases (h : 2 ≤ cam.streams.rows.length) :
    ∃ x, cam.subStream = some x ∧
      (FirstWith (fun y => y.role = cam.askedRole) cam.streams.rows x ∨
        (∀ y ∈ cam.streams, ¬ y.role = cam.askedRole) ∧
          cam.mainStream.map RecordStream.id ≠ some x.id) := by
  rw [subStream_eq h]
  cases hfind : cam.streams.rows.find? fun x => decide (x.role = cam.askedRole) with
  | some x => exact ⟨x, rfl, .inl (find?_iff_firstWith.1 hfind)⟩
  | none =>
    obtain ⟨x, hx⟩ := Option.isSome_iff_exists.1 (others_isSome h)
    refine ⟨x, hx, .inr ⟨fun y hy => ?_, id_ne_of_others hx⟩⟩
    simpa using List.find?_eq_none.1 hfind y hy

theorem subStream_eq_none (h : cam.streams.rows.length < 2) : cam.subStream = none := by
  unfold subStream
  rw [if_pos h]

end DualCamera

/-- The second recorder never gets the stream of the first one, and it gets one of two or more. -/
def DualCamera.RecordsTwo (cam : DualCamera) : Prop :=
  (∀ x ∈ cam.subStream, ∀ m ∈ cam.mainStream, x.id ≠ m.id) ∧
    (2 ≤ cam.streams.rows.length → cam.subStream.isSome = true)

/-- **Two streams.** A camera has two different streams recorded exactly when the first stream with
the role that is asked for is not the one to record, or when it has no two streams. -/
theorem dual_stream_apart_iff (cam : DualCamera) : cam.RecordsTwo ↔ cam.Apart := by
  unfold DualCamera.RecordsTwo DualCamera.Apart
  by_cases hlen : cam.streams.rows.length < 2
  · simp [DualCamera.subStream_eq_none hlen, hlen, Nat.not_le.2 hlen]
  · obtain ⟨x, hsub, hcases⟩ := DualCamera.subStream_cases (Nat.le_of_not_lt hlen)
    have hapart : (∀ m ∈ cam.mainStream, x.id ≠ m.id) ↔
        cam.mainStream.map RecordStream.id ≠ some x.id := by
      cases cam.mainStream with
      | none => simp
      | some m => simp [eq_comm]
    rw [hsub]
    simp only [Option.mem_some_iff, forall_eq', hlen, false_or, Option.isSome_some, implies_true,
      and_true]
    rw [hapart]
    rcases hcases with hfirst | ⟨hrole, hother⟩
    · rw [Ne, DualCamera.mainId_eq_some hfirst.mem]
      exact ⟨fun hmain y hy => hfirst.unique hy ▸ hmain, fun hall => hall x hfirst⟩
    · refine iff_of_true hother fun y hy => absurd ?_ (hrole y hy.mem)
      obtain ⟨pre, post, hrows, hyrole, -⟩ := hy
      exact hyrole

/-- A camera without a `main` stream: its `sub` stream is recorded twice, the other one never. -/
theorem dual_stream_same : ¬ DualCamera.RecordsTwo
    ⟨none, ⟨[⟨⟨1, "sub", false⟩, true⟩, ⟨⟨2, "third", false⟩, false⟩], by decide⟩⟩ := by
  rintro ⟨hdiffer, -⟩
  exact hdiffer ⟨⟨1, "sub", false⟩, true⟩ (by decide) ⟨1, "sub", false⟩ (by decide) rfl

end AeroXProtect
