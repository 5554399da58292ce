import AeroXProtect.Lib.Clock

/-!
# Locks with a time to live

The keys of a cache server that hold a value until they expire, as a program uses them for locks:
the value names the owner. `Locks.setNx` takes a lock that is not held, `Locks.set` overwrites it,
`Locks.expire` gives the holder more time, whoever that is, and `Locks.del` removes it, whoever
holds it. Each is one atomic command. An expired entry stays in `entry` until it is overwritten, so
that what was there can be told apart from what is held (`holder`).
-/

namespace Lib

/-- Keys with an owner and the instant the lock expires at. -/
structure Locks (κ ω : Type) where
  entry : κ → Option (ω × Int)

namespace Locks

section
variable {κ ω : Type}

instance : EmptyCollection (Locks κ ω) := ⟨⟨fun _ => none⟩⟩

/-- `GET k`: the owner, while the lock has not expired. -/
def holder (m : Locks κ ω) (now : Int) (k : κ) : Option ω :=
  ((m.entry k).filter fun x => now ≤ x.2).map Prod.fst

/-- A lock is held exactly while its entry has not expired. -/
theorem holder_eq_some_iff {m : Locks κ ω} {now : Int} {k : κ} {o : ω} :
    m.holder now k = some o ↔ ∃ e, m.entry k = some (o, e) ∧ now ≤ e := by
  unfold holder
  rw [Option.map_eq_some_iff]
  constructor
  · rintro ⟨x, hx, rfl⟩
    obtain ⟨hentry, hlt⟩ := Option.filter_eq_some_iff.1 hx
    exact ⟨x.2, hentry, by simpa using hlt⟩
  · rintro ⟨e, hentry, hlt⟩
    exact ⟨(o, e), Option.filter_eq_some_iff.2 ⟨hentry, by simpa using hlt⟩, rfl⟩

/-- The entry of a lock that is free has expired. -/
theorem lt_of_holder_eq_none {m : Locks κ ω} {now e : Int} {k : κ} {o : ω}
    (h : m.holder now k = none) (he : m.entry k = some (o, e)) : e < now := by
  by_contra hlt
  have hheld := holder_eq_some_iff.2 ⟨e, he, Int.not_lt.1 hlt⟩
  rw [h] at hheld
  cases hheld

section
variable [DecidableEq κ]

/-- `SET k o EX ttl`. -/
def set (m : Locks κ ω) (now : Int) (k : κ) (o : ω) (ttl : Int) : Locks κ ω :=
  ⟨fun k' => if k' = k then some (o, now + seconds ttl) else m.entry k'⟩

/-- `SET k o NX EX ttl`: whether the lock was free, and the keys after it. -/
def setNx (m : Locks κ ω) (now : Int) (k : κ) (o : ω) (ttl : Int) : Locks κ ω × Bool :=
  if (m.holder now k).isSome then (m, false) else (m.set now k o ttl, true)

/-- `EXPIRE k ttl`: nothing when the key is gone. -/
def expire (m : Locks κ ω) (now : Int) (k : κ) (ttl : Int) : Locks κ ω :=
  match m.holder now k with
  | none => m
  | some o => m.set now k o ttl

/-- `DEL k`. -/
def del (m : Locks κ ω) (k : κ) : Locks κ ω := ⟨fun k' => if k' = k then none else m.entry k'⟩

variable {m : Locks κ ω} {now ttl : Int} {k k' : κ} {o : ω}

@[simp] theorem entry_set : (m.set now k o ttl).entry k' =
    if k' = k then some (o, now + seconds ttl) else m.entry k' := rfl

@[simp] theorem entry_del : (m.del k).entry k' = if k' = k then none else m.entry k' := rfl

/-- Taking a lock that is held fails. -/
theorem setNx_of_some (h : m.holder now k ≠ none) : m.setNx now k o ttl = (m, false) :=
  if_pos (Option.isSome_iff_ne_none.2 h)

/-- Taking a lock that is free writes it. -/
theorem setNx_of_none (h : m.holder now k = none) :
    m.setNx now k o ttl = (m.set now k o ttl, true) :=
  if_neg (by simp [h])

/-- More time for a lock that is held. -/
theorem expire_of_holder (h : m.holder now k = some o) :
    m.expire now k ttl = m.set now k o ttl := by
  unfold expire
  rw [h]

end

end

end Locks

end Lib
