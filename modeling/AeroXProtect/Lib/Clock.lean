import Mathlib.Tactic.Common

/-!
# Instants and keys with a time to live

An instant is an `Int`, the number of microseconds since the Unix epoch, the resolution of the
clock the programs read. `Expiring` is a set of keys each of which lives until its own expiry: the
keys of a cache server that were written with a time to live. `Timed` are such keys with a value,
`Counters` are keys that count. A key is still there at the very instant it expires at: the server
drops it once its clock is past that instant.
-/

namespace Lib

/-- A number of seconds, as a difference of instants. -/
def seconds (n : Int) : Int := n * 1000000

/-- A number of days, as a difference of instants. -/
def days (n : Int) : Int := seconds (n * 86400)

/-- `timedelta.total_seconds()`, exactly. -/
def totalSeconds (d : Int) : Rat := d / 1000000

/-- The whole seconds of an instant: `int(dt.timestamp())` for instants after the epoch. -/
def epochSeconds (t : Int) : Int := t / 1000000

/-- An instant is not before the second it lies in. -/
theorem seconds_epochSeconds_le (t : Int) : seconds (epochSeconds t) ≤ t := by
  unfold seconds epochSeconds; omega

/-- Keys with the instant each of them expires at. -/
structure Expiring (κ : Type) where
  expiry : κ → Option Int

namespace Expiring

variable {κ : Type}

instance : EmptyCollection (Expiring κ) := ⟨⟨fun _ => none⟩⟩

/-- `EXISTS k`: the key was written and has not expired at `now`. -/
def live (m : Expiring κ) (now : Int) (k : κ) : Bool :=
  match m.expiry k with
  | some e => decide (now ≤ e)
  | none => false

/-- `SETEX k ttl`: the key lives for `ttl` seconds from `now` on. -/
def setex [DecidableEq κ] (m : Expiring κ) (now : Int) (k : κ) (ttl : Int) : Expiring κ :=
  ⟨fun k' => if k' = k then some (now + seconds ttl) else m.expiry k'⟩

@[simp] theorem expiry_setex_self [DecidableEq κ] (m : Expiring κ) (now : Int) (k : κ)
    (ttl : Int) : (m.setex now k ttl).expiry k = some (now + seconds ttl) := by
  simp [setex]

/-- `DEL k`. -/
def del [DecidableEq κ] (m : Expiring κ) (k : κ) : Expiring κ :=
  ⟨fun k' => if k' = k then none else m.expiry k'⟩

/-- Writing one key leaves the others alone. -/
theorem expiry_setex_of_ne [DecidableEq κ] {m : Expiring κ} {now : Int} {k k' : κ} {ttl : Int}
    (h : k' ≠ k) : (m.setex now k ttl).expiry k' = m.expiry k' := by
  simp [setex, h]

end Expiring

/-- Keys with a value, each with the instant it expires at. -/
structure Timed (κ β : Type) where
  cell : κ → Option (β × Int)

namespace Timed

variable {κ β : Type}

instance : EmptyCollection (Timed κ β) := ⟨⟨fun _ => none⟩⟩

/-- What a cell holds at `now`. -/
def valueAt (now : Int) : Option (β × Int) → Option β
  | some (v, e) => if now ≤ e then some v else none
  | none => none

@[simp] theorem valueAt_none (now : Int) : valueAt now (none : Option (β × Int)) = none := rfl

theorem valueAt_some {now e : Int} {v : β} :
    valueAt now (some (v, e)) = if now ≤ e then some v else none := rfl

/-- `GET k` -/
def get (m : Timed κ β) (now : Int) (k : κ) : Option β := valueAt now (m.cell k)

/-- `SETEX k ttl v` -/
def setex [DecidableEq κ] (m : Timed κ β) (now : Int) (k : κ) (ttl : Int) (v : β) : Timed κ β :=
  ⟨fun k' => if k' = k then some (v, now + seconds ttl) else m.cell k'⟩

/-- `DEL k` -/
def del [DecidableEq κ] (m : Timed κ β) (k : κ) : Timed κ β :=
  ⟨fun k' => if k' = k then none else m.cell k'⟩

@[simp] theorem cell_setex [DecidableEq κ] (m : Timed κ β) (now : Int) (k k' : κ) (ttl : Int)
    (v : β) : (m.setex now k ttl v).cell k' =
      if k' = k then some (v, now + seconds ttl) else m.cell k' := rfl

@[simp] theorem cell_del [DecidableEq κ] (m : Timed κ β) (k k' : κ) :
    (m.del k).cell k' = if k' = k then none else m.cell k' := rfl

end Timed

/-- Counters, each with the instant it expires at, or without one. -/
structure Counters (κ : Type) where
  cell : κ → Option (Nat × Option Int)

namespace Counters

variable {κ : Type} [DecidableEq κ]

instance : EmptyCollection (Counters κ) := ⟨⟨fun _ => none⟩⟩

/-- The value of a counter; an expired one reads as zero. -/
def value (m : Counters κ) (now : Int) (k : κ) : Nat :=
  match m.cell k with
  | some (n, some e) => if now ≤ e then n else 0
  | some (n, none) => n
  | none => 0

/-- `INCR k`: count one, keeping the expiry of a counter that lives. Answers the new value. -/
def incr (m : Counters κ) (now : Int) (k : κ) : Counters κ × Nat :=
  let n := m.value now k + 1
  let e := if n = 1 then none else (m.cell k).bind Prod.snd
  (⟨fun k' => if k' = k then some (n, e) else m.cell k'⟩, n)

/-- `EXPIRE k ttl`. -/
def expire (m : Counters κ) (now : Int) (k : κ) (ttl : Int) : Counters κ :=
  ⟨fun k' => if k' = k then (m.cell k).map fun c => (c.1, some (now + seconds ttl))
    else m.cell k'⟩

section
variable {α : Type} {m : Counters α} {now : Int} {k : α}

theorem value_of_none (h : m.cell k = none) : m.value now k = 0 := by
  simp only [value, h]

theorem value_of_lasting {n : Nat} (h : m.cell k = some (n, none)) : m.value now k = n := by
  simp only [value, h]

theorem value_of_timed {n : Nat} {e : Int} (h : m.cell k = some (n, some e)) :
    m.value now k = if now ≤ e then n else 0 := by
  simp only [value, h]

end

section
variable {m : Counters κ} {now : Int} {k : κ}

theorem incr_snd : (m.incr now k).2 = m.value now k + 1 := rfl

theorem cell_incr_self : (m.incr now k).1.cell k = some (m.value now k + 1,
    if m.value now k = 0 then none else (m.cell k).bind Prod.snd) := by
  simp [incr]

theorem cell_incr_of_ne {k' : κ} (h : k' ≠ k) : (m.incr now k).1.cell k' = m.cell k' :=
  if_neg h

theorem cell_expire_self {ttl : Int} : (m.expire now k ttl).cell k =
    (m.cell k).map fun c => (c.1, some (now + seconds ttl)) :=
  if_pos rfl

theorem cell_expire_of_ne {ttl : Int} {k' : κ} (h : k' ≠ k) :
    (m.expire now k ttl).cell k' = m.cell k' :=
  if_neg h

end

end Counters

end Lib
