import AeroXProtect.Lib.Clock

/-!
# Spacing by keys with a time to live

Programs keep something from happening too often by a key that lives for a while: what finds the key
alive is passed over, and what passes writes it. `Spaced` ties the keys to a log of what has passed,
newest first: passes with the same key are apart by the time to live of the earlier one, and the key
of each pass lives at least as long. `Spaced.pass` is the step rule, `Spaced.gate` the rule for the
one atomic command that tests and writes. Where programs test and write with two commands, passes
need not be apart: `LastWrites` ties the keys to a log of what was written, and what finds a key not
alive finds its last write run out (`LastWrites.runOut`).
-/

namespace Lib

/-- A pass: its key, when it was, and for how long its key was to live. -/
structure Pass (κ : Type) where
  key : κ
  time : Int
  ttl : Int
  deriving DecidableEq, Repr

/-- Passes with the same key are apart, and their keys live as long as they were to. -/
structure Spaced {κ : Type} (keys : Expiring κ) (log : List (Pass κ)) : Prop where
  apart : log.Pairwise fun later earlier => later.key = earlier.key →
    earlier.time + seconds earlier.ttl ≤ later.time
  held : ∀ x ∈ log, ∃ e, keys.expiry x.key = some e ∧ x.time + seconds x.ttl ≤ e

section
variable {κ : Type} {keys : Expiring κ} {log : List (Pass κ)} {now ttl : Int} {k : κ}

theorem Spaced.nil : Spaced keys [] :=
  ⟨.nil, fun _ h => absurd h List.not_mem_nil⟩

/-- A key that is not alive has expired. -/
theorem Expiring.lt_of_live_eq_false {e : Int} (h : keys.live now k = false)
    (he : keys.expiry k = some e) : e < now := by
  unfold live at h
  rw [he] at h
  exact Int.not_le.1 (of_decide_eq_false h)

variable [DecidableEq κ]

/-- What finds its key not alive and writes it is apart from all passes before. -/
theorem Spaced.pass (h : Spaced keys log) (ttl : Int) (hfree : keys.live now k = false)
    (httl : 0 ≤ ttl) :
    Spaced (keys.setex now k ttl) (⟨k, now, ttl⟩ :: log) where
  apart := by
    refine List.pairwise_cons.2 ⟨fun x hx hkey => ?_, h.apart⟩
    obtain ⟨e, he, hle⟩ := h.held x hx
    rw [← show k = x.key from hkey] at he
    exact Int.le_of_lt (Int.lt_of_le_of_lt hle (Expiring.lt_of_live_eq_false hfree he))
  held x hx := by
    rcases List.mem_cons.1 hx with rfl | hx
    · exact ⟨_, Expiring.expiry_setex_self _ _ _ _, Int.le_refl _⟩
    · obtain ⟨e, he, hle⟩ := h.held x hx
      by_cases hkey : x.key = k
      · -- the new expiry is later than the one that has passed
        subst hkey
        refine ⟨_, Expiring.expiry_setex_self _ _ _ _, ?_⟩
        have hpast := Expiring.lt_of_live_eq_false hfree he
        have hpos : 0 ≤ seconds ttl := by
          unfold seconds
          omega
        omega
      · exact ⟨e, by rw [Expiring.expiry_setex_of_ne hkey]; exact he, hle⟩

/-- `SET k 1 NX EX ttl`: whether the key was not alive, and the keys after it. -/
def Expiring.setNx (keys : Expiring κ) (now : Int) (k : κ) (ttl : Int) : Expiring κ × Bool :=
  if keys.live now k then (keys, false) else (keys.setex now k ttl, true)

/-- A command that tests and writes at once lets through what is apart from all passes before. -/
theorem Spaced.gate (h : Spaced keys log) (httl : 0 ≤ ttl) :
    Spaced (keys.setNx now k ttl).1
      (if (keys.setNx now k ttl).2 then ⟨k, now, ttl⟩ :: log else log) := by
  unfold Expiring.setNx
  split
  · exact h
  · next hfree => exact h.pass ttl (Bool.eq_false_iff.2 hfree) httl

/-- Each key that was written lives as its last write says. -/
def LastWrites (keys : Expiring κ) (log : List (Pass κ)) : Prop :=
  ∀ w k, log.find? (fun x => decide (x.key = k)) = some w →
    keys.expiry k = some (w.time + seconds w.ttl)

/-- The last write of a key has run out. -/
def RunOut (log : List (Pass κ)) (now : Int) (k : κ) : Prop :=
  ∀ w, log.find? (fun x => decide (x.key = k)) = some w → w.time + seconds w.ttl < now

theorem LastWrites.nil : LastWrites keys [] := fun _ _ h => absurd h (by simp)

theorem LastWrites.setex (h : LastWrites keys log) (now : Int) (k : κ) (ttl : Int) :
    LastWrites (keys.setex now k ttl) (⟨k, now, ttl⟩ :: log) := by
  intro w k' hfind
  by_cases hkey : k' = k
  · subst hkey
    rw [List.find?_cons_of_pos (by simp)] at hfind
    obtain rfl := Option.some_inj.1 hfind
    exact Expiring.expiry_setex_self _ _ _ _
  · rw [List.find?_cons_of_neg (by simpa using Ne.symm hkey)] at hfind
    rw [Expiring.expiry_setex_of_ne hkey]
    exact h w k' hfind

/-- A key that is not alive was last written too long ago. -/
theorem LastWrites.runOut (h : LastWrites keys log) (hfree : keys.live now k = false) :
    RunOut log now k :=
  fun w hfind => Expiring.lt_of_live_eq_false hfree (h w k hfind)

end

end Lib
