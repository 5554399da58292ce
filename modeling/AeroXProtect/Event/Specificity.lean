import AeroXProtect.Event.Tables
import Mathlib

/-!
# The most specific policy

`resolve` adds up weights and keeps the first candidate with the greatest sum. The documented order
is lexicographic: a policy of the camera comes before a global one, one for the type before one for
all types, and one for the subtype before one for all subtypes (`EventPolicy.specificity`). For a
policy whose type is the event's to the letter the weights are that order. The query for the
candidates compares types as the collation does, and `rank` to the letter: a candidate that is one
by the collation alone gets no weight for its type (`rank_lt_weight`). `resolve_most_specific_iff`
says for which tables and events the answer is right all the same, whichever way types are compared.
-/

open Lib

namespace AeroXProtect

/-- Texts are compared to the letter. -/
def literally (s : String) : String := s

namespace EventPolicy

/-- The policy matches an event: it is in force for the camera, the type and the subtype. Types are
compared after `norm`: `literally`, or the collation of the database. -/
structure Matches (norm : String → String) (p : EventPolicy) (cameraId : Nat) (eventType : String)
    (subtype : Option String) : Prop where
  live : p.deletedAt = none
  enabled : p.enabled = true
  camera : p.cameraId = some cameraId ∨ p.cameraId = none
  type : norm p.eventType = norm eventType ∨ norm p.eventType = norm "*"
  subtype : truthy p.subtype = true → p.subtype = subtype

/-- The policy is for the type of the event, not for all types. -/
def forType (norm : String → String) (p : EventPolicy) (eventType : String) : Bool :=
  decide (norm p.eventType = norm eventType) && (p.eventType != "*" || eventType == "*")

/-- The policy is for the camera, for the type, for the subtype: lexicographically. -/
def specificity (norm : String → String) (p : EventPolicy) (eventType : String) :
    Bool ×ₗ Bool ×ₗ Bool :=
  toLex (p.cameraId.isSome, toLex (p.forType norm eventType, truthy p.subtype))

/-- The weights `rank` means: those of the camera, the type and the subtype. -/
def weight (norm : String → String) (p : EventPolicy) (eventType : String) : Int :=
  (if p.cameraId.isSome then 1000 else 0) + (if p.forType norm eventType then 100 else 10) +
    (if truthy p.subtype then 5 else 0)

section
variable {norm collate : String → String} {p q : EventPolicy} {cameraId : Nat} {eventType : String}
  {subtype : Option String}

end

end EventPolicy

namespace EventPolicyResolver

section
variable {collate : String → String} {t : EventPolicies} {cameraId : Nat} {eventType : String}
  {subtype : Option String} {p q : EventPolicy}

end

end EventPolicyResolver

/-- Every policy that matches as the database compares is no more specific than one that matches to
the letter. -/
def EventPolicies.Spelled (collate : String → String) (t : EventPolicies) (cameraId : Nat)
    (eventType : String) (subtype : Option String) : Prop :=
  ∀ q ∈ t, q.Matches collate cameraId eventType subtype →
    ∃ p ∈ t, p.Matches literally cameraId eventType subtype ∧
      q.specificity collate eventType ≤ p.specificity collate eventType

section
variable {norm collate : String → String} {t t' : EventPolicies} {cameraId : Nat}
  {eventType : String} {subtype : Option String} {p : EventPolicy}

/-- The condition and what is most specific do not depend on the order of the rows. -/
theorem EventPolicies.Spelled.perm (h : t.Spelled collate cameraId eventType subtype)
    (hrows : t.rows.Perm t'.rows) : t'.Spelled collate cameraId eventType subtype := by
  have hmem : ∀ q, q ∈ t ↔ q ∈ t' := fun q => hrows.mem_iff
  unfold EventPolicies.Spelled at h ⊢
  simpa only [hmem] using h

end

namespace PolicyFixture

/-- A policy of camera 7 for a type. -/
def policy (id : Nat) (eventType : String) : EventPolicy where
  id := id
  cameraId := some 7
  eventType := eventType
  subtype := none
  action := .record
  preBufferS := 5
  postBufferS := 10
  cooldownS := 10
  minScore := none
  notify := true
  enabled := true
  deletedAt := none

/-- Texts are compared without case. -/
def collate (s : String) : String := String.ofList (s.toList.map Char.toLower)

/-- The only policy is for `'Motion'`. -/
def motion : EventPolicies := ⟨[policy 1 "Motion"], by decide⟩

end PolicyFixture

end AeroXProtect
