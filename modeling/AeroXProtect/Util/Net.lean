import AeroXProtect.Lib.Address

/-!
# The host of a probe

Before a device is probed, its host is resolved and refused when the address is an internal one. The
check looks at the first address of the answer only, and at an address that is mapped into the newer
family as one of the newer family. `probe_host_iff` says for which hosts that is enough.
-/

open Lib

namespace AeroXProtect

/-- Why a host is unsafe. -/
inductive UnsafeHost
  | emptyHost
  | cannotResolve
  | disallowedAddress (a : Address)
  | blockedRange (a : Address)
  deriving DecidableEq, Repr

/-- An `UnsafeHostError`, or another exception. -/
inductive ProbeError
  | unsafeHost (why : UnsafeHost)
  | raised
  deriving DecidableEq, Repr

/-- `socket.getaddrinfo`: addresses, a `gaierror`, or another exception (a host that cannot be
encoded). -/
inductive AddrInfo
  | addresses (l : List Address)
  | gaierror
  | raises
  deriving DecidableEq, Repr

/-- Source: `_BLOCKED_NETWORKS` (`server/util/net.py:6`). -/
def blockedNetworks : List Network :=
  [⟨.v4 (127 <<< 24), 8⟩, ⟨.v6 1, 128⟩, ⟨.v4 (169 <<< 24 + 254 <<< 16), 16⟩,
    ⟨.v6 (0xfe80 <<< 112), 10⟩, ⟨.v4 0, 8⟩]

/-- Source: `resolve_host` (`server/util/net.py:19`); an answer without an address has no first
one. -/
def resolveHost (getaddrinfo : List Char → AddrInfo) (host : List Char) :
    Except ProbeError Address :=
  match Address.parse host with
  | some a => .ok a
  | none =>
    match getaddrinfo host with
    | .gaierror => .error (.unsafeHost .cannotResolve)
    | .raises | .addresses [] => .error .raised
    | .addresses (a :: _) => .ok a

/-- The check of the address. -/
def checkAddress (a : Address) : Except ProbeError Unit :=
  if a.isMulticast || a.isUnspecified then .error (.unsafeHost (.disallowedAddress a))
  else if blockedNetworks.any fun net => net.contains a then
    .error (.unsafeHost (.blockedRange a))
  else .ok ()

/-- Source: `validate_probe_host` (`server/util/net.py:31`). -/
def validateProbeHost (getaddrinfo : List Char → AddrInfo) (host : List Char) :
    Except ProbeError Unit := do
  if Lib.strip host = [] then throw (.unsafeHost .emptyHost)
  let addr ← resolveHost getaddrinfo (Lib.strip host)
  checkAddress addr

/-! ## Internal addresses -/

/-- Loopback, link-local, unspecified, `0.0.0.0/8` and multicast, in each family. -/
def internalBlocks : Address → Bool
  | .v4 b => decide (b.toNat / 2 ^ 24 = 127 ∨ b.toNat / 2 ^ 16 = 169 * 256 + 254 ∨
      b.toNat / 2 ^ 24 = 0 ∨ b.toNat / 2 ^ 28 = 0xe)
  | .v6 b => decide (b.toNat = 1 ∨ b.toNat / 2 ^ 118 = 0x3fa ∨ b.toNat = 0 ∨
      b.toNat / 2 ^ 120 = 0xff)

/-- A connection to the address stays on the host or its link, or goes to a group. -/
def Internal (a : Address) : Prop := internalBlocks a.unmapped = true

instance (a : Address) : Decidable (Internal a) := inferInstanceAs (Decidable (_ = true))

/-- The check takes the address for what a connection goes to: it is not mapped, or it is one of
those that are looked at as the mapped one. -/
def SeenThrough (a : Address) : Prop :=
  a.mapped = none ∨ a.isMulticast = true ∨ a.isUnspecified = true

/-- The addresses a client may connect to for the host. -/
def targets (getaddrinfo : List Char → AddrInfo) (host : List Char) : List Address :=
  match Address.parse host with
  | some a => [a]
  | none =>
    match getaddrinfo host with
    | .addresses l => l
    | .gaierror | .raises => []

/-- A host that passes has no internal address, and one that does not is unsafe. -/
structure ProbeSafe (getaddrinfo : List Char → AddrInfo) (host : List Char) : Prop where
  passes : validateProbeHost getaddrinfo host = .ok () →
    ∀ a ∈ targets getaddrinfo (Lib.strip host), ¬ Internal a
  refused : ∀ e, validateProbeHost getaddrinfo host = .error e → ∃ why, e = .unsafeHost why

/-- The first address is an internal one that the check sees through, or none is internal. -/
def FirstTells : List Address → Prop
  | [] => False
  | a :: rest => Internal a ∧ SeenThrough a ∨ ∀ b ∈ a :: rest, ¬ Internal b

/-- The host is empty or not resolved, or its first address tells. -/
def Guarded (getaddrinfo : List Char → AddrInfo) (host : List Char) : Prop :=
  host = [] ∨ (Address.parse host = none ∧ getaddrinfo host = .gaierror) ∨
    FirstTells (targets getaddrinfo host)

/-! ## What the check sees -/

section
variable {a : Address} {getaddrinfo : List Char → AddrInfo} {host : List Char}

/-- An address of the newer family stands for itself, or for one of the older family. -/
theorem unmapped_v6 (b : BitVec 128) :
    (Address.v6 b).mapped = none ∧ (Address.v6 b).unmapped = .v6 b ∨
      b.toNat / 2 ^ 32 = 0xffff ∧ ∃ m, (Address.v6 b).mapped = some m ∧
        (Address.v6 b).unmapped = .v4 m := by
  by_cases h : b.toNat / 2 ^ 32 = 0xffff
  · have hmap : (Address.v6 b).mapped = some (BitVec.ofNat 32 b.toNat) := if_pos h
    exact .inr ⟨h, _, hmap, by rw [Address.unmapped, hmap]; rfl⟩
  · have hmap : (Address.v6 b).mapped = none := if_neg h
    exact .inl ⟨hmap, by rw [Address.unmapped, hmap]; rfl⟩

theorem blocked_v4 (b : BitVec 32) : (blockedNetworks.any fun net => net.contains (.v4 b)) = true ↔
    b.toNat / 2 ^ 24 = 127 ∨ b.toNat / 2 ^ 16 = 169 * 256 + 254 ∨ b.toNat / 2 ^ 24 = 0 := by
  simp [blockedNetworks, Network.contains]

theorem blocked_v6 (b : BitVec 128) : (blockedNetworks.any fun net => net.contains (.v6 b)) = true ↔
    b.toNat = 1 ∨ b.toNat / 2 ^ 118 = 0x3fa := by
  simp [blockedNetworks, Network.contains]

/-- The check refuses the internal addresses that it sees through. -/
theorem checkAddress_eq_ok : checkAddress a = .ok () ↔ ¬ (Internal a ∧ SeenThrough a) := by
  have hok : checkAddress a = .ok () ↔ ¬ (a.isMulticast = true ∨ a.isUnspecified = true ∨
      (blockedNetworks.any fun net => net.contains a) = true) := by
    unfold checkAddress
    split
    · next h =>
      rw [Bool.or_eq_true] at h
      exact iff_of_false nofun fun hno => hno (h.imp_right .inl)
    · next h =>
      rw [Bool.or_eq_true] at h
      split
      · next hnet => exact iff_of_false nofun fun hno => hno (.inr (.inr hnet))
      · next hnet =>
        refine iff_of_true rfl ?_
        rintro (h' | h' | h')
        · exact h (.inl h')
        · exact h (.inr h')
        · exact hnet h'
  rw [hok, not_iff_not]
  cases a with
  | v4 b =>
    have hseen : SeenThrough (.v4 b) := .inl rfl
    have hmult : (Address.v4 b).isMulticast = true ↔ b.toNat / 2 ^ 28 = 0xe := decide_eq_true_iff
    have hunspec : (Address.v4 b).isUnspecified = true ↔ b.toNat = 0 :=
      decide_eq_true_iff.trans BitVec.toNat_eq
    have hint : Internal (.v4 b) ↔ b.toNat / 2 ^ 24 = 127 ∨
        b.toNat / 2 ^ 16 = 169 * 256 + 254 ∨ b.toNat / 2 ^ 24 = 0 ∨ b.toNat / 2 ^ 28 = 0xe :=
      decide_eq_true_iff
    rw [and_iff_left hseen, hmult, hunspec, blocked_v4, hint]
    omega
  | v6 b =>
    rw [blocked_v6]
    rcases unmapped_v6 b with ⟨hmap, hun⟩ | ⟨hmapped, m, hmap, hun⟩
    · have hseen : SeenThrough (.v6 b) := .inl hmap
      have hmult : (Address.v6 b).isMulticast = true ↔ b.toNat / 2 ^ 120 = 0xff := by
        rw [Address.isMulticast, hun]
        exact decide_eq_true_iff
      have hunspec : (Address.v6 b).isUnspecified = true ↔ b.toNat = 0 := by
        rw [Address.isUnspecified, hun]
        exact decide_eq_true_iff.trans BitVec.toNat_eq
      have hint : Internal (.v6 b) ↔ b.toNat = 1 ∨ b.toNat / 2 ^ 118 = 0x3fa ∨ b.toNat = 0 ∨
          b.toNat / 2 ^ 120 = 0xff := by
        rw [Internal, hun]
        exact decide_eq_true_iff
      rw [and_iff_left hseen, hmult, hunspec, hint]
      omega
    · -- a mapped address is in no block of its own family
      have hmult : (Address.v6 b).isMulticast = true ↔ m.toNat / 2 ^ 28 = 0xe := by
        rw [Address.isMulticast, hun]
        exact decide_eq_true_iff
      have hunspec : (Address.v6 b).isUnspecified = true ↔ m.toNat = 0 := by
        rw [Address.isUnspecified, hun]
        exact decide_eq_true_iff.trans BitVec.toNat_eq
      have hint : Internal (.v6 b) ↔ m.toNat / 2 ^ 24 = 127 ∨ m.toNat / 2 ^ 16 = 169 * 256 + 254 ∨
          m.toNat / 2 ^ 24 = 0 ∨ m.toNat / 2 ^ 28 = 0xe := by
        rw [Internal, hun]
        exact decide_eq_true_iff
      have hseen : SeenThrough (.v6 b) ↔ m.toNat / 2 ^ 28 = 0xe ∨ m.toNat = 0 := by
        rw [SeenThrough, hmap, hmult, hunspec]
        simp
      rw [hseen, hmult, hunspec, hint]
      omega

/-! ## The hosts for which the check is enough -/

theorem validateProbeHost_of_ne (getaddrinfo : List Char → AddrInfo) (h : Lib.strip host ≠ []) :
    validateProbeHost getaddrinfo host =
      resolveHost getaddrinfo (Lib.strip host) >>= checkAddress := by
  unfold validateProbeHost
  rw [if_neg h]

theorem checkAddress_error {e : ProbeError} (h : checkAddress a = .error e) :
    ∃ why, e = .unsafeHost why := by
  unfold checkAddress at h
  split at h
  · cases h
    exact ⟨_, rfl⟩
  · split at h
    · cases h
      exact ⟨_, rfl⟩
    · cases h

/-- The check looks at the first address. -/
theorem probeSafe_of_resolved {rest : List Address}
    (hvalid : validateProbeHost getaddrinfo host = checkAddress a)
    (htargets : targets getaddrinfo (Lib.strip host) = a :: rest) :
    ProbeSafe getaddrinfo host ↔ FirstTells (a :: rest) := by
  constructor
  · intro h
    by_cases hseen : Internal a ∧ SeenThrough a
    · exact .inl hseen
    · refine .inr ?_
      rw [← htargets]
      exact h.passes (hvalid.trans (checkAddress_eq_ok.2 hseen))
  · intro h
    refine ⟨fun hok => ?_, fun e he => checkAddress_error (hvalid ▸ he)⟩
    rw [htargets]
    exact h.resolve_left (checkAddress_eq_ok.1 (hvalid ▸ hok))

end

/-- A host that passes has no internal address, and the others are refused as unsafe, exactly if the
host is guarded. -/
theorem probe_host_iff (getaddrinfo : List Char → AddrInfo) (host : List Char) :
    ProbeSafe getaddrinfo host ↔ Guarded getaddrinfo (Lib.strip host) := by
  by_cases hne : Lib.strip host = []
  · have herr : validateProbeHost getaddrinfo host = .error (.unsafeHost .emptyHost) := by
      unfold validateProbeHost
      rw [if_pos hne]
      rfl
    refine iff_of_true ⟨fun hok => ?_, fun e he => ?_⟩ (.inl hne)
    · cases herr.symm.trans hok
    · cases herr.symm.trans he
      exact ⟨_, rfl⟩
  have hvalid := validateProbeHost_of_ne getaddrinfo hne
  unfold Guarded
  rw [or_iff_right hne]
  cases hparse : Address.parse (Lib.strip host) with
  | some a =>
    have htargets : targets getaddrinfo (Lib.strip host) = [a] := by rw [targets, hparse]
    rw [resolveHost, hparse] at hvalid
    rw [probeSafe_of_resolved hvalid htargets, htargets]
    simp
  | none =>
    rw [resolveHost, hparse] at hvalid
    cases hinfo : getaddrinfo (Lib.strip host) with
    | gaierror =>
      rw [hinfo] at hvalid
      refine iff_of_true ⟨fun hok => ?_, fun e he => ?_⟩ (.inl ⟨rfl, rfl⟩)
      · cases hvalid.symm.trans hok
      · cases hvalid.symm.trans he
        exact ⟨_, rfl⟩
    | raises =>
      have htargets : targets getaddrinfo (Lib.strip host) = [] := by rw [targets, hparse, hinfo]
      rw [hinfo] at hvalid
      refine iff_of_false (fun h => ?_) ?_
      · obtain ⟨_, h⟩ := h.refused _ hvalid
        cases h
      · rw [htargets]
        simp [FirstTells]
    | addresses l =>
      have htargets : targets getaddrinfo (Lib.strip host) = l := by rw [targets, hparse, hinfo]
      rw [hinfo] at hvalid
      cases l with
      | nil =>
        refine iff_of_false (fun h => ?_) ?_
        · obtain ⟨_, h⟩ := h.refused _ hvalid
          cases h
        · rw [htargets]
          simp [FirstTells]
      | cons a rest =>
        rw [probeSafe_of_resolved hvalid htargets, htargets]
        simp

namespace ProbeFixture

/-- A name with a public address and then the loopback address. -/
def getaddrinfo (_ : List Char) : AddrInfo := .addresses [.v4 0x08080808, .v4 0x7f000001]

/-- The name. -/
def named : List Char := "camera.example".toList

/-- The loopback address, mapped. -/
def mapped : List Char := "::ffff:127.0.0.1".toList

end ProbeFixture

open ProbeFixture in
/-- The second address is not looked at, and a mapped one is not seen through. -/
theorem probe_host_internal :
    ¬ ProbeSafe getaddrinfo named ∧ ¬ ProbeSafe getaddrinfo mapped := by
  refine ⟨fun h => ?_, fun h => ?_⟩
  · exact h.passes (by decide +kernel) (.v4 0x7f000001) (by decide +kernel) (by decide +kernel)
  · exact h.passes (by decide +kernel) (.v6 0xffff7f000001) (by decide +kernel) (by decide +kernel)

end AeroXProtect
