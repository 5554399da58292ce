import AeroXProtect.Lib.Text

/-!
# Update tickets

While the server updates itself, the browser polls the launcher with a ticket that the server has
signed before it stopped. `Server.issue` and `Server.verify` are the server's side,
`Launcher.verifyTicket` is the launcher's own copy of the check. SHA-256 and HMAC are parameters
(`Crypto`), and `Attacker` is one who knows some texts but not the secrets: no ticket it computes
has a signature under a text it does not know.

The two checks take the same secret only when `SECRET_KEY` is set: without it the server falls back
to `JWT_SECRET` and the launcher to the empty text. Both raise for a signature with characters
beyond ASCII, which `hmac.compare_digest` does not take (`StrangeSignature`). `update_ticket_iff`
says that there is nothing else.
-/

open Lib

namespace AeroXProtect.Ticket

/-! ## The shape of a ticket -/

structure Crypto where
  sha256 : List UInt8 → List UInt8
  hmacSha256 : (key msg : List UInt8) → List UInt8

def encode (s : List Char) : List UInt8 := s.flatMap String.utf8EncodeChar

def b64Alphabet : List Char :=
  "ABCDEFGHIJKLMNOPQRSTUVWXYZabcdefghijklmnopqrstuvwxyz0123456789-_".toList

def b64Char (n : Nat) : Char := b64Alphabet.getD n 'A'

/-- `base64.urlsafe_b64encode` -/
def urlsafeB64encode : List UInt8 → List Char
  | [] => []
  | [a] => [b64Char (a.toNat / 4), b64Char (a.toNat % 4 * 16), '=', '=']
  | [a, b] => [b64Char (a.toNat / 4), b64Char (a.toNat % 4 * 16 + b.toNat / 16),
      b64Char (b.toNat % 16 * 4), '=']
  | a :: b :: c :: rest =>
    b64Char (a.toNat / 4) :: b64Char (a.toNat % 4 * 16 + b.toNat / 16) ::
      b64Char (b.toNat % 16 * 4 + c.toNat / 64) :: b64Char (c.toNat % 64) :: urlsafeB64encode rest

/-- `s.rstrip('=')` -/
def rstripEq (s : List Char) : List Char := (s.reverse.dropWhile fun c => c == '=').reverse

def isAscii (c : Char) : Bool := decide (c.toNat < 128)

/-- `hmac.compare_digest` of two texts, which raises unless both are ASCII. -/
def compareDigest (a b : List Char) : Option Bool :=
  if a.all isAscii && b.all isAscii then some (decide (a = b)) else none

/-- The settings of an installation: the two secrets, where `none` is a missing one, and the time
to live of a ticket. -/
structure Config where
  secretKey : Option String
  jwtSecret : Option String
  updateTicketTtlS : Int

/-! ## The server -/

namespace Server

/-- `config.JWT_SECRET` -/
def jwtSecret (c : Config) : String :=
  c.jwtSecret.getD ((c.secretKey.filter (· ≠ "")).getD "dev-insecure-jwt-secret")

/-- The text that the key is derived from. -/
def base (c : Config) : String :=
  (c.secretKey.filter (· ≠ "")).getD (if jwtSecret c = "" then "dev-insecure" else jwtSecret c)

def secret (crypto : Crypto) (c : Config) : List UInt8 :=
  crypto.sha256 (encode ((base c).toList ++ ":sys-update".toList))

def sign (crypto : Crypto) (c : Config) (exp : Int) : List Char :=
  let mac := crypto.hmacSha256 (secret crypto c) (encode ("update\n".toList ++ formatInt exp))
  rstripEq (urlsafeB64encode mac)

/-- What `issue` answers. -/
structure Issued where
  ticket : List Char
  expiresIn : Int

/-- `issue`; `none` for an expiry whose text is too long for Python to write. -/
def issue (crypto : Crypto) (c : Config) (ttl : Option Int) (time : Int) : Option Issued :=
  let ttl := match ttl with
    | some n => if n = 0 then c.updateTicketTtlS else n
    | none => c.updateTicketTtlS
  let exp := time + ttl
  if maxStrDigits < (Nat.toDigits 10 exp.natAbs).length then none
  else some ⟨formatInt exp ++ '.' :: sign crypto c exp, ttl⟩

/-- `verify`; `none` when it raises. -/
def verify (crypto : Crypto) (c : Config) (ticket : List Char) (time : Int) : Option Bool :=
  match cut '.' ticket with
  | none => some false
  | some (expS, sig) =>
    match parseInt expS with
    | none => some false
    | some exp => if exp < time then some false else compareDigest sig (sign crypto c exp)

end Server

/-! ## The launcher -/

namespace Launcher

/-- `_verify_ticket` -/
def verifyTicket' (crypto : Crypto) (secretKey : String) (ticket : List Char) (time : Int) :
    Option Bool :=
  match cut '.' ticket with
  | none => some false
  | some (expS, sig) =>
    match parseInt expS with
    | none => some false
    | some exp =>
      if exp < time then some false
      else
        let secret := crypto.sha256 (encode (secretKey.toList ++ ":sys-update".toList))
        let mac := crypto.hmacSha256 secret (encode ("update\n".toList ++ formatInt exp))
        compareDigest sig (rstripEq (urlsafeB64encode mac))

/-- The check of a request: `_verify_ticket(cfg.get('SECRET_KEY', ''), ticket)`. -/
def verifyTicket (crypto : Crypto) (c : Config) (ticket : List Char) (time : Int) : Option Bool :=
  verifyTicket' crypto (c.secretKey.getD "") ticket time

end Launcher

/-! ## What is asked of the two -/

/-- The signature of an expiry under a key text. -/
def signature (crypto : Crypto) (base : String) (exp : Int) : List Char :=
  rstripEq (urlsafeB64encode (crypto.hmacSha256
    (crypto.sha256 (encode (base.toList ++ ":sys-update".toList)))
    (encode ("update\n".toList ++ formatInt exp))))

/-- One who knows some key texts, and computes the tickets under these, but none with a signature
under another text. -/
structure Attacker (crypto : Crypto) where
  keys : String → Prop
  computes : List Char → Prop
  computes_signed (base : String) (exp : Int) (h : keys base) :
    computes (formatInt exp ++ '.' :: signature crypto base exp)
  unforgeable (base : String) (h : ¬ keys base) (ticket expS sig : List Char) (exp : Int)
    (hticket : computes ticket) (hsplit : cut '.' ticket = some (expS, sig)) :
    sig ≠ signature crypto base exp

/-- The ticket has not expired, and its signature has a character beyond ASCII. -/
def StrangeSignature (ticket : List Char) (time : Int) : Prop :=
  ∃ expS sig exp, cut '.' ticket = some (expS, sig) ∧ parseInt expS = some exp ∧ time ≤ exp ∧
    ∃ ch ∈ sig, isAscii ch = false

/-- The two checks answer alike, accept a ticket that was issued until it expires, and accept none
that the attacker computes. -/
structure Agrees (crypto : Crypto) (c : Config) (attacker : Attacker crypto) (ticket : List Char)
    (time : Int) : Prop where
  same : Server.verify crypto c ticket time = Launcher.verifyTicket crypto c ticket time
  issued : ∀ ttl t i, Server.issue crypto c ttl t = some i → i.ticket = ticket →
    time ≤ t + i.expiresIn → Server.verify crypto c ticket time = some true ∧
      Launcher.verifyTicket crypto c ticket time = some true
  forged : attacker.computes ticket → Server.verify crypto c ticket time ≠ some true ∧
    Launcher.verifyTicket crypto c ticket time ≠ some true

/-! ## Signatures -/

section
variable {crypto : Crypto} {c : Config} {base : String} {exp time : Int} {ticket : List Char}

theorem isAscii_b64Char (n : Nat) : isAscii (b64Char n) = true := by
  have hall : b64Alphabet.all isAscii = true := by decide
  unfold b64Char
  rw [List.getD_eq_getElem?_getD]
  cases hget : b64Alphabet[n]? with
  | none => rfl
  | some ch => exact List.all_eq_true.1 hall ch (List.mem_of_getElem? hget)

theorem isAscii_urlsafeB64encode : ∀ (bytes : List UInt8), ∀ ch ∈ urlsafeB64encode bytes,
    isAscii ch = true
  | [], _, h => nomatch h
  | [a], ch, h => by
    simp only [urlsafeB64encode, List.mem_cons, List.not_mem_nil, or_false] at h
    rcases h with rfl | rfl | rfl | rfl
    all_goals first
      | exact isAscii_b64Char _
      | rfl
  | [a, b], ch, h => by
    simp only [urlsafeB64encode, List.mem_cons, List.not_mem_nil, or_false] at h
    rcases h with rfl | rfl | rfl | rfl
    all_goals first
      | exact isAscii_b64Char _
      | rfl
  | a :: b :: c :: rest, ch, h => by
    simp only [urlsafeB64encode, List.mem_cons] at h
    rcases h with rfl | rfl | rfl | rfl | h
    all_goals first
      | exact isAscii_b64Char _
      | exact isAscii_urlsafeB64encode rest ch h

theorem all_isAscii_signature : (signature crypto base exp).all isAscii = true := by
  refine List.all_eq_true.2 fun ch hch => ?_
  rw [signature, rstripEq, List.mem_reverse] at hch
  exact isAscii_urlsafeB64encode _ ch (List.mem_reverse.1 ((List.dropWhile_sublist _).subset hch))

/-- A comparison with a signature. -/
theorem compareDigest_signature {sig : List Char} :
    compareDigest sig (signature crypto base exp) =
      if sig.all isAscii then some (decide (sig = signature crypto base exp)) else none := by
  rw [compareDigest, all_isAscii_signature, Bool.and_true]

/-- The check under a key text. -/
def check (crypto : Crypto) (base : String) (ticket : List Char) (time : Int) : Option Bool :=
  Launcher.verifyTicket' crypto base ticket time

theorem verify_eq_check :
    Server.verify crypto c ticket time = check crypto (Server.base c) ticket time := rfl

theorem verifyTicket_eq_check :
    Launcher.verifyTicket crypto c ticket time = check crypto (c.secretKey.getD "") ticket time :=
  rfl

/-- The check of a ticket whose expiry is readable. -/
theorem check_eq {expS sig : List Char} (hs : cut '.' ticket = some (expS, sig))
    (hp : parseInt expS = some exp) :
    check crypto base ticket time =
      if exp < time then some false
      else if sig.all isAscii then some (decide (sig = signature crypto base exp)) else none := by
  rw [← compareDigest_signature]
  simp only [check, Launcher.verifyTicket', hs, hp, signature]

/-- The check of a text that is no ticket. -/
theorem check_eq_false
    (h : ∀ expS sig exp, cut '.' ticket = some (expS, sig) → parseInt expS ≠ some exp) :
    check crypto base ticket time = some false := by
  simp only [check, Launcher.verifyTicket']
  cases hs : cut '.' ticket with
  | none => rfl
  | some x =>
    cases hp : parseInt x.1 with
    | none => simp only [hp]
    | some exp => exact absurd hp (h x.1 x.2 exp hs)

/-- A text is a ticket with a readable expiry, or it is not. -/
theorem readable_or (ticket : List Char) :
    (∃ expS sig exp, cut '.' ticket = some (expS, sig) ∧ parseInt expS = some exp) ∨
      ∀ expS sig exp, cut '.' ticket = some (expS, sig) → parseInt expS ≠ some exp := by
  refine or_iff_not_imp_left.2 fun h expS sig exp hs hp => h ⟨expS, sig, exp, hs, hp⟩

/-- When the check raises. -/
theorem check_eq_none_iff (crypto : Crypto) (base : String) :
    check crypto base ticket time = none ↔ StrangeSignature ticket time := by
  rcases readable_or ticket with ⟨expS, sig, exp, hs, hp⟩ | hnone
  · have hstrange : StrangeSignature ticket time ↔ time ≤ exp ∧ sig.all isAscii = false := by
      rw [StrangeSignature, List.all_eq_false]
      constructor
      · rintro ⟨expS', sig', exp', hs', hp', htime, ch, hch, hascii⟩
        obtain ⟨rfl, rfl⟩ := Prod.mk.inj (Option.some.inj (hs.symm.trans hs'))
        obtain rfl := Option.some.inj (hp.symm.trans hp')
        exact ⟨htime, ch, hch, by simp [hascii]⟩
      · rintro ⟨htime, ch, hch, hascii⟩
        exact ⟨expS, sig, exp, hs, hp, htime, ch, hch, by simpa using hascii⟩
    rw [check_eq hs hp, hstrange]
    split
    · next hlt => simp only [reduceCtorEq, false_iff]; omega
    · next hlt =>
      split
      · next hall => simp [hall]
      · next hall => simp [hall, Int.not_lt.1 hlt]
  · rw [check_eq_false hnone]
    refine iff_of_false (by simp) ?_
    rintro ⟨expS, sig, exp, hs, hp, -⟩
    exact hnone expS sig exp hs hp

/-- What an accepted ticket carries. -/
theorem signature_of_check (h : check crypto base ticket time = some true) :
    ∃ expS exp, cut '.' ticket = some (expS, signature crypto base exp) := by
  rcases readable_or ticket with ⟨expS, sig, exp, hs, hp⟩ | hnone
  · rw [check_eq hs hp] at h
    split at h
    · cases h
    · split at h
      · obtain rfl : sig = signature crypto base exp := by simpa using h
        exact ⟨expS, exp, hs⟩
      · cases h
  · rw [check_eq_false hnone] at h
    cases h

/-- No ticket of the attacker passes the check under a text that the attacker does not know. -/
theorem check_computes (attacker : Attacker crypto) (hbase : ¬ attacker.keys base)
    (hticket : attacker.computes ticket) : check crypto base ticket time ≠ some true := by
  intro h
  obtain ⟨expS, exp, hs⟩ := signature_of_check h
  exact attacker.unforgeable base hbase ticket expS _ exp hticket hs rfl

/-! ## Issued tickets -/

theorem cut_formatInt {sig : List Char} :
    cut '.' (formatInt exp ++ '.' :: sig) = some (formatInt exp, sig) := by
  refine cut_append fun hmem => ?_
  rcases mem_formatInt hmem with hminus | hdigit
  · cases hminus
  · cases hdigit

/-- A ticket under a text passes the check under it until it expires. -/
theorem check_signature (base : String) (hlen : (Nat.toDigits 10 exp.natAbs).length ≤ maxStrDigits)
    (htime : time ≤ exp) :
    check crypto base (formatInt exp ++ '.' :: signature crypto base exp) time = some true := by
  rw [check_eq cut_formatInt (parseInt_formatInt hlen), if_neg (Int.not_lt.2 htime),
    if_pos all_isAscii_signature, decide_eq_true rfl]

theorem issue_eq_some {ttl : Option Int} {i : Server.Issued}
    (h : Server.issue crypto c ttl time = some i) :
    (Nat.toDigits 10 (time + i.expiresIn).natAbs).length ≤ maxStrDigits ∧
      i.ticket = formatInt (time + i.expiresIn) ++
        '.' :: signature crypto (Server.base c) (time + i.expiresIn) := by
  simp only [Server.issue] at h
  generalize (match ttl with
    | some n => if n = 0 then c.updateTicketTtlS else n
    | none => c.updateTicketTtlS) = n at h
  split at h
  · cases h
  · next hlen =>
    obtain rfl := Option.some.inj h
    exact ⟨Nat.not_lt.1 hlen, rfl⟩

/-- With `SECRET_KEY` set, the two sides derive the key from it. -/
theorem base_eq (h : c.secretKey.getD "" ≠ "") : Server.base c = c.secretKey.getD "" := by
  cases hk : c.secretKey with
  | none => simp [hk] at h
  | some k =>
    have hne : k ≠ "" := by simpa [hk] using h
    simp [Server.base, Option.filter, hk, hne]

end

/-! ## The two checks -/

/-- Whatever the settings, no check raises but for a strange signature. The two agree on every other
ticket exactly when `SECRET_KEY` is set. -/
theorem update_ticket_iff (crypto : Crypto) (attacker : Attacker crypto) (c : Config)
    (hempty : attacker.keys "")
    (hsecret : ∀ k, c.secretKey = some k → k ≠ "" → ¬ attacker.keys k) :
    (∀ ticket time, Server.verify crypto c ticket time ≠ none ∧
        Launcher.verifyTicket crypto c ticket time ≠ none ↔ ¬ StrangeSignature ticket time) ∧
      ((∀ ticket time, ¬ StrangeSignature ticket time → Agrees crypto c attacker ticket time) ↔
        c.secretKey.getD "" ≠ "") := by
  refine ⟨fun ticket time => ?_, fun h hnone => ?_, fun hset ticket time _ => ?_⟩
  · rw [verify_eq_check, verifyTicket_eq_check, Ne, Ne, check_eq_none_iff, check_eq_none_iff,
      and_self]
  · -- without a secret, the launcher takes a ticket under the empty text
    have hcheck : check crypto "" (formatInt 0 ++ '.' :: signature crypto "" 0) 0 = some true :=
      check_signature "" (by decide) (Int.le_refl 0)
    have hstrange : ¬ StrangeSignature (formatInt 0 ++ '.' :: signature crypto "" 0) 0 := by
      rw [← check_eq_none_iff crypto "", hcheck]
      simp
    refine ((h _ 0 hstrange).forged (attacker.computes_signed "" 0 hempty)).2 ?_
    rw [verifyTicket_eq_check, hnone, hcheck]
  · have hbase := base_eq hset
    have hkeys : ¬ attacker.keys (c.secretKey.getD "") := by
      cases hk : c.secretKey with
      | none => simp [hk] at hset
      | some k => exact hsecret k hk (by simpa [hk] using hset)
    refine ⟨?_, fun ttl t i hissue hticket htime => ?_, fun hcomputes => ?_⟩
    · rw [verify_eq_check, verifyTicket_eq_check, hbase]
    · obtain ⟨hlen, heq⟩ := issue_eq_some hissue
      have hcheck : check crypto (Server.base c) ticket time = some true := by
        rw [← hticket, heq]
        exact check_signature (Server.base c) hlen htime
      exact ⟨hcheck, by rw [verifyTicket_eq_check, ← hbase, hcheck]⟩
    · rw [verify_eq_check, verifyTicket_eq_check, hbase]
      exact ⟨check_computes attacker hkeys hcomputes, check_computes attacker hkeys hcomputes⟩

/-! ## A run with recorded digests -/

def digestEmpty : List UInt8 :=
  [183, 99, 180, 158, 123, 45, 149, 21, 40, 206, 254, 84, 186, 178, 70, 41, 146, 17, 14, 38, 195,
    23, 132, 36, 67, 106, 178, 24, 26, 235, 237, 71]

def digestK : List UInt8 :=
  [244, 169, 140, 221, 138, 122, 28, 233, 162, 240, 62, 153, 21, 14, 0, 199, 210, 68, 72, 236, 14,
    93, 155, 185, 185, 103, 118, 212, 12, 75, 145, 171]

def macEmpty : List UInt8 :=
  [249, 131, 118, 242, 119, 82, 162, 26, 4, 241, 111, 103, 142, 9, 57, 4, 179, 18, 130, 141, 204,
    33, 224, 179, 210, 211, 237, 39, 101, 23, 161, 250]

def macK : List UInt8 :=
  [170, 202, 213, 215, 241, 113, 119, 191, 80, 57, 131, 23, 228, 111, 20, 10, 32, 179, 255, 112,
    102, 124, 116, 214, 208, 222, 69, 148, 169, 29, 31, 60]

/-- The digests of SHA-256 and HMAC-SHA256 for the key texts `""` and `"k"` and the expiry
1767225600. -/
def recorded : Crypto where
  sha256 msg :=
    if msg = encode ":sys-update".toList then digestEmpty
    else if msg = encode "k:sys-update".toList then digestK
    else List.replicate 32 0
  hmacSha256 key msg :=
    if key = digestEmpty then
      if msg = encode "update\n1767225600".toList then macEmpty else List.replicate 32 1
    else if key = digestK then
      if msg = encode "update\n1767225600".toList then macK else List.replicate 32 0
    else List.replicate 32 0

theorem length_le_encode (s : List Char) : s.length ≤ (encode s).length := by
  induction s with
  | nil => exact Nat.zero_le _
  | cons c s ih =>
    have hpos := String.length_utf8EncodeChar c ▸ Char.utf8Size_pos c
    simp only [encode, List.flatMap_cons, List.length_append, List.length_cons] at ih ⊢
    omega

/-- The signatures under the empty text, and those under others. -/
theorem signature_recorded_empty (exp : Int) :
    signature recorded "" exp = rstripEq (urlsafeB64encode macEmpty) ∨
      signature recorded "" exp = rstripEq (urlsafeB64encode (List.replicate 32 1)) := by
  have hkey : recorded.sha256 (encode ("".toList ++ ":sys-update".toList)) = digestEmpty := by
    decide
  rw [signature, hkey]
  simp only [recorded, if_true]
  split
  · exact .inl rfl
  · exact .inr rfl

theorem signature_recorded {base : String} (h : base ≠ "") (exp : Int) :
    signature recorded base exp = rstripEq (urlsafeB64encode macK) ∨
      signature recorded base exp = rstripEq (urlsafeB64encode (List.replicate 32 0)) := by
  have hkey : recorded.sha256 (encode (base.toList ++ ":sys-update".toList)) ≠ digestEmpty := by
    have hlen := length_le_encode base.toList
    have hpos : 0 < base.toList.length := List.length_pos_iff.2 fun hnil => h (by simpa using hnil)
    have hne : encode (base.toList ++ ":sys-update".toList) ≠ encode ":sys-update".toList := by
      intro heq
      have := congrArg List.length heq
      simp only [encode, List.flatMap_append, List.length_append] at this hlen
      omega
    simp only [recorded, if_neg hne]
    split
    · decide
    · decide
  rw [signature]
  generalize recorded.sha256 (encode (base.toList ++ ":sys-update".toList)) = key at hkey ⊢
  simp only [recorded, if_neg hkey]
  split
  · split
    · exact .inl rfl
    · exact .inr rfl
  · exact .inr rfl

/-- One who knows the empty text only. -/
def outsider : Attacker recorded where
  keys base := base = ""
  computes ticket := ∃ exp, ticket = formatInt exp ++ '.' :: signature recorded "" exp
  computes_signed := by
    rintro base exp rfl
    exact ⟨exp, rfl⟩
  unforgeable := by
    rintro base hbase ticket expS sig exp ⟨exp', rfl⟩ hsplit rfl
    rw [cut_formatInt] at hsplit
    have heq := (Prod.mk.inj (Option.some.inj hsplit)).2
    rcases signature_recorded_empty exp' with h | h <;>
      rcases signature_recorded hbase exp with h' | h' <;>
        exact absurd (h.symm.trans (heq.trans h')) (by decide)

/-- An installation with a secret, against one who knows the empty text, at the ticket of the
secret.
-/
theorem update_ticket_recorded : Agrees recorded ⟨some "k", none, 1800⟩ outsider
    "1767225600.qsrV1_Fxd79QOYMX5G8UCiCz_3BmfHTW0N5FlKkdHzw".toList 1767225600 :=
  (update_ticket_iff recorded outsider ⟨some "k", none, 1800⟩ rfl (by
    rintro _ - hne rfl
    exact hne rfl)).2.2 (by decide) _ _ (by
      rw [← check_eq_none_iff recorded "k"]
      decide +kernel)

/-- With a secret, a signature beyond ASCII makes both checks raise. Without one, the launcher takes
a ticket that anyone can sign and the server does not. -/
theorem update_ticket_raises :
    Server.verify recorded ⟨some "k", none, 1800⟩ "1767225600.é".toList 1767225600 = none ∧
      Launcher.verifyTicket recorded ⟨some "k", none, 1800⟩
        "1767225600.é".toList 1767225600 = none ∧
      Server.verify recorded ⟨none, some "k", 1800⟩
        "1767225600.-YN28ndSohoE8W9njgk5BLMSgo3MIeCz0tPtJ2UXofo".toList 1767225600 = some false ∧
      Launcher.verifyTicket recorded ⟨none, some "k", 1800⟩
        "1767225600.-YN28ndSohoE8W9njgk5BLMSgo3MIeCz0tPtJ2UXofo".toList 1767225600 = some true := by
  decide +kernel

end AeroXProtect.Ticket
