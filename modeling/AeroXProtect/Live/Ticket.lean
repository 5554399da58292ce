import AeroXProtect.Update.Ticket
import Mathlib.Data.List.Nodup

/-!
# Live tickets

A ticket for the WebSocket of a stream carries an expiry and the MAC of `<name>\n<expiry>`. The name
is any text, with line breaks and digits of its own, and the expiry of a ticket is read leniently
and written again before it is signed. `message_inj` says that the signed bytes still belong to one
name and one expiry, and `signature_inj` that the text of a signature belongs to one MAC. The MAC is
a parameter: `Unforged` is what is assumed of it, for the messages that were signed and for one
ticket that is presented. `issue` signs for the empty name and `verify` refuses it; every other
ticket is good for its own name until it expires, and for nothing else (`live_ticket_bound`).
-/

open Lib AeroXProtect.Ticket

namespace AeroXProtect.LiveTicket

def DEFAULT_TTL : Int := 30

def MIN_TTL : Int := 5

/-- Source: `_secret` (`server/service/live_ticket.py:28`). -/
def secret (crypto : Crypto) (c : Config) : List UInt8 :=
  crypto.sha256 (encode ((Server.base c).toList ++ ":live-ws".toList))

/-- The bytes that are signed. -/
def message (name : List Char) (exp : Int) : List UInt8 := encode (name ++ '\n' :: formatInt exp)

/-- The text of a MAC. -/
def macText (mac : List UInt8) : List Char := rstripEq (urlsafeB64encode mac)

/-- Source: `_sign` (`server/service/live_ticket.py:33`). -/
def sign (crypto : Crypto) (c : Config) (name : List Char) (exp : Int) : List Char :=
  macText (crypto.hmacSha256 (secret crypto c) (message name exp))

/-- Source: `issue` (`server/service/live_ticket.py:38`); `none` for an expiry whose text is too
long for Python to write. -/
def issue (crypto : Crypto) (c : Config) (name : List Char) (ttl time : Int) :
    Option Server.Issued :=
  let ttl := max MIN_TTL ttl
  let exp := time + ttl
  if maxStrDigits < (Nat.toDigits 10 exp.natAbs).length then none
  else some ⟨formatInt exp ++ '.' :: sign crypto c name exp, ttl⟩

/-- Source: `verify` (`server/service/live_ticket.py:44`); `none` when it raises. -/
def verify (crypto : Crypto) (c : Config) (name ticket : List Char) (time : Int) : Option Bool :=
  if name = [] ∨ ticket = [] then some false
  else
    match cut '.' ticket with
    | none => some false
    | some (expS, sig) =>
      match parseInt expS with
      | none => some false
      | some exp => if exp < time then some false else compareDigest sig (sign crypto c name exp)

/-! ## What is asked of a ticket -/

/-- A call of `issue`. -/
structure Call where
  name : List Char
  ttl : Int
  time : Int
  deriving DecidableEq, Repr

/-- The ticket was issued for the name with the expiry. -/
def Issued (crypto : Crypto) (c : Config) (log : List Call) (name : List Char) (exp : Int)
    (ticket : List Char) : Prop :=
  ∃ call ∈ log, call.name = name ∧ ∃ i, issue crypto c call.name call.ttl call.time = some i ∧
    call.time + i.expiresIn = exp ∧ i.ticket = ticket

/-- A message was signed for a ticket that was issued. -/
def Signed (crypto : Crypto) (c : Config) (log : List Call) (m : List UInt8) : Prop :=
  ∃ name exp ticket, Issued crypto c log name exp ticket ∧ m = message name exp

/-- HMAC under the secret of the server, after the calls of `issue`: no two signed messages have one
MAC, and the ticket carries no MAC of a message that was not signed. -/
structure Unforged (crypto : Crypto) (c : Config) (log : List Call) (ticket : List Char) :
    Prop where
  injective : ∀ m m', Signed crypto c log m → Signed crypto c log m' →
    crypto.hmacSha256 (secret crypto c) m = crypto.hmacSha256 (secret crypto c) m' → m = m'
  unforgeable : ∀ expS m,
    cut '.' ticket = some (expS, macText (crypto.hmacSha256 (secret crypto c) m)) →
      Signed crypto c log m

/-- What the ticket states: an expiry that has not passed, and the signature of the name with it. -/
structure Carries (crypto : Crypto) (c : Config) (name : List Char) (exp : Int)
    (ticket : List Char) (time : Int) : Prop where
  states : ∃ expS, cut '.' ticket = some (expS, sign crypto c name exp) ∧ parseInt expS = some exp
  notPassed : time ≤ exp

/-! ## One message, one name and one expiry -/

theorem encode_injective : Function.Injective encode := by
  intro s s' h
  have hbytes : s.utf8Encode = s'.utf8Encode := congrArg List.toByteArray h
  have hdecoded := congrArg ByteArray.utf8Decode? hbytes
  rw [List.utf8Decode?_utf8Encode, List.utf8Decode?_utf8Encode] at hdecoded
  simpa using hdecoded

theorem formatInt_injective : Function.Injective formatInt := by
  have hminus : ∀ n, '-' ∉ Nat.toDigits 10 n := fun n hmem =>
    absurd (isDigit_toDigits hmem) (by decide)
  have hdigits : ∀ m n, Nat.toDigits 10 m = Nat.toDigits 10 n → m = n := by
    intro m n h
    rw [← Nat.ofDigitChars_ten_toDigits (n := m), h, Nat.ofDigitChars_ten_toDigits]
  intro m n h
  unfold formatInt at h
  by_cases hm : m < 0 <;> by_cases hn : n < 0
  · rw [if_pos hm, if_pos hn] at h
    have habs := hdigits _ _ (List.append_cancel_left h)
    omega
  · rw [if_pos hm, if_neg hn, List.nil_append] at h
    exact absurd (h ▸ List.mem_cons_self) (hminus n.natAbs)
  · rw [if_neg hm, if_pos hn, List.nil_append] at h
    exact absurd (h ▸ List.mem_cons_self) (hminus m.natAbs)
  · rw [if_neg hm, if_neg hn] at h
    have habs := hdigits _ _ (List.append_cancel_left h)
    omega

theorem newline_not_mem_formatInt (exp : Int) : '\n' ∉ (formatInt exp).reverse := by
  intro h
  rcases mem_formatInt (List.mem_reverse.1 h) with h | h
  · exact absurd h (by decide)
  · exact absurd h (by decide)

/-- **One message, one name and one expiry.** The last line break of the text is before the expiry,
whatever the name has. -/
theorem message_inj {name name' : List Char} {exp exp' : Int}
    (h : message name exp = message name' exp') : name = name' ∧ exp = exp' := by
  have htext := congrArg List.reverse (encode_injective h)
  rw [List.reverse_append, List.reverse_append, List.reverse_cons, List.reverse_cons,
    List.append_assoc, List.append_assoc, List.singleton_append, List.singleton_append] at htext
  have hcut := cut_append (b := name.reverse) (newline_not_mem_formatInt exp)
  rw [htext, cut_append (newline_not_mem_formatInt exp')] at hcut
  obtain ⟨hexp, hname⟩ := Prod.mk.inj (Option.some.inj hcut)
  exact ⟨(List.reverse_inj.1 hname).symm, (formatInt_injective (List.reverse_inj.1 hexp)).symm⟩

/-! ## One signature, one MAC -/

/-- The text of some bytes without the padding. -/
def unpadded : List UInt8 → List Char
  | [] => []
  | [a] => [b64Char (a.toNat / 4), b64Char (a.toNat % 4 * 16)]
  | [a, b] => [b64Char (a.toNat / 4), b64Char (a.toNat % 4 * 16 + b.toNat / 16),
      b64Char (b.toNat % 16 * 4)]
  | a :: b :: c :: rest =>
    b64Char (a.toNat / 4) :: b64Char (a.toNat % 4 * 16 + b.toNat / 16) ::
      b64Char (b.toNat % 16 * 4 + c.toNat / 64) :: b64Char (c.toNat % 64) :: unpadded rest

theorem b64Char_ne_pad (n : Nat) : b64Char n ≠ '=' := by
  have hpad : '=' ∉ b64Alphabet := by decide
  unfold b64Char
  rw [List.getD_eq_getElem?_getD]
  cases hget : b64Alphabet[n]? with
  | none => decide
  | some ch => exact fun heq => hpad (heq ▸ List.mem_of_getElem? hget)

theorem b64Char_inj {m n : Nat} (hm : m < 64) (hn : n < 64) (h : b64Char m = b64Char n) :
    m = n := by
  have hnodup : b64Alphabet.Nodup := by decide
  have hlen : b64Alphabet.length = 64 := rfl
  unfold b64Char at h
  rw [List.getD_eq_getElem?_getD, List.getD_eq_getElem?_getD,
    List.getElem?_eq_getElem (hlen ▸ hm), List.getElem?_eq_getElem (hlen ▸ hn)] at h
  exact (List.Nodup.getElem_inj_iff hnodup).1 h

/-- Stripping stops at a character of the alphabet. -/
theorem rstripEq_cons (n : Nat) (s : List Char) :
    rstripEq (b64Char n :: s) = b64Char n :: rstripEq s := by
  have hkeep : (b64Char n == '=') = false := beq_eq_false_iff_ne.2 (b64Char_ne_pad n)
  unfold rstripEq
  rw [List.reverse_cons, List.dropWhile_append]
  split
  · next hempty =>
    rw [List.isEmpty_iff] at hempty
    rw [hempty, List.dropWhile_cons_of_neg (by simp [hkeep])]
    rfl
  · rw [List.reverse_append]
    rfl

theorem macText_eq_unpadded : ∀ mac, macText mac = unpadded mac
  | [] => rfl
  | [a] => by
    rw [macText, urlsafeB64encode, unpadded, rstripEq_cons, rstripEq_cons]
    rfl
  | [a, b] => by
    rw [macText, urlsafeB64encode, unpadded, rstripEq_cons, rstripEq_cons, rstripEq_cons]
    rfl
  | a :: b :: c :: rest => by
    have ih := macText_eq_unpadded rest
    unfold macText at ih
    simp only [macText, urlsafeB64encode, unpadded, rstripEq_cons, ih]

/-- Three bytes from four characters. -/
theorem bytes_inj (a b c a' b' c' : UInt8)
    (h₁ : b64Char (a.toNat / 4) = b64Char (a'.toNat / 4))
    (h₂ : b64Char (a.toNat % 4 * 16 + b.toNat / 16) = b64Char (a'.toNat % 4 * 16 + b'.toNat / 16))
    (h₃ : b64Char (b.toNat % 16 * 4 + c.toNat / 64) = b64Char (b'.toNat % 16 * 4 + c'.toNat / 64)) :
    a = a' ∧ b = b' ∧ c.toNat / 64 = c'.toNat / 64 := by
  have ha := a.toNat_lt
  have ha' := a'.toNat_lt
  have hb := b.toNat_lt
  have hb' := b'.toNat_lt
  have hc := c.toNat_lt
  have hc' := c'.toNat_lt
  have e₁ := b64Char_inj (by omega) (by omega) h₁
  have e₂ := b64Char_inj (by omega) (by omega) h₂
  have e₃ := b64Char_inj (by omega) (by omega) h₃
  exact ⟨UInt8.toNat_inj.1 (by omega), UInt8.toNat_inj.1 (by omega), by omega⟩

theorem unpadded_injective : ∀ mac mac', unpadded mac = unpadded mac' → mac = mac'
  | [], [], _ => rfl
  | [], [_], h | [], [_, _], h | [], _ :: _ :: _ :: _, h => by simp [unpadded] at h
  | [_], [], h | [_], [_, _], h | [_], _ :: _ :: _ :: _, h => by simp [unpadded] at h
  | [_, _], [], h | [_, _], [_], h | [_, _], _ :: _ :: _ :: _, h => by simp [unpadded] at h
  | _ :: _ :: _ :: _, [], h | _ :: _ :: _ :: _, [_], h | _ :: _ :: _ :: _, [_, _], h => by
    simp [unpadded] at h
  | [a], [a'], h => by
    simp only [unpadded, List.cons.injEq, and_true] at h
    obtain ⟨rfl, -⟩ := bytes_inj a 0 0 a' 0 0 h.1 h.2 rfl
    rfl
  | [a, b], [a', b'], h => by
    simp only [unpadded, List.cons.injEq, and_true] at h
    obtain ⟨rfl, rfl, -⟩ := bytes_inj a b 0 a' b' 0 h.1 h.2.1 h.2.2
    rfl
  | a :: b :: c :: rest, a' :: b' :: c' :: rest', h => by
    simp only [unpadded, List.cons.injEq] at h
    obtain ⟨h₁, h₂, h₃, h₄, hrest⟩ := h
    obtain ⟨rfl, rfl, hhigh⟩ := bytes_inj a b c a' b' c' h₁ h₂ h₃
    have hlow := b64Char_inj (Nat.mod_lt _ (by decide)) (Nat.mod_lt _ (by decide)) h₄
    obtain rfl : c = c' := UInt8.toNat_inj.1 (by omega)
    rw [unpadded_injective rest rest' hrest]

theorem macText_injective : Function.Injective macText := by
  intro mac mac' h
  rw [macText_eq_unpadded, macText_eq_unpadded] at h
  exact unpadded_injective mac mac' h

theorem all_isAscii_macText (mac : List UInt8) : (macText mac).all isAscii = true := by
  refine List.all_eq_true.2 fun ch hch => ?_
  rw [macText, rstripEq, List.mem_reverse] at hch
  exact isAscii_urlsafeB64encode _ ch (List.mem_reverse.1 ((List.dropWhile_sublist _).subset hch))

/-! ## Issuing and verifying -/

section
variable {crypto : Crypto} {c : Config} {log : List Call} {name name' ticket : List Char}
  {exp exp' time : Int}

/-- What is accepted. -/
theorem verify_eq_true :
    verify crypto c name ticket time = some true ↔
      name ≠ [] ∧ ∃ exp, Carries crypto c name exp ticket time := by
  unfold verify
  by_cases hname : name = []
  · simp [hname]
  constructor
  · intro h
    refine ⟨hname, ?_⟩
    split at h
    · cases h
    · split at h
      · cases h
      · next expS sig hsplit =>
        split at h
        · cases h
        · next exp hparse =>
          split at h
          · cases h
          · next hnot =>
            unfold compareDigest at h
            split at h
            · obtain rfl : sig = sign crypto c name exp := by simpa using h
              exact ⟨exp, ⟨expS, hsplit, hparse⟩, Int.not_lt.1 hnot⟩
            · cases h
  · rintro ⟨-, exp, ⟨expS, hsplit, hparse⟩, htime⟩
    have hticket : ticket ≠ [] := by
      rintro rfl
      simp [cut] at hsplit
    rw [if_neg (by simp [hname, hticket]), hsplit]
    simp only [hparse]
    rw [if_neg (Int.not_lt.2 htime), compareDigest, sign, all_isAscii_macText]
    simp

/-- A ticket that was issued for a name carries it. -/
theorem carries_of_issued (h : Issued crypto c log name exp ticket) (htime : time ≤ exp) :
    Carries crypto c name exp ticket time := by
  obtain ⟨call, -, rfl, i, hissue, rfl, rfl⟩ := h
  unfold issue at hissue
  simp only at hissue
  split at hissue
  · cases hissue
  · next hlen =>
    cases hissue
    exact ⟨⟨_, cut_formatInt, parseInt_formatInt (Nat.not_lt.1 hlen)⟩, htime⟩

/-- The expiry of a ticket that was issued. -/
theorem call_of_issued (h : Issued crypto c log name exp ticket) :
    ∃ call ∈ log, call.name = name ∧ call.time + max MIN_TTL call.ttl = exp := by
  obtain ⟨call, hcall, rfl, i, hissue, rfl, -⟩ := h
  refine ⟨call, hcall, rfl, ?_⟩
  unfold issue at hissue
  simp only at hissue
  split at hissue
  · cases hissue
  · cases hissue
    rfl

theorem signed_of_issued (h : Issued crypto c log name exp ticket) :
    Signed crypto c log (message name exp) :=
  ⟨name, exp, ticket, h, rfl⟩

/-- A ticket carries one expiry. -/
theorem Carries.exp_unique {time' : Int} (h : Carries crypto c name exp ticket time)
    (h' : Carries crypto c name' exp' ticket time') :
    exp = exp' ∧ sign crypto c name exp = sign crypto c name' exp' := by
  obtain ⟨⟨expS, hsplit, hparse⟩, -⟩ := h
  obtain ⟨⟨expS', hsplit', hparse'⟩, -⟩ := h'
  obtain ⟨rfl, hsign⟩ := Prod.mk.inj (Option.some.inj (hsplit.symm.trans hsplit'))
  exact ⟨Option.some.inj (hparse.symm.trans hparse'), hsign⟩

/-- What an unforged ticket carries was issued. -/
theorem issued_of_carries (hmac : Unforged crypto c log ticket)
    (h : Carries crypto c name exp ticket time) : ∃ t, Issued crypto c log name exp t := by
  obtain ⟨⟨expS, hsplit, -⟩, -⟩ := h
  obtain ⟨name', exp', t, hissued, hmessage⟩ := hmac.unforgeable expS (message name exp) hsplit
  obtain ⟨rfl, rfl⟩ := message_inj hmessage
  exact ⟨t, hissued⟩

end

/-- **Live tickets.** Of a ticket that is not forged: it is accepted for a name only while it
carries an expiry that has not passed and the signature of a ticket that was issued for that name
with that expiry; and if it was issued itself, for a name that is not empty, it is accepted for that
name until its expiry, and for no other one. -/
theorem live_ticket_bound (crypto : Crypto) (c : Config) (log : List Call) (ticket : List Char)
    (hmac : Unforged crypto c log ticket) (name : List Char) (time : Int) :
    (verify crypto c name ticket time = some true →
      ∃ exp, Carries crypto c name exp ticket time ∧ ∃ t, Issued crypto c log name exp t) ∧
    ∀ name' exp, Issued crypto c log name' exp ticket →
      (name' ≠ [] → time ≤ exp → verify crypto c name' ticket time = some true) ∧
      (verify crypto c name ticket time = some true → name = name') := by
  refine ⟨fun h => ?_, fun name' exp hissued => ⟨fun hname htime => ?_, fun h => ?_⟩⟩
  · obtain ⟨-, exp, hcarries⟩ := verify_eq_true.1 h
    exact ⟨exp, hcarries, issued_of_carries hmac hcarries⟩
  · exact verify_eq_true.2 ⟨hname, exp, carries_of_issued hissued htime⟩
  · obtain ⟨-, exp', hcarries⟩ := verify_eq_true.1 h
    obtain ⟨t, hissued'⟩ := issued_of_carries hmac hcarries
    obtain ⟨-, hsign⟩ := hcarries.exp_unique (carries_of_issued hissued (Int.le_refl exp))
    have hmessage := hmac.injective _ _ (signed_of_issued hissued') (signed_of_issued hissued)
      (macText_injective hsign)
    exact (message_inj hmessage).1

/-! ## A run with recorded digests -/

deriving instance DecidableEq for Server.Issued

def digestLive : List UInt8 :=
  [199, 118, 37, 231, 61, 178, 111, 210, 200, 220, 217, 117, 95, 95, 188, 243, 220, 142, 93, 219,
    250, 4, 190, 48, 255, 139, 90, 233, 245, 224, 222, 184]

def macMain : List UInt8 :=
  [174, 58, 93, 202, 40, 120, 166, 159, 167, 90, 27, 32, 108, 131, 25, 13, 86, 246, 234, 179, 165,
    135, 10, 89, 79, 53, 170, 31, 44, 252, 113, 122]

def macNameless : List UInt8 :=
  [77, 21, 98, 209, 54, 97, 8, 253, 108, 246, 156, 97, 214, 177, 118, 52, 33, 122, 253, 81, 173,
    132, 235, 35, 203, 110, 69, 137, 27, 106, 192, 35]

/-- The digests of SHA-256 and HMAC-SHA256 for the key text `"k"`, the expiry 1767225630, and the
names `camera_main` and the empty one. -/
def recordedLive : Crypto where
  sha256 msg := if msg = encode "k:live-ws".toList then digestLive else List.replicate 32 0
  hmacSha256 key msg :=
    if key = digestLive then
      if msg = message "camera_main".toList 1767225630 then macMain
      else if msg = message [] 1767225630 then macNameless
      else List.replicate 32 0
    else List.replicate 32 0

/-- An installation with the secret `k`. -/
def installed : Config := ⟨some "k", none, 1800⟩

/-- The one call for `camera_main`. -/
def mainLog : List Call := [⟨"camera_main".toList, DEFAULT_TTL, 1767225600⟩]

def mainTicket : List Char := "1767225630.rjpdyih4pp-nWhsgbIMZDVb26rOlhwpZTzWqHyz8cXo".toList

theorem issued_main :
    Issued recordedLive installed mainLog "camera_main".toList 1767225630 mainTicket :=
  ⟨_, List.mem_cons_self, rfl, ⟨mainTicket, 30⟩, by decide +kernel, rfl, rfl⟩

theorem unforged_main : Unforged recordedLive installed mainLog mainTicket where
  injective := by
    have hone : ∀ m, Signed recordedLive installed mainLog m →
        m = message "camera_main".toList 1767225630 := by
      rintro m ⟨name, exp, t, hissued, rfl⟩
      obtain ⟨call, hcall, rfl, rfl⟩ := call_of_issued hissued
      rw [List.mem_singleton.1 hcall]
      rfl
    intro m m' hm hm' _
    rw [hone m hm, hone m' hm']
  unforgeable := by
    intro expS m hsplit
    have hkey : secret recordedLive installed = digestLive := by decide +kernel
    have hticket : cut '.' mainTicket = some ("1767225630".toList, macText macMain) := by
      decide +kernel
    have hmac : recordedLive.hmacSha256 digestLive m = macMain :=
      macText_injective (Prod.mk.inj (Option.some.inj (hkey ▸ hsplit.symm.trans hticket))).2
    simp only [recordedLive, if_true] at hmac
    split at hmac
    · next hm =>
      rw [hm]
      exact signed_of_issued issued_main
    · split at hmac
      · exact absurd hmac (by decide)
      · exact absurd hmac (by decide)

/-- The ticket of `camera_main` in its last second: good for the name and for no other one. -/
theorem live_ticket_main :
    verify recordedLive installed "camera_main".toList mainTicket 1767225630 = some true ∧
      verify recordedLive installed "camera_main\n1".toList mainTicket 1767225630 ≠ some true :=
  ⟨((live_ticket_bound recordedLive installed mainLog mainTicket unforged_main [] 1767225630).2
      "camera_main".toList 1767225630 issued_main).1 (by decide) (by decide),
    fun h => absurd (((live_ticket_bound recordedLive installed mainLog mainTicket unforged_main
      "camera_main\n1".toList 1767225630).2 "camera_main".toList 1767225630 issued_main).2 h)
        (by decide)⟩

/-- The empty name has a ticket, and the ticket is refused. -/
theorem live_ticket_nameless :
    issue recordedLive installed [] DEFAULT_TTL 1767225600 =
        some ⟨"1767225630.TRVi0TZhCP1s9pxh1rF2NCF6_VGthOsjy25FiRtqwCM".toList, 30⟩ ∧
      verify recordedLive installed []
        "1767225630.TRVi0TZhCP1s9pxh1rF2NCF6_VGthOsjy25FiRtqwCM".toList 1767225600 =
          some false := by
  decide +kernel

end AeroXProtect.LiveTicket
