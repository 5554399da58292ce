import AeroXProtect.Lib.Run
import AeroXProtect.Lib.Text

/-!
# Encrypted credentials

The username and the password of a camera are stored as Fernet tokens, with the id of the key of
the last one that was written. The keys come from `CREDENTIAL_ENC_KEY`, a list whose first key
encrypts; a token is read with the key of the stored id and then with every key. The two tokens of a
row may have been written under different keys, so that the stored id may be that of the other one.

`credentials_survive` is about runs of rotations and of partial edits. Fernet is a parameter with
the laws `Fernet.Laws`, and so is `_key_id`.
-/

open Lib

namespace AeroXProtect

/-- The library: which texts are keys, and tokens. A nonce stands for what a token has of its time
and of chance. -/
structure Fernet where
  valid : String → Bool
  encrypt : (key : String) → (nonce : Nat) → ByteArray → List UInt8
  decrypt : (key : String) → List UInt8 → Option ByteArray

/-- A key reads its tokens, and no key reads anything else in them: another key rejects them. -/
structure Fernet.Laws (f : Fernet) : Prop where
  decrypt_encrypt : ∀ key nonce p, f.valid key = true →
    f.decrypt key (f.encrypt key nonce p) = some p
  authentic : ∀ key key' nonce p q, f.decrypt key' (f.encrypt key nonce p) = some q → q = p
  nonempty : ∀ key nonce p, f.encrypt key nonce p ≠ []

/-- The keys of the cipher under their ids, and the key that encrypts with its id. -/
structure CredentialCipher where
  byId : List (String × String)
  primary : Option (String × String)

/-- The ciphertext columns of a camera. -/
structure CredentialRow where
  usernameEnc : Option (List UInt8)
  passwordEnc : Option (List UInt8)
  credKeyId : Option String

/-- The keys of an environment value. -/
def keyTexts (env : Option String) : List String :=
  ((((env.getD "").toList.splitOn ',').map Lib.strip).filter fun k => !k.isEmpty).map String.ofList

/-- `d[id] = key` -/
def setById (byId : List (String × String)) (id key : String) : List (String × String) :=
  if byId.any fun e => e.1 == id then byId.map fun e => if e.1 = id then (id, key) else e
  else byId ++ [(id, key)]

section
variable (f : Fernet) (keyId : String → String)

namespace CredentialCipher

/-- Before any key. -/
def empty : CredentialCipher := ⟨[], none⟩

/-- One more key; the first one is the primary key. -/
def addKey (c : CredentialCipher) (key : String) : CredentialCipher where
  byId := setById c.byId (keyId key) key
  primary := c.primary.or (some (key, keyId key))

/-- The cipher of an environment value; `none` when a text is no key. Source:
`CredentialCipher.__init__` (`server/util/crypto.py:23`). -/
def init (env : Option String) : Option CredentialCipher :=
  (keyTexts env).foldlM (fun c key => if f.valid key then some (c.addKey keyId key) else none) empty

/-- Source: `encrypt` (`server/util/crypto.py:41`); `none` when there is no key. -/
def encrypt (c : CredentialCipher) (nonce : Nat) (plaintext : String) :
    Option (List UInt8 × String) :=
  c.primary.map fun k => (f.encrypt k.1 nonce plaintext.toUTF8, k.2)

/-- The key of an id. -/
def keyOf (c : CredentialCipher) (id : Option String) : Option String :=
  (id.filter (· != "")).bind fun id => c.byId.lookup id

/-- Source: `decrypt` (`server/util/crypto.py:46`); `none` for an exception. -/
def decrypt (c : CredentialCipher) (token : List UInt8) (id : Option String) : Option String :=
  (((c.keyOf id).bind fun key => f.decrypt key token).or
    (c.byId.findSome? fun e => f.decrypt e.2 token)).bind String.fromUTF8?

end CredentialCipher

namespace CredentialRow

/-- The first half of `set_credentials`; `none` for an exception. -/
def setUsername (c : CredentialCipher) (nonce : Nat) (username : Option String)
    (row : CredentialRow) : Option CredentialRow :=
  match username with
  | none => some row
  | some u =>
    (c.encrypt f nonce u).map fun r => { row with usernameEnc := some r.1, credKeyId := some r.2 }

/-- The second half. -/
def setPassword (c : CredentialCipher) (nonce : Nat) (password : Option String)
    (row : CredentialRow) : Option CredentialRow :=
  match password with
  | none => some row
  | some p =>
    (c.encrypt f nonce p).map fun r => { row with passwordEnc := some r.1, credKeyId := some r.2 }

/-- Source: `set_credentials` (`server/model/camera.py:82`). -/
def setCredentials (c : CredentialCipher) (nonce nonce' : Nat) (username password : Option String)
    (row : CredentialRow) : Option CredentialRow :=
  (row.setUsername f c nonce username).bind (setPassword f c nonce' password)

/-- The text of a ciphertext column. -/
def read (c : CredentialCipher) (enc : Option (List UInt8)) (id : Option String) :
    Option (Option String) :=
  match enc.filter fun token => !token.isEmpty with
  | none => some none
  | some token => (c.decrypt f token id).map some

/-- Source: `get_credentials` (`server/model/camera.py:89`); `none` for an exception. -/
def getCredentials (c : CredentialCipher) (row : CredentialRow) :
    Option (Option String × Option String) := do
  let username ← read f c row.usernameEnc row.credKeyId
  let password ← read f c row.passwordEnc row.credKeyId
  return (username, password)

end CredentialRow

/-! ## Runs -/

/-- A camera with the cipher of the process; which keys have encrypted a credential, and the last
username and password that were set. -/
structure Vault where
  cipher : CredentialCipher
  row : CredentialRow
  used : List String
  username : Option String
  password : Option String

/-- A rotation of the keys or an edit. -/
inductive VaultStep
  | setKey (env : Option String)
  | setCredentials (username password : Option String) (nonce nonce' : Nat)

namespace Vault

/-- A new camera. -/
def start : Vault := ⟨.empty, ⟨none, none, none⟩, [], none, none⟩

/-- The key that an edit uses, if it sets something. -/
def usedBy (v : Vault) (username password : Option String) : List String :=
  if username.isSome || password.isSome then (v.cipher.primary.map Prod.fst).toList else []

/-- One step; an exception changes nothing. Source: `set_key` (`server/util/crypto.py:70`). -/
def step (v : Vault) : VaultStep → Vault
  | .setKey env =>
    match CredentialCipher.init f keyId env with
    | none => v
    | some cipher => { v with cipher }
  | .setCredentials username password nonce nonce' =>
    match v.row.setCredentials f v.cipher nonce nonce' username password with
    | none => v
    | some row =>
      { v with
        row
        used := v.usedBy username password ++ v.used
        username := username.or v.username
        password := password.or v.password }

/-- A rotation keeps the keys that were used, and its keys have different ids. -/
def ok (v : Vault) : VaultStep → Prop
  | .setKey env => (∀ k ∈ v.used, k ∈ keyTexts env) ∧
      ∀ k ∈ keyTexts env, ∀ k' ∈ keyTexts env, keyId k = keyId k' → k = k'
  | .setCredentials .. => True

end Vault

end

/-! ## Ciphers -/

section
variable {f : Fernet} {keyId : String → String} {c c' : CredentialCipher} {env : Option String}
  {id id' key key' : String} {byId : List (String × String)}

/-- The key that was written under an id is there. -/
theorem mem_setById : (id, key) ∈ setById byId id key := by
  unfold setById
  split
  · next h =>
    obtain ⟨e, he, heq⟩ := List.any_eq_true.1 h
    exact List.mem_map.2 ⟨e, he, if_pos (beq_iff_eq.1 heq)⟩
  · exact List.mem_append_right _ (.head _)

/-- The keys under other ids stay. -/
theorem mem_setById_of_ne (h : (id', key') ∈ byId) (hne : id' ≠ id) :
    (id', key') ∈ setById byId id key := by
  unfold setById
  split
  · exact List.mem_map.2 ⟨_, h, if_neg hne⟩
  · exact List.mem_append_left _ h

/-- The cipher holds the keys `keys`, and its primary key is one of them. -/
structure CredentialCipher.Holds (f : Fernet) (keyId : String → String) (c : CredentialCipher)
    (keys : List String) : Prop where
  byId : ∀ k ∈ keys, f.valid k = true ∧ (keyId k, k) ∈ c.byId
  primary : ∀ k, c.primary = some k → k.1 ∈ keys

/-- One more key, whose id no other key has. -/
theorem CredentialCipher.Holds.addKey {keys : List String} (h : c.Holds f keyId keys)
    (hvalid : f.valid key = true) (hid : ∀ k ∈ keys, keyId k = keyId key → k = key) :
    (c.addKey keyId key).Holds f keyId (keys ++ [key]) where
  byId := by
    intro k hk
    rcases List.mem_append.1 hk with hk | hk
    · obtain ⟨hk', hmem⟩ := h.byId k hk
      refine ⟨hk', ?_⟩
      by_cases heq : keyId k = keyId key
      · rw [hid k hk heq]
        exact mem_setById
      · exact mem_setById_of_ne hmem heq
    · rw [List.mem_singleton.1 hk]
      exact ⟨hvalid, mem_setById⟩
  primary := by
    intro k hk
    unfold CredentialCipher.addKey at hk
    cases hprimary : c.primary with
    | none =>
      rw [hprimary] at hk
      cases hk
      exact List.mem_append_right _ (.head _)
    | some k' =>
      rw [hprimary] at hk
      cases hk
      exact List.mem_append_left _ (h.primary _ hprimary)

/-- A cipher holds the keys of its environment value, when their ids are different. -/
theorem CredentialCipher.holds_init (hinit : init f keyId env = some c)
    (hids : ∀ k ∈ keyTexts env, ∀ k' ∈ keyTexts env, keyId k = keyId k' → k = k') :
    c.Holds f keyId (keyTexts env) := by
  suffices h : ∀ (keys seen : List String) (c₀ : CredentialCipher), seen ++ keys = keyTexts env →
      c₀.Holds f keyId seen → keys.foldlM (fun c key =>
        if f.valid key then some (c.addKey keyId key) else none) c₀ = some c →
      c.Holds f keyId (keyTexts env) from
    h (keyTexts env) [] empty rfl ⟨fun k hk => absurd hk List.not_mem_nil, nofun⟩ hinit
  intro keys
  induction keys with
  | nil =>
    intro seen c₀ hall hseen heq
    cases heq
    rwa [← hall, List.append_nil]
  | cons key keys ih =>
    intro seen c₀ hall hseen heq
    rw [List.foldlM_cons] at heq
    obtain ⟨c₁, hc₁, hrest⟩ := Option.bind_eq_some_iff.1 heq
    split at hc₁
    · next hvalid =>
      cases hc₁
      refine ih (seen ++ [key]) _ (by rw [List.append_assoc]; exact hall) (hseen.addKey hvalid ?_)
        hrest
      have hmem : ∀ k ∈ seen ++ key :: keys, k ∈ keyTexts env := fun k hk => hall ▸ hk
      exact fun k hk => hids k (hmem k (by simp [hk])) key (hmem key (by simp))
    · cases hc₁

/-- A text is its bytes, decoded. -/
theorem fromUTF8?_toUTF8 (s : String) : String.fromUTF8? s.toUTF8 = some s :=
  dif_pos s.isValidUTF8

/-- **The fallback**: a token is read under whatever id, as long as the cipher holds its key. -/
theorem CredentialCipher.decrypt_encrypt (hf : f.Laws) (hvalid : f.valid key = true)
    (hkey : (id, key) ∈ c.byId) (nonce : Nat) (plaintext : String) (stored : Option String) :
    c.decrypt f (f.encrypt key nonce plaintext.toUTF8) stored = some plaintext := by
  have hany : ∃ q, (c.byId.findSome? fun e =>
      f.decrypt e.2 (f.encrypt key nonce plaintext.toUTF8)) = some q := by
    rw [← Option.isSome_iff_exists, List.findSome?_isSome_iff]
    exact ⟨(id, key), hkey, by rw [hf.decrypt_encrypt key nonce _ hvalid]; rfl⟩
  obtain ⟨q, hq⟩ := hany
  obtain ⟨e, -, he⟩ := List.exists_of_findSome?_eq_some hq
  obtain rfl := hf.authentic _ _ _ _ _ he
  unfold decrypt
  rw [hq]
  cases hfirst : (c.keyOf stored).bind fun key' =>
      f.decrypt key' (f.encrypt key nonce plaintext.toUTF8) with
  | none => exact fromUTF8?_toUTF8 plaintext
  | some q' =>
    obtain ⟨key', -, hkey'⟩ := Option.bind_eq_some_iff.1 hfirst
    obtain rfl := hf.authentic _ _ _ _ _ hkey'
    exact fromUTF8?_toUTF8 plaintext

/-! ## Columns -/

/-- The ciphertext holds the text, under a key that was used. -/
def Written (f : Fernet) (used : List String) (enc : Option (List UInt8)) (text : Option String) :
    Prop :=
  match text with
  | none => enc = none
  | some t => ∃ key ∈ used, f.valid key = true ∧ ∃ nonce, enc = some (f.encrypt key nonce t.toUTF8)

theorem Written.mono {used used' : List String} {enc : Option (List UInt8)} {text : Option String}
    (h : Written f used enc text) (hsub : ∀ k ∈ used, k ∈ used') : Written f used' enc text := by
  cases text with
  | none => exact h
  | some t =>
    obtain ⟨key, hkey, hrest⟩ := h
    exact ⟨key, hsub key hkey, hrest⟩

/-- A column that was written is read by every cipher that holds the keys that were used. -/
theorem Written.read {used : List String} {enc : Option (List UInt8)} {text : Option String}
    (hf : f.Laws) (h : Written f used enc text)
    (hused : ∀ k ∈ used, ∃ id, (id, k) ∈ c.byId) (stored : Option String) :
    CredentialRow.read f c enc stored = some text := by
  cases text with
  | none =>
    cases h
    rfl
  | some t =>
    obtain ⟨key, hkey, hvalid, nonce, rfl⟩ := h
    obtain ⟨id, hid⟩ := hused key hkey
    unfold CredentialRow.read
    rw [Option.filter_some_pos (by simpa using hf.nonempty key nonce _)]
    simp only
    rw [CredentialCipher.decrypt_encrypt hf hvalid hid]
    rfl

/-! ## Edits -/

/-- What an edit makes of a column: a token of the new text under the primary key, or nothing. -/
def newColumn (f : Fernet) (primary : String) (nonce : Nat) (enc : Option (List UInt8)) :
    Option String → Option (List UInt8)
  | none => enc
  | some text => some (f.encrypt primary nonce text.toUTF8)

theorem written_newColumn {primary : String} {used : List String} {enc : Option (List UInt8)}
    {old text : Option String} (nonce : Nat) (h : Written f used enc old)
    (hvalid : f.valid primary = true) (hused : primary ∈ used) :
    Written f used (newColumn f primary nonce enc text) (text.or old) := by
  cases text with
  | none => exact h
  | some t => exact ⟨primary, hused, hvalid, nonce, rfl⟩

/-- An edit with a value needs a primary key, and writes both columns under it. -/
theorem CredentialRow.setCredentials_eq_some {row row' : CredentialRow} {nonce nonce' : Nat}
    {username password : Option String}
    (h : row.setCredentials f c nonce nonce' username password = some row')
    (hsome : (username.isSome || password.isSome) = true) :
    ∃ primary, c.primary = some primary ∧
      row'.usernameEnc = newColumn f primary.1 nonce row.usernameEnc username ∧
      row'.passwordEnc = newColumn f primary.1 nonce' row.passwordEnc password := by
  unfold setCredentials setUsername setPassword CredentialCipher.encrypt at h
  cases hprimary : c.primary with
  | none =>
    rw [hprimary] at h
    cases username with
    | some _ => cases h
    | none =>
      cases password with
      | some _ => cases h
      | none => cases hsome
  | some primary =>
    rw [hprimary] at h
    refine ⟨primary, rfl, ?_⟩
    cases username <;> cases password <;> cases h <;> exact ⟨rfl, rfl⟩

/-- Under keys that are used, an edit leaves both columns with what was set last. -/
theorem CredentialRow.written_setCredentials {row row' : CredentialRow} {nonce nonce' : Nat}
    {username password username₀ password₀ : Option String} {used : List String}
    (husername : Written f used row.usernameEnc username₀)
    (hpassword : Written f used row.passwordEnc password₀)
    (hvalid : ∀ k, c.primary = some k → f.valid k.1 = true)
    (hused : ∀ k, c.primary = some k → (username.isSome || password.isSome) = true → k.1 ∈ used)
    (h : row.setCredentials f c nonce nonce' username password = some row') :
    Written f used row'.usernameEnc (username.or username₀) ∧
      Written f used row'.passwordEnc (password.or password₀) := by
  cases hsome : username.isSome || password.isSome with
  | false =>
    rw [Bool.or_eq_false_iff, Option.isSome_eq_false_iff, Option.isSome_eq_false_iff,
      Option.isNone_iff_eq_none, Option.isNone_iff_eq_none] at hsome
    obtain ⟨rfl, rfl⟩ := hsome
    cases h
    exact ⟨husername, hpassword⟩
  | true =>
    obtain ⟨primary, hprimary, husernameEnc, hpasswordEnc⟩ := setCredentials_eq_some h hsome
    have hkey := hused primary hprimary hsome
    rw [husernameEnc, hpasswordEnc]
    exact ⟨written_newColumn nonce husername (hvalid primary hprimary) hkey,
      written_newColumn nonce' hpassword (hvalid primary hprimary) hkey⟩

namespace Vault

/-- What holds in every state: the columns hold what was set last, and the cipher holds the keys
that were used. -/
structure Inv (f : Fernet) (v : Vault) : Prop where
  username : Written f v.used v.row.usernameEnc v.username
  password : Written f v.used v.row.passwordEnc v.password
  used : ∀ k ∈ v.used, ∃ id, (id, k) ∈ v.cipher.byId
  primary : ∀ k, v.cipher.primary = some k → f.valid k.1 = true ∧ ∃ id, (id, k.1) ∈ v.cipher.byId

variable {v : Vault}

theorem inv_start : start.Inv f := ⟨rfl, rfl, fun _ hk => absurd hk List.not_mem_nil, nofun⟩

/-- A rotation that keeps the used keys keeps the invariant. -/
theorem Inv.rotate (h : v.Inv f) (hinit : CredentialCipher.init f keyId env = some c)
    (hkeep : ∀ k ∈ v.used, k ∈ keyTexts env)
    (hids : ∀ k ∈ keyTexts env, ∀ k' ∈ keyTexts env, keyId k = keyId k' → k = k') :
    Inv f { v with cipher := c } := by
  have hholds := CredentialCipher.holds_init hinit hids
  refine ⟨h.username, h.password, fun k hk => ?_, fun k hk => ?_⟩
  · exact ⟨keyId k, (hholds.byId k (hkeep k hk)).2⟩
  · obtain ⟨hvalid, hmem⟩ := hholds.byId k.1 (hholds.primary k hk)
    exact ⟨hvalid, keyId k.1, hmem⟩

/-- An edit keeps the invariant. -/
theorem Inv.edit (h : v.Inv f) {row : CredentialRow} {username password : Option String}
    {nonce nonce' : Nat}
    (hset : v.row.setCredentials f v.cipher nonce nonce' username password = some row) :
    Inv f { v with
      row
      used := v.usedBy username password ++ v.used
      username := username.or v.username
      password := password.or v.password } := by
  have hsub : ∀ k ∈ v.used, k ∈ v.usedBy username password ++ v.used :=
    fun k hk => List.mem_append_right _ hk
  have hused : ∀ k, v.cipher.primary = some k → (username.isSome || password.isSome) = true →
      k.1 ∈ v.usedBy username password ++ v.used := by
    intro k hk hsome
    rw [usedBy, if_pos hsome, hk]
    exact .head _
  obtain ⟨husername, hpassword⟩ := CredentialRow.written_setCredentials (h.username.mono hsub)
    (h.password.mono hsub) (fun k hk => (h.primary k hk).1) hused hset
  refine ⟨husername, hpassword, fun k hk => ?_, h.primary⟩
  rcases List.mem_append.1 hk with hk | hk
  · unfold usedBy at hk
    split at hk
    · obtain ⟨primary, hprimary, rfl⟩ := Option.map_eq_some_iff.1 (Option.mem_toList.1 hk)
      exact (h.primary primary hprimary).2
    · cases hk
  · exact h.used k hk

/-- Every step keeps the invariant. -/
theorem Inv.step (h : v.Inv f) {a : VaultStep} (hok : v.ok keyId a) : (v.step f keyId a).Inv f := by
  unfold Vault.step
  cases a with
  | setKey env =>
    simp only
    split
    · exact h
    · next hinit => exact h.rotate hinit hok.1 hok.2
  | setCredentials username password nonce nonce' =>
    simp only
    split
    · exact h
    · next hset => exact h.edit hset

/-- Under the invariant the credentials are those that were set last. -/
theorem Inv.getCredentials (hf : f.Laws) (h : v.Inv f) :
    v.row.getCredentials f v.cipher = some (v.username, v.password) := by
  unfold CredentialRow.getCredentials
  rw [h.username.read hf h.used, h.password.read hf h.used]
  rfl

end Vault

end

/-- **Credentials survive.** In every run of rotations of the keys, each of which keeps the keys
that were used so far, in any order, and of edits in which either value may be missing: the
credentials that are read are, for the username and for the password, the value that was set
last. -/
theorem credentials_survive (f : Fernet) (keyId : String → String) (hf : f.Laws)
    {steps : List VaultStep} {v : Vault}
    (hrun : Run (Vault.step f keyId) (Vault.ok keyId) .start steps v) :
    v.row.getCredentials f v.cipher = some (v.username, v.password) := by
  have hinv : v.Inv f := hrun.invariant (fun _ _ h hok => h.step hok) Vault.inv_start
  exact hinv.getCredentials hf

namespace VaultFixture

/-- The first byte of a key. -/
def mark (key : String) : UInt8 := (key.toUTF8.toList.headD 0)

/-- A library whose tokens are the version byte, the first byte of the key and the text. -/
def fernet : Fernet where
  valid := fun key => key.length == 44 && key.toList.getLast? == some '='
  encrypt := fun key _ p => 128 :: mark key :: p.data.toList
  decrypt := fun key token =>
    match token with
    | 128 :: b :: p => if b = mark key then some ⟨p.toArray⟩ else none
    | _ => none

theorem laws : fernet.Laws where
  decrypt_encrypt := fun _ _ _ _ => if_pos rfl
  authentic := by
    intro key key' nonce p q h
    simp only [fernet] at h
    split at h
    · cases h
      rfl
    · cases h
  nonempty := fun _ _ _ => nofun

def oldKey : String := "p5N7ZLjKpY8Dchu2us9ceMsjX-vg5wsbhM2ZVBRhoI4="

def newKey : String := "FjZ6rLZ6SgF8jairlWgsyzkIY3gPcRTdoKDgxVZEx8Q="

/-- A username and a password under one key, a new password under another one, and one more change
of the order. -/
def steps : List VaultStep :=
  [.setKey (some oldKey), .setCredentials (some "admin") (some "old") 1 2,
    .setKey (some (newKey ++ ", " ++ oldKey)), .setCredentials none (some "new") 3 4,
    .setKey (some (oldKey ++ "," ++ newKey))]

end VaultFixture

open VaultFixture in
theorem credentials_survive_fixture :
    (steps.foldl (Vault.step fernet id) .start).row.getCredentials fernet
      (steps.foldl (Vault.step fernet id) .start).cipher = some (some "admin", some "new") := by
  have hrun : Run (Vault.step fernet id) (Vault.ok id) .start steps
      (steps.foldl (Vault.step fernet id) .start) := by
    refine .cons ⟨nofun, fun _ _ _ _ h => h⟩ (.cons trivial (.cons ⟨by decide, ?_⟩
      (.cons trivial (.cons ⟨by decide, ?_⟩ .nil))))
    · exact fun _ _ _ _ h => h
    · exact fun _ _ _ _ h => h
  exact credentials_survive fernet id laws hrun

end AeroXProtect
