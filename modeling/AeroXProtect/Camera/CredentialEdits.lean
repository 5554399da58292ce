import AeroXProtect.Camera.Controller
import AeroXProtect.Camera.Credentials

/-!
# Blank credentials

Runs of requests that register and edit cameras. The controller encrypts the credentials of an edit
when one of the two is not blank, and `set_credentials` then encrypts both, unless they are missing.
So an edit that gives one credential and leaves the other one blank stores the blank, and so does a
registration with a blank. `credentials_kept_iff` is the run without these.
-/

open Lib

namespace AeroXProtect.Registration

/-! ## Runs -/

/-- A camera with its ciphertext columns, and the last username and the last password that were not
empty, of the requests that were taken. -/
structure WithCredentials where
  camera : Registered
  enc : CredentialRow
  username : Option String
  password : Option String

/-- A request to register a camera or to edit the one with a `uuid`. -/
inductive CredentialRequest
  | create (e : Encode) (uuid : String) (data : Json) (actor nonce nonce' : Nat)
  | update (e : Encode) (uuid : String) (data : Json) (actor nonce nonce' : Nat)

/-- The last value that is not empty. -/
def lastSupplied (x : Json) (old : Option String) : Option String :=
  ((credentialText x).filter (· != "")).or old

/-- Neither credential of a request is the empty text. -/
def NoBlank (data : Json) : Prop :=
  data.field "username" ≠ .str "" ∧ data.field "password" ≠ .str ""

namespace WithCredentials

/-- The camera is the one that `get_by_uuid` looks for. -/
def isLive (uuid : String) (h : WithCredentials) : Bool :=
  decide (h.camera.row.uuid = uuid) && h.camera.row.deletedAt.isNone

/-- What an edit makes of the first camera it finds. -/
def editFirst (uuid : String) (g : WithCredentials → WithCredentials) :
    List WithCredentials → List WithCredentials
  | [] => []
  | h :: s => if h.isLive uuid then g h :: s else h :: editFirst uuid g s

section
variable (b : Backend) (f : Fernet) (c : CredentialCipher)

/-- The ciphertext columns after `set_credentials`; `none` for an exception. -/
def encrypted (data : Json) (nonce nonce' : Nat) (enc : CredentialRow) : Option CredentialRow :=
  enc.setCredentials f c nonce nonce' (credentialText (data.field "username"))
    (credentialText (data.field "password"))

/-- The camera of a request that registers one; `none` when the request is refused. -/
def registered (e : Encode) (dup : Json → String → Int → Bool) (uuid : String) (data : Json)
    (actor nonce nonce' : Nat) : Option WithCredentials :=
  match (createOne b e dup uuid data actor).1 with
  | none => none
  | some camera =>
    (encrypted f c data nonce nonce' ⟨none, none, none⟩).map fun enc =>
      { camera, enc
        username := lastSupplied (data.field "username") none
        password := lastSupplied (data.field "password") none }

/-- The camera after a request that edits it; `none` when the request is refused. -/
def edited (e : Encode) (data : Json) (actor nonce nonce' : Nat) (h : WithCredentials) :
    Option WithCredentials :=
  match editRow b data actor h.camera.row with
  | .error _ => none
  | .ok row =>
    if b.takesCamera row then
      (if touches data then encrypted f c data nonce nonce' h.enc else some h.enc).map fun enc =>
        { camera := (updateOne b e data actor h.camera).1
          enc
          username := lastSupplied (data.field "username") h.username
          password := lastSupplied (data.field "password") h.password }
    else none

/-- The cameras after a request. -/
def step (s : List WithCredentials) : CredentialRequest → List WithCredentials
  | .create e uuid data actor nonce nonce' =>
    let dup := fun serial host channel =>
      (findDuplicate b (s.map camera) serial host channel).isSome
    s ++ (registered b f c e dup uuid data actor nonce nonce').toList
  | .update e uuid data actor nonce nonce' =>
    editFirst uuid (fun h => (edited b f c e data actor nonce nonce' h).getD h) s

/-- A registration that is taken has no blank credential, and an edit that is taken has none beside
a credential that is given. -/
def ok (s : List WithCredentials) : CredentialRequest → Prop
  | .create e uuid data actor nonce nonce' =>
    let dup := fun serial host channel =>
      (findDuplicate b (s.map camera) serial host channel).isSome
    (registered b f c e dup uuid data actor nonce nonce').isSome → NoBlank data
  | .update e uuid data actor nonce nonce' =>
    ∀ h, s.find? (isLive uuid) = some h → (edited b f c e data actor nonce nonce' h).isSome →
      touches data → NoBlank data

end

/-! ## The calls of the controller -/

section
variable {b : Backend} {f : Fernet} {c : CredentialCipher} {data : Json} {uuid : String}
  {s : List WithCredentials} {h h' : WithCredentials}

theorem isSome_encrypted (hprimary : c.primary.isSome) (nonce nonce' : Nat) (enc : CredentialRow) :
    (encrypted f c data nonce nonce' enc).isSome := by
  obtain ⟨primary, hprimary⟩ := Option.isSome_iff_exists.1 hprimary
  unfold encrypted CredentialRow.setCredentials CredentialRow.setUsername CredentialRow.setPassword
    CredentialCipher.encrypt
  rw [hprimary]
  cases credentialText (data.field "username") <;> cases credentialText (data.field "password") <;>
    rfl

theorem map_editFirst {g : WithCredentials → WithCredentials} :
    (editFirst uuid g s).map camera =
      match s.find? (isLive uuid) with
      | none => s.map camera
      | some h => put uuid (g h).camera (s.map camera) := by
  induction s with
  | nil => rfl
  | cons h s ih =>
    unfold editFirst
    rw [List.find?_cons, List.map_cons]
    cases hlive : h.isLive uuid with
    | true =>
      simp only [if_true, List.map_cons]
      exact (if_pos hlive).symm
    | false =>
      simp only [Bool.false_eq_true, if_false, List.map_cons, ih]
      cases s.find? (isLive uuid) with
      | none => rfl
      | some h' => exact (if_neg (by rw [← isLive, hlive]; exact Bool.false_ne_true)).symm

/-- An edit that is refused leaves the camera as it is. -/
theorem camera_edited (hprimary : c.primary.isSome) {e : Encode} {actor nonce nonce' : Nat} :
    ((edited b f c e data actor nonce nonce' h).getD h).camera =
      (updateOne b e data actor h.camera).1 := by
  unfold edited
  rcases updateOne_cases b e data actor h.camera with
    ⟨hrefused, failure, heq⟩ | ⟨row, hrow, htakes, -⟩
  · rw [heq]
    split
    · rfl
    · next row hrow => rw [if_neg (by rw [hrefused row hrow]; exact Bool.false_ne_true)]; rfl
  · have hsome : (if touches data then encrypted f c data nonce nonce' h.enc
        else some h.enc).isSome := by
      split
      · exact isSome_encrypted hprimary nonce nonce' h.enc
      · rfl
    obtain ⟨enc, henc⟩ := Option.isSome_iff_exists.1 hsome
    rw [hrow]
    simp only [if_pos htakes]
    rw [henc]
    rfl

/-- **The connection**: under a cipher with a key, the cameras are those of the controller. -/
theorem map_camera_step (hprimary : c.primary.isSome) (a : CredentialRequest) :
    (step b f c s a).map camera =
      match a with
      | .create e uuid data actor _ _ => (create b e uuid data actor (s.map camera)).1
      | .update e uuid data actor _ _ => (update b e uuid data actor (s.map camera)).1 := by
  cases a with
  | create e uuid data actor nonce nonce' =>
    simp only [step, create, List.map_append, registered]
    congr 1
    split
    · next hnone => rw [hnone]; rfl
    · next r hsome =>
      have henc : (encrypted f c data nonce nonce' ⟨none, none, none⟩).isSome :=
        isSome_encrypted hprimary nonce nonce' _
      obtain ⟨enc, henc⟩ := Option.isSome_iff_exists.1 henc
      rw [hsome, henc]
      rfl
  | update e uuid data actor nonce nonce' =>
    have hfind : getByUuid (s.map camera) uuid = (s.find? (isLive uuid)).map camera :=
      List.find?_map
    simp only [step, update, map_editFirst, hfind]
    cases s.find? (isLive uuid) with
    | none => rfl
    | some h => simp only [camera_edited hprimary, Option.map_some]

end

/-! ## The credentials of the row -/

section
variable {b : Backend} {e : Encode} {data : Json} {actor : Nat} {r : Registered} {row : CameraRow}

theorem credentials_syncAndSetStatus (loaded : List StreamRow) (markOnline : Bool) (now : Int) :
    (syncAndSetStatus e loaded markOnline now r).row.username = r.row.username ∧
      (syncAndSetStatus e loaded markOnline now r).row.password = r.row.password := by
  obtain ⟨status, lastSeenAt, lastError, heq⟩ := syncAndSetStatus_eq e loaded markOnline now r
  rw [heq]
  exact ⟨rfl, rfl⟩

theorem credentials_resync (streamDicts : Json) (markOnline : Bool) (now : Int) :
    (resync b e streamDicts markOnline now r).1.row.username = r.row.username ∧
      (resync b e streamDicts markOnline now r).1.row.password = r.row.password := by
  rcases resync_cases b e streamDicts markOnline now r with ⟨-, heq⟩ | ⟨-, failure, heq⟩
  · rw [heq]
    exact credentials_syncAndSetStatus r.streams markOnline now
  · rw [heq]
    exact ⟨rfl, rfl⟩

/-- A new camera has the credentials of its request. -/
theorem credentials_createOne {dup : Json → String → Int → Bool} {uuid : String}
    (h : (createOne b e dup uuid data actor).1 = some r) :
    r.row.username = credentialText (data.field "username") ∧
      r.row.password = credentialText (data.field "password") := by
  rcases createOne_cases b e dup uuid data actor with
    ⟨-, failure, heq⟩ | ⟨row, hrow, -, ⟨-, heq⟩ | ⟨-, failure, heq⟩⟩
  · rw [heq] at h
    cases h
  · rw [heq] at h
    obtain rfl := Option.some.inj h
    obtain ⟨husername, hpassword⟩ := credentials_syncAndSetStatus (e := e)
      (r := ⟨row, markLive (rowsOf b row (createStreams data)), ∅⟩)
      (markLive (rowsOf b row (createStreams data))) false 0
    rw [husername, hpassword]
    obtain ⟨name, host, channel, rtspTransport, -, -, rfl⟩ := createRow_eq_ok hrow
    exact ⟨rfl, rfl⟩
  · rw [heq] at h
    obtain rfl := Option.some.inj h
    obtain ⟨name, host, channel, rtspTransport, -, -, rfl⟩ := createRow_eq_ok hrow
    exact ⟨rfl, rfl⟩

/-- An edit that is taken sets the credentials if it touches them. -/
theorem credentials_updateOne (hrow : editRow b data actor r.row = .ok row)
    (htakes : b.takesCamera row = true) :
    (updateOne b e data actor r).1.row.username =
        (if touches data then (credentialText (data.field "username")).or r.row.username
          else r.row.username) ∧
      (updateOne b e data actor r).1.row.password =
        if touches data then (credentialText (data.field "password")).or r.row.password
          else r.row.password := by
  have heq : updateOne b e data actor r =
      resync b e (data.field "streams") false 0 { r with row } := by
    rw [updateOne, hrow]
    exact if_pos htakes
  obtain ⟨husername, hpassword⟩ := credentials_resync (b := b) (e := e) (r := { r with row })
    (data.field "streams") false 0
  rw [heq, husername, hpassword]
  obtain ⟨-, rtspTransport, rfl⟩ := editRow_eq_ok hrow
  exact ⟨rfl, rfl⟩

end

/-! ## What a camera holds -/

section
variable {b : Backend} {f : Fernet} {c : CredentialCipher} {data : Json} {uuid : String}
  {s : List WithCredentials} {h h' : WithCredentials} {x : Json} {old : Option String}

theorem lastSupplied_ne_empty (hold : old ≠ some "") : lastSupplied x old ≠ some "" := by
  unfold lastSupplied
  cases hx : (credentialText x).filter (· != "") with
  | none => exact hold
  | some t =>
    have ht := (Option.filter_eq_some_iff.1 hx).2
    intro heq
    cases heq
    exact absurd ht (by decide)

/-- A value that is blank or missing supplies nothing. -/
theorem lastSupplied_of_not_truthy (hx : x.truthy = false) : lastSupplied x old = old := by
  unfold lastSupplied
  cases x with
  | str t =>
    rw [credentialText, Option.filter_some,
      if_neg (by rw [← Json.truthy, hx]; exact Bool.false_ne_true)]
    rfl
  | _ => rfl

/-- A value is stored as the last one that was supplied, unless it is blank. -/
theorem credentialText_or_eq_iff (hold : old ≠ some "") :
    (credentialText x).or old = lastSupplied x old ↔ x ≠ .str "" := by
  unfold lastSupplied
  cases x with
  | str t =>
    by_cases ht : t = ""
    · subst ht
      refine iff_of_false (fun heq => hold ?_) (fun hne => hne rfl)
      exact heq.symm
    · refine iff_of_true ?_ fun heq => ht (Json.str.inj heq)
      rw [credentialText, Option.filter_some, if_pos (by simpa using ht)]
  | _ => exact iff_of_true rfl nofun

/-- The ciphertexts hold the credentials of the row, and no empty value was supplied. -/
structure Wf (f : Fernet) (c : CredentialCipher) (h : WithCredentials) : Prop where
  usernameEnc : Written f (c.primary.map Prod.fst).toList h.enc.usernameEnc h.camera.row.username
  passwordEnc : Written f (c.primary.map Prod.fst).toList h.enc.passwordEnc h.camera.row.password
  username : h.username ≠ some ""
  password : h.password ≠ some ""

/-- The credentials of the row are the last ones that were supplied. -/
def Kept (h : WithCredentials) : Prop :=
  h.camera.row.username = h.username ∧ h.camera.row.password = h.password

/-- Under a cipher that holds its keys, the credentials are those of the row. -/
theorem Wf.getCredentials (hf : f.Laws)
    (hkey : ∀ k, c.primary = some k → ∃ id, (id, k.1) ∈ c.byId) (h : WithCredentials)
    (hwf : h.Wf f c) :
    h.enc.getCredentials f c = some (h.camera.row.username, h.camera.row.password) := by
  have hused : ∀ k ∈ (c.primary.map Prod.fst).toList, ∃ id, (id, k) ∈ c.byId := by
    intro k hk
    obtain ⟨primary, hprimary, rfl⟩ := Option.map_eq_some_iff.1 (Option.mem_toList.1 hk)
    exact hkey primary hprimary
  unfold CredentialRow.getCredentials
  rw [hwf.usernameEnc.read hf hused, hwf.passwordEnc.read hf hused]
  rfl

/-- The ciphertext columns hold the credentials of a row. -/
structure Encrypts (f : Fernet) (used : List String) (enc : CredentialRow) (row : CameraRow) :
    Prop where
  username : Written f used enc.usernameEnc row.username
  password : Written f used enc.passwordEnc row.password

/-- `set_credentials` on the columns does what it does on the row in clear. -/
theorem Encrypts.setCredentials {used : List String} {enc enc' : CredentialRow}
    {row row' : CameraRow} {username password : Json} {nonce nonce' : Nat}
    (h : Encrypts f used enc row) (hvalid : ∀ k, c.primary = some k → f.valid k.1 = true)
    (hused : ∀ k, c.primary = some k → k.1 ∈ used)
    (hrow : Registration.setCredentials username password row = .ok row')
    (henc : enc.setCredentials f c nonce nonce' (credentialText username)
      (credentialText password) = some enc') : Encrypts f used enc' row' := by
  obtain ⟨husername, hpassword⟩ := CredentialRow.written_setCredentials h.username h.password hvalid
    (fun k hk _ => hused k hk) henc
  rw [setCredentials_eq_ok hrow]
  exact ⟨husername, hpassword⟩

/-- **Register**: the columns hold the credentials of the request, which are the supplied ones if
none is blank. -/
theorem wf_registered (hvalid : ∀ k, c.primary = some k → f.valid k.1 = true) {e : Encode}
    {dup : Json → String → Int → Bool} {actor nonce nonce' : Nat}
    (heq : registered b f c e dup uuid data actor nonce nonce' = some h) :
    h.Wf f c ∧ (h.Kept ↔ NoBlank data) := by
  unfold registered at heq
  split at heq
  · cases heq
  · next r hr =>
    obtain ⟨enc, henc, rfl⟩ := Option.map_eq_some_iff.1 heq
    obtain ⟨husername, hpassword⟩ := credentials_createOne hr
    have hnew : Written f (c.primary.map Prod.fst).toList none none := rfl
    obtain ⟨husernameEnc, hpasswordEnc⟩ := CredentialRow.written_setCredentials hnew hnew hvalid
      (fun k hk _ => by rw [hk]; exact .head _) henc
    rw [Option.or_none] at husernameEnc hpasswordEnc
    refine ⟨⟨husername ▸ husernameEnc, hpassword ▸ hpasswordEnc, lastSupplied_ne_empty nofun,
      lastSupplied_ne_empty nofun⟩, ?_⟩
    have hiff (x : Json) : credentialText x = lastSupplied x none ↔ x ≠ .str "" := by
      have hnone : (none : Option String) ≠ some "" := nofun
      have h := credentialText_or_eq_iff (x := x) hnone
      rwa [Option.or_none] at h
    unfold Kept NoBlank
    rw [husername, hpassword]
    exact and_congr (hiff _) (hiff _)

/-- **Edit**: the columns hold the credentials of the row; they are still the supplied ones if the
edit touches none, or none that it gives is blank. -/
theorem wf_edited (hvalid : ∀ k, c.primary = some k → f.valid k.1 = true) (hwf : h.Wf f c)
    {e : Encode} {actor nonce nonce' : Nat}
    (heq : edited b f c e data actor nonce nonce' h = some h') :
    h'.Wf f c ∧ (h.Kept → (h'.Kept ↔ (touches data → NoBlank data))) := by
  unfold edited at heq
  split at heq
  · cases heq
  · next row hrow =>
    split at heq
    · next htakes =>
      obtain ⟨enc, henc, rfl⟩ := Option.map_eq_some_iff.1 heq
      obtain ⟨husername, hpassword⟩ := credentials_updateOne (e := e) hrow htakes
      cases htouches : touches data with
      | true =>
        rw [if_pos htouches] at henc husername hpassword
        obtain ⟨husernameEnc, hpasswordEnc⟩ := CredentialRow.written_setCredentials
          hwf.usernameEnc hwf.passwordEnc hvalid (fun k hk _ => by rw [hk]; exact .head _) henc
        refine ⟨⟨husername ▸ husernameEnc, hpassword ▸ hpasswordEnc,
          lastSupplied_ne_empty hwf.username, lastSupplied_ne_empty hwf.password⟩, ?_⟩
        rintro ⟨hkeptUsername, hkeptPassword⟩
        unfold Kept NoBlank
        rw [husername, hpassword, hkeptUsername, hkeptPassword,
          credentialText_or_eq_iff hwf.username, credentialText_or_eq_iff hwf.password]
        exact ⟨fun h _ => h, fun h => h rfl⟩
      | false =>
        obtain ⟨hu, hp⟩ := Bool.or_eq_false_iff.1 htouches
        rw [htouches] at henc husername hpassword
        simp only [Bool.false_eq_true, if_false] at henc husername hpassword
        cases henc
        rw [lastSupplied_of_not_truthy hu, lastSupplied_of_not_truthy hp]
        refine ⟨⟨husername ▸ hwf.usernameEnc, hpassword ▸ hwf.passwordEnc, hwf.username,
          hwf.password⟩, fun hkept => iff_of_true ⟨?_, ?_⟩ nofun⟩
        · exact husername.trans hkept.1
        · exact hpassword.trans hkept.2
    · cases heq

/-- An edit of the first camera of a `uuid`, where the others have a property already. -/
theorem forall_editFirst {g : WithCredentials → WithCredentials} {P : WithCredentials → Prop}
    (hs : ∀ h ∈ s, P h) :
    (∀ h ∈ editFirst uuid g s, P h) ↔ ∀ h, s.find? (isLive uuid) = some h → P (g h) := by
  induction s with
  | nil =>
    rw [List.find?_nil]
    exact iff_of_true (fun h hh => absurd hh List.not_mem_nil) fun h heq => nomatch heq
  | cons h s ih =>
    have hrest : ∀ h ∈ s, P h := fun h hh => hs h (.tail _ hh)
    unfold editFirst
    rw [List.find?_cons]
    cases hlive : h.isLive uuid with
    | true =>
      simp only [if_true, List.forall_mem_cons, Option.some.injEq, forall_eq']
      exact and_iff_left hrest
    | false =>
      simp only [Bool.false_eq_true, if_false, List.forall_mem_cons]
      rw [ih hrest]
      exact and_iff_right (hs h (.head _))

/-- Every request keeps the columns. -/
theorem wf_step (hvalid : ∀ k, c.primary = some k → f.valid k.1 = true)
    (hs : ∀ h ∈ s, h.Wf f c) (a : CredentialRequest) : ∀ h ∈ step b f c s a, h.Wf f c := by
  cases a with
  | create e uuid data actor nonce nonce' =>
    refine List.forall_mem_append.2 ⟨hs, fun h hh => ?_⟩
    exact (wf_registered hvalid (Option.mem_toList.1 hh)).1
  | update e uuid data actor nonce nonce' =>
    refine (forall_editFirst hs).2 fun h hfind => ?_
    have hwf := hs h (List.mem_of_find?_eq_some hfind)
    cases heq : edited b f c e data actor nonce nonce' h with
    | none => exact hwf
    | some h' => exact (wf_edited hvalid hwf heq).1

/-- A request keeps the supplied credentials exactly if it is admitted. -/
theorem kept_step (hvalid : ∀ k, c.primary = some k → f.valid k.1 = true)
    (hs : ∀ h ∈ s, h.Wf f c) (hkept : ∀ h ∈ s, h.Kept) (a : CredentialRequest) :
    (∀ h ∈ step b f c s a, h.Kept) ↔ ok b f c s a := by
  cases a with
  | create e uuid data actor nonce nonce' =>
    unfold step ok
    simp only
    rw [List.forall_mem_append, and_iff_right hkept]
    generalize hreg : registered b f c e _ uuid data actor nonce nonce' = reg
    cases reg with
    | none => exact iff_of_true (fun h hh => absurd hh List.not_mem_nil) nofun
    | some h =>
      rw [Option.toList_some, List.forall_mem_singleton, (wf_registered hvalid hreg).2]
      exact ⟨fun hnot _ => hnot, fun hnot => hnot rfl⟩
  | update e uuid data actor nonce nonce' =>
    unfold step ok
    rw [forall_editFirst hkept]
    refine forall₂_congr fun h hfind => ?_
    have hmem := List.mem_of_find?_eq_some hfind
    cases heq : edited b f c e data actor nonce nonce' h with
    | none => exact iff_of_true (hkept h hmem) nofun
    | some h' =>
      rw [Option.getD_some, (wf_edited hvalid (hs h hmem) heq).2 (hkept h hmem)]
      exact ⟨fun hnot _ => hnot, fun hnot => hnot rfl⟩

end

end WithCredentials

/-- **Blank credentials.** Under a cipher with the keys of an environment value, in a run of
requests that register and edit cameras, the credentials of every camera are after every request the
last username and the last password that were not empty exactly if no registration that is taken has
an empty credential, and no edit that is taken has one together with a credential that is given. -/
theorem credentials_kept_iff (b : Backend) (f : Fernet) (keyId : String → String) (hf : f.Laws)
    {env : Option String} {c : CredentialCipher}
    (hinit : CredentialCipher.init f keyId env = some c)
    (hids : ∀ k ∈ keyTexts env, ∀ k' ∈ keyTexts env, keyId k = keyId k' → k = k')
    (requests : List CredentialRequest) :
    (∀ pre, pre <+: requests → ∀ h ∈ pre.foldl (WithCredentials.step b f c) [],
      h.enc.getCredentials f c = some (h.username, h.password)) ↔
      ∀ pre a, pre ++ [a] <+: requests →
        WithCredentials.ok b f c (pre.foldl (WithCredentials.step b f c) []) a := by
  have hholds := CredentialCipher.holds_init hinit hids
  have hvalid : ∀ k, c.primary = some k → f.valid k.1 = true :=
    fun k hk => (hholds.byId k.1 (hholds.primary k hk)).1
  have hkey : ∀ k, c.primary = some k → ∃ id, (id, k.1) ∈ c.byId :=
    fun k hk => ⟨keyId k.1, (hholds.byId k.1 (hholds.primary k hk)).2⟩
  have hwf (pre : List CredentialRequest) :
      ∀ h ∈ pre.foldl (WithCredentials.step b f c) [], h.Wf f c :=
    List.foldlRecOn (motive := fun s => ∀ h ∈ s, WithCredentials.Wf f c h) pre _
      (fun h hh => absurd hh List.not_mem_nil) fun _ hs a _ => WithCredentials.wf_step hvalid hs a
  have hread (pre : List CredentialRequest) :
      (∀ h ∈ pre.foldl (WithCredentials.step b f c) [],
        h.enc.getCredentials f c = some (h.username, h.password)) ↔
      (∀ h ∈ pre.foldl (WithCredentials.step b f c) [], h.Wf f c) ∧
        ∀ h ∈ pre.foldl (WithCredentials.step b f c) [], h.Kept := by
    rw [and_iff_right (hwf pre)]
    refine forall₂_congr fun h hh => ?_
    rw [(hwf pre h hh).getCredentials hf hkey, Option.some.injEq, Prod.mk.injEq]
    rfl
  have hstep : ∀ (s : List WithCredentials) a,
      (∀ h ∈ s, h.Wf f c) ∧ (∀ h ∈ s, h.Kept) →
      ((∀ h ∈ WithCredentials.step b f c s a, h.Wf f c) ∧
          (∀ h ∈ WithCredentials.step b f c s a, h.Kept) ↔ WithCredentials.ok b f c s a) := by
    rintro s a ⟨hs, hkept⟩
    rw [and_iff_right (WithCredentials.wf_step hvalid hs a)]
    exact WithCredentials.kept_step hvalid hs hkept a
  refine Iff.trans (forall₂_congr fun pre _ => hread pre) (forall_prefix_iff hstep ?_)
  exact ⟨fun h hh => absurd hh List.not_mem_nil, fun h hh => absurd hh List.not_mem_nil⟩

namespace CredentialFixture

open VaultFixture

/-- The cipher of one key. -/
def cipher : CredentialCipher := ⟨[(oldKey, oldKey)], some (oldKey, oldKey)⟩

def create (username password : Json) : CredentialRequest :=
  .create ⟨false, false⟩ "c1" (.obj [("name", .str "Door"), ("host", .str "10.0.0.9"),
    ("username", username), ("password", password)]) 1 1 2

def update (username password : Json) : CredentialRequest :=
  .update ⟨false, false⟩ "c1" (.obj [("username", username), ("password", password)]) 1 3 4

/-- The cameras after requests. -/
def run (requests : List CredentialRequest) : List WithCredentials :=
  requests.foldl (WithCredentials.step accepting fernet cipher) []

/-- The password is replaced by an edit that has no username. -/
def separate : List CredentialRequest :=
  [create (.str "admin") (.str "old"), update .null (.str "new")]

/-- The form of an edit sends the empty username that is not to be changed. -/
def together : List CredentialRequest :=
  [create (.str "admin") (.str "old"), update (.str "") (.str "new")]

end CredentialFixture

open VaultFixture CredentialFixture in
/-- An edit of the password alone keeps the username. -/
theorem credentials_kept_separate :
    (run separate).map (fun h => h.enc.getCredentials fernet cipher) =
      [some (some "admin", some "new")] := by
  have hids : ∀ k ∈ keyTexts (some oldKey), ∀ k' ∈ keyTexts (some oldKey), id k = id k' → k = k' :=
    fun _ _ _ _ h => h
  have hkept := (credentials_kept_iff accepting fernet id laws (by rfl) hids separate).2
    (forall_prefix_cons.2 ⟨fun _ => ⟨by decide, by decide⟩, forall_prefix_cons.2
      ⟨fun _ _ _ _ => ⟨by decide, by decide⟩, forall_prefix_nil⟩⟩) separate List.prefix_rfl
  refine (List.map_congr_left hkept).trans ?_
  decide +kernel

open VaultFixture CredentialFixture in
/-- The blank username of an edit that gives the password is stored. -/
theorem not_credentials_kept : ¬ ∀ (b : Backend) (f : Fernet) (keyId : String → String), f.Laws →
    ∀ (env : Option String) (c : CredentialCipher), CredentialCipher.init f keyId env = some c →
    (∀ k ∈ keyTexts env, ∀ k' ∈ keyTexts env, keyId k = keyId k' → k = k') →
    ∀ requests : List CredentialRequest, ∀ pre, pre <+: requests →
    ∀ h ∈ pre.foldl (WithCredentials.step b f c) [],
      h.enc.getCredentials f c = some (h.username, h.password) := by
  intro h
  have hkept : ∀ h ∈ run together,
      h.enc.getCredentials fernet cipher = some (h.username, h.password) :=
    h accepting fernet id laws (some oldKey) cipher (by rfl) (fun _ _ _ _ h => h) together together
      List.prefix_rfl
  have hread : (run together).map (fun h => h.enc.getCredentials fernet cipher) =
      [some (some "", some "new")] := by decide +kernel
  have hlast : (run together).map (fun h => some (h.username, h.password)) =
      [some (some "admin", some "new")] := by decide +kernel
  rw [List.map_congr_left hkept, hlast] at hread
  exact absurd hread (by decide)

end AeroXProtect.Registration
