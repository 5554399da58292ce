import AeroXProtect.Auth.Token

/-!
# Tokens, rows and the log

What the tokens, the rows of `refresh_tokens` and the log have to do with each other, in every state
the token service can reach: ids are below the counter, a row belongs to the family and the user of
its token, and a family belongs to one user (`AuthWorld.WellFormed`). The updates of the rows only
ever age them (`RefreshTokens.Ages`): they keep the token, the family and the user of a row, and
never make a row usable again. `burned`, `lastIssued` and `revokedSince` read the log.
-/

open Lib

namespace AeroXProtect

/-! ## Reading the log -/

namespace AuthEvent

/-- A pair was signed for the user in the family. -/
def issuesTo (userId familyId : Nat) : AuthEvent → Bool
  | .issued u f _ _ => u == userId && f == familyId
  | _ => false

/-- The access token was issued. -/
def issuesAccess (accessJti : Nat) : AuthEvent → Bool
  | .issued _ _ a _ => a == accessJti
  | _ => false

/-- The event accepts a token of the family or mints one into it. -/
def into (familyId : Nat) : AuthEvent → Bool
  | .issued _ f _ _ => f == familyId
  | .exchanged _ f => f == familyId
  | _ => false

/-- The event ends the family: a replay, a logout, or a revocation of all tokens of a user for whom
the family had been started. -/
def burns (familyId : Nat) (e : AuthEvent) (before : List AuthEvent) : Bool :=
  match e with
  | .replayed f => f == familyId
  | .loggedOut f => f == familyId
  | .revokedAll u => before.any (issuesTo u familyId)
  | _ => false

end AuthEvent

/-- The family has been ended. -/
def burned (log : List AuthEvent) (familyId : Nat) : Bool := occurs (AuthEvent.burns familyId) log

/-- The refresh token most recently issued in the family. -/
def lastIssued (log : List AuthEvent) (familyId : Nat) : Option Nat :=
  log.findSome? fun
    | .issued _ f _ j => if f = familyId then some j else none
    | _ => none

/-- All tokens of the user were revoked after the access token was issued. -/
def revokedSince (log : List AuthEvent) (userId accessJti : Nat) : Bool :=
  occurs (fun e before =>
    match e with
    | .revokedAll u => u == userId && before.any (AuthEvent.issuesAccess accessJti)
    | _ => false) log

section
variable {log : List AuthEvent} {e : AuthEvent} {f : Nat}

@[simp] theorem burned_cons (e : AuthEvent) (log : List AuthEvent) (f : Nat) :
    burned (e :: log) f = (e.burns f log || burned log f) := rfl

/-- An event that mints nothing into a family leaves its most recent token. -/
theorem lastIssued_cons_of_not_into (h : e.into f = false) :
    lastIssued (e :: log) f = lastIssued log f := by
  unfold lastIssued
  rw [List.findSome?_cons]
  cases e with
  | issued u g a j =>
    have hg : ¬ g = f := by simpa [AuthEvent.into] using h
    simp [hg]
  | _ => rfl

@[simp] theorem lastIssued_issued (u f a j : Nat) (log : List AuthEvent) :
    lastIssued (.issued u f a j :: log) f = some j := by
  simp [lastIssued]

/-- A family whose user got a token is ended by the revocation of all his tokens. -/
theorem burns_revokedAll {u : Nat} :
    AuthEvent.burns f (.revokedAll u) log = true ↔ ∃ a j, .issued u f a j ∈ log := by
  unfold AuthEvent.burns
  rw [List.any_eq_true]
  constructor
  · rintro ⟨e, he, hto⟩
    cases e with
    | issued v g a j =>
      rw [AuthEvent.issuesTo, Bool.and_eq_true, beq_iff_eq, beq_iff_eq] at hto
      obtain ⟨rfl, rfl⟩ := hto
      exact ⟨a, j, he⟩
    | _ => cases hto
  · rintro ⟨a, j, he⟩
    exact ⟨_, he, by simp [AuthEvent.issuesTo]⟩

end

/-! ## Updates of rows -/

/-- What an update may do to a row: nothing, or revoke it. -/
structure RefreshToken.Ages (r r' : RefreshToken) : Prop where
  jti : r'.jti = r.jti
  familyId : r'.familyId = r.familyId
  userId : r'.userId = r.userId
  unrevoked : r'.revokedAt = none → r' = r

/-- Every row is an aged row. -/
def RefreshTokens.Ages (t t' : RefreshTokens) : Prop := ∀ r' ∈ t', ∃ r ∈ t, r.Ages r'

namespace RefreshTokens

theorem Ages.refl (t : RefreshTokens) : t.Ages t :=
  fun r hr => ⟨r, hr, rfl, rfl, rfl, fun _ => rfl⟩

/-- An update that revokes the rows it selects ages the table. -/
theorem ages_modify {t : RefreshTokens} {p : RefreshToken → Bool} {f : RefreshToken → RefreshToken}
    {hf : ∀ r, (f r).jti = r.jti}
    (h : ∀ r, (f r).familyId = r.familyId ∧ (f r).userId = r.userId ∧ (f r).revokedAt ≠ none) :
    t.Ages (t.modify p f hf) := by
  intro r' hr'
  obtain ⟨r, hr, rfl⟩ := Table.mem_modify.1 hr'
  refine ⟨r, hr, ?_⟩
  split
  · exact ⟨hf r, (h r).1, (h r).2.1, fun hn => absurd hn (h r).2.2⟩
  · exact ⟨rfl, rfl, rfl, fun _ => rfl⟩

theorem ages_markRotated (t : RefreshTokens) (jti nextJti : Nat) (now : Int) :
    t.Ages (t.markRotated jti nextJti now) :=
  ages_modify (by exact fun _ => ⟨rfl, rfl, by simp⟩)

theorem ages_revokeRows (t : RefreshTokens) (jtis : List Nat) (now : Int) :
    t.Ages (t.revokeRows jtis now) :=
  ages_modify (by exact fun _ => ⟨rfl, rfl, by simp⟩)

theorem ages_revokeAllForUser (t : RefreshTokens) (userId : Nat) (now : Int) :
    t.Ages (t.revokeAllForUser userId now) :=
  ages_modify (by exact fun _ => ⟨rfl, rfl, by simp⟩)

/-- A rotated row is revoked. -/
theorem markRotated_revoked {t : RefreshTokens} {jti nextJti : Nat} {now : Int} {r : RefreshToken}
    (hr : r ∈ t.markRotated jti nextJti now) (hj : r.jti = jti) : r.revokedAt ≠ none := by
  obtain ⟨r₀, -, rfl⟩ := Table.mem_modify.1 hr
  split
  · simp
  · next hne =>
    rw [if_neg hne] at hj
    exact absurd (beq_iff_eq.2 hj) hne

/-- The rows that were selected are revoked. -/
theorem revokeRows_revoked {t : RefreshTokens} {jtis : List Nat} {now : Int} {r : RefreshToken}
    (hr : r ∈ t.revokeRows jtis now) (hj : r.jti ∈ jtis) : r.revokedAt ≠ none := by
  obtain ⟨r₀, -, rfl⟩ := Table.mem_modify.1 hr
  split
  · simp
  · next hne =>
    rw [if_neg hne] at hj
    exact absurd (by simpa using hj) hne

/-- The rows of a revoked family are revoked. -/
theorem revokeFamily_revoked {t : RefreshTokens} {familyId : Nat} {now : Int} {r : RefreshToken}
    (hr : r ∈ t.revokeFamily familyId now) (hf : r.familyId = familyId) : r.revokedAt ≠ none := by
  intro hn
  obtain ⟨r₀, hr₀, hage⟩ := ages_revokeRows _ _ _ r hr
  obtain rfl := hage.unrevoked hn
  refine revokeRows_revoked hr ?_ hn
  refine List.mem_map.2 ⟨r, List.mem_filter.2 ⟨hr₀, ?_⟩, rfl⟩
  rw [hf, hn]
  simp

/-- The rows of a user whose tokens were revoked are revoked. -/
theorem revokeAllForUser_revoked {t : RefreshTokens} {userId : Nat} {now : Int} {r : RefreshToken}
    (hr : r ∈ t.revokeAllForUser userId now) (hu : r.userId = userId) : r.revokedAt ≠ none := by
  obtain ⟨r₀, -, rfl⟩ := Table.mem_modify.1 hr
  split
  · simp
  · next hne =>
    rw [if_neg hne] at hu
    intro hn
    exact hne (by rw [hu, hn]; simp)

end RefreshTokens

/-- A usable row is not revoked. -/
theorem RefreshToken.revokedAt_of_usable {r : RefreshToken} (h : r.usable = true) :
    r.revokedAt = none := by
  rw [RefreshToken.usable, Bool.and_eq_true, Option.isNone_iff_eq_none, Option.isNone_iff_eq_none]
    at h
  exact h.2

/-! ## What an accepted token is -/

namespace AuthWorld

section
variable {w : AuthWorld} {now : Int}

/-- When `verify_access` accepts a token. -/
theorem verifyAccess_eq_ok {t : Token} {u : User} {c : AccessClaims} :
    w.verifyAccess now t = .ok (u, c) ↔ t = .access c ∧ t ∈ w.signed ∧ seconds t.iat ≤ now ∧
      now < seconds t.exp ∧ w.isDenylisted now c.jti = false ∧ w.users.getById c.sub = some u ∧
      u.isActive = true ∧ u.tokenVersion = c.tv := by
  unfold verifyAccess decodeAccess jwtDecode
  by_cases hsig : t ∈ w.signed
  case neg => simp [hsig]
  by_cases hiat : now < seconds t.iat
  case pos => simp [hsig, hiat]
  by_cases hexp : seconds t.exp ≤ now
  case pos => simp [hsig, hiat, hexp]
  rw [if_neg (not_not.2 hsig), if_neg hiat, if_neg (by simpa using hexp)]
  cases t with
  | refresh c' => simp
  | access c' =>
    cases hden : w.isDenylisted now c'.jti with
    | true =>
      refine iff_of_false (by simp [hden]) ?_
      rintro ⟨heq, -, -, -, hfalse, -⟩
      cases heq
      rw [hden] at hfalse
      cases hfalse
    | false =>
      cases hget : w.users.getById c'.sub with
      | none =>
        refine iff_of_false (by simp [hden, hget]) ?_
        rintro ⟨heq, -, -, -, -, hsome, -⟩
        cases heq
        rw [hget] at hsome
        cases hsome
      | some v =>
        obtain ⟨-, -, hdel⟩ := Users.getById_eq_some.1 hget
        simp only [hden, hget, hdel, Option.isSome_none, Bool.or_false, Bool.false_eq_true,
          if_false]
        constructor
        · intro h
          split at h
          · cases h
          · next hact =>
            split at h
            · cases h
            · next htv =>
              cases h
              exact ⟨rfl, hsig, not_lt.1 hiat, not_le.1 hexp, hden, hget, by simpa using hact,
                not_not.1 htv⟩
        · rintro ⟨heq, -, -, -, -, hsome, hact, htv⟩
          cases heq
          rw [hget] at hsome
          cases hsome
          simp [hact, htv]

/-- What `decode` accepts as a refresh token. -/
theorem decodeRefresh_eq_ok {t : Token} {c : RefreshClaims} (h : w.decodeRefresh now t = .ok c) :
    t = .refresh c ∧ t ∈ w.signed := by
  unfold decodeRefresh jwtDecode at h
  by_cases hsig : t ∈ w.signed
  case neg => simp [hsig] at h
  refine ⟨?_, hsig⟩
  rw [if_neg (not_not.2 hsig)] at h
  split at h
  · cases h
  · next t' htok =>
    split at htok
    · cases htok
    · split at htok
      · cases htok
      · cases htok
        cases h
        rfl
  · cases h

/-- What `rotate_refresh` does: nothing, the answer to a replay, or an exchange. -/
theorem rotateRefresh_cases (w : AuthWorld) (cfg : TokenConfig) (now : Int) (t : Token) :
    (∃ e, w.rotateRefresh cfg now t = (w, .error e)) ∨
    ∃ c row, t = .refresh c ∧ t ∈ w.signed ∧ row ∈ w.refreshTokens ∧ row.jti = c.jti ∧
      (w.rotateRefresh cfg now t = (w.burn now c row, .error .refreshReuseDetected) ∨
        ∃ u, row.usable = true ∧ w.users.getById c.sub = some u ∧
          w.rotateRefresh cfg now t =
            ((w.exchange cfg now c u).1, .ok (w.exchange cfg now c u).2)) := by
  unfold rotateRefresh
  cases hdec : w.decodeRefresh now t with
  | error e => exact .inl ⟨e, rfl⟩
  | ok c =>
    obtain ⟨htok, hsig⟩ := decodeRefresh_eq_ok hdec
    dsimp only
    cases hrow : w.refreshTokens.get? c.jti with
    | none => exact .inl ⟨_, rfl⟩
    | some row =>
      obtain ⟨hmem, hjti⟩ := Table.get?_eq_some.1 hrow
      dsimp only
      split
      · exact .inr ⟨c, row, htok, hsig, hmem, hjti, .inl rfl⟩
      · next hus =>
        split
        · exact .inl ⟨_, rfl⟩
        · cases huser : w.users.getById c.sub with
          | none => exact .inl ⟨_, rfl⟩
          | some u =>
            dsimp only
            split
            · exact .inl ⟨_, rfl⟩
            · refine .inr ⟨c, row, htok, hsig, hmem, hjti, .inr ⟨u, ?_, huser, rfl⟩⟩
              rw [Bool.or_eq_true, not_or] at hus
              simpa [RefreshToken.usable] using hus

end

end AuthWorld

/-! ## The invariant of the ledger -/

namespace AuthWorld

/-- What holds between the tokens, the rows and the log. -/
structure WellFormed (w : AuthWorld) : Prop where
  signed_lt : ∀ t ∈ w.signed, t.jti < w.next
  row_lt : ∀ r ∈ w.refreshTokens, r.jti < w.next ∧ r.familyId < w.next
  issued_lt : ∀ u f a j, .issued u f a j ∈ w.log → f < w.next ∧ a < w.next
  claims : ∀ c, .refresh c ∈ w.signed → c.fid < w.next ∧
    ∀ r ∈ w.refreshTokens, r.jti = c.jti → r.familyId = c.fid ∧ r.userId = c.sub
  logged : ∀ r ∈ w.refreshTokens, ∃ a, .issued r.userId r.familyId a r.jti ∈ w.log
  family : ∀ u v f a b i j, .issued u f a i ∈ w.log → .issued v f b j ∈ w.log → u = v
  unburned : ∀ f, w.next ≤ f → burned w.log f = false

theorem WellFormed.start (users : Users) (roles : Roles) :
    (AuthWorld.start users roles).WellFormed where
  signed_lt := fun _ ht => absurd ht List.not_mem_nil
  row_lt := fun r hr => absurd hr (Table.not_mem_empty r)
  issued_lt := fun _ _ _ _ hi => absurd hi List.not_mem_nil
  claims := fun _ hc => absurd hc List.not_mem_nil
  logged := fun r hr => absurd hr (Table.not_mem_empty r)
  family := fun _ _ _ _ _ _ _ hi => absurd hi List.not_mem_nil
  unburned := fun _ _ => rfl

section
variable {w w' : AuthWorld}

/-- The rows of a family belong to the user it was started for. -/
theorem WellFormed.userId_eq (h : w.WellFormed) {u f a j : Nat} {r : RefreshToken}
    (hi : .issued u f a j ∈ w.log) (hr : r ∈ w.refreshTokens) (hf : r.familyId = f) :
    r.userId = u := by
  obtain ⟨b, hb⟩ := h.logged r hr
  exact h.family _ _ f b a _ j (hf ▸ hb) hi

/-- Aging the rows keeps the ledger well formed. -/
theorem WellFormed.ages (h : w.WellFormed) (hs : w'.signed = w.signed) (hn : w'.next = w.next)
    (hl : w'.log = w.log) (hages : w.refreshTokens.Ages w'.refreshTokens) : w'.WellFormed := by
  constructor
  · rw [hs, hn]
    exact h.signed_lt
  · intro r hr
    obtain ⟨r₀, hr₀, hage⟩ := hages r hr
    rw [hn, hage.jti, hage.familyId]
    exact h.row_lt r₀ hr₀
  · rw [hl, hn]
    exact h.issued_lt
  · intro c hc
    rw [hs] at hc
    refine ⟨hn ▸ (h.claims c hc).1, fun r hr hj => ?_⟩
    obtain ⟨r₀, hr₀, hage⟩ := hages r hr
    rw [hage.familyId, hage.userId]
    exact (h.claims c hc).2 r₀ hr₀ (hage.jti ▸ hj)
  · intro r hr
    obtain ⟨r₀, hr₀, hage⟩ := hages r hr
    rw [hl, hage.jti, hage.familyId, hage.userId]
    exact h.logged r₀ hr₀
  · rw [hl]
    exact h.family
  · rw [hl, hn]
    exact h.unburned

/-- A note that mints nothing and ends a known family keeps the ledger well formed. -/
theorem WellFormed.record (h : w.WellFormed) {e : AuthEvent} (hnew : ∀ u f a j, e ≠ .issued u f a j)
    (hold : ∀ f, e.burns f w.log = true → f < w.next) : (w.record e).WellFormed := by
  have hmem : ∀ u f a j, .issued u f a j ∈ (w.record e).log → .issued u f a j ∈ w.log := by
    intro u f a j hi
    rcases List.mem_cons.1 hi with heq | hi
    · exact absurd heq.symm (hnew u f a j)
    · exact hi
  refine ⟨h.signed_lt, h.row_lt, fun u f a j hi => h.issued_lt u f a j (hmem u f a j hi), h.claims,
    fun r hr => ?_, fun u v f a b i j hu hv => h.family u v f a b i j (hmem _ _ _ _ hu)
      (hmem _ _ _ _ hv), fun f hf => ?_⟩
  · obtain ⟨a, hi⟩ := h.logged r hr
    exact ⟨a, List.mem_cons_of_mem _ hi⟩
  show burned (e :: w.log) f = false
  rw [burned_cons, h.unburned f hf, Bool.or_false]
  cases hb : e.burns f w.log with
  | false => rfl
  | true => exact absurd (hold f hb) (Nat.not_lt.2 hf)

/-- A revocation of all tokens of a user ends known families. -/
theorem WellFormed.burns_lt (h : w.WellFormed) {u f : Nat}
    (hb : AuthEvent.burns f (.revokedAll u) w.log = true) : f < w.next := by
  obtain ⟨a, j, hi⟩ := burns_revokedAll.1 hb
  exact (h.issued_lt u f a j hi).1

/-- The row `issue_pair` inserts is new. -/
theorem WellFormed.newRow_fresh (h : w.WellFormed) (cfg : TokenConfig) (now : Int) (u : User)
    (fid : Option Nat) : ∀ r ∈ w.refreshTokens, r.jti ≠ (w.newRow cfg now u fid).jti := by
  intro r hr heq
  have hlt := (h.row_lt r hr).1
  have heq : r.jti = w.next + 1 := heq
  omega

/-- The rows after `issue_pair`. -/
theorem WellFormed.mem_insert (h : w.WellFormed) {cfg : TokenConfig} {now : Int} {u : User}
    {fid : Option Nat} {r : RefreshToken} :
    r ∈ w.refreshTokens.insert (w.newRow cfg now u fid) ↔
      r ∈ w.refreshTokens ∨ r = w.newRow cfg now u fid :=
  Table.mem_insert (h.newRow_fresh cfg now u fid)

/-- The tokens that are signed after `issue_pair`. -/
theorem mem_signed_issuePair {cfg : TokenConfig} {now : Int} {u : User} {aud : String}
    {fid : Option Nat} {t : Token} (ht : t ∈ (w.issuePair cfg now u aud fid).1.signed) :
    t = .access (w.newPair cfg now u aud fid).access ∨
      t = .refresh (w.newPair cfg now u aud fid).refresh ∨ t ∈ w.signed := by
  rcases List.mem_cons.1 ht with rfl | ht
  · exact .inl rfl
  · exact .inr (List.mem_cons.1 ht)

/-- A pair for a new family, or for a family of the user, keeps the ledger well formed. -/
theorem WellFormed.issuePair (h : w.WellFormed) {cfg : TokenConfig} {now : Int} {u : User}
    {aud : String} {fid : Option Nat}
    (hfid : ∀ f, fid = some f → f < w.next ∧ ∀ v a j, .issued v f a j ∈ w.log → v = u.id) :
    (w.issuePair cfg now u aud fid).1.WellFormed := by
  have hnext : (w.issuePair cfg now u aud fid).1.next = w.next + 3 := rfl
  have hlt : fid.getD (w.next + 2) < w.next + 3 := by
    cases fid with
    | none => exact Nat.lt_succ_self _
    | some f => exact Nat.lt_of_lt_of_le (hfid f rfl).1 (Nat.le_add_right _ _)
  have hold : ∀ v a j, .issued v (fid.getD (w.next + 2)) a j ∈ w.log → v = u.id := by
    intro v a j hi
    cases fid with
    | none => exact absurd (h.issued_lt _ _ _ _ hi).1 (by simp)
    | some f => exact (hfid f rfl).2 v a j hi
  constructor
  · intro t ht
    rw [hnext]
    rcases mem_signed_issuePair ht with rfl | rfl | ht
    · exact Nat.lt_add_of_pos_right (by omega)
    · exact Nat.add_lt_add_left (by omega) _
    · exact Nat.lt_add_right 3 (h.signed_lt t ht)
  · intro r hr
    rw [hnext]
    rcases h.mem_insert.1 hr with hr | rfl
    · exact ⟨Nat.lt_add_right 3 (h.row_lt r hr).1, Nat.lt_add_right 3 (h.row_lt r hr).2⟩
    · exact ⟨Nat.add_lt_add_left (by omega) _, hlt⟩
  · intro v f a j hi
    rw [hnext]
    rcases List.mem_cons.1 hi with heq | hi
    · cases heq
      exact ⟨hlt, Nat.lt_add_of_pos_right (by omega)⟩
    · exact ⟨Nat.lt_add_right 3 (h.issued_lt v f a j hi).1,
        Nat.lt_add_right 3 (h.issued_lt v f a j hi).2⟩
  · intro c hc
    rw [hnext]
    rcases mem_signed_issuePair hc with heq | heq | hc
    · cases heq
    · cases heq
      refine ⟨hlt, fun r hr hj => ?_⟩
      rcases h.mem_insert.1 hr with hr | rfl
      · exact absurd hj (h.newRow_fresh cfg now u fid r hr)
      · exact ⟨rfl, rfl⟩
    · refine ⟨Nat.lt_add_right 3 (h.claims c hc).1, fun r hr hj => ?_⟩
      rcases h.mem_insert.1 hr with hr | rfl
      · exact (h.claims c hc).2 r hr hj
      · have hcj : c.jti < w.next := h.signed_lt _ hc
        have hj : w.next + 1 = c.jti := hj
        omega
  · intro r hr
    rcases h.mem_insert.1 hr with hr | rfl
    · obtain ⟨a, hi⟩ := h.logged r hr
      exact ⟨a, List.mem_cons_of_mem _ hi⟩
    · exact ⟨_, List.mem_cons_self⟩
  · intro v v' f a b i j hv hv'
    rcases List.mem_cons.1 hv with heq | hv
    · cases heq
      rcases List.mem_cons.1 hv' with heq | hv'
      · cases heq
        rfl
      · exact (hold v' b j hv').symm
    · rcases List.mem_cons.1 hv' with heq | hv'
      · cases heq
        exact hold v a i hv
      · exact h.family v v' f a b i j hv hv'
  · intro f hf
    rw [hnext] at hf
    show burned (_ :: w.log) f = false
    rw [burned_cons, h.unburned f (by omega)]
    rfl

end

end AuthWorld

end AeroXProtect
