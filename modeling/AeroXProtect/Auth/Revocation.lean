import AeroXProtect.Auth.Session

/-!
# Revocation of sessions

`SessionInv` links the tokens, the rows of users and refresh tokens, the denylist and the log; every
request keeps it (`SessionInv.handle`), by one lemma for each kind of write. Two mechanisms meet in
it: the token version of a user is above the version in every access token that was issued before a
revocation of all his tokens, and a usable row of a refresh token is the last of a family that was
not ended. A token that was presented to a logout stays dead (`AuthWorld.Dead`) because its denylist
key outlives it.
-/

open Lib

namespace AeroXProtect

/-! ## The invariant -/

/-- The access token is not accepted at `now` or later: it has expired, it is denylisted for as long
as it would live, or its user is gone, inactive or has a newer token version. -/
def AuthWorld.Dead (w : AuthWorld) (now : Int) (c : AccessClaims) : Prop :=
  seconds c.exp ≤ now ∨ w.denylist.expiry c.jti ≠ none ∨
    ∀ u ∈ w.users, u.id = c.sub → u.deletedAt ≠ none ∨ u.isActive = false ∨ c.tv < u.tokenVersion

/-- What holds between requests. -/
structure SessionInv (now : Int) (w : AuthWorld) : Prop where
  ledger : w.WellFormed
  unique : ∀ t ∈ w.signed, ∀ t' ∈ w.signed, t.jti = t'.jti → t = t'
  iat_le : ∀ t ∈ w.signed, seconds t.iat ≤ now
  denied_lt : ∀ j, w.denylist.expiry j ≠ none → j < w.next
  denied_exp : ∀ t ∈ w.signed, ∀ e, w.denylist.expiry t.jti = some e → seconds t.exp ≤ e
  access : ∀ c, .access c ∈ w.signed → (∃ f j, .issued c.sub f c.jti j ∈ w.log) ∧
    ∀ u ∈ w.users, u.id = c.sub → c.tv ≤ u.tokenVersion ∧
      (revokedSince w.log c.sub c.jti = true → c.tv < u.tokenVersion)
  presented : ∀ c, .presented (.access c) ∈ w.log → .access c ∈ w.signed ∧ w.Dead now c
  usable : ∀ r ∈ w.refreshTokens, r.usable = true →
    lastIssued w.log r.familyId = some r.jti ∧ burned w.log r.familyId = false

/-- Before anyone has logged in. -/
theorem SessionInv.start (now : Int) (users : Users) (roles : Roles) :
    SessionInv now (AuthState.start now users roles).world where
  ledger := .start users roles
  unique := fun _ ht => absurd ht List.not_mem_nil
  iat_le := fun _ ht => absurd ht List.not_mem_nil
  denied_lt := fun _ hj => absurd rfl hj
  denied_exp := fun _ ht => absurd ht List.not_mem_nil
  access := fun _ hc => absurd hc List.not_mem_nil
  presented := fun _ hc => absurd hc List.not_mem_nil
  usable := fun r hr => absurd hr (Table.not_mem_empty r)

section
variable {now : Int} {w w' : AuthWorld}

/-- The invariant is kept while time passes. -/
theorem SessionInv.tick (h : SessionInv now w) {later : Int} (hle : now ≤ later) :
    SessionInv later w :=
  { h with
    iat_le := fun t ht => (h.iat_le t ht).trans hle
    presented := fun c hc =>
      ⟨(h.presented c hc).1, (h.presented c hc).2.imp_left fun hexp => hexp.trans hle⟩ }

/-! ## Writes to users -/

/-- What a write may do to a user: the id stays, the token version does not go back, and an inactive
or deleted user stays so. -/
structure User.Ages (u u' : User) : Prop where
  id : u'.id = u.id
  tokenVersion : u.tokenVersion ≤ u'.tokenVersion
  isActive : u'.isActive = true → u.isActive = true
  deletedAt : u'.deletedAt = none → u.deletedAt = none

/-- A dead token stays dead when users age. -/
theorem AuthWorld.Dead.ages {c : AccessClaims} (h : w.Dead now c)
    (hdeny : w.denylist.expiry c.jti ≠ none → w'.denylist.expiry c.jti ≠ none)
    (hages : ∀ u' ∈ w'.users, ∃ u ∈ w.users, u.Ages u') : w'.Dead now c := by
  rcases h with hexp | hden | husers
  · exact .inl hexp
  · exact .inr (.inl (hdeny hden))
  · refine .inr (.inr fun u' hu' hid => ?_)
    obtain ⟨u, hu, hage⟩ := hages u' hu'
    rcases husers u hu (hage.id ▸ hid) with hdel | hact | htv
    · exact .inl fun hn => hdel (hage.deletedAt hn)
    · refine .inr (.inl ?_)
      cases ha : u'.isActive with
      | false => rfl
      | true => rw [hage.isActive ha] at hact; cases hact
    · exact .inr (.inr (lt_of_lt_of_le htv hage.tokenVersion))

/-- A write that ages one user keeps the invariant. -/
theorem SessionInv.updateUser (h : SessionInv now w) {id : Nat} {f : User → User}
    {hf : ∀ u, (f u).id = u.id} (hages : ∀ u : User, u.Ages (f u)) :
    SessionInv now (w.updateUser id f hf) := by
  have husers : ∀ u' ∈ (w.updateUser id f hf).users, ∃ u ∈ w.users, u.Ages u' := by
    intro u' (hu' : u' ∈ w.users.modify _ f hf)
    obtain ⟨u, hu, rfl⟩ := Table.mem_modify.1 hu'
    refine ⟨u, hu, ?_⟩
    split
    · exact hages u
    · exact ⟨rfl, le_refl _, fun h => h, fun h => h⟩
  refine ⟨h.ledger.ages rfl rfl rfl (.refl _), h.unique, h.iat_le, h.denied_lt, h.denied_exp,
    fun c hc => ?_, fun c hc => ?_, h.usable⟩
  · refine ⟨(h.access c hc).1, fun u' hu' hid => ?_⟩
    obtain ⟨u, hu, hage⟩ := husers u' hu'
    obtain ⟨hle, hlt⟩ := (h.access c hc).2 u hu (hage.id ▸ hid)
    exact ⟨hle.trans hage.tokenVersion, fun hr => lt_of_lt_of_le (hlt hr) hage.tokenVersion⟩
  · exact ⟨(h.presented c hc).1, (h.presented c hc).2.ages (fun h => h) husers⟩

/-- A write that keeps the token version of a user. -/
theorem tokenVersion_updateUser {u : User} (hu : u ∈ w.users) {f : User → User}
    {hf : ∀ u, (f u).id = u.id} (hkeep : ∀ v, (f v).tokenVersion = v.tokenVersion) :
    ∀ v ∈ (w.updateUser u.id f hf).users, v.id = u.id → v.tokenVersion = u.tokenVersion := by
  intro v (hv : v ∈ w.users.modify _ f hf) hid
  obtain ⟨v₀, hv₀, rfl⟩ := Table.mem_modify.1 hv
  split at hid
  · next hsel => rw [if_pos hsel, hkeep, Table.eq_of_key_eq hv₀ hu (beq_iff_eq.1 hsel)]
  · next hsel => exact absurd (beq_iff_eq.2 hid) hsel

/-! ## Writes to the denylist -/

/-- The key of a token lives at least as long as the token. -/
theorem exp_le_expiry (exp now : Int) :
    seconds exp ≤ now + seconds (if remainingTtl exp now ≤ 0 then 1 else remainingTtl exp now) := by
  have hpos : ¬ remainingTtl exp now ≤ 0 := by
    unfold remainingTtl
    omega
  have hsec := seconds_epochSeconds_le now
  rw [if_neg hpos]
  unfold remainingTtl seconds at *
  omega

/-- Denylisting a signed token keeps the invariant. -/
theorem SessionInv.revoke (h : SessionInv now w) {t : Token} (ht : t ∈ w.signed) :
    SessionInv now (w.revoke now t.jti (remainingTtl t.exp now)) := by
  have hother : ∀ j, j ≠ t.jti →
      (w.revoke now t.jti (remainingTtl t.exp now)).denylist.expiry j = w.denylist.expiry j :=
    fun j hj => Expiring.expiry_setex_of_ne hj
  refine ⟨h.ledger.ages rfl rfl rfl (.refl _), h.unique, h.iat_le, fun j hj => ?_,
    fun t' ht' e he => ?_, h.access, fun c hc => ⟨(h.presented c hc).1, ?_⟩, h.usable⟩
  · by_cases hjt : j = t.jti
    · rw [hjt]
      exact h.ledger.signed_lt t ht
    · rw [hother j hjt] at hj
      exact h.denied_lt j hj
  · by_cases hjt : t'.jti = t.jti
    · obtain rfl := h.unique t' ht' t ht hjt
      obtain rfl := Option.some.inj ((Expiring.expiry_setex_self _ _ _ _).symm.trans he)
      exact exp_le_expiry t'.exp now
    · rw [hother _ hjt] at he
      exact h.denied_exp t' ht' e he
  · refine (h.presented c hc).2.ages (fun hden => ?_) fun u hu =>
      ⟨u, hu, rfl, le_refl _, fun h => h, fun h => h⟩
    by_cases hjt : c.jti = t.jti
    · rw [hjt]
      show (w.denylist.setex _ _ _).expiry _ ≠ none
      rw [Expiring.expiry_setex_self]
      simp
    · rw [hother _ hjt]
      exact hden

/-! ## Notes in the log -/

/-- The events that neither mint a token, nor end a family, nor note a presented token. -/
theorem SessionInv.exchanged (h : SessionInv now w) (jti f : Nat) :
    SessionInv now (w.record (.exchanged jti f)) where
  ledger := h.ledger.record (fun _ _ _ _ => by simp) fun _ hb => by cases hb
  unique := h.unique
  iat_le := h.iat_le
  denied_lt := h.denied_lt
  denied_exp := h.denied_exp
  access := fun c hc => by
    obtain ⟨⟨f, j, hi⟩, hu⟩ := h.access c hc
    exact ⟨⟨f, j, List.mem_cons_of_mem _ hi⟩, hu⟩
  presented := fun c hc => h.presented c (by simpa [AuthWorld.record] using hc)
  usable := h.usable

/-- A signed token that is dead may be noted as presented. -/
theorem SessionInv.notePresented (h : SessionInv now w) {t : Token} (ht : t ∈ w.signed)
    (hdead : ∀ c, t = .access c → w.Dead now c) : SessionInv now (w.record (.presented t)) where
  ledger := h.ledger.record (fun _ _ _ _ => by simp) fun _ hb => by cases hb
  unique := h.unique
  iat_le := h.iat_le
  denied_lt := h.denied_lt
  denied_exp := h.denied_exp
  access := fun c hc => by
    obtain ⟨⟨f, j, hi⟩, hu⟩ := h.access c hc
    exact ⟨⟨f, j, List.mem_cons_of_mem _ hi⟩, hu⟩
  presented := fun c hc => by
    rcases List.mem_cons.1 hc with heq | hc
    · cases heq
      exact ⟨ht, hdead c rfl⟩
    · exact h.presented c hc
  usable := h.usable

/-! ## Revocation of refresh tokens -/

/-- The end of a family: its rows are revoked, and a replay or a logout is noted. -/
theorem SessionInv.endFamily (h : SessionInv now w) {f : Nat} {e : AuthEvent}
    (he : e = .replayed f ∨ e = .loggedOut f) (hf : f < w.next) :
    SessionInv now
      { w.record e with refreshTokens := w.refreshTokens.revokeFamily f now } := by
  have hburns : ∀ g log, e.burns g log = (f == g) := by
    rcases he with rfl | rfl <;> exact fun _ _ => rfl
  have hnew : ∀ u g a j, e ≠ .issued u g a j := by
    rcases he with rfl | rfl <;> simp
  have hledger : (w.record e).WellFormed := by
    refine h.ledger.record hnew fun g hg => ?_
    rw [hburns, beq_iff_eq] at hg
    exact hg ▸ hf
  refine ⟨hledger.ages rfl rfl rfl (RefreshTokens.ages_revokeRows _ _ _), h.unique, h.iat_le,
    h.denied_lt, h.denied_exp, fun c hc => ?_, fun c hc => h.presented c ?_, fun r hr hus => ?_⟩
  · obtain ⟨⟨g, j, hi⟩, hu⟩ := h.access c hc
    refine ⟨⟨g, j, List.mem_cons_of_mem _ hi⟩, fun u huse hid => ⟨(hu u huse hid).1, fun hr => ?_⟩⟩
    refine (hu u huse hid).2 ?_
    rcases he with rfl | rfl <;> exact hr
  · rcases List.mem_cons.1 hc with heq | hc
    · rcases he with rfl | rfl <;> cases heq
    · exact hc
  · have hrev := RefreshToken.revokedAt_of_usable hus
    have hfam : ¬ f = r.familyId := fun heq =>
      RefreshTokens.revokeFamily_revoked hr heq.symm hrev
    obtain ⟨r₀, hr₀, hage⟩ := RefreshTokens.ages_revokeRows _ _ _ r hr
    obtain rfl := hage.unrevoked hrev
    obtain ⟨hlast, hburn⟩ := h.usable r hr₀ hus
    constructor
    · show lastIssued (e :: w.log) r.familyId = _
      rw [lastIssued_cons_of_not_into (by rcases he with rfl | rfl <;> rfl), hlast]
    · show burned (e :: w.log) r.familyId = false
      rw [burned_cons, hburns, hburn, Bool.or_false, beq_eq_false_iff_ne]
      exact hfam

/-- All tokens of a user are revoked. -/
theorem SessionInv.revokeAll (h : SessionInv now w) {u : User}
    (hu : ∀ v ∈ w.users, v.id = u.id → v.tokenVersion = u.tokenVersion) :
    SessionInv now (w.revokeAll now u) := by
  have hbump : ∀ v' ∈ (w.revokeAll now u).users, ∃ v ∈ w.users, v.Ages v' ∧
      (v.id = u.id → v'.tokenVersion = v.tokenVersion + 1) := by
    intro v' (hv' : v' ∈ w.users.bumpTokenVersion u)
    unfold Users.bumpTokenVersion at hv'
    obtain ⟨v, hv, rfl⟩ := Table.mem_modify.1 hv'
    refine ⟨v, hv, ?_⟩
    split
    · next hid =>
      have htv := hu v hv (beq_iff_eq.1 hid)
      exact ⟨⟨rfl, by dsimp only; omega, fun h => h, fun h => h⟩, fun _ => by dsimp only; omega⟩
    · next hid =>
      exact ⟨⟨rfl, le_refl _, fun h => h, fun h => h⟩, fun heq => absurd (beq_iff_eq.2 heq) hid⟩
  have hledger : (w.record (.revokedAll u.id)).WellFormed :=
    h.ledger.record (by simp) fun f hb => h.ledger.burns_lt hb
  refine ⟨hledger.ages rfl rfl rfl (RefreshTokens.ages_revokeAllForUser _ _ _), h.unique, h.iat_le,
    h.denied_lt, h.denied_exp, fun c hc => ?_, fun c hc => ?_, fun r hr hus => ?_⟩
  · obtain ⟨⟨f, j, hi⟩, htv⟩ := h.access c hc
    refine ⟨⟨f, j, List.mem_cons_of_mem _ hi⟩, fun v' hv' hid => ?_⟩
    obtain ⟨v, hv, hage, hup⟩ := hbump v' hv'
    obtain ⟨hle, hlt⟩ := htv v hv (hage.id ▸ hid)
    refine ⟨hle.trans hage.tokenVersion, fun hr => ?_⟩
    by_cases hvu : v.id = u.id
    · have := hup hvu
      omega
    · -- The revocation is of another user, so the note does not count for this token.
      refine lt_of_lt_of_le (hlt ?_) hage.tokenVersion
      have hne : (u.id == c.sub) = false := by
        rw [beq_eq_false_iff_ne]
        exact fun heq => hvu ((hage.id ▸ hid : v.id = c.sub).trans heq.symm)
      change (u.id == c.sub && _ || revokedSince w.log c.sub c.jti) = true at hr
      rwa [hne, Bool.false_and, Bool.false_or] at hr
  · have hc : .presented (.access c) ∈ w.log := by
      simpa [AuthWorld.revokeAll, AuthWorld.record] using hc
    refine ⟨(h.presented c hc).1, (h.presented c hc).2.ages (fun h => h) fun v' hv' => ?_⟩
    obtain ⟨v, hv, hage, -⟩ := hbump v' hv'
    exact ⟨v, hv, hage⟩
  · have hrev := RefreshToken.revokedAt_of_usable hus
    have huser : r.userId ≠ u.id := fun heq =>
      RefreshTokens.revokeAllForUser_revoked hr heq hrev
    obtain ⟨r₀, hr₀, hage⟩ := RefreshTokens.ages_revokeAllForUser _ _ _ r hr
    obtain rfl := hage.unrevoked hrev
    obtain ⟨hlast, hburn⟩ := h.usable r hr₀ hus
    refine ⟨(lastIssued_cons_of_not_into rfl).trans hlast, ?_⟩
    show burned (.revokedAll u.id :: w.log) r.familyId = false
    rw [burned_cons, hburn, Bool.or_false]
    cases hb : AuthEvent.burns r.familyId (.revokedAll u.id) w.log with
    | false => rfl
    | true =>
      obtain ⟨a, j, hi⟩ := burns_revokedAll.1 hb
      exact absurd (h.ledger.userId_eq hi hr₀ rfl) huser

/-! ## New pairs -/

/-- No revocation has happened since a token was issued that is not in the log. -/
theorem revokedSince_of_fresh {log : List AuthEvent} {u a : Nat}
    (h : ∀ v f j, .issued v f a j ∉ log) : revokedSince log u a = false := by
  have hany : ∀ before : List AuthEvent, (∀ v f j, .issued v f a j ∉ before) →
      before.any (AuthEvent.issuesAccess a) = false := by
    intro before hb
    rw [List.any_eq_false]
    intro e he
    cases e with
    | issued v f b j =>
      intro heq
      rw [AuthEvent.issuesAccess, beq_iff_eq] at heq
      exact hb v f j (heq ▸ he)
    | _ => simp [AuthEvent.issuesAccess]
  induction log with
  | nil => rfl
  | cons e log ih =>
    have hlog : ∀ v f j, .issued v f a j ∉ log :=
      fun v f j hi => h v f j (List.mem_cons_of_mem _ hi)
    unfold revokedSince at ih ⊢
    rw [occurs_cons, ih hlog, Bool.or_false]
    cases e with
    | revokedAll v => simp only [hany log hlog, Bool.and_false]
    | _ => rfl

/-- A new pair keeps the invariant when its refresh token is the only usable one of its family,
which has not been ended. The rows may age in the same request. -/
theorem SessionInv.issuePair (h : SessionInv now w) {cfg : TokenConfig} {u : User} {aud : String}
    {fid : Option Nat} {t : RefreshTokens}
    (hu : ∀ v ∈ w.users, v.id = u.id → v.tokenVersion = u.tokenVersion)
    (hledger : (w.issuePair cfg now u aud fid).1.WellFormed)
    (hages : (w.issuePair cfg now u aud fid).1.refreshTokens.Ages t)
    (hsole : ∀ r ∈ t, r.usable = true → r.familyId = fid.getD (w.next + 2) → r.jti = w.next + 1)
    (hburn : burned w.log (fid.getD (w.next + 2)) = false) :
    SessionInv now { (w.issuePair cfg now u aud fid).1 with refreshTokens := t } := by
  have hdeny : ∀ j, w.next ≤ j → w.denylist.expiry j = none := by
    intro j hj
    by_contra hne
    exact absurd (h.denied_lt j hne) (by omega)
  refine ⟨hledger.ages rfl rfl rfl hages, fun t₁ h₁ t₂ h₂ hj => ?_, fun t₁ h₁ => ?_,
    fun j hj => Nat.lt_add_right 3 (h.denied_lt j hj), fun t₁ h₁ e he => ?_, fun c hc => ?_,
    fun c hc => ?_, fun r hr hus => ?_⟩
  · rcases AuthWorld.mem_signed_issuePair h₁ with rfl | rfl | h₁ <;>
      rcases AuthWorld.mem_signed_issuePair h₂ with rfl | rfl | h₂
    · rfl
    · exact absurd hj (by simp [Token.jti, AuthWorld.newPair])
    · exact absurd (h.ledger.signed_lt _ h₂) (by rw [← hj]; simp [Token.jti, AuthWorld.newPair])
    · exact absurd hj (by simp [Token.jti, AuthWorld.newPair])
    · rfl
    · exact absurd (h.ledger.signed_lt _ h₂) (by rw [← hj]; simp [Token.jti, AuthWorld.newPair])
    · exact absurd (h.ledger.signed_lt _ h₁) (by rw [hj]; simp [Token.jti, AuthWorld.newPair])
    · exact absurd (h.ledger.signed_lt _ h₁) (by rw [hj]; simp [Token.jti, AuthWorld.newPair])
    · exact h.unique t₁ h₁ t₂ h₂ hj
  · rcases AuthWorld.mem_signed_issuePair h₁ with rfl | rfl | h₁
    · exact seconds_epochSeconds_le now
    · exact seconds_epochSeconds_le now
    · exact h.iat_le t₁ h₁
  · rcases AuthWorld.mem_signed_issuePair h₁ with rfl | rfl | h₁
    · exact absurd ((hdeny w.next (le_refl _)).symm.trans he) (by simp)
    · exact absurd ((hdeny (w.next + 1) (by omega)).symm.trans he) (by simp)
    · exact h.denied_exp t₁ h₁ e he
  · rcases AuthWorld.mem_signed_issuePair hc with heq | heq | hc
    · cases heq
      refine ⟨⟨_, _, List.mem_cons_self⟩, fun v hv hid => ?_⟩
      have htv := hu v hv hid
      refine ⟨le_of_eq htv.symm, fun hrev => ?_⟩
      have hfresh : revokedSince w.log u.id w.next = false :=
        revokedSince_of_fresh fun v f j hi => absurd (h.ledger.issued_lt v f _ j hi).2 (by simp)
      exact absurd (hfresh.symm.trans hrev) (by simp)
    · cases heq
    · obtain ⟨⟨f, j, hi⟩, htv⟩ := h.access c hc
      exact ⟨⟨f, j, List.mem_cons_of_mem _ hi⟩, htv⟩
  · have hc : .presented (.access c) ∈ w.log := by
      simpa [AuthWorld.issuePair, AuthWorld.record] using hc
    exact ⟨List.mem_cons_of_mem _ (List.mem_cons_of_mem _ (h.presented c hc).1),
      (h.presented c hc).2⟩
  · obtain ⟨r₀, hr₀, hage⟩ := hages r hr
    obtain rfl := hage.unrevoked (RefreshToken.revokedAt_of_usable hus)
    show lastIssued (.issued u.id (fid.getD (w.next + 2)) w.next (w.next + 1) :: w.log) r.familyId =
      some r.jti ∧ burned (.issued _ _ _ _ :: w.log) r.familyId = false
    by_cases hfam : r.familyId = fid.getD (w.next + 2)
    · rw [hfam, lastIssued_issued, hsole r hr hus hfam]
      exact ⟨rfl, hburn⟩
    · rw [lastIssued_cons_of_not_into (by simpa [AuthEvent.into] using fun h => hfam h.symm)]
      rcases h.ledger.mem_insert.1 hr₀ with hr₀ | rfl
      · exact h.usable r hr₀ hus
      · exact absurd rfl hfam

/-- A pair for a new family keeps the invariant. -/
theorem SessionInv.startFamily (h : SessionInv now w) (cfg : TokenConfig) {u : User} (aud : String)
    (hu : ∀ v ∈ w.users, v.id = u.id → v.tokenVersion = u.tokenVersion) :
    SessionInv now (w.issuePair cfg now u aud none).1 := by
  refine h.issuePair hu (h.ledger.issuePair (by simp)) (.refl _) (fun r hr _ hf => ?_)
    (h.ledger.unburned _ (Nat.le_add_right _ _))
  rcases h.ledger.mem_insert.1 hr with hold | rfl
  · exact absurd (h.ledger.row_lt r hold).2 (by rw [hf]; simp)
  · rfl

/-- The exchange of a usable refresh token keeps the invariant. -/
theorem SessionInv.exchange (h : SessionInv now w) {cfg : TokenConfig} {c : RefreshClaims}
    {row : RefreshToken} {u : User} (hc : .refresh c ∈ w.signed) (hrow : row ∈ w.refreshTokens)
    (hjti : row.jti = c.jti) (hus : row.usable = true) (hget : w.users.getById c.sub = some u) :
    SessionInv now (w.exchange cfg now c u).1 := by
  obtain ⟨hu, huid, -⟩ := Users.getById_eq_some.1 hget
  obtain ⟨hfid, huser⟩ := (h.ledger.claims c hc).2 row hrow hjti
  obtain ⟨hlast, hburn⟩ := h.usable row hrow hus
  rw [hfid] at hlast hburn
  have howner : ∀ v a j, .issued v c.fid a j ∈ w.log → v = u.id := by
    intro v a j hi
    rw [← h.ledger.userId_eq hi hrow hfid, huser, huid]
  have hledger : (w.issuePair cfg now u c.aud (some c.fid)).1.WellFormed := by
    refine h.ledger.issuePair ?_
    rintro f ⟨⟩
    exact ⟨(h.ledger.claims c hc).1, howner⟩
  have hminted := h.issuePair (fun v hv hid => by rw [Table.eq_of_key_eq hv hu hid]) hledger
    (RefreshTokens.ages_markRotated _ c.jti (w.next + 1) now) (fun r hr hrus hf => ?_) hburn
  · have hnoted := hminted.exchanged c.jti c.fid
    exact hnoted.revoke (t := .refresh c) (List.mem_cons_of_mem _ (List.mem_cons_of_mem _ hc))
  · have hrev := RefreshToken.revokedAt_of_usable hrus
    obtain ⟨r₀, hr₀, hage⟩ := RefreshTokens.ages_markRotated _ _ _ _ r hr
    obtain rfl := hage.unrevoked hrev
    rcases h.ledger.mem_insert.1 hr₀ with hold | rfl
    · -- The only usable row of the family was the one that is now rotated.
      have hlast' := (h.usable r hold hrus).1
      rw [show r.familyId = c.fid from hf, hlast, hjti] at hlast'
      exact absurd hrev (RefreshTokens.markRotated_revoked hr (Option.some.inj hlast').symm)
    · rfl

/-! ## Requests -/

/-- A signed access token that is refused is dead. -/
theorem SessionInv.dead_of_refused (h : SessionInv now w) {c : AccessClaims}
    (hc : .access c ∈ w.signed) (href : ∀ u, w.verifyAccess now (.access c) ≠ .ok (u, c)) :
    w.Dead now c := by
  by_contra hdead
  obtain ⟨hexp, hrest⟩ := not_or.1 hdead
  obtain ⟨hden, husers⟩ := not_or.1 hrest
  push Not at husers
  obtain ⟨u, hu, hid, hdel, hact, htv⟩ := husers
  refine href u (AuthWorld.verifyAccess_eq_ok.2 ⟨rfl, hc, h.iat_le _ hc, not_le.1 hexp, ?_,
    Users.getById_eq_some.2 ⟨hu, hid, hdel⟩, by simpa using hact, ?_⟩)
  · rw [not_not] at hden
    simp [AuthWorld.isDenylisted, Expiring.live, hden]
  · exact le_antisymm htv ((h.access c hc).2 u hu hid).1

/-- The answer to a replay keeps the invariant. -/
theorem SessionInv.burn (h : SessionInv now w) {c : RefreshClaims} {row : RefreshToken}
    (hc : .refresh c ∈ w.signed) (hrow : row ∈ w.refreshTokens) :
    SessionInv now (w.burn now c row) :=
  (h.endFamily (.inl rfl) (h.ledger.row_lt row hrow).2).revoke (t := .refresh c) hc

/-- A rotation keeps the invariant. -/
theorem SessionInv.rotateRefresh (h : SessionInv now w) (cfg : TokenConfig) (t : Token) :
    SessionInv now (w.rotateRefresh cfg now t).1 := by
  rcases w.rotateRefresh_cases cfg now t with
    ⟨e, heq⟩ | ⟨c, row, rfl, hc, hrow, hjti, heq | ⟨u, hus, hget, heq⟩⟩
  · rw [heq]
    exact h
  · rw [heq]
    exact h.burn hc hrow
  · rw [heq]
    exact h.exchange hc hrow hjti hus hget

/-- A login keeps the invariant. -/
theorem SessionInv.login (h : SessionInv now w) (cfg : AuthConfig)
    (loginId password : Option String) :
    SessionInv now (w.login cfg now loginId password).1 := by
  unfold AuthWorld.login
  dsimp only
  split
  · exact h
  · split
    · exact h
    · next u hget =>
      have hu : u ∈ w.users := List.mem_of_find?_eq_some hget
      split
      · exact h
      · split
        · refine h.updateUser fun v => ?_
          unfold User.registerFailedLogin
          dsimp only
          split <;> exact ⟨rfl, le_refl _, fun h => h, fun h => h⟩
        · split
          · exact h
          · have hlogged : SessionInv now
                (w.updateUser u.id fun v => v.registerSuccessfulLogin now) :=
              h.updateUser fun v => ⟨rfl, le_refl _, fun h => h, fun h => h⟩
            exact hlogged.startFamily cfg.token "web" (tokenVersion_updateUser hu fun _ => rfl)

/-- The end of the family of a refresh token at a logout keeps the invariant. -/
theorem SessionInv.logoutFamily (h : SessionInv now w) (refreshJti : Option Nat) :
    SessionInv now (w.logoutFamily now refreshJti) := by
  unfold AuthWorld.logoutFamily
  split
  · exact h
  · next row hrow =>
    obtain ⟨j, -, hget⟩ := Option.bind_eq_some_iff.1 hrow
    exact h.endFamily (.inr rfl) (h.ledger.row_lt row (Table.get?_eq_some.1 hget).1).2

/-- A logout keeps the invariant. -/
theorem SessionInv.logout (h : SessionInv now w) (access cookie : Option Token) :
    SessionInv now (w.logout now access cookie).1 := by
  unfold AuthWorld.logout AuthWorld.notePresented
  cases access with
  | none => exact h
  | some t =>
    dsimp only
    by_cases hsig : t ∈ w.signed
    · rw [if_pos hsig]
      have hsame : (w.record (.presented t)).currentUser now (some t) =
          w.currentUser now (some t) := rfl
      rw [hsame]
      cases hcur : w.currentUser now (some t) with
      | none =>
        refine h.notePresented hsig ?_
        rintro c rfl
        refine h.dead_of_refused hsig fun u hok => ?_
        simp [AuthWorld.currentUser, hok, Except.toOption] at hcur
      | some x =>
        obtain ⟨u, c⟩ := x
        have hok : w.verifyAccess now t = .ok (u, c) := by
          change (w.verifyAccess now t).toOption = some (u, c) at hcur
          cases hv : w.verifyAccess now t with
          | error e => rw [hv] at hcur; cases hcur
          | ok y => rw [hv] at hcur; cases hcur; rfl
        obtain ⟨rfl, -⟩ := AuthWorld.verifyAccess_eq_ok.1 hok
        have hdenied := h.revoke hsig
        have hnoted := hdenied.notePresented hsig fun c' heq => .inr (.inl ?_)
        · exact hnoted.logoutFamily _
        · cases heq
          show (w.denylist.setex _ _ _).expiry _ ≠ none
          simp [Token.jti]
    · rw [if_neg hsig]
      have hcur : w.currentUser now (some t) = none := by
        change (w.verifyAccess now t).toOption = none
        cases hv : w.verifyAccess now t with
        | error e => rfl
        | ok x => exact absurd (AuthWorld.verifyAccess_eq_ok.1 hv).2.1 hsig
      rw [hcur]
      exact h

/-- A new password keeps the invariant. -/
theorem SessionInv.replacePassword (h : SessionInv now w) (cfg : AuthConfig) (salt : String)
    {u : User} (hu : u ∈ w.users) (password : String) :
    SessionInv now (w.replacePassword cfg now salt u password) := by
  unfold AuthWorld.replacePassword
  refine SessionInv.revokeAll (h.updateUser ?_) (tokenVersion_updateUser hu fun _ => rfl)
  exact fun v => ⟨rfl, le_refl _, fun h => h, fun h => h⟩

/-- The caller is a user. -/
theorem AuthWorld.mem_of_currentUser {access : Option Token} {u : User} {c : AccessClaims}
    (h : w.currentUser now access = some (u, c)) : u ∈ w.users := by
  obtain ⟨t, -, ht⟩ := Option.bind_eq_some_iff.1 h
  cases hv : w.verifyAccess now t with
  | error e => rw [hv] at ht; cases ht
  | ok x =>
    rw [hv] at ht
    cases ht
    exact (Users.getById_eq_some.1 (AuthWorld.verifyAccess_eq_ok.1 hv).2.2.2.2.2.1).1

/-- A change of the password keeps the invariant. -/
theorem SessionInv.changePassword (h : SessionInv now w) (cfg : AuthConfig) (salt : String)
    (access : Option Token) (previous password : Option String) :
    SessionInv now (w.changePassword cfg now salt access previous password).1 := by
  unfold AuthWorld.changePassword
  split
  · exact h
  · next u c hcur =>
    dsimp only
    split
    · exact h
    · split
      · exact h
      · split
        · exact h
        · exact h.replacePassword cfg salt (AuthWorld.mem_of_currentUser hcur) _

/-- A guarded route keeps the invariant when what it guards does. -/
theorem SessionInv.withPermission (h : SessionInv now w) {access : Option Token}
    {resource action : String} {act : User → AuthWorld × Except ApiError Unit}
    (hact : ∀ actor, SessionInv now (act actor).1) :
    SessionInv now (w.withPermission now access resource action act).1 := by
  unfold AuthWorld.withPermission
  split
  · exact h
  · split
    · exact h
    · exact hact _

/-- The reset of a password keeps the invariant. -/
theorem SessionInv.resetPassword (h : SessionInv now w) (cfg : AuthConfig) (salt : String)
    (access : Option Token) (uuid : String) (password : Option String) :
    SessionInv now (w.resetPassword cfg now salt access uuid password).1 := by
  refine h.withPermission fun actor => ?_
  split
  · exact h
  · split
    · exact h
    · next u hget =>
      split
      · exact h
      · exact h.replacePassword cfg salt (List.mem_of_find?_eq_some hget) _

/-- The deletion of a user keeps the invariant. -/
theorem SessionInv.deleteUser (h : SessionInv now w) (access : Option Token) (uuid : String) :
    SessionInv now (w.deleteUser now access uuid).1 := by
  refine h.withPermission fun actor => ?_
  split
  · exact h
  · next u hget =>
    have hu : u ∈ w.users := List.mem_of_find?_eq_some hget
    split
    · exact h
    · split
      · exact h
      · split
        · exact h
        · refine SessionInv.revokeAll (h.updateUser ?_) (tokenVersion_updateUser hu fun _ => rfl)
          exact fun v => ⟨rfl, le_refl _, fun h => h, by simp⟩

/-- The deactivation of a user keeps the invariant. -/
theorem SessionInv.deactivateUser (h : SessionInv now w) (access : Option Token) (uuid : String) :
    SessionInv now (w.deactivateUser now access uuid).1 := by
  refine h.withPermission fun actor => ?_
  split
  · exact h
  · split
    · exact h
    · split
      · exact h
      · exact h.updateUser fun v => ⟨rfl, le_refl _, by simp, fun h => h⟩

/-- Every request keeps the invariant. -/
theorem SessionInv.handle (h : SessionInv now w) (cfg : AuthConfig) (r : AuthRequest) :
    SessionInv now (w.handle cfg now r) := by
  cases r with
  | login loginId password => exact h.login cfg loginId password
  | refresh token =>
    show SessionInv now (w.refresh cfg now token).1
    unfold AuthWorld.refresh
    cases token with
    | none => exact h
    | some t =>
      have hrot := h.rotateRefresh cfg.token t
      dsimp only
      split
      · next heq => rwa [heq] at hrot
      · next heq => rwa [heq] at hrot
  | logout access cookie => exact h.logout access cookie
  | changePassword salt access previous password =>
    exact h.changePassword cfg salt access previous password
  | resetPassword salt access uuid password => exact h.resetPassword cfg salt access uuid password
  | deleteUser access uuid => exact h.deleteUser access uuid
  | deactivateUser access uuid => exact h.deactivateUser access uuid

/-! ## Accepted tokens -/

/-- An accepted access token was not presented to a logout. -/
theorem SessionInv.not_presented (h : SessionInv now w) {t : Token} {u : User} {c : AccessClaims}
    (hok : w.verifyAccess now t = .ok (u, c)) : .presented t ∉ w.log := by
  obtain ⟨rfl, hsig, -, hexp, hden, hget, hact, htv⟩ := AuthWorld.verifyAccess_eq_ok.1 hok
  obtain ⟨hu, hid, hdel⟩ := Users.getById_eq_some.1 hget
  intro hmem
  rcases (h.presented c hmem).2 with hdead | hdead | hdead
  · exact absurd hexp (not_lt.2 hdead)
  · cases hkey : w.denylist.expiry c.jti with
    | none => exact hdead hkey
    | some e =>
      have hle := h.denied_exp _ hsig e hkey
      rw [AuthWorld.isDenylisted, Expiring.live, hkey, decide_eq_false_iff_not] at hden
      exact hden (Int.le_of_lt (lt_of_lt_of_le hexp hle))
  · rcases hdead u hu hid with hdel' | hact' | htv'
    · exact hdel' hdel
    · rw [hact] at hact'
      cases hact'
    · omega

/-- An accepted access token was issued, and not revoked with all tokens of its user since. -/
theorem SessionInv.not_revokedSince (h : SessionInv now w) {t : Token} {u : User} {c : AccessClaims}
    (hok : w.verifyAccess now t = .ok (u, c)) :
    (∃ f j, .issued c.sub f c.jti j ∈ w.log) ∧ revokedSince w.log c.sub c.jti = false := by
  obtain ⟨rfl, hsig, -, -, -, hget, -, htv⟩ := AuthWorld.verifyAccess_eq_ok.1 hok
  obtain ⟨hu, hid, -⟩ := Users.getById_eq_some.1 hget
  obtain ⟨hissued, hver⟩ := h.access c hsig
  refine ⟨hissued, ?_⟩
  cases hrev : revokedSince w.log c.sub c.jti with
  | false => rfl
  | true =>
    have := (hver u hu hid).2 hrev
    omega

end

/-- **Revocation over whole runs.** After every finite run of requests, at every later instant: an
access token that `verify_access` accepts belongs to an active user who is not deleted, all of whose
tokens were not revoked since it was issued, and it was never presented to a logout; a refresh token
that `rotate_refresh` accepts is the one most recently issued in its family, and the family was not
ended: by a replay, by a logout, or by a revocation of all tokens of its user since it was started.
-/
theorem session_revocation (cfg : AuthConfig) (now₀ : Int) (users : Users) (roles : Roles)
    (rs : List (Nat × AuthRequest)) (now : Int)
    (hnow : (rs.foldl (AuthState.step cfg) (.start now₀ users roles)).now ≤ now) :
    let w := (rs.foldl (AuthState.step cfg) (.start now₀ users roles)).world
    (∀ t u c, w.verifyAccess now t = .ok (u, c) →
      t = .access c ∧ u ∈ w.users ∧ u.id = c.sub ∧ u.isActive = true ∧ u.deletedAt = none ∧
      (∃ f j, .issued c.sub f c.jti j ∈ w.log) ∧ revokedSince w.log c.sub c.jti = false ∧
      .presented t ∉ w.log) ∧
    ∀ t pair, (w.rotateRefresh cfg.token now t).2 = .ok pair →
      ∃ c, t = .refresh c ∧ lastIssued w.log c.fid = some c.jti ∧ burned w.log c.fid = false := by
  intro w
  have hinv : SessionInv now w := by
    refine SessionInv.tick ?_ hnow
    have hstart : SessionInv (AuthState.start now₀ users roles).now _ := .start now₀ users roles
    refine List.foldlRecOn rs (AuthState.step cfg) (motive := fun s => SessionInv s.now s.world)
      hstart fun s hs a _ => ?_
    exact (hs.tick (Int.le_add_of_nonneg_right (Int.natCast_nonneg _))).handle cfg a.2
  constructor
  · intro t u c hok
    obtain ⟨htok, -, -, -, -, hget, hact, -⟩ := AuthWorld.verifyAccess_eq_ok.1 hok
    obtain ⟨hu, hid, hdel⟩ := Users.getById_eq_some.1 hget
    obtain ⟨hissued, hsince⟩ := hinv.not_revokedSince hok
    exact ⟨htok, hu, hid, hact, hdel, hissued, hsince, hinv.not_presented hok⟩
  · intro t pair hok
    rcases w.rotateRefresh_cases cfg.token now t with
      ⟨e, heq⟩ | ⟨c, row, rfl, hc, hrow, hjti, heq | ⟨u, hus, hget, heq⟩⟩
    · rw [heq] at hok
      cases hok
    · rw [heq] at hok
      cases hok
    · obtain ⟨hlast, hburn⟩ := hinv.usable row hrow hus
      rw [((hinv.ledger.claims c hc).2 row hrow hjti).1] at hlast hburn
      exact ⟨c, rfl, hjti ▸ hlast, hburn⟩

namespace AuthFixture

/-- A login, and the refresh token is exchanged a second later. -/
def renewal : List (Nat × AuthRequest) := [login, (1000000, .refresh (some refresh))]

/-- The tables after the renewal. -/
def renewedWorld : AuthWorld :=
  (renewal.foldl (AuthState.step config) (.start 1000000 users roles)).world

end AuthFixture

/-- After a renewal the access token of the login is accepted, the new refresh token is the one
accepted of its family, and the first one is a replay. -/
theorem session_revocation_fixture :
    (∃ u c, AuthFixture.renewedWorld.verifyAccess 3000000 AuthFixture.access = .ok (u, c) ∧
      revokedSince AuthFixture.renewedWorld.log c.sub c.jti = false) ∧
    (∃ c, AuthFixture.renewed = .refresh c ∧
      lastIssued AuthFixture.renewedWorld.log c.fid = some c.jti ∧
      burned AuthFixture.renewedWorld.log c.fid = false) ∧
    (AuthFixture.renewedWorld.rotateRefresh AuthFixture.config.token 3000000
      AuthFixture.refresh).2 = .error .refreshReuseDetected := by
  have hlaw := session_revocation AuthFixture.config 1000000 AuthFixture.users AuthFixture.roles
    AuthFixture.renewal 3000000 (by decide +kernel)
  have haccess : ∃ x, AuthFixture.renewedWorld.verifyAccess 3000000 AuthFixture.access = .ok x :=
    ⟨_, rfl⟩
  have hrefresh : ∃ pair, (AuthFixture.renewedWorld.rotateRefresh AuthFixture.config.token 3000000
      AuthFixture.renewed).2 = .ok pair := ⟨_, rfl⟩
  obtain ⟨⟨u, c⟩, haccess⟩ := haccess
  obtain ⟨pair, hrefresh⟩ := hrefresh
  obtain ⟨-, -, -, -, -, -, hsince, -⟩ := hlaw.1 _ _ _ haccess
  exact ⟨⟨u, c, haccess, hsince⟩, hlaw.2 _ _ hrefresh, rfl⟩

end AeroXProtect
