import AeroXProtect.Auth.Kinds

/-!
# The tokens of users in both models

`AuthWorld` has the tokens of users by type, with a log of what has happened; `TokenWorld` has the
claims of the tokens of every kind. Both model the token service. `Mirrors` relates their states,
and the service does the same in both: a verification answers the same (`verifyAccess_mirrors`), and
a new pair and a rotation answer the same and keep the states related (`issuePair_mirrors`,
`rotateRefresh_mirrors`).
-/

open Lib

namespace AeroXProtect

/-! ## What a token says -/

/-- The claims of a token of a user. -/
def Token.claims : Token → Claims
  | .access c =>
    { sub := toString c.sub, aud := c.aud, typ := "access", tv := some c.tv, mv := none,
      scope := none, fid := none, iat := c.iat, exp := c.exp, jti := c.jti }
  | .refresh c =>
    { sub := toString c.sub, aud := c.aud, typ := "refresh", tv := none, mv := none, scope := none,
      fid := some c.fid, iat := c.iat, exp := c.exp, jti := c.jti }

def TokenPair.claims (p : TokenPair) : ClaimsPair :=
  ⟨(Token.access p.access).claims, (Token.refresh p.refresh).claims⟩

/-- The refusal of a token of a user. -/
def AuthError.refusal : AuthError → TokenError
  | .tokenExpired => .tokenExpired
  | .invalidToken => .invalidToken
  | .wrongTokenType => .wrongTokenType
  | .revoked => .revoked
  | .unknownUser => .unknownUser
  | .inactiveUser => .inactiveUser
  | .staleToken => .staleToken
  | .unknownRefresh => .unknownRefresh
  | .refreshReuseDetected => .refreshReuseDetected
  | .refreshExpired => .refreshExpired

/-- An answer, in the claims. -/
def answerBy {α β : Type} (f : α → β) (answer : Except AuthError α) : Except TokenError β :=
  (answer.mapError AuthError.refusal).map f

theorem answerBy_ok {α β : Type} (f : α → β) (a : α) : answerBy f (.ok a) = .ok (f a) := rfl

@[simp] theorem Token.iat_claims (t : Token) : t.claims.iat = t.iat := by cases t <;> rfl

@[simp] theorem Token.exp_claims (t : Token) : t.claims.exp = t.exp := by cases t <;> rfl

theorem Token.claims_inj {t t' : Token} (h : t.claims = t'.claims) : t = t' := by
  cases t with
  | access c =>
    cases t' with
    | access c' =>
      obtain ⟨sub, tv, aud, iat, exp, jti⟩ := c
      obtain ⟨sub', tv', aud', iat', exp', jti'⟩ := c'
      simp only [claims, Claims.mk.injEq, Option.some.injEq] at h
      obtain ⟨hsub, rfl, -, rfl, -, -, -, rfl, rfl, rfl⟩ := h
      rw [toString_nat_inj.1 hsub]
    | refresh c' => simp [claims] at h
  | refresh c =>
    cases t' with
    | access c' => simp [claims] at h
    | refresh c' =>
      obtain ⟨sub, aud, iat, exp, jti, fid⟩ := c
      obtain ⟨sub', aud', iat', exp', jti', fid'⟩ := c'
      simp only [claims, Claims.mk.injEq, Option.some.injEq] at h
      obtain ⟨hsub, rfl, -, -, -, -, rfl, rfl, rfl, rfl⟩ := h
      rw [toString_nat_inj.1 hsub]

/-! ## Related states -/

/-- The two states are of one service; `int` reads the ids of its users. -/
structure Mirrors (w : AuthWorld) (v : TokenWorld) : Prop where
  users : v.users = w.users
  refreshTokens : v.refreshTokens = w.refreshTokens
  denylist : v.denylist = w.denylist
  next : v.next = w.next
  signed : ∀ t : Token, t.claims ∈ v.minted.map Prod.snd ↔ t ∈ w.signed
  ids : ∀ u ∈ w.users, (Nat.toDigits 10 u.id).length ≤ maxStrDigits

section
variable {cfg : JwtConfig} {w : AuthWorld} {v : TokenWorld} {now : Int} {t : Token}

/-- The user of a subject is the user with the id. -/
theorem Mirrors.userOfSub (h : Mirrors w v) (id : Nat) :
    v.userOfSub (toString id) = w.users.getById id := by
  have hdigits : ∀ c ∈ Nat.toDigits 10 id, c.isDigit = true := fun c hc => isDigit_toDigits hc
  unfold TokenWorld.userOfSub
  rw [Nat.toString_eq_repr, Nat.repr_eq_ofList_toDigits, String.toList_ofList,
    parseInt_of_digits Nat.toDigits_ne_nil hdigits, h.users]
  split
  · rw [Nat.ofDigitChars_ten_toDigits, Option.bind_some, if_neg (by omega), Int.toNat_natCast]
  · next hlong =>
    -- no user has an id of so many digits
    refine (Option.eq_none_iff_forall_not_mem.2 fun u hu => hlong ?_).symm
    obtain ⟨hmem, hid, -⟩ := Users.getById_eq_some.1 hu
    rw [← hid]
    exact h.ids u hmem

theorem Mirrors.decode (h : Mirrors w v) (now : Int) (t : Token) (typ : String) :
    v.decode now t.claims typ = ((w.jwtDecode now true t).mapError AuthError.refusal).bind fun t =>
      if t.claims.typ ≠ typ then .error .wrongTokenType else .ok t.claims := by
  unfold TokenWorld.decode AuthWorld.jwtDecode
  rw [Token.iat_claims, Token.exp_claims]
  by_cases hmem : t ∈ w.signed
  · rw [if_neg (not_not.2 ((h.signed t).2 hmem)), if_neg (not_not.2 hmem)]
    by_cases hiat : now < seconds t.iat
    · rw [if_pos hiat, if_pos hiat]
      rfl
    · rw [if_neg hiat, if_neg hiat]
      rw [Bool.true_and]
      by_cases hexp : seconds t.exp ≤ now
      · rw [if_pos hexp, if_pos (decide_eq_true hexp)]
        rfl
      · rw [if_neg hexp, if_neg (show ¬ decide (seconds t.exp ≤ now) = true by simpa using hexp)]
        rfl
  · rw [if_pos fun hminted => hmem ((h.signed t).1 hminted), if_pos hmem]
    rfl

theorem Mirrors.decodeAccess (h : Mirrors w v) (now : Int) (t : Token) :
    v.decode now t.claims "access" =
      answerBy (fun c => (Token.access c).claims) (w.decodeAccess now t) := by
  rw [h.decode, AuthWorld.decodeAccess]
  cases w.jwtDecode now true t with
  | error e => rfl
  | ok t => cases t <;> rfl

theorem Mirrors.decodeRefresh (h : Mirrors w v) (now : Int) (t : Token) :
    v.decode now t.claims "refresh" =
      answerBy (fun c => (Token.refresh c).claims) (w.decodeRefresh now t) := by
  rw [h.decode, AuthWorld.decodeRefresh]
  cases w.jwtDecode now true t with
  | error e => rfl
  | ok t => cases t <;> rfl

end

/-! ## The service -/

section
variable {cfg : JwtConfig} {w : AuthWorld} {v : TokenWorld}

/-- A verification answers the same. -/
theorem verifyAccess_mirrors (h : Mirrors w v) (now : Int) (t : Token) :
    v.verifyAccess now t.claims =
      answerBy (fun x => (x.1, (Token.access x.2).claims)) (w.verifyAccess now t) := by
  unfold TokenWorld.verifyAccess AuthWorld.verifyAccess TokenWorld.isDenylisted
    AuthWorld.isDenylisted
  rw [h.decodeAccess]
  cases w.decodeAccess now t with
  | error e => rfl
  | ok c =>
    simp only [answerBy_ok, h.denylist]
    change (if w.denylist.live now c.jti = true then _ else _) = _
    split
    · rfl
    · have huser : v.userOfSub (Token.access c).claims.sub = w.users.getById c.sub := h.userOfSub _
      rw [huser]
      cases w.users.getById c.sub with
      | none => rfl
      | some u =>
        simp only [Token.claims, ne_eq, Option.some.injEq]
        split
        · rfl
        · split <;> rfl

theorem Mirrors.revoke (h : Mirrors w v) (now : Int) (jti : Nat) (ttl : Int) :
    Mirrors (w.revoke now jti ttl) (v.revoke now jti ttl) :=
  { h with denylist := by rw [TokenWorld.revoke, AuthWorld.revoke, h.denylist] }

/-- A new pair has the same claims. -/
theorem issuePair_mirrors (h : Mirrors w v) (now : Int) (u : User) (aud : String)
    (familyId : Option Nat) :
    Mirrors (w.issuePair cfg.toTokenConfig now u aud familyId).1
        (v.issuePair cfg now u aud familyId).1 ∧
      (w.issuePair cfg.toTokenConfig now u aud familyId).2.claims =
        (v.issuePair cfg now u aud familyId).2 := by
  have haccess : (Token.access (w.newPair cfg.toTokenConfig now u aud familyId).access).claims =
      v.accessClaims cfg now u aud := by
    simp [Token.claims, AuthWorld.newPair, TokenWorld.accessClaims, h.next]
  have hrefresh : (Token.refresh (w.newPair cfg.toTokenConfig now u aud familyId).refresh).claims =
      v.refreshClaims cfg now u aud familyId := by
    simp [Token.claims, AuthWorld.newPair, TokenWorld.refreshClaims, h.next]
  refine ⟨⟨h.users, ?_, h.denylist, ?_, fun t => ?_, h.ids⟩, ?_⟩
  · simp [TokenWorld.issuePair, AuthWorld.issuePair, AuthWorld.record, AuthWorld.newRow,
      h.refreshTokens, h.next]
  · simp [TokenWorld.issuePair, AuthWorld.issuePair, AuthWorld.record, h.next]
  · simp only [TokenWorld.issuePair, AuthWorld.issuePair, AuthWorld.record, List.map_cons,
      List.mem_cons, h.signed, ← haccess, ← hrefresh]
    rw [(show Function.Injective Token.claims from fun _ _ => Token.claims_inj).eq_iff,
      (show Function.Injective Token.claims from fun _ _ => Token.claims_inj).eq_iff]
  · rw [TokenPair.claims]
    exact congrArg₂ ClaimsPair.mk haccess hrefresh

/-- The states stay related when a family is revoked. -/
theorem Mirrors.burn (h : Mirrors w v) (now : Int) (c : RefreshClaims) (row : RefreshToken) :
    Mirrors (w.burn now c row)
      (TokenWorld.revoke { v with refreshTokens := v.refreshTokens.revokeFamily row.familyId now }
        now c.jti (remainingTtl c.exp now)) := by
  have hfamily : Mirrors
      { w.record (.replayed row.familyId) with
        refreshTokens := w.refreshTokens.revokeFamily row.familyId now }
      { v with refreshTokens := v.refreshTokens.revokeFamily row.familyId now } :=
    ⟨h.users, by rw [h.refreshTokens], h.denylist, h.next, h.signed, h.ids⟩
  exact hfamily.revoke now c.jti _

/-- The states stay related when a token is exchanged for a new pair. -/
theorem Mirrors.exchange (h : Mirrors w v) (now : Int) (c : RefreshClaims) (u : User) :
    Mirrors (w.exchange cfg.toTokenConfig now c u).1
        (TokenWorld.revoke { (v.issuePair cfg now u c.aud (some c.fid)).1 with
            refreshTokens := (v.issuePair cfg now u c.aud (some c.fid)).1.refreshTokens.markRotated
              c.jti (v.issuePair cfg now u c.aud (some c.fid)).2.refresh.jti now }
          now c.jti (remainingTtl c.exp now)) ∧
      (w.exchange cfg.toTokenConfig now c u).2.claims =
        (v.issuePair cfg now u c.aud (some c.fid)).2 := by
  obtain ⟨hpair, hclaims⟩ := @issuePair_mirrors cfg w v h now u c.aud (some c.fid)
  have hjti : (w.issuePair cfg.toTokenConfig now u c.aud (some c.fid)).2.refresh.jti =
      (v.issuePair cfg now u c.aud (some c.fid)).2.refresh.jti :=
    congrArg (fun p => p.refresh.jti) hclaims
  have hrotated : Mirrors
      { (w.issuePair cfg.toTokenConfig now u c.aud (some c.fid)).1.record
          (.exchanged c.jti c.fid) with
        refreshTokens :=
          (w.issuePair cfg.toTokenConfig now u c.aud (some c.fid)).1.refreshTokens.markRotated c.jti
            (w.issuePair cfg.toTokenConfig now u c.aud (some c.fid)).2.refresh.jti now }
      { (v.issuePair cfg now u c.aud (some c.fid)).1 with
        refreshTokens := (v.issuePair cfg now u c.aud (some c.fid)).1.refreshTokens.markRotated
          c.jti (v.issuePair cfg now u c.aud (some c.fid)).2.refresh.jti now } :=
    ⟨hpair.users, by rw [hpair.refreshTokens, hjti], hpair.denylist, hpair.next, hpair.signed,
      hpair.ids⟩
  exact ⟨hrotated.revoke now c.jti _, hclaims⟩

/-- A rotation answers the same, and keeps the states related. -/
theorem rotateRefresh_mirrors (h : Mirrors w v) (now : Int) (t : Token) :
    Mirrors (w.rotateRefresh cfg.toTokenConfig now t).1 (v.rotateRefresh cfg now t.claims).1 ∧
      (v.rotateRefresh cfg now t.claims).2 =
        answerBy TokenPair.claims (w.rotateRefresh cfg.toTokenConfig now t).2 := by
  unfold TokenWorld.rotateRefresh AuthWorld.rotateRefresh
  rw [h.decodeRefresh]
  cases w.decodeRefresh now t with
  | error e => exact ⟨h, rfl⟩
  | ok c =>
    have hc : (Token.refresh c).claims.jti = c.jti := rfl
    simp only [answerBy_ok, h.refreshTokens, hc]
    cases hrow : w.refreshTokens.get? c.jti with
    | none => exact ⟨h, rfl⟩
    | some row =>
      dsimp only
      by_cases hused : (row.rotatedToJti.isSome || row.revokedAt.isSome) = true
      · rw [if_pos hused, if_pos hused]
        refine ⟨?_, rfl⟩
        have hburn := h.burn now c row
        rwa [h.refreshTokens] at hburn
      rw [if_neg hused, if_neg hused]
      by_cases hexpired : row.expiresAt ≤ now
      · rw [if_pos hexpired, if_pos hexpired]
        exact ⟨h, rfl⟩
      rw [if_neg hexpired, if_neg hexpired]
      have hsub : v.userOfSub (Token.refresh c).claims.sub = w.users.getById c.sub :=
        h.userOfSub c.sub
      rw [hsub]
      cases w.users.getById c.sub with
      | none => exact ⟨h, rfl⟩
      | some u =>
        dsimp only
        by_cases hactive : (!u.isActive || u.deletedAt.isSome) = true
        · rw [if_pos hactive, if_pos hactive]
          exact ⟨h, rfl⟩
        rw [if_neg hactive, if_neg hactive]
        obtain ⟨hafter, hclaims⟩ := @Mirrors.exchange cfg w v h now c u
        exact ⟨hafter, congrArg Except.ok hclaims.symm⟩

end

end AeroXProtect
