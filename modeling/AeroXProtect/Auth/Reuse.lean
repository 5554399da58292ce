import AeroXProtect.Auth.Rotation
import AeroXProtect.Auth.Session

/-!
# Rotation under concurrency

`rotate_refresh` reads the row of the presented token, inserts the row of the new one and only then
marks the old one, in separate statements. Two rotations of one token, or a rotation and a
revocation, can therefore interleave so that a token is exchanged twice or a token survives in a
family that was ended. `refresh_rotation` is what holds in every interleaving in which each
insertion finds the presented row as it was read and nobody in the middle of a mark or a revocation
(`undisturbed`).
-/

open Lib

namespace AeroXProtect

/-! ## The law and its condition -/

/-- The insertion of a new token finds the presented row still usable, no other request that has
exchanged the same token and has yet to mark it, and no request about to revoke the family. -/
def undisturbed (p : Pool AuthWorld AuthThread) : PoolAct AuthCall Int → Bool
  | .spawn _ => true
  | .exec i _ =>
    match p.threads[i]? with
    | some (.insert c _) =>
      (p.shared.refreshTokens.get? c.jti).any RefreshToken.usable &&
        !p.threads.any (AuthThread.isMarking c.jti) && !p.threads.any (AuthThread.isRevoking c.fid)
    | _ => true

/-- The token was exchanged. -/
def AuthEvent.exchanges (jti : Nat) : AuthEvent → Bool
  | .exchanged j _ => j == jti
  | _ => false

/-- A token of the family was accepted or minted after the family had been ended. -/
def acceptedAfterEnd (log : List AuthEvent) (familyId : Nat) : Bool :=
  occurs (fun e before => e.into familyId && burned before familyId) log

/-! ## The invariant -/

/-- What a request knows at the statement it has come to. -/
def AuthThread.Ok (w : AuthWorld) : AuthThread → Prop
  | .selectUser c => .refresh c ∈ w.signed
  | .insert c u => .refresh c ∈ w.signed ∧ u.id = c.sub
  | .selectFamily f _ => f < w.next
  | .updateFamily f jtis _ => f < w.next ∧
    ∀ r ∈ w.refreshTokens, r.familyId = f → r.revokedAt = none → r.jti ∈ jtis
  | _ => True

/-- A usable row that no request is about to mark as rotated. -/
structure Unclaimed (p : Pool AuthWorld AuthThread) (r : RefreshToken) : Prop where
  mem : r ∈ p.shared.refreshTokens
  usable : r.usable = true
  unmarked : ∀ t ∈ p.threads, t.isMarking r.jti = false

/-- What holds between statements. -/
structure ReuseInv (p : Pool AuthWorld AuthThread) : Prop where
  ledger : p.shared.WellFormed
  threads : ∀ t ∈ p.threads, t.Ok p.shared
  sole : ∀ r r', Unclaimed p r → Unclaimed p r' → r.familyId = r'.familyId → r = r'
  unspent : ∀ r, Unclaimed p r → ∀ f, .exchanged r.jti f ∉ p.shared.log
  spent_lt : ∀ j f, .exchanged j f ∈ p.shared.log → j < p.shared.next
  once : ∀ j, p.shared.log.countP (AuthEvent.exchanges j) ≤ 1
  ended : ∀ f, burned p.shared.log f = true →
    (∀ r ∈ p.shared.refreshTokens, r.familyId = f → r.revokedAt ≠ none) ∨
      ∃ t ∈ p.threads, t.isRevoking f = true
  final : ∀ f, acceptedAfterEnd p.shared.log f = false

/-- No requests and no tokens. -/
theorem ReuseInv.start (users : Users) (roles : Roles) : ReuseInv ⟨.start users roles, []⟩ where
  ledger := .start users roles
  threads := fun _ ht => absurd ht List.not_mem_nil
  sole := fun r _ hr => absurd hr.mem (Table.not_mem_empty r)
  unspent := fun _ _ _ => List.not_mem_nil
  spent_lt := fun _ _ hm => absurd hm List.not_mem_nil
  once := fun _ => Nat.zero_le _
  ended := fun _ hb => by cases hb
  final := fun _ => rfl

section
variable {p : Pool AuthWorld AuthThread} {i : Nat} {t t' : AuthThread} {w' : AuthWorld}

/-! ## Statements that mint nothing -/

/-- A request knows the same after a statement that adds no unrevoked row to a family that it is
about to revoke. -/
theorem AuthThread.Ok.mono {w : AuthWorld} (hok : t.Ok w) (hs : ∀ x ∈ w.signed, x ∈ w'.signed)
    (hn : w.next ≤ w'.next)
    (hrows : ∀ f, t.isRevoking f = true → ∀ r ∈ w'.refreshTokens, r.familyId = f →
      r.revokedAt = none → r ∈ w.refreshTokens) : t.Ok w' := by
  cases t with
  | selectUser c => exact hs _ hok
  | insert c u => exact ⟨hs _ hok.1, hok.2⟩
  | selectFamily f cause => exact Nat.lt_of_lt_of_le hok hn
  | updateFamily f jtis cause =>
    refine ⟨Nat.lt_of_lt_of_le hok.1 hn, fun r hr hf hrev => hok.2 r ?_ hf hrev⟩
    exact hrows f (by simp [AuthThread.isRevoking]) r hr hf hrev
  | _ => trivial

/-- A statement that only ages rows makes no row unclaimed, unless it ends the claim on a row that
is no longer usable. -/
theorem unclaimed_of_moved (hi : p.threads[i]? = some t)
    (hages : p.shared.refreshTokens.Ages w'.refreshTokens)
    (hmark : ∀ r ∈ w'.refreshTokens, r.usable = true → t.isMarking r.jti = true →
      t'.isMarking r.jti = true) :
    ∀ r, Unclaimed ⟨w', p.threads.set i t'⟩ r → Unclaimed p r := by
  intro r hr
  obtain ⟨r₀, hr₀, hage⟩ := hages r hr.mem
  obtain rfl := hage.unrevoked (RefreshToken.revokedAt_of_usable hr.usable)
  refine ⟨hr₀, hr.usable, fun u hu => ?_⟩
  rcases Pool.mem_exec hi t' hu with rfl | hu
  · cases hm : u.isMarking r.jti with
    | false => rfl
    | true =>
      have hkept := hmark r hr.mem hr.usable hm
      rw [hr.unmarked t' (Pool.mem_exec_self hi)] at hkept
      cases hkept
  · exact hr.unmarked u hu

/-- A statement that ages rows and notes at most the end of a family keeps the invariant, when the
families that are ended after it are revoked or about to be. -/
theorem ReuseInv.moved (h : ReuseInv p) (hi : p.threads[i]? = some t) (hledger : w'.WellFormed)
    (hs : w'.signed = p.shared.signed) (hn : w'.next = p.shared.next)
    (hlog : w'.log = p.shared.log ∨ ∃ e, w'.log = e :: p.shared.log ∧ ∀ f, e.into f = false)
    (hages : p.shared.refreshTokens.Ages w'.refreshTokens) (hok : t'.Ok w')
    (hmark : ∀ r ∈ w'.refreshTokens, r.usable = true → t.isMarking r.jti = true →
      t'.isMarking r.jti = true)
    (hended : ∀ f, burned w'.log f = true →
      (∀ r ∈ w'.refreshTokens, r.familyId = f → r.revokedAt ≠ none) ∨ t'.isRevoking f = true ∨
        burned p.shared.log f = true ∧ t.isRevoking f = false) :
    ReuseInv ⟨w', p.threads.set i t'⟩ := by
  have hshrink := unclaimed_of_moved hi hages hmark
  have hspent : ∀ j f, .exchanged j f ∈ w'.log → .exchanged j f ∈ p.shared.log := by
    intro j f hmem
    rcases hlog with hlog | ⟨e, hlog, hinto⟩
    · exact hlog ▸ hmem
    · rw [hlog, List.mem_cons] at hmem
      rcases hmem with rfl | hmem
      · exact absurd (hinto f) (by simp [AuthEvent.into])
      · exact hmem
  refine ⟨hledger, Pool.forall_exec (fun u hu => ?_) hok,
    fun r r' hr hr' => h.sole r r' (hshrink r hr) (hshrink r' hr'),
    fun r hr f hmem => h.unspent r (hshrink r hr) f (hspent _ f hmem),
    fun j f hmem => hn ▸ h.spent_lt j f (hspent j f hmem), fun j => ?_, fun f hb => ?_, fun f => ?_⟩
  · refine (h.threads u hu).mono (by rw [hs]; exact fun x hx => hx) (le_of_eq hn.symm) ?_
    intro f _ r hr _ hrev
    obtain ⟨r₀, hr₀, hage⟩ := hages r hr
    exact hage.unrevoked hrev ▸ hr₀
  · show w'.log.countP _ ≤ 1
    rcases hlog with hlog | ⟨e, hlog, hinto⟩
    · rw [hlog]
      exact h.once j
    · rw [hlog, List.countP_cons_of_neg]
      · exact h.once j
      · cases e with
        | exchanged j' f => exact absurd (hinto f) (by simp [AuthEvent.into])
        | _ => simp [AuthEvent.exchanges]
  · rcases hended f hb with hrev | hrev | ⟨hold, hnot⟩
    · exact .inl hrev
    · exact .inr ⟨t', Pool.mem_exec_self hi, hrev⟩
    · rcases h.ended f hold with hrev | ⟨u, hu, hrev⟩
      · refine .inl fun r hr hf hnone => ?_
        obtain ⟨r₀, hr₀, hage⟩ := hages r hr
        obtain rfl := hage.unrevoked hnone
        exact hrev r hr₀ hf hnone
      · rcases Pool.mem_exec hi t' hu with rfl | hu
        · rw [hnot] at hrev
          cases hrev
        · exact .inr ⟨u, hu, hrev⟩
  · show acceptedAfterEnd w'.log f = false
    rcases hlog with hlog | ⟨e, hlog, hinto⟩
    · rw [hlog]
      exact h.final f
    · rw [hlog, acceptedAfterEnd, occurs_cons, hinto f, Bool.false_and, Bool.false_or]
      exact h.final f

/-- A statement that leaves the rows and the log alone keeps the invariant, when the request is not
marking a row and goes on revoking what it was about to revoke. -/
theorem ReuseInv.quiet (h : ReuseInv p) (hi : p.threads[i]? = some t) (hok : t'.Ok w')
    (hrev : ∀ f, t.isRevoking f = true → t'.isRevoking f = true)
    (hr : w'.refreshTokens = p.shared.refreshTokens := by rfl)
    (hs : w'.signed = p.shared.signed := by rfl) (hn : w'.next = p.shared.next := by rfl)
    (hl : w'.log = p.shared.log := by rfl)
    (hmark : ∀ j, t.isMarking j = false := by intro; rfl) :
    ReuseInv ⟨w', p.threads.set i t'⟩ := by
  have hages : p.shared.refreshTokens.Ages w'.refreshTokens := hr ▸ .refl _
  refine h.moved hi (h.ledger.ages hs hn hl hages) hs hn (.inl hl) hages hok
    (fun r _ _ hm => absurd hm (by rw [hmark]; simp)) fun f hb => .inr ?_
  cases ht : t.isRevoking f with
  | true => exact .inl (hrev f ht)
  | false => exact .inr ⟨hl ▸ hb, rfl⟩

/-! ## Statements that mint -/

/-- A new pair keeps the invariant when every unclaimed row of its family is new, the family has not
been ended, and nobody is about to revoke it. -/
theorem ReuseInv.issuePair (h : ReuseInv p) (hi : p.threads[i]? = some t) {cfg : TokenConfig}
    {now : Int} {u : User} {aud : String} {fid : Option Nat}
    (hledger : (p.shared.issuePair cfg now u aud fid).1.WellFormed)
    (hold : ∀ r ∈ p.shared.refreshTokens,
      Unclaimed ⟨(p.shared.issuePair cfg now u aud fid).1, p.threads.set i t'⟩ r →
        Unclaimed p r ∧ r.familyId ≠ fid.getD (p.shared.next + 2))
    (hburn : burned p.shared.log (fid.getD (p.shared.next + 2)) = false)
    (hrev : ∀ u ∈ p.threads, u.isRevoking (fid.getD (p.shared.next + 2)) = false)
    (ht : ∀ f, t.isRevoking f = false)
    (hok : t'.Ok (p.shared.issuePair cfg now u aud fid).1) :
    ReuseInv ⟨(p.shared.issuePair cfg now u aud fid).1, p.threads.set i t'⟩ := by
  have hnew : ∀ r, Unclaimed ⟨(p.shared.issuePair cfg now u aud fid).1, p.threads.set i t'⟩ r →
      r = p.shared.newRow cfg now u fid ∨
        Unclaimed p r ∧ r.familyId ≠ fid.getD (p.shared.next + 2) := by
    intro r hr
    rcases h.ledger.mem_insert.1 hr.mem with hmem | rfl
    · exact .inr (hold r hmem hr)
    · exact .inl rfl
  refine ⟨hledger, Pool.forall_exec (fun v hv => ?_) hok, fun r r' hr hr' hf => ?_,
    fun r hr f hmem => ?_, fun j f hmem => ?_, fun j => ?_, fun f hb => ?_, fun f => ?_⟩
  · refine (h.threads v hv).mono
      (fun x hx => List.mem_cons_of_mem _ (List.mem_cons_of_mem _ hx)) (Nat.le_add_right _ 3) ?_
    intro f hf r hr hfam _
    rcases h.ledger.mem_insert.1 hr with hr | rfl
    · exact hr
    · rw [← show fid.getD (p.shared.next + 2) = f from hfam, hrev v hv] at hf
      cases hf
  · rcases hnew r hr with rfl | ⟨hr, hne⟩ <;> rcases hnew r' hr' with rfl | ⟨hr', hne'⟩
    · rfl
    · exact absurd hf.symm hne'
    · exact absurd hf hne
    · exact h.sole r r' hr hr' hf
  · have hmem : .exchanged r.jti f ∈ p.shared.log := by
      simpa [AuthWorld.issuePair, AuthWorld.record] using hmem
    rcases hnew r hr with rfl | ⟨hr, -⟩
    · have hlt : p.shared.next + 1 < p.shared.next := h.spent_lt _ _ hmem
      omega
    · exact h.unspent r hr f hmem
  · have hmem : .exchanged j f ∈ p.shared.log := by
      simpa [AuthWorld.issuePair, AuthWorld.record] using hmem
    exact Nat.lt_add_right 3 (h.spent_lt j f hmem)
  · show List.countP _ (_ :: p.shared.log) ≤ 1
    rw [List.countP_cons_of_neg (by simp [AuthEvent.exchanges])]
    exact h.once j
  · have hb : burned p.shared.log f = true := hb
    have hne : ¬ fid.getD (p.shared.next + 2) = f := by
      rintro rfl
      rw [hburn] at hb
      cases hb
    rcases h.ended f hb with hrows | ⟨v, hv, hvrev⟩
    · refine .inl fun r hr hf => ?_
      rcases h.ledger.mem_insert.1 hr with hr | rfl
      · exact hrows r hr hf
      · exact absurd hf hne
    · rcases Pool.mem_exec hi t' hv with rfl | hv
      · rw [ht] at hvrev
        cases hvrev
      · exact .inr ⟨v, hv, hvrev⟩
  · show occurs _ (_ :: p.shared.log) = false
    rw [occurs_cons, show occurs _ p.shared.log = false from h.final f, Bool.or_false]
    by_cases hf : fid.getD (p.shared.next + 2) = f
    · rw [← hf, hburn, Bool.and_false]
    · have hinto : AuthEvent.into f (.issued u.id (fid.getD (p.shared.next + 2)) p.shared.next
          (p.shared.next + 1)) = false := by simpa [AuthEvent.into] using hf
      exact (congrArg (· && _) hinto).trans (Bool.false_and _)

/-- The note that a claimed token of a family that goes on was exchanged for the first time keeps
the invariant. -/
theorem ReuseInv.exchanged (h : ReuseInv p) {j f : Nat} (hclaimed : ∀ r, Unclaimed p r → r.jti ≠ j)
    (hfirst : ∀ g, .exchanged j g ∉ p.shared.log) (hlt : j < p.shared.next)
    (hburn : burned p.shared.log f = false) :
    ReuseInv ⟨p.shared.record (.exchanged j f), p.threads⟩ where
  ledger := h.ledger.record (by simp) fun _ hb => by cases hb
  threads := fun t ht =>
    (h.threads t ht).mono (fun _ hx => hx) (Nat.le_refl _) fun _ _ _ hr _ _ => hr
  sole := fun r r' hr hr' => h.sole r r' ⟨hr.mem, hr.usable, hr.unmarked⟩
    ⟨hr'.mem, hr'.usable, hr'.unmarked⟩
  unspent := fun r hr g hmem => by
    have hbefore : Unclaimed p r := ⟨hr.mem, hr.usable, hr.unmarked⟩
    rcases List.mem_cons.1 hmem with heq | hmem
    · cases heq
      exact hclaimed r hbefore rfl
    · exact h.unspent r hbefore g hmem
  spent_lt := fun j' g hmem => by
    rcases List.mem_cons.1 hmem with heq | hmem
    · cases heq
      exact hlt
    · exact h.spent_lt j' g hmem
  once := fun j' => by
    show List.countP _ (_ :: p.shared.log) ≤ 1
    by_cases hj : j = j'
    · subst hj
      have hzero : p.shared.log.countP (AuthEvent.exchanges j) = 0 := by
        rw [List.countP_eq_zero]
        intro e he
        cases e with
        | exchanged j' g =>
          intro heq
          rw [AuthEvent.exchanges, beq_iff_eq] at heq
          exact hfirst g (heq ▸ he)
        | _ => simp [AuthEvent.exchanges]
      rw [List.countP_cons_of_pos (by simp [AuthEvent.exchanges]), hzero]
    · rw [List.countP_cons_of_neg (by simpa [AuthEvent.exchanges] using hj)]
      exact h.once j'
  ended := h.ended
  final := fun g => by
    show occurs _ (_ :: p.shared.log) = false
    rw [occurs_cons, show occurs _ p.shared.log = false from h.final g, Bool.or_false]
    by_cases hg : f = g
    · rw [← hg, hburn, Bool.and_false]
    · have hinto : AuthEvent.into g (.exchanged j f) = false := by simpa [AuthEvent.into] using hg
      rw [hinto, Bool.false_and]

/-! ## The statements -/

variable {cfg : TokenConfig} {now : Int}

/-- The pair of a login. -/
theorem ReuseInv.execIssue (h : ReuseInv p) {u : User} (hi : p.threads[i]? = some (.issue u)) :
    ReuseInv ⟨(AuthThread.exec cfg p.shared (.issue u) now).1,
      p.threads.set i (AuthThread.exec cfg p.shared (.issue u) now).2⟩ := by
  refine h.issuePair hi (h.ledger.issuePair (by simp)) (fun r hr hun => ⟨⟨hr, hun.usable, ?_⟩, ?_⟩)
    (h.ledger.unburned _ (Nat.le_add_right _ _)) (fun v hv => ?_) (fun _ => rfl) trivial
  · intro v hv
    rcases Pool.mem_exec hi _ hv with rfl | hv
    · rfl
    · exact hun.unmarked v hv
  · intro heq
    have hlt := (h.ledger.row_lt r hr).2
    rw [heq] at hlt
    exact absurd hlt (by simp)
  · -- The family is new, so nobody can be about to revoke it.
    have hok := h.threads v hv
    cases v with
    | selectFamily f cause =>
      cases cause with
      | replay c => exact beq_eq_false_iff_ne.2 (Nat.ne_of_lt (Nat.lt_add_right 2 hok))
      | logout => rfl
    | updateFamily f jtis cause =>
      exact beq_eq_false_iff_ne.2 (Nat.ne_of_lt (Nat.lt_add_right 2 hok.1))
    | _ => rfl

/-- The lookup of the presented token. -/
theorem ReuseInv.execRotate (h : ReuseInv p) {x : Token} (hi : p.threads[i]? = some (.rotate x)) :
    ReuseInv ⟨(AuthThread.exec cfg p.shared (.rotate x) now).1,
      p.threads.set i (AuthThread.exec cfg p.shared (.rotate x) now).2⟩ := by
  rw [AuthThread.exec]
  cases hdec : p.shared.decodeRefresh now x with
  | error e => exact h.quiet hi trivial (fun _ hf => by cases hf)
  | ok c =>
    obtain ⟨rfl, hsig⟩ := AuthWorld.decodeRefresh_eq_ok hdec
    dsimp only
    cases hrow : p.shared.refreshTokens.get? c.jti with
    | none => exact h.quiet hi trivial (fun _ hf => by cases hf)
    | some row =>
      have hlt := (h.ledger.row_lt row (Table.get?_eq_some.1 hrow).1).2
      dsimp only
      split
      · refine h.moved hi (h.ledger.record (by simp) fun f hf => ?_) rfl rfl
          (.inr ⟨_, rfl, fun _ => rfl⟩) (.refl _) hlt (fun _ _ _ hm => by cases hm)
          fun f hb => .inr ?_
        · rw [AuthEvent.burns, beq_iff_eq] at hf
          exact hf ▸ hlt
        · change (row.familyId == f || burned p.shared.log f) = true at hb
          rw [Bool.or_eq_true] at hb
          exact hb.imp (fun hf => hf) fun hb => ⟨hb, rfl⟩
      · split
        · exact h.quiet hi trivial (fun _ hf => by cases hf)
        · exact h.quiet hi hsig (fun _ hf => by cases hf)

/-- The lookup of the user. -/
theorem ReuseInv.execSelectUser (h : ReuseInv p) {c : RefreshClaims}
    (hi : p.threads[i]? = some (.selectUser c)) :
    ReuseInv ⟨(AuthThread.exec cfg p.shared (.selectUser c) now).1,
      p.threads.set i (AuthThread.exec cfg p.shared (.selectUser c) now).2⟩ := by
  have hsig : .refresh c ∈ p.shared.signed := h.threads _ (List.mem_of_getElem? hi)
  rw [AuthThread.exec]
  cases hget : p.shared.users.getById c.sub with
  | none => exact h.quiet hi trivial (fun _ hf => by cases hf)
  | some u =>
    dsimp only
    split
    · exact h.quiet hi trivial (fun _ hf => by cases hf)
    · exact h.quiet hi ⟨hsig, (Users.getById_eq_some.1 hget).2.1⟩ (fun _ hf => by cases hf)

/-- The insertion of the new token, when it is not disturbed. -/
theorem ReuseInv.execInsert (h : ReuseInv p) {c : RefreshClaims} {u : User}
    (hi : p.threads[i]? = some (.insert c u)) (hund : undisturbed p (.exec i now) = true) :
    ReuseInv ⟨(AuthThread.exec cfg p.shared (.insert c u) now).1,
      p.threads.set i (AuthThread.exec cfg p.shared (.insert c u) now).2⟩ := by
  obtain ⟨hsig, huid⟩ : Token.refresh c ∈ p.shared.signed ∧ u.id = c.sub :=
    h.threads _ (List.mem_of_getElem? hi)
  simp only [undisturbed, hi, Bool.and_eq_true, Bool.not_eq_true', Option.any_eq_true,
    List.any_eq_false, Bool.not_eq_true] at hund
  obtain ⟨⟨⟨row, hget, hus⟩, hmark⟩, hrev⟩ := hund
  obtain ⟨hrow, hjti⟩ := Table.get?_eq_some.1 hget
  obtain ⟨hfid, huser⟩ := (h.ledger.claims c hsig).2 row hrow hjti
  have hun : Unclaimed p row := ⟨hrow, hus, fun v hv => hjti ▸ hmark v hv⟩
  have hburn : burned p.shared.log c.fid = false := by
    cases hb : burned p.shared.log c.fid with
    | false => rfl
    | true =>
      rcases h.ended c.fid hb with hrows | ⟨v, hv, hvrev⟩
      · exact absurd (RefreshToken.revokedAt_of_usable hus) (hrows row hrow hfid)
      · rw [hrev v hv] at hvrev
        cases hvrev
  have howner : ∀ v a j, .issued v c.fid a j ∈ p.shared.log → v = u.id := by
    intro v a j hmem
    rw [← h.ledger.userId_eq hmem hrow hfid, huser, huid]
  have hledger : (p.shared.issuePair cfg now u c.aud (some c.fid)).1.WellFormed := by
    refine h.ledger.issuePair ?_
    rintro f ⟨⟩
    exact ⟨(h.ledger.claims c hsig).1, howner⟩
  -- The new token takes the place of the presented one, which this request now claims.
  have hminted : ReuseInv ⟨(p.shared.issuePair cfg now u c.aud (some c.fid)).1, p.threads.set i
      (.mark c (p.shared.newPair cfg now u c.aud (some c.fid)))⟩ := by
    refine h.issuePair hi hledger (fun r hr hrun => ?_) hburn hrev (fun _ => rfl) trivial
    have hbefore : Unclaimed p r := by
      refine ⟨hr, hrun.usable, fun v hv => ?_⟩
      rcases Pool.mem_exec hi _ hv with rfl | hv
      · rfl
      · exact hrun.unmarked v hv
    refine ⟨hbefore, fun hf => ?_⟩
    have heq := h.sole r row hbefore hun (hf.trans hfid.symm)
    have hunm := hrun.unmarked _ (Pool.mem_exec_self hi)
    simp [AuthThread.isMarking, heq, hjti] at hunm
  refine hminted.exchanged (fun r hr heq => ?_) (fun g hmem => ?_)
    (Nat.lt_add_right 3 (h.ledger.signed_lt _ hsig)) hburn
  · have hunm := hr.unmarked _ (Pool.mem_exec_self hi)
    simp [AuthThread.isMarking, heq] at hunm
  · have hmem : .exchanged c.jti g ∈ p.shared.log := by
      simpa [AuthWorld.issuePair, AuthWorld.record] using hmem
    exact h.unspent row hun g (hjti ▸ hmem)

/-- The write of a revocation of a family. -/
theorem ReuseInv.execUpdateFamily (h : ReuseInv p) {f : Nat} {jtis : List Nat} {cause : RevokeCause}
    (hi : p.threads[i]? = some (.updateFamily f jtis cause)) :
    ReuseInv ⟨(AuthThread.exec cfg p.shared (.updateFamily f jtis cause) now).1,
      p.threads.set i (AuthThread.exec cfg p.shared (.updateFamily f jtis cause) now).2⟩ := by
  obtain ⟨hlt, hcover⟩ : f < p.shared.next ∧ ∀ r ∈ p.shared.refreshTokens, r.familyId = f →
      r.revokedAt = none → r.jti ∈ jtis := h.threads _ (List.mem_of_getElem? hi)
  have hages := p.shared.refreshTokens.ages_revokeRows jtis now
  have hrevoked : ∀ r ∈ p.shared.refreshTokens.revokeRows jtis now, r.familyId = f →
      r.revokedAt ≠ none := by
    intro r hr hf hnone
    obtain ⟨r₀, hr₀, hage⟩ := hages r hr
    obtain rfl := hage.unrevoked hnone
    exact RefreshTokens.revokeRows_revoked hr (hcover r hr₀ hf hnone) hnone
  cases cause with
  | replay c =>
    refine h.moved hi (h.ledger.ages rfl rfl rfl hages) rfl rfl (.inl rfl) hages trivial
      (fun _ _ _ hm => by cases hm) fun g hb => ?_
    by_cases hg : f = g
    · exact .inl (hg ▸ hrevoked)
    · exact .inr (.inr ⟨hb, beq_eq_false_iff_ne.2 hg⟩)
  | logout =>
    have hledger : (p.shared.record (.loggedOut f)).WellFormed := by
      refine h.ledger.record (by simp) fun g hg => ?_
      rw [AuthEvent.burns, beq_iff_eq] at hg
      exact hg ▸ hlt
    refine h.moved hi (hledger.ages rfl rfl rfl hages) rfl rfl (.inr ⟨_, rfl, fun _ => rfl⟩) hages
      trivial (fun _ _ _ hm => by cases hm) fun g hb => ?_
    by_cases hg : f = g
    · exact .inl (hg ▸ hrevoked)
    · change (f == g || burned p.shared.log g) = true at hb
      rw [beq_eq_false_iff_ne.2 hg, Bool.false_or] at hb
      exact .inr (.inr ⟨hb, beq_eq_false_iff_ne.2 hg⟩)

/-- The write of a revocation of all tokens of a user. -/
theorem ReuseInv.execUpdateUser (h : ReuseInv p) {id : Nat}
    (hi : p.threads[i]? = some (.updateUser id)) :
    ReuseInv ⟨(AuthThread.exec cfg p.shared (.updateUser id) now).1,
      p.threads.set i (AuthThread.exec cfg p.shared (.updateUser id) now).2⟩ := by
  have hages := p.shared.refreshTokens.ages_revokeAllForUser id now
  have hledger : (p.shared.record (.revokedAll id)).WellFormed :=
    h.ledger.record (by simp) fun f hb => h.ledger.burns_lt hb
  refine h.moved hi (hledger.ages rfl rfl rfl hages) rfl rfl (.inr ⟨_, rfl, fun _ => rfl⟩) hages
    trivial (fun _ _ _ hm => by cases hm) fun f hb => ?_
  change (AuthEvent.burns f (.revokedAll id) p.shared.log || burned p.shared.log f) = true at hb
  rw [Bool.or_eq_true] at hb
  rcases hb with hb | hb
  · -- Every row of a family of the user is a row of the user.
    obtain ⟨a, j, hissued⟩ := burns_revokedAll.1 hb
    refine .inl fun r hr hf => ?_
    obtain ⟨r₀, hr₀, hage⟩ := hages r hr
    refine RefreshTokens.revokeAllForUser_revoked hr ?_
    rw [hage.userId]
    exact h.ledger.userId_eq hissued hr₀ (hage.familyId ▸ hf)
  · exact .inr (.inr ⟨hb, rfl⟩)

/-- Every statement that is not a disturbed insertion keeps the invariant. -/
theorem ReuseInv.exec (h : ReuseInv p) (hi : p.threads[i]? = some t)
    (hund : undisturbed p (.exec i now) = true) :
    ReuseInv ⟨(AuthThread.exec cfg p.shared t now).1,
      p.threads.set i (AuthThread.exec cfg p.shared t now).2⟩ := by
  cases t with
  | issue u => exact h.execIssue hi
  | rotate x => exact h.execRotate hi
  | selectUser c => exact h.execSelectUser hi
  | insert c u => exact h.execInsert hi hund
  | mark c pair =>
    have hages := p.shared.refreshTokens.ages_markRotated c.jti pair.refresh.jti now
    refine h.moved hi (h.ledger.ages rfl rfl rfl hages) rfl rfl (.inl rfl) hages trivial
      (fun r hr hus hm => ?_) fun f hb => .inr (.inr ⟨hb, rfl⟩)
    rw [AuthThread.isMarking, beq_iff_eq] at hm
    exact absurd (RefreshToken.revokedAt_of_usable hus)
      (RefreshTokens.markRotated_revoked hr hm.symm)
  | deny c a => exact h.quiet hi trivial (fun _ hf => by cases hf)
  | selectFamily f cause =>
    refine h.quiet hi ⟨h.threads _ (List.mem_of_getElem? hi), ?_⟩ ?_
    · intro r hr hf hnone
      refine List.mem_map.2 ⟨r, List.mem_filter.2 ⟨hr, ?_⟩, rfl⟩
      rw [hf, hnone]
      simp
    · intro g hg
      cases cause with
      | replay c => exact hg
      | logout => cases hg
  | updateFamily f jtis cause => exact h.execUpdateFamily hi
  | logout c refreshJti =>
    cases c with
    | none => exact h.quiet hi trivial (fun _ hf => by cases hf)
    | some c => exact h.quiet hi trivial (fun _ hf => by cases hf)
  | selectRow refreshJti =>
    rw [AuthThread.exec]
    cases hrow : refreshJti.bind p.shared.refreshTokens.get? with
    | none => exact h.quiet hi trivial (fun _ hf => by cases hf)
    | some row =>
      obtain ⟨j, -, hget⟩ := Option.bind_eq_some_iff.1 hrow
      exact h.quiet hi (h.ledger.row_lt row (Table.get?_eq_some.1 hget).1).2
        (fun _ hf => by cases hf)
  | bump u => exact h.quiet hi trivial (fun _ hf => by cases hf)
  | updateUser id => exact h.execUpdateUser hi
  | done a => exact h.quiet hi trivial (fun _ hf => by cases hf)

/-- A new request keeps the invariant. -/
theorem ReuseInv.spawn (h : ReuseInv p) (call : AuthCall) :
    ReuseInv ⟨p.shared, p.threads ++ [AuthThread.start call]⟩ := by
  have hshrink : ∀ r, Unclaimed ⟨p.shared, p.threads ++ [AuthThread.start call]⟩ r →
      Unclaimed p r :=
    fun r hr => ⟨hr.mem, hr.usable, fun t ht => hr.unmarked t (List.mem_append_left _ ht)⟩
  refine ⟨h.ledger, Pool.forall_spawn h.threads (by cases call <;> trivial),
    fun r r' hr hr' => h.sole r r' (hshrink r hr) (hshrink r' hr'),
    fun r hr => h.unspent r (hshrink r hr), h.spent_lt, h.once, fun f hb => ?_, h.final⟩
  · rcases h.ended f hb with hrows | ⟨t, ht, hrev⟩
    · exact .inl hrows
    · exact .inr ⟨t, List.mem_append_left _ ht, hrev⟩

/-- Every admitted action keeps the invariant. -/
theorem ReuseInv.step (h : ReuseInv p) {a : PoolAct AuthCall Int} (hund : undisturbed p a = true) :
    ReuseInv (authStep cfg p a) := by
  unfold authStep
  rcases p.step_cases a with hnone | ⟨call, -, hspawn⟩ | ⟨i, now, t, rfl, hi, hexec⟩
  · rwa [hnone]
  · rw [hspawn]
    exact h.spawn call
  · rw [hexec]
    exact h.exec hi hund

end

/-- **Rotation under concurrency.** In every interleaving of the statements of any number of logins,
rotations, logouts and revocations of all tokens of a user in which no insertion of a new token is
disturbed: each refresh token is exchanged at most once; whenever all requests have been answered, a
family has at most one usable token; and no token of a family is accepted or minted after a replay
of one of its tokens was detected or the family or all tokens of its user were revoked. -/
theorem refresh_rotation (cfg : TokenConfig) (users : Users) (roles : Roles)
    (as : List (PoolAct AuthCall Int)) (p : Pool AuthWorld AuthThread)
    (hrun : Run (authStep cfg) (fun p a => undisturbed p a = true) ⟨.start users roles, []⟩ as p) :
    (∀ jti, p.shared.log.countP (AuthEvent.exchanges jti) ≤ 1) ∧
    ((∀ t ∈ p.threads, t.isDone = true) →
      ∀ r ∈ p.shared.refreshTokens, ∀ r' ∈ p.shared.refreshTokens, r.usable = true →
        r'.usable = true → r.familyId = r'.familyId → r = r') ∧
    ∀ familyId, acceptedAfterEnd p.shared.log familyId = false := by
  have hinv : ReuseInv p :=
    hrun.invariant (fun p a hp hund => hp.step hund) (.start users roles)
  refine ⟨hinv.once, fun hdone r hr r' hr' hus hus' hf => ?_, hinv.final⟩
  have hquiet : ∀ j, ∀ t ∈ p.threads, t.isMarking j = false := by
    intro j t ht
    cases t with
    | mark c pair => cases hdone _ ht
    | _ => rfl
  exact hinv.sole r r' ⟨hr, hus, hquiet _⟩ ⟨hr', hus', hquiet _⟩ hf

namespace RotationFixture

def start : Pool AuthWorld AuthThread :=
  ⟨.start AuthFixture.users AuthFixture.roles, []⟩

/-- The state that actions lead to. -/
def run (as : List (PoolAct AuthCall Int)) : Pool AuthWorld AuthThread :=
  as.foldl (authStep AuthFixture.config.token) start

def go (i : Nat) : PoolAct AuthCall Int := .exec i 1000000

/-- A login, and two requests that present its refresh token. -/
def requests : List (PoolAct AuthCall Int) :=
  [.spawn (.login AuthFixture.user), go 0, .spawn (.rotate AuthFixture.refresh),
    .spawn (.rotate AuthFixture.refresh)]

/-- The second request starts after the first was answered. -/
def inTurn : List (PoolAct AuthCall Int) :=
  requests ++ [go 1, go 1, go 1, go 1, go 1, go 2, go 2, go 2, go 2]

/-- Both requests find the token usable. -/
def together : List (PoolAct AuthCall Int) :=
  requests ++ [go 1, go 2, go 1, go 2, go 1, go 2, go 1, go 2, go 1, go 2]

/-- A logout of the family between the two halves of a rotation. -/
def late : List (PoolAct AuthCall Int) :=
  requests ++ [go 1, go 1, .spawn (.logout none (some 1)), go 3, go 3, go 3, go 3, go 1]

end RotationFixture

/-- Two rotations in turn: the token is exchanged once, and the family is ended by the replay. -/
theorem refresh_rotation_fixture :
    let p := RotationFixture.run RotationFixture.inTurn
    p.threads.all AuthThread.isDone = true ∧ burned p.shared.log 2 = true ∧
    p.shared.log.countP (AuthEvent.exchanges 1) ≤ 1 ∧ acceptedAfterEnd p.shared.log 2 = false := by
  have hlaw := refresh_rotation AuthFixture.config.token AuthFixture.users AuthFixture.roles
    RotationFixture.inTurn _ (.of_admits (by decide +kernel))
  exact ⟨by decide +kernel, by decide +kernel, hlaw.1 1, hlaw.2.2 2⟩

/-- Two rotations at the same time: the token is exchanged twice, and when all requests have been
answered two tokens of the family are usable. A logout in the middle of a rotation: a token is
minted into the family after its end. -/
theorem refresh_token_exchanged_twice :
    let p := RotationFixture.run RotationFixture.together
    let q := RotationFixture.run RotationFixture.late
    (∀ t ∈ p.threads, t.isDone = true) ∧
    ¬ (∀ jti, p.shared.log.countP (AuthEvent.exchanges jti) ≤ 1) ∧
    ¬ (∀ r ∈ p.shared.refreshTokens, ∀ r' ∈ p.shared.refreshTokens, r.usable = true →
      r'.usable = true → r.familyId = r'.familyId → r = r') ∧
    ¬ (∀ familyId, acceptedAfterEnd q.shared.log familyId = false) := by
  refine ⟨by decide +kernel, fun h => ?_, by decide +kernel, fun h => ?_⟩
  · have htwice := h 1
    revert htwice
    decide +kernel
  · have hlate := h 2
    revert hlate
    decide +kernel

end AeroXProtect
