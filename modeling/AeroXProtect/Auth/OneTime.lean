import AeroXProtect.Auth.Kinds
import AeroXProtect.Lib.OneShot

/-!
# One-time credentials

`consume_join_token` and `rotate_monitor_refresh` as threads that execute one command of the cache
server or the database at a time. Each of them checks a key with one command and burns it with a
later one, so two requests with the same token can both pass the check (`used_twice`). `used_once`
says that this, and an expiry between the decoding and the check, are the only ways to use a token
twice: a token is used at most once in every interleaving in which each check is made while no
other request with the token is between its check and its burn.
-/

open Lib

namespace AeroXProtect

/-! ## The commands of the requests -/

/-- What else is written while the requests run: other tokens are issued, and the tables of
monitors and dashboards change. -/
inductive OtherWrite
  | issueJoinToken (nodeId : Nat) (ttlMinutes : Option Int)
  | issueMonitorPair (m : Monitor) (dashboardUuid : String) (familyId : Option Nat)
  | monitors (t : Monitors)
  | dashboards (t : Dashboards)

/-- A request. -/
inductive OneTimeRequest
  | join (c : Claims)
  | rotate (c : Claims)
  | other (x : OtherWrite)

/-- Where a request stands: the command it executes next, or its answer. -/
inductive OneTimeThread
  | join (c : Claims)
  | joinGet (c : Claims)
  | joinDelete (c : Claims)
  | rotate (c : Claims)
  | rotateExists (c : Claims)
  | rotateMonitor (c : Claims)
  | rotateDashboard (c : Claims) (m : Monitor)
  | rotateRevoke (c : Claims) (m : Monitor) (dashboardUuid : String)
  | other (x : OtherWrite)
  | joined (c : Claims) (a : Except TokenError Int)
  | rotated (c : Claims) (m : Monitor) (pair : ClaimsPair)
  | refused (e : TokenError)
  | written

namespace OneTimeThread

/-- The start of a request. -/
def start : OneTimeRequest → OneTimeThread
  | .join c => .join c
  | .rotate c => .rotate c
  | .other x => .other x

/-- Decode a token of a type and an audience. -/
def decoded (w : TokenWorld) (now : Int) (c : Claims) (typ aud : String)
    (next : OneTimeThread) : OneTimeThread :=
  match w.decode now c typ with
  | .error e => .refused e
  | .ok _ => if c.aud ≠ aud then .refused .wrongAudience else next

/-- A write of another request. -/
def write (cfg : JwtConfig) (w : TokenWorld) (now : Int) : OtherWrite → TokenWorld
  | .issueJoinToken id ttl => (w.issueJoinToken cfg now id ttl).1
  | .issueMonitorPair m dash fid => (w.issueMonitorPair cfg now m dash fid).1
  | .monitors t => { w with monitors := t }
  | .dashboards t => { w with dashboards := t }

/-- One command, at a reading of the clock. Source: `TokenService.consume_join_token`
(`server/service/token.py:143`) and `TokenService.rotate_monitor_refresh`
(`server/service/token.py:185`), cut at their commands. -/
def exec (cfg : JwtConfig) (w : TokenWorld) (t : OneTimeThread) (now : Int) :
    TokenWorld × OneTimeThread :=
  match t with
  | .join c => (w, decoded w now c "node_join" "node-join" (.joinGet c))
  | .joinGet c =>
    (w, if w.nodejoin.live now c.jti then .joinDelete c else .refused .joinTokenUsedOrExpired)
  | .joinDelete c =>
    ({ w with nodejoin := w.nodejoin.del c.jti },
      .joined c (match parseInt c.sub.toList with
        | some id => .ok id
        | none => .error .invalidSub))
  | .rotate c => (w, decoded w now c "refresh" "monitor" (.rotateExists c))
  | .rotateExists c =>
    (w, if w.isDenylisted now c.jti then .refused .revoked else .rotateMonitor c)
  | .rotateMonitor c =>
    (w, match w.liveMonitor c with
      | .error e => .refused e
      | .ok m => .rotateDashboard c m)
  | .rotateDashboard c m => (w, .rotateRevoke c m (w.dashUuid m))
  | .rotateRevoke c m dash =>
    let w' := w.revoke now c.jti (remainingTtl c.exp now)
    let (w'', pair) := w'.issueMonitorPair cfg now m dash c.fid
    (w'', .rotated c m pair)
  | .other x => (write cfg w now x, .written)
  | .joined c a => (w, .joined c a)
  | .rotated c m pair => (w, .rotated c m pair)
  | .refused e => (w, .refused e)
  | .written => (w, .written)

/-- The request has found the join token unused and has not deleted its key. -/
def holdsJoin (c : Claims) : OneTimeThread → Bool
  | .joinDelete d => decide (d = c)
  | _ => false

/-- The request has consumed the join token. -/
def hasJoined (c : Claims) : OneTimeThread → Bool
  | .joined d _ => decide (d = c)
  | _ => false

/-- The request has found the refresh token not denylisted and has not denylisted it. -/
def holdsRefresh (c : Claims) : OneTimeThread → Bool
  | .rotateMonitor d | .rotateDashboard d _ | .rotateRevoke d _ _ => decide (d = c)
  | _ => false

/-- The request has exchanged the refresh token. -/
def hasRotated (c : Claims) : OneTimeThread → Bool
  | .rotated d _ _ => decide (d = c)
  | _ => false

end OneTimeThread

abbrev OneTimePool := Pool TokenWorld OneTimeThread

/-- The scheduler of the requests. -/
def oneTimeStep (cfg : JwtConfig) : OneTimePool → PoolAct OneTimeRequest Int → OneTimePool :=
  Pool.step OneTimeThread.start (OneTimeThread.exec cfg)

/-- A check of a token is made while no other request with the token is between its check and its
burn, and a refresh token is checked before it expires. -/
def checksAlone (p : OneTimePool) : PoolAct OneTimeRequest Int → Bool
  | .spawn _ => true
  | .exec i now =>
    match p.threads[i]? with
    | some (.joinGet c) => !p.threads.any (OneTimeThread.holdsJoin c)
    | some (.rotateExists c) =>
      !p.threads.any (OneTimeThread.holdsRefresh c) && decide (now < seconds c.exp)
    | _ => true

/-! ## One request alone -/

section
variable {cfg : JwtConfig} {w : TokenWorld} {now : Int} {c : Claims}

/-- What a request that has been answered has done. -/
def answerOf : OneTimeThread → Except TokenError Unit
  | .joined _ (.ok _) | .rotated _ _ _ => .ok ()
  | .joined _ (.error e) | .refused e => .error e
  | _ => .error .invalidToken

/-- A request to join that runs alone does what `consume_join_token` does. -/
theorem alone_consumeJoinToken (cfg : JwtConfig) (w : TokenWorld) (now : Int) (c : Claims) :
    let r := Pool.alone (OneTimeThread.exec cfg) now 3 (w, OneTimeThread.join c)
    r.1 = (w.consumeJoinToken now c).1 ∧
      answerOf r.2 = (w.consumeJoinToken now c).2.map fun _ => () := by
  unfold TokenWorld.consumeJoinToken
  cases hd : w.decode now c "node_join" with
  | error e =>
    simp [Pool.alone, OneTimeThread.exec, OneTimeThread.decoded, hd, answerOf, Except.map]
  | ok d =>
    obtain rfl := (TokenWorld.decode_eq_ok.1 hd).1
    dsimp only
    split
    · next ha =>
      simp [Pool.alone, OneTimeThread.exec, OneTimeThread.decoded, hd, ha, answerOf, Except.map]
    · next ha =>
      cases hl : w.nodejoin.live now d.jti with
      | false =>
        simp [Pool.alone, OneTimeThread.exec, OneTimeThread.decoded, hd, not_not.1 ha, hl, answerOf,
          Except.map]
      | true =>
        simp only [Pool.alone, OneTimeThread.exec, OneTimeThread.decoded, hd, ha, hl, if_true,
          if_false, Bool.not_true, Bool.false_eq_true, answerOf, true_and]
        cases parseInt d.sub.toList <;> rfl

/-- A request to rotate that runs alone does what `rotate_monitor_refresh` does. -/
theorem alone_rotateMonitorRefresh (cfg : JwtConfig) (w : TokenWorld) (now : Int) (c : Claims) :
    let r := Pool.alone (OneTimeThread.exec cfg) now 5 (w, OneTimeThread.rotate c)
    r.1 = (w.rotateMonitorRefresh cfg now c).1 ∧
      answerOf r.2 = (w.rotateMonitorRefresh cfg now c).2.map fun _ => () := by
  unfold TokenWorld.rotateMonitorRefresh TokenWorld.verifyMonitor
  cases hd : w.decode now c "refresh" with
  | error e =>
    simp [Pool.alone, OneTimeThread.exec, OneTimeThread.decoded, hd, answerOf, Except.map]
  | ok d =>
    obtain rfl := (TokenWorld.decode_eq_ok.1 hd).1
    by_cases ha : d.aud = "monitor"
    · cases hr : w.isDenylisted now d.jti with
      | true =>
        simp [Pool.alone, OneTimeThread.exec, OneTimeThread.decoded, hd, ha, hr, answerOf,
          Except.map]
      | false =>
        cases hl : w.liveMonitor d with
        | error e =>
          simp [Pool.alone, OneTimeThread.exec, OneTimeThread.decoded, hd, ha, hr, hl, answerOf,
            Except.map]
        | ok m =>
          simp [Pool.alone, OneTimeThread.exec, OneTimeThread.decoded, hd, ha, hr, hl, answerOf,
            Except.map]
    · simp [Pool.alone, OneTimeThread.exec, OneTimeThread.decoded, hd, ha, answerOf, Except.map]

end

/-! ## The invariant -/

namespace OneTimeThread

/-- The token a request has decoded. -/
def token : OneTimeThread → Option Claims
  | .joinGet c | .joinDelete c | .rotateExists c | .rotateMonitor c | .rotateDashboard c _
  | .rotateRevoke c _ _ | .joined c _ | .rotated c _ _ => some c
  | _ => none

end OneTimeThread

/-- Ids are handed out in order, and no two tokens share one. -/
structure TokenWorld.MintInv (w : TokenWorld) : Prop where
  lt : ∀ c, w.Signed c → c.jti < w.next
  inj : ∀ c d, w.Signed c → w.Signed d → c.jti = d.jti → c = d

section
variable {cfg : JwtConfig} {w : TokenWorld} {now : Int} {t : OneTimeThread}

theorem TokenWorld.MintInv.start (t : TokenTables) : (TokenWorld.start t).MintInv :=
  ⟨fun _ ⟨_, hm⟩ => absurd hm List.not_mem_nil, fun _ _ ⟨_, hm⟩ => absurd hm List.not_mem_nil⟩

/-- Minting a token under an unused id. -/
theorem TokenWorld.MintInv.mint (h : w.MintInv) {w' : TokenWorld} {k : TokenKind} {c : Claims}
    (hm : w'.minted = (k, c) :: w.minted) (hj : ∀ d, w.Signed d → d.jti ≠ c.jti)
    (hn : w.next ≤ w'.next) (hlt : c.jti < w'.next) : w'.MintInv := by
  have hsigned : ∀ d, w'.Signed d → d = c ∨ w.Signed d := by
    rintro d ⟨k', hd⟩
    rw [hm] at hd
    rcases List.mem_cons.1 hd with heq | hd
    · exact .inl (congrArg Prod.snd heq)
    · exact .inr ⟨k', hd⟩
  refine ⟨fun d hd => ?_, fun d d' hd hd' hdd => ?_⟩
  · rcases hsigned d hd with rfl | hd
    · exact hlt
    · exact (h.lt d hd).trans_le hn
  · rcases hsigned d hd with rfl | hd
    · rcases hsigned d' hd' with rfl | hd'
      · rfl
      · exact absurd hdd.symm (hj d' hd')
    · rcases hsigned d' hd' with rfl | hd'
      · exact absurd hdd (hj d hd)
      · exact h.inj d d' hd hd' hdd

theorem TokenWorld.MintInv.issueJoinToken (h : w.MintInv) (id : Nat) (ttl : Option Int) :
    (w.issueJoinToken cfg now id ttl).1.MintInv :=
  h.mint rfl (fun d hd => (h.lt d hd).ne) (Nat.le_succ _) (Nat.lt_succ_self _)

theorem TokenWorld.MintInv.issueMonitorPair (h : w.MintInv) (m : Monitor) (dash : String)
    (fid : Option Nat) : (w.issueMonitorPair cfg now m dash fid).1.MintInv := by
  let pair := w.monitorClaims cfg now m dash fid
  have hr : TokenWorld.MintInv
      { w with minted := (.monitorRefresh, pair.refresh) :: w.minted, next := w.next + 3 } :=
    h.mint rfl (fun d hd => ((h.lt d hd).trans (Nat.lt_succ_self _)).ne) (by simp)
      (by simp [pair, TokenWorld.monitorClaims])
  refine hr.mint (c := pair.access) rfl (fun d hd => ?_) le_rfl
    (by simp [pair, TokenWorld.monitorClaims, TokenWorld.issueMonitorPair])
  obtain ⟨k, hd⟩ := hd
  rcases List.mem_cons.1 hd with heq | hd
  · obtain ⟨-, rfl⟩ := Prod.mk.inj heq
    simp [pair, TokenWorld.monitorClaims]
  · exact (h.lt d ⟨k, hd⟩).ne

/-- A command keeps the ids apart. -/
theorem TokenWorld.MintInv.exec (h : w.MintInv) (t : OneTimeThread) (now : Int) :
    (OneTimeThread.exec cfg w t now).1.MintInv := by
  cases t with
  | rotateRevoke c m dash =>
    exact (show (w.revoke now c.jti (remainingTtl c.exp now)).MintInv from
      ⟨h.lt, h.inj⟩).issueMonitorPair m dash c.fid
  | other x =>
    cases x with
    | issueJoinToken id ttl => exact h.issueJoinToken id ttl
    | issueMonitorPair m dash fid => exact h.issueMonitorPair m dash fid
    | _ => exact ⟨h.lt, h.inj⟩
  | _ => exact ⟨h.lt, h.inj⟩

/-- A signed token stays signed. -/
theorem signed_exec (t : OneTimeThread) (now : Int) {c : Claims} (h : w.Signed c) :
    (OneTimeThread.exec cfg w t now).1.Signed c := by
  obtain ⟨k, hk⟩ := h
  cases t with
  | rotateRevoke d m dash => exact ⟨k, List.mem_cons_of_mem _ (List.mem_cons_of_mem _ hk)⟩
  | other x =>
    cases x with
    | issueJoinToken id ttl => exact ⟨k, List.mem_cons_of_mem _ hk⟩
    | issueMonitorPair m dash fid =>
      exact ⟨k, List.mem_cons_of_mem _ (List.mem_cons_of_mem _ hk)⟩
    | _ => exact ⟨k, hk⟩
  | _ => exact ⟨k, hk⟩

/-- A token signed by a command is new. -/
theorem next_le_of_signed_exec (t : OneTimeThread) (now : Int) {c : Claims}
    (h : (OneTimeThread.exec cfg w t now).1.Signed c) : w.Signed c ∨ w.next ≤ c.jti := by
  have hpair : ∀ (w' : TokenWorld) (m : Monitor) (dash : String) (fid : Option Nat),
      (w'.issueMonitorPair cfg now m dash fid).1.Signed c → w'.Signed c ∨ w'.next ≤ c.jti := by
    rintro w' m dash fid ⟨k, hk⟩
    rcases List.mem_cons.1 hk with heq | hk
    · obtain ⟨-, rfl⟩ := Prod.mk.inj heq
      exact .inr le_rfl
    · rcases List.mem_cons.1 hk with heq | hk
      · obtain ⟨-, rfl⟩ := Prod.mk.inj heq
        exact .inr (Nat.le_succ _)
      · exact .inl ⟨k, hk⟩
  cases t with
  | rotateRevoke d m dash =>
    exact hpair (w.revoke now d.jti (remainingTtl d.exp now)) m dash d.fid h
  | other x =>
    cases x with
    | issueJoinToken id ttl =>
      obtain ⟨k, hk⟩ := h
      rcases List.mem_cons.1 hk with heq | hk
      · obtain ⟨-, rfl⟩ := Prod.mk.inj heq
        exact .inr le_rfl
      · exact .inl ⟨k, hk⟩
    | issueMonitorPair m dash fid => exact hpair w m dash fid h
    | _ => exact .inl h
  | _ => exact .inl h

theorem next_le_exec (t : OneTimeThread) (now : Int) :
    w.next ≤ (OneTimeThread.exec cfg w t now).1.next := by
  cases t with
  | rotateRevoke d m dash => exact Nat.le_add_right _ 3
  | other x =>
    cases x with
    | issueJoinToken id ttl => exact Nat.le_succ _
    | issueMonitorPair m dash fid => exact Nat.le_add_right _ 3
    | _ => exact le_rfl
  | _ => exact le_rfl

/-- What a request that has just been decoded carries. -/
theorem token_decoded {c d : Claims} {typ aud : String} {next : OneTimeThread}
    (hnext : next.token = some d)
    (h : (OneTimeThread.decoded w now d typ aud next).token = some c) : w.Signed c := by
  unfold OneTimeThread.decoded at h
  cases hd : w.decode now d typ with
  | error e =>
    rw [hd] at h
    cases h
  | ok d' =>
    rw [hd] at h
    dsimp only at h
    split at h
    · cases h
    · rw [hnext] at h
      cases h
      exact (TokenWorld.decode_eq_ok.1 hd).2.1

/-- A command leaves a request with the token it had, or with one that was just decoded. -/
theorem token_exec {c : Claims} (h : (OneTimeThread.exec cfg w t now).2.token = some c) :
    t.token = some c ∨ w.Signed c := by
  cases t with
  | join d => exact .inr (token_decoded rfl h)
  | rotate d => exact .inr (token_decoded rfl h)
  | joinGet d =>
    dsimp only [OneTimeThread.exec] at h
    split at h
    · exact .inl h
    · cases h
  | rotateExists d =>
    dsimp only [OneTimeThread.exec] at h
    split at h
    · cases h
    · exact .inl h
  | rotateMonitor d =>
    dsimp only [OneTimeThread.exec] at h
    cases hl : w.liveMonitor d with
    | error e =>
      rw [hl] at h
      cases h
    | ok m =>
      rw [hl] at h
      exact .inl h
  | other x => cases h
  | _ => exact .inl h

/-! ## The resources -/

/-- The key of a join token is burned: it is gone, and its id is not handed out again. -/
def joinShot (c : Claims) : OneShot TokenWorld OneTimeThread where
  burned w := c.jti < w.next ∧ w.nodejoin.expiry c.jti = none
  holds := OneTimeThread.holdsJoin c
  won := OneTimeThread.hasJoined c

/-- A refresh token is burned: it is denylisted for as long as it can be decoded. -/
def refreshShot (c : Claims) : OneShot TokenWorld OneTimeThread where
  burned w := c.jti < w.next ∧ ∃ e, w.denylist.expiry c.jti = some e ∧
    ∀ d, w.Signed d → d.jti = c.jti → seconds d.exp ≤ e
  holds := OneTimeThread.holdsRefresh c
  won := OneTimeThread.hasRotated c

/-- A request that has just been decoded neither holds nor has won anything. -/
theorem decoded_false {q : OneTimeThread → Bool} {c : Claims} {typ aud : String}
    {next : OneTimeThread} (hn : q next = false) (hr : ∀ e, q (.refused e) = false) :
    q (OneTimeThread.decoded w now c typ aud next) = false := by
  unfold OneTimeThread.decoded
  cases w.decode now c typ with
  | error e => exact hr e
  | ok d =>
    dsimp only
    split
    · exact hr _
    · exact hn

theorem joinBurned_exec {c : Claims} (t : OneTimeThread) (now : Int)
    (h : (joinShot c).burned w) : (joinShot c).burned (OneTimeThread.exec cfg w t now).1 := by
  obtain ⟨hlt, hkey⟩ := h
  refine ⟨hlt.trans_le (next_le_exec t now), ?_⟩
  cases t with
  | joinDelete d =>
    change (if c.jti = d.jti then none else w.nodejoin.expiry c.jti) = none
    split
    · rfl
    · exact hkey
  | other x =>
    cases x with
    | issueJoinToken id ttl => exact (Expiring.expiry_setex_of_ne hlt.ne).trans hkey
    | _ => exact hkey
  | _ => exact hkey

/-- What a command does to a join token. -/
theorem moves_join {c : Claims} {free : Prop} (hsig : ∀ d, t.token = some d → w.Signed d)
    (hmint : w.MintInv) (hfree : t = .joinGet c → free) :
    (joinShot c).Moves free w (OneTimeThread.exec cfg w t now).1 t
      (OneTimeThread.exec cfg w t now).2 := by
  have hburn : (joinShot c).burned w → (joinShot c).burned (OneTimeThread.exec cfg w t now).1 :=
    joinBurned_exec t now
  cases t with
  | join d =>
    exact .idle hburn (decoded_false rfl fun _ => rfl) (decoded_false rfl fun _ => rfl)
  | rotate d =>
    exact .idle hburn (decoded_false rfl fun _ => rfl) (decoded_false rfl fun _ => rfl)
  | joinGet d =>
    dsimp only [OneTimeThread.exec] at hburn ⊢
    split
    · next hlive =>
      by_cases hd : d = c
      · subst hd
        refine .check (hfree rfl) (fun hb => ?_) rfl rfl rfl
        rw [Expiring.live, hb.2] at hlive
        cases hlive
      · exact .idle hburn (by simp [joinShot, OneTimeThread.holdsJoin, hd]) rfl
    · exact .idle hburn rfl rfl
  | joinDelete d =>
    by_cases hd : d = c
    · subst hd
      refine .burn ⟨hmint.lt d (hsig d rfl), ?_⟩ (by simp [joinShot, OneTimeThread.holdsJoin]) rfl
      exact if_pos rfl
    · refine .idle hburn ?_ ?_ <;>
        simp [joinShot, OneTimeThread.exec, OneTimeThread.holdsJoin, OneTimeThread.hasJoined, hd]
  | rotateExists d =>
    dsimp only [OneTimeThread.exec] at hburn ⊢
    split <;> exact .idle hburn rfl rfl
  | rotateMonitor d =>
    dsimp only [OneTimeThread.exec] at hburn ⊢
    cases w.liveMonitor d <;> exact .idle hburn rfl rfl
  | _ => exact .idle hburn rfl rfl

/-- The denylist outlives a token that is revoked for its remaining time. -/
theorem exp_le_remainingTtl (exp now : Int) :
    seconds exp ≤ now + seconds (remainingTtl exp now) := by
  have := seconds_epochSeconds_le now
  unfold remainingTtl
  unfold seconds at *
  omega

theorem refreshBurned_exec {c : Claims} (hmint : w.MintInv) (now : Int)
    (hsig : ∀ d, t.token = some d → w.Signed d) (h : (refreshShot c).burned w) :
    (refreshShot c).burned (OneTimeThread.exec cfg w t now).1 := by
  obtain ⟨hlt, e, hkey, hexp⟩ := h
  have hexp' : ∀ d, (OneTimeThread.exec cfg w t now).1.Signed d → d.jti = c.jti →
      seconds d.exp ≤ e := by
    intro d hd hj
    rcases next_le_of_signed_exec t now hd with hd | hn
    · exact hexp d hd hj
    · omega
  refine ⟨hlt.trans_le (next_le_exec t now), ?_⟩
  cases t with
  | rotateRevoke d m dash =>
    by_cases hj : c.jti = d.jti
    · refine ⟨_, (congrArg _ hj).trans (Expiring.expiry_setex_self _ _ _ _), fun d' hd' hj' => ?_⟩
      -- no other token has the id, so the new expiry is late enough for all of them
      have hd := hsig d rfl
      have heq : d' = d := by
        rcases next_le_of_signed_exec _ now hd' with hd' | hn
        · exact hmint.inj d' d hd' hd (hj'.trans hj)
        · omega
      rw [heq, if_neg (by unfold remainingTtl; omega)]
      exact exp_le_remainingTtl d.exp now
    · exact ⟨e, (Expiring.expiry_setex_of_ne hj).trans hkey, hexp'⟩
  | other x => cases x <;> exact ⟨e, hkey, hexp'⟩
  | _ => exact ⟨e, hkey, hexp'⟩

/-- What a command does to a refresh token. -/
theorem moves_refresh {c : Claims} {free : Prop} (hsig : ∀ d, t.token = some d → w.Signed d)
    (hmint : w.MintInv) (hfree : t = .rotateExists c → free ∧ now < seconds c.exp) :
    (refreshShot c).Moves free w (OneTimeThread.exec cfg w t now).1 t
      (OneTimeThread.exec cfg w t now).2 := by
  have hburn : (refreshShot c).burned w →
      (refreshShot c).burned (OneTimeThread.exec cfg w t now).1 := refreshBurned_exec hmint now hsig
  cases t with
  | join d =>
    exact .idle hburn (decoded_false rfl fun _ => rfl) (decoded_false rfl fun _ => rfl)
  | rotate d =>
    exact .idle hburn (decoded_false rfl fun _ => rfl) (decoded_false rfl fun _ => rfl)
  | joinGet d =>
    dsimp only [OneTimeThread.exec] at hburn ⊢
    split <;> exact .idle hburn rfl rfl
  | rotateExists d =>
    dsimp only [OneTimeThread.exec] at hburn ⊢
    split
    · exact .idle hburn rfl rfl
    · next hlive =>
      by_cases hd : d = c
      · subst hd
        obtain ⟨hf, hnow⟩ := hfree rfl
        refine .check hf (fun hb => hlive ?_) rfl rfl rfl
        obtain ⟨-, e, hkey, hexp⟩ := hb
        rw [TokenWorld.isDenylisted, Expiring.live, hkey]
        exact decide_eq_true (Int.le_of_lt <| hnow.trans_le (hexp d (hsig d rfl) rfl))
      · exact .idle hburn (by simp [refreshShot, OneTimeThread.holdsRefresh, hd]) rfl
  | rotateMonitor d =>
    dsimp only [OneTimeThread.exec] at hburn ⊢
    cases w.liveMonitor d with
    | error e => exact .drop hburn rfl rfl
    | ok m => exact .idle hburn rfl rfl
  | rotateRevoke d m dash =>
    by_cases hd : d = c
    · subst hd
      refine .burn ?_ (by simp [refreshShot, OneTimeThread.holdsRefresh]) rfl
      have hs := hsig d rfl
      refine ⟨(hmint.lt d hs).trans_le (next_le_exec _ now), _,
        Expiring.expiry_setex_self _ _ _ _, fun d' hd' hj' => ?_⟩
      have heq : d' = d := by
        rcases next_le_of_signed_exec _ now hd' with hd' | hn
        · exact hmint.inj d' d hd' hs hj'
        · have := hmint.lt d hs
          omega
      rw [heq, if_neg (by unfold remainingTtl; omega)]
      exact exp_le_remainingTtl d.exp now
    · refine .idle hburn ?_ ?_ <;>
        simp [refreshShot, OneTimeThread.exec, OneTimeThread.holdsRefresh,
          OneTimeThread.hasRotated, hd]
  | _ => exact .idle hburn rfl rfl

end

/-! ## At most once -/

/-- What holds in every pool: the ids are apart, requests carry signed tokens, and every token is
used at most once. -/
structure OneTimeInv (p : OneTimePool) : Prop where
  mint : p.shared.MintInv
  signed : ∀ t ∈ p.threads, ∀ c, t.token = some c → p.shared.Signed c
  join : ∀ c, (joinShot c).Inv p
  refresh : ∀ c, (refreshShot c).Inv p

section
variable {cfg : JwtConfig} {p : OneTimePool}

theorem OneTimeInv.step (h : OneTimeInv p) {a : PoolAct OneTimeRequest Int}
    (ha : checksAlone p a = true) : OneTimeInv (oneTimeStep cfg p a) := by
  unfold oneTimeStep
  rcases p.step_cases a with hnone | ⟨r, -, hspawn⟩ | ⟨i, now, t, rfl, hi, hexec⟩
  · rwa [hnone]
  · rw [hspawn]
    refine ⟨h.mint, Pool.forall_spawn h.signed fun c hc => ?_, fun c => (h.join c).spawn ?_ ?_,
      fun c => (h.refresh c).spawn ?_ ?_⟩
    · cases r <;> cases hc
    all_goals cases r <;> rfl
  · rw [hexec]
    have hmem : t ∈ p.threads := List.mem_of_getElem? hi
    have hsig := h.signed t hmem
    refine ⟨h.mint.exec t now, Pool.forall_exec
      (fun u hu c hc => signed_exec t now (h.signed u hu c hc)) fun c hc => ?_,
      fun c => ?_, fun c => ?_⟩
    · rcases token_exec hc with hc | hc
      · exact signed_exec t now (hsig c hc)
      · exact signed_exec t now hc
    · refine (h.join c).exec hi (moves_join hsig h.mint fun heq => ?_)
      subst heq
      simpa [checksAlone, hi, List.countP_eq_zero, joinShot] using ha
    · refine (h.refresh c).exec hi (moves_refresh hsig h.mint fun heq => ?_)
      subst heq
      simpa [checksAlone, hi, List.countP_eq_zero, refreshShot] using ha

end

/-- **One-time credentials are used once.** In every interleaving of the commands of any number of
requests in which each check is made while no other request with the token is between its check and
its burn, and before the token expires, a join token is consumed and a monitor's refresh token is
exchanged by at most one request. -/
theorem used_once (cfg : JwtConfig) (t : TokenTables) (as : List (PoolAct OneTimeRequest Int))
    (p : OneTimePool)
    (hrun : Run (oneTimeStep cfg) (fun p a => checksAlone p a = true) ⟨TokenWorld.start t, []⟩ as p)
    (c : Claims) :
    p.threads.countP (OneTimeThread.hasJoined c) ≤ 1 ∧
      p.threads.countP (OneTimeThread.hasRotated c) ≤ 1 := by
  have hinv : OneTimeInv p := by
    refine hrun.invariant (fun p a hp ha => hp.step ha) ⟨TokenWorld.MintInv.start t, ?_, ?_, ?_⟩
    · exact fun t ht => absurd ht List.not_mem_nil
    · exact fun c => OneShot.Inv.start _ _
    · exact fun c => OneShot.Inv.start _ _
  have hjoin : _ ≤ 1 := (hinv.join c).one
  have hrefresh : _ ≤ 1 := (hinv.refresh c).one
  exact ⟨(Nat.le_add_left _ _).trans hjoin, (Nat.le_add_left _ _).trans hrefresh⟩

namespace OneTimeFixture

def start : OneTimePool := ⟨TokenWorld.start KindsFixture.tables, []⟩

/-- The join token of the encoder node, and the refresh token of the monitor. -/
def joinToken : Claims :=
  { sub := "6", aud := "node-join", typ := "node_join", tv := none, mv := none, scope := none,
    fid := none, iat := 1, exp := 1801, jti := 0 }

def refreshToken : Claims :=
  { sub := "7", aud := "monitor", typ := "refresh", tv := none, mv := some 3, scope := none,
    fid := some 3, iat := 1, exp := 2592001, jti := 2 }

def go (i : Nat) : PoolAct OneTimeRequest Int := .exec i (seconds 1)

/-- Both tokens are issued. -/
def issue : List (PoolAct OneTimeRequest Int) :=
  [.spawn (.other (.issueJoinToken 6 none)),
    .spawn (.other (.issueMonitorPair KindsFixture.monitor "d1" none)), go 0, go 1]

/-- Two requests with each token. -/
def requests : List (PoolAct OneTimeRequest Int) :=
  [.spawn (.join joinToken), .spawn (.join joinToken), .spawn (.rotate refreshToken),
    .spawn (.rotate refreshToken)]

/-- The second request of each pair starts when the first one has been answered. -/
def inTurn : List (PoolAct OneTimeRequest Int) :=
  issue ++ requests ++
    [go 2, go 2, go 2, go 3, go 3, go 3, go 4, go 4, go 4, go 4, go 4, go 5, go 5]

/-- The two requests of each pair take turns. -/
def together : List (PoolAct OneTimeRequest Int) :=
  issue ++ requests ++
    [go 2, go 3, go 2, go 3, go 2, go 3, go 4, go 5, go 4, go 5, go 4, go 5, go 4, go 5, go 4, go 5]

def after (as : List (PoolAct OneTimeRequest Int)) : OneTimePool :=
  as.foldl (oneTimeStep KindsFixture.config) start

/-- A request that was answered with the id of the node. -/
def isJoined : OneTimeThread → Bool
  | .joined c (.ok id) => decide (c = joinToken) && decide (id = 6)
  | _ => false

end OneTimeFixture

section
open OneTimeFixture

/-- Of two requests in turn with each token, exactly one succeeds. -/
theorem used_once_fixture :
    (after inTurn).threads.countP isJoined = 1 ∧
    (after inTurn).threads.countP (OneTimeThread.hasRotated refreshToken) = 1 ∧
    (after inTurn).threads.countP (OneTimeThread.hasJoined joinToken) ≤ 1 ∧
    (after inTurn).threads.countP (OneTimeThread.hasRotated refreshToken) ≤ 1 := by
  have hrun : Run (oneTimeStep KindsFixture.config) (fun p a => checksAlone p a = true) start inTurn
      (after inTurn) := .of_admits (by decide +kernel)
  exact ⟨by decide +kernel, by decide +kernel,
    (used_once KindsFixture.config KindsFixture.tables inTurn _ hrun joinToken).1,
    (used_once KindsFixture.config KindsFixture.tables inTurn _ hrun refreshToken).2⟩

/-- Two requests at the same time both consume a join token, and both exchange a refresh token. -/
theorem used_twice : (after together).threads.countP isJoined = 2 ∧
    (after together).threads.countP (OneTimeThread.hasRotated refreshToken) = 2 ∧
    ¬ (∀ (as : List (PoolAct OneTimeRequest Int)) (c : Claims),
      (after as).threads.countP (OneTimeThread.hasJoined c) ≤ 1) ∧
    ¬ ∀ (as : List (PoolAct OneTimeRequest Int)) (c : Claims),
      (after as).threads.countP (OneTimeThread.hasRotated c) ≤ 1 := by
  refine ⟨by decide +kernel, by decide +kernel, fun h => ?_, fun h => ?_⟩
  · have htwo := h together joinToken
    revert htwo
    decide +kernel
  · have htwo := h together refreshToken
    revert htwo
    decide +kernel

end

end AeroXProtect
