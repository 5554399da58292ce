import AeroXProtect.Share.Link
import AeroXProtect.Lib.Run
import AeroXProtect.Lib.Interleave

/-!
# The view limit under concurrency

`public_view` as a thread that executes one statement of the database or the cache server at a time
(`ViewThread`); a request that runs alone answers what `publicView` answers (`alone_eq_publicView`).
The limit is checked on the row of the first statement and the view is counted by a later one, so
two requests can both find the last view free. `view_limit` is the bound in every interleaving in
which each count still finds the link below its limit.
-/

open Lib

namespace AeroXProtect

/-! ## The statements of a view -/

/-- Where a request of `public_view` stands: the statement it executes next. -/
inductive ViewThread
  | resolve (r : ViewRequest)
  | incr (r : ViewRequest) (l : ShareLink)
  | expire (r : ViewRequest) (l : ShareLink)
  | count (l : ShareLink)
  | refresh (l : ShareLink)
  | camera (l : ShareLink)
  | segments (l : ShareLink) (camera : Camera)
  | done (linkId : Option Nat) (a : ViewAnswer)
  deriving DecidableEq, Repr

/-- The clock and the cache server at a statement. -/
structure ViewEnv where
  now : Int
  up : RedisUp
  deriving DecidableEq, Repr

namespace ViewThread

/-- The password check, between two statements. -/
def verify (c : ShareConfig) (r : ViewRequest) (l : ShareLink) : ViewThread :=
  if verifyPassword c l r.password then .count l else .done (some l.id) .passwordRequired

/-- One statement. Source: `ShareLinkController.public_view`
(`server/controller/share_link.py:104`), cut at its queries and commands. -/
def exec (c : ShareConfig) (w : ShareWorld) (t : ViewThread) (e : ViewEnv) :
    ShareWorld × ViewThread :=
  match t with
  | .resolve r =>
    match w.resolve c r.token with
    | none => (w, .done none .invalidLink)
    | some l =>
      match l.statusReason e.now with
      | some reason => (w, .done (some l.id) (.unavailable reason))
      | none => (w, if l.passwordHash.isSome then .incr r l else .count l)
  | .incr r l =>
    if !e.up.incr then (w, verify c r l)
    else
      let (attempts, n) := w.attempts.incr e.now (rateLimitKey c r.token r.ip)
      let w := { w with attempts }
      if n = 1 then (w, .expire r l)
      else if n ≤ pwAttemptLimit then (w, verify c r l)
      else (w, .done (some l.id) .rateLimited)
  | .expire r l =>
    if e.up.expire then
      ({ w with attempts := w.attempts.expire e.now (rateLimitKey c r.token r.ip) pwWindowS },
        verify c r l)
    else (w, verify c r l)
  | .count l => ({ w with links := w.links.registerView l.id }, .refresh l)
  | .refresh l => (w, .camera ((w.links.get? l.id).getD l))
  | .camera l =>
    match w.cameras.getById l.cameraId with
    | none => (w, .done (some l.id) .cameraNotFound)
    | some cam => (w, .segments l cam)
  | .segments l cam =>
    (w, .done (some l.id) (.ok (publicPayload l cam) (segmentsFor w.segments l)))
  | .done linkId a => (w, .done linkId a)

/-- The request was answered with the clip of the link. -/
def isOk (linkId : Nat) : ViewThread → Bool
  | .done id a => decide (id = some linkId) && a.isOk
  | _ => false

/-- The request has been counted as a view of the link. -/
def isCounted (linkId : Nat) : ViewThread → Bool
  | .refresh l | .camera l | .segments l _ => decide (l.id = linkId)
  | .done id a => decide (id = some linkId) && (a.isOk || decide (a = .cameraNotFound))
  | _ => false

end ViewThread

/-- The scheduler of the requests. -/
def viewStep (c : ShareConfig) :
    Pool ShareWorld ViewThread → PoolAct ViewRequest ViewEnv → Pool ShareWorld ViewThread :=
  Pool.step ViewThread.resolve (ViewThread.exec c)

/-! ## One request alone -/

section
variable {c : ShareConfig} {w : ShareWorld} {e : ViewEnv}

theorem alone_done {n : Nat} {id : Option Nat} {a : ViewAnswer} :
    Pool.alone (ViewThread.exec c) e n (w, .done id a) = (w, .done id a) :=
  Pool.alone_of_fixed rfl n

/-- From the count on, a request that runs alone does what `grant` does. -/
theorem alone_count {l : ShareLink} (hl : l ∈ w.links) (n : Nat) :
    Pool.alone (ViewThread.exec c) e (n + 4) (w, .count l) =
      ((w.grant l).1, .done (some l.id) (w.grant l).2) := by
  have hget : Table.get? (w.links.registerView l.id) l.id =
      some { l with viewCount := l.viewCount + 1 } := by
    unfold ShareLinks.registerView
    rw [Table.get?_modify, if_pos rfl, Table.get?_eq_some.2 ⟨hl, rfl⟩]
    rfl
  simp only [Pool.alone, ViewThread.exec, hget, Option.getD_some, ShareWorld.grant]
  cases w.cameras.getById l.cameraId with
  | none => exact alone_done
  | some cam => exact alone_done

/-- The password check of a request that runs alone. -/
theorem alone_verify {l : ShareLink} (hl : l ∈ w.links) (r : ViewRequest) (n : Nat) :
    Pool.alone (ViewThread.exec c) e (n + 4) (w, ViewThread.verify c r l) =
      if !verifyPassword c l r.password then (w, .done (some l.id) .passwordRequired)
      else ((w.grant l).1, .done (some l.id) (w.grant l).2) := by
  unfold ViewThread.verify
  cases verifyPassword c l r.password with
  | false => exact alone_done
  | true => exact alone_count hl n

/-- The rate limiter and the password check of a request that runs alone. -/
theorem alone_incr {l : ShareLink} (hl : l ∈ w.links) (r : ViewRequest) (n : Nat) :
    Pool.alone (ViewThread.exec c) ⟨r.now, r.up⟩ (n + 6) (w, .incr r l) =
      let m := rateLimitOk c w.attempts r.now r.token r.ip r.up
      let w := { w with attempts := m.1 }
      if !m.2 then (w, .done (some l.id) .rateLimited)
      else if !verifyPassword c l r.password then (w, .done (some l.id) .passwordRequired)
      else ((w.grant l).1, .done (some l.id) (w.grant l).2) := by
  rw [Pool.alone, ViewThread.exec, rateLimitOk]
  cases r.up.incr with
  | false => exact alone_verify hl r (n + 1)
  | true =>
    simp only [Bool.not_true, Bool.false_eq_true, if_false]
    generalize w.attempts.incr r.now (rateLimitKey c r.token r.ip) = m
    obtain ⟨m, k⟩ := m
    dsimp only
    split
    · next hk =>
      subst hk
      rw [Pool.alone, ViewThread.exec]
      cases r.up.expire with
      | false => exact alone_verify (w := { w with attempts := m }) hl r n
      | true => exact alone_verify (w := { w with attempts := m.expire _ _ _ }) hl r n
    · split
      · next hle =>
        simp only [decide_eq_true hle, Bool.not_true, Bool.false_eq_true, if_false]
        exact alone_verify (w := { w with attempts := m }) hl r (n + 1)
      · next hle =>
        simp only [decide_eq_false hle, Bool.not_false, if_true]
        exact alone_done

/-- The row a token resolves to is in the table. -/
theorem mem_of_resolve {token : String} {l : ShareLink} (h : w.resolve c token = some l) :
    l ∈ w.links := by
  unfold ShareWorld.resolve at h
  split at h
  · cases h
  · exact List.mem_of_find?_eq_some h

/-- A request that no other request interrupts answers what `publicView` answers. -/
theorem alone_eq_publicView (c : ShareConfig) (w : ShareWorld) (r : ViewRequest) :
    ∃ id, Pool.alone (ViewThread.exec c) ⟨r.now, r.up⟩ 7 (w, .resolve r) =
      ((w.publicView c r).1, .done id (w.publicView c r).2) := by
  rw [Pool.alone, ViewThread.exec, ShareWorld.publicView]
  cases hres : w.resolve c r.token with
  | none => exact ⟨none, alone_done⟩
  | some l =>
    have hl := mem_of_resolve hres
    refine ⟨some l.id, ?_⟩
    dsimp only
    cases l.statusReason r.now with
    | some reason => exact alone_done
    | none =>
      cases l.passwordHash.isSome with
      | false => exact alone_count hl 2
      | true =>
        refine (alone_incr hl r 0).trans ?_
        dsimp only
        split
        · rfl
        · split <;> rfl

end

/-! ## The bound -/

/-- A count of a view of the link finds the link below its limit. -/
def belowLimit (linkId : Nat) (p : Pool ShareWorld ViewThread) : PoolAct ViewRequest ViewEnv → Bool
  | .spawn _ => true
  | .exec i _ =>
    match p.threads[i]? with
    | some (.count l) =>
      l.id != linkId || (p.shared.links.get? linkId).all fun row => !row.isExhausted
    | _ => true

section
variable {c : ShareConfig} {w : ShareWorld} {e : ViewEnv} {linkId : Nat}

/-- A statement either counts a view, or leaves the links and the counted requests alone. -/
theorem exec_cases (c : ShareConfig) (w : ShareWorld) (t : ViewThread) (e : ViewEnv) :
    (∃ l, t = .count l ∧ (ViewThread.exec c w t e).1.links = w.links.registerView l.id ∧
      (ViewThread.exec c w t e).2 = .refresh l) ∨
    ((ViewThread.exec c w t e).1.links = w.links ∧
      ∀ linkId, (ViewThread.exec c w t e).2.isCounted linkId = t.isCounted linkId) := by
  have hverify : ∀ r l linkId, (ViewThread.verify c r l).isCounted linkId = false := by
    intro r l linkId
    unfold ViewThread.verify
    split <;> simp [ViewThread.isCounted, ViewAnswer.isOk]
  cases t with
  | resolve r =>
    refine .inr ?_
    rw [ViewThread.exec]
    cases w.resolve c r.token with
    | none => exact ⟨rfl, fun _ => rfl⟩
    | some l =>
      dsimp only
      cases l.statusReason e.now with
      | some reason => exact ⟨rfl, fun _ => by simp [ViewThread.isCounted, ViewAnswer.isOk]⟩
      | none => cases l.passwordHash.isSome <;> exact ⟨rfl, fun _ => rfl⟩
  | incr r l =>
    refine .inr ?_
    rw [ViewThread.exec]
    split
    · exact ⟨rfl, hverify r l⟩
    · dsimp only
      split
      · exact ⟨rfl, fun _ => rfl⟩
      · split
        · exact ⟨rfl, hverify r l⟩
        · exact ⟨rfl, fun _ => by simp [ViewThread.isCounted, ViewAnswer.isOk]⟩
  | expire r l =>
    refine .inr ?_
    rw [ViewThread.exec]
    split <;> exact ⟨rfl, hverify r l⟩
  | count l => exact .inl ⟨l, rfl, rfl, rfl⟩
  | refresh l =>
    refine .inr ⟨rfl, fun linkId => ?_⟩
    rw [ViewThread.exec]
    cases hget : w.links.get? l.id with
    | none => rfl
    | some row => simp only [Option.getD_some, ViewThread.isCounted, (Table.get?_eq_some.1 hget).2]
  | camera l =>
    refine .inr ?_
    rw [ViewThread.exec]
    cases w.cameras.getById l.cameraId with
    | none => exact ⟨rfl, fun _ => by simp [ViewThread.isCounted, ViewAnswer.isOk]⟩
    | some cam => exact ⟨rfl, fun _ => rfl⟩
  | segments l cam =>
    exact .inr ⟨rfl, fun _ => by simp [ViewThread.exec, ViewThread.isCounted, ViewAnswer.isOk]⟩
  | done id a => exact .inr ⟨rfl, fun _ => rfl⟩

/-- The row of the link says how many requests were counted, and they are within the limit. -/
structure CountedViews (linkId : Nat) (m : Int) (v₀ : Nat) (p : Pool ShareWorld ViewThread) :
    Prop where
  row : ∃ l, p.shared.links.get? linkId = some l ∧ l.maxViews = some m ∧
    l.viewCount = v₀ + p.threads.countP (ViewThread.isCounted linkId)
  bound : (p.threads.countP (ViewThread.isCounted linkId) : Int) ≤ max 0 (m - v₀)

variable {m : Int} {v₀ : Nat} {p : Pool ShareWorld ViewThread}

/-- A count that finds the link below its limit keeps the bound. -/
theorem CountedViews.count (hinv : CountedViews linkId m v₀ p) {i : Nat} {l : ShareLink}
    {w : ShareWorld} (hi : p.threads[i]? = some (.count l))
    (hok : belowLimit linkId p (.exec i e) = true)
    (hlinks : w.links = p.shared.links.registerView l.id) :
    CountedViews linkId m v₀ ⟨w, p.threads.set i (.refresh l)⟩ := by
  obtain ⟨⟨row, hget, hm, hcount⟩, hbound⟩ := hinv
  have hmoved := Pool.countP_exec (ViewThread.isCounted linkId) hi (.refresh l)
  have hrow : w.links.get? linkId =
      if linkId = l.id then some { row with viewCount := row.viewCount + 1 } else some row := by
    rw [hlinks]
    unfold ShareLinks.registerView
    rw [Table.get?_modify, hget]
    rfl
  by_cases hid : l.id = linkId
  · have hbelow : (row.viewCount : Int) < m := by
      simpa [belowLimit, hi, hid, hget, ShareLink.isExhausted, hm] using hok
    simp only [ViewThread.isCounted, hid, decide_true, if_true, Bool.false_eq_true, if_false]
      at hmoved
    rw [if_pos hid.symm] at hrow
    exact ⟨⟨_, hrow, hm, by dsimp only; omega⟩, by dsimp only; omega⟩
  · simp only [ViewThread.isCounted, hid, decide_false, Bool.false_eq_true, if_false] at hmoved
    rw [if_neg fun h => hid h.symm] at hrow
    exact ⟨⟨_, hrow, hm, by dsimp only; omega⟩, by dsimp only; omega⟩

/-- Every admitted action keeps the invariant. -/
theorem CountedViews.step (hinv : CountedViews linkId m v₀ p) {a : PoolAct ViewRequest ViewEnv}
    (hok : belowLimit linkId p a = true) : CountedViews linkId m v₀ (viewStep c p a) := by
  unfold viewStep
  rcases p.step_cases a with hnone | ⟨r, -, hspawn⟩ | ⟨i, e, t, rfl, hi, hexec⟩
  · rwa [hnone]
  · rw [hspawn]
    obtain ⟨⟨row, hget, hm, hcount⟩, hbound⟩ := hinv
    have hnew : (p.threads ++ [ViewThread.resolve r]).countP (ViewThread.isCounted linkId) =
        p.threads.countP (ViewThread.isCounted linkId) := by
      rw [List.countP_append]
      rfl
    exact ⟨⟨row, hget, hm, by rw [hnew]; exact hcount⟩, by rw [hnew]; exact hbound⟩
  · rw [hexec]
    rcases exec_cases c p.shared t e with ⟨l, rfl, hlinks, hnext⟩ | ⟨hlinks, hsame⟩
    · rw [hnext]
      exact hinv.count hi hok hlinks
    · obtain ⟨⟨row, hget, hm, hcount⟩, hbound⟩ := hinv
      have hmoved := Pool.countP_exec (ViewThread.isCounted linkId) hi
        (ViewThread.exec c p.shared t e).2
      rw [hsame linkId] at hmoved
      refine ⟨⟨row, by rw [hlinks]; exact hget, hm, ?_⟩, ?_⟩ <;> dsimp only <;> omega

/-- A request that was answered with the clip was counted. -/
theorem countP_isOk_le (linkId : Nat) (threads : List ViewThread) :
    threads.countP (ViewThread.isOk linkId) ≤ threads.countP (ViewThread.isCounted linkId) := by
  refine List.countP_mono_left fun t _ hok => ?_
  cases t with
  | done id a =>
    rw [ViewThread.isOk, Bool.and_eq_true] at hok
    simp [ViewThread.isCounted, hok.1, hok.2]
  | _ => cases hok

end

/-- **The view limit.** For a link with a view limit, in every interleaving of the statements of any
number of requests in which each count finds the link still below its limit: at most so many
requests are answered with the clip as the link has views left at the start. -/
theorem view_limit (c : ShareConfig) (w₀ : ShareWorld) (l : ShareLink) (m : Int) (hl : l ∈ w₀.links)
    (hm : l.maxViews = some m) (as : List (PoolAct ViewRequest ViewEnv))
    (p : Pool ShareWorld ViewThread)
    (hrun : Run (viewStep c) (fun p a => belowLimit l.id p a = true) ⟨w₀, []⟩ as p) :
    (p.threads.countP (ViewThread.isOk l.id) : Int) ≤ max 0 (m - l.viewCount) := by
  have hinv : CountedViews l.id m l.viewCount p := by
    refine hrun.invariant (fun p a hp hok => hp.step hok) ⟨⟨l, ?_, hm, by simp⟩, by simp⟩
    exact Table.get?_eq_some.2 ⟨hl, rfl⟩
  have hle := countP_isOk_le l.id p.threads
  have hbound := hinv.bound
  omega

namespace ViewLimitFixture

/-- A link that allows one view. -/
def start : Pool ShareWorld ViewThread :=
  ⟨ShareFixture.world (ShareFixture.openLink (some 1)) 1, []⟩

def request : PoolAct ViewRequest ViewEnv := .spawn ⟨"tok", none, none, 500, ⟨true, true⟩⟩

def go (i : Nat) : PoolAct ViewRequest ViewEnv := .exec i ⟨500, ⟨true, true⟩⟩

/-- Two requests, the second after the first was answered. -/
def inTurn : List (PoolAct ViewRequest ViewEnv) :=
  [request, request, go 0, go 0, go 0, go 0, go 0, go 1]

/-- Two requests, both of which find the link unused. -/
def together : List (PoolAct ViewRequest ViewEnv) :=
  [request, request, go 0, go 1, go 0, go 1, go 0, go 1, go 0, go 1, go 0, go 1]

end ViewLimitFixture

/-- Of two requests in turn one is answered with the clip of a link that allows one view. -/
theorem view_limit_fixture :
    let p := ViewLimitFixture.inTurn.foldl (viewStep ShareFixture.config) ViewLimitFixture.start
    p.threads.length = 2 ∧ (p.threads.countP (ViewThread.isOk 1) : Int) ≤ max 0 (1 - 0) :=
  ⟨by decide +kernel, view_limit ShareFixture.config _ (ShareFixture.openLink (some 1)) 1
    (by decide +kernel) rfl ViewLimitFixture.inTurn _ (.of_admits (by decide +kernel))⟩

/-- Two requests at the same time are both answered with the clip of a link that allows one view. -/
theorem view_limit_exceeded :
    ShareFixture.openLink (some 1) ∈ ViewLimitFixture.start.shared.links ∧
    (ShareFixture.openLink (some 1)).maxViews = some 1 ∧
    ¬ ∀ as : List (PoolAct ViewRequest ViewEnv),
      (((as.foldl (viewStep ShareFixture.config) ViewLimitFixture.start).threads.countP
        (ViewThread.isOk 1) : Nat) : Int) ≤ 1 := by
  refine ⟨by decide +kernel, rfl, fun h => ?_⟩
  have htwo := h ViewLimitFixture.together
  revert htwo
  decide +kernel

end AeroXProtect
