import AeroXProtect.Share.Link

/-!
# The password gate of a share link

`Gated` says that a sequence of public requests hands out footage of a link only to clients that
have opened the link with its password before. `public_segment_path` never asks for the password, so
the gate stands exactly when there is nothing to hand out (`password_gate_iff`): a link with a
segment in its window serves it to anyone who holds the token.
-/

open Lib

namespace AeroXProtect

/-! ## Sequences of public requests -/

/-- A request to one of the two public endpoints. -/
inductive PublicRequest
  | view (r : ViewRequest)
  | segment (token : String) (segmentId : Nat) (now : Int)

inductive PublicAnswer
  | view (a : ViewAnswer)
  | segment (a : Except ShareWorld.SegmentError Segment)

/-- A request and the client it comes from. -/
structure Visit where
  client : Nat
  request : PublicRequest

/-- Serve one request. -/
def ShareWorld.serve (c : ShareConfig) (w : ShareWorld) : PublicRequest → ShareWorld × PublicAnswer
  | .view r => ((w.publicView c r).1, .view (w.publicView c r).2)
  | .segment token segmentId now => (w, .segment (w.publicSegmentPath c token segmentId now))

/-- Serve a sequence of requests; the visits with their answers. -/
def ShareWorld.serveAll (c : ShareConfig) : ShareWorld → List Visit → List (Visit × PublicAnswer)
  | _, [] => []
  | w, v :: vs => (v, (w.serve c v.request).2) :: ((w.serve c v.request).1).serveAll c vs

/-- The client has opened the link with its password. -/
def HasProof (c : ShareConfig) (l : ShareLink) (client : Nat)
    (log : List (Visit × PublicAnswer)) : Prop :=
  ∃ r a, (⟨client, .view r⟩, .view a) ∈ log ∧ c.hashToken r.token = l.tokenHash ∧
    verifyPassword c l r.password = true ∧ a.isOk = true

/-- Every segment handed out for the link goes to a client that has opened it with its password. -/
def Gated (c : ShareConfig) (w : ShareWorld) (l : ShareLink) (visits : List Visit) : Prop :=
  ∀ pre post client token segmentId now g,
    w.serveAll c visits =
      pre ++ (⟨client, .segment token segmentId now⟩, .segment (.ok g)) :: post →
    c.hashToken token = l.tokenHash → HasProof c l client pre

/-! ## The gate -/

section
variable {c : ShareConfig} {w : ShareWorld} {l : ShareLink} {token : String}

/-- The segments are those of the start, and the link has the clip of the start. -/
def SameClip (t : Segments) (l : ShareLink) (w : ShareWorld) : Prop :=
  w.segments = t ∧ ∀ l', w.links.getByHash l.tokenHash = some l' → l'.clip = l.clip

theorem SameClip.serve {t : Segments} (h : SameClip t l w) (r : PublicRequest) :
    SameClip t l (w.serve c r).1 := by
  cases r with
  | segment token segmentId now => exact h
  | view r =>
    rcases publicView_cases (c := c) w r with ⟨-, hl, hs⟩ | ⟨l₀, -, -, -, hl, hs, -⟩
    · exact ⟨hs.trans h.1, fun l' hl' => h.2 l' (hl ▸ hl')⟩
    · refine ⟨hs.trans h.1, fun l' hl' => ?_⟩
      obtain ⟨f, hclip, hget⟩ := getByHash_registerView w.links l₀.id
      have hl'' : (w.links.registerView l₀.id).getByHash l.tokenHash = some l' := hl ▸ hl'
      rw [hget, Option.map_eq_some_iff] at hl''
      obtain ⟨l₁, h₁, rfl⟩ := hl''
      exact (hclip l₁).trans (h.2 l₁ h₁)

/-- Without a segment in the clip of the link, no request obtains one. -/
theorem serveAll_no_segment (hno : ∀ g ∈ w.segments, authorizeSegment l (some g) = false)
    (hclip : SameClip w.segments l w) {visits : List Visit} {client segmentId : Nat} {now : Int}
    {g : Segment} (hhash : c.hashToken token = l.tokenHash) :
    (⟨client, .segment token segmentId now⟩, .segment (.ok g)) ∉ w.serveAll c visits := by
  have key : ∀ (visits : List Visit) (w' : ShareWorld), SameClip w.segments l w' →
      (⟨client, .segment token segmentId now⟩, .segment (.ok g)) ∉ w'.serveAll c visits := by
    intro visits
    induction visits with
    | nil => exact fun _ _ h => by cases h
    | cons v vs ih =>
      intro w' hw' hmem
      rcases List.mem_cons.1 hmem with heq | hmem
      · obtain ⟨cl, req⟩ := v
        simp only [Prod.mk.injEq, Visit.mk.injEq] at heq
        obtain ⟨⟨-, rfl⟩, heq⟩ := heq
        simp only [ShareWorld.serve, PublicAnswer.segment.injEq] at heq
        obtain ⟨l', hres, -, hg, -, hauth⟩ := publicSegmentPath_ok.1 heq.symm
        have hl' : w'.links.getByHash l.tokenHash = some l' := by
          unfold ShareWorld.resolve at hres
          split at hres
          · cases hres
          · rw [← hhash]; exact hres
        rw [authorizeSegment_congr (hw'.2 l' hl'), hno g (hw'.1 ▸ hg)] at hauth
        cases hauth
      · exact ih _ (hw'.serve v.request) hmem
  exact key visits w hclip

/-- **The password gate stands exactly when there is nothing behind it.** For every live link, with
a password in particular, every sequence of public requests hands out its footage only to clients
that opened it with its password if and only if the segment table has no segment in the clip of the
link. -/
theorem password_gate_iff {now : Int} (hres : w.resolve c token = some l)
    (hlive : l.isLive now = true) :
    (∀ visits, Gated c w l visits) ↔ ∀ g ∈ w.segments, authorizeSegment l (some g) = false := by
  have hhash : w.links.getByHash (c.hashToken token) = some l := by
    unfold ShareWorld.resolve at hres
    split at hres
    · cases hres
    · exact hres
  have htoken : c.hashToken token = l.tokenHash := by
    have := List.find?_some hhash
    simp only [Bool.and_eq_true, decide_eq_true_eq] at this
    exact this.1.symm
  constructor
  · intro h g hg
    by_contra hauth
    rw [Bool.not_eq_false] at hauth
    have hserved : w.publicSegmentPath c token g.id now = .ok g :=
      publicSegmentPath_ok.2 ⟨l, hres, hlive, hg, rfl, hauth⟩
    have hgate := h [⟨0, .segment token g.id now⟩] [] [] 0 token g.id now g
      (by simp [ShareWorld.serveAll, ShareWorld.serve, hserved]) htoken
    obtain ⟨r, a, hmem, -⟩ := hgate
    cases hmem
  · intro hno visits pre post client token' segmentId now' g heq hhash'
    have hclip : SameClip w.segments l w :=
      ⟨rfl, fun l' hl' => by rw [← htoken, hhash] at hl'; rw [Option.some.inj hl']⟩
    exact absurd (heq ▸ List.mem_append_right pre (.head _))
      (serveAll_no_segment hno hclip hhash')

end

/-- A link with a password whose camera has no segment in its window stays shut. -/
theorem password_gate_iff_fixture :
    ShareFixture.lockedLink.passwordHash.isSome = true ∧
      ∀ visits, Gated ShareFixture.config (ShareFixture.world ShareFixture.lockedLink 2)
        ShareFixture.lockedLink visits := by
  have hres : (ShareFixture.world ShareFixture.lockedLink 2).resolve ShareFixture.config "tok" =
      some ShareFixture.lockedLink := by decide +kernel
  have hlive : ShareFixture.lockedLink.isLive 500 = true := by decide
  exact ⟨rfl, (password_gate_iff hres hlive).2 (by decide +kernel)⟩

/-- With a segment in the window, a client that never gave a password is handed the segment. -/
theorem segment_without_password :
    ShareFixture.lockedLink.passwordHash.isSome = true ∧
      ShareFixture.lockedLink.isLive 500 = true ∧
      ¬ ∀ visits, Gated ShareFixture.config (ShareFixture.world ShareFixture.lockedLink 1)
        ShareFixture.lockedLink visits := by
  refine ⟨rfl, by decide, fun h => ?_⟩
  have hserved : (ShareFixture.world ShareFixture.lockedLink 1).publicSegmentPath
      ShareFixture.config "tok" 7 500 = .ok (ShareFixture.segment 1) :=
    publicSegmentPath_ok.2
      ⟨ShareFixture.lockedLink, by decide +kernel, by decide, by decide, rfl, by decide⟩
  obtain ⟨r, a, hmem, -⟩ := h [⟨0, .segment "tok" 7 500⟩] [] [] 0 "tok" 7 500
    (ShareFixture.segment 1) (by simp [ShareWorld.serveAll, ShareWorld.serve, hserved]) rfl
  cases hmem

end AeroXProtect
