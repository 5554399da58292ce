import AeroXProtect.Share.Link
import AeroXProtect.Lib.Run

/-!
# Playing a granted view

A view that is answered with the list of segments should let its viewer fetch them. Each fetch asks
again whether the link is live, and the view itself has been counted by then.
`granted_view_playable` says that, over every run of views, fetches, revocations and deletions of
segments, a listed segment is served exactly while the view limit is not reached.
-/

open Lib

namespace AeroXProtect

/-! ## Runs -/

/-- A world with what the granted views have listed: the token and the id of each segment. -/
structure ShareHistory where
  world : ShareWorld
  granted : List (String × Nat)

/-- A public request, the revocation of a link by its owner, or the deletion of a segment. -/
inductive ShareStep
  | view (r : ViewRequest)
  | segment (token : String) (segmentId : Nat) (now : Int)
  | revoke (linkId : Nat) (now : Int)
  | deleteSegment (segmentId : Nat)

/-- What an answer lists. -/
def ViewAnswer.listed (token : String) : ViewAnswer → List (String × Nat)
  | .ok _ segments => segments.map fun g => (token, g.id)
  | _ => []

/-- One step. -/
def ShareHistory.step (c : ShareConfig) (h : ShareHistory) : ShareStep → ShareHistory
  | .view r =>
    ⟨(h.world.publicView c r).1, h.granted ++ (h.world.publicView c r).2.listed r.token⟩
  | .segment _ _ _ => h
  | .revoke linkId now => { h with world.links := h.world.links.revoke linkId now }
  | .deleteSegment segmentId =>
    { h with world.segments := h.world.segments.delete fun g => decide (g.id = segmentId) }

/-! ## The invariant -/

/-- Every listed segment that is still there is in the clip of its link. -/
def ListedAuthorized (c : ShareConfig) (h : ShareHistory) : Prop :=
  ∀ token id, (token, id) ∈ h.granted → ∃ l, h.world.resolve c token = some l ∧
    ∀ g ∈ h.world.segments, g.id = id → authorizeSegment l (some g) = true

section
variable {c : ShareConfig} {w w' : ShareWorld} {h : ShareHistory}

/-- A write that keeps the clips of the links and adds no segment keeps the authorisations. -/
theorem ListedAuthorized.keep {f : ShareLink → ShareLink} {granted : List (String × Nat)}
    (h : ListedAuthorized c ⟨w, granted⟩) (hclip : ∀ l, (f l).clip = l.clip)
    (hlinks : ∀ k, w'.links.getByHash k = (w.links.getByHash k).map f)
    (hsegs : ∀ g ∈ w'.segments, g ∈ w.segments) : ListedAuthorized c ⟨w', granted⟩ := by
  intro token id hmem
  obtain ⟨l, hres, hauth⟩ := h token id hmem
  refine ⟨f l, ?_, fun g hg hid => ?_⟩
  · unfold ShareWorld.resolve at hres ⊢
    split at hres
    · cases hres
    · next hne => rw [if_neg hne, hlinks, hres]; rfl
  · rw [authorizeSegment_congr (hclip l)]
    exact hauth g (hsegs g hg) hid

/-- A view keeps the invariant: what it lists is in the clip of its link. -/
theorem ListedAuthorized.view {granted : List (String × Nat)}
    (h : ListedAuthorized c ⟨w, granted⟩) (r : ViewRequest) :
    ListedAuthorized c ⟨(w.publicView c r).1,
      granted ++ (w.publicView c r).2.listed r.token⟩ := by
  rcases publicView_cases (c := c) w r with ⟨hno, hl, hs⟩ | ⟨l, hres, -, -, hl, hs, hans⟩
  · have hlisted : (w.publicView c r).2.listed r.token = [] := by
      cases ha : (w.publicView c r).2 with
      | ok payload segments => rw [ha] at hno; cases hno
      | _ => rfl
    rw [hlisted, List.append_nil]
    exact h.keep (f := id) (fun _ => rfl) (fun k => by rw [hl]; simp) (fun g hg => hs ▸ hg)
  · obtain ⟨f, hclip, hget⟩ := getByHash_registerView w.links l.id
    have hkeep : ListedAuthorized c ⟨(w.publicView c r).1, granted⟩ :=
      h.keep hclip (fun k => by rw [hl, hget]) (fun g hg => hs ▸ hg)
    intro token id hmem
    rcases List.mem_append.1 hmem with hmem | hmem
    · exact hkeep token id hmem
    · rcases hans with hans | ⟨payload, hans⟩
      · rw [hans] at hmem; cases hmem
      · rw [hans] at hmem
        obtain ⟨g, hg, heq⟩ := List.mem_map.1 hmem
        cases heq
        obtain ⟨hgt, hauth⟩ := authorizeSegment_of_mem hg
        refine ⟨f l, ?_, fun g' hg' hid => ?_⟩
        · unfold ShareWorld.resolve at hres ⊢
          split at hres
          · cases hres
          · next hne => rw [if_neg hne, hl, hget, hres]; rfl
        · have hg'' : g' ∈ w.segments := hs ▸ hg'
          rw [Table.eq_of_key_eq hg'' hgt hid, authorizeSegment_congr (hclip l)]
          exact hauth

/-- Every step keeps the invariant. -/
theorem ListedAuthorized.step (hlisted : ListedAuthorized c h) (a : ShareStep) :
    ListedAuthorized c (h.step c a) := by
  cases a with
  | view r => exact hlisted.view r
  | segment token segmentId now => exact hlisted
  | revoke linkId now =>
    obtain ⟨f, hclip, hget⟩ := getByHash_revoke h.world.links linkId now
    exact ListedAuthorized.keep hlisted hclip hget fun g hg => hg
  | deleteSegment segmentId =>
    exact ListedAuthorized.keep hlisted (f := id) (fun _ => rfl) (fun k => by simp)
      fun g hg => (Table.mem_delete.1 hg).1

/-- A link that is neither revoked nor expired is live until its view limit is reached. -/
theorem isLive_iff {l : ShareLink} {now : Int} (hrev : l.revokedAt = none)
    (hexp : l.isExpired now = false) : l.isLive now = true ↔ l.isExhausted = false := by
  unfold ShareLink.isLive
  rw [hrev, hexp]
  cases l.isExhausted <;> simp

end

/-- **A granted view can be played until the view limit is reached.** In every state reached by
views, fetches, revocations and deletions of segments, for a segment that some granted view has
listed and that is still there, and a link that is neither revoked nor expired:
`public_segment_path` serves the segment if and only if the link has no view limit or fewer views
than it allows. -/
theorem granted_view_playable (c : ShareConfig) (h₀ h : ShareHistory) (steps : List ShareStep)
    (hnew : h₀.granted = []) (hrun : Run (ShareHistory.step c) (fun _ _ => True) h₀ steps h) :
    ∀ token id, (token, id) ∈ h.granted → ∀ l, h.world.resolve c token = some l →
      ∀ now, l.revokedAt = none → l.isExpired now = false →
      ∀ g ∈ h.world.segments, g.id = id →
        (h.world.publicSegmentPath c token id now = .ok g ↔ l.isExhausted = false) := by
  have hlisted : ListedAuthorized c h :=
    hrun.invariant (fun h a hl _ => hl.step a) fun token id hmem => by rw [hnew] at hmem; cases hmem
  intro token id hmem l hres now hrev hexp g hg hid
  obtain ⟨l', hres', hauth⟩ := hlisted token id hmem
  obtain rfl : l' = l := Option.some.inj (hres'.symm.trans hres)
  rw [publicSegmentPath_ok, ← isLive_iff hrev hexp]
  constructor
  · rintro ⟨l'', hres'', hlive, -⟩
    rwa [← Option.some.inj (hres''.symm.trans hres)]
  · exact fun hlive => ⟨l', hres, hlive, hg, hid, hauth g hg hid⟩

namespace PlayableFixture

def start (maxViews : Option Int) : ShareHistory :=
  ⟨ShareFixture.world (ShareFixture.openLink maxViews) 1, []⟩

def view : ShareStep := .view ⟨"tok", none, none, 500, ⟨true, true⟩⟩

/-- One view of a link that allows so many. -/
def viewed (maxViews : Option Int) : ShareHistory :=
  (start maxViews).step ShareFixture.config view

/-- The link after one view. -/
def link (maxViews : Option Int) : ShareLink :=
  { ShareFixture.openLink maxViews with viewCount := 1 }

end PlayableFixture

/-- After one of two allowed views the listed segment is served. -/
theorem granted_view_playable_fixture :
    (PlayableFixture.viewed (some 2)).world.publicSegmentPath ShareFixture.config "tok" 7 600 =
      .ok (ShareFixture.segment 1) :=
  (granted_view_playable ShareFixture.config (PlayableFixture.start (some 2)) _
    [PlayableFixture.view] rfl (.cons trivial .nil) "tok" 7 (by decide +kernel)
    (PlayableFixture.link (some 2)) (by decide +kernel) 600 rfl (by decide) _ (by decide +kernel)
    rfl).2 (by decide)

/-- After the only allowed view the listed segment is refused, though the link is neither revoked
nor expired and the segment is still there. -/
theorem last_view_not_playable :
    ¬ ∀ token id, (token, id) ∈ (PlayableFixture.viewed (some 1)).granted →
      ∀ l, (PlayableFixture.viewed (some 1)).world.resolve ShareFixture.config token = some l →
      ∀ now, l.revokedAt = none → l.isExpired now = false →
      ∀ g ∈ (PlayableFixture.viewed (some 1)).world.segments, g.id = id →
        (PlayableFixture.viewed (some 1)).world.publicSegmentPath ShareFixture.config token id now =
          .ok g := by
  intro h
  have hok := h "tok" 7 (by decide +kernel) (PlayableFixture.link (some 1)) (by decide +kernel) 600
    rfl (by decide) (ShareFixture.segment 1) (by decide +kernel) rfl
  obtain ⟨l, hres, hlive, -⟩ := publicSegmentPath_ok.1 hok
  have hlink : (PlayableFixture.viewed (some 1)).world.resolve ShareFixture.config "tok" =
      some (PlayableFixture.link (some 1)) := by decide +kernel
  rw [hlink] at hres
  cases hres
  revert hlive
  decide

end AeroXProtect
