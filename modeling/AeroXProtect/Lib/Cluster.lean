import Mathlib.Data.List.SplitBy
import Mathlib.Data.List.Pairwise
import Mathlib.Data.Multiset.Filter
import Mathlib.Tactic.Common

/-!
# Clusters

Elements with a key and a position are clustered when each cluster is a chain of elements of one key
in which a next one is near, and elements of one key in different clusters are far apart
(`Clustered`). One sorted list of one key is clustered by `List.splitBy`
(`clustered_splitBy`); clusterings of lists without a common key are put together by
`Clustered.append`. A list has one clustering only, whatever the order of the list
(`Clustered.unique`), and two elements with none between them share a cluster exactly when they are
near (`Clustered.same_iff`).
-/

namespace Lib

/-- What is between two near positions is near, and a position is near itself. -/
structure Nearness {β : Type} [LE β] (near : β → β → Bool) : Prop where
  refl : ∀ a, near a a = true
  shrink : ∀ {a a' b' b}, a ≤ a' → b' ≤ b → near a b = true → near a' b' = true

section
variable {α κ β : Type} [LinearOrder β]

/-- Two positions are far apart, in whichever order. -/
def Far (near : β → β → Bool) (a b : β) : Prop := near (min a b) (max a b) = false

/-- The lists `groups` are the clusters of the elements of `l`. -/
structure Clustered (near : β → β → Bool) (key : α → κ) (pos : α → β) (l : List α)
    (groups : List (List α)) : Prop where
  perm : groups.flatten.Perm l
  nonempty : [] ∉ groups
  chain : ∀ g ∈ groups, g.IsChain fun a b =>
    key a = key b ∧ pos a ≤ pos b ∧ near (pos a) (pos b) = true
  apart : groups.Pairwise fun g g' =>
    ∀ a ∈ g, ∀ b ∈ g', key a = key b → Far near (pos a) (pos b)

variable {near : β → β → Bool} {key : α → κ} {pos : α → β} {l l' : List α}
  {groups groups' : List (List α)} {g g' : List α} {a b : α}

theorem Far.symm {x y : β} (h : Far near x y) : Far near y x := by
  unfold Far at h ⊢
  rwa [min_comm, max_comm]

theorem Far.not_near {x y : β} (h : Far near x y) (hle : x ≤ y) : near x y = false := by
  unfold Far at h
  rwa [min_eq_left hle, max_eq_right hle] at h

theorem far_of_le {x y : β} (hle : x ≤ y) (h : near x y = false) : Far near x y := by
  unfold Far
  rwa [min_eq_left hle, max_eq_right hle]

namespace Clustered

/-! ## Elements of one cluster and of two -/

theorem mem_iff (h : Clustered near key pos l groups) : a ∈ l ↔ ∃ g ∈ groups, a ∈ g := by
  rw [← h.perm.mem_iff, List.mem_flatten]

theorem same_key (h : Clustered near key pos l groups) (hg : g ∈ groups) (ha : a ∈ g)
    (hb : b ∈ g) : key a = key b := by
  have hchain : g.IsChain fun a b => key a = key b := (h.chain g hg).imp fun _ _ hab => hab.1
  have hall : ∀ hne : g ≠ [], ∀ x ∈ g, key x = key (g.head hne) := fun hne =>
    hchain.induction (fun x => key x = key (g.head hne)) g (fun _ _ hxy hx => hxy ▸ hx)
      fun _ => rfl
  have hne := List.ne_nil_of_mem ha
  rw [hall hne a ha, hall hne b hb]

theorem sorted (h : Clustered near key pos l groups) (hg : g ∈ groups) :
    g.Pairwise fun a b => pos a ≤ pos b := by
  have hchain : (g.map pos).IsChain (· ≤ ·) :=
    List.isChain_map_of_isChain pos (fun _ _ hab => hab.2.1) (h.chain g hg)
  exact List.pairwise_map.1 (List.isChain_iff_pairwise.1 hchain)

/-- Elements of one key in different clusters are far apart. -/
theorem far (h : Clustered near key pos l groups) (hg : g ∈ groups) (hg' : g' ∈ groups)
    (hne : g ≠ g') (ha : a ∈ g) (hb : b ∈ g') (hkey : key a = key b) :
    Far near (pos a) (pos b) := by
  have hsymm : Std.Symm fun g g' : List α =>
      ∀ a ∈ g, ∀ b ∈ g', key a = key b → Far near (pos a) (pos b) :=
    ⟨fun _ _ h a ha b hb hkey => (h b hb a ha hkey.symm).symm⟩
  exact h.apart.forall hg hg' hne a ha b hb hkey

/-- An element is in one cluster only. -/
theorem eq_of_mem (hn : Nearness near) (h : Clustered near key pos l groups) (hg : g ∈ groups)
    (hg' : g' ∈ groups) (ha : a ∈ g) (ha' : a ∈ g') : g = g' := by
  by_contra hne
  have hfar := (h.far hg hg' hne ha ha' rfl).not_near le_rfl
  rw [hn.refl] at hfar
  cases hfar

theorem disjoint (hn : Nearness near) (h : Clustered near key pos l groups) :
    groups.Pairwise List.Disjoint := by
  refine h.apart.imp fun hapart a ha ha' => ?_
  have hfar := (hapart a ha a ha' rfl).not_near le_rfl
  rw [hn.refl] at hfar
  cases hfar

/-- Two elements of a key that are near are in one cluster. -/
theorem eq_of_near (h : Clustered near key pos l groups) (hg : g ∈ groups) (hg' : g' ∈ groups)
    (ha : a ∈ g) (hb : b ∈ g') (hkey : key a = key b) (hle : pos a ≤ pos b)
    (hnear : near (pos a) (pos b) = true) : g = g' := by
  by_contra hne
  have hfar := (h.far hg hg' hne ha hb hkey).not_near hle
  rw [hnear] at hfar
  cases hfar

/-- **Neighbours**: two elements of a key with none between them are in one cluster exactly when
they are near. -/
theorem same_iff (hn : Nearness near) (h : Clustered near key pos l groups) (ha : a ∈ l)
    (hb : b ∈ l) (hkey : key a = key b) (hle : pos a ≤ pos b)
    (hnone : ∀ x ∈ l, key x = key a → ¬ (pos a < pos x ∧ pos x < pos b)) :
    (∃ g ∈ groups, a ∈ g ∧ b ∈ g) ↔ near (pos a) (pos b) = true := by
  constructor
  · rintro ⟨g, hg, hag, hbg⟩
    by_contra hfar
    -- no step of the chain gets past `a`, so that `b` is not past it either
    have hstep : g.IsChain fun x y => pos x ≤ pos a → pos y ≤ pos a := by
      refine (h.chain g hg).imp_of_mem_imp fun x y hx hy hxy hxa => ?_
      by_contra hya
      have hyl : y ∈ l := h.mem_iff.2 ⟨g, hg, hy⟩
      have hby : pos b ≤ pos y :=
        not_lt.1 fun hlt => hnone y hyl (h.same_key hg hy hag) ⟨not_le.1 hya, hlt⟩
      exact hfar (hn.shrink hxa hby hxy.2.2)
    have hstay : ∀ x ∈ g, pos x ≤ pos a := by
      refine hstep.induction (fun x => pos x ≤ pos a) g (fun _ _ hxy => hxy) fun hne => ?_
      obtain ⟨x, rest, rfl⟩ := List.exists_cons_of_ne_nil hne
      rcases List.mem_cons.1 hag with rfl | hmem
      · exact le_rfl
      · exact (List.pairwise_cons.1 (h.sorted hg)).1 a hmem
    have heq : pos a = pos b := le_antisymm hle (hstay b hbg)
    exact hfar (heq ▸ hn.refl _)
  · intro hnear
    obtain ⟨g, hg, hag⟩ := h.mem_iff.1 ha
    obtain ⟨g', hg', hbg'⟩ := h.mem_iff.1 hb
    obtain rfl := h.eq_of_near hg hg' hag hbg' hkey hle hnear
    exact ⟨g, hg, hag, hbg'⟩

/-! ## One clustering -/

/-- A cluster of one clustering stays together in the other. -/
theorem subset_of_mem (hn : Nearness near) (h : Clustered near key pos l groups)
    (h' : Clustered near key pos l' groups')
    (hl : ∀ x ∈ l, x ∈ l') (hg : g ∈ groups) (hg' : g' ∈ groups') (ha : a ∈ g) (ha' : a ∈ g') :
    ∀ x ∈ g, x ∈ g' := by
  have hstep : g.IsChain fun x y => x ∈ g' ↔ y ∈ g' := by
    refine (h.chain g hg).imp_of_mem_imp fun x y hx hy ⟨hkey, hle, hnear⟩ => ?_
    obtain ⟨gx, hgx, hxmem⟩ := h'.mem_iff.1 (hl x (h.mem_iff.2 ⟨g, hg, hx⟩))
    obtain ⟨gy, hgy, hymem⟩ := h'.mem_iff.1 (hl y (h.mem_iff.2 ⟨g, hg, hy⟩))
    obtain rfl := h'.eq_of_near hgx hgy hxmem hymem hkey hle hnear
    constructor
    · intro hx'
      rwa [h'.eq_of_mem hn hg' hgx hx' hxmem]
    · intro hy'
      rwa [h'.eq_of_mem hn hg' hgx hy' hymem]
  have hne := List.ne_nil_of_mem ha
  have hall : ∀ x ∈ g, x ∈ g' ↔ g.head hne ∈ g' :=
    hstep.induction (fun x => x ∈ g' ↔ g.head hne ∈ g') g (fun _ _ hxy hx => hxy.symm.trans hx)
      fun _ => Iff.rfl
  exact fun x hx => (hall x hx).2 ((hall a ha).1 ha')

/-- A cluster holds its elements as often as the list does. -/
theorem perm_filter [DecidableEq α] (hn : Nearness near) (h : Clustered near key pos l groups)
    (hg : g ∈ groups) : g.Perm (l.filter fun x => decide (x ∈ g)) := by
  obtain ⟨pre, post, rfl⟩ := List.append_of_mem hg
  have hdis := List.pairwise_append.1 (h.disjoint hn)
  have hpre : (pre.flatten.filter fun x => decide (x ∈ g)) = [] := by
    refine List.filter_eq_nil_iff.2 fun x hx hin => ?_
    obtain ⟨g', hg', hxg'⟩ := List.mem_flatten.1 hx
    exact hdis.2.2 g' hg' g (.head _) hxg' (of_decide_eq_true hin)
  have hpost : (post.flatten.filter fun x => decide (x ∈ g)) = [] := by
    refine List.filter_eq_nil_iff.2 fun x hx hin => ?_
    obtain ⟨g', hg', hxg'⟩ := List.mem_flatten.1 hx
    exact (List.pairwise_cons.1 hdis.2.1).1 g' hg' (of_decide_eq_true hin) hxg'
  have hself : (g.filter fun x => decide (x ∈ g)) = g :=
    List.filter_eq_self.2 fun x hx => decide_eq_true hx
  have hperm := h.perm.filter fun x => decide (x ∈ g)
  rwa [List.flatten_append, List.flatten_cons, List.filter_append, List.filter_append, hpre, hpost,
    hself, List.nil_append, List.append_nil] at hperm

/-- A cluster of one clustering is, up to order, a cluster of the other. -/
theorem exists_perm (hn : Nearness near) (h : Clustered near key pos l groups)
    (h' : Clustered near key pos l' groups') (hl : l.Perm l') (hg : g ∈ groups) :
    ∃ g' ∈ groups', g.Perm g' := by
  classical
  obtain ⟨a, ha⟩ := List.exists_mem_of_ne_nil g fun hnil => h.nonempty (hnil ▸ hg)
  obtain ⟨g', hg', ha'⟩ := h'.mem_iff.1 (hl.subset (h.mem_iff.2 ⟨g, hg, ha⟩))
  have hsame : ∀ x, x ∈ g ↔ x ∈ g' := fun x =>
    ⟨subset_of_mem hn h h' (fun _ hx => hl.subset hx) hg hg' ha ha' x,
      subset_of_mem hn h' h (fun _ hx => hl.symm.subset hx) hg' hg ha' ha x⟩
  refine ⟨g', hg', (h.perm_filter hn hg).trans (.trans ?_ (h'.perm_filter hn hg').symm)⟩
  simp only [hsame]
  exact hl.filter _

theorem nodup_coe (hn : Nearness near) (h : Clustered near key pos l groups) :
    (groups.map (Multiset.ofList (α := α))).Nodup := by
  refine List.pairwise_map.2 ((h.disjoint hn).imp_of_mem fun {g g'} hg _ hdis heq => ?_)
  obtain ⟨a, ha⟩ := List.exists_mem_of_ne_nil g fun hnil => h.nonempty (hnil ▸ hg)
  exact hdis ha ((Multiset.coe_eq_coe.1 heq).subset ha)

/-- **A list has one clustering**, whatever the order of the list. -/
theorem unique (hn : Nearness near) (h : Clustered near key pos l groups)
    (h' : Clustered near key pos l' groups') (hl : l.Perm l') :
    (groups.map (Multiset.ofList (α := α))).Perm (groups'.map Multiset.ofList) := by
  refine (List.perm_ext_iff_of_nodup (h.nodup_coe hn) (h'.nodup_coe hn)).2 fun m => ?_
  constructor <;> intro hm
  · obtain ⟨g, hg, rfl⟩ := List.mem_map.1 hm
    obtain ⟨g', hg', hperm⟩ := exists_perm hn h h' hl hg
    exact List.mem_map.2 ⟨g', hg', Multiset.coe_eq_coe.2 hperm.symm⟩
  · obtain ⟨g, hg, rfl⟩ := List.mem_map.1 hm
    obtain ⟨g', hg', hperm⟩ := exists_perm hn h' h hl.symm hg
    exact List.mem_map.2 ⟨g', hg', Multiset.coe_eq_coe.2 hperm.symm⟩

/-! ## Making a clustering -/

theorem nil : Clustered near key pos ([] : List α) [] :=
  ⟨.nil, List.not_mem_nil, fun _ hg => absurd hg List.not_mem_nil, .nil⟩

/-- Clusterings of lists that have no key in common, put together. -/
theorem append (h : Clustered near key pos l groups) (h' : Clustered near key pos l' groups')
    (hkeys : ∀ a ∈ l, ∀ b ∈ l', key a ≠ key b) :
    Clustered near key pos (l ++ l') (groups ++ groups') where
  perm := by
    rw [List.flatten_append]
    exact h.perm.append h'.perm
  nonempty := by
    rw [List.mem_append]
    exact not_or_intro h.nonempty h'.nonempty
  chain := by
    intro g hg
    exact (List.mem_append.1 hg).elim (h.chain g) (h'.chain g)
  apart := by
    refine List.pairwise_append.2 ⟨h.apart, h'.apart, fun g hg g' hg' a ha b hb hkey => ?_⟩
    exact absurd hkey (hkeys a (h.mem_iff.2 ⟨g, hg, ha⟩) b (h'.mem_iff.2 ⟨g', hg', hb⟩))

/-- The same clusters and elements in other orders. -/
theorem of_perm (h : Clustered near key pos l groups) (hl : l.Perm l')
    (hgroups : groups.Perm groups') : Clustered near key pos l' groups' where
  perm := hgroups.symm.flatten.trans (h.perm.trans hl)
  nonempty := fun hnil => h.nonempty (hgroups.mem_iff.2 hnil)
  chain := fun g hg => h.chain g (hgroups.mem_iff.2 hg)
  apart := by
    refine hgroups.pairwise h.apart fun hapart a ha b hb hkey => ?_
    exact (hapart b hb a ha hkey.symm).symm

end Clustered

/-- Pieces of a sorted list whose ends are far apart: all elements of different pieces are. -/
theorem pairwise_far_of_isChain (hn : Nearness near) {pieces : List (List α)}
    (hsorted : pieces.flatten.Pairwise fun a b => pos a ≤ pos b)
    (hends : pieces.IsChain fun g g' =>
      ∃ hg hg', near (pos (g.getLast hg)) (pos (g'.head hg')) = false) :
    pieces.Pairwise fun g g' => ∀ a ∈ g, ∀ b ∈ g', Far near (pos a) (pos b) := by
  induction pieces with
  | nil => exact .nil
  | cons g pieces ih =>
    rw [List.flatten_cons, List.pairwise_append] at hsorted
    obtain ⟨hsg, hsrest, hbefore⟩ := hsorted
    refine List.pairwise_cons.2 ⟨fun g' hg' a ha b hb => ?_, ih hsrest hends.tail⟩
    have hbmem : b ∈ pieces.flatten := List.mem_flatten.2 ⟨g', hg', hb⟩
    refine far_of_le (hbefore a ha b hbmem) ?_
    cases pieces with
    | nil => cases hg'
    | cons g₂ pieces =>
      obtain ⟨⟨hne, hne₂, hfar⟩, -⟩ := List.isChain_cons_cons.1 hends
      by_contra hnear
      rw [Bool.not_eq_false] at hnear
      have hlast : pos a ≤ pos (g.getLast hne) :=
        hsg.rel_getLast_of_rel_getLast_getLast ha le_rfl
      have hfirst : pos (g₂.head hne₂) ≤ pos b := by
        obtain ⟨x, rest, rfl⟩ := List.exists_cons_of_ne_nil hne₂
        rw [List.flatten_cons, List.cons_append] at hsrest hbmem
        rcases List.mem_cons.1 hbmem with rfl | hmem
        · exact le_rfl
        · exact (List.pairwise_cons.1 hsrest).1 b hmem
      rw [hn.shrink hlast hfirst hnear] at hfar
      cases hfar

/-- A sorted list of one key is clustered by splitting it where the next element is not near. -/
theorem clustered_splitBy (hn : Nearness near) (hsorted : l.Pairwise fun a b => pos a ≤ pos b)
    (hkey : ∀ a ∈ l, ∀ b ∈ l, key a = key b) :
    Clustered near key pos l (l.splitBy fun a b => near (pos a) (pos b)) where
  perm := by rw [List.flatten_splitBy]
  nonempty := List.nil_notMem_splitBy _ _
  chain := by
    intro g hg
    have hsub : g.Sublist l := by
      have hflat := List.sublist_flatten_of_mem hg
      rwa [List.flatten_splitBy] at hflat
    have hnear := List.isChain_of_mem_splitBy hg
    refine List.isChain_iff_forall_rel_of_append_cons_cons.2 fun {a b pre post} heq => ?_
    have hpair : [a, b].Sublist l := by
      refine List.Sublist.trans ?_ hsub
      rw [heq]
      exact (List.sublist_append_left [a, b] post).trans (List.sublist_append_right pre _)
    have hle : [a, b].Pairwise fun a b => pos a ≤ pos b := hsorted.sublist hpair
    exact ⟨hkey a (hpair.subset (by simp)) b (hpair.subset (by simp)),
      (List.pairwise_cons.1 hle).1 b (by simp),
      List.isChain_iff_forall_rel_of_append_cons_cons.1 hnear heq⟩
  apart := by
    have hflat : (l.splitBy fun a b => near (pos a) (pos b)).flatten.Pairwise
        fun a b => pos a ≤ pos b := by
      rwa [List.flatten_splitBy]
    refine (pairwise_far_of_isChain hn hflat ?_).imp fun hfar a ha b hb _ => hfar a ha b hb
    exact List.isChain_getLast_head_splitBy (fun a b => near (pos a) (pos b)) l


end

end Lib
