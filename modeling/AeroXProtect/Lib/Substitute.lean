import Mathlib.Data.List.Basic
import Mathlib.Tactic.Common

/-!
# Substitution in one pass

A text is gone through once from the left, and each match is replaced (`Matcher.sub`). Where the
matches of a pattern do not overlap (`Matcher`), the text falls apart in one way into its matches
and the letters between them (`Matcher.Parts`, `Matcher.parts_iff`), and the substitution replaces
the matches and keeps the letters (`Matcher.sub_eq`): what is put in for a match is not looked at
again.
-/

namespace Lib

/-- A pattern whose matches do not overlap, where `Is src b` says that `src` is a match with the
value `b`, and the search for a match at the start of a text. -/
structure Matcher {α β : Type} (Is : List α → β → Prop) where
  run : List α → Option (β × List α)
  run_iff {s rest : List α} {b : β} :
    run s = some (b, rest) ↔ ∃ src, Is src b ∧ s = src ++ rest
  ne_nil {src : List α} {b : β} : Is src b → src ≠ []
  /-- No match begins inside a match. -/
  apart {x y src : List α} {b b' : β} {z z' : List α} : Is (x ++ y) b → x ≠ [] → y ≠ [] →
    Is src b' → y ++ z ≠ src ++ z'

/-- A part of a text: a letter outside the matches, or a match. -/
inductive Part (α β : Type)
  | letter (a : α)
  | hit (src : List α) (b : β)

namespace Part

variable {α β : Type}

def source : Part α β → List α
  | letter a => [a]
  | hit src _ => src

/-- The part with a match replaced. -/
def replace (f : β → List α) : Part α β → List α
  | letter a => [a]
  | hit _ b => f b

end Part

namespace Matcher

section
variable {α β : Type} {Is : List α → β → Prop} (m : Matcher Is)

theorem rest_lt {s rest : List α} {b : β} (h : m.run s = some (b, rest)) :
    rest.length < s.length := by
  obtain ⟨src, hsrc, rfl⟩ := m.run_iff.1 h
  have hpos := List.length_pos_iff.2 (m.ne_nil hsrc)
  rw [List.length_append]
  omega

/-- The text with each match replaced. -/
def sub (f : β → List α) (s : List α) : List α :=
  match s with
  | [] => []
  | a :: s =>
    match _h : m.run (a :: s) with
    | some (b, rest) => f b ++ sub f rest
    | none => a :: sub f s
termination_by s.length
decreasing_by
  · exact m.rest_lt _h
  · exact Nat.lt_succ_self _

/-- The parts of a text. -/
def parts (s : List α) : List (Part α β) :=
  match s with
  | [] => []
  | a :: s =>
    match _h : m.run (a :: s) with
    | some (b, rest) => .hit ((a :: s).take ((a :: s).length - rest.length)) b :: parts rest
    | none => .letter a :: parts s
termination_by s.length
decreasing_by
  · exact m.rest_lt _h
  · exact Nat.lt_succ_self _

/-- The parts make up the text, the matches among them are matches, and every match of the text is
one of them. -/
structure Parts (Is : List α → β → Prop) (s : List α) (ps : List (Part α β)) : Prop where
  source : ps.flatMap Part.source = s
  hits : ∀ src b, .hit src b ∈ ps → Is src b
  all : ∀ pre src b post, s = pre ++ src ++ post → Is src b → ∃ p₁ p₂, ps = p₁ ++ .hit src b :: p₂ ∧
    p₁.flatMap Part.source = pre ∧ p₂.flatMap Part.source = post

variable {m}

theorem parts_hit {src rest : List α} {b : β} (h : Is src b) :
    m.parts (src ++ rest) = .hit src b :: m.parts rest := by
  obtain ⟨a, s, hs⟩ := List.exists_cons_of_ne_nil
    (List.append_ne_nil_of_left_ne_nil (m.ne_nil h) rest)
  have hrun : m.run (a :: s) = some (b, rest) := m.run_iff.2 ⟨src, h, hs.symm⟩
  rw [hs, parts]
  split
  · next heq =>
    cases hrun.symm.trans heq
    have htake : (a :: s).take ((a :: s).length - rest.length) = src := by
      rw [← hs, List.length_append, Nat.add_sub_cancel, List.take_left]
    simp only [htake]
  · next heq => cases hrun.symm.trans heq

theorem parts_letter {a : α} {s : List α} (h : m.run (a :: s) = none) :
    m.parts (a :: s) = .letter a :: m.parts s := by
  rw [parts]
  split
  · next heq => cases h.symm.trans heq
  · rfl

theorem sub_hit {f : β → List α} {src rest : List α} {b : β} (h : Is src b) :
    m.sub f (src ++ rest) = f b ++ m.sub f rest := by
  obtain ⟨a, s, hs⟩ := List.exists_cons_of_ne_nil
    (List.append_ne_nil_of_left_ne_nil (m.ne_nil h) rest)
  have hrun : m.run (a :: s) = some (b, rest) := m.run_iff.2 ⟨src, h, hs.symm⟩
  rw [hs, sub]
  split
  · next heq =>
    cases hrun.symm.trans heq
    rfl
  · next heq => cases hrun.symm.trans heq

theorem sub_letter {f : β → List α} {a : α} {s : List α} (h : m.run (a :: s) = none) :
    m.sub f (a :: s) = a :: m.sub f s := by
  rw [sub]
  split
  · next heq => cases h.symm.trans heq
  · rfl

/-- Texts are empty, or start with a match, or with a letter at which no match starts. -/
theorem scan_induction (m : Matcher Is) {P : List α → Prop} (nil : P [])
    (hit : ∀ src b rest, Is src b → P rest → P (src ++ rest))
    (letter : ∀ a s, m.run (a :: s) = none → P s → P (a :: s)) (s : List α) : P s := by
  induction hn : s.length using Nat.strongRecOn generalizing s with
  | _ n ih =>
    subst hn
    cases s with
    | nil => exact nil
    | cons a s =>
      cases h : m.run (a :: s) with
      | none => exact letter a s h (ih _ (Nat.lt_succ_self _) s rfl)
      | some r =>
        have hlt := m.rest_lt h
        obtain ⟨src, hsrc, heq⟩ := m.run_iff.1 h
        rw [heq] at hlt ⊢
        exact hit src _ _ hsrc (ih _ (heq ▸ hlt) _ rfl)

/-- The substitution replaces the matches among the parts of the text, and keeps the letters. -/
theorem sub_eq (f : β → List α) (s : List α) :
    m.sub f s = (m.parts s).flatMap (Part.replace f) := by
  induction s using m.scan_induction with
  | nil => rw [sub, parts]; rfl
  | hit src b rest h ih => rw [sub_hit h, parts_hit h, List.flatMap_cons, ih]; rfl
  | letter a s h ih => rw [sub_letter h, parts_letter h, List.flatMap_cons, ih]; rfl

/-- No match starts where the search finds none. -/
theorem not_is_of_run (m : Matcher Is) {s src rest : List α} {b : β} (h : m.run s = none)
    (hs : s = src ++ rest) : ¬ Is src b := by
  intro hsrc
  rw [m.run_iff.2 ⟨src, hsrc, hs⟩] at h
  cases h

/-- Two matches at the start of a text are the same one. -/
theorem is_unique (m : Matcher Is) {src src' rest rest' : List α} {b b' : β} (h : Is src b)
    (h' : Is src' b') (heq : src ++ rest = src' ++ rest') : src = src' ∧ b = b' ∧ rest = rest' := by
  have hrun : m.run (src ++ rest) = some (b, rest) := m.run_iff.2 ⟨src, h, rfl⟩
  rw [m.run_iff.2 ⟨src', h', heq⟩] at hrun
  cases hrun
  exact ⟨List.append_cancel_right heq, rfl, rfl⟩

/-- A match in a text that starts with a match is this one, or in the rest. -/
theorem occurs_hit (m : Matcher Is) {src rest pre src' post : List α} {b b' : β} (h : Is src b)
    (h' : Is src' b') (heq : src ++ rest = pre ++ src' ++ post) :
    (pre = [] ∧ src' = src ∧ b' = b ∧ post = rest) ∨
      ∃ pre', pre = src ++ pre' ∧ rest = pre' ++ src' ++ post := by
  rw [List.append_assoc] at heq
  rcases List.append_eq_append_iff.1 heq with ⟨pre', rfl, hrest⟩ | ⟨y, rfl, hpost⟩
  · exact .inr ⟨pre', rfl, by rw [hrest, List.append_assoc]⟩
  · cases pre with
    | nil =>
      obtain ⟨hs, hb, hr⟩ := m.is_unique h' h hpost
      exact .inl ⟨rfl, hs, hb, hr⟩
    | cons a pre =>
      cases y with
      | nil => exact .inr ⟨[], by simp, by simpa using hpost.symm⟩
      | cons c y =>
        exact absurd hpost.symm (m.apart h (List.cons_ne_nil _ _) (List.cons_ne_nil _ _) h')

theorem parts_spec (m : Matcher Is) (s : List α) : Parts Is s (m.parts s) := by
  induction s using m.scan_induction with
  | nil =>
    rw [parts]
    refine ⟨rfl, nofun, fun pre src b post h hsrc => absurd ?_ (m.ne_nil hsrc)⟩
    exact (List.append_eq_nil_iff.1 (List.append_eq_nil_iff.1 h.symm).1).2
  | hit src b rest h ih =>
    rw [parts_hit h]
    refine ⟨by rw [List.flatMap_cons, ih.source]; rfl, fun src' b' hmem => ?_,
      fun pre src' b' post heq h' => ?_⟩
    · rcases List.mem_cons.1 hmem with heq | hmem
      · cases heq
        exact h
      · exact ih.hits _ _ hmem
    · rcases m.occurs_hit h h' heq with ⟨rfl, rfl, rfl, rfl⟩ | ⟨pre', rfl, hrest⟩
      · exact ⟨[], m.parts post, rfl, rfl, ih.source⟩
      · obtain ⟨p₁, p₂, hps, hpre, hpost⟩ := ih.all _ _ _ _ hrest h'
        exact ⟨_ :: p₁, p₂, by rw [hps]; rfl, by rw [List.flatMap_cons, hpre]; rfl, hpost⟩
  | letter a s h ih =>
    rw [parts_letter h]
    refine ⟨by rw [List.flatMap_cons, ih.source]; rfl, fun src b hmem => ?_,
      fun pre src b post heq hsrc => ?_⟩
    · rcases List.mem_cons.1 hmem with heq | hmem
      · cases heq
      · exact ih.hits _ _ hmem
    · cases pre with
      | nil => exact absurd hsrc (m.not_is_of_run h heq)
      | cons c pre =>
        obtain ⟨rfl, hs⟩ := List.cons.inj heq
        obtain ⟨p₁, p₂, hps, hpre, hpost⟩ := ih.all pre src b post hs hsrc
        exact ⟨_ :: p₁, p₂, by rw [hps]; rfl, by rw [List.flatMap_cons, hpre]; rfl, hpost⟩

/-- A text falls into parts in one way. -/
theorem parts_iff (m : Matcher Is) {s : List α} {ps : List (Part α β)} :
    Parts Is s ps ↔ ps = m.parts s := by
  refine ⟨fun h => ?_, fun h => h ▸ m.parts_spec s⟩
  have hlen : ∀ {p : Part α β}, p ∈ ps → p.source ≠ [] := by
    intro p hp
    cases p with
    | letter a => exact List.cons_ne_nil _ _
    | hit src b => exact m.ne_nil (h.hits src b hp)
  induction s using m.scan_induction generalizing ps with
  | nil =>
    cases ps with
    | nil => rw [parts]
    | cons p ps => exact absurd (List.flatMap_eq_nil_iff.1 h.source p (.head _)) (hlen (.head _))
  | hit src b rest hsrc ih =>
    obtain ⟨p₁, p₂, rfl, hpre, hpost⟩ := h.all [] src b rest (by simp) hsrc
    obtain rfl : p₁ = [] := by
      cases p₁ with
      | nil => rfl
      | cons p p₁ => exact absurd (List.flatMap_eq_nil_iff.1 hpre p (.head _)) (hlen (.head _))
    rw [parts_hit hsrc, List.nil_append]
    refine congrArg _ (ih ⟨hpost, fun src' b' hmem => h.hits src' b' (.tail _ hmem),
      fun pre src' b' post heq h' => ?_⟩ fun hp => hlen (.tail _ hp))
    obtain ⟨p₁, p₃, hps, hp₁, hp₃⟩ := h.all (src ++ pre) src' b' post (by simp [heq]) h'
    cases p₁ with
    | nil => exact absurd (List.append_eq_nil_iff.1 hp₁.symm).1 (m.ne_nil hsrc)
    | cons p p₁ =>
      obtain ⟨rfl, htail⟩ := List.cons.inj hps
      exact ⟨p₁, p₃, htail, by simpa [Part.source] using hp₁, hp₃⟩
  | letter a s hnone ih =>
    cases ps with
    | nil => cases h.source
    | cons p ps =>
      have hsource := h.source
      rw [List.flatMap_cons] at hsource
      cases p with
      | hit src b => exact absurd (h.hits src b (.head _)) (m.not_is_of_run hnone hsource.symm)
      | letter c =>
        obtain ⟨rfl, hs⟩ := List.cons.inj hsource
        rw [parts_letter hnone]
        refine congrArg _ (ih ⟨hs, fun src b hmem => h.hits src b (.tail _ hmem),
          fun pre src b post heq hsrc => ?_⟩ fun hp => hlen (.tail _ hp))
        obtain ⟨p₁, p₂, hps, hp₁, hp₂⟩ := h.all (c :: pre) src b post (by simp [heq]) hsrc
        cases p₁ with
        | nil => cases hp₁
        | cons p p₁ =>
          obtain ⟨rfl, htail⟩ := List.cons.inj hps
          exact ⟨p₁, p₂, htail, by simpa [Part.source] using hp₁, hp₂⟩

/-- A match among the parts is in the text. -/
theorem Parts.occurs {s : List α} {ps : List (Part α β)} (h : Parts Is s ps) {src : List α} {b : β}
    (hmem : .hit src b ∈ ps) : ∃ pre post, s = pre ++ src ++ post ∧ Is src b := by
  obtain ⟨p₁, p₂, rfl⟩ := List.append_of_mem hmem
  refine ⟨p₁.flatMap Part.source, p₂.flatMap Part.source, ?_, h.hits src b hmem⟩
  rw [← h.source, List.flatMap_append, List.flatMap_cons, List.append_assoc]
  rfl

/-- A text without matches stays as it is. -/
theorem sub_eq_self {f : β → List α} {s : List α}
    (h : ∀ pre src b post, s = pre ++ src ++ post → ¬ Is src b) : m.sub f s = s := by
  have hparts := m.parts_spec s
  calc m.sub f s = (m.parts s).flatMap (Part.replace f) := sub_eq f s
    _ = (m.parts s).flatMap Part.source := List.flatMap_congr fun p hp => by
      cases p with
      | letter a => rfl
      | hit src b =>
        obtain ⟨pre, post, heq, hsrc⟩ := hparts.occurs hp
        exact absurd hsrc (h pre src b post heq)
    _ = s := hparts.source

/-- The result depends on what is put in for the matches of the text alone. -/
theorem sub_congr {f g : β → List α} {s : List α}
    (h : ∀ pre src b post, s = pre ++ src ++ post → Is src b → f b = g b) :
    m.sub f s = m.sub g s := by
  rw [sub_eq, sub_eq]
  refine List.flatMap_congr fun p hp => ?_
  cases p with
  | letter a => rfl
  | hit src b =>
    obtain ⟨pre, post, heq, hsrc⟩ := (m.parts_spec s).occurs hp
    exact h pre src b post heq hsrc

end

end Matcher

end Lib
