import AeroXProtect.Event.Pipeline

/-!
# The key of an event

The key joins the camera, the type, the subtype, the channel and, when there is one, the extra text
with colons, writes `None` for what is absent, and is stored in a column of 80 characters.
`pieces` are the texts between the colons. Two keys are equal exactly if the pieces are
(`splitOn_dedupKey`). So the key of an event that is plain and short is faithful and fits the
column, whatever the other one is (`dedupKey_faithful_of_plain`), and `dedupKey_faithful_iff` says
exactly for which two events it does.
-/

open Lib

namespace AeroXProtect

/-! ## The pieces -/

/-- The texts between the colons: a field is cut where it has a colon itself, an absent subtype or
channel counts as `None`, and an absent or empty extra text has no piece. -/
def pieces (cameraId : Nat) (n : NormalizedEvent) : List (List Char) :=
  [(toString cameraId).toList] ++ n.type.toList.splitOn ':' ++
    (pyStr n.subtype).toList.splitOn ':' ++ [(pyStr (n.channel.map toString)).toList] ++
    if truthy n.dedupExtra then (n.dedupExtra.getD "").toList.splitOn ':' else []

/-- The characters of the fields and of the colons between them. -/
def keyWidth (cameraId : Nat) (n : NormalizedEvent) : Nat :=
  (toString cameraId).length + 1 + n.type.length + 1 + (pyStr n.subtype).length + 1 +
    (pyStr (n.channel.map toString)).length +
    if truthy n.dedupExtra then 1 + (n.dedupExtra.getD "").length else 0

/-- The width of the column `dedup_key`. -/
def dedupKeyColumn : Nat := 80

/-- The events agree in camera, type, subtype, channel and extra text. -/
structure SameIdentity (cameraId : Nat) (n : NormalizedEvent) (cameraId' : Nat)
    (n' : NormalizedEvent) : Prop where
  camera : cameraId = cameraId'
  type : n.type = n'.type
  subtype : n.subtype = n'.subtype
  channel : n.channel = n'.channel
  extra : n.dedupExtra = n'.dedupExtra

section
variable {cameraId cameraId' : Nat} {n n' : NormalizedEvent}

theorem toList_nat (k : Nat) : (toString k).toList = Nat.toDigits 10 k := by
  rw [Nat.toString_eq_repr, Nat.repr_eq_ofList_toDigits, String.toList_ofList]

theorem toList_int (k : Int) : (toString k).toList =
    (if k < 0 then ['-'] else []) ++ Nat.toDigits 10 k.natAbs := by
  cases k <;> simp [Int.repr_eq_if, Nat.repr_eq_ofList_toDigits]

/-- The characters of a decimal text are a sign and digits. -/
theorem mem_toList_int {k : Int} {c : Char} (h : c ∈ (toString k).toList) :
    c = '-' ∨ c.isDigit = true := by
  rw [toList_int] at h
  rcases List.mem_append.1 h with h | h
  · split at h
    · exact .inl (List.mem_singleton.1 h)
    · cases h
  · exact .inr (Nat.isDigit_of_mem_toDigits (by decide) (by decide) h)

theorem toDigits_inj {j k : Nat} (h : Nat.toDigits 10 j = Nat.toDigits 10 k) : j = k := by
  rw [← @Nat.ofDigitChars_ten_toDigits j, h, Nat.ofDigitChars_ten_toDigits]

/-- The decimal notation tells integers apart. -/
theorem toString_int_inj {j k : Int} (h : toString j = toString k) : j = k := by
  have hlist := congrArg String.toList h
  have hsign : ∀ i : Nat, '-' ∉ Nat.toDigits 10 i := fun i hi =>
    absurd (Nat.isDigit_of_mem_toDigits (by decide) (by decide) hi) (by decide)
  rw [toList_int, toList_int] at hlist
  by_cases hj : j < 0 <;> by_cases hk : k < 0
  · simp only [hj, hk, if_true, List.cons_append, List.nil_append, List.cons.injEq,
      true_and] at hlist
    have := toDigits_inj hlist
    omega
  · simp only [hj, hk, if_true, if_false, List.cons_append, List.nil_append] at hlist
    exact absurd (hlist ▸ .head _) (hsign k.natAbs)
  · simp only [hj, hk, if_true, if_false, List.cons_append, List.nil_append] at hlist
    exact absurd (hlist.symm ▸ .head _) (hsign j.natAbs)
  · simp only [hj, hk, if_false, List.nil_append] at hlist
    have := toDigits_inj hlist
    omega

theorem colon_not_mem_nat (k : Nat) : ':' ∉ (toString k).toList := by
  intro h
  rw [toList_nat] at h
  exact absurd (Nat.isDigit_of_mem_toDigits (by decide) (by decide) h) (by decide)

/-- The channel has no colon, absent or not. -/
theorem colon_not_mem_channel (channel : Option Int) :
    ':' ∉ (pyStr (channel.map toString)).toList := by
  cases channel with
  | none => decide
  | some k => exact fun h => absurd (mem_toList_int h) (by decide)

/-- Splitting a text before and after a colon. -/
theorem splitOn_colon (s t : String) :
    (s ++ ":" ++ t).toList.splitOn ':' = s.toList.splitOn ':' ++ t.toList.splitOn ':' := by
  rw [String.toList_append, String.toList_append, List.append_assoc]
  exact List.splitOn_append_cons_self s.toList t.toList

theorem eq_of_splitOn {s t : String} (h : s.toList.splitOn ':' = t.toList.splitOn ':') : s = t := by
  have hjoin := congrArg [':'].intercalate h
  rw [List.intercalate_splitOn, List.intercalate_splitOn] at hjoin
  exact String.toList_inj.1 hjoin

/-- Splitting the key gives the pieces. -/
theorem splitOn_dedupKey : (dedupKey cameraId n).toList.splitOn ':' = pieces cameraId n := by
  have hcamera := List.splitOn_eq_singleton (colon_not_mem_nat cameraId)
  have hchannel := List.splitOn_eq_singleton (colon_not_mem_channel n.channel)
  unfold dedupKey pieces
  split
  · simp only [splitOn_colon, hcamera, hchannel]
  · simp only [splitOn_colon, hcamera, hchannel, List.append_nil]

theorem length_dedupKey : (dedupKey cameraId n).length = keyWidth cameraId n := by
  have hcolon : (":" : String).length = 1 := rfl
  unfold dedupKey keyWidth
  split <;> simp only [String.length_append, hcolon] <;> omega

/-- Keys are equal exactly if the pieces are. -/
theorem dedupKey_eq_iff :
    dedupKey cameraId n = dedupKey cameraId' n' ↔ pieces cameraId n = pieces cameraId' n' := by
  rw [← splitOn_dedupKey, ← splitOn_dedupKey]
  constructor
  · intro h
    rw [h]
  · exact eq_of_splitOn

/-! ## Events that the pieces tell apart -/

/-- Neither the type nor the subtype has a colon, and no text stands for an absent one. -/
structure Plain (n : NormalizedEvent) : Prop where
  type : ':' ∉ n.type.toList
  subtype : ':' ∉ (pyStr n.subtype).toList
  named : n.subtype ≠ some "None"
  extra : n.dedupExtra ≠ some ""

theorem pyStr_inj {s t : Option String} (hs : s ≠ some "None") (ht : t ≠ some "None")
    (h : pyStr s = pyStr t) : s = t := by
  cases s <;> cases t <;> simp_all [pyStr]

/-- The decimal text of an integer is no `None`. -/
theorem channel_inj {c c' : Option Int}
    (h : pyStr (c.map toString) = pyStr (c'.map toString)) : c = c' := by
  have hnone : ∀ k : Int, "None" ≠ toString k := by
    intro k heq
    have hmem : 'N' ∈ (toString k).toList := heq ▸ by decide
    exact absurd (mem_toList_int hmem) (by decide)
  cases c with
  | none =>
    cases c' with
    | none => rfl
    | some k => exact absurd h (hnone k)
  | some j =>
    cases c' with
    | none => exact absurd h.symm (hnone j)
    | some k => exact congrArg some (toString_int_inj h)

/-- The pieces of the extra text tell it apart, absent or not. -/
theorem extra_inj {e e' : Option String} (he : e ≠ some "") (he' : e' ≠ some "")
    (h : (if truthy e then (e.getD "").toList.splitOn ':' else []) =
      if truthy e' then (e'.getD "").toList.splitOn ':' else []) : e = e' := by
  cases e with
  | none =>
    cases e' with
    | none => rfl
    | some t =>
      have ht : t ≠ "" := fun heq => he' (congrArg some heq)
      simp [truthy, ht] at h
  | some s =>
    have hs : s ≠ "" := fun heq => he (congrArg some heq)
    cases e' with
    | none => simp [truthy, hs] at h
    | some t =>
      have ht : t ≠ "" := fun heq => he' (congrArg some heq)
      simp only [truthy, hs, ht, ne_eq, not_false_iff, decide_true, if_true,
        Option.getD_some] at h
      exact congrArg some (eq_of_splitOn h)

/-- Of two plain events with the same pieces the fields are the same. -/
theorem sameIdentity_of_plain (h : Plain n) (h' : Plain n')
    (heq : pieces cameraId n = pieces cameraId' n') : SameIdentity cameraId n cameraId' n' := by
  unfold pieces at heq
  rw [List.splitOn_eq_singleton h.type, List.splitOn_eq_singleton h.subtype,
    List.splitOn_eq_singleton h'.type, List.splitOn_eq_singleton h'.subtype] at heq
  simp only [List.cons_append, List.nil_append, List.cons.injEq, String.toList_inj] at heq
  obtain ⟨hcamera, htype, hsubtype, hchannel, hextra⟩ := heq
  exact ⟨toString_nat_inj.1 hcamera, htype, pyStr_inj h.named h'.named hsubtype,
    channel_inj hchannel, extra_inj h.extra h'.extra hextra⟩

/-- Of two events that are plain and short, the key is faithful and fits its column. -/
theorem dedupKey_faithful_of_plain (h : Plain n) (h' : Plain n')
    (hwidth : keyWidth cameraId n ≤ dedupKeyColumn)
    (hwidth' : keyWidth cameraId' n' ≤ dedupKeyColumn) :
    (dedupKey cameraId n = dedupKey cameraId' n' → SameIdentity cameraId n cameraId' n') ∧
      (dedupKey cameraId n).length ≤ dedupKeyColumn ∧
      (dedupKey cameraId' n').length ≤ dedupKeyColumn := by
  rw [dedupKey_eq_iff, length_dedupKey, length_dedupKey]
  exact ⟨sameIdentity_of_plain h h', hwidth, hwidth'⟩

end

/-- For two events, the key is faithful and fits its column exactly if the pieces tell the events
apart and the fields are short enough. -/
theorem dedupKey_faithful_iff (cameraId cameraId' : Nat) (n n' : NormalizedEvent) :
    ((dedupKey cameraId n = dedupKey cameraId' n' → SameIdentity cameraId n cameraId' n') ∧
        (dedupKey cameraId n).length ≤ dedupKeyColumn ∧
        (dedupKey cameraId' n').length ≤ dedupKeyColumn) ↔
      (pieces cameraId n = pieces cameraId' n' → SameIdentity cameraId n cameraId' n') ∧
        keyWidth cameraId n ≤ dedupKeyColumn ∧ keyWidth cameraId' n' ≤ dedupKeyColumn := by
  rw [dedupKey_eq_iff, length_dedupKey, length_dedupKey]

namespace DedupFixture

/-- A motion event without a channel. -/
def motion (subtype : Option String) : NormalizedEvent :=
  ⟨"motion", .pulse, subtype, none, none, none, none⟩

/-- A refused swipe of a card at a door. -/
def swipe (card : String) : NormalizedEvent :=
  ⟨"access", .pulse, some "denied", none, none, none, some ("7214556839215104001:" ++ card)⟩

end DedupFixture

open DedupFixture in
/-- An absent subtype and the subtype `None` share a key, and the key of a swipe with a card number
of 32 characters is too long for the column. -/
theorem dedupKey_collides :
    (dedupKey 1 (motion none) = dedupKey 1 (motion (some "None")) ∧
      ¬ SameIdentity 1 (motion none) 1 (motion (some "None"))) ∧
    ¬ (dedupKey 7214556839215104000 (swipe "04A1B2C3D4E5F60718293A4B5C6D7E8F")).length ≤
      dedupKeyColumn :=
  ⟨⟨by decide +kernel, fun h => nomatch h.subtype⟩, by decide +kernel⟩

end AeroXProtect
