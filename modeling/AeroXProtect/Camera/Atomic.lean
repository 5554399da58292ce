import AeroXProtect.Camera.Controller

/-!
# Requests that raise

A request to register or to edit a camera commits the camera's row before it looks at the stream
list, and deletes the old streams in a commit of its own. `registration_atomic_iff` says when a
request that raises leaves the rows as they were: exactly when its row is refused, or its stream
list is taken, or there was nothing to lose. In a batch the item that is reported as failed has left
its row otherwise, and is a duplicate of itself when it comes again.
-/

open Lib

namespace AeroXProtect.Registration

/-! ## What is asked -/

/-- The rows of cameras and of streams. -/
def stored (s : Store) : List (CameraRow × List StreamRow) := s.map fun r => (r.row, r.streams)

/-- A request that raises leaves the rows as they were. -/
def Atomic (s : Store) (result : Store × Option Failure) : Prop :=
  result.2 ≠ none → stored result.1 = stored s

/-- The item has left nothing behind: neither rows nor a camera that a request with other data is a
duplicate of. -/
def LeftNothing (b : Backend) (s s' : Store) : Prop :=
  stored s' = stored s ∧ ∀ serial host channel,
    (findDuplicate b s' serial host channel).isSome =
      (findDuplicate b s serial host channel).isSome

/-- The batch comes to an item in a store. -/
inductive Reaches (b : Backend) (e : Encode) (uuids : Nat → String) (common : Json) (actor : Nat) :
    Nat → List Json → Store → Nat → Json → Store → Prop
  | here {idx : Nat} {item : Json} {rest : List Json} {s : Store} :
      Reaches b e uuids common actor idx (item :: rest) s idx item s
  | next {idx k : Nat} {item x : Json} {rest : List Json} {s s' t : Store} {r : ItemResult} :
      batchItem b e uuids common actor idx item s = (s', .ok r) →
        Reaches b e uuids common actor (idx + 1) rest s' k x t →
        Reaches b e uuids common actor idx (item :: rest) s k x t

/-! ## When it holds -/

section
variable (b : Backend) (uuid : String) (data : Json) (actor : Nat) (s : Store)

/-- A camera whose row is committed has a stream list that is taken. -/
def CreateSafe : Prop :=
  ∀ row, createRow b (fun serial host channel => (findDuplicate b s serial host channel).isSome)
      uuid data actor = .ok row →
    b.takesCamera row = true → StreamsTaken b row (createStreams data)

/-- An edit whose row is committed has a stream list that is taken, or changes no field of a camera
without streams. -/
def UpdateSafe : Prop :=
  ∀ r row, getByUuid s uuid = some r → editRow b data actor r.row = .ok row →
    b.takesCamera row = true → StreamsTaken b row (data.field "streams") ∨
      row = r.row ∧ r.streams = []

end

section
variable {b : Backend} {e : Encode} {uuid : String} {data : Json} {actor : Nat} {s : Store}
  {r r' : Registered}

theorem stored_append_ne (s : Store) (r : Registered) : stored (s ++ [r]) ≠ stored s := by
  intro h
  simpa [stored] using congrArg List.length h

/-- A request to register a camera that raises leaves no row exactly if it is safe. -/
theorem create_atomic_iff : Atomic s (create b e uuid data actor s) ↔
    CreateSafe b uuid data actor s := by
  unfold Atomic create CreateSafe
  rcases createOne_cases b e (fun serial host channel =>
    (findDuplicate b s serial host channel).isSome) uuid data actor with
    ⟨hrefused, f, heq⟩ | ⟨row, hrow, htakes, ⟨htaken, heq⟩ | ⟨hnot, f, heq⟩⟩
  · rw [heq]
    refine iff_of_true (fun _ => ?_) fun row hrow htakes => ?_
    · simp
    · simp [hrefused row hrow] at htakes
  · rw [heq]
    refine iff_of_true (fun h => absurd rfl h) fun row' hrow' _ => ?_
    obtain rfl := Except.ok.inj (hrow.symm.trans hrow')
    exact htaken
  · rw [heq]
    refine iff_of_false (fun h => ?_) fun h => hnot (h row hrow htakes)
    exact stored_append_ne s _ (h (by simp))

/-- A camera put back as it was. -/
theorem stored_put_iff (h : getByUuid s uuid = some r) :
    stored (put uuid r' s) = stored s ↔ r'.row = r.row ∧ r'.streams = r.streams := by
  induction s with
  | nil => cases h
  | cons x s ih =>
    rw [getByUuid, List.find?_cons] at h
    rw [put]
    cases hx : decide (x.row.uuid = uuid) && x.row.deletedAt.isNone with
    | true =>
      rw [hx] at h
      obtain rfl := Option.some.inj h
      simp [stored]
    | false =>
      rw [hx] at h
      rw [if_neg (by simp)]
      simpa [stored] using ih h

/-- A request to edit a camera that raises leaves the rows as they were exactly if it is safe. -/
theorem update_atomic_iff : Atomic s (update b e uuid data actor s) ↔
    UpdateSafe b uuid data actor s := by
  unfold Atomic update UpdateSafe
  cases hfound : getByUuid s uuid with
  | none => exact iff_of_true (fun _ => rfl) fun r row hr => by simp at hr
  | some r =>
    rcases updateOne_cases b e data actor r with ⟨hrefused, f, heq⟩ | ⟨row, hrow, htakes, heq⟩
    · simp only [heq]
      refine iff_of_true (fun _ => (stored_put_iff hfound).2 ⟨rfl, rfl⟩) ?_
      intro r' row hr hrow htakes
      obtain rfl := Option.some.inj hr
      simp [hrefused row hrow] at htakes
    · have hsafe : (∀ r' row', some r = some r' → editRow b data actor r'.row = .ok row' →
          b.takesCamera row' = true → StreamsTaken b row' (data.field "streams") ∨
            row' = r'.row ∧ r'.streams = []) ↔
          StreamsTaken b row (data.field "streams") ∨ row = r.row ∧ r.streams = [] := by
        refine ⟨fun h => h r row rfl hrow htakes, fun h r' row' hr hrow' _ => ?_⟩
        obtain rfl := Option.some.inj hr
        obtain rfl := Except.ok.inj (hrow.symm.trans hrow')
        exact h
      rw [hsafe]
      rcases resync_cases b e (data.field "streams") false 0 { r with row } with
        ⟨htaken, hre⟩ | ⟨hnot, f, hre⟩
      · simp only [heq, hre]
        exact iff_of_true (fun h => absurd rfl h) (.inl htaken)
      · simp only [heq, hre]
        rw [forall_prop_of_true (by simp), stored_put_iff hfound, or_iff_right hnot]
        exact and_congr_right' eq_comm

theorem leftNothing_refl (b : Backend) (s : Store) : LeftNothing b s s :=
  ⟨rfl, fun _ _ _ => rfl⟩

/-- A request to register a camera that is safe and raises leaves the store alone. -/
theorem create_of_safe {f : Failure} (hsafe : CreateSafe b uuid data actor s)
    (h : (create b e uuid data actor s).2 = some f) : (create b e uuid data actor s).1 = s := by
  have hstored : stored (create b e uuid data actor s).1 = stored s :=
    create_atomic_iff.2 hsafe (by simp [h])
  unfold create at hstored ⊢
  generalize createOne b e _ uuid data actor = res at hstored ⊢
  obtain ⟨_ | r, failure⟩ := res
  · simp
  · exact absurd hstored (stored_append_ne s r)

/-! ## Items of a batch -/

section
variable {uuids : Nat → String} {common item : Json} {idx : Nat} {host : String}

/-- An item that is read is a request of its own. -/
theorem batchItem_eq (hdata : merged common item = .ok data)
    (hhost : strippedText (data.field "host") = .ok host) :
    batchItem b e uuids common actor idx item s =
      ((create b e (uuids idx) data actor s).1,
        .ok ⟨idx, host, outcome (uuids idx) (create b e (uuids idx) data actor s).2⟩) := by
  simp only [batchItem, hdata, hhost]

/-- A result that is reported is the one of a request. -/
theorem batchItem_ok {res : ItemResult} {s' : Store}
    (h : batchItem b e uuids common actor idx item s = (s', .ok res)) :
    ∃ data host, merged common item = .ok data ∧ strippedText (data.field "host") = .ok host := by
  unfold batchItem at h
  split at h
  · simp at h
  · next data hdata =>
    split at h
    · simp at h
    · next host hhost => exact ⟨data, host, hdata, hhost⟩

/-- An item reported as failed has left nothing behind exactly if its request is safe. -/
theorem batchItem_iff :
    (∀ s' res f, batchItem b e uuids common actor idx item s = (s', .ok res) →
        res.result = .error f → LeftNothing b s s') ↔
      ∀ data host, merged common item = .ok data → strippedText (data.field "host") = .ok host →
        CreateSafe b (uuids idx) data actor s := by
  constructor
  · intro h data host hdata hhost
    refine create_atomic_iff (e := e).1 fun hraises => ?_
    obtain ⟨f, hf⟩ := Option.ne_none_iff_exists'.1 hraises
    exact (h _ _ f (batchItem_eq hdata hhost) (by rw [hf, outcome])).1
  · intro hsafe s' res f h hres
    obtain ⟨data, host, hdata, hhost⟩ := batchItem_ok h
    rw [batchItem_eq hdata hhost] at h
    obtain ⟨rfl, hok⟩ := Prod.mk.inj h
    obtain rfl := Except.ok.inj hok
    cases hf : (create b e (uuids idx) data actor s).2 with
    | none => simp [hf, outcome] at hres
    | some f' =>
      rw [create_of_safe (hsafe data host hdata hhost) hf]
      exact leftNothing_refl b s

end

/-! ## The controller -/

/-- For every store, request and batch: a request that raises leaves the rows as they were, and an
item reported as failed leaves nothing behind, exactly if the requests are safe. -/
theorem registration_atomic_iff (b : Backend) (e : Encode) :
    (∀ uuid data actor s, Atomic s (create b e uuid data actor s) ↔
        CreateSafe b uuid data actor s) ∧
      (∀ uuid data actor s, Atomic s (update b e uuid data actor s) ↔
        UpdateSafe b uuid data actor s) ∧
      ∀ uuids items common actor s,
        (∀ k item t t' res f, Reaches b e uuids common actor 0 items s k item t →
          batchItem b e uuids common actor k item t = (t', .ok res) → res.result = .error f →
            LeftNothing b t t') ↔
        ∀ k item t data host, Reaches b e uuids common actor 0 items s k item t →
          merged common item = .ok data → strippedText (data.field "host") = .ok host →
            CreateSafe b (uuids k) data actor t := by
  refine ⟨fun _ _ _ _ => create_atomic_iff, fun _ _ _ _ => update_atomic_iff,
    fun uuids items common actor s => ⟨fun h k item t data host hreach => ?_,
      fun h k item t t' res f hreach => ?_⟩⟩
  · exact batchItem_iff.1 (fun t' res f => h k item t t' res f hreach) data host
  · exact batchItem_iff.2 (fun data host => h k item t data host hreach) t' res f

/-- A path with a `#`: the request is refused and the camera is there, so that the corrected request
is refused as a duplicate. As an edit it is refused and the camera has lost its streams. -/
theorem registration_leaves_row :
    let body (path : String) : Json := .obj [("host", .str "10.0.0.5"), ("name", .str "Door"),
      ("streams", .arr [.obj [("role", .str "main"), ("rtsp_path", .str path)]])]
    let e : Encode := ⟨false, false⟩
    let refused := create accepting e "1" (body "/a#b") 7 []
    let registered := create accepting e "1" (body "/a") 7 []
    let edited := update accepting e "1" (body "/a#b") 7 registered.1
    let item := batchItem accepting e (fun _ => "1") .empty 7 0 (body "/a#b") []
    refused.2 = some (.invalid "rtsp_path contains invalid characters") ∧
      refused.1.map (fun r => r.row.uuid) = ["1"] ∧
      (create accepting e "2" (body "/a") 7 refused.1).2 =
        some (.conflict "camera already registered (serial or host+channel)") ∧
      item.1.map (fun r => r.row.uuid) = ["1"] ∧
      registered.1.map (fun r => r.streams.length) = [1] ∧
      edited.2 = some (.invalid "rtsp_path contains invalid characters") ∧
      edited.1.map (fun r => r.streams.length) = [0] := by
  decide +kernel

end

end AeroXProtect.Registration
