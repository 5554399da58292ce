import AeroXProtect.Monitor.Tables
import AeroXProtect.Lib.Decoded

/-!
# The cameras of a kiosk monitor

The layout of a dashboard is one page, or a list of pages. `validate_layout` checks each page that
will be shown, and `PairingController.me` looks the cameras up in the cells at the top of the layout
only. In a layout of pages nobody has checked that part, and as a rule it is not there. So a monitor
gets its cameras when the layout is one page; of pages it gets them exactly when the unchecked cells
can be read and have every camera of the pages as well (`kiosk_cameras_iff`).

A layout is a decoded value, and a check of it can end with an exception of Python or of the
database, which takes only some values as a uuid (`CameraRows.other`).
-/

open Lib

namespace AeroXProtect

/-! ## Cameras by uuid -/

/-- A row of `streams`. -/
structure KioskStream where
  role : String
  go2rtcName : String
  deletedAt : Option Int
  deriving DecidableEq, Repr

/-- A row of `cameras` with its streams. -/
structure KioskCamera where
  uuid : String
  name : String
  streams : List KioskStream
  deletedAt : Option Int
  deriving DecidableEq, Repr

abbrev KioskCameras := Table KioskCamera.uuid

/-- How the database compares a value with a text column: it raises for some values that are no
texts. -/
structure TextColumn where
  other : PyValue → Except PyError (String → Bool)

/-- `column == v` -/
def TextColumn.equals (column : TextColumn) : PyValue → Except PyError (String → Bool)
  | .str s => .ok fun t => decide (t = s)
  | v => column.other v

/-- Source: `Camera.get_by_uuid` (`server/model/camera.py:105`); `none` for a
`RowNotFoundException`. -/
def KioskCameras.getByUuid (t : KioskCameras) (column : TextColumn) (uuid : PyValue) :
    Except PyError (Option KioskCamera) :=
  (column.equals uuid).map fun p => t.rows.find? fun c => p c.uuid && c.deletedAt.isNone

/-! ## The check of a layout -/

/-- How a check ends that does not return: `InvalidParameterException` with its text, or another
exception. -/
inductive LayoutFault
  | invalid (text : String)
  | raised (e : PyError)
  deriving DecidableEq, Repr

namespace Layout

/-- `isinstance(v, int)`, with the value. -/
def asInt : PyValue → Option Int
  | .bool b => some (if b then 1 else 0)
  | .int n => some n
  | _ => none

/-- The values are one member of a set. -/
def sameKey (v w : PyValue) : Bool :=
  match v.number, w.number with
  | some p, some q => decide (p = q)
  | _, _ =>
    match v, w with
    | .null, .null => true
    | .str s, .str t => decide (s = t)
    | .float (.inf p), .float (.inf q) => decide (p = q)
    | _, _ => false

/-- `v in texts` -/
def oneOf (texts : List String) : PyValue → Bool
  | .str s => decide (s ∈ texts)
  | _ => false

/-- What a `for` loop runs over. -/
def iterated : PyValue → Except PyError (List PyValue)
  | .list items => .ok items
  | .dict fields => .ok (fields.map fun f => .str f.1)
  | .str s => .ok (s.toList.map fun c => .str c.toString)
  | _ => .error .typeError

end Layout

def RATIO_MODES : List String := ["fit", "stretch", "crop"]

section
variable (rt : Runtime) (column : TextColumn) (cameras : KioskCameras)

/-- The check of the camera of a cell. -/
def validateCellCamera (camUuid : PyValue) : Except LayoutFault Unit :=
  if camUuid.truthy then
    match cameras.getByUuid column camUuid with
    | .error e => .error (.raised e)
    | .ok none => .error (.invalid ("unknown camera in cell: " ++ rt.str camUuid))
    | .ok (some _) => .ok ()
  else .ok ()

/-- One turn of the loop of `_validate_page`, with the ids of the cells before. -/
def validateCell (cols rows : Int) (seen : List PyValue) (cell : PyValue) :
    Except LayoutFault (List PyValue) :=
  if !cell.isDict then .error (.invalid "each cell must be an object")
  else
    let cid := cell.field "i"
    if !cid.hashable then .error (.raised .typeError)
    else if seen.any fun v => Layout.sameKey cid v then
      .error (.invalid ("duplicate cell id: " ++ rt.str cid))
    else
      match Layout.asInt (cell.fieldD "x" (.int 0)), Layout.asInt (cell.fieldD "y" (.int 0)),
        Layout.asInt (cell.fieldD "w" (.int 1)), Layout.asInt (cell.fieldD "h" (.int 1)) with
      | some x, some y, some w, some h =>
        let rm := cell.field "ratio_mode"
        let sr := cell.field "stream_role"
        if x < 0 ∨ y < 0 ∨ w < 1 ∨ h < 1 ∨ cols < x + w ∨ rows < y + h then
          .error (.invalid ("cell out of grid bounds: " ++ rt.str cid))
        else if !rm.isNull && !Layout.oneOf RATIO_MODES rm then
          .error (.invalid ("invalid ratio_mode: " ++ rt.str rm))
        else if !sr.isNull && !Layout.oneOf ["main", "sub"] sr then
          .error (.invalid ("invalid stream_role: " ++ rt.str sr))
        else do
          validateCellCamera rt column cameras (cell.field "camera_uuid")
          return cid :: seen
      | _, _, _, _ => .error (.invalid "cell x/y/w/h must be integers")

/-- An exception of Python ends the check. -/
def raising {α : Type} : Except PyError α → Except LayoutFault α
  | .ok a => .ok a
  | .error e => .error (.raised e)

/-- Source: `_validate_page` (`server/controller/dashboard.py:8`), of an object. -/
def validatePage (page : PyValue) : Except LayoutFault Unit := do
  let grid := (page.field "grid").or (.dict [])
  let cols ← raising (grid.getD "cols" (.int 12) >>= PyValue.toInt)
  let rows ← raising (grid.getD "rows" (.int 8) >>= PyValue.toInt)
  match page.fieldD "cells" (.list []) with
  | .list cells => do
    let _ ← cells.foldlM (validateCell rt column cameras cols rows) []
    return ()
  | _ => .error (.invalid "layout.cells must be a list")

/-- The check of `sequence`. -/
def validateSequence (seq : PyValue) : Except LayoutFault Unit :=
  if seq.isNull then .ok ()
  else if !seq.isDict then .error (.invalid "layout.sequence must be an object")
  else if (seq.field "dwell_s").isNull then .ok ()
  else do
    let dwell ← raising (seq.field "dwell_s").toInt
    if dwell < 2 then .error (.invalid "sequence.dwell_s must be >= 2") else .ok ()

/-- One page of several. -/
def validatePageObject (page : PyValue) : Except LayoutFault Unit :=
  if !page.isDict then .error (.invalid "each page must be an object")
  else validatePage rt column cameras page

/-- Source: `validate_layout` (`server/controller/dashboard.py:44`). -/
def validateLayout (layout : PyValue) : Except LayoutFault Unit :=
  if !layout.isDict then .error (.invalid "layout must be an object")
  else if (layout.field "pages").isNull then validatePage rt column cameras layout
  else
    match layout.field "pages" with
    | .list (page :: pages) => do
      (page :: pages).forM (validatePageObject rt column cameras)
      validateSequence (layout.field "sequence")
    | _ => .error (.invalid "layout.pages must be a non-empty list")

end

/-! ## What a monitor is told -/

/-- A row of `dashboards` with its layout. -/
structure KioskDashboard extends Dashboard where
  layout : PyValue

/-- A camera as a monitor is told of it: the role and the name of each stream. -/
structure ListedCamera where
  uuid : String
  name : String
  streams : List (String × String)
  deriving DecidableEq, Repr

/-- The answer of `me`. -/
structure KioskView where
  uuid : String
  name : Json
  settings : Json
  dashboard : Option (String × PyValue)
  cameras : List ListedCamera

def KioskCamera.listed (cam : KioskCamera) : ListedCamera :=
  ⟨cam.uuid, cam.name,
    (cam.streams.filter fun x => x.deletedAt.isNone).map fun x => (x.role, x.go2rtcName)⟩

section
variable (column : TextColumn) (cameras : KioskCameras)

/-- The loop of `me` over the cells. -/
def listCells : List PyValue → Except PyError (List ListedCamera)
  | [] => .ok []
  | cell :: cells => do
    let camUuid ← cell.get "camera_uuid"
    if camUuid.truthy then
      match ← cameras.getByUuid column camUuid with
      | none => listCells cells
      | some cam => do
        let listed ← listCells cells
        return cam.listed :: listed
    else listCells cells

/-- Source: `PairingController.me` (`server/controller/monitor.py:88`). -/
def me (dashboards : List KioskDashboard) (monitor : Monitor) : Except PyError KioskView :=
  match dashboards.find? fun d => decide (d.id = monitor.dashboardId) && d.deletedAt.isNone with
  | none => .ok ⟨monitor.uuid, monitor.name, monitor.settings, none, []⟩
  | some dash => do
    let cells ← (dash.layout.or (.dict [])).getD "cells" (.list []) >>= Layout.iterated
    let listed ← listCells column cameras cells
    return ⟨monitor.uuid, monitor.name, monitor.settings, some (dash.uuid, dash.layout), listed⟩

end

/-! ## The cells that are shown -/

/-- The pages of a layout. -/
def pagesOf (layout : PyValue) : List PyValue :=
  match layout.field "pages" with
  | .list pages => pages
  | _ => [layout]

/-- The cells of a page. -/
def cellsOf (page : PyValue) : List PyValue :=
  match page.fieldD "cells" (.list []) with
  | .list cells => cells
  | _ => []

section
variable (column : TextColumn) (cameras : KioskCameras)

/-- The existing camera of a cell. -/
def cellCamera (cell : PyValue) : Option KioskCamera :=
  if (cell.field "camera_uuid").truthy then
    match cameras.getByUuid column (cell.field "camera_uuid") with
    | .ok found => found
    | .error _ => none
  else none

/-- The camera is in a cell of a page. -/
def Shown (layout : PyValue) (cam : KioskCamera) : Prop :=
  ∃ page ∈ pagesOf layout, ∃ cell ∈ cellsOf page, cellCamera column cameras cell = some cam

/-- The answer lists every camera that is shown. -/
def ListsShown (layout : PyValue) (answer : Except PyError KioskView) : Prop :=
  ∃ view, answer = .ok view ∧ ∀ cam, Shown column cameras layout cam → cam.listed ∈ view.cameras

/-- A cell that can be looked up: an object, whose camera the database takes as a uuid. -/
structure Lookable (cell : PyValue) : Prop where
  object : cell.isDict = true
  uuid : (cell.field "camera_uuid").truthy = true →
    Returns (column.equals (cell.field "camera_uuid"))

/-- The layout is one page; or the cells at its top can be looked up, and have every camera of the
pages. -/
def TopReaches (layout : PyValue) : Prop :=
  (layout.field "pages").isNull = true ∨
    ∃ cells, Layout.iterated (layout.fieldD "cells" (.list [])) = .ok cells ∧
      (∀ cell ∈ cells, Lookable column cell) ∧
      ∀ cam, Shown column cameras layout cam →
        ∃ cell ∈ cells, cellCamera column cameras cell = some cam

end

/-! ## The loop of `me` -/

section
variable {column : TextColumn} {cameras : KioskCameras} {cell : PyValue} {cells : List PyValue}
  {cam cam' : KioskCamera}

theorem returns_getByUuid {v : PyValue} :
    Returns (cameras.getByUuid column v) ↔ Returns (column.equals v) := by
  unfold KioskCameras.getByUuid
  cases column.equals v with
  | ok p => exact iff_of_true returns_ok returns_ok
  | error e => exact iff_of_false returns_error returns_error

/-- One turn of the loop. -/
theorem listCells_cons (hlook : Lookable column cell) :
    listCells column cameras (cell :: cells) =
      (listCells column cameras cells).map
        fun out => (cellCamera column cameras cell).toList.map KioskCamera.listed ++ out := by
  have hget : cell.get "camera_uuid" = .ok (cell.field "camera_uuid") :=
    PyValue.get_eq_ok.2 ⟨hlook.object, rfl⟩
  rw [listCells, hget]
  unfold cellCamera
  simp only [bind, Except.bind]
  by_cases htruthy : (cell.field "camera_uuid").truthy = true
  · obtain ⟨found, hfound⟩ := returns_getByUuid.2 (hlook.uuid htruthy)
    rw [if_pos htruthy, if_pos htruthy, hfound]
    cases found with
    | none => cases listCells column cameras cells <;> rfl
    | some cam => cases listCells column cameras cells <;> rfl
  · rw [if_neg htruthy, if_neg htruthy]
    cases listCells column cameras cells <;> rfl

/-- A cell that cannot be looked up ends the loop with an exception. -/
theorem lookable_of_listCells {out : List ListedCamera}
    (h : listCells column cameras (cell :: cells) = .ok out) : Lookable column cell := by
  rw [listCells, bind_eq_ok] at h
  obtain ⟨camUuid, hget, h⟩ := h
  obtain ⟨hobj, rfl⟩ := PyValue.get_eq_ok.1 hget
  refine ⟨hobj, fun htruthy => ?_⟩
  rw [if_pos htruthy, bind_eq_ok] at h
  obtain ⟨found, hfound, -⟩ := h
  exact returns_getByUuid.1 ⟨found, hfound⟩

/-- What the loop lists, when it ends. -/
theorem listCells_eq_ok {out : List ListedCamera} :
    listCells column cameras cells = .ok out ↔
      (∀ cell ∈ cells, Lookable column cell) ∧
        out = (cells.filterMap (cellCamera column cameras)).map KioskCamera.listed := by
  induction cells generalizing out with
  | nil => simp [listCells, eq_comm]
  | cons cell cells ih =>
    by_cases hlook : Lookable column cell
    · rw [listCells_cons hlook, List.forall_mem_cons, List.filterMap_cons]
      cases hrest : listCells column cameras cells with
      | error e =>
        have hnot : ¬ ∀ cell ∈ cells, Lookable column cell := fun hall => by
          cases hrest.symm.trans (ih.2 ⟨hall, rfl⟩)
        simp [Except.map, hnot]
      | ok rest =>
        obtain ⟨hall, rfl⟩ := ih.1 hrest
        cases cellCamera column cameras cell with
        | none =>
          simp only [Except.map, Except.ok.injEq, hlook, true_and, eq_comm]
          exact (and_iff_right hall).symm
        | some cam =>
          simp only [Except.map, Except.ok.injEq, hlook, true_and, eq_comm]
          exact (and_iff_right hall).symm
    · refine iff_of_false (fun h => hlook (lookable_of_listCells h)) fun h => ?_
      exact hlook (h.1 cell List.mem_cons_self)

/-- A camera is told by its uuid. -/
theorem eq_of_listed {cell' : PyValue} (h : cellCamera column cameras cell = some cam)
    (h' : cellCamera column cameras cell' = some cam') (heq : cam.listed = cam'.listed) :
    cam = cam' := by
  have hmem : ∀ {cell : PyValue} {cam : KioskCamera},
      cellCamera column cameras cell = some cam → cam ∈ cameras := by
    intro cell cam h
    unfold cellCamera KioskCameras.getByUuid at h
    split at h
    · cases hcolumn : column.equals (cell.field "camera_uuid") with
      | error e => simp [hcolumn, Except.map] at h
      | ok p =>
        simp only [hcolumn, Except.map] at h
        exact List.mem_of_find?_eq_some h
    · cases h
  exact Table.eq_of_key_eq (hmem h) (hmem h') (congrArg ListedCamera.uuid heq)

end

/-! ## Accepted layouts -/

section
variable {rt : Runtime} {column : TextColumn} {cameras : KioskCameras} {page layout : PyValue}
  {ε α β : Type}

/-- Every turn of a loop that ends has ended. -/
theorem returns_of_foldlM {l : List α} {f : β → α → Except ε β} {b b' : β}
    (h : l.foldlM f b = .ok b') {a : α} (ha : a ∈ l) : ∃ s, Returns (f s a) := by
  induction l generalizing b with
  | nil => cases ha
  | cons x l ih =>
    rw [List.foldlM_cons, bind_eq_ok] at h
    obtain ⟨b₁, hx, hl⟩ := h
    rcases List.mem_cons.1 ha with rfl | ha
    · exact ⟨b, b₁, hx⟩
    · exact ih hl ha

/-- The check of a cell looks its camera up. -/
theorem lookable_of_validateCell {cols rows : Int} {seen : List PyValue} {cell : PyValue}
    (h : Returns (validateCell rt column cameras cols rows seen cell)) : Lookable column cell := by
  unfold validateCell at h
  split at h
  · exact absurd h returns_error
  · next hobj =>
    refine ⟨by simpa using hobj, fun htruthy => ?_⟩
    have hcamera : Returns (validateCellCamera rt column cameras (cell.field "camera_uuid")) := by
      dsimp only at h
      split at h
      · exact absurd h returns_error
      split at h
      · exact absurd h returns_error
      split at h
      · split at h
        · exact absurd h returns_error
        split at h
        · exact absurd h returns_error
        split at h
        · exact absurd h returns_error
        obtain ⟨_, hcamera, -⟩ := returns_bind.1 h
        exact ⟨_, hcamera⟩
      · exact absurd h returns_error
    unfold validateCellCamera at hcamera
    rw [if_pos htruthy] at hcamera
    cases hfound : cameras.getByUuid column (cell.field "camera_uuid") with
    | ok found => exact returns_getByUuid.1 ⟨found, hfound⟩
    | error e => simp [hfound] at hcamera

theorem cells_of_validatePage (h : validatePage rt column cameras page = .ok ()) :
    ∃ cells, page.fieldD "cells" (.list []) = .list cells ∧
      ∀ cell ∈ cells, Lookable column cell := by
  unfold validatePage at h
  simp only [bind_eq_ok] at h
  obtain ⟨cols, -, rows, -, h⟩ := h
  split at h
  · next cells hcells =>
    obtain ⟨seen, hseen, -⟩ := bind_eq_ok.1 h
    refine ⟨cells, hcells, fun cell hcell => ?_⟩
    obtain ⟨s, hs⟩ := returns_of_foldlM hseen hcell
    exact lookable_of_validateCell hs
  · cases h

/-- What `me` answers for a monitor whose dashboard exists. -/
theorem me_eq_ok {dashboards : List KioskDashboard} {monitor : Monitor} {dash : KioskDashboard}
    (hdash : dashboards.find? (fun d => decide (d.id = monitor.dashboardId) &&
      d.deletedAt.isNone) = some dash) (hobj : dash.layout.isDict = true) {view : KioskView} :
    me column cameras dashboards monitor = .ok view ↔
      ∃ cells, Layout.iterated (dash.layout.fieldD "cells" (.list [])) = .ok cells ∧
        (∀ cell ∈ cells, Lookable column cell) ∧
        view = ⟨monitor.uuid, monitor.name, monitor.settings, some (dash.uuid, dash.layout),
          (cells.filterMap (cellCamera column cameras)).map KioskCamera.listed⟩ := by
  have hget : (dash.layout.or (.dict [])).getD "cells" (.list []) =
      .ok (dash.layout.fieldD "cells" (.list [])) := by
    cases hlayout : dash.layout with
    | dict fields =>
      cases fields with
      | nil => rfl
      | cons f fields => rfl
    | _ => simp [hlayout, PyValue.isDict] at hobj
  unfold me
  rw [hdash]
  simp only [hget, bind_eq_ok, Except.ok.injEq, exists_eq_left', listCells_eq_ok, pure, Except.pure]
  constructor
  · rintro ⟨cells, hcells, _, ⟨hlook, rfl⟩, rfl⟩
    exact ⟨cells, hcells, hlook, rfl⟩
  · rintro ⟨cells, hcells, hlook, rfl⟩
    exact ⟨cells, hcells, _, ⟨hlook, rfl⟩, rfl⟩

/-- On an accepted page the cells at the top are the cells that are shown. -/
theorem topReaches_of_page (h : validatePage rt column cameras layout = .ok ())
    (hpages : (layout.field "pages").isNull = true) (cameras' : KioskCameras) :
    ∃ cells, Layout.iterated (layout.fieldD "cells" (.list [])) = .ok cells ∧
      (∀ cell ∈ cells, Lookable column cell) ∧
      ∀ cam, Shown column cameras' layout cam →
        ∃ cell ∈ cells, cellCamera column cameras' cell = some cam := by
  obtain ⟨cells, hcells, hlook⟩ := cells_of_validatePage h
  have hone : pagesOf layout = [layout] := by
    unfold pagesOf
    cases hfield : layout.field "pages" with
    | null => rfl
    | _ => simp [hfield, PyValue.isNull] at hpages
  refine ⟨cells, by rw [hcells]; rfl, hlook, fun cam hshown => ?_⟩
  obtain ⟨page, hpage, cell, hcell, hcam⟩ := hshown
  rw [hone, List.mem_singleton] at hpage
  subst hpage
  unfold cellsOf at hcell
  rw [hcells] at hcell
  exact ⟨cell, hcell, hcam⟩

end

/-- **Kiosk monitors.** Whatever cameras there are when the layout is accepted and when the monitor
asks: it is told every existing camera of the layout exactly when the layout is one page, or the
cells at its top can be looked up and have every camera of the pages. -/
theorem kiosk_cameras_iff (rt : Runtime) (column : TextColumn) (cameras₀ cameras : KioskCameras)
    (dashboards : List KioskDashboard) (monitor : Monitor) (dash : KioskDashboard)
    (hdash : dashboards.find? (fun d => decide (d.id = monitor.dashboardId) &&
      d.deletedAt.isNone) = some dash)
    (haccepted : validateLayout rt column cameras₀ dash.layout = .ok ()) :
    ListsShown column cameras dash.layout (me column cameras dashboards monitor) ↔
      TopReaches column cameras dash.layout := by
  have hobj : dash.layout.isDict = true := by
    unfold validateLayout at haccepted
    split at haccepted
    · cases haccepted
    · next hobj => simpa using hobj
  have hlists : ListsShown column cameras dash.layout (me column cameras dashboards monitor) ↔
      ∃ cells, Layout.iterated (dash.layout.fieldD "cells" (.list [])) = .ok cells ∧
        (∀ cell ∈ cells, Lookable column cell) ∧ ∀ cam, Shown column cameras dash.layout cam →
          ∃ cell ∈ cells, cellCamera column cameras cell = some cam := by
    constructor
    · rintro ⟨view, hview, hall⟩
      obtain ⟨cells, hcells, hlook, rfl⟩ := (me_eq_ok hdash hobj).1 hview
      refine ⟨cells, hcells, hlook, fun cam hshown => ?_⟩
      obtain ⟨cam', hcam', heq⟩ := List.mem_map.1 (hall cam hshown)
      obtain ⟨cell, hcell, hfound⟩ := List.mem_filterMap.1 hcam'
      obtain ⟨_, _, _, _, hshown⟩ := hshown
      exact ⟨cell, hcell, eq_of_listed hfound hshown heq ▸ hfound⟩
    · rintro ⟨cells, hcells, hlook, hall⟩
      refine ⟨_, (me_eq_ok hdash hobj).2 ⟨cells, hcells, hlook, rfl⟩, fun cam hshown => ?_⟩
      obtain ⟨cell, hcell, hfound⟩ := hall cam hshown
      exact List.mem_map_of_mem (List.mem_filterMap.2 ⟨cell, hcell, hfound⟩)
  rw [hlists]
  unfold TopReaches
  by_cases hpages : (dash.layout.field "pages").isNull = true
  · have hpage : validatePage rt column cameras₀ dash.layout = .ok () := by
      unfold validateLayout at haccepted
      rwa [if_neg (by simp [hobj]), if_pos hpages] at haccepted
    exact iff_of_true (topReaches_of_page hpage hpages cameras) (.inl hpages)
  · simp [hpages]

/-! ## Two layouts of one camera -/

namespace KioskFixture

/-- A database that takes no value but a text as a uuid. -/
def column : TextColumn := ⟨fun _ => .error .dataError⟩

def gate : KioskCamera := ⟨"c1", "Gate", [⟨"main", "cam_c1_main", none⟩], none⟩

def yard : KioskCamera := ⟨"c2", "Yard", [⟨"sub", "cam_c2_sub", none⟩], none⟩

def shed : KioskCamera := ⟨"c3", "Shed", [], none⟩

def cameras : KioskCameras := ⟨[gate, yard], by decide⟩

/-- The cameras before one of them was removed. -/
def earlier : KioskCameras := ⟨[gate, yard, shed], by decide⟩

/-- A cell with a camera. -/
def cell (i uuid : String) : PyValue := .dict [("i", .str i), ("camera_uuid", .str uuid)]

/-- A page with the camera in its first cell. -/
def page : PyValue := .dict [("cells", .list [cell "a" "c1"])]

def paged : PyValue := .dict [("pages", .list [page])]

/-- Two pages, with the cameras of both in the cells at the top. -/
def topped : PyValue :=
  .dict [("cells", .list [cell "a" "c2", cell "b" "c1"]),
    ("pages", .list [page, .dict [("cells", .list [cell "a" "c2", cell "b" "c3"])]])]

def dashboard (layout : PyValue) : KioskDashboard := ⟨⟨7, "d7", none⟩, layout⟩

def monitor : Monitor :=
  ⟨1, "m1", .str "Lobby", 7, .null, .paired, 0, none, none, none, none, .null, .null, true, none⟩

end KioskFixture

open KioskFixture in
/-- The layout with one page in a list is accepted, and the monitor is told no camera. -/
theorem kiosk_pages_unlisted :
    validateLayout .ascii column cameras paged = .ok () ∧
      ¬ ListsShown column cameras paged (me column cameras [dashboard paged] monitor) := by
  refine ⟨rfl, ?_⟩
  rintro ⟨view, hview, hall⟩
  have hnone : me column cameras [dashboard paged] monitor =
      .ok ⟨"m1", .str "Lobby", .null, some ("d7", paged), []⟩ := rfl
  rw [hnone] at hview
  cases hview
  exact List.not_mem_nil (hall gate ⟨page, List.mem_cons_self, _, List.mem_cons_self, rfl⟩)

open KioskFixture in
/-- A layout of two pages with their cameras at the top as well: when one camera has been removed
since, the monitor is told the other two. -/
theorem kiosk_cameras_iff_page :
    ListsShown column cameras topped (me column cameras [dashboard topped] monitor) := by
  refine (kiosk_cameras_iff .ascii column earlier cameras [dashboard topped] monitor
    (dashboard topped) rfl rfl).2 (.inr ⟨[cell "a" "c2", cell "b" "c1"], rfl, ?_, ?_⟩)
  · intro x hx
    rcases List.mem_cons.1 hx with rfl | hx
    · exact ⟨rfl, fun _ => ⟨_, rfl⟩⟩
    · obtain rfl := List.mem_singleton.1 hx
      exact ⟨rfl, fun _ => ⟨_, rfl⟩⟩
  · have hyard : cellCamera column cameras (cell "a" "c2") = some yard := rfl
    have hgate : cellCamera column cameras (cell "b" "c1") = some gate := rfl
    rintro cam ⟨p, hp, x, hx, hcam⟩
    rcases List.mem_cons.1 hp with rfl | hp
    · obtain rfl := List.mem_singleton.1 hx
      exact ⟨_, .tail _ (.head _), hgate.trans (hgate.symm.trans hcam)⟩
    · obtain rfl := List.mem_singleton.1 hp
      rcases List.mem_cons.1 hx with rfl | hx
      · exact ⟨_, .head _, hyard.trans (hyard.symm.trans hcam)⟩
      · obtain rfl := List.mem_singleton.1 hx
        cases hcam

end AeroXProtect
