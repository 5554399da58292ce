import AeroXProtect.Lib.Table
import AeroXProtect.Lib.Clock

/-!
# Cameras

The columns of the `cameras` table that the services modelled here read.
-/

open Lib

namespace AeroXProtect

/-- A row of `cameras`. Source: `server/model/camera.py`. -/
structure Camera where
  id : Nat
  uuid : String
  name : String
  isEnabled : Bool
  deletedAt : Option Int
  deriving DecidableEq, Repr

/-- The `cameras` table, keyed by its primary key. -/
abbrev Cameras := Table Camera.id

/-- The cameras that are enabled and not deleted. Source: `Camera.get_all_enabled`
(`server/model/camera.py:129`). -/
def Cameras.getAllEnabled (cs : Cameras) : List Camera :=
  cs.rows.filter fun c => c.deletedAt.isNone && c.isEnabled

/-- The ids of a selection of the enabled cameras are distinct. -/
theorem Cameras.nodup_getAllEnabled_filter (cs : Cameras) (p : Camera → Bool) :
    ((cs.getAllEnabled.filter p).map Camera.id).Nodup :=
  ((List.filter_sublist.trans List.filter_sublist).map Camera.id).nodup cs.nodup

end AeroXProtect
