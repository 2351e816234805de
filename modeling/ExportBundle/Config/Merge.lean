import ExportBundle.Depths
import ExportBundle.Json.Value

/-! Merging documents. A later object is laid over an earlier one member by member, and members that
are objects on both sides are merged in turn. Anything else replaces what was there. -/

namespace ExportBundle.Config

open Json (Value)

mutual

/-- The members laid over those of `base`: known names keep their place, new ones go to the end. -/
def mergeMembers (base : OrderedMap String Value) : List (String × Value) → OrderedMap String Value
  | [] => base
  | (k, v) :: r => mergeMembers (base.put k (overlay (base.get? k) v)) r

def overlay (old : Option Value) : Value → Value
  | .obj members =>
    match old with
    | some (.obj base) => .obj (mergeMembers base members)
    | _ => .obj members
  | v => v

end

/-! Each object that is merged takes a call within the one for the object around it. -/

mutual

/-- How many calls merging has open at once. -/
def mergeDepth (base : OrderedMap String Value) : List (String × Value) → Nat
  | [] => 1
  | (k, v) :: r => max (overlayDepth (base.get? k) v + 1) (mergeDepth base r)

def overlayDepth (old : Option Value) : Value → Nat
  | .obj members =>
    match old with
    | some (.obj base) => mergeDepth base members
    | _ => 0
  | _ => 0

end

def merge [Depths] (base overrides : OrderedMap String Value) :
    Except Json.Obstacle (OrderedMap String Value) :=
  if Depths.merging < mergeDepth base overrides then .error .tooDeep
  else .ok (mergeMembers base overrides)

end ExportBundle.Config
