import Entitlements.Error
import Entitlements.Privilege.Spec

/-!
# Registries

A registry fixes which privileges exist and which of them allow delegating
others. Privilege arguments are resolved against it.
-/

namespace Entitlements

structure Registry where
  privileges : Table
  /-- The privileges that allow delegation, each with the mask that it may delegate. -/
  grants : Table
  sound : Defect.first? privileges grants = none
deriving DecidableEq

namespace Registry

def check (privileges grants : Table) : Except Defect Registry :=
  match sound : Defect.first? privileges grants with
  | none => .ok { privileges, grants, sound }
  | some defect => .error defect

def ofTables (privileges grants : Table) : Except Error Registry :=
  (check privileges grants).mapError .inconsistentRegistry

theorem check_tables (registry : Registry) :
    check registry.privileges registry.grants = .ok registry := by
  unfold check
  split
  · rfl
  · next defect hdefect =>
      rw [registry.sound] at hdefect
      contradiction

def standard : Registry where
  privileges :=
    [("read", 1), ("create", 2), ("update", 4), ("delete", 8), ("crud", 15), ("manage", 16),
      ("manager", 31), ("own", 32), ("owner", 63), ("admin", 64), ("administrator", 127)]
  grants := [("manage", 15), ("own", 63), ("admin", 127)]
  sound := by decide +kernel

instance : Inhabited Registry := ⟨standard⟩

def privilege? (registry : Registry) (name : String) : Option Mask :=
  registry.privileges.mask? name

def grantMask? (registry : Registry) (name : String) : Option Mask :=
  registry.grants.mask? name

/-- Every bit of a configured privilege; also the largest mask that can be written. -/
def max (registry : Registry) : Mask :=
  registry.privileges.bits

/-- Accepts a mask that is not zero and has configured bits only; `token` is how it was written. -/
def inRange (registry : Registry) (mask : Mask) (token : String) : Except Error Mask :=
  if mask = 0 || mask.beyond registry.max != 0 then .error (.outOfRange token registry.max)
  else .ok mask

def resolveToken (registry : Registry) (token : String) : Except Error Mask :=
  match tokenForm token with
  | .number n =>
      if n < UInt64.size then registry.inRange (UInt64.ofNat n) token
      else .error (.outOfRange token registry.max)
  | .negative => .error (.outOfRange token registry.max)
  | .name =>
      match registry.privilege? token with
      | some mask => .ok mask
      | none => .error (.unknownPrivilege token)

def resolveLeaf (registry : Registry) : PrivilegeSpec.Leaf → Except Error Mask
  | .mask m => registry.inRange m (toString m)
  | .token token => registry.resolveToken token
  | .void => .error .emptyPrivilegeList

def resolve (registry : Registry) (spec : PrivilegeSpec) : Except Error Mask :=
  (spec.leaves.mapM registry.resolveLeaf).map Mask.union

/-- The mask that a leaf asks for; a bare mask is taken as it is. -/
def queryLeaf (registry : Registry) : PrivilegeSpec.Leaf → Except Error Mask
  | .mask m => .ok m
  | .token token => registry.resolveToken token
  | .void => .error .emptyPrivilegeList

def query (registry : Registry) (spec : PrivilegeSpec) : Except Error (List Mask) :=
  spec.leaves.mapM registry.queryLeaf

end Registry

end Entitlements
