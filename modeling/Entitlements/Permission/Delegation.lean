import Entitlements.Event

/-!
# Delegation

A permission allows what it covers, and a grantor may grant or revoke a candidate if
its own grant rights reach that far. The first reason against it denies the delegation.
-/

namespace Entitlements

namespace Permission

/-- The held privileges that allow delegation, in configured order. -/
def grantPrivileges (permission : Permission) : List String :=
  (permission.registry.grants.map Prod.fst).filter fun name =>
    (permission.registry.privilege? name).any permission.coversMask

def grantsAllowed (permission : Permission) : Mask :=
  Mask.union (permission.grantPrivileges.filterMap permission.registry.grantMask?)

def overlaps (grantor held : Permission) : Bool :=
  held.matchesIdentifier grantor.identifier || grantor.matchesIdentifier held.identifier

/--
The grant privileges of the grantee's overlapping permissions, as masks of the
grantor's registry.
-/
def granteeGrants (grantor : Permission) (held : List Permission) : Mask :=
  Mask.union
    (((held.filter grantor.overlaps).flatMap grantPrivileges).filterMap
      grantor.registry.privilege?)

def denial? (grantor candidate : Permission) (held : List Permission) : Option Denial :=
  let allowed := grantor.grantsAllowed
  let granteeGrants := grantor.granteeGrants held
  if allowed = 0 then some .noGrantRights
  else if !grantor.matchesIdentifier candidate.identifier then some .outOfScope
  else if !Mask.covers allowed candidate.privileges then some (.exceedsGrantRights allowed)
  else if granteeGrants != 0 && !Mask.covers allowed granteeGrants then
    some (.granteeExceeds allowed granteeGrants)
  else none

def delegates (grantor candidate : Permission) (held : List Permission) : Logged Bool :=
  match grantor.denial? candidate held with
  | none => { answer := true, events := [] }
  | some denial => { answer := false, events := [.denied grantor candidate denial] }

variable [SizeLimit]

/-- Whether the permission covers every requested one; all arguments are read first. -/
def allows (permission : Permission) (requested : List Argument) : Reporting Error Bool := do
  let requested ← Argument.resolveAll permission.registry requested
  return requested.all permission.covers

def mayGrantTo (grantor : Permission) (candidate : Argument) (held : List Argument) :
    Reporting Error Bool := do
  let candidate ← candidate.resolve grantor.registry
  let held ← Argument.resolveAll grantor.registry held
  grantor.delegates candidate held

def mayGrant (grantor : Permission) (candidate : Argument) : Reporting Error Bool :=
  grantor.mayGrantTo candidate []

/-- Revoking follows the rules of granting. -/
def mayRevokeTo (grantor : Permission) (candidate : Argument) (held : List Argument) :
    Reporting Error Bool :=
  grantor.mayGrantTo candidate held

def mayRevoke (grantor : Permission) (candidate : Argument) : Reporting Error Bool :=
  grantor.mayGrant candidate

end Permission

end Entitlements
