import Entitlements.Permission.Delegation

/-!
# Permission sets

What one principal holds, in order. Coverage may combine several members,
delegation never does.
-/

namespace Entitlements

structure PermissionSet where
  permissions : List Permission
  /-- The registry for arguments that are given as texts. -/
  registry : Registry

namespace PermissionSet

def empty (registry : Registry) : PermissionSet where
  permissions := []
  registry := registry

/-- A set of built permissions takes the registry of the first, or `fallback` if there is none. -/
def ofPermissions (fallback : Registry) (permissions : List Permission) : PermissionSet where
  permissions := permissions
  registry := (permissions.head?.map Permission.registry).getD fallback

def ofTexts [SizeLimit] (registry : Registry) (texts : List String) :
    Except Error PermissionSet := do
  let permissions ← texts.mapM (Permission.ofText registry)
  return { permissions, registry }

def add (set : PermissionSet) (permission : Permission) : PermissionSet :=
  { set with permissions := set.permissions ++ [permission] }

def addAll (set : PermissionSet) (permissions : List Permission) : PermissionSet :=
  { set with permissions := set.permissions ++ permissions }

def withPermissions (set : PermissionSet) (permissions : List Permission) : PermissionSet :=
  { set with permissions }

def clear (set : PermissionSet) : PermissionSet :=
  { set with permissions := [] }

/--
The bits left of `mask` once every member that matches has cleared its own, in order.
A member that has none of them is passed by, and the walk stops when none are left.
-/
def remaining (identifier : String) (mask : Mask) : List Permission → Mask
  | [] => mask
  | held :: rest =>
      if mask = 0 then mask
      else if held.matchesIdentifier identifier && mask &&& held.privileges != 0 then
        remaining identifier (mask.beyond held.privileges) rest
      else remaining identifier mask rest

def uncovered (set : PermissionSet) (requested : Permission) : Mask :=
  remaining requested.identifier requested.privileges set.permissions

def checked (set : PermissionSet) (requested : Permission) : Event :=
  .coverageChecked requested (set.uncovered requested)

/-- Whether the members together cover each request; the check stops at one that is not covered. -/
def coversAll (set : PermissionSet) : List Permission → Logged Bool
  | [] => { answer := true, events := [] }
  | requested :: rest =>
      if set.uncovered requested = 0 then
        let later := set.coversAll rest
        { later with events := set.checked requested :: later.events }
      else { answer := false, events := [set.checked requested] }

abbrev Member := Nat × Permission

/-- The members that clear a bit of `mask`, in order, each after those before it. -/
def clearing (identifier : String) (mask : Mask) : List Member → List Member
  | [] => []
  | member :: rest =>
      let held := member.2
      if mask = 0 then []
      else if held.matchesIdentifier identifier && mask &&& held.privileges != 0 then
        member :: clearing identifier (mask.beyond held.privileges) rest
      else clearing identifier mask rest

def members (set : PermissionSet) : List Member :=
  set.permissions.zipIdx.map fun (permission, position) => (position, permission)

def contributors (set : PermissionSet) (requested : Permission) : List Member :=
  clearing requested.identifier requested.privileges set.members

def addNew (listed : List Member) : List Member → List Member
  | [] => listed
  | member :: rest =>
      if listed.any fun seen => seen.1 == member.1 then addNew listed rest
      else addNew (listed ++ [member]) rest

def coveredBy (set : PermissionSet) (listed : List Member) :
    List Permission → Logged (Option (List Member))
  | [] => { answer := some listed, events := [] }
  | requested :: rest =>
      let event := set.checked requested
      if set.uncovered requested = 0 then
        let later := set.coveredBy (addNew listed (set.contributors requested)) rest
        { later with events := event :: later.events }
      else { answer := none, events := [event] }

/-- Whether one of the permissions delegates the candidate on its own; the search stops there. -/
def anyDelegates (candidate : Permission) (grantee : List Permission) :
    List Permission → Logged Bool
  | [] => { answer := false, events := [] }
  | held :: rest =>
      let decision := held.delegates candidate grantee
      if decision.answer then decision
      else
        let later := anyDelegates candidate grantee rest
        { later with events := decision.events ++ later.events }

/-! ## Requests -/

variable [SizeLimit]

def allows (set : PermissionSet) (requested : List Argument) : Reporting Error Bool := do
  let requested ← Argument.resolveAll set.registry requested
  set.coversAll requested

/-- The members that together cover the requests, in order of first use. -/
def allowedBy (set : PermissionSet) (requested : List Argument) :
    Reporting Error (Option (List Member)) := do
  let requested ← Argument.resolveAll set.registry requested
  set.coveredBy [] requested

def mayGrantTo (set : PermissionSet) (candidate : Argument) (held : List Argument) :
    Reporting Error Bool := do
  let candidate ← candidate.resolve set.registry
  let held ← Argument.resolveAll set.registry held
  anyDelegates candidate held set.permissions

def mayGrant (set : PermissionSet) (candidate : Argument) : Reporting Error Bool :=
  set.mayGrantTo candidate []

def mayRevokeTo (set : PermissionSet) (candidate : Argument) (held : List Argument) :
    Reporting Error Bool :=
  set.mayGrantTo candidate held

def mayRevoke (set : PermissionSet) (candidate : Argument) : Reporting Error Bool :=
  set.mayGrant candidate

end PermissionSet

end Entitlements
