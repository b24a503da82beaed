import Entitlements.Mask
import Entitlements.Privilege.Token

/-!
# Privilege tables

A table lists names with masks in a fixed order. The tables of a registry are
checked entry by entry, and the first defect is reported.
-/

namespace Entitlements

abbrev Table := List (String × Mask)

namespace Table

def mask? (table : Table) (name : String) : Option Mask :=
  table.lookup name

def bits (table : Table) : Mask :=
  Mask.union (table.map Prod.snd)

end Table

inductive Defect where
  | noPrivileges
  | invalidName (name : String)
  | numericName (name : String)
  | zeroMask (name : String)
  | repeatedPrivilege (name : String)
  | unknownGrant (name : String)
  | strayGrant (name : String) (stray : Mask)
  | repeatedGrant (name : String)
deriving DecidableEq, Repr

namespace Defect

def message : Defect → String
  | .noPrivileges => "at least one privilege is required"
  | .invalidName name => s!"invalid privilege name '{name}'"
  | .numericName name => s!"privilege name '{name}' must not be numeric"
  | .zeroMask name => s!"privilege '{name}' must have a non-zero value"
  | .repeatedPrivilege name => s!"privilege '{name}' is defined twice"
  | .unknownGrant name => s!"grant privilege '{name}' is not a configured privilege"
  | .strayGrant name stray =>
      s!"grant privilege '{name}' delegates bits {stray.binary} that no privilege provides"
  | .repeatedGrant name => s!"grant privilege '{name}' is defined twice"

/-- The first defect among privileges that follow those named in `seen`. -/
def inPrivileges (seen : List String) : Table → Option Defect
  | [] => none
  | (name, mask) :: rest =>
      if name.isEmpty || name.toList.contains ',' then some (.invalidName name)
      else if tokenForm name ≠ .name then some (.numericName name)
      else if mask = 0 then some (.zeroMask name)
      else if seen.contains name then some (.repeatedPrivilege name)
      else inPrivileges (name :: seen) rest

def inGrants (privileges : Table) (seen : List String) : Table → Option Defect
  | [] => none
  | (name, mask) :: rest =>
      if (privileges.mask? name).isNone then some (.unknownGrant name)
      else if mask.beyond privileges.bits ≠ 0 then
        some (.strayGrant name (mask.beyond privileges.bits))
      else if seen.contains name then some (.repeatedGrant name)
      else inGrants privileges (name :: seen) rest

/-- The first defect of the tables of a registry; privileges are checked before grants. -/
def first? (privileges grants : Table) : Option Defect :=
  if privileges.isEmpty then some .noPrivileges
  else (inPrivileges [] privileges).or (inGrants privileges [] grants)

end Defect

end Entitlements
