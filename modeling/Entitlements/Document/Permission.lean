import Entitlements.Document.Field
import Entitlements.PermissionSet

/-!
# Permission documents

A permission is written as its identifier and its mask, a set as the list of its
members. Both are read against a registry of the reader's choice.
-/

namespace Entitlements

namespace Document

def permissionLayout : Layout String Mask where
  expected := .permission
  first := "identifier"
  second := "privileges"
  readFirst := readText
  readSecond := readMask
  absent := none
  strict := false

variable [SizeLimit]

def readPermission (registry : Registry) (value : Json) : Except (Failure Error) Permission :=
  match permissionLayout.read value with
  | .error problem => .error (.misshapen problem)
  | .ok (identifier, privileges) =>
      (Permission.ofRecord registry { identifier, privileges }).mapError .refused

def readPermissions (registry : Registry) : Json → Except (Failure Error) (List Permission)
  | .array items => items.mapM (readPermission registry)
  | value => .error (.misshapen (.wrongType value .sequence))

end Document

namespace Permission

def toJson (permission : Permission) : Json :=
  .object
    [("identifier", .string permission.identifier),
      ("privileges", .natural permission.privileges)]

def ofJson [SizeLimit] (registry : Registry) (text : String) :
    Except (Document.Failure Error) Permission :=
  Document.readAll text (Document.readPermission registry)

end Permission

namespace PermissionSet

def toJson (set : PermissionSet) : Json :=
  .array (set.permissions.map Permission.toJson)

def ofJson [SizeLimit] (registry : Registry) (text : String) :
    Except (Document.Failure Error) PermissionSet :=
  Document.readAll text fun value =>
    (Document.readPermissions registry value).map (ofPermissions registry)

end PermissionSet

end Entitlements
