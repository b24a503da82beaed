import Entitlements.Document.Problem
import Entitlements.Registry.Table

/-!
# Errors

Every error is about malformed input. A request that is denied is an answer, not
an error.
-/

namespace Entitlements

inductive Error where
  | malformedPermission (text : String)
  | emptyIdentifier
  | patternTooLarge (pattern : String)
  | emptyPrivilegeList
  | unknownPrivilege (token : String)
  | outOfRange (token : String) (max : Mask)
  | inconsistentRegistry (defect : Defect)
  | unreadableRegistry (failure : Document.Failure Defect)
deriving Repr

namespace Error

def code : Error → String
  | .malformedPermission _ => "MALFORMED_PERMISSION"
  | .emptyIdentifier => "INVALID_IDENTIFIER"
  | .patternTooLarge _ => "INVALID_PATTERN"
  | .emptyPrivilegeList => "INVALID_PRIVILEGES"
  | .unknownPrivilege _ => "UNKNOWN_PRIVILEGE"
  | .outOfRange _ _ => "PRIVILEGE_OUT_OF_RANGE"
  | .inconsistentRegistry _ | .unreadableRegistry _ => "CONFIG_ERROR"

def configuration (problem : String) : String :=
  s!"configuration error: {problem}"

def message : Error → String
  | .malformedPermission text =>
      s!"permission '{text}' must contain at least 1 privilege delimited by ':'"
  | .emptyIdentifier => "invalid identifier: identifier must not be empty"
  | .patternTooLarge pattern =>
      s!"invalid identifier pattern '{pattern}': " ++
        "Compiled regex exceeds size limit of 10485760 bytes."
  | .emptyPrivilegeList => "invalid privileges: privilege list is empty"
  | .unknownPrivilege token => s!"privilege '{token}' does not exist"
  | .outOfRange token max => s!"privilege must be a non-zero number within {max}, got {token}"
  | .inconsistentRegistry defect => configuration defect.message
  | .unreadableRegistry failure =>
      configuration (failure.message fun defect => configuration defect.message)

def isPrivilegeError : Error → Bool
  | .emptyPrivilegeList | .unknownPrivilege _ | .outOfRange _ _ => true
  | _ => false

end Error

end Entitlements
