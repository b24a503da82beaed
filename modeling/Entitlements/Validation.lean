import Entitlements.Pattern.Symbol
import Entitlements.Registry.Basic

/-!
# Validation

Whether a text is acceptable as written. Validation is stricter than reading a
permission: identifiers have a small alphabet, and two or more stars in a row
have to be a whole segment.
-/

namespace Entitlements.Validation

def isIdentifierChar (c : Char) : Bool :=
  c.isAlphanum || "._-:/*".toList.contains c

def isIdentifier (text : String) : Bool :=
  !text.isEmpty && text.toList.all isIdentifierChar &&
    Pattern.Symbol.runsAreSegments true (Pattern.Symbol.ofText text.toList)

def isPrivilegeList (registry : Registry) (text : String) : Bool :=
  (Text.tokens text).all fun token => (registry.resolveToken token).isOk

def isPermission (registry : Registry) (text : String) : Bool :=
  match Text.cutLast ':' text.toList with
  | some (identifier, privileges) =>
      isIdentifier (String.ofList identifier) &&
        isPrivilegeList registry (String.ofList privileges)
  | none => false

end Entitlements.Validation
