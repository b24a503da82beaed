import Entitlements.PermissionSet

/-!
# Answers

What operations answer when they succeed.
-/

namespace Entitlements

inductive Answer where
  | bool (b : Bool)
  | bools (all : List Bool)
  | mask (m : Mask)
  | text (t : String)
  | matched (matcher : Matcher) (all : List Bool)
  | registry (registry : Registry)
  | lookups (all : List (Option Mask × Option Mask))
  | permission (permission : Permission)
  | record (record : Permission.Record)
  | set (set : PermissionSet)
  | members (all : List PermissionSet.Member)
  | nothing

end Entitlements
