import Entitlements.Mask
import Entitlements.Text.Delimited

/-!
# Privilege arguments

Privileges are given as a mask, as comma-separated tokens, or as a list of such
arguments. However an argument is nested, it is a row of leaves.
-/

namespace Entitlements

inductive PrivilegeSpec where
  | mask (m : Mask)
  | text (t : String)
  | list (items : List PrivilegeSpec)
deriving Repr

namespace PrivilegeSpec

inductive Leaf where
  | mask (m : Mask)
  | token (t : String)
  /-- A list without items. -/
  | void
deriving DecidableEq, Repr

mutual

def leaves : PrivilegeSpec → List Leaf
  | .mask m => [.mask m]
  | .text t => (Text.tokens t).map .token
  | .list items => if items.isEmpty then [.void] else leavesOfAll items

def leavesOfAll : List PrivilegeSpec → List Leaf
  | [] => []
  | item :: rest => item.leaves ++ leavesOfAll rest

end

mutual

def toText : PrivilegeSpec → String
  | .mask m => toString m
  | .text t => t
  | .list items => ",".intercalate (textsOfAll items)

def textsOfAll : List PrivilegeSpec → List String
  | [] => []
  | item :: rest => item.toText :: textsOfAll rest

end

end PrivilegeSpec

end Entitlements
