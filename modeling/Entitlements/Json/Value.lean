/-!
# JSON values

Members of an object keep their order and may share a key.
-/

namespace Entitlements

namespace Json

/-- A number: an integer of at most 64 bits, or else a double. -/
inductive Number where
  | natural (n : UInt64)
  | negative (magnitude : Nat)
  | real (x : Float)
deriving Repr

inductive Scalar where
  | null
  | bool (b : Bool)
  | number (n : Number)
  | string (s : String)
deriving Repr

end Json

inductive Json where
  | scalar (value : Json.Scalar)
  | array (items : List Json)
  | object (members : List (String × Json))
deriving Repr

namespace Json

def string (s : String) : Json := .scalar (.string s)

def natural (n : UInt64) : Json := .scalar (.number (.natural n))

end Json

end Entitlements
