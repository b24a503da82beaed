import Entitlements.Json.Writer
import Entitlements.Text.Quoted

/-!
# Problems of a document

A document is a JSON text for a registry, a permission or a set. Either the text
is malformed, or its value has the wrong shape, or the value is refused.
-/

namespace Entitlements.Document

inductive Expected where
  | mask
  | text
  | table
  | registry
  | permission
  | sequence
deriving DecidableEq, Repr

def Expected.name : Expected → String
  | .mask => "u64"
  | .text => "a string"
  | .table => "a map of privilege names to bitmasks"
  | .registry => "struct RawRegistry"
  | .permission => "struct PermissionObject"
  | .sequence => "a sequence"

inductive Problem where
  | wrongType (found : Json) (expected : Expected)
  | negativeMask (magnitude : Nat)
  | missingField (name : String)
  | duplicateField (name : String)
  | unknownField (name first second : String)
  | tooShort (length : Nat) (expected : Expected)
  | tooLong
deriving Repr

def describe : Json → String
  | .scalar .null => "null"
  | .scalar (.bool b) => s!"boolean `{b}`"
  | .scalar (.number (.real x)) => s!"floating point `{Decimal.floatText x}`"
  | .scalar (.number n) => s!"integer `{n.text}`"
  | .scalar (.string s) => s!"string {Text.quoted s}"
  | .array _ => "sequence"
  | .object _ => "map"

namespace Problem

def message : Problem → String
  | .wrongType found expected => s!"invalid type: {describe found}, expected {expected.name}"
  | .negativeMask magnitude =>
      s!"invalid value: integer `-{magnitude}`, expected {Expected.mask.name}"
  | .missingField name => s!"missing field `{name}`"
  | .duplicateField name => s!"duplicate field `{name}`"
  | .unknownField name first second =>
      s!"unknown field `{name}`, expected `{first}` or `{second}`"
  | .tooShort length expected =>
      s!"invalid length {length}, expected {expected.name} with 2 elements"
  | .tooLong => "trailing characters"

end Problem

inductive Failure (ε : Type) where
  | malformed
  | misshapen (problem : Problem)
  | refused (cause : ε)
deriving Repr

def Failure.message {ε : Type} (refusal : ε → String) : Failure ε → String
  | .malformed => "malformed document"
  | .misshapen problem => problem.message
  | .refused cause => refusal cause

end Entitlements.Document
