import Entitlements.Decimal.Shortest
import Entitlements.Json.Value

/-!
# Writing JSON

Texts are compact. In a string only the quote, the backslash and the control
characters below the space are escaped.
-/

namespace Entitlements

namespace Json

def hexDigit (n : Nat) : Char :=
  Nat.digitChar n

def escape (c : Char) : List Char :=
  if c = '"' then ['\\', '"']
  else if c = '\\' then ['\\', '\\']
  else if c = '\x08' then ['\\', 'b']
  else if c = '\t' then ['\\', 't']
  else if c = '\n' then ['\\', 'n']
  else if c = '\x0c' then ['\\', 'f']
  else if c = '\r' then ['\\', 'r']
  else if c.toNat < 0x20 then
    ['\\', 'u', '0', '0', hexDigit (c.toNat / 16), hexDigit (c.toNat % 16)]
  else [c]

def quote (s : String) : List Char :=
  '"' :: s.toList.flatMap escape ++ ['"']

def Number.text : Number → String
  | .natural n => toString n
  | .negative magnitude => "-" ++ toString magnitude
  | .real x => Decimal.floatText x

def Scalar.write : Scalar → List Char
  | .null => "null".toList
  | .bool true => "true".toList
  | .bool false => "false".toList
  | .number n => n.text.toList
  | .string s => quote s

mutual

def write : Json → List Char
  | .scalar value => value.write
  | .array items => '[' :: [','].intercalate (writeItems items) ++ [']']
  | .object members => '{' :: [','].intercalate (writeMembers members) ++ ['}']

def writeItems : List Json → List (List Char)
  | [] => []
  | item :: rest => item.write :: writeItems rest

def writeMembers : List (String × Json) → List (List Char)
  | [] => []
  | (key, value) :: rest => (quote key ++ ':' :: value.write) :: writeMembers rest

end

def text (value : Json) : String :=
  String.ofList value.write

end Json

end Entitlements
