import Entitlements.Pattern.Element

/-!
# Patterns as regular expressions

Each pattern is shown as one anchored regular expression: a caret, the
expressions of its elements in order, and a dollar sign.
-/

namespace Entitlements.Pattern

/-- The characters that a regular expression reads as operators. -/
def metacharacters : List Char :=
  "\\.+*?()|[]\x7b\x7d^$#&-~".toList

/-- A character as a regular expression for itself. -/
def escape (c : Char) : List Char :=
  if metacharacters.contains c then ['\\', c] else [c]

theorem escape_eq (c : Char) :
    escape c = if c ∈ metacharacters then ['\\', c] else [c] := by
  simp [escape]

namespace Element

def expression : Element → List Char
  | .literal c => escape c
  | .wildcard => "(?:[^/:*]|\\*[^/:*])*\\*?".toList
  | .globstar => "(?:[^/:]*(?:[/:]|$))*".toList
  | .everything => "(?s:.*)".toList
  | .below d => "(?:".toList ++ escape d ++ "(?s:.*))?".toList

end Element

def expression (elements : List Element) : String :=
  String.ofList ('^' :: elements.flatMap Element.expression ++ ['$'])

end Entitlements.Pattern
