/-!
# Privilege tokens

A token that is written as a number never names a privilege.
-/

namespace Entitlements

inductive TokenForm where
  | number (n : Nat)
  | negative
  | name
deriving DecidableEq, Repr

namespace TokenForm

/-- One or more decimal digits, of any length. -/
def isNumeral (text : List Char) : Bool :=
  !text.isEmpty && text.all Char.isDigit

def ofText : List Char → TokenForm
  | '-' :: digits => if isNumeral digits then .negative else .name
  | text => if isNumeral text then .number (Nat.ofDigitChars 10 text 0) else .name

end TokenForm

def tokenForm (token : String) : TokenForm :=
  TokenForm.ofText token.toList

end Entitlements
