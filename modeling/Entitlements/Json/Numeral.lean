import Entitlements.Json.Value

/-!
# JSON numerals

A numeral is an optional minus, digits without a leading zero, an optional
fraction and an optional exponent. An integer that fits is kept exactly; any
other numeral becomes a double from the leading digits that fit one word and a
power of ten.
-/

namespace Entitlements

namespace Json

structure Numeral where
  minus : Bool
  whole : List Char
  fraction : Option (List Char)
  exponent : Option Int
deriving DecidableEq, Repr

namespace Numeral

def value (digits : List Char) : Nat :=
  Nat.ofDigitChars 10 digits 0

def fraction? : List Char → Option (Option (List Char) × List Char)
  | '.' :: text =>
      match text.takeWhile Char.isDigit with
      | [] => none
      | digits => some (some digits, text.dropWhile Char.isDigit)
  | text => some (none, text)

def exponent? : List Char → Option (Option Int)
  | [] => some none
  | e :: text =>
      let (minus, digits) :=
        match text with
        | '-' :: digits => (true, digits)
        | '+' :: digits => (false, digits)
        | digits => (false, digits)
      if (e = 'e' || e = 'E') && !digits.isEmpty && digits.all Char.isDigit then
        some (some (if minus then -(value digits : Int) else value digits))
      else none

def ofText? (text : List Char) : Option Numeral := do
  let (minus, body) :=
    match text with
    | '-' :: body => (true, body)
    | body => (false, body)
  let whole := body.takeWhile Char.isDigit
  if whole.isEmpty || (whole.head? = some '0' && whole != ['0']) then none
  else
    let (fraction, rest) ← fraction? (body.dropWhile Char.isDigit)
    let exponent ← exponent? rest
    some { minus, whole, fraction, exponent }

/-- Takes digits into a significand while it fits one word; the rest is left over. -/
def significand (start : Nat) : List Char → Nat × List Char
  | [] => (start, [])
  | c :: rest =>
      let next := start * 10 + (c.toNat - '0'.toNat)
      if next < UInt64.size then significand next rest else (start, c :: rest)

/--
The double next to `significand * 10 ^ exponent`, by one rounding of each factor; `none` if
too large.
-/
def scaled? (significand : Nat) (exponent : Int) : Option Float :=
  let x := (UInt64.ofNat significand).toFloat
  if significand = 0 then some x
  else if 308 < exponent then none
  else if 0 ≤ exponent then
    let y := x * Float.ofScientific 1 false exponent.toNat
    if y.isInf then none else some y
  else if -308 ≤ exponent then some (x / Float.ofScientific 1 false exponent.natAbs)
  else if -616 ≤ exponent then
    some (x / Float.ofScientific 1 false 308 / Float.ofScientific 1 false (exponent.natAbs - 308))
  else some 0

def real? (numeral : Numeral) : Option Float := do
  let (start, dropped) := significand 0 numeral.whole
  let fraction := numeral.fraction.getD []
  let (digits, unused) := significand start fraction
  let exponent : Int :=
    numeral.exponent.getD 0 + dropped.length - (fraction.length - unused.length : Nat)
  let x ← scaled? digits exponent
  some (if numeral.minus then -x else x)

def number? (numeral : Numeral) : Option Number :=
  let n := value numeral.whole
  if numeral.fraction.isNone && numeral.exponent.isNone && !numeral.minus && n < UInt64.size then
    some (.natural (UInt64.ofNat n))
  else if numeral.fraction.isNone && numeral.exponent.isNone && numeral.minus
      && 0 < n && n ≤ 0x8000000000000000 then
    some (.negative n)
  else (real? numeral).map .real

end Numeral

end Json

end Entitlements
