/-!
# Shortest decimals

The decimal of a binary floating-point number with the fewest digits that reads
back as that number, found by exact arithmetic on naturals.
-/

namespace Entitlements.Decimal

/-- The number `digits * 10 ^ exponent`. -/
structure Scientific where
  digits : Nat
  exponent : Int
deriving DecidableEq, Repr

/-- A positive number `mantissa * 2 ^ exponent` of a binary format. -/
structure Binary where
  mantissa : Nat
  exponent : Int
  /-- The next smaller number of the format is only half as far away as the next larger one. -/
  leastOfBinade : Bool
deriving DecidableEq, Repr

namespace Binary

/--
The number and the grid of multiples of `10 ^ place`, on one scale: a quarter of
the last binary place measures `.1`, a step of the grid `.2`.
-/
def scale (x : Binary) (place : Int) : Nat × Nat :=
  let binary := x.exponent - 2
  (Nat.pow 2 binary.toNat * Nat.pow 10 (-place).toNat,
    Nat.pow 2 (-binary).toNat * Nat.pow 10 place.toNat)

/-- Whether `point * 10 ^ place` rounds to the number; a tie rounds to an even mantissa. -/
def contains (x : Binary) (place : Int) (point : Nat) : Bool :=
  let (quarter, step) := x.scale place
  let below := (4 * x.mantissa - if x.leastOfBinade then 1 else 2) * quarter
  let above := (4 * x.mantissa + 2) * quarter
  if x.mantissa % 2 = 0 then below ≤ point * step && point * step ≤ above
  else below < point * step && point * step < above

/-- The neighbour of the number on the grid that rounds to it, the nearer if both do. -/
def gridPoint? (x : Binary) (place : Int) : Option Nat :=
  let (quarter, step) := x.scale place
  let exact := 4 * x.mantissa * quarter
  let down := exact / step
  let up := down + 1
  match x.contains place down, x.contains place up with
  | true, true =>
      let toDown := exact - down * step
      let toUp := up * step - exact
      some (if toDown < toUp || toDown = toUp && down % 2 = 0 then down else up)
  | true, false => some down
  | false, true => some up
  | false, false => none

def reaches (x : Binary) (place : Int) : Bool :=
  let (quarter, step) := x.scale place
  step ≤ 4 * x.mantissa * quarter

def leadingPlace (x : Binary) : Nat → Int → Int
  | 0, place => place
  | fuel + 1, place => if x.reaches place then place else x.leadingPlace fuel (place - 1)

/-- The first grid, from coarse to fine, with a point that rounds to the number. -/
def search (x : Binary) : Nat → Int → Scientific
  | 0, place => ⟨(x.gridPoint? place).getD 0, place⟩
  | fuel + 1, place =>
      match x.gridPoint? place with
      | some point => ⟨point, place⟩
      | none => x.search fuel (place - 1)

/-- The shortest decimal of the number; seventeen digits always suffice. -/
def shortest (x : Binary) : Scientific :=
  x.search 17 (x.leadingPlace 700 310)

end Binary

def signBit : Nat := 0x8000000000000000

def leadingBit : Nat := 0x10000000000000

/-- The positive number that a double holds beside its sign, unless it is zero. -/
def magnitude? (x : Float) : Option Binary :=
  let bits := x.toBits.toNat % signBit
  let fraction := bits % leadingBit
  let biased := bits / leadingBit
  if bits = 0 then none
  else if biased = 0 then some ⟨fraction, -1074, false⟩
  else some ⟨leadingBit + fraction, (biased : Int) - 1075, fraction = 0 && 1 < biased⟩

def isNegative (x : Float) : Bool :=
  signBit ≤ x.toBits.toNat

/-- The digits of a decimal without zeros at the end, and the exponent of the first digit. -/
def Scientific.normal (x : Scientific) : List Char × Int :=
  let all := Nat.toDigits 10 x.digits
  let digits := (all.reverse.dropWhile (· == '0')).reverse
  (digits, x.exponent + all.length - 1)

def exponentText (exponent : Int) : List Char :=
  let sign := if exponent < 0 then '-' else '+'
  'e' :: sign :: Nat.toDigits 10 exponent.natAbs

/--
Positional from `0.00001` to below `10 ^ 16`, with at least one digit after the
point; otherwise one digit before the point and an exponent.
-/
def Scientific.text (x : Scientific) : List Char :=
  let (digits, exponent) := x.normal
  if exponent < -5 ∨ 15 < exponent then
    let point := if digits.length ≤ 1 then [] else '.' :: digits.drop 1
    digits.take 1 ++ point ++ exponentText exponent
  else if exponent < 0 then
    '0' :: '.' :: List.replicate (exponent.natAbs - 1) '0' ++ digits
  else
    let whole := exponent.toNat + 1
    let zeros := List.replicate (whole - digits.length) '0'
    let fraction := if digits.length ≤ whole then ['0'] else digits.drop whole
    digits.take whole ++ zeros ++ '.' :: fraction

def floatText (x : Float) : String :=
  let sign := if isNegative x then ['-'] else []
  match magnitude? x with
  | none => String.ofList (sign ++ "0.0".toList)
  | some magnitude => String.ofList (sign ++ magnitude.shortest.text)

end Entitlements.Decimal
