import Entitlements.Pattern.Symbol

/-!
# Size limits

The engine behind the patterns refuses a pattern that is too large for it. How it
measures a pattern is its own matter, and nothing here relies on more than a few laws.
-/

namespace Entitlements

/-- Which pattern texts are small enough to compile. -/
class SizeLimit where
  admits : List Char → Bool
  /-- Both sides of a delimiter are smaller than the whole. -/
  admits_sides {front back : List Char} {d : Char} : Pattern.isDelimiter d = true →
    admits (front ++ d :: back) = true → admits front = true ∧ admits back = true
  /-- A text is smaller without its stars. -/
  admits_plain {text : List Char} : admits text = true →
    admits (text.filter fun c => c != '*') = true

end Entitlements
