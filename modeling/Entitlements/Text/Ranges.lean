/-!
# Ranges of characters

A set of characters is written as the ranges of its code points, in ascending
order and apart from each other.
-/

namespace Entitlements.Text

/-- Ranges of code points, each with its first and its last. -/
abbrev Ranges := List (Nat × Nat)

namespace Ranges

/-- Whether a range holds the code point; ascending ranges beyond it are left out. -/
def holds : Ranges → Nat → Bool
  | [], _ => false
  | (first, last) :: rest, point =>
      first ≤ point && (point ≤ last || holds rest point)

end Ranges

end Entitlements.Text
