import Entitlements.Pattern.Expression
import Entitlements.Pattern.Matching
import Entitlements.Pattern.SizeLimit

/-!
# Compiled patterns

A matcher keeps a pattern text together with its elements.
-/

namespace Entitlements

structure Matcher where
  pattern : String
  elements : List Pattern.Element
deriving Repr

/-- Matchers are compared by the text they were compiled from. -/
instance : BEq Matcher where
  beq first second := first.pattern == second.pattern

namespace Matcher

def ofPattern (pattern : String) : Matcher where
  pattern := pattern
  elements := Pattern.Element.ofText pattern.toList

def compile? [SizeLimit] (pattern : String) : Option Matcher :=
  if SizeLimit.admits pattern.toList then some (ofPattern pattern) else none

theorem compile?_eq_some_iff [SizeLimit] (pattern : String) (matcher : Matcher) :
    compile? pattern = some matcher ↔
      SizeLimit.admits pattern.toList = true ∧ matcher = ofPattern pattern := by
  unfold compile?
  cases SizeLimit.admits pattern.toList with
  | true =>
      simp [eq_comm]
  | false =>
      simp

def expression (matcher : Matcher) : String :=
  Pattern.expression matcher.elements

def isMatch (matcher : Matcher) (candidate : String) : Bool :=
  Pattern.isMatch matcher.elements candidate.toList

end Matcher

end Entitlements
