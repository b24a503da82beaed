import Entitlements.Pattern.Symbol

/-!
# Elements of a pattern

A pattern is a row of elements. A star stays inside one segment; two or more
stars that form a whole segment stand for any number of segments.
-/

namespace Entitlements.Pattern

/-- What a pattern asks for at one place of an identifier. -/
inductive Element where
  | literal (c : Char)
  /-- Anything inside one segment that has no two stars in a row. -/
  | wildcard
  /-- Any number of whole segments, each with the delimiter after it or reaching the end. -/
  | globstar
  /-- Everything up to the end. -/
  | everything
  /-- Nothing, or the delimiter and everything after it. -/
  | below (delimiter : Char)
deriving DecidableEq, Repr

namespace Element

/--
The elements of a row of symbols. A globstar takes the delimiter that follows
it; at the end of the pattern it joins a delimiter that no earlier globstar took.
`bound` says that the symbols follow a delimiter or nothing.
-/
def ofSymbols (bound : Bool) : List Symbol → List Element
  | [] => []
  | .char c :: rest =>
      if isDelimiter c && Symbol.isFinalGlobstar rest then [.below c]
      else .literal c :: ofSymbols (isDelimiter c) rest
  | .stars count :: rest =>
      if bound && 2 ≤ count && Symbol.boundAhead rest then
        match rest with
        | [] => [.everything]
        | _ :: after => .globstar :: ofSymbols true after
      else .wildcard :: ofSymbols false rest

def ofText (text : List Char) : List Element :=
  ofSymbols true (Symbol.ofText text)

example : ofText "article/**".toList = "article".toList.map .literal ++ [.below '/'] := by
  decide

example : ofText "**/a*".toList = [.globstar, .literal 'a', .wildcard] := by
  decide

example : ofText "**/**".toList = [.globstar, .everything] := by
  decide

end Element

end Entitlements.Pattern
