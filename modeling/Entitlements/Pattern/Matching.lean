import Entitlements.Pattern.Element

/-!
# Matching

An element is read as a small automaton with two phases. The literals in front
of a pattern are compared one by one; each later element sweeps along the rest of
the candidate once. From the marks on the places where the elements before it may
end, a sweep computes the marks on the places where it may end itself, so the
work is at most the product of the two lengths.
-/

namespace Entitlements.Pattern

inductive Phase where
  | outer
  | inner
deriving DecidableEq, Repr

namespace Element

/--
The phases after one more character. A wildcard is inner just after a star, a
globstar inside a segment, the others once their first character is taken.
-/
def moves : Element → Phase → Char → Phase → Bool
  | .literal l, .outer, c, .inner => c == l
  | .wildcard, .outer, c, .inner => c == '*'
  | .wildcard, _, c, .outer => !isDelimiter c && c != '*'
  | .globstar, _, c, .outer => isDelimiter c
  | .globstar, _, c, .inner => !isDelimiter c
  | .everything, .outer, _, .outer => true
  | .below d, .outer, c, .inner => c == d
  | .below _, .inner, _, .inner => true
  | _, _, _, _ => false

/-- Whether the stretch may end here; `atEnd` says that the candidate does. -/
def ends (atEnd : Bool) : Element → Phase → Bool
  | .literal _, .outer => false
  | .globstar, .inner => atEnd
  | _, _ => true

/-- Whether one of the phases that hold allows what `p` asks of a phase. -/
def inPhase (outer inner : Bool) (p : Phase → Bool) : Bool :=
  outer && p .outer || inner && p .inner

/--
Carries marks over one element. The marks belong to the places before each
character and at the end; `outer` and `inner` tell the phases of stretches that
are under way.
-/
def sweep (e : Element) (outer inner : Bool) : List Char → List Bool → List Bool
  | [], marks =>
      let outer := outer || marks.headD false
      [inPhase outer inner (e.ends true)]
  | c :: rest, marks =>
      let outer := outer || marks.headD false
      inPhase outer inner (e.ends false) ::
        sweep e
          (inPhase outer inner fun phase => e.moves phase c .outer)
          (inPhase outer inner fun phase => e.moves phase c .inner)
          rest marks.tail

end Element

/-- Whether marks can be carried over all elements from the start of the candidate to its end. -/
def reachesEnd (elements : List Element) (candidate : List Char) : Bool :=
  let marks := elements.foldl (fun marks e => e.sweep false false candidate marks) [true]
  marks.getD candidate.length false

def isMatch : List Element → List Char → Bool
  | .literal _ :: _, [] => false
  | .literal l :: later, c :: rest => c == l && isMatch later rest
  | elements, candidate => reachesEnd elements candidate

example : isMatch (Element.ofText "article/**".toList) "article".toList = true := by decide +kernel

example : isMatch (Element.ofText "article/*".toList) "article/**".toList = false := by
  decide +kernel

end Entitlements.Pattern
