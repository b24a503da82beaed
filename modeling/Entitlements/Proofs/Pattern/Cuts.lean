import Entitlements.Pattern.RunLimit
import Entitlements.Proofs.Pattern.Compiled
import Entitlements.Proofs.Pattern.Syntax

/-!
# Cuts

A pattern text cuts a candidate: reading the pattern from left to right, each of
its characters and maximal star runs takes the next stretch of the candidate. The
main statement is that a compiled pattern matches exactly the candidates that its
text cuts to the end.
-/

namespace Entitlements.Pattern

/--
The pattern cuts the candidate to its end; `before` is the character of the
pattern in front, if there is one. A delimiter that a globstar takes is never the
`d` of the rule `parent`, because the rule `globstar` leaves it behind.
-/
inductive Cuts : Option Char → List Char → List Char → Prop
  | empty {before : Option Char} : Cuts before [] []
  | literal {before : Option Char} {c : Char} {pattern candidate : List Char} :
      c ≠ '*' → Cuts (some c) pattern candidate → Cuts before (c :: pattern) (c :: candidate)
  | wildcard {before : Option Char} {count : Nat} {pattern stretch candidate : List Char} :
      0 < count → pattern.head? ≠ some '*' → ¬ IsGlobstar before count pattern.head? →
      InSegment stretch → Cuts (some '*') pattern candidate →
      Cuts before (List.replicate count '*' ++ pattern) (stretch ++ candidate)
  | globstar {before : Option Char} {count : Nat} {d : Char}
      {pattern stretch candidate : List Char} :
      IsGlobstar before count (some d) → WholeSegments stretch candidate →
      Cuts (some d) pattern candidate →
      Cuts before (List.replicate count '*' ++ d :: pattern) (stretch ++ candidate)
  | everything {before : Option Char} {count : Nat} {stretch : List Char} :
      IsGlobstar before count none → Cuts before (List.replicate count '*') stretch
  | parent {before : Option Char} {count : Nat} {d : Char} :
      IsGlobstar (some d) count none → Cuts before (d :: List.replicate count '*') []

theorem Cuts.fits {before : Option Char} {pattern candidate : List Char}
    (h : Cuts before pattern candidate) : Fits (elementsAfter before pattern) candidate := by
  induction h with
  | empty =>
      exact .nil
  | @literal before c pattern candidate hc _ ih =>
      rcases elementsAfter_cons_cases before pattern hc with ⟨count, rfl, hglobstar⟩ | hliteral
      · rw [elementsAfter_parent hglobstar]
        exact fits_below_iff.2 (.inr ⟨candidate, rfl⟩)
      · rw [hliteral]
        exact fits_literal_iff.2 ⟨candidate, rfl, ih⟩
  | wildcard hcount hmaximal hglobstar hstretch _ ih =>
      rw [elementsAfter_wildcard hcount hmaximal hglobstar]
      exact .cons hstretch ih
  | globstar hglobstar hstretch _ ih =>
      rw [elementsAfter_globstar hglobstar]
      exact .cons hstretch ih
  | everything hglobstar =>
      rw [elementsAfter_everything hglobstar]
      exact fits_everything
  | parent hglobstar =>
      rw [elementsAfter_parent hglobstar]
      exact fits_below_iff.2 (.inl rfl)

theorem Cuts.of_fits {before : Option Char} {pattern candidate : List Char}
    (h : Fits (elementsAfter before pattern) candidate) : Cuts before pattern candidate := by
  induction before, pattern using pattern_induction generalizing candidate with
  | empty before =>
      rw [elementsAfter_nil, fits_nil_iff] at h
      rw [h]
      exact .empty
  | literal before c pattern hc hparent ih =>
      rw [elementsAfter_literal hc hparent, fits_literal_iff] at h
      obtain ⟨rest, rfl, hrest⟩ := h
      exact .literal hc (ih hrest)
  | wildcard before count pattern hcount hmaximal hglobstar ih =>
      rw [elementsAfter_wildcard hcount hmaximal hglobstar, fits_cons_iff] at h
      obtain ⟨stretch, rest, rfl, hstretch, hrest⟩ := h
      exact .wildcard hcount hmaximal hglobstar hstretch (ih hrest)
  | globstar before count d pattern hglobstar ih =>
      rw [elementsAfter_globstar hglobstar, fits_cons_iff] at h
      obtain ⟨stretch, rest, rfl, hstretch, hrest⟩ := h
      exact .globstar hglobstar hstretch (ih hrest)
  | everything before count hglobstar =>
      exact .everything hglobstar
  | parent before count d hglobstar =>
      rw [elementsAfter_parent hglobstar, fits_below_iff] at h
      rcases h with rfl | ⟨after, rfl⟩
      · exact .parent hglobstar
      · -- The delimiter is there, and the run behind it takes what follows.
        have hrest : Cuts (some d) (List.replicate count '*') after := .everything hglobstar
        exact .literal (ne_star_of_isDelimiter hglobstar.2.1) hrest

theorem fits_elementsAfter_iff_cuts {before : Option Char} {pattern candidate : List Char} :
    Fits (elementsAfter before pattern) candidate ↔ Cuts before pattern candidate :=
  ⟨Cuts.of_fits, Cuts.fits⟩

end Entitlements.Pattern

namespace Entitlements.Matcher

/--
A compiled pattern matches the candidates that its text cuts to the end. They are
also the candidates in which the expression that it is shown as is found, whether the
expression is taken as it is built from the elements or read back from its text.
-/
theorem isMatch_iff_cuts [SizeLimit] {pattern : String} {matcher : Matcher}
    (h : compile? pattern = some matcher) (candidate : String) :
    (matcher.isMatch candidate = true ↔
        Pattern.Cuts none pattern.toList candidate.toList) ∧
      String.ofList (Pattern.regexOf matcher.elements).text = matcher.expression ∧
      Pattern.Regex.read? matcher.expression.toList = some (Pattern.regexOf matcher.elements) ∧
      (matcher.isMatch candidate = true ↔
        (Pattern.regexOf matcher.elements).FoundIn candidate.toList) := by
  refine ⟨?_, Pattern.text_regexOf matcher.elements, ?_, ?_⟩
  · rw [isMatch_iff_fits_of_compile h]
    exact Pattern.fits_elementsAfter_iff_cuts
  · rw [expression, ← Pattern.text_regexOf, String.toList_ofList]
    exact Pattern.Regex.read?_regexOf matcher.elements
  · rw [isMatch_iff_fits, Pattern.foundIn_regexOf_iff]

/-- A globstar takes its delimiter away from the one behind it, which has no parent then. -/
theorem isMatch_iff_cuts_adjacent_globstars :
    compile? "a/**/**" = some (ofPattern "a/**/**") ∧
      ((ofPattern "a/**/**").isMatch "a" = true ↔
          Pattern.Cuts none "a/**/**".toList "a".toList) ∧
        String.ofList (Pattern.regexOf (ofPattern "a/**/**").elements).text =
          (ofPattern "a/**/**").expression ∧
        Pattern.Regex.read? (ofPattern "a/**/**").expression.toList =
          some (Pattern.regexOf (ofPattern "a/**/**").elements) ∧
        ((ofPattern "a/**/**").isMatch "a" = true ↔
          (Pattern.regexOf (ofPattern "a/**/**").elements).FoundIn "a".toList) := by
  have hcompile : compile? "a/**/**" = some (ofPattern "a/**/**") :=
    compile?_ofPattern (by decide +kernel)
  exact ⟨hcompile, isMatch_iff_cuts hcompile "a"⟩

end Entitlements.Matcher
