import Entitlements.Proofs.Pattern.Compiled

/-!
# Samples

A pattern matches its own text without the stars, and that text is always small
enough to be a pattern itself.
-/

namespace Entitlements.Pattern

section

variable {c : Char} {count : Nat} {text : List Char}

def plain (text : List Char) : List Char :=
  text.filter fun c => c != '*'

theorem plain_cons (hc : c ≠ '*') : plain (c :: text) = c :: plain text :=
  List.filter_cons_of_pos (by simpa using hc)

@[simp] theorem plain_replicate_append :
    plain (List.replicate count '*' ++ text) = plain text := by
  simp [plain]

@[simp] theorem plain_replicate : plain (List.replicate count '*') = [] := by
  simp [plain]

theorem eq_replicate_of_plain_eq_nil (h : plain text = []) :
    text = List.replicate text.length '*' := by
  rw [List.eq_replicate_iff]
  refine ⟨rfl, fun c hc => ?_⟩
  simpa using List.filter_eq_nil_iff.1 h c hc

/-- A star takes nothing, and so does a globstar up to its delimiter. -/
theorem fits_plain (before : Option Char) (pattern : List Char) :
    Fits (elementsAfter before pattern) (plain pattern) := by
  induction before, pattern using pattern_induction with
  | empty before =>
      exact .nil
  | literal before c pattern hc hparent ih =>
      rw [elementsAfter_literal hc hparent, plain_cons hc, fits_literal_iff]
      exact ⟨plain pattern, rfl, ih⟩
  | wildcard before count pattern hcount hmaximal hglobstar ih =>
      have htakes : Element.wildcard.Takes [] (plain pattern) := inSegment_nil
      rw [elementsAfter_wildcard hcount hmaximal hglobstar, plain_replicate_append]
      exact .cons htakes ih
  | globstar before count d pattern hglobstar ih =>
      have hd := ne_star_of_isDelimiter hglobstar.2.2
      have htakes : Element.globstar.Takes [d] (plain pattern) :=
        .inr (.inl ⟨[], d, hglobstar.2.2, rfl⟩)
      rw [elementsAfter_globstar hglobstar, plain_replicate_append, plain_cons hd]
      exact .cons htakes ih
  | everything before count hglobstar =>
      rw [elementsAfter_everything hglobstar]
      exact fits_everything
  | parent before count d hglobstar =>
      have hd := ne_star_of_isDelimiter hglobstar.2.1
      rw [elementsAfter_parent hglobstar, plain_cons hd, plain_replicate, fits_below_iff]
      exact .inr ⟨[], rfl⟩

theorem fits_replicate (count : Nat) :
    Fits (elementsAfter none (List.replicate count '*')) (List.replicate count '*') := by
  match count with
  | 0 =>
      exact .nil
  | 1 =>
      have htakes : Element.wildcard.Takes ['*'] [] :=
        (inSegment_cons_iff '*' []).2 ⟨rfl, by simp, inSegment_nil⟩
      exact .cons htakes .nil
  | count + 2 =>
      have hglobstar : IsGlobstar none (count + 2) none := ⟨by omega, rfl, rfl⟩
      rw [elementsAfter_everything hglobstar]
      exact fits_everything

end

end Entitlements.Pattern

namespace Entitlements.Matcher

open Pattern

/-- Every pattern but the empty one matches some identifier that is a pattern itself. -/
theorem exists_match [SizeLimit] {pattern : String} {matcher : Matcher}
    (h : compile? pattern = some matcher) (hpattern : pattern ≠ "") :
    ∃ candidate, candidate ≠ "" ∧ compile? candidate = some (ofPattern candidate) ∧
      matcher.isMatch candidate = true := by
  have hadmits := admits_of_compile h
  by_cases hstars : plain pattern.toList = []
  · -- Nothing would be left of a run of stars, but it takes itself.
    refine ⟨pattern, hpattern, compile?_ofPattern hadmits, ?_⟩
    rw [isMatch_iff_fits_of_compile h, eq_replicate_of_plain_eq_nil hstars]
    exact fits_replicate _
  · refine ⟨String.ofList (plain pattern.toList), ?_,
      compile?_ofList (SizeLimit.admits_plain hadmits), ?_⟩
    · simpa using hstars
    · rw [isMatch_iff_fits_of_compile h, String.toList_ofList]
      exact fits_plain none pattern.toList

end Entitlements.Matcher
